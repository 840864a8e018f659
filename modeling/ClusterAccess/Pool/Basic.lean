import ClusterAccess.Provisioning

/-!
# The connection pool

A pool keeps one credential for each project and one tested connection for each cluster, and makes
either when it is first asked for.

## Main definitions

* `Pool`: what is kept.
* `Pool.credential?`, `Pool.connection?`: what is kept for a project and for a cluster.
* `Pool.size`: how many connections are kept.
-/
namespace ClusterAccess

structure Pool (C : Type) where
  credentials : List (String × Credential) := []
  connections : List (ClusterKey × C) := []
  isClosed : Bool := false

namespace Pool

def credential? (p : Pool C) (project : String) : Option Credential := p.credentials.lookup project

def connection? (p : Pool C) (key : ClusterKey) : Option C := p.connections.lookup key

/-- How many connections are kept. -/
def size (p : Pool C) : Nat := p.connections.length

def putCredential (p : Pool C) (project : String) (c : Credential) : Pool C :=
  { p with credentials := p.credentials ++ [(project, c)] }

def putConnection (p : Pool C) (key : ClusterKey) (c : C) : Pool C :=
  { p with connections := p.connections ++ [(key, c)] }

end Pool
end ClusterAccess
