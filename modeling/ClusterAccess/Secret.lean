import ClusterAccess.Text.Quoted
import ClusterAccess.Text.Utf8

/-!
# Secrets

## Main definitions

* `Secret`: a text that no description shows.
* `Secret.expose`: the text itself.
* `Secret.describe`: the same description for every secret.
-/
namespace ClusterAccess

structure Secret where
  /-- Hides a text. -/
  ofString ::
  /-- The hidden text. -/
  expose : String
  deriving DecidableEq

namespace Secret

/-- The length of the hidden text in bytes. -/
def size (s : Secret) : Nat := Text.utf8Length s.expose

def isEmpty (s : Secret) : Bool := s.expose.isEmpty

def describe (_ : Secret) : String :=
  Text.record "SecretString" [("value", Text.quoted "[REDACTED]")]

theorem describe_eq_describe (s t : Secret) : s.describe = t.describe := rfl

end Secret
end ClusterAccess
