import ClusterAccess.Services

/-!
# Services that follow a script

For trying out a pool without a network: each call is answered as a script says, and where it says
nothing the call succeeds at once.

## Main definitions

* `Cue`: how one call is answered.
* `Script`: cues by key.
* `Stage`: what has been called so far.
* `Rehearsal.services`: services that follow scripts.
-/
namespace ClusterAccess

open Time

structure Cue where
  silent : Bool := false
  delay : Nat := 0
  error : Option AccessError := none
  /-- What the control plane answers in place of what was asked for. -/
  username : Option String := none
  project : Option String := none
  strings : Option PublishedStrings := none

def Cue.reply (c : Cue) (value : α) : Reply (Except AccessError α) :=
  if c.silent then .never
  else .after c.delay (match c.error with
    | some e => .error e
    | none => .ok value)

/-- Cues by key; the key `*` stands for all others. -/
structure Script where
  cues : List (String × Cue) := []

def Script.cue (s : Script) (key : String) : Cue :=
  ((s.cues.lookup key).or (s.cues.lookup "*")).getD {}

/-- Where passwords come from. -/
inductive PasswordSource where
  | fixed (password : Secret)
  | failing (error : AccessError)
  | random

/-- How often each service was called, and the random bytes that are left. -/
structure Stage where
  accounts : Nat := 0
  lookups : Nat := 0
  connections : Nat := 0
  entropy : Entropy := []

structure Rehearsal where
  passwords : PasswordSource := .random
  /-- The identifier for the account of the given number. -/
  identifiers : Nat → String
  clock : Timestamp
  accounts : Script := {}
  lookups : Script := {}
  connects : Script := {}
  pings : Script := {}
  disconnects : Script := {}

namespace Rehearsal

/-- The connection strings of a cluster for which the script has none. -/
def usualStrings (cluster : String) : PublishedStrings :=
  { standard := some s!"mongodb://{cluster}-00:27017,{cluster}-01:27017" }

/-- Accounts, look-ups and connections are cued by their number, pings and disconnects by the number
of the connection. -/
def services (r : Rehearsal) : Services Stage Nat where
  password policy stage := match r.passwords with
    | .fixed s => (.ok s, stage)
    | .failing e => (.failed e, stage)
    | .random =>
      let (password, entropy) := policy.generate stage.entropy
      (password, { stage with entropy })
  identifier _ stage := (.ok (r.identifiers (stage.accounts + 1)), stage)
  clock _ := r.clock
  createAccount project request stage :=
    let n := stage.accounts + 1
    let cue := r.accounts.cue (toString n)
    let account := request.fulfilled (cue.project.getD project)
    let account := { account with username := cue.username.getD account.username }
    ((cue.reply account).map .ofExcept, { stage with accounts := n })
  clusterInfo project cluster stage :=
    let n := stage.lookups + 1
    let cue := r.lookups.cue (toString n)
    let info : ClusterInfo := ⟨cluster, project, cue.strings.getD (usualStrings cluster)⟩
    ((cue.reply info).map .ofExcept, { stage with lookups := n })
  connect _ _ _ stage :=
    let n := stage.connections + 1
    ((r.connects.cue (toString n)).reply n, { stage with connections := n })
  ping c stage := ((r.pings.cue (toString c)).reply (), stage)
  disconnect c stage := ((r.disconnects.cue (toString c)).reply (), stage)

end Rehearsal
end ClusterAccess
