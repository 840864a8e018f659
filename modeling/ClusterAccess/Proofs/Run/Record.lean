import ClusterAccess.Proofs.Run.Awaiting

/-!
# Reading the record of a run

What the record of a run says about accounts, dials and connections. Every reading is pinned down by
what a begun call and a noted event add to it, so that proofs never open the record itself.

## Main definitions

* `Run.policies`: the policies for which passwords were asked.
* `Run.creations`: the projects for which accounts were asked.
* `Run.dials`: the targets that were dialed, each with the cluster that was looked up last before.
* `Run.openings`: the connections that the driver handed over, with what they were opened for.
* `Run.passed`, `Run.failed`: the connections that passed and that failed their test.
* `Run.disconnects`: the connections on which disconnect was called.
* `Run.retryWaits`: the attempts after which there was a wait.
* `Grown`: what part of a run adds to the openings, tests and disconnects.
-/
namespace ClusterAccess

variable {σ C : Type}

namespace Call

def policy? : Call C → Option PasswordPolicy
  | password policy => some policy
  | _ => none

def creation? : Call C → Option String
  | createAccount project _ => some project
  | _ => none

def disconnect? : Call C → Option C
  | disconnect c => some c
  | _ => none

/-- Carries on the cluster that was looked up last and the dials so far. -/
def follow : Option ClusterKey × List (Option ClusterKey × Target) → Call C →
    Option ClusterKey × List (Option ClusterKey × Target)
  | (_, dials), clusterInfo project cluster => (some ⟨project, cluster⟩, dials)
  | (last, dials), connect target _ _ => (last, dials ++ [(last, target)])
  | s, _ => s

end Call

namespace Event

def opening? : Event C → Option (ClusterKey × Target × C)
  | dialed key target (.ok c) => some (key, target, c)
  | _ => none

def passed? : Event C → Option C
  | pinged c (.ok ()) => some c
  | _ => none

def failed? : Event C → Option C
  | pinged c (.error _) => some c
  | _ => none

def retryWait? : Event C → Option Nat
  | wait attempt => if attempt = 0 then none else some attempt
  | _ => none

end Event

namespace Run

variable (r : Run σ C)

def policies : List PasswordPolicy := r.calls.filterMap (·.2.policy?)

def creations : List String := r.calls.filterMap (·.2.creation?)

def disconnects : List C := r.calls.filterMap (·.2.disconnect?)

def openings : List (ClusterKey × Target × C) := r.events.filterMap (·.2.opening?)

def passed : List C := r.events.filterMap (·.2.passed?)

/-- A test that is cut short counts as failed. -/
def failed : List C := r.events.filterMap (·.2.failed?)

/-- The attempts after which there was a wait. -/
def retryWaits : List Nat := r.events.filterMap (·.2.retryWait?)

/-- The connections that the driver handed over. -/
def opened : List C := r.openings.map (·.2.2)

def followed : Option ClusterKey × List (Option ClusterKey × Target) :=
  r.calls.foldl (fun s call => call.2.follow s) (none, [])

def lookedUp : Option ClusterKey := r.followed.1

def dials : List (Option ClusterKey × Target) := r.followed.2

/-! ## What calls and events add -/

@[simp] theorem policies_begun (call : Call C) (w : σ) :
    (r.begun call w).policies = r.policies ++ call.policy?.toList := by
  simp [policies, List.filterMap_append, List.filterMap_cons]
  cases call.policy? <;> rfl

@[simp] theorem creations_begun (call : Call C) (w : σ) :
    (r.begun call w).creations = r.creations ++ call.creation?.toList := by
  simp [creations, List.filterMap_append, List.filterMap_cons]
  cases call.creation? <;> rfl

@[simp] theorem disconnects_begun (call : Call C) (w : σ) :
    (r.begun call w).disconnects = r.disconnects ++ call.disconnect?.toList := by
  simp [disconnects, List.filterMap_append, List.filterMap_cons]
  cases call.disconnect? <;> rfl

@[simp] theorem followed_begun (call : Call C) (w : σ) :
    (r.begun call w).followed = call.follow r.followed := by
  simp [followed]

@[simp] theorem openings_begun (call : Call C) (w : σ) : (r.begun call w).openings = r.openings :=
  rfl

@[simp] theorem passed_begun (call : Call C) (w : σ) : (r.begun call w).passed = r.passed := rfl

@[simp] theorem failed_begun (call : Call C) (w : σ) : (r.begun call w).failed = r.failed := rfl

@[simp] theorem retryWaits_begun (call : Call C) (w : σ) :
    (r.begun call w).retryWaits = r.retryWaits := rfl

@[simp] theorem policies_note (e : Event C) : (r.note e).policies = r.policies := rfl

@[simp] theorem creations_note (e : Event C) : (r.note e).creations = r.creations := rfl

@[simp] theorem disconnects_note (e : Event C) : (r.note e).disconnects = r.disconnects := rfl

@[simp] theorem followed_note (e : Event C) : (r.note e).followed = r.followed := rfl

@[simp] theorem openings_note (e : Event C) :
    (r.note e).openings = r.openings ++ e.opening?.toList := by
  simp [openings, List.filterMap_append, List.filterMap_cons]
  cases e.opening? <;> rfl

@[simp] theorem passed_note (e : Event C) : (r.note e).passed = r.passed ++ e.passed?.toList := by
  simp [passed, List.filterMap_append, List.filterMap_cons]
  cases e.passed? <;> rfl

@[simp] theorem failed_note (e : Event C) : (r.note e).failed = r.failed ++ e.failed?.toList := by
  simp [failed, List.filterMap_append, List.filterMap_cons]
  cases e.failed? <;> rfl

@[simp] theorem retryWaits_note (e : Event C) :
    (r.note e).retryWaits = r.retryWaits ++ e.retryWait?.toList := by
  simp [retryWaits, List.filterMap_append, List.filterMap_cons]
  cases e.retryWait? <;> rfl

@[simp] theorem policies_atTime (t : Nat) : (r.atTime t).policies = r.policies := rfl

@[simp] theorem creations_atTime (t : Nat) : (r.atTime t).creations = r.creations := rfl

@[simp] theorem disconnects_atTime (t : Nat) : (r.atTime t).disconnects = r.disconnects := rfl

@[simp] theorem followed_atTime (t : Nat) : (r.atTime t).followed = r.followed := rfl

@[simp] theorem openings_atTime (t : Nat) : (r.atTime t).openings = r.openings := rfl

@[simp] theorem passed_atTime (t : Nat) : (r.atTime t).passed = r.passed := rfl

@[simp] theorem failed_atTime (t : Nat) : (r.atTime t).failed = r.failed := rfl

@[simp] theorem retryWaits_atTime (t : Nat) : (r.atTime t).retryWaits = r.retryWaits := rfl

end Run

/-- From `r` to `r'` accounts were asked for in the projects `asked` and the connections of `opened`
were handed over; those of `kept` passed their test, and those of `lost` failed it and were given
up, all in this order. -/
structure Grown (asked : List String) (opened : List (ClusterKey × Target × C)) (kept lost : List C)
    (r r' : Run σ C) : Prop where
  creations : r'.creations = r.creations ++ asked
  openings : r'.openings = r.openings ++ opened
  passed : r'.passed = r.passed ++ kept
  failed : r'.failed = r.failed ++ lost
  disconnects : r'.disconnects = r.disconnects ++ lost

namespace Grown

variable {asked asked' : List String} {opened opened' : List (ClusterKey × Target × C)}
  {kept kept' lost lost' : List C} {r r₁ r' : Run σ C}

theorem refl (r : Run σ C) : Grown [] [] [] [] r r :=
  ⟨by simp, by simp, by simp, by simp, by simp⟩

theorem trans (h : Grown asked opened kept lost r r₁)
    (h' : Grown asked' opened' kept' lost' r₁ r') :
    Grown (asked ++ asked') (opened ++ opened') (kept ++ kept') (lost ++ lost') r r' where
  creations := by rw [h'.creations, h.creations, List.append_assoc]
  openings := by rw [h'.openings, h.openings, List.append_assoc]
  passed := by rw [h'.passed, h.passed, List.append_assoc]
  failed := by rw [h'.failed, h.failed, List.append_assoc]
  disconnects := by rw [h'.disconnects, h.disconnects, List.append_assoc]

/-- Time passes unseen. -/
theorem atTime (h : Grown asked opened kept lost r r') (t : Nat) :
    Grown asked opened kept lost r (r'.atTime t) :=
  ⟨h.creations, h.openings, h.passed, h.failed, h.disconnects⟩

theorem begun (r : Run σ C) (call : Call C) (w : σ) (h : call.disconnect? = none) :
    Grown call.creation?.toList [] [] [] r (r.begun call w) :=
  ⟨by simp, by simp, by simp, by simp, by simp [h]⟩

theorem note (r : Run σ C) (e : Event C) (h : e.failed? = none) :
    Grown [] e.opening?.toList e.passed?.toList [] r (r.note e) :=
  ⟨by simp, by simp, by simp, by simp [h], by simp⟩

/-- A failed test and the disconnect that follows it go together. -/
theorem givenUp (r : Run σ C) (c : C) (e : AccessError) (w : σ) :
    Grown [] [] [] [c] r ((r.note (.pinged c (.error e))).begun (.disconnect c) w) :=
  ⟨by simp [Call.creation?], by simp [Event.opening?], by simp [Event.passed?],
    by simp [Event.failed?], by simp [Call.disconnect?]⟩

end Grown
end ClusterAccess
