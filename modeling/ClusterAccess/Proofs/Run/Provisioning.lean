import ClusterAccess.Proofs.Run.Awaiting

/-!
# Provisioning as a derivation

Provisioning either stops after the password and the identifier were drawn, without an account, or
goes on to ask the control plane for one.

## Main definitions

* `Provisioned`: both ways, each with its reply and the run it leaves behind.

## Main statements

* `Services.provision_provisioned`: provisioning goes one of these ways.
* `Provisioned.owner`: a credential that comes of it belongs to the project.
-/
namespace ClusterAccess

open Time

variable {σ C : Type}

/-- Provisioning, from a run to its reply and the run in which that is awaited. -/
inductive Provisioned (s : Services σ C) (settings : AccountSettings) (project : String)
    (r : Run σ C) : Reply (Outcome Credential) → Run σ C → Prop
  | early {o₁ : Outcome AccountOrder} {o : Outcome Credential} {world : σ}
      (drawn : s.order settings project r.world = (o₁, world)) (passedOn : o₁.PassedOn o) :
      Provisioned s settings project r (.after 0 o)
        (r.begun (.password settings.passwordPolicy) world)
  | asked {order : AccountOrder} {world : σ}
      (drawn : s.order settings project r.world = (.ok order, world)) :
      Provisioned s settings project r
        ((s.createAccount project order.request world).1.map (order.credential project))
        ((r.begun (.password settings.passwordPolicy) world).begun
          (.createAccount project order.request) (s.createAccount project order.request world).2)

theorem Services.provision_provisioned (s : Services σ C) (settings : AccountSettings)
    (project : String) (r : Run σ C) :
    Provisioned s settings project r (s.provision settings project r).1
      (s.provision settings project r).2 := by
  rcases h : s.order settings project r.world with ⟨_ | _ | _ | _, world⟩ <;>
    simp only [provision, Task.begin, h]
  · exact .asked h
  all_goals exact .early h (by constructor)

namespace Provisioned

variable {s : Services σ C} {settings : AccountSettings} {project : String} {r started : Run σ C}
  {reply : Reply (Outcome Credential)}

theorem now_eq (h : Provisioned s settings project r reply started) : started.now = r.now := by
  cases h <;> rfl

theorem events_eq (h : Provisioned s settings project r reply started) :
    started.events = r.events := by
  cases h <;> rfl

/-- A credential that comes of provisioning belongs to the project. -/
theorem owner (h : Provisioned s settings project r reply started) {d : Nat} {c : Credential}
    (answer : reply = .after d (.ok c)) : c.owner = project := by
  cases h with
  | early drawn passedOn =>
    cases answer
    cases passedOn
  | asked =>
    obtain ⟨account, -, hc⟩ := Reply.map_eq_after.mp answer
    cases account <;> simp only [AccountOrder.credential, Outcome.handle, reduceCtorEq] at hc
    cases hc
    rfl

end Provisioned
end ClusterAccess
