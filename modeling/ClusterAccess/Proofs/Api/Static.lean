import ClusterAccess.Proofs.Api.Lasting
import ClusterAccess.Proofs.Api.Notes

/-!
# Clients without tokens

A client with a token of its own, or with a key, never asks for a token, never looks at the clock,
and keeps nothing from one call to the next.

## Main definitions

* `Note.IsOfInterface`: notes of requests to the interface and of digests.
* `Static`: between two sessions no others were taken, and no token was kept.

## Main statements

* `Client.converse_static`: calls of such a client.
-/
namespace ClusterAccess.Api

open Http

variable {σ : Type}

/-- Requests for tokens accept other media types, and the clock is read for tokens only. -/
def Note.IsOfInterface : Note → Prop
  | sent r _ => r.accept = versionedJson
  | read _ => False
  | drew _ => True

/-- What happened between two sessions has nothing to do with tokens. -/
def Static (s s' : Session (σ × List Note)) : Prop :=
  ∃ notes, s'.world.2 = s.world.2 ++ notes ∧ (∀ note ∈ notes, note.IsOfInterface) ∧
    (s.issued = none → s'.issued = none)

theorem Static.lasting : Lasting (Static (σ := σ)) where
  refl s := ⟨[], by rw [List.append_nil], by simp, id⟩
  trans := by
    rintro s₁ s₂ s₃ ⟨notes, added, ofInterface, issued⟩ ⟨notes', added', ofInterface', issued'⟩
    refine ⟨notes ++ notes', by rw [added', added, List.append_assoc], ?_, issued' ∘ issued⟩
    intro note mem
    rcases List.mem_append.mp mem with mem | mem
    · exact ofInterface note mem
    · exact ofInterface' note mem

namespace Client

variable {c : Client σ}

theorem fetch_static {r : Request} (accept : r.accept = versionedJson) :
    (c.noted.fetch r).Keeps Static := by
  intro s
  obtain ⟨hops, outcome, world, trail, fetched⟩ := c.fetch_trail r s
  rw [fetched]
  refine ⟨Note.ofHops hops, rfl, ?_, id⟩
  intro note mem
  obtain ⟨hop, sent, rfl⟩ := List.mem_map.mp mem
  exact (trail.keeps hop sent).2.trans accept

theorem credentials_static (auth : ∀ id secret, c.auth ≠ .serviceAccount id secret) :
    c.noted.credentials.Keeps Static := by
  unfold credentials
  rw [show c.noted.auth = c.auth from rfl]
  cases h : c.auth with
  | bearer token => exact Static.lasting.pure _
  | apiKey username password => exact Static.lasting.pure _
  | serviceAccount id secret => exact absurd h (auth id secret)

theorem static_allows (auth : ∀ id secret, c.auth ≠ .serviceAccount id secret) :
    c.noted.Allows Static (·.accept = versionedJson) where
  toLasting := Static.lasting
  credentials := credentials_static auth
  fetch := fetch_static
  nonce s := ⟨[.drew (c.web.nonce s.world.1).1], rfl, by simp [Note.IsOfInterface], id⟩
  forget s := ⟨[], by rw [List.append_nil]; rfl, by simp, fun _ => rfl⟩

/-- Calls one after the other of a client without tokens. -/
theorem converse_static (auth : ∀ id secret, c.auth ≠ .serviceAccount id secret)
    (calls : List Call) (s : Session (σ × List Note)) :
    Static s (c.noted.converse calls s).2 :=
  (static_allows auth).converse s fun _ _ _ _ _ _ _ _ => rfl

end Client
end ClusterAccess.Api
