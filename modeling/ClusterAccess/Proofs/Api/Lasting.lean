import ClusterAccess.Proofs.Api.Calls

/-!
# What lasts over all that a client does

A relation between sessions that is kept by every request of some kind, by signing in and by
forgetting a token is kept by whole calls.

## Main definitions

* `Action.Keeps`: an action that leads to related sessions only.
* `Lasting`: relations that are kept step by step.
* `Client.Allows`: what a client does in single steps keeps a relation.

## Main statements

* `Client.Allows.perform`, `Client.Allows.converse`: so does what it does for calls.
-/
namespace ClusterAccess.Api

open Http

variable {σ α β ε : Type} {R : Session σ → Session σ → Prop}

/-- Whatever comes of an action, the session before and the one after are related. -/
def Action.Keeps (R : Session σ → Session σ → Prop) (t : Action σ α) : Prop := ∀ s, R s (t s).2

theorem Action.Keeps.ite {p : Prop} [Decidable p] {t u : Action σ α} (yes : t.Keeps R)
    (no : u.Keeps R) : Keeps R (if p then t else u) := by
  split
  · exact yes
  · exact no

/-- A relation that holds of each session and itself, and of the ends if it holds of the steps. -/
structure Lasting (R : Session σ → Session σ → Prop) : Prop where
  refl : ∀ s, R s s
  trans : ∀ {s₁ s₂ s₃}, R s₁ s₂ → R s₂ s₃ → R s₁ s₃

namespace Lasting

variable (h : Lasting R)
include h

theorem pure (a : α) : (Pure.pure a : Action σ α).Keeps R := h.refl

theorem fail (e : ApiError) : (.fail e : Action σ α).Keeps R := h.refl

theorem ofExcept (f : ε → ApiError) (o : Except ε α) : (.ofExcept f o : Action σ α).Keeps R := by
  cases o
  · exact h.fail _
  · exact h.pure _

theorem bind {t : Action σ α} {next : α → Action σ β} (first : t.Keeps R)
    (then_ : ∀ a, (next a).Keeps R) : (t >>= next).Keeps R := by
  intro s
  have kept := first s
  rcases result : t s with ⟨f | a, s₁⟩ <;> rw [result] at kept
  · rw [Action.bind_of_error result]
    exact kept
  · rw [Action.bind_of_ok result]
    exact h.trans kept (then_ a s₁)

/-- What is done with a value that may be missing. -/
theorem ofExcept_bind {f : ε → ApiError} {o : Except ε α} {next : α → Action σ β}
    (then_ : ∀ a, o = .ok a → (next a).Keeps R) : (Action.ofExcept f o >>= next).Keeps R := by
  cases o with
  | error e => exact h.fail _
  | ok a => exact then_ a rfl

end Lasting

namespace Client

/-- The steps of a client keep a relation, where requests are of some kind. -/
structure Allows (c : Client σ) (R : Session σ → Session σ → Prop) (P : Request → Prop) : Prop
    extends Lasting R where
  credentials : c.credentials.Keeps R
  fetch : ∀ {r}, P r → (c.fetch r).Keeps R
  nonce : (Action.lift c.web.nonce).Keeps R
  forget : (Action.setIssued none : Action σ Unit).Keeps R

/-- However it is signed in, the request is of some kind. -/
def AnySigned (P : Request → Prop) (r : Request) : Prop :=
  ∀ authorization, P { r with accept := versionedJson, authorization }

namespace Allows

variable {c : Client σ} {P : Request → Prop} (h : c.Allows R P)
include h

theorem fetchWithDigest (username : String) (password : Secret) {r : Request}
    (allowed : AnySigned P r) :
    (c.fetchWithDigest username password { r with accept := versionedJson }).Keeps R := by
  unfold Client.fetchWithDigest
  refine h.bind (h.fetch (allowed r.authorization)) fun first => .ite (h.pure _) ?_
  cases (first.header? "www-authenticate").filter isReadable with
  | none => exact h.fail _
  | some header =>
    dsimp only
    cases Digest.Challenge.parse header with
    | error fault => exact h.fail _
    | ok challenge =>
      exact h.bind h.nonce fun _ => .ite (h.fetch (allowed _)) (h.fail _)

theorem receive {r : Except Http.Fault Request} (allowed : ∀ r', r = .ok r' → AnySigned P r') :
    (c.receive r).Keeps R := by
  unfold Client.receive
  refine h.bind h.credentials fun credentials => ?_
  cases credentials with
  | bearer token =>
    refine h.ofExcept_bind fun r' made => h.fetch ?_
    obtain ⟨r₀, rfl, rfl⟩ := bearing_eq_ok made
    exact allowed r₀ rfl _
  | digest username password =>
    refine h.ofExcept_bind fun r' made => ?_
    cases r with
    | error fault => cases made
    | ok r =>
      cases made
      exact h.fetchWithDigest username password (allowed r rfl)

theorem conclude (reader : Json.Reader α) (response : Response) :
    (conclude (σ := σ) reader response).Keeps R := by
  unfold Client.conclude
  exact .ite (h.ofExcept _ _) (.ite (h.bind h.forget fun _ => h.fail _) (h.fail _))

theorem send (reader : Json.Reader α) {r : Except Http.Fault Request}
    (allowed : ∀ r', r = .ok r' → AnySigned P r') : (c.send reader r).Keeps R := by
  rw [send_eq]
  exact h.bind (h.receive allowed) (h.conclude reader)

variable {call : Call}

theorem course {url : Url} {n : Nat} {s s' : Session σ} {pieces : List call.Piece}
    {f : Option Failure} (allowed : ∀ n r, call.request url n = .ok r → AnySigned P r)
    (course : c.Course call url n s pieces f s') : R s s' := by
  have one {n : Nat} {s s' : Session σ} {o : Except Failure call.Piece}
      (send : c.send call.reader (call.request url n) s = (o, s')) : R s s' := by
    have kept := h.send call.reader (fun r => allowed n r) s
    rwa [send] at kept
  induction course with
  | failed send | ended send | uncounted send => exact one send
  | next send _ ih => exact h.trans (one send) ih

/-- Whole calls keep what single steps keep. -/
theorem perform (allowed : ∀ url n r, c.endpoint call.segments = .ok url →
      call.request url n = .ok r → AnySigned P r) : (c.perform call).Keeps R := by
  intro s
  rcases performed : c.perform call s with ⟨o, s'⟩
  cases perform_performed performed with
  | misplaced => exact h.refl s
  | failed place course => exact h.course (fun n r => allowed _ n r place) course
  | done place course => exact h.course (fun n r => allowed _ n r place) course

theorem converse {calls : List Call} (s : Session σ) (allowed : ∀ call ∈ calls, ∀ url n r,
      c.endpoint call.segments = .ok url → call.request url n = .ok r → AnySigned P r) :
    R s (c.converse calls s).2 := by
  induction calls generalizing s with
  | nil => exact h.refl s
  | cons call calls ih =>
    rw [converse_cons]
    exact h.trans (h.perform (allowed call List.mem_cons_self) s)
      (ih _ fun call mem => allowed call (List.mem_cons_of_mem _ mem))

end Allows
end Client
end ClusterAccess.Api
