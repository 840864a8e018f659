import ClusterAccess.Proofs.Api.Addressing
import ClusterAccess.Proofs.Api.Rejections

/-!
# What is said of a final response

A request is judged by its final response, if it has one. If that is no success, the server's own
words are passed on. They should be looked for in the detail, the reason and the text, in that
order; but behind an empty detail the reason is overlooked.

## Main definitions

* `ErrorBody.of`, `explanation`: the words of a server, and the one that should be passed on.
* `ErrorBody.heeded`: those that are looked at.
* `Client.Judges`, `Client.Recounts`: what a final response comes to, and what is told of a refusal.

## Main statements

* `Client.refusal_eq`: what is passed on in any case.
* `Client.send_judged`: what becomes of a request.
* `Client.reason_overlooked`: a reason that is lost.
-/
namespace ClusterAccess

theorem Http.reason?_ne_empty {status : Nat} {phrase : String}
    (h : reason? status = some phrase) : phrase ≠ "" := by
  have filled : ∀ entry ∈ reasons, entry.2 ≠ "" := by decide
  obtain ⟨before, after, split, -⟩ := List.lookup_eq_some_iff.mp h
  exact filled (status, phrase) (split ▸ List.mem_append_right before List.mem_cons_self)

namespace Api

open Http

variable {σ α : Type}

/-! ## The words of a server -/

/-- The words in a text, if it has any. -/
def ErrorBody.of (text : String) : ErrorBody := (Json.read ErrorBody.reader text).toOption.getD {}

/-- What should be passed on: the first words that are not empty, or else the usual phrase. -/
def explanation (status : Nat) (body : ErrorBody) (text : String) : String :=
  ([body.detail.getD "", body.reason.getD "", Text.trimmed text].find? (!·.isEmpty)).getD
    ((reason? status).getD "no details")

/-- The words that are looked at. -/
def ErrorBody.heeded (body : ErrorBody) : ErrorBody :=
  if body.detail = some "" then { body with reason := none } else body

theorem explanation_ne_empty (status : Nat) (body : ErrorBody) (text : String) :
    explanation status body text ≠ "" := by
  unfold explanation
  generalize words : [body.detail.getD "", body.reason.getD "", Text.trimmed text] = said
  cases found : said.find? (!·.isEmpty) with
  | some word => simpa using List.find?_some found
  | none =>
    cases usual : reason? status with
    | none => decide
    | some phrase => exact reason?_ne_empty usual

theorem explanation_eq (status : Nat) (body : ErrorBody) (text : String) :
    explanation status body text =
      ((body.detail.filter (!·.isEmpty)).or ((body.reason.filter (!·.isEmpty)).or
        ((some (Text.trimmed text)).filter (!·.isEmpty)))).getD
          ((reason? status).getD "no details") := by
  have words (o : Option String) :
      (some (o.getD "")).filter (!·.isEmpty) = o.filter (!·.isEmpty) := by
    cases o <;> rfl
  have first (word : String) (said : List String) : (word :: said).find? (!·.isEmpty) =
      ((some word).filter (!·.isEmpty)).or (said.find? (!·.isEmpty)) := by
    by_cases empty : word = "" <;> simp [Option.filter, empty]
  rw [explanation, first, first, first, List.find?_nil, Option.or_none, words, words]

/-- Nothing is lost if there is a detail, or no reason. -/
theorem explanation_heeded {body : ErrorBody}
    (heard : body.detail = some "" → body.reason.getD "" = "") (status : Nat) (text : String) :
    explanation status body.heeded text = explanation status body text := by
  unfold ErrorBody.heeded
  split
  next hidden => simp [explanation, heard hidden]
  next => rfl

namespace Client

/-- A detail keeps the reason from being looked at, whether it says something or not. -/
theorem explanation_heeded_eq (status : Nat) (body : ErrorBody) (text : String) :
    explanation status body.heeded text =
      (((body.detail.or body.reason).filter (!·.isEmpty)).or
        ((some (Text.trimmed text)).filter (!·.isEmpty))).getD
          ((reason? status).getD "no details") := by
  rw [explanation_eq]
  rcases body with ⟨_ | detail, code, reason⟩
  · rfl
  · by_cases empty : detail = "" <;> simp [ErrorBody.heeded, empty, Option.filter]

theorem refusal_eq (status : Nat) (text : String) : refusal status text =
    .refused status (ErrorBody.of text).code
      (explanation status (ErrorBody.of text).heeded text) := by
  unfold refusal ErrorBody.of
  cases Json.read ErrorBody.reader text <;>
    exact congrArg (ApiError.refused status _) (explanation_heeded_eq _ _ _).symm

/-- What is told of a response other than success. -/
structure Recounts (response : Response) (e : ApiError) : Prop where
  kind : e.kind = .ofStatus response.status
  outside : e.toAccessError = .controlPlane (some response.status) e.message
  told : ∃ detail, e = .refused response.status (ErrorBody.of response.text).code detail ∧
    detail ≠ "" ∧
    (((ErrorBody.of response.text).detail = some "" →
        (ErrorBody.of response.text).reason.getD "" = "") →
      detail = explanation response.status (ErrorBody.of response.text) response.text) ∧
    ((ErrorBody.of response.text).detail = some "" →
      detail = explanation response.status
        { ErrorBody.of response.text with reason := none } response.text)

theorem refusal_recounts (response : Response) :
    Recounts response (refusal response.status response.text) := by
  rw [refusal_eq]
  refine ⟨rfl, rfl, _, rfl, explanation_ne_empty _ _ _, fun heard => ?_, fun hidden => ?_⟩
  · exact explanation_heeded heard _ _
  · rw [ErrorBody.heeded, if_pos hidden]

/-- What a request comes to by its final response. -/
inductive Judges (reader : Json.Reader α) (response : Response) : Except Failure α → Prop
  | done {a : α} (success : isSuccess response.status = true)
      (read : Json.read reader response.text = .ok a) : Judges reader response (.ok a)
  | unreadable {fault : Json.Fault} (success : isSuccess response.status = true)
      (read : Json.read reader response.text = .error fault) :
      Judges reader response (.error (.error (.json fault)))
  | refused {e : ApiError} (failure : isSuccess response.status = false)
      (recounts : Recounts response e) : Judges reader response (.error (.error e))

theorem verdict_judges (reader : Json.Reader α) (response : Response) :
    Judges reader response ((verdict reader response).mapError .error) := by
  unfold verdict
  cases success : isSuccess response.status with
  | false => exact .refused success (refusal_recounts response)
  | true =>
    cases read : Json.read reader response.text with
    | ok a => exact .done success read
    | error fault => exact .unreadable success read

/-! ## Requests -/

/-- A request is judged by its final response, if it has one. A refusal is told with the status, its
class, the code, and words that are not empty: the detail, the reason or the text, except that an
empty detail hides the reason. Every call consists of such requests. -/
theorem send_judged (c : Client σ) :
    (∀ {α : Type} (reader : Json.Reader α) (r : Except Http.Fault Request) (s : Session σ),
      ∃ messages, (c.send reader r s).2.exchanges = s.exchanges ++ messages ∧
        ((∃ response, lastResponse? messages = some response ∧ c.Judged r response messages ∧
            Judges reader response (c.send reader r s).1) ∨
          ∃ f, c.Unheard r messages f ∧ (∀ e, f = .error e → e.status? = none) ∧
            (c.send reader r s).1 = .error f)) ∧
      ∀ call s, c.Performed call s (c.perform call s).1 (c.perform call s).2 := by
  refine ⟨fun reader r s => ?_, fun call s => perform_performed rfl⟩
  obtain ⟨messages, exchanges, heard⟩ := c.receive_heard r s
  rcases received : c.receive r s with ⟨f | response, s₁⟩ <;> rw [received] at exchanges heard
  · rw [send_failed received]
    refine ⟨messages, exchanges, .inr ⟨f, heard, ?_, rfl⟩⟩
    rintro e rfl
    exact heard.status?_eq_none
  · have judged : c.Judged r response messages := heard
    rw [send_received received]
    exact ⟨messages, (Session.after_exchanges _ _).trans exchanges,
      .inl ⟨response, judged.lastResponse?_eq, judged, verdict_judges reader response⟩⟩

/-- A client whom every server answers with the same response. -/
def answered (response : Response) : Client Unit :=
  { rebuffed (.bearer ⟨"t"⟩) response.status with
    web := { (rebuffed (.bearer ⟨"t"⟩) response.status).web with
      answer := fun _ _ w => (.response response, w) } }

/-- A response with an empty detail and a reason. -/
def undetailed : Response where
  status := 400
  body := Text.utf8Bytes "\x7b\"detail\":\"\",\"reason\":\"r\"\x7d"

/-- The reason should be told, but the whole text is. -/
theorem reason_overlooked :
    ErrorBody.of undetailed.text = { detail := some "", reason := some "r" } ∧
      explanation 400 (ErrorBody.of undetailed.text) undetailed.text = "r" ∧
      Command.told (answered undetailed) = (some
        (ApiError.refused 400 none "\x7b\"detail\":\"\",\"reason\":\"r\"\x7d").toAccessError,
        some undetailed) := by
  decide +kernel

end Client
end Api
end ClusterAccess
