import ClusterAccess.Proofs.Socks5.Stream
import Mathlib.Logic.Relation

/-!
# The order of what is heard and said

A conversation goes on with the bytes that it has heard, so what it says may depend on these and on
nothing that comes later. A rule says which message is due after what has been heard and said. If a
conversation abides by a rule whatever the peer says, then so does every run of it, also over a
stream that accepts only a part of what is written.

## Main definitions

* `Conversation.Step`, `Conversation.Reaches`: a conversation goes on over a stream.
* `Conversation.Abides`: every message is due by a rule, and so is the end.

## Main statements

* `Conversation.Abides.andThen`: one conversation after another abides by a rule.
* `Conversation.Abides.of_reaches`: what is reached in a run abides by the rule as well.
* `Conversation.run_sent`: over any stream, a conversation says the beginning of what it would say
  if everything were accepted.
-/
namespace ClusterAccess.Socks5

variable {α β : Type}

namespace Conversation

/-- Over any stream, a conversation says the beginning of what it would say if everything were
accepted. -/
theorem run_sent (c : Conversation α) (s : Channel) :
    ∃ said, (c.run s).2.sent = s.sent ++ said ∧ said <+: (c.hear s.atEnd s.incoming).2.2 := by
  induction c generalizing s with
  | done result => exact ⟨[], by simp [run], List.nil_prefix⟩
  | write message next ih =>
    have wrote := s.writeAll_wrote message (Nat.lt_succ_self _)
    rw [run]
    generalize s.writeAll message (message.length + 1) = outcome at wrote ⊢
    cases wrote with
    | @part said _ _ within => exact ⟨said, rfl, within.trans (List.prefix_append _ _)⟩
    | whole =>
      obtain ⟨more, sent, within⟩ := ih { s with sent := s.sent ++ message }
      exact ⟨message ++ more, by rw [← List.append_assoc]; exact sent,
        (List.prefix_append_right_inj message).mpr within⟩
  | read count next ih =>
    rw [run, s.readExactly_eq count [] (Nat.lt_succ_self _)]
    by_cases enough : count ≤ s.incoming.length
    · simp only [hear, enough, if_true, List.nil_append]
      exact ih _ { s with incoming := s.incoming.drop count }
    · exact ⟨[], by simp [enough], List.nil_prefix⟩

/-! ## Steps -/

/-- A message is accepted, or bytes are delivered. -/
inductive Step : Conversation α × Channel → Conversation α × Channel → Prop
  | write {message : List UInt8} {next : Conversation α} {s t : Channel}
      (accepted : s.writeAll message (message.length + 1) = (.ok (), t)) :
      Step (.write message next, s) (next, t)
  | read {count : Nat} {next : List UInt8 → Conversation α} {bytes : List UInt8} {s t : Channel}
      (delivered : s.readExactly count [] (count + 1) = (.ok bytes, t)) :
      Step (.read count next, s) (next bytes, t)

def Reaches : Conversation α × Channel → Conversation α × Channel → Prop :=
  Relation.ReflTransGen Step

/-- What is left to do has the outcome of the whole. -/
theorem Step.run_eq {x y : Conversation α × Channel} (h : Step x y) :
    x.1.run x.2 = y.1.run y.2 := by
  cases h with
  | write accepted => rw [run, accepted]
  | read delivered => rw [run, delivered]

theorem Reaches.run_eq {x y : Conversation α × Channel} (h : Reaches x y) :
    x.1.run x.2 = y.1.run y.2 := by
  induction h with
  | refl => rfl
  | tail _ step ih => exact ih.trans step.run_eq

/-! ## Rules -/

/-- Every message is due by a rule after what has been heard and said before it, and so is the end,
whatever the peer says. -/
def Abides (rule : (heard said message : List UInt8) → Prop)
    (atEnd : α → (heard said : List UInt8) → Prop) :
    Conversation α → (heard said : List UInt8) → Prop
  | .done (.ok a), heard, said => atEnd a heard said
  | .done (.error _), _, _ => True
  | .write message next, heard, said =>
    rule heard said message ∧ next.Abides rule atEnd heard (said ++ message)
  | .read count next, heard, said =>
    ∀ bytes : List UInt8, bytes.length = count →
      (next bytes).Abides rule atEnd (heard ++ bytes) said

section

variable {rule : (heard said message : List UInt8) → Prop}
  {atEnd : α → (heard said : List UInt8) → Prop} {atEnd' : β → (heard said : List UInt8) → Prop}

theorem Abides.andThen {c : Conversation α} {next : α → Conversation β} {heard said : List UInt8}
    (h : c.Abides rule atEnd heard said)
    (goesOn : ∀ a heard said, atEnd a heard said → (next a).Abides rule atEnd' heard said) :
    (c.andThen next).Abides rule atEnd' heard said := by
  induction c generalizing heard said with
  | done result =>
    cases result with
    | ok a => exact goesOn a heard said h
    | error e => trivial
  | write message rest ih => exact ⟨h.1, ih h.2⟩
  | read count rest ih => exact fun bytes length => ih bytes (h bytes length)

/-- A conversation in which no message is ever due says nothing. -/
theorem Abides.hear_said_eq_nil {c : Conversation α} {heard said : List UInt8}
    (h : c.Abides (fun _ _ _ => False) atEnd heard said) (ended : IoError) (bytes : List UInt8) :
    (c.hear ended bytes).2.2 = [] := by
  induction c generalizing heard said bytes with
  | done result => rfl
  | write message next ih => exact h.1.elim
  | read count next ih =>
    simp only [hear]
    split
    next enough => exact ih _ (h _ (List.length_take_of_le enough)) _
    next => rfl

/-- What a conversation that began over a stream has come to abides by the rule. -/
structure Underway (rule : (heard said message : List UInt8) → Prop)
    (atEnd : α → (heard said : List UInt8) → Prop) (s : Channel)
    (x : Conversation α × Channel) (heard said : List UInt8) : Prop where
  incoming : s.incoming = heard ++ x.2.incoming
  sent : x.2.sent = s.sent ++ said
  abides : x.1.Abides rule atEnd heard said

theorem Underway.step {s : Channel} {x y : Conversation α × Channel} {heard said : List UInt8}
    (h : Underway rule atEnd s x heard said) (step : Step x y) :
    ∃ heard said, Underway rule atEnd s y heard said := by
  obtain ⟨incoming, sent, abides⟩ := h
  cases step with
  | @write message _ now _ accepted =>
    have wrote := now.writeAll_wrote message (Nat.lt_succ_self _)
    rw [accepted] at wrote
    cases wrote
    exact ⟨heard, said ++ message, incoming, by rw [← List.append_assoc, ← sent], abides.2⟩
  | @read count _ bytes now _ delivered =>
    rw [now.readExactly_eq count [] (Nat.lt_succ_self _)] at delivered
    split at delivered
    next enough =>
      cases delivered
      refine ⟨heard ++ now.incoming.take count, said, ?_, sent, ?_⟩
      · rw [incoming, List.append_assoc, List.take_append_drop]
      · exact abides _ (by simp [enough])
    next => cases delivered

/-- What is reached in a run abides by the rule as well. -/
theorem Abides.of_reaches {c : Conversation α} {s : Channel} (h : c.Abides rule atEnd [] [])
    {x : Conversation α × Channel} (reaches : Reaches (c, s) x) :
    ∃ heard said, Underway rule atEnd s x heard said := by
  induction reaches with
  | refl => exact ⟨[], [], rfl, (List.append_nil _).symm, h⟩
  | tail _ step ih =>
    obtain ⟨heard, said, underway⟩ := ih
    exact underway.step step

end

end Conversation
end ClusterAccess.Socks5
