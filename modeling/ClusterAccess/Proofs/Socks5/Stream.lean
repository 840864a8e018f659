import ClusterAccess.Socks5.Conversation

/-!
# Conversations over streams that accept everything

How many bytes a stream delivers or accepts at a time makes no difference to a conversation: over a
stream that never refuses to be written to, it goes as if all bytes of the other side lay there from
the beginning.

## Main definitions

* `Channel.Wrote`: the two ways in which writing can end.
* `Conversation.hear`: a conversation with a peer of whom all bytes are known.

## Main statements

* `Channel.readExactly_eq`, `Channel.writeAll_wrote`: reading and writing without regard to pieces.
* `Conversation.run_eq_hear`: a conversation over a stream is what it hears.
-/
namespace ClusterAccess.Socks5

variable {α β : Type}

namespace Channel

theorem limited_pos (limit : Option Nat) {n : Nat} (h : 0 < n) : 0 < limited limit n := by
  unfold limited
  split <;> omega

theorem limited_le (limit : Option Nat) (n : Nat) : limited limit n ≤ n := by
  unfold limited
  split <;> omega

/-- Reading takes the wanted bytes if there are so many, and otherwise all there are. -/
theorem readExactly_eq (s : Channel) (count : Nat) (taken : List UInt8) {fuel : Nat}
    (enough : count < fuel) :
    s.readExactly count taken fuel =
      if count ≤ s.incoming.length then
        (.ok (taken ++ s.incoming.take count), { s with incoming := s.incoming.drop count })
      else (.error s.atEnd, { s with incoming := [] }) := by
  induction fuel generalizing s count taken with
  | zero => omega
  | succ fuel ih =>
    unfold readExactly
    by_cases none : count = 0
    · simp [none]
    by_cases ended : s.incoming = []
    · have nothing : s = { s with incoming := [] } := by rw [← ended]
      simp [none, ended, ← nothing]
    have left : 0 < s.incoming.length := List.length_pos_iff.mpr ended
    -- Every piece has at least one byte, so that the fuel lasts.
    have piece_pos := limited_pos s.chunk (show 0 < min count s.incoming.length by omega)
    have piece_le := limited_le s.chunk (min count s.incoming.length)
    generalize limited s.chunk (min count s.incoming.length) = piece at piece_pos piece_le
    simp only [none, if_false, List.isEmpty_iff, ended]
    rw [ih _ _ _ (by omega)]
    simp only [List.length_drop, List.drop_drop, List.append_assoc]
    by_cases all : count ≤ s.incoming.length
    · rw [if_pos (by omega), if_pos all, ← List.take_add, Nat.add_sub_of_le (by omega)]
    · rw [if_neg (by omega), if_neg all]

/-- A message was accepted, or refused after a part of it because there is a limit. -/
inductive Wrote (s : Channel) (message : List UInt8) : Except IoError Unit × Channel → Prop
  | whole : Wrote s message (.ok (), { s with sent := s.sent ++ message })
  | part {said : List UInt8} {most : Nat} {e : IoError} (within : said <+: message)
      (limit : s.room = some (most, e)) :
      Wrote s message (.error e, { s with sent := s.sent ++ said })

/-- A piece is accepted first, and then the rest. -/
theorem Wrote.after_piece {s : Channel} {message : List UInt8} (piece : Nat)
    {outcome : Except IoError Unit × Channel}
    (h : Wrote { s with sent := s.sent ++ message.take piece } (message.drop piece) outcome) :
    Wrote s message outcome := by
  cases h with
  | whole =>
    simp only [List.append_assoc, List.take_append_drop]
    exact .whole
  | part within limit =>
    have joined := (List.prefix_append_right_inj (message.take piece)).mpr within
    rw [List.take_append_drop] at joined
    rw [List.append_assoc]
    exact .part joined limit

theorem writeAll_wrote (s : Channel) (message : List UInt8) {fuel : Nat}
    (enough : message.length < fuel) : Wrote s message (s.writeAll message fuel) := by
  induction fuel generalizing s message with
  | zero => omega
  | succ fuel ih =>
    unfold writeAll
    by_cases none : message = []
    · subst none
      have nothing : s = { s with sent := s.sent ++ [] } := by simp
      simpa [← nothing] using @Wrote.whole s []
    have left : 0 < message.length := List.length_pos_iff.mpr none
    simp only [List.isEmpty_iff, none, if_false]
    split
    next e full refused =>
      obtain ⟨most, limit⟩ : ∃ most, s.room = some (most, e) := by
        rcases room : s.room with _ | ⟨most, e'⟩ <;> simp_all
      simpa using @Wrote.part s message [] most e List.nil_prefix limit
    next more =>
      refine Wrote.after_piece _ (ih _ _ ?_)
      rw [List.length_drop]
      -- Every piece has at least one byte, so that the fuel lasts.
      refine Nat.lt_of_lt_of_le (Nat.sub_lt left (limited_pos _ ?_)) (Nat.le_of_lt_succ enough)
      rcases room : s.room with _ | ⟨most, e⟩
      · simpa using left
      · have some_free : most - s.sent.length ≠ 0 := fun full =>
          more e (by rw [room]; exact full) (by rw [room])
        dsimp only
        omega

/-- Without a limit everything is accepted. -/
theorem writeAll_eq (s : Channel) (room : s.room = none) (bytes : List UInt8) {fuel : Nat}
    (enough : bytes.length < fuel) :
    s.writeAll bytes fuel = (.ok (), { s with sent := s.sent ++ bytes }) := by
  have wrote := s.writeAll_wrote bytes enough
  generalize s.writeAll bytes fuel = outcome at wrote ⊢
  cases wrote with
  | whole => rfl
  | part _ limit => cases room.symm.trans limit

end Channel

namespace Conversation

/-- The result of a conversation with a peer who says `bytes` and then nothing more, with what is
left of the bytes and what was written to the peer. -/
def hear (atEnd : IoError) :
    Conversation α → List UInt8 → Except IoError α × List UInt8 × List UInt8
  | .done result, bytes => (result, bytes, [])
  | .write out next, bytes =>
    let (result, rest, said) := next.hear atEnd bytes
    (result, rest, out ++ said)
  | .read count next, bytes =>
    if count ≤ bytes.length then (next (bytes.take count)).hear atEnd (bytes.drop count)
    else (.error atEnd, [], [])

theorem hear_andThen (c : Conversation α) (next : α → Conversation β) (atEnd : IoError)
    (bytes : List UInt8) :
    (c.andThen next).hear atEnd bytes =
      match c.hear atEnd bytes with
      | (.ok a, rest, said) =>
        let (result, rest, more) := (next a).hear atEnd rest
        (result, rest, said ++ more)
      | (.error e, rest, said) => (.error e, rest, said) := by
  induction c generalizing bytes with
  | done result => cases result <;> simp [andThen, hear]
  | write out rest ih =>
    simp only [andThen, hear, ih]
    rcases rest.hear atEnd bytes with ⟨_ | _, _, _⟩ <;> simp
  | read count rest ih =>
    simp only [andThen, hear]
    split
    · exact ih _ _
    · rfl

/-- Over a stream that accepts everything, a conversation depends on the bytes that come and on
nothing else. -/
theorem run_eq_hear (c : Conversation α) (s : Channel) (room : s.room = none) :
    c.run s = ((c.hear s.atEnd s.incoming).1,
      { s with incoming := (c.hear s.atEnd s.incoming).2.1,
               sent := s.sent ++ (c.hear s.atEnd s.incoming).2.2 }) := by
  induction c generalizing s with
  | done result => simp [run, hear]
  | write out next ih =>
    rw [run, s.writeAll_eq room out (Nat.lt_succ_self _)]
    simp only [hear]
    rw [ih { s with sent := s.sent ++ out } room]
    simp
  | read count next ih =>
    rw [run, s.readExactly_eq count [] (Nat.lt_succ_self _)]
    by_cases enough : count ≤ s.incoming.length
    · simp only [hear, enough, if_true, List.nil_append]
      exact ih _ { s with incoming := s.incoming.drop count } room
    · simp [hear, enough]

end Conversation
end ClusterAccess.Socks5
