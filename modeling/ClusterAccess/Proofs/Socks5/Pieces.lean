import ClusterAccess.Proofs.Socks5.Stream
import ClusterAccess.Socks5.Client

/-!
# Conversations over streams of any kind

A stream may deliver and accept bytes in pieces of any sizes, and the sizes may depend on anything
that it knows. A client reads until it has enough and writes until everything is accepted, so the
pieces make no difference to what it says and hears.

## Main definitions

* `Medium`: a stream of any kind, by what one reading and one writing do.
* `Conversation.runOver`: a conversation over such a stream.
* `Medium.Carries`: the stream carries certain bytes, in pieces of some sizes.
* `Channel.medium`: the stream with limits on its pieces, as one of them.
* `Parcels.medium`: the stream whose pieces are given in advance, as another one.
* `Dialogue`: the parts of the exchange with a proxy that a client can be asked for.

## Main statements

* `Channel.medium_carries`, `Parcels.medium_carries`: both carry the bytes that they should.
* `Conversation.run_eq_runOver`: a conversation over a channel is one over a stream of that kind.
* `Medium.Carries.over_heard`: what comes of a conversation, without regard to pieces.
* `Medium.pieces_irrelevant`: two streams with the same bytes cannot be told apart, and one that
  ends accepting bytes has accepted the first of those that the other one has.
-/
namespace ClusterAccess.Socks5

variable {σ τ α : Type}

/-- What writing meets if a stream is ready and still accepts nothing. -/
def nothingAccepted : IoError := ⟨.writeZero, "write zero"⟩

/-- A stream of any kind. -/
structure Medium (σ : Type) where
  /-- Delivers some bytes, and at most so many; none if the stream has ended. -/
  deliver : σ → Nat → Except IoError (List UInt8) × σ
  /-- Accepts some of the bytes from the first on, and says how many. -/
  accept : σ → List UInt8 → Except IoError Nat × σ

namespace Medium

variable (m : Medium σ)

/-- Reads until `count` more bytes have come. -/
def readExactly (x : σ) (count : Nat) (taken : List UInt8) : Except IoError (List UInt8) × σ :=
  if count = 0 then (.ok taken, x)
  else match m.deliver x count with
    | (.error e, x) => (.error e, x)
    | (.ok [], x) => (.error .endOfStream, x)
    | (.ok (b :: piece), x) =>
      readExactly x (count - (b :: piece).length) (taken ++ b :: piece)
termination_by count
decreasing_by simp only [List.length_cons]; omega

/-- Writes until all the bytes have been accepted. -/
def writeAll (x : σ) : List UInt8 → Except IoError Unit × σ
  | [] => (.ok (), x)
  | b :: bytes => match m.accept x (b :: bytes) with
    | (.error e, x) => (.error e, x)
    | (.ok 0, x) => (.error nothingAccepted, x)
    | (.ok (n + 1), x) => writeAll x (bytes.drop n)
termination_by bytes => bytes.length
decreasing_by simp only [List.length_drop, List.length_cons]; omega

variable {m} {x y : σ} {count n : Nat} {taken piece bytes : List UInt8}

/-- A piece that is delivered is followed by what is still wanted. -/
theorem readExactly_of_piece (wanted : 0 < count) (delivered : m.deliver x count = (.ok piece, y))
    (some : 0 < piece.length) :
    m.readExactly x count taken = m.readExactly y (count - piece.length) (taken ++ piece) := by
  rw [readExactly, if_neg (Nat.ne_of_gt wanted), delivered]
  cases piece with
  | nil => cases some
  | cons b piece => rfl

/-- A piece that is accepted is followed by the bytes after it. -/
theorem writeAll_of_piece (accepted : m.accept x bytes = (.ok n, y)) (some : 0 < n)
    (left : bytes ≠ []) : m.writeAll x bytes = m.writeAll y (bytes.drop n) := by
  cases bytes with
  | nil => cases left rfl
  | cons b bytes =>
    cases n with
    | zero => cases some
    | succ n => rw [writeAll, accepted, List.drop_succ_cons]

end Medium

/-- The outcome of a conversation over a stream, and the stream afterwards. -/
def Conversation.runOver (c : Conversation α) (m : Medium σ) (x : σ) : Except IoError α × σ :=
  match c with
  | .done result => (result, x)
  | .write bytes next => match m.writeAll x bytes with
    | (.ok (), x) => next.runOver m x
    | (.error e, x) => (.error e, x)
  | .read count next => match m.readExactly x count [] with
    | (.ok bytes, x) => (next bytes).runOver m x
    | (.error e, x) => (.error e, x)

/-! ## What a stream carries -/

namespace Channel

/-- The channel after so many bytes have been delivered. -/
def delivered (s : Channel) (n : Nat) : Channel := { s with incoming := s.incoming.drop n }

/-- The channel after some bytes have been accepted. -/
def accepted (s : Channel) (bytes : List UInt8) : Channel := { s with sent := s.sent ++ bytes }

/-- How many of so many bytes have room. -/
def free (s : Channel) (n : Nat) : Nat :=
  match s.room with
  | some (most, _) => min n (most - s.sent.length)
  | none => n

/-- What writing so many bytes meets, unless there is room for all of them. -/
def refusal? (s : Channel) (n : Nat) : Option IoError :=
  match s.room with
  | some (most, e) => if n ≤ most - s.sent.length then none else some e
  | none => none

section

variable (s : Channel) (bytes bytes' : List UInt8) (k n : Nat)

@[simp] theorem delivered_incoming : (s.delivered n).incoming = s.incoming.drop n := rfl
@[simp] theorem delivered_sent : (s.delivered n).sent = s.sent := rfl
@[simp] theorem delivered_atEnd : (s.delivered n).atEnd = s.atEnd := rfl
@[simp] theorem accepted_incoming : (s.accepted bytes).incoming = s.incoming := rfl
@[simp] theorem accepted_sent : (s.accepted bytes).sent = s.sent ++ bytes := rfl
@[simp] theorem accepted_atEnd : (s.accepted bytes).atEnd = s.atEnd := rfl

@[simp] theorem delivered_delivered : (s.delivered k).delivered n = s.delivered (k + n) := by
  simp [delivered]

@[simp] theorem accepted_accepted :
    (s.accepted bytes).accepted bytes' = s.accepted (bytes ++ bytes') := by
  simp [accepted]

@[simp] theorem accepted_nil : s.accepted [] = s := by
  simp [accepted]

theorem delivered_of_ended (ended : s.incoming = []) : s.delivered n = s := by
  cases s
  simp_all [delivered]

@[simp] theorem free_delivered : (s.delivered k).free n = s.free n := rfl

@[simp] theorem refusal?_delivered : (s.delivered k).refusal? n = s.refusal? n := rfl

theorem free_le : s.free n ≤ n := by
  unfold free
  split <;> omega

@[simp] theorem refusal?_zero : s.refusal? 0 = none := by
  unfold refusal?
  split <;> simp

/-- There is room for so many bytes, and then for more of them or not; or there is not. -/
theorem room_cases : s.refusal? k = none ∧ s.free k = k ∧ k ≤ s.free (k + n) ∨
    ∃ e, s.refusal? k = some e ∧ s.refusal? (k + n) = some e ∧ s.free (k + n) = s.free k := by
  unfold refusal? free
  cases s.room with
  | none => simp
  | some limit =>
    obtain ⟨most, e⟩ := limit
    by_cases fits : k ≤ most - s.sent.length
    · exact .inl ⟨if_pos fits, by dsimp only; omega, by dsimp only; omega⟩
    · exact .inr ⟨e, if_neg fits, if_neg (by omega), by dsimp only; omega⟩

variable {s n bytes}

theorem refusal?_of_fits (fits : ∀ most e, s.room = some (most, e) → s.sent.length + n ≤ most) :
    s.refusal? n = none ∧ s.free n = n := by
  unfold refusal? free
  cases room : s.room with
  | none => exact ⟨rfl, rfl⟩
  | some limit =>
    have enough := fits limit.1 limit.2 room
    exact ⟨if_pos (by omega), Nat.min_eq_left (by omega)⟩

theorem refusal?_of_more {w : Nat} {e : IoError} (limit : s.room = some (s.sent.length + w, e))
    (more : w < n) : s.refusal? n = some e ∧ s.free n = w := by
  simp only [refusal?, free, limit, Nat.add_sub_cancel_left]
  exact ⟨if_neg (by omega), Nat.min_eq_right (by omega)⟩

/-- What has been accepted takes up room. -/
theorem free_accepted (fits : bytes.length ≤ s.free (bytes.length + n)) :
    s.free (bytes.length + n) = bytes.length + (s.accepted bytes).free n := by
  unfold free accepted at *
  cases room : s.room with
  | none => rfl
  | some limit =>
    simp only [room, List.length_append] at fits ⊢
    omega

theorem refusal?_accepted (fits : bytes.length ≤ s.free (bytes.length + n)) :
    (s.accepted bytes).refusal? n = s.refusal? (bytes.length + n) := by
  unfold free at fits
  unfold refusal? accepted
  cases room : s.room with
  | none => rfl
  | some limit =>
    simp only [room, List.length_append] at fits ⊢
    congr 1
    exact propext (by omega)

end

end Channel

/-- A stream carries what a channel carries: it delivers the bytes that are still to come, and
accepts bytes as long as there is room, in pieces that are never empty. The channel that stands for
a state is told by `view`; the limits of its own are of no account. -/
structure Medium.Carries (m : Medium σ) (view : σ → Channel) : Prop where
  delivers : ∀ x count, 0 < min count (view x).incoming.length → ∃ n y,
    m.deliver x count = (.ok ((view x).incoming.take n), y) ∧
      (0 < n ∧ n ≤ min count (view x).incoming.length) ∧ view y = (view x).delivered n
  ends : ∀ x count, 0 < count → (view x).incoming = [] → ∃ o y, m.deliver x count = (o, y) ∧
    (o = .error (view x).atEnd ∨ o = .ok [] ∧ (view x).atEnd = .endOfStream) ∧ view y = view x
  accepts : ∀ x bytes, 0 < (view x).free bytes.length → ∃ n y, m.accept x bytes = (.ok n, y) ∧
    (0 < n ∧ n ≤ (view x).free bytes.length) ∧ view y = (view x).accepted (bytes.take n)
  refuses : ∀ x bytes e, (view x).free bytes.length = 0 →
    (view x).refusal? bytes.length = some e → ∃ o y, m.accept x bytes = (o, y) ∧
      (o = .error e ∨ o = .ok 0 ∧ e = nothingAccepted) ∧ view y = view x

namespace Medium.Carries

variable {m : Medium σ} {view : σ → Channel} (h : m.Carries view)
include h

/-- The wanted bytes come if there are so many, and otherwise the stream ends. -/
theorem readExactly (x : σ) (count : Nat) (taken : List UInt8) :
    ∃ y, m.readExactly x count taken =
        (if count ≤ (view x).incoming.length then .ok (taken ++ (view x).incoming.take count)
          else .error (view x).atEnd, y) ∧
      view y = (view x).delivered count := by
  induction count using Nat.strongRecOn generalizing x taken with
  | ind count ih =>
    by_cases enough : count = 0
    · subst enough
      exact ⟨x, by simp [Medium.readExactly, Channel.delivered]⟩
    have wanted : 0 < count := Nat.pos_of_ne_zero enough
    by_cases ended : (view x).incoming = []
    · obtain ⟨o, y, delivered, outcome, same⟩ := h.ends x count wanted ended
      have short : ¬ count ≤ (view x).incoming.length := by simpa [ended] using enough
      rw [Medium.readExactly, if_neg enough, delivered, if_neg short,
        Channel.delivered_of_ended _ _ ended]
      rcases outcome with rfl | ⟨rfl, atEnd⟩
      · exact ⟨y, rfl, same⟩
      · exact ⟨y, by rw [atEnd], same⟩
    -- A piece comes, and then what is still wanted.
    have there : 0 < (view x).incoming.length := List.length_pos_iff.mpr ended
    obtain ⟨n, y, delivered, ⟨some, within⟩, left⟩ := h.delivers x count (by omega)
    have length : ((view x).incoming.take n).length = n := by
      rw [List.length_take]
      omega
    obtain ⟨z, rest, left'⟩ := ih (count - n) (by omega) y (taken ++ (view x).incoming.take n)
    have whole : n + (count - n) = count := by omega
    refine ⟨z, ?_, by rw [left', left, Channel.delivered_delivered, whole]⟩
    rw [Medium.readExactly_of_piece wanted delivered (by omega), length, rest, left]
    simp only [Channel.delivered_incoming, Channel.delivered_atEnd, List.length_drop,
      List.append_assoc]
    by_cases all : count ≤ (view x).incoming.length
    · rw [if_pos (by omega), if_pos all, ← List.take_add, whole]
    · rw [if_neg (by omega), if_neg all]

/-- As many bytes are accepted as have room. -/
theorem writeAll (x : σ) (bytes : List UInt8) :
    ∃ y, m.writeAll x bytes = (((view x).refusal? bytes.length).elim (.ok ()) .error, y) ∧
      view y = (view x).accepted (bytes.take ((view x).free bytes.length)) := by
  induction left : bytes.length using Nat.strongRecOn generalizing x bytes with
  | ind length ih =>
    subst left
    by_cases nothing : bytes = []
    · subst nothing
      exact ⟨x, by simp [Medium.writeAll]⟩
    have there : 0 < bytes.length := List.length_pos_iff.mpr nothing
    rcases Nat.eq_zero_or_pos ((view x).free bytes.length) with full | some
    · rcases (view x).room_cases bytes.length 0 with ⟨-, all, -⟩ | ⟨e, refused, -⟩
      · omega
      obtain ⟨o, y, accepted, outcome, same⟩ := h.refuses x bytes e full refused
      rw [refused, full, List.take_zero, Channel.accepted_nil]
      obtain ⟨b, bytes, rfl⟩ := List.exists_cons_of_ne_nil nothing
      rw [Medium.writeAll, accepted]
      rcases outcome with rfl | ⟨rfl, rfl⟩
      · exact ⟨y, rfl, same⟩
      · exact ⟨y, rfl, same⟩
    -- A piece is accepted, and then what is left.
    obtain ⟨n, y, accepted, ⟨positive, within⟩, left⟩ := h.accepts x bytes some
    have fits := Nat.le_trans within ((view x).free_le bytes.length)
    have piece : (bytes.take n).length = n := List.length_take_of_le fits
    have whole : bytes.length = (bytes.take n).length + (bytes.drop n).length := by
      rw [← List.length_append, List.take_append_drop]
    rw [whole] at within
    have within : (bytes.take n).length ≤
        (view x).free ((bytes.take n).length + (bytes.drop n).length) := by omega
    obtain ⟨z, rest, left'⟩ := ih (bytes.drop n).length (by omega) y (bytes.drop n) rfl
    rw [Medium.writeAll_of_piece accepted positive nothing, whole]
    refine ⟨z, ?_, ?_⟩
    · rw [rest, left, Channel.refusal?_accepted within]
    · rw [left', left, Channel.accepted_accepted, Channel.free_accepted within, piece,
        List.take_add]

end Medium.Carries

/-! ## Conversations -/

/-- What comes of a conversation, and what is said and left unheard, are the same over all streams
that carry the same bytes. -/
theorem Medium.Carries.over_heard {m : Medium σ} {view : σ → Channel} (h : m.Carries view)
    (c : Conversation α) (x : σ) {heard : Except IoError α × List UInt8 × List UInt8}
    (hear : c.hear (view x).atEnd (view x).incoming = heard) :
    ∃ y, c.runOver m x = (((view x).refusal? heard.2.2.length).elim heard.1 .error, y) ∧
      (view y).sent = (view x).sent ++ heard.2.2.take ((view x).free heard.2.2.length) ∧
      ((view x).refusal? heard.2.2.length = none → (view y).incoming = heard.2.1) := by
  subst hear
  induction c generalizing x with
  | done result => exact ⟨x, by simp [Conversation.runOver, Conversation.hear]⟩
  | write message next ih =>
    obtain ⟨y, wrote, left⟩ := h.writeAll x message
    obtain ⟨z, went, said, unheard⟩ := ih y
    unfold Conversation.runOver
    simp only [Conversation.hear, List.length_append, wrote]
    rw [left] at went said unheard
    simp only [Channel.accepted_atEnd, Channel.accepted_incoming, Channel.accepted_sent] at *
    generalize next.hear (view x).atEnd (view x).incoming = heard at *
    rcases (view x).room_cases message.length heard.2.2.length with
      ⟨accepted, all, more⟩ | ⟨e, refused, still, some⟩
    · rw [all, List.take_length] at went said unheard
      rw [Channel.refusal?_accepted more] at went unheard
      refine ⟨z, by rw [accepted]; exact went, ?_, unheard⟩
      rw [said, Channel.free_accepted more, List.append_assoc, List.take_length_add_append]
    · have within := (view x).free_le message.length
      refine ⟨y, by rw [refused, still]; rfl, ?_, by simp [still]⟩
      rw [left, some, List.take_append_of_le_length within]
      rfl
  | read count next ih =>
    obtain ⟨y, read, left⟩ := h.readExactly x count []
    unfold Conversation.runOver
    simp only [Conversation.hear, read]
    by_cases enough : count ≤ (view x).incoming.length
    · obtain ⟨z, went, said, unheard⟩ := ih ((view x).incoming.take count) y
      simp only [if_pos enough, List.nil_append]
      rw [left] at went said unheard
      exact ⟨z, went, said, unheard⟩
    · have past : (view x).incoming.drop count = [] := List.drop_eq_nil_of_le (by omega)
      simp only [if_neg enough]
      exact ⟨y, by simp, by simp [left], fun _ => by simp [left, past]⟩

/-! ## Channels -/

namespace Channel

/-- A channel as a stream: pieces are as large as its limits allow. -/
def medium : Medium Channel where
  deliver s count :=
    if s.incoming.isEmpty then (.error s.atEnd, s)
    else
      let n := limited s.chunk (min count s.incoming.length)
      (.ok (s.incoming.take n), s.delivered n)
  accept s bytes :=
    match s.free bytes.length, s.refusal? bytes.length with
    | 0, some e => (.error e, s)
    | free, _ =>
      let n := limited s.acceptChunk free
      (.ok n, s.accepted (bytes.take n))

theorem deliver_of_left {s : Channel} {count : Nat} (left : s.incoming ≠ []) :
    medium.deliver s count =
      (.ok (s.incoming.take (limited s.chunk (min count s.incoming.length))),
        s.delivered (limited s.chunk (min count s.incoming.length))) := by
  simp [medium, left]

theorem deliver_of_ended {s : Channel} {count : Nat} (ended : s.incoming = []) :
    medium.deliver s count = (.error s.atEnd, s) := by
  simp [medium, ended]

theorem accept_of_free {s : Channel} {bytes : List UInt8} (some : 0 < s.free bytes.length) :
    medium.accept s bytes = (.ok (limited s.acceptChunk (s.free bytes.length)),
      s.accepted (bytes.take (limited s.acceptChunk (s.free bytes.length)))) := by
  dsimp only [medium]
  split
  · omega
  · rfl

theorem accept_of_full {s : Channel} {bytes : List UInt8} {e : IoError}
    (full : s.free bytes.length = 0) (refused : s.refusal? bytes.length = some e) :
    medium.accept s bytes = (.error e, s) := by
  dsimp only [medium]
  rw [refused]
  split
  · simp_all
  · simp_all

theorem medium_carries : medium.Carries id where
  delivers s count some := by
    refine ⟨_, _, deliver_of_left ?_, ⟨limited_pos s.chunk some, limited_le _ _⟩, rfl⟩
    rintro ended
    simp [ended] at some
  ends s count _ ended := ⟨_, s, deliver_of_ended ended, .inl rfl, rfl⟩
  accepts s bytes some :=
    ⟨_, _, accept_of_free some, ⟨limited_pos _ some, limited_le _ _⟩, rfl⟩
  refuses s bytes e full refused := ⟨_, s, accept_of_full full refused, .inl rfl, rfl⟩

theorem readExactly_eq_medium (s : Channel) (count : Nat) (taken : List UInt8) {fuel : Nat}
    (enough : count < fuel) :
    s.readExactly count taken fuel = medium.readExactly s count taken := by
  induction fuel generalizing s count taken with
  | zero => omega
  | succ fuel ih =>
    unfold readExactly
    by_cases none : count = 0
    · simp [none, Medium.readExactly]
    by_cases ended : s.incoming = []
    · simp [none, ended, Medium.readExactly, deliver_of_ended ended]
    have left : 0 < s.incoming.length := List.length_pos_iff.mpr ended
    have piece_pos := limited_pos s.chunk (show 0 < min count s.incoming.length by omega)
    have piece_le := limited_le s.chunk (min count s.incoming.length)
    have length := List.length_take_of_le (l := s.incoming)
      (show limited s.chunk (min count s.incoming.length) ≤ s.incoming.length by omega)
    rw [Medium.readExactly_of_piece (by omega) (deliver_of_left ended) (by omega), length]
    simp only [none, if_false, List.isEmpty_iff, ended]
    exact ih _ _ _ (by omega)

theorem writeAll_of_free {s : Channel} {bytes : List UInt8} (some : 0 < s.free bytes.length)
    (fuel : Nat) : s.writeAll bytes (fuel + 1) =
      (s.accepted (bytes.take (limited s.acceptChunk (s.free bytes.length)))).writeAll
        (bytes.drop (limited s.acceptChunk (s.free bytes.length))) fuel := by
  have left : bytes ≠ [] := by
    rintro rfl
    exact Nat.not_lt_zero _ (Nat.lt_of_lt_of_le some (s.free_le 0))
  rw [writeAll, if_neg (by simpa using left)]
  unfold free at *
  cases room : s.room with
  | none => simp [accepted, room]
  | some limit =>
    obtain ⟨most, e⟩ := limit
    simp only [room, accepted] at some ⊢
    split
    · simp_all
    · rw [Nat.min_comm]

theorem writeAll_of_full {s : Channel} {bytes : List UInt8} {e : IoError}
    (full : s.free bytes.length = 0) (refused : s.refusal? bytes.length = some e) (fuel : Nat) :
    s.writeAll bytes (fuel + 1) = (.error e, s) := by
  have left : bytes ≠ [] := by
    rintro rfl
    simp at refused
  have there : 0 < bytes.length := List.length_pos_iff.mpr left
  rw [writeAll, if_neg (by simpa using left)]
  unfold free refusal? at *
  cases room : s.room with
  | none => simp [room] at refused
  | some limit =>
    obtain ⟨most, e'⟩ := limit
    simp only [room] at full refused ⊢
    have none_free : most - s.sent.length = 0 := by omega
    rw [none_free] at refused ⊢
    simp_all

theorem writeAll_eq_medium (s : Channel) (bytes : List UInt8) {fuel : Nat}
    (enough : bytes.length < fuel) : s.writeAll bytes fuel = medium.writeAll s bytes := by
  induction fuel generalizing s bytes with
  | zero => omega
  | succ fuel ih =>
    by_cases nothing : bytes = []
    · simp [nothing, writeAll, Medium.writeAll]
    have there : 0 < bytes.length := List.length_pos_iff.mpr nothing
    rcases Nat.eq_zero_or_pos (s.free bytes.length) with full | some
    · rcases s.room_cases bytes.length 0 with ⟨-, all, -⟩ | ⟨e, refused, -⟩
      · omega
      rw [writeAll_of_full full refused]
      obtain ⟨b, bytes, rfl⟩ := List.exists_cons_of_ne_nil nothing
      rw [Medium.writeAll, accept_of_full full refused]
    · have piece := limited_pos s.acceptChunk some
      rw [writeAll_of_free some, Medium.writeAll_of_piece (accept_of_free some) piece nothing]
      refine ih _ _ ?_
      rw [List.length_drop]
      omega

end Channel

theorem Conversation.run_eq_runOver (c : Conversation α) (s : Channel) :
    c.run s = c.runOver Channel.medium s := by
  induction c generalizing s with
  | done result => rfl
  | write bytes next ih =>
    unfold run runOver
    rw [s.writeAll_eq_medium bytes (Nat.lt_succ_self _)]
    rcases Channel.medium.writeAll s bytes with ⟨_ | _, s⟩
    · rfl
    · exact ih s
  | read count next ih =>
    unfold run runOver
    rw [s.readExactly_eq_medium count [] (Nat.lt_succ_self _)]
    rcases Channel.medium.readExactly s count [] with ⟨_ | bytes, s⟩
    · rfl
    · exact ih bytes s

/-! ## Parcels -/

/-- Some bytes, and at least one. -/
structure Piece where
  first : UInt8
  rest : List UInt8
  deriving DecidableEq, Repr

def Piece.bytes (p : Piece) : List UInt8 := p.first :: p.rest

/-- A stream of which it is known beforehand how the bytes are cut up. -/
structure Parcels where
  pieces : List Piece
  /-- The most bytes that one writing after another accepts; after them all that have room. -/
  quotas : List Nat := []
  atEnd : IoError := .endOfStream
  sent : List UInt8 := []
  room : Option (Nat × IoError) := none

namespace Parcels

/-- The bytes without regard to pieces. -/
def channel (s : Parcels) : Channel where
  incoming := s.pieces.flatMap Piece.bytes
  atEnd := s.atEnd
  sent := s.sent
  room := s.room

/-- What is left after so many bytes of the first piece, which it need not have. -/
def leftover (piece : Piece) (pieces : List Piece) (count : Nat) : List Piece :=
  match piece.bytes.drop count with
  | [] => pieces
  | b :: bytes => ⟨b, bytes⟩ :: pieces

theorem flatMap_leftover (piece : Piece) (pieces : List Piece) (count : Nat) :
    (leftover piece pieces count).flatMap Piece.bytes =
      piece.bytes.drop count ++ pieces.flatMap Piece.bytes := by
  unfold leftover
  split
  next done => rw [done, List.nil_append]
  next done => rw [done, List.flatMap_cons, Piece.bytes]

/-- One reading delivers one piece or a part of it, and one writing accepts a quota. -/
def medium : Medium Parcels where
  deliver s count :=
    match s.pieces with
    | [] => (if s.atEnd = .endOfStream then .ok [] else .error s.atEnd, s)
    | piece :: pieces =>
      (.ok (piece.bytes.take count), { s with pieces := leftover piece pieces count })
  accept s bytes :=
    match s.channel.free bytes.length, s.channel.refusal? bytes.length with
    | 0, some e => (.error e, s)
    | free, _ =>
      let n := Channel.limited s.quotas.head? free
      (.ok n, { s with quotas := s.quotas.tail, sent := s.sent ++ bytes.take n })

theorem deliver_of_ended {s : Parcels} {count : Nat} (ended : s.channel.incoming = []) :
    medium.deliver s count =
      (if s.atEnd = .endOfStream then .ok [] else .error s.atEnd, s) := by
  rcases pieces : s.pieces with _ | ⟨piece, pieces'⟩
  · simp only [medium, pieces]
  · simp [channel, pieces, Piece.bytes] at ended

theorem deliver_of_piece {s : Parcels} {piece : Piece} {pieces : List Piece} (count : Nat)
    (left : s.pieces = piece :: pieces) : medium.deliver s count =
      (.ok (piece.bytes.take count), { s with pieces := leftover piece pieces count }) := by
  simp only [medium, left]

theorem accept_of_free {s : Parcels} {bytes : List UInt8}
    (some : 0 < s.channel.free bytes.length) :
    medium.accept s bytes =
      (.ok (Channel.limited s.quotas.head? (s.channel.free bytes.length)),
        { s with quotas := s.quotas.tail, sent := s.sent ++
            bytes.take (Channel.limited s.quotas.head? (s.channel.free bytes.length)) }) := by
  dsimp only [medium]
  split
  · omega
  · rfl

theorem accept_of_full {s : Parcels} {bytes : List UInt8} {e : IoError}
    (full : s.channel.free bytes.length = 0)
    (refused : s.channel.refusal? bytes.length = some e) :
    medium.accept s bytes = (.error e, s) := by
  dsimp only [medium]
  rw [refused]
  split <;> simp_all

theorem medium_carries : medium.Carries channel where
  delivers s count wanted := by
    rcases pieces : s.pieces with _ | ⟨piece, pieces'⟩
    · simp [channel, pieces] at wanted
    have there : 0 < piece.bytes.length := Nat.succ_pos _
    have incoming : s.channel.incoming = piece.bytes ++ pieces'.flatMap Piece.bytes := by
      simp [channel, pieces]
    have shorter : min count piece.bytes.length ≤ piece.bytes.length := Nat.min_le_right _ _
    refine ⟨min count piece.bytes.length, { s with pieces := leftover piece pieces' count },
      ?_, ?_, ?_⟩
    · rw [deliver_of_piece count pieces, incoming, List.take_append_of_le_length shorter,
        List.take_eq_take_min]
    · rw [incoming, List.length_append] at *
      omega
    · simp only [Channel.delivered, incoming]
      rw [List.drop_append_of_le_length shorter, ← List.drop_eq_drop_min]
      simp only [channel, flatMap_leftover]
  ends s count _ ended := by
    refine ⟨_, s, deliver_of_ended ended, ?_, rfl⟩
    by_cases eof : s.atEnd = .endOfStream
    · exact .inr ⟨if_pos eof, eof⟩
    · exact .inl (if_neg eof)
  accepts s bytes some :=
    ⟨_, _, accept_of_free some, ⟨Channel.limited_pos _ some, Channel.limited_le _ _⟩, rfl⟩
  refuses s bytes e full refused := ⟨_, s, accept_of_full full refused, .inl rfl, rfl⟩

end Parcels

/-! ## The exchange with a proxy -/

/-- What a client can be asked for. -/
inductive Dialogue where
  | negotiate (credentials : Option (String × String))
  | connect (host : String) (port : UInt16)
  | handshake (credentials : Option (String × String)) (host : String) (port : UInt16)
  deriving DecidableEq, Repr

def Dialogue.conversation : Dialogue → Conversation Unit
  | .negotiate credentials => Socks5.negotiate credentials
  | .connect host port => Socks5.connect host port.toNat
  | .handshake credentials host port => Socks5.handshake credentials host port.toNat

/-- Two streams that carry the same bytes cannot be told apart by their pieces: if both accept
everything, or at least as much as there is, then the results, the bytes sent and the bytes left
unread are the same. If the second one accepts only `most` bytes and there are more, then it has got
the first of them, and the result is how writing failed. -/
theorem Medium.pieces_irrelevant (d : Dialogue) {m : Medium σ} {n : Medium τ}
    {view : σ → Channel} {view' : τ → Channel} (carries : m.Carries view)
    (carries' : n.Carries view') {x : σ} {y : τ}
    (incoming : (view' y).incoming = (view x).incoming)
    (atEnd : (view' y).atEnd = (view x).atEnd) (unlimited : (view x).room = none) :
    ∃ said, (view (d.conversation.runOver m x).2).sent = (view x).sent ++ said ∧
      ((∀ most e, (view' y).room = some (most, e) →
          (view' y).sent.length + said.length ≤ most) →
        (d.conversation.runOver n y).1 = (d.conversation.runOver m x).1 ∧
        (view' (d.conversation.runOver n y).2).sent = (view' y).sent ++ said ∧
        (view' (d.conversation.runOver n y).2).incoming =
          (view (d.conversation.runOver m x).2).incoming) ∧
      ∀ w e, (view' y).room = some ((view' y).sent.length + w, e) → w < said.length →
        (d.conversation.runOver n y).1 = .error e ∧
        (view' (d.conversation.runOver n y).2).sent = (view' y).sent ++ said.take w := by
  generalize d.conversation = c
  obtain ⟨x', went, sent, unheard⟩ := carries.over_heard c x rfl
  obtain ⟨y', went', sent', unheard'⟩ := carries'.over_heard c y rfl
  rw [incoming, atEnd] at went' sent' unheard'
  generalize c.hear (view x).atEnd (view x).incoming = heard at *
  obtain ⟨accepted, all⟩ := (view x).refusal?_of_fits (n := heard.2.2.length)
    fun _ _ limit => nomatch unlimited.symm.trans limit
  rw [all, List.take_length] at sent
  rw [went, went', accepted]
  refine ⟨heard.2.2, sent, fun fits => ?_, fun w e limit more => ?_⟩
  · obtain ⟨accepted', all'⟩ := (view' y).refusal?_of_fits fits
    rw [all', List.take_length] at sent'
    rw [accepted']
    exact ⟨rfl, sent', (unheard' accepted').trans (unheard accepted).symm⟩
  · obtain ⟨refused, some⟩ := (view' y).refusal?_of_more limit more
    rw [some] at sent'
    rw [refused]
    exact ⟨rfl, sent'⟩

/-- A client that signs in, over a channel and over parcels that accept five bytes: the second of
the two messages breaks off after one byte. -/
theorem Medium.pieces_irrelevant_five_bytes :
    let d : Dialogue := .handshake (some ("u", "pw")) "db.test" 27017
    let x : Channel := { incoming := [5, 2, 1, 0, 5], chunk := some 2 }
    let y : Parcels :=
      { pieces := [⟨5, []⟩, ⟨2, [1, 0]⟩, ⟨5, []⟩], quotas := [3], sent := [7],
        room := some (6, ⟨.brokenPipe, "broken pipe"⟩) }
    y.channel.incoming = x.incoming ∧ y.atEnd = x.atEnd ∧ x.room = none ∧
      (d.conversation.runOver Parcels.medium y).1 = .error ⟨.brokenPipe, "broken pipe"⟩ ∧
      (d.conversation.runOver Parcels.medium y).2.sent = [7, 5, 2, 0, 2, 1] := by
  intro d x y
  obtain ⟨said, sent, -, partly⟩ :=
    pieces_irrelevant d Channel.medium_carries Parcels.medium_carries (x := x) (y := y)
      rfl rfl rfl
  have whole : (d.conversation.runOver Channel.medium x).2.sent =
      [5, 2, 0, 2, 1, 1, 117, 2, 112, 119] ++
        [5, 1, 0, 3, 7, 100, 98, 46, 116, 101, 115, 116, 105, 137] := by
    rw [← Conversation.run_eq_runOver]
    decide
  obtain rfl : _ = said := whole.symm.trans sent
  exact ⟨rfl, rfl, rfl, partly 5 _ rfl (by decide)⟩

end ClusterAccess.Socks5
