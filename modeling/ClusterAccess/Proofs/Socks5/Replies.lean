import ClusterAccess.Proofs.Socks5.Stream
import ClusterAccess.Socks5.Client

/-!
# What the client takes from a proxy

Whatever a proxy says, it begins with replies that open the connection, or it begins with replies of
which the last departs from the protocol, or it ends within a reply. The client tells the three
apart, and what follows the replies that decide is left unread.

## Main definitions

* `Replies`: a kind of replies, with the ways in which a stream can fall short of them.
* `admissions`: the replies up to the request for a connection.
* `answers`: the reply to that request, with the address that follows a success.
* `Taken`: how the bytes of a peer are taken.

## Main statements

* `Taken.andThen`: one conversation after another takes one kind of replies after the other.
* `handshake_taken`: how a handshake takes the bytes of the proxy.
* `handshake_takes_exactly`: the same over a stream, and when a handshake succeeds.
-/
namespace ClusterAccess.Socks5

open Conversation

/-! ## Kinds of replies -/

/-- A kind of replies. -/
structure Replies where
  /-- The replies as they should be. -/
  whole : List UInt8 → Prop
  /-- The bytes up to the end of the first reply that is not as it should be, with what is said of
  it. -/
  faulty : List UInt8 → IoError → Prop
  /-- The bytes that end within a reply. -/
  partly : List UInt8 → Prop

/-- First one kind of replies, then another. -/
def Replies.andThen (a b : Replies) : Replies where
  whole bytes := ∃ first second, a.whole first ∧ b.whole second ∧ bytes = first ++ second
  faulty bytes e :=
    a.faulty bytes e ∨ ∃ first second, a.whole first ∧ b.faulty second e ∧ bytes = first ++ second
  partly bytes :=
    a.partly bytes ∨ ∃ first second, a.whole first ∧ b.partly second ∧ bytes = first ++ second

/-- The proxy lets the client in at once, or after it has signed in. -/
inductive Admission (hasCredentials : Bool) : List UInt8 → Prop
  | free : Admission hasCredentials [5, 0]
  | signedIn (offered : hasCredentials = true) (x : UInt8) : Admission hasCredentials [5, 2, x, 0]

inductive AdmissionFault (hasCredentials : Bool) : List UInt8 → IoError → Prop
  | version {v : UInt8} (other : v ≠ 5) (method : UInt8) :
      AdmissionFault hasCredentials [v, method]
        ⟨.invalidData, s!"SOCKS5 proxy answered with version {v.toNat}"⟩
  | signInWanted (absent : hasCredentials = false) :
      AdmissionFault hasCredentials [5, 2]
        ⟨.permissionDenied, "SOCKS5 proxy requires username/password authentication"⟩
  | noMethod :
      AdmissionFault hasCredentials [5, 0xFF]
        ⟨.permissionDenied, "SOCKS5 proxy accepted none of the offered authentication methods"⟩
  | unoffered {method : UInt8} (other : method ∉ [0, 2, 0xFF]) :
      AdmissionFault hasCredentials [5, method]
        ⟨.invalidData, s!"SOCKS5 proxy selected unoffered method 0x{hexByte method}"⟩
  | rejected (offered : hasCredentials = true) (x : UInt8) {status : UInt8} (bad : status ≠ 0) :
      AdmissionFault hasCredentials [5, 2, x, status]
        ⟨.permissionDenied, s!"SOCKS5 proxy rejected credentials (status 0x{hexByte status})"⟩

inductive AdmissionPart (hasCredentials : Bool) : List UInt8 → Prop
  | method {bytes : List UInt8} (short : bytes.length < 2) : AdmissionPart hasCredentials bytes
  | status (offered : hasCredentials = true) {bytes : List UInt8} (short : bytes.length < 2) :
      AdmissionPart hasCredentials (5 :: 2 :: bytes)

/-- The replies up to the request for a connection: the choice of a method, and the status of the
client who signs in if the choice is 2. -/
def admissions (hasCredentials : Bool) : Replies :=
  ⟨Admission hasCredentials, AdmissionFault hasCredentials, AdmissionPart hasCredentials⟩

/-- An address of a type, with a port; a name of any length stands after its length. -/
inductive BoundAddress : UInt8 → List UInt8 → Prop
  | v4 {bytes : List UInt8} (length : bytes.length = 4 + 2) : BoundAddress 1 bytes
  | v6 {bytes : List UInt8} (length : bytes.length = 16 + 2) : BoundAddress 4 bytes
  | name (n : UInt8) {bytes : List UInt8} (length : bytes.length = n.toNat + 2) :
      BoundAddress 3 (n :: bytes)

/-- Less than an address of a type. -/
inductive AddressPart : UInt8 → List UInt8 → Prop
  | v4 {bytes : List UInt8} (length : bytes.length < 4 + 2) : AddressPart 1 bytes
  | v6 {bytes : List UInt8} (length : bytes.length < 16 + 2) : AddressPart 4 bytes
  | unnamed : AddressPart 3 []
  | name (n : UInt8) {bytes : List UInt8} (length : bytes.length < n.toNat + 2) :
      AddressPart 3 (n :: bytes)

inductive Answer : List UInt8 → Prop
  | intro (x : UInt8) {type : UInt8} {address : List UInt8} (bound : BoundAddress type address) :
      Answer (5 :: 0 :: x :: type :: address)

/-- The kind of failure that a refusal counts as. -/
def refusalKind : UInt8 → IoKind
  | 2 => .permissionDenied
  | 5 => .connectionRefused
  | 6 => .timedOut
  | 7 | 8 => .unsupported
  | _ => .other

inductive AnswerFault : List UInt8 → IoError → Prop
  | version {v : UInt8} (other : v ≠ 5) (code x type : UInt8) :
      AnswerFault [v, code, x, type]
        ⟨.invalidData, s!"SOCKS5 proxy replied with version {v.toNat}"⟩
  | refused {code : UInt8} (bad : code ≠ 0) (x type : UInt8) :
      AnswerFault [5, code, x, type] ⟨refusalKind code, (replyError code).message⟩
  | addressType (x : UInt8) {type : UInt8} (other : type ∉ [1, 3, 4]) :
      AnswerFault [5, 0, x, type]
        ⟨.invalidData, s!"SOCKS5 proxy replied with address type {type.toNat}"⟩

inductive AnswerPart : List UInt8 → Prop
  | header {bytes : List UInt8} (short : bytes.length < 4) : AnswerPart bytes
  | address (x : UInt8) {type : UInt8} {bytes : List UInt8} (part : AddressPart type bytes) :
      AnswerPart (5 :: 0 :: x :: type :: bytes)

/-- The reply to the request for a connection, which names an address if it is a success. -/
def answers : Replies := ⟨Answer, AnswerFault, AnswerPart⟩

/-- How the bytes of a peer are taken: the result, and what is left unread. -/
inductive Taken (replies : Replies) (atEnd : IoError) (bytes : List UInt8) :
    Except IoError Unit → List UInt8 → Prop
  | whole {reply rest : List UInt8} (whole : replies.whole reply) (split : bytes = reply ++ rest) :
      Taken replies atEnd bytes (.ok ()) rest
  | faulty {reply rest : List UInt8} {e : IoError} (faulty : replies.faulty reply e)
      (split : bytes = reply ++ rest) : Taken replies atEnd bytes (.error e) rest
  | partly (partly : replies.partly bytes) : Taken replies atEnd bytes (.error atEnd) []

/-- One conversation after another takes one kind of replies after the other. -/
theorem Taken.andThen {first second : Replies} {c d : Conversation Unit} {atEnd : IoError}
    {bytes : List UInt8}
    (h : Taken first atEnd bytes (c.hear atEnd bytes).1 (c.hear atEnd bytes).2.1)
    (next : ∀ rest, Taken second atEnd rest (d.hear atEnd rest).1 (d.hear atEnd rest).2.1) :
    Taken (first.andThen second) atEnd bytes ((c.andThen fun _ => d).hear atEnd bytes).1
      ((c.andThen fun _ => d).hear atEnd bytes).2.1 := by
  rw [hear_andThen]
  generalize c.hear atEnd bytes = heard at h
  obtain ⟨result, rest, said⟩ := heard
  cases h with
  | @faulty reply _ e faulty split =>
    have both : (first.andThen second).faulty reply e := .inl faulty
    exact .faulty both split
  | partly partly =>
    have both : (first.andThen second).partly bytes := .inl partly
    exact .partly both
  | @whole reply _ whole split =>
    dsimp only at split ⊢
    have after := next rest
    generalize d.hear atEnd rest = heard at after ⊢
    obtain ⟨result', rest', said'⟩ := heard
    have joined {more : List UInt8} (h : rest = more ++ rest') :
        bytes = (reply ++ more) ++ rest' := by rw [split, h, List.append_assoc]
    cases after with
    | @whole more _ whole' split' =>
      have both : (first.andThen second).whole (reply ++ more) := ⟨_, _, whole, whole', rfl⟩
      exact .whole both (joined split')
    | @faulty more _ e faulty split' =>
      have both : (first.andThen second).faulty (reply ++ more) e :=
        .inr ⟨_, _, whole, faulty, rfl⟩
      exact .faulty both (joined split')
    | partly partly =>
      have both : (first.andThen second).partly bytes := .inr ⟨_, _, whole, partly, split⟩
      exact .partly both

theorem Taken.write {replies : Replies} {out : List UInt8} {c : Conversation Unit}
    {atEnd : IoError} {all bytes : List UInt8}
    (h : Taken replies atEnd all (c.hear atEnd bytes).1 (c.hear atEnd bytes).2.1) :
    Taken replies atEnd all ((Conversation.write out c).hear atEnd bytes).1
      ((Conversation.write out c).hear atEnd bytes).2.1 := h

/-! ## The client -/

/-- Both halves of the credentials, if there are any, can be sent. -/
def Sendable (credentials : Option (String × String)) : Prop :=
  ∀ username password, credentials = some (username, password) →
    (1 ≤ Text.utf8Length username ∧ Text.utf8Length username ≤ 255) ∧
      1 ≤ Text.utf8Length password ∧ Text.utf8Length password ≤ 255

theorem Sendable.request {username password : String} (h : Sendable (some (username, password))) :
    ∃ request, passwordRequest? username password = some request := by
  have lengths := h username password rfl
  unfold Text.utf8Length at lengths
  exact Option.isSome_iff_exists.mp (by simp [passwordRequest?, lengths])

theorem replyError_eq (code : UInt8) :
    replyError code = ⟨refusalKind code, (replyError code).message⟩ := by
  have kind : (replyError code).kind = refusalKind code := by
    unfold replyError refusalKind
    grind
  rw [← kind]

section

variable {atEnd : IoError} {bytes rest : List UInt8}

theorem hear_readTwo (next : UInt8 → UInt8 → Conversation Unit) (a b : UInt8) :
    (readTwo next).hear atEnd (a :: b :: rest) = (next a b).hear atEnd rest := by
  simp [readTwo, hear]

theorem hear_readTwo_short (next : UInt8 → UInt8 → Conversation Unit) (short : bytes.length < 2) :
    (readTwo next).hear atEnd bytes = (.error atEnd, [], []) := by
  simp [readTwo, hear, Nat.not_le.mpr short]

theorem hear_skip (count : Nat) :
    (skip count).hear atEnd bytes =
      if count ≤ bytes.length then (.ok (), bytes.drop count, []) else (.error atEnd, [], []) := by
  simp [skip, hear, succeed]

theorem hear_skipBound_name (n : UInt8) :
    (skipBound 3).hear atEnd (n :: bytes) = (skip (n.toNat + 2)).hear atEnd bytes := by
  simp [skipBound, hear]

/-- Bytes are too few to be read, or they split after the ones that are read. -/
theorem lt_two_or_split (bytes : List UInt8) :
    bytes.length < 2 ∨ ∃ a b rest, bytes = a :: b :: rest := by
  rcases bytes with _ | ⟨a, _ | ⟨b, rest⟩⟩ <;> simp

theorem lt_four_or_split (bytes : List UInt8) :
    bytes.length < 4 ∨ ∃ a b c d rest, bytes = a :: b :: c :: d :: rest := by
  rcases bytes with _ | ⟨a, _ | ⟨b, _ | ⟨c, _ | ⟨d, rest⟩⟩⟩⟩ <;> simp

theorem authenticate_taken {username password : String}
    (sendable : Sendable (some (username, password))) :
    Taken (admissions true) atEnd (5 :: 2 :: bytes)
      ((authenticate username password).hear atEnd bytes).1
      ((authenticate username password).hear atEnd bytes).2.1 := by
  obtain ⟨request, composed⟩ := sendable.request
  simp only [authenticate, composed]
  refine Taken.write ?_
  rcases lt_two_or_split bytes with short | ⟨x, status, rest, rfl⟩
  · rw [hear_readTwo_short _ short]
    exact .partly (AdmissionPart.status rfl short)
  rw [hear_readTwo]
  by_cases accepted : status = 0
  · subst accepted
    exact .whole (Admission.signedIn rfl x) rfl
  · rw [if_neg accepted]
    exact .faulty (AdmissionFault.rejected rfl x accepted) rfl

theorem negotiate_taken {credentials : Option (String × String)}
    (sendable : [5, 2] <+: bytes → Sendable credentials) :
    Taken (admissions credentials.isSome) atEnd bytes ((negotiate credentials).hear atEnd bytes).1
      ((negotiate credentials).hear atEnd bytes).2.1 := by
  refine Taken.write ?_
  rcases lt_two_or_split bytes with short | ⟨v, method, rest, rfl⟩
  · rw [hear_readTwo_short _ short]
    exact .partly (AdmissionPart.method short)
  rw [hear_readTwo]
  by_cases current : v = version
  case neg =>
    rw [if_pos (by simpa using current)]
    exact .faulty (AdmissionFault.version current method) rfl
  subst current
  rw [if_neg (by simp)]
  by_cases free : method = 0
  case pos =>
    subst free
    exact .whole Admission.free rfl
  rw [if_neg free]
  by_cases signIn : method = 2
  case pos =>
    subst signIn
    rw [if_pos rfl]
    cases credentials with
    | none => exact .faulty (AdmissionFault.signInWanted rfl) rfl
    | some pair => exact authenticate_taken (sendable ⟨rest, rfl⟩)
  rw [if_neg signIn]
  by_cases none : method = 0xFF
  case pos =>
    subst none
    exact .faulty AdmissionFault.noMethod rfl
  rw [if_neg none]
  exact .faulty (AdmissionFault.unoffered (by simp [free, signIn, none])) rfl

/-- Bytes that are read and forgotten, or too few of them. -/
theorem skip_taken {count : Nat} {replies : Replies} (before : List UInt8)
    (whole : ∀ bytes : List UInt8, bytes.length = count → replies.whole (before ++ bytes))
    (partly : bytes.length < count → replies.partly (before ++ bytes)) :
    Taken replies atEnd (before ++ bytes) ((skip count).hear atEnd bytes).1
      ((skip count).hear atEnd bytes).2.1 := by
  rw [hear_skip]
  by_cases enough : count ≤ bytes.length
  · rw [if_pos enough]
    refine .whole (whole (bytes.take count) (List.length_take_of_le enough)) ?_
    rw [List.append_assoc, List.take_append_drop]
  · rw [if_neg enough]
    exact .partly (partly (Nat.not_le.mp enough))

theorem skipBound_taken (x type : UInt8) :
    Taken answers atEnd (5 :: 0 :: x :: type :: bytes) ((skipBound type).hear atEnd bytes).1
      ((skipBound type).hear atEnd bytes).2.1 := by
  by_cases v4 : type = 1
  case pos =>
    subst v4
    exact skip_taken [5, 0, x, 1] (fun _ length => Answer.intro x (.v4 length))
      fun short => AnswerPart.address x (.v4 short)
  by_cases v6 : type = 4
  case pos =>
    subst v6
    exact skip_taken [5, 0, x, 4] (fun _ length => Answer.intro x (.v6 length))
      fun short => AnswerPart.address x (.v6 short)
  by_cases name : type = 3
  case pos =>
    subst name
    cases bytes with
    | nil => exact .partly (AnswerPart.address x .unnamed)
    | cons n bytes =>
      rw [hear_skipBound_name]
      exact skip_taken [5, 0, x, 3, n] (fun _ length => Answer.intro x (.name n length))
        fun short => AnswerPart.address x (.name n short)
  rw [skipBound, if_neg v4, if_neg v6, if_neg name]
  exact .faulty (AnswerFault.addressType x (by simp [v4, v6, name])) rfl

theorem readReply_taken (bytes : List UInt8) :
    Taken answers atEnd bytes (readReply.hear atEnd bytes).1 (readReply.hear atEnd bytes).2.1 := by
  rcases lt_four_or_split bytes with short | ⟨v, code, x, type, rest, rfl⟩
  · have ended : readReply.hear atEnd bytes = (.error atEnd, [], []) := by
      simp [readReply, hear, Nat.not_le.mpr short]
    rw [ended]
    exact .partly (AnswerPart.header short)
  have read : readReply.hear atEnd (v :: code :: x :: type :: rest) =
      (if v != version then
        fail .invalidData s!"SOCKS5 proxy replied with version {v.toNat}"
      else if code != 0 then .done (.error (replyError code))
      else skipBound type).hear atEnd rest := by simp [readReply, hear]
  rw [read]
  by_cases current : v = version
  case neg =>
    rw [if_pos (by simpa using current)]
    exact .faulty (AnswerFault.version current code x type) rfl
  subst current
  rw [if_neg (by simp)]
  by_cases success : code = 0
  case neg =>
    rw [if_pos (by simpa using success), replyError_eq]
    exact .faulty (AnswerFault.refused success x type) rfl
  subst success
  exact skipBound_taken x type

/-- How a handshake takes the bytes of the proxy. -/
theorem handshake_taken {credentials : Option (String × String)} {host : String} (port : Nat)
    (sendable : [5, 2] <+: bytes → Sendable credentials) (named : (destination? host).isSome) :
    Taken ((admissions credentials.isSome).andThen answers) atEnd bytes
      ((handshake credentials host port).hear atEnd bytes).1
      ((handshake credentials host port).hear atEnd bytes).2.1 := by
  refine Taken.andThen (negotiate_taken sendable) fun rest => ?_
  obtain ⟨there, parsed⟩ := Option.isSome_iff_exists.mp named
  simp only [connect, parsed]
  exact (readReply_taken rest).write

/-! ## Replies that open the connection -/

theorem negotiate_admitted {credentials : Option (String × String)} {reply : List UInt8}
    (admitted : Admission credentials.isSome reply)
    (sendable : [5, 2] <+: reply ++ rest → Sendable credentials) :
    ((negotiate credentials).hear atEnd (reply ++ rest)).1 = .ok () ∧
      ((negotiate credentials).hear atEnd (reply ++ rest)).2.1 = rest := by
  cases admitted with
  | free => exact ⟨rfl, rfl⟩
  | signedIn offered x =>
    obtain ⟨⟨username, password⟩, rfl⟩ := Option.isSome_iff_exists.mp offered
    obtain ⟨request, composed⟩ := (sendable ⟨x :: 0 :: rest, rfl⟩).request
    simp [negotiate, hear, hear_readTwo, authenticate, composed, succeed, version]

theorem readReply_answered {reply : List UInt8} (answer : Answer reply) :
    (readReply.hear atEnd (reply ++ rest)).1 = .ok () ∧
      (readReply.hear atEnd (reply ++ rest)).2.1 = rest := by
  cases answer with
  | intro x bound =>
    cases bound with
    | v4 length => simp [readReply, hear, skipBound, hear_skip, length, version]
    | v6 length => simp [readReply, hear, skipBound, hear_skip, length, version]
    | name n length => simp [readReply, hear, hear_skipBound_name, hear_skip, length, version]

/-- A handshake takes the replies that open the connection, and no byte more. -/
theorem handshake_opened {credentials : Option (String × String)} {host : String} (port : Nat)
    (named : (destination? host).isSome) {reply : List UInt8}
    (opening : ((admissions credentials.isSome).andThen answers).whole reply)
    (sendable : [5, 2] <+: reply ++ rest → Sendable credentials) :
    ((handshake credentials host port).hear atEnd (reply ++ rest)).1 = .ok () ∧
      ((handshake credentials host port).hear atEnd (reply ++ rest)).2.1 = rest := by
  obtain ⟨admission, answer, admitted, answered, rfl⟩ := opening
  obtain ⟨there, parsed⟩ := Option.isSome_iff_exists.mp named
  rw [List.append_assoc] at sendable ⊢
  have negotiated : ((negotiate credentials).hear atEnd (admission ++ (answer ++ rest))).1 =
      .ok () ∧ _ := negotiate_admitted admitted sendable
  have replied : (readReply.hear atEnd (answer ++ rest)).1 = .ok () ∧ _ :=
    readReply_answered answered
  rw [handshake, hear_andThen]
  generalize (negotiate credentials).hear atEnd (admission ++ (answer ++ rest)) = heard at *
  obtain ⟨result, unread, said⟩ := heard
  obtain ⟨rfl, rfl⟩ := negotiated
  simpa [connect, parsed, hear] using replied

end

/-! ## Over a stream -/

/-- Over a stream that accepts everything, a handshake succeeds if and only if the stream begins
with replies that open the connection, and then it leaves all that follows them. Otherwise the
stream begins with replies that are not as they should be, and all that follows the first of these
is left, or it ends within a reply. -/
theorem handshake_takes_exactly (credentials : Option (String × String)) (host : String)
    (port : Nat) (s : Channel) (room : s.room = none) (named : (destination? host).isSome)
    (sendable : [5, 2] <+: s.incoming → Sendable credentials) :
    (((handshake credentials host port).run s).1 = .ok () ↔
      ∃ reply, ((admissions credentials.isSome).andThen answers).whole reply ∧
        reply <+: s.incoming) ∧
    (∀ reply rest, ((admissions credentials.isSome).andThen answers).whole reply →
      s.incoming = reply ++ rest →
      ((handshake credentials host port).run s).2.incoming = rest) ∧
    Taken ((admissions credentials.isSome).andThen answers) s.atEnd s.incoming
      ((handshake credentials host port).run s).1
      ((handshake credentials host port).run s).2.incoming := by
  have opened {reply rest : List UInt8}
      (opening : ((admissions credentials.isSome).andThen answers).whole reply)
      (split : s.incoming = reply ++ rest) :
      ((handshake credentials host port).run s).1 = .ok () ∧
        ((handshake credentials host port).run s).2.incoming = rest := by
    rw [run_eq_hear _ s room, split]
    exact handshake_opened port named opening (split ▸ sendable)
  have taken : Taken ((admissions credentials.isSome).andThen answers) s.atEnd s.incoming
      ((handshake credentials host port).run s).1
      ((handshake credentials host port).run s).2.incoming := by
    rw [run_eq_hear _ s room]
    exact handshake_taken port sendable named
  refine ⟨⟨fun success => ?_, ?_⟩, fun _ _ opening split => (opened opening split).2, taken⟩
  · generalize (handshake credentials host port).run s = ran at taken success
    obtain ⟨result, s'⟩ := ran
    obtain rfl : result = .ok () := success
    cases taken with
    | whole whole split => exact ⟨_, whole, _, split.symm⟩
  · rintro ⟨reply, opening, rest, split⟩
    exact (opened opening split.symm).1

/-- A proxy that asks for credentials and names itself by a name of two bytes; two bytes of the
tunnel come along with its last reply, and at most three bytes are delivered at a time. -/
theorem handshake_takes_exactly_tunnelled :
    ∃ s : Channel, s.incoming = [5, 2, 1, 0, 5, 0, 0, 3, 2, 97, 98, 4, 56] ++ [0xCA, 0xFE] ∧
      s.chunk = some 3 ∧ ((handshake (some ("u", "p")) "db" 27017).run s).1 = .ok () ∧
      ((handshake (some ("u", "p")) "db" 27017).run s).2.incoming = [0xCA, 0xFE] := by
  let s : Channel :=
    { incoming := [5, 2, 1, 0, 5, 0, 0, 3, 2, 97, 98, 4, 56] ++ [0xCA, 0xFE], chunk := some 3 }
  have sendable : Sendable (some ("u", "p")) := by
    rintro _ _ ⟨⟩
    decide
  obtain ⟨success, left, -⟩ := handshake_takes_exactly (some ("u", "p")) "db" 27017 s rfl
    (by decide) fun _ => sendable
  have opening : ((admissions true).andThen answers).whole
      [5, 2, 1, 0, 5, 0, 0, 3, 2, 97, 98, 4, 56] :=
    ⟨[5, 2, 1, 0], [5, 0, 0, 3, 2, 97, 98, 4, 56], .signedIn rfl 1, .intro 0 (.name 2 rfl), rfl⟩
  exact ⟨s, rfl, rfl, success.mpr ⟨_, opening, _, rfl⟩, left _ _ opening rfl⟩

end ClusterAccess.Socks5
