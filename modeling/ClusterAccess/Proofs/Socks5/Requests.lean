import ClusterAccess.Proofs.Socks5.Order
import ClusterAccess.Proofs.Socks5.Replies
import ClusterAccess.Proofs.Text.Utf8

/-!
# What the client says to a proxy

A client offers ways of signing in, signs in if the proxy wants a password that can be sent, and
asks for a connection once it has been let in. It says nothing else, and each of the three only
after the reply to the one before has come. So a proxy that does not ask for credentials learns
nothing about them.

## Main definitions

* `requests`: all that is said to a proxy that replies in a certain way.
* `Due`: what is said next, after what has been heard and said.
* `readPasswordRequest?`: how a proxy reads a request to sign in.

## Main statements

* `readPasswordRequest?_of_some`: a request to sign in has one reading.
* `handshake_abides`: a handshake says what is due, whatever it hears.
* `handshake_says`: what is said over a stream, and what it tells about the credentials.
-/
namespace ClusterAccess.Socks5

open Conversation

/-! ## Messages -/

/-- The ways of signing in that are offered: none, and a password if there is one. -/
def offer : Option (String × String) → List UInt8
  | none => [5, 1, 0]
  | some _ => [5, 2, 0, 2]

/-- The request to sign in, if there are credentials that can be sent. -/
def signIn? (credentials : Option (String × String)) : Option (List UInt8) :=
  credentials.bind fun (username, password) => passwordRequest? username password

/-- The request for a connection, if the host can be named. -/
def connection? (host : String) (port : Nat) : Option (List UInt8) :=
  (destination? host).map (connectRequest · port)

/-- All that is said to a proxy that says `replies`. -/
def requests (credentials : Option (String × String)) (host : String) (port : Nat)
    (replies : List UInt8) : List UInt8 :=
  offer credentials ++ match replies with
    | 5 :: 0 :: _ => (connection? host port).getD []
    | 5 :: 2 :: rest =>
      match signIn? credentials, rest with
      | some request, _ :: 0 :: _ => request ++ (connection? host port).getD []
      | some request, _ => request
      | none, _ => []
    | _ => []

/-- What is said next: an offer at the beginning, a request to sign in after a wish for a password,
and a request for a connection after an admission. -/
inductive Due (credentials : Option (String × String)) (host : String) (port : Nat) :
    (heard said message : List UInt8) → Prop
  | offer : Due credentials host port [] [] (offer credentials)
  | signIn {request : List UInt8} (sendable : signIn? credentials = some request) :
      Due credentials host port [5, 2] (Socks5.offer credentials) request
  | connectFree {message : List UInt8} (named : connection? host port = some message) :
      Due credentials host port [5, 0] (Socks5.offer credentials) message
  | connectSignedIn {request message : List UInt8} (sendable : signIn? credentials = some request)
      (x : UInt8) (named : connection? host port = some message) :
      Due credentials host port [5, 2, x, 0] (Socks5.offer credentials ++ request) message

/-- A field that stands after its length, and what follows it. -/
def readField? : List UInt8 → Option (List UInt8 × List UInt8)
  | [] => none
  | n :: bytes =>
    if n.toNat ≤ bytes.length then some (bytes.take n.toNat, bytes.drop n.toNat) else none

/-- How a proxy reads a request to sign in: two texts after a one, with nothing left over. -/
def readPasswordRequest? : List UInt8 → Option (String × String)
  | 1 :: fields => do
    let (user, rest) ← readField? fields
    let (secret, []) ← readField? rest | none
    let username ← Text.decode? user
    let password ← Text.decode? secret
    some (String.ofList username, String.ofList password)
  | _ => none

theorem readField?_append {field : List UInt8} (fits : field.length ≤ 255) (rest : List UInt8) :
    readField? (UInt8.ofNat field.length :: (field ++ rest)) = some (field, rest) := by
  have length : (UInt8.ofNat field.length).toNat = field.length := by
    rw [UInt8.toNat_ofNat']
    omega
  simp [readField?, length]

theorem passwordRequest?_of_sendable {username password : String}
    (h : Sendable (some (username, password))) :
    passwordRequest? username password =
      some (1 :: UInt8.ofNat (Text.utf8Bytes username).length :: Text.utf8Bytes username ++
        UInt8.ofNat (Text.utf8Bytes password).length :: Text.utf8Bytes password) := by
  have lengths := h username password rfl
  unfold Text.utf8Length at lengths
  simp [passwordRequest?, lengths]

theorem Sendable.of_request {username password : String} {request : List UInt8}
    (h : passwordRequest? username password = some request) :
    Sendable (some (username, password)) := by
  rintro _ _ ⟨⟩
  unfold passwordRequest? at h
  dsimp only at h
  split at h
  next lengths => simpa [Text.utf8Length, and_assoc] using lengths
  next => cases h

/-- The lengths fit into their bytes, so that a proxy reads what was meant. -/
theorem readPasswordRequest?_of_some {username password : String} {request : List UInt8}
    (h : passwordRequest? username password = some request) :
    readPasswordRequest? request = some (username, password) := by
  have sendable := Sendable.of_request h
  obtain ⟨⟨-, user_fits⟩, -, secret_fits⟩ := sendable username password rfl
  rw [passwordRequest?_of_sendable sendable] at h
  cases h
  have secret := readField?_append secret_fits []
  rw [List.append_nil] at secret
  have decode (s : String) : Text.decode? (Text.utf8Bytes s) = some s.toList :=
    Text.decode?_utf8 s.toList
  simp [readPasswordRequest?, readField?_append user_fits, secret, decode]

/-! ## The choice of a method -/

theorem greeting_eq (credentials : Option (String × String)) :
    greeting credentials.isSome = offer credentials := by
  cases credentials <;> rfl

section

variable {credentials : Option (String × String)} {host : String} {port : Nat}

/-- What is left of a handshake after the choice of a method. -/
def afterChoice (credentials : Option (String × String)) (host : String) (port : Nat)
    (answered method : UInt8) : Conversation Unit :=
  match handshake credentials host port with
  | .write _ (.read _ next) => next [answered, method]
  | c => c

theorem handshake_eq :
    handshake credentials host port =
      .write (offer credentials) (readTwo (afterChoice credentials host port)) := by
  rw [handshake, negotiate.eq_def, greeting_eq]
  simp only [andThen, readTwo, write.injEq, read.injEq, true_and]
  funext bytes
  split <;> rfl

theorem afterChoice_free : afterChoice credentials host port 5 0 = connect host port := rfl

theorem afterChoice_wanted {username password : String} :
    afterChoice (some (username, password)) host port 5 2 =
      (authenticate username password).andThen fun _ => connect host port := rfl

/-- A wish for a password ends the handshake if there is none. -/
theorem afterChoice_absent (host : String) (port : Nat) :
    ∃ e, afterChoice none host port 5 2 = .done (.error e) := ⟨_, rfl⟩

/-- Any other choice ends the handshake. -/
theorem afterChoice_other (credentials : Option (String × String)) (host : String) (port : Nat)
    {answered method : UInt8} (not_free : ¬ (answered = 5 ∧ method = 0))
    (not_wanted : ¬ (answered = 5 ∧ method = 2)) :
    ∃ e, afterChoice credentials host port answered method = .done (.error e) := by
  by_cases current : answered = 5
  · subst current
    have offered : method ≠ 0 ∧ method ≠ 2 := by simpa using And.intro not_free not_wanted
    by_cases none : method = 0xFF <;>
      simp [afterChoice, handshake, negotiate, readTwo, andThen, version, offered, none, fail]
  · simp [afterChoice, handshake, negotiate, readTwo, andThen, version, current, fail]

/-- The credentials make a difference only if the proxy wants a password. -/
theorem afterChoice_unasked {answered method : UInt8}
    (not_wanted : ¬ (answered = 5 ∧ method = 2)) (credentials' : Option (String × String)) :
    afterChoice credentials host port answered method =
      afterChoice credentials' host port answered method := by
  by_cases current : answered = 5
  · subst current
    have not_wanted : method ≠ 2 := by simpa using not_wanted
    simp [afterChoice, handshake, negotiate, readTwo, andThen, version, not_wanted]
  · simp [afterChoice, handshake, negotiate, readTwo, andThen, version, current]

/-! ## What is due -/

/-- A reply of two bytes decides how to go on. -/
theorem abides_readTwo {rule : (heard said message : List UInt8) → Prop}
    {atEnd : Unit → (heard said : List UInt8) → Prop} {next : UInt8 → UInt8 → Conversation Unit}
    {heard said : List UInt8}
    (h : ∀ a b, (next a b).Abides rule atEnd (heard ++ [a, b]) said) :
    (readTwo next).Abides rule atEnd heard said := by
  intro bytes length
  rcases lt_two_or_split bytes with short | ⟨a, b, rest, rfl⟩
  · omega
  · obtain rfl : rest = [] := List.eq_nil_of_length_eq_zero (by simpa using length)
    exact h a b

/-- Nothing is said while the address that the proxy names is read. -/
theorem skipBound_abides {rule : (heard said message : List UInt8) → Prop} (type : UInt8)
    (heard said : List UInt8) :
    (skipBound type).Abides rule (fun _ _ _ => True) heard said := by
  unfold skipBound
  split
  · exact fun _ _ => trivial
  split
  · exact fun _ _ => trivial
  split
  · intro bytes _
    dsimp only
    split
    · exact fun _ _ => trivial
    · trivial
  · trivial

theorem readReply_abides {rule : (heard said message : List UInt8) → Prop}
    (heard said : List UInt8) : readReply.Abides rule (fun _ _ _ => True) heard said := by
  intro bytes _
  dsimp only
  split
  next =>
    split
    · trivial
    split
    · trivial
    · exact skipBound_abides _ _ _
  next => trivial

theorem connect_abides {rule : (heard said message : List UInt8) → Prop}
    {heard said : List UInt8}
    (due : ∀ message, connection? host port = some message → rule heard said message) :
    (connect host port).Abides rule (fun _ _ _ => True) heard said := by
  unfold connect
  cases there : destination? host with
  | none => trivial
  | some d =>
    have named : connection? host port = some (connectRequest d port) := by
      rw [connection?, there, Option.map_some]
    exact ⟨due _ named, readReply_abides _ _⟩

/-- Who signs in with success has heard a zero and said the request. -/
theorem authenticate_abides {username password : String} :
    (authenticate username password).Abides (Due (some (username, password)) host port)
      (fun _ heard said => ∃ request x, signIn? (some (username, password)) = some request ∧
        heard = [5, 2, x, 0] ∧ said = offer (some (username, password)) ++ request)
      [5, 2] (offer (some (username, password))) := by
  unfold authenticate
  cases composed : passwordRequest? username password with
  | none => trivial
  | some request =>
    have sendable : signIn? (some (username, password)) = some request := composed
    refine ⟨.signIn sendable, abides_readTwo fun x status => ?_⟩
    by_cases accepted : status = 0
    · subst accepted
      exact ⟨request, x, sendable, rfl, rfl⟩
    · simp [accepted, fail, Abides]

/-- A handshake says what is due, whatever it hears. -/
theorem handshake_abides (credentials : Option (String × String)) (host : String) (port : Nat) :
    (handshake credentials host port).Abides (Due credentials host port) (fun _ _ _ => True)
      [] [] := by
  rw [handshake_eq]
  refine ⟨.offer, abides_readTwo fun answered method => ?_⟩
  by_cases free : answered = 5 ∧ method = 0
  case pos =>
    obtain ⟨rfl, rfl⟩ := free
    rw [afterChoice_free]
    exact connect_abides fun _ named => .connectFree named
  by_cases wanted : answered = 5 ∧ method = 2
  case neg =>
    obtain ⟨e, ended⟩ := afterChoice_other credentials host port free wanted
    rw [ended]
    trivial
  obtain ⟨rfl, rfl⟩ := wanted
  cases credentials with
  | none =>
    obtain ⟨e, ended⟩ := afterChoice_absent host port
    rw [ended]
    trivial
  | some pair =>
    rw [afterChoice_wanted]
    refine authenticate_abides.andThen fun _ heard said signedIn => ?_
    obtain ⟨request, x, sendable, rfl, rfl⟩ := signedIn
    exact connect_abides fun _ named => .connectSignedIn sendable x named

/-! ## All that is said -/

section

variable {atEnd : IoError}

theorem eq_nil_or_singleton {bytes : List UInt8} (short : bytes.length < 2) :
    bytes = [] ∨ ∃ a, bytes = [a] := by
  rcases bytes with _ | ⟨a, _ | ⟨b, rest⟩⟩
  · exact .inl rfl
  · exact .inr ⟨a, rfl⟩
  · simp only [List.length_cons] at short
    omega

theorem hear_connect_said (bytes : List UInt8) :
    ((connect host port).hear atEnd bytes).2.2 = (connection? host port).getD [] := by
  unfold connect connection?
  cases destination? host with
  | none => rfl
  | some d => simp [hear, (readReply_abides [] []).hear_said_eq_nil]

theorem hear_signIn_said {username password : String} (bytes : List UInt8) :
    (((authenticate username password).andThen fun _ => connect host port).hear atEnd bytes).2.2 =
      match signIn? (some (username, password)), bytes with
      | some request, _ :: 0 :: _ => request ++ (connection? host port).getD []
      | some request, _ => request
      | none, _ => [] := by
  have composed : signIn? (some (username, password)) = passwordRequest? username password := rfl
  rw [hear_andThen, authenticate, composed]
  cases passwordRequest? username password with
  | none => rfl
  | some request =>
    rcases lt_two_or_split bytes with short | ⟨x, status, rest, rfl⟩
    · simp only [hear, hear_readTwo_short _ short, List.append_nil]
      obtain rfl | ⟨a, rfl⟩ := eq_nil_or_singleton short <;> rfl
    simp only [hear, hear_readTwo]
    by_cases accepted : status = 0
    · subst accepted
      simp [succeed, hear, hear_connect_said]
    · simp [accepted, fail, hear]

/-- Over a stream that accepts everything, exactly the requests are said. -/
theorem hear_handshake_said (bytes : List UInt8) :
    ((handshake credentials host port).hear atEnd bytes).2.2 =
      requests credentials host port bytes := by
  rw [handshake_eq, hear, requests.eq_def]
  rcases lt_two_or_split bytes with short | ⟨answered, method, rest, rfl⟩
  · rw [hear_readTwo_short _ short]
    obtain rfl | ⟨a, rfl⟩ := eq_nil_or_singleton short
    · rfl
    · simp
  rw [hear_readTwo]
  refine congrArg (offer credentials ++ ·) ?_
  by_cases free : answered = 5 ∧ method = 0
  case pos =>
    obtain ⟨rfl, rfl⟩ := free
    rw [afterChoice_free]
    exact hear_connect_said rest
  by_cases wanted : answered = 5 ∧ method = 2
  case neg =>
    obtain ⟨e, ended⟩ := afterChoice_other credentials host port free wanted
    rw [ended]
    split <;> simp_all [hear]
  obtain ⟨rfl, rfl⟩ := wanted
  cases credentials with
  | none =>
    obtain ⟨e, ended⟩ := afterChoice_absent host port
    rw [ended]
    rfl
  | some pair =>
    rw [afterChoice_wanted]
    exact hear_signIn_said rest

end

/-- A proxy that does not want a password is told the same whatever the credentials are, and the
outcome is the same. -/
theorem handshake_run_unasked {s : Channel} (unasked : ¬ [5, 2] <+: s.incoming)
    (pair pair' : String × String) :
    (handshake (some pair) host port).run s = (handshake (some pair') host port).run s := by
  simp only [handshake_eq, offer, run]
  have wrote := s.writeAll_wrote [5, 2, 0, 2] (Nat.lt_succ_self _)
  generalize s.writeAll [5, 2, 0, 2] _ = outcome at wrote
  cases wrote with
  | part => rfl
  | whole =>
    simp only [readTwo, run]
    rw [Channel.readExactly_eq _ 2 [] (by omega)]
    rcases lt_two_or_split s.incoming with short | ⟨answered, method, rest, split⟩
    · simp [Nat.not_le.mpr short]
    have not_wanted : ¬ (answered = 5 ∧ method = 2) := by
      rintro ⟨rfl, rfl⟩
      exact unasked ⟨rest, split.symm⟩
    simp [split, afterChoice_unasked not_wanted (some pair')]

/-- Whatever the proxy says and however much the stream accepts, a client says the requests that are
due for these replies or the beginning of them, each after the replies that come before it and none
of the later ones. A request to sign in is read as the user and the password that were meant. A
proxy that does not want a password cannot tell two clients apart that have one. -/
theorem handshake_says (credentials : Option (String × String)) (host : String) (port : Nat)
    (s : Channel) :
    (∃ said, ((handshake credentials host port).run s).2.sent = s.sent ++ said ∧
      said <+: requests credentials host port s.incoming ∧
      (s.room = none → said = requests credentials host port s.incoming)) ∧
    (∀ message next t, Reaches (handshake credentials host port, s) (.write message next, t) →
      ∃ heard said, s.incoming = heard ++ t.incoming ∧ t.sent = s.sent ++ said ∧
        Due credentials host port heard said message) ∧
    (∀ username password,
      ((passwordRequest? username password).isSome ↔ Sendable (some (username, password))) ∧
      ∀ request, passwordRequest? username password = some request →
        readPasswordRequest? request = some (username, password)) ∧
    (¬ [5, 2] <+: s.incoming → ∀ pair pair',
      (handshake (some pair) host port).run s = (handshake (some pair') host port).run s) := by
  refine ⟨?_, fun message next t reaches => ?_, fun username password => ?_,
    handshake_run_unasked⟩
  · obtain ⟨said, sent, within⟩ := (handshake credentials host port).run_sent s
    rw [hear_handshake_said] at within
    refine ⟨said, sent, within, fun room => ?_⟩
    rw [run_eq_hear _ s room, hear_handshake_said] at sent
    exact (List.append_cancel_left sent).symm
  · obtain ⟨heard, said, underway⟩ := (handshake_abides credentials host port).of_reaches reaches
    exact ⟨heard, said, underway.incoming, underway.sent, underway.abides.1⟩
  · refine ⟨⟨fun some => ?_, fun sendable => ?_⟩, fun _ => readPasswordRequest?_of_some⟩
    · obtain ⟨request, composed⟩ := Option.isSome_iff_exists.mp some
      exact Sendable.of_request composed
    · exact Option.isSome_iff_exists.mpr sendable.request

/-- A proxy that wants a password hears all three messages. One that lets the client in at once does
not hear whose client it is, even if it takes only five bytes. -/
theorem handshake_says_password :
    (∃ s : Channel, s.incoming = [5, 2, 1, 0] ∧
      ((handshake (some ("ab", "p")) "db" 27017).run s).2.sent =
        [5, 2, 0, 2] ++ [1, 2, 97, 98, 1, 112] ++ [5, 1, 0, 3, 2, 100, 98, 105, 137]) ∧
    ∃ s : Channel, s.incoming = [5, 0] ∧ s.room = some (5, .endOfStream) ∧
      (handshake (some ("ab", "p")) "db" 27017).run s =
        (handshake (some ("a", "bp")) "db" 27017).run s := by
  let asked : Channel := { incoming := [5, 2, 1, 0], chunk := some 1 }
  let full : Channel := { incoming := [5, 0], room := some (5, .endOfStream) }
  obtain ⟨⟨said, sent, -, all⟩, -⟩ := handshake_says (some ("ab", "p")) "db" 27017 asked
  obtain ⟨-, -, -, unasked⟩ := handshake_says (some ("ab", "p")) "db" 27017 full
  refine ⟨⟨asked, rfl, ?_⟩, full, rfl, rfl, unasked (by decide) _ _⟩
  rw [sent, all rfl]
  decide

end

end ClusterAccess.Socks5
