import ClusterAccess.IoError

/-!
# Conversations

One side of an exchange of bytes: what to write, how many bytes to wait for, and how to go on.

## Main definitions

* `Conversation`: the steps of one side.
* `Conversation.andThen`: one conversation after another.
* `Channel`, `Conversation.run`: a conversation over a stream that delivers and accepts bytes in
  pieces.
* `Peer`, `Conversation.meet`: a conversation with a peer that follows a script.
-/
namespace ClusterAccess.Socks5

inductive Conversation (α : Type) where
  | done (result : Except IoError α)
  | write (bytes : List UInt8) (next : Conversation α)
  /-- Goes on with exactly `count` bytes. -/
  | read (count : Nat) (next : List UInt8 → Conversation α)

namespace Conversation

def fail (kind : IoKind) (message : String) : Conversation α := .done (.error ⟨kind, message⟩)

/-- Goes on with `next` if the first conversation succeeds. -/
def andThen (c : Conversation α) (next : α → Conversation β) : Conversation β :=
  match c with
  | .done (.ok a) => next a
  | .done (.error e) => .done (.error e)
  | .write bytes rest => .write bytes (rest.andThen next)
  | .read count rest => .read count fun bytes => (rest bytes).andThen next

end Conversation

/-! ## Streams -/

/-- The two directions of a stream. -/
structure Channel where
  /-- The bytes that are still to be delivered. -/
  incoming : List UInt8
  /-- The most bytes delivered at a time; all of them if there is no such limit. -/
  chunk : Option Nat := none
  /-- What a read meets after the last byte. -/
  atEnd : IoError := .endOfStream
  /-- The bytes accepted so far. -/
  sent : List UInt8 := []
  /-- How many bytes are accepted altogether, and what a write meets then. -/
  room : Option (Nat × IoError) := none
  /-- The most bytes accepted at a time. -/
  acceptChunk : Option Nat := none
  deriving Repr

namespace Channel

/-- A limit that is absent, or zero by mistake, does not bind. -/
def limited (limit : Option Nat) (n : Nat) : Nat :=
  match limit with
  | some (k + 1) => min (k + 1) n
  | _ => n

/-- Reads until `count` bytes have come, piece by piece; what came before a failure is lost. -/
def readExactly (c : Channel) (count : Nat) (taken : List UInt8) (fuel : Nat) :
    Except IoError (List UInt8) × Channel :=
  match fuel with
  | 0 => (.ok taken, c)
  | fuel + 1 =>
    if count = 0 then (.ok taken, c)
    else if c.incoming.isEmpty then (.error c.atEnd, c)
    else
      let piece := limited c.chunk (min count c.incoming.length)
      let rest := { c with incoming := c.incoming.drop piece }
      rest.readExactly (count - piece) (taken ++ c.incoming.take piece) fuel

/-- Writes all the bytes, piece by piece. -/
def writeAll (c : Channel) (bytes : List UInt8) (fuel : Nat) : Except IoError Unit × Channel :=
  match fuel with
  | 0 => (.ok (), c)
  | fuel + 1 =>
    if bytes.isEmpty then (.ok (), c)
    else
      let (free, fault) : Nat × Option IoError := match c.room with
        | some (most, e) => (most - c.sent.length, some e)
        | none => (bytes.length, none)
      match free, fault with
      | 0, some e => (.error e, c)
      | _, _ =>
        let piece := limited c.acceptChunk (min free bytes.length)
        { c with sent := c.sent ++ bytes.take piece }.writeAll (bytes.drop piece) fuel

end Channel

/-- The outcome of a conversation over a stream, and the stream afterwards. -/
def Conversation.run (c : Conversation α) (s : Channel) : Except IoError α × Channel :=
  match c with
  | .done result => (result, s)
  | .write bytes next =>
    match s.writeAll bytes (bytes.length + 1) with
    | (.ok (), s) => next.run s
    | (.error e, s) => (.error e, s)
  | .read count next =>
    match s.readExactly count [] (count + 1) with
    | (.ok bytes, s) => (next bytes).run s
    | (.error e, s) => (.error e, s)

/-! ## Scripted peers -/

/-- What a scripted peer does next; after its last step it closes the connection. -/
inductive PeerStep where
  | take (count : Nat)
  | give (bytes : List UInt8)
  /-- Stays silent from here on. -/
  | silent
  deriving DecidableEq, Repr

structure Peer where
  script : List PeerStep
  /-- Bytes on the way to the peer. -/
  inbox : List UInt8 := []
  /-- Bytes on the way from the peer. -/
  outbox : List UInt8 := []
  /-- The bytes of completed steps that take some. -/
  received : List UInt8 := []
  deriving Repr

namespace Peer

/-- Lets the peer go as far as it can with the bytes it has. -/
def advance (p : Peer) : Peer :=
  go p.script p
where
  go (steps : List PeerStep) (p : Peer) : Peer :=
    match steps with
    | [] => { p with script := [] }
    | .take n :: rest =>
      if n ≤ p.inbox.length then
        go rest { p with inbox := p.inbox.drop n, received := p.received ++ p.inbox.take n }
      else { p with script := .take n :: rest }
    | .give bytes :: rest => go rest { p with outbox := p.outbox ++ bytes }
    | .silent :: rest => { p with script := .silent :: rest }

def isClosed (p : Peer) : Bool := p.script.isEmpty

end Peer

/-- The outcome of a conversation with a peer, or nothing if each waits for the other for ever. -/
def Conversation.meet (c : Conversation α) (p : Peer) : Option (Except IoError α) × Peer :=
  match c with
  | .done result => (some result, p)
  | .write bytes next => next.meet { p with inbox := p.inbox ++ bytes }.advance
  | .read count next =>
    let p := p.advance
    if count ≤ p.outbox.length then
      (next (p.outbox.take count)).meet { p with outbox := p.outbox.drop count }
    else if p.isClosed then (some (.error .endOfStream), p)
    else (none, p)

end ClusterAccess.Socks5
