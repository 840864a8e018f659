import ClusterAccess.Text.Hex
import ClusterAccess.Text.Numeral
import ClusterAccess.Text.Utf8

/-!
# JSON tokens

A JSON text as a list of tokens. Scanning is one step per character and stops at the first piece
that is no token; that piece stays in the list, since a reader may find fault with something
before it.

## Main definitions

* `Fault`: the three ways in which a text fails to be read.
* `Token`: marks, literals, texts, numbers, and the piece at which scanning stopped.
* `Numeral`: a number, as far as a reader of counts can tell numbers apart.
* `tokens`, `byteTokens`: the tokens of a text, and of one that is given by its bytes.
-/
namespace ClusterAccess.Json

/-- Not JSON, ended too early, or JSON of another shape than wanted. -/
inductive Fault where
  | malformed
  | ended
  | mistyped
  deriving DecidableEq, Repr

inductive Mark where
  | openObject
  | closeObject
  | openArray
  | closeArray
  | colon
  | comma
  deriving DecidableEq, Repr

/-- A count below 2^64 written in digits only, any other number, or one too large for a double. -/
inductive Numeral where
  | natural (n : Nat)
  | inexact
  | tooLarge
  deriving DecidableEq, Repr

inductive Token where
  | mark (m : Mark)
  | null
  | boolean (b : Bool)
  /-- No value if the text has a surrogate without its partner. -/
  | text (value : Option String)
  | number (n : Numeral)
  /-- Scanning stopped here, inside a text or not; the fault depends on whether the piece is read
  as a value or skipped. -/
  | broken (isText : Bool) (asRead asSkipped : Fault)
  deriving DecidableEq, Repr

/-! ## Numbers -/

/-- Which part of a number was scanned last. -/
inductive NumberPhase where
  | sign
  | zero
  | whole
  | point
  | fraction
  | exponentMark
  | exponentSign
  | exponent
  deriving DecidableEq, Repr

/-- A number as scanned so far. Digits past the range of 64 bits no longer count towards
`significand`; those of the whole part scale it by `scale` instead. -/
structure NumberParts where
  phase : NumberPhase
  negative : Bool := false
  significand : Nat := 0
  saturated : Bool := false
  scale : Int := 0
  exponentNegative : Bool := false
  exponent : Nat := 0
  deriving DecidableEq, Repr

/-- The nearest number with at most 53 significant bits, a half going to the even neighbour. -/
def round53 (n : Nat) : Nat :=
  let excess := n.log2 + 1 - 53
  let unit := 1 <<< excess
  let low := n % unit
  let floor := n / unit
  if excess = 0 then n
  else if 2 * low > unit || (2 * low = unit && floor % 2 = 1) then (floor + 1) * unit
  else floor * unit

/-- The least number that rounds beyond the largest double. -/
def doubleLimit : Nat := (1 <<< 1024) - (1 <<< 970)

/-- Whether a scanned number times its power of ten leaves the range of doubles. -/
def exceedsDouble (significand : Nat) (exponent : Int) : Bool :=
  significand != 0 && 0 < exponent &&
    (308 < exponent || doubleLimit ≤ round53 significand * round53 (Nat.pow 10 exponent.toNat))

namespace NumberParts

/-- Adds a digit of the whole part. -/
def addWhole (n : NumberParts) (digit : Nat) : NumberParts :=
  if n.saturated || UInt64.size ≤ 10 * n.significand + digit then
    { n with phase := .whole, saturated := true, scale := n.scale + 1 }
  else { n with phase := .whole, significand := 10 * n.significand + digit }

/-- Adds a digit after the point. -/
def addFraction (n : NumberParts) (digit : Nat) : NumberParts :=
  if n.phase = .point then
    -- the whole part may have stopped counting; the digits after the point start afresh
    if UInt64.size ≤ 10 * n.significand + digit then
      { n with phase := .fraction, saturated := true }
    else { n with phase := .fraction, saturated := false,
                  significand := 10 * n.significand + digit, scale := n.scale - 1 }
  else if n.saturated || UInt64.size ≤ 10 * n.significand + digit then { n with saturated := true }
  else { n with significand := 10 * n.significand + digit, scale := n.scale - 1 }

def numeral (n : NumberParts) : Numeral :=
  let scale := n.scale + (if n.exponentNegative then -(n.exponent : Int) else n.exponent)
  match n.phase with
  | .zero | .whole =>
    if n.saturated then
      if exceedsDouble n.significand scale then .tooLarge else .inexact
    else if n.negative then .inexact else .natural n.significand
  | _ => if exceedsDouble n.significand scale then .tooLarge else .inexact

end NumberParts

/-! ## Scanning -/

/-- Where in a text scanning stands. -/
inductive TextPhase where
  | plain
  | escape
  /-- The digits of an escape by number, and the leading surrogate before it. -/
  | digits (seen : List Char) (bytes : Nat) (lead : Option Nat)
  | afterLead (lead : Nat)
  | afterLeadEscape (lead : Nat)
  deriving DecidableEq, Repr

inductive Scan where
  | between
  | word (rest : List Char) (token : Token)
  | number (parts : NumberParts)
  /-- The characters so far, last first, and whether a surrogate was alone. -/
  | text (phase : TextPhase) (written : List Char) (unpaired : Bool)
  | stopped
  deriving DecidableEq, Repr

def isSpace (c : Char) : Bool := c == ' ' || c == '\n' || c == '\t' || c == '\r'

/-- A text breaks off with `fault`; one that has shown a lone surrogate was malformed before. -/
def breakText (fault : Fault) (unpaired : Bool) : Token :=
  .broken true (if unpaired then .malformed else fault) fault

def malformedPiece : Token := .broken false .malformed .malformed

/-- The step from between tokens. -/
def start (c : Char) : List Token × Scan :=
  if isSpace c then ([], .between)
  else if c = '{' then ([.mark .openObject], .between)
  else if c = '}' then ([.mark .closeObject], .between)
  else if c = '[' then ([.mark .openArray], .between)
  else if c = ']' then ([.mark .closeArray], .between)
  else if c = ':' then ([.mark .colon], .between)
  else if c = ',' then ([.mark .comma], .between)
  else if c = '"' then ([], .text .plain [] false)
  else if c = 't' then ([], .word ['r', 'u', 'e'] (.boolean true))
  else if c = 'f' then ([], .word ['a', 'l', 's', 'e'] (.boolean false))
  else if c = 'n' then ([], .word ['u', 'l', 'l'] .null)
  else if c = '-' then ([], .number { phase := .sign, negative := true })
  else if c = '0' then ([], .number { phase := .zero })
  else match Text.Numeral.digit? c with
    | some d => ([], .number { phase := .whole, significand := d })
    | none => ([malformedPiece], .stopped)

def stepNumber (n : NumberParts) (c : Char) : List Token × Scan :=
  let continued (n : NumberParts) : List Token × Scan := ([], .number n)
  let stop : List Token × Scan := ([malformedPiece], .stopped)
  let complete : List Token × Scan :=
    let next := start c
    (.number n.numeral :: next.1, next.2)
  let pointOrEnd : List Token × Scan :=
    if c = '.' then continued { n with phase := .point }
    else if c = 'e' || c = 'E' then continued { n with phase := .exponentMark }
    else complete
  match n.phase, Text.Numeral.digit? c with
  | .sign, some 0 => continued { n with phase := .zero }
  | .sign, some d => continued (n.addWhole d)
  | .sign, none => stop
  | .zero, some _ => stop
  | .zero, none => pointOrEnd
  | .whole, some d => continued (n.addWhole d)
  | .whole, none => pointOrEnd
  | .point, some d => continued (n.addFraction d)
  | .point, none => stop
  | .fraction, some d => continued (n.addFraction d)
  | .fraction, none =>
    if c = 'e' || c = 'E' then continued { n with phase := .exponentMark } else complete
  | .exponentMark, some d => continued { n with phase := .exponent, exponent := d }
  | .exponentMark, none =>
    if c = '+' then continued { n with phase := .exponentSign }
    else if c = '-' then continued { n with phase := .exponentSign, exponentNegative := true }
    else stop
  | .exponentSign, some d => continued { n with phase := .exponent, exponent := d }
  | .exponentSign, none => stop
  | .exponent, some d => continued { n with exponent := 10 * n.exponent + d }
  | .exponent, none => complete

/-- The number that four digits denote. -/
def hexNumber (digits : List Char) : Option Nat :=
  digits.foldl (fun n c => match n, Text.Hex.digitValue? c with
    | some n, some d => some (16 * n + d)
    | _, _ => none) (some 0)

def isLeadSurrogate (n : Nat) : Bool := 0xD800 ≤ n && n ≤ 0xDBFF

def isTrailSurrogate (n : Nat) : Bool := 0xDC00 ≤ n && n ≤ 0xDFFF

/-- The short escapes, by the letter after the backslash. -/
def shortEscape? (c : Char) : Option Char :=
  if c = '"' || c = '\\' || c = '/' then some c
  else if c = 'b' then some '\x08'
  else if c = 'f' then some '\x0c'
  else if c = 'n' then some '\n'
  else if c = 'r' then some '\r'
  else if c = 't' then some '\t'
  else none

/-- A number given by an escape, after the leading surrogate `lead` if there was one. -/
def stepCode (lead : Option Nat) (n : Nat) (written : List Char) (unpaired : Bool) : Scan :=
  if isLeadSurrogate n then .text (.afterLead n) written (unpaired || lead.isSome)
  else match lead with
    | some high =>
      if isTrailSurrogate n then
        let code := 0x10000 + (high - 0xD800) * 1024 + (n - 0xDC00)
        .text .plain (Char.ofNat code :: written) unpaired
      else .text .plain written true
    | none =>
      if isTrailSurrogate n then .text .plain written true
      else .text .plain (Char.ofNat n :: written) unpaired

def stepPlain (c : Char) (written : List Char) (unpaired : Bool) : List Token × Scan :=
  if c = '"' then
    ([.text (if unpaired then none else some (String.ofList written.reverse))], .between)
  else if c = '\\' then ([], .text .escape written unpaired)
  else if c.toNat < 0x20 then ([breakText .malformed unpaired], .stopped)
  else ([], .text .plain (c :: written) unpaired)

def stepEscape (c : Char) (written : List Char) (unpaired : Bool) : List Token × Scan :=
  if c = 'u' then ([], .text (.digits [] 0 none) written unpaired)
  else match shortEscape? c with
    | some plain => ([], .text .plain (plain :: written) unpaired)
    | none => ([breakText .malformed unpaired], .stopped)

def stepText (phase : TextPhase) (written : List Char) (unpaired : Bool) (c : Char) :
    List Token × Scan :=
  match phase with
  | .plain => stepPlain c written unpaired
  | .escape => stepEscape c written unpaired
  | .digits seen bytes lead =>
    let seen := c :: seen
    let bytes := bytes + c.utf8Size
    if bytes < 4 then ([], .text (.digits seen bytes lead) written unpaired)
    else match hexNumber seen.reverse with
      | some n => ([], stepCode lead n written unpaired)
      | none => ([breakText .malformed unpaired], .stopped)
  | .afterLead n =>
    if c = '\\' then ([], .text (.afterLeadEscape n) written unpaired)
    else stepPlain c written true
  | .afterLeadEscape n =>
    if c = 'u' then ([], .text (.digits [] 0 (some n)) written unpaired)
    else stepEscape c written true

def step (state : Scan) (c : Char) : List Token × Scan :=
  match state with
  | .between => start c
  | .word [] token => let next := start c; (token :: next.1, next.2)
  | .word (expected :: rest) token =>
    if c = expected then
      if rest.isEmpty then ([token], .between) else ([], .word rest token)
    else ([malformedPiece], .stopped)
  | .number parts => stepNumber parts c
  | .text phase written unpaired => stepText phase written unpaired c
  | .stopped => ([], .stopped)

/-- What the end of the text adds. -/
def finish : Scan → List Token
  | .between | .stopped => []
  | .word _ _ => [.broken false .ended .ended]
  | .number n => match n.phase with
    | .sign | .point | .exponentMark | .exponentSign => [.broken false .ended .malformed]
    | .zero | .whole | .fraction | .exponent => [.number n.numeral]
  | .text _ _ unpaired => [breakText .ended unpaired]

def tokensFrom (state : Scan) : List Char → List Token
  | [] => finish state
  | c :: rest => let next := step state c; next.1 ++ tokensFrom next.2 rest

/-- The tokens of a text, up to the first piece that is none. -/
def tokens (text : String) : List Token := tokensFrom .between text.toList

/-! ## Bytes -/

/-- The step at bytes that are no character. They end a number as a question mark would; a text that
has them has no value. -/
def stepForeign (state : Scan) : List Token × Scan :=
  match state with
  | .text .plain written _ | .text (.afterLead _) written _ => ([], .text .plain written true)
  | state => step state '?'

/-- The step at a character, if it is one. -/
def stepUnit (state : Scan) : Option Char → List Token × Scan
  | some c => step state c
  | none => stepForeign state

def unitTokensFrom (state : Scan) : List (Option Char) → List Token
  | [] => finish state
  | unit :: rest => let next := stepUnit state unit; next.1 ++ unitTokensFrom next.2 rest

/-- The tokens of a text that is given by its bytes. -/
def byteTokens (bytes : List UInt8) : List Token := unitTokensFrom .between (Text.scan bytes)

theorem unitTokensFrom_map_some (state : Scan) (s : List Char) :
    unitTokensFrom state (s.map some) = tokensFrom state s := by
  induction s generalizing state with
  | nil => rfl
  | cons c rest ih => simp [unitTokensFrom, tokensFrom, stepUnit, ih]

end ClusterAccess.Json
