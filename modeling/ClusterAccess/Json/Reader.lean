import ClusterAccess.Json.Token

/-!
# Typed reading of JSON

A reader takes a value off the front of a token list. The first thing that is wrong, from left to
right, decides the fault.

## Main definitions

* `Reader`: reads a value of a type.
* `text`, `natural`, `optional`, `list`: the readers of the basic shapes.
* `skip`: passes over one value of any shape.
* `record`: reads a record from an object with known keys, or from an array in field order.
* `read`, `readBytes`: reads a whole text, or one that is given by its bytes.
-/
namespace ClusterAccess.Json

abbrev Reader (α : Type) := List Token → Except Fault (α × List Token)

/-- The fault of what stands where a value of another shape is wanted. -/
def faultAt : List Token → Fault
  | [] => .ended
  | .mark .openObject :: _ | .mark .openArray :: _ => .mistyped
  | .mark _ :: _ => .malformed
  | .text none :: _ => .malformed
  | .number .tooLarge :: _ => .malformed
  | .broken _ asRead _ :: _ => asRead
  | _ => .mistyped

namespace Reader

def map (f : α → β) (r : Reader α) : Reader β := fun ts =>
  match r ts with
  | .ok (a, rest) => .ok (f a, rest)
  | .error fault => .error fault

/-- Reads with `r` and keeps what `f` makes of the value; the value is of the wrong type if that is
nothing. -/
def filterMap (f : α → Option β) (r : Reader α) : Reader β := fun ts =>
  match r ts with
  | .ok (a, rest) => match f a with
    | some b => .ok (b, rest)
    | none => .error .mistyped
  | .error fault => .error fault

end Reader

def text : Reader String
  | .text (some s) :: rest => .ok (s, rest)
  | ts => .error (faultAt ts)

/-- A count up to `limit`. -/
def natural (limit : Nat) : Reader Nat
  | .number (.natural n) :: rest => if n ≤ limit then .ok (n, rest) else .error .mistyped
  | ts => .error (faultAt ts)

/-- `null` stands for an absent value. -/
def optional (r : Reader α) : Reader (Option α)
  | .null :: rest => .ok (none, rest)
  | ts => r.map some ts

/-! ## Skipping -/

inductive Frame where
  | object
  | array
  deriving DecidableEq, Repr

/-- What may come next within a value that is skipped, and the frames around that place. -/
inductive Expected where
  | value (around : List Frame)
  | first (frame : Frame) (around : List Frame)
  | next (frame : Frame) (around : List Frame)
  | key (around : List Frame)
  | colon (around : List Frame)
  deriving DecidableEq, Repr

/-- A value has ended inside `around`. -/
def Expected.after : List Frame → Option Expected
  | [] => none
  | frame :: around => some (.next frame around)

def skipValue (around : List Frame) : Token → Except Fault (Option Expected)
  | .mark .openObject => .ok (some (.first .object around))
  | .mark .openArray => .ok (some (.first .array around))
  | .mark _ => .error .malformed
  | .broken _ _ asSkipped => .error asSkipped
  | .null | .boolean _ | .text _ | .number _ => .ok (Expected.after around)

/-- A key of the innermost of the frames, which is an object. -/
def skipKey (frames : List Frame) : Token → Except Fault (Option Expected)
  | .text _ => .ok (some (.colon frames))
  | .broken true _ asSkipped => .error asSkipped
  | _ => .error .malformed

/-- One token of a skipped value; nothing more is expected once the value is complete. -/
def Expected.step : Expected → Token → Except Fault (Option Expected)
  | .value around, t => skipValue around t
  | .first .object around, t =>
    if t = .mark .closeObject then .ok (Expected.after around) else skipKey (.object :: around) t
  | .first .array around, t =>
    if t = .mark .closeArray then .ok (Expected.after around) else skipValue (.array :: around) t
  | .next .object around, t =>
    if t = .mark .closeObject then .ok (Expected.after around)
    else if t = .mark .comma then .ok (some (.key (.object :: around)))
    else .error .malformed
  | .next .array around, t =>
    if t = .mark .closeArray then .ok (Expected.after around)
    else if t = .mark .comma then .ok (some (.value (.array :: around)))
    else .error .malformed
  | .key frames, t => skipKey frames t
  | .colon frames, t =>
    if t = .mark .colon then .ok (some (.value frames)) else .error .malformed

def skipFrom (e : Expected) : Reader Unit
  | [] => .error .ended
  | t :: rest =>
    match e.step t with
    | .error fault => .error fault
    | .ok none => .ok ((), rest)
    | .ok (some e) => skipFrom e rest

/-- Passes over one value. Its numbers may be of any size and its texts may have lone
surrogates. -/
def skip : Reader Unit := skipFrom (.value [])

/-! ## Arrays -/

/-- Whether another element follows in an array; the end of the array is left in place. -/
def nextElement (first : Bool) : Reader Bool
  | [] => .error .ended
  | .mark .closeArray :: rest => .ok (false, .mark .closeArray :: rest)
  | .mark .comma :: rest =>
    if first then .ok (true, .mark .comma :: rest)
    else match rest with
      | [] => .error .ended
      | .mark .closeArray :: _ => .error .malformed
      | _ => .ok (true, rest)
  | ts => if first then .ok (true, ts) else .error .malformed

def endArray : Reader Unit
  | [] => .error .ended
  | .mark .closeArray :: rest => .ok ((), rest)
  | _ => .error .malformed

/-- The elements up to the end of an array, with `fuel` for at least as many tokens. -/
def elements (r : Reader α) (fuel : Nat) (first : Bool) : Reader (List α) := fun ts =>
  match fuel with
  | 0 => .error .ended
  | fuel + 1 =>
    match nextElement first ts with
    | .error fault => .error fault
    | .ok (false, rest) => (endArray.map fun _ => []) rest
    | .ok (true, rest) =>
      match r rest with
      | .error fault => .error fault
      | .ok (a, rest) => ((elements r fuel false).map (a :: ·)) rest

def list (r : Reader α) : Reader (List α)
  | .mark .openArray :: rest => elements r (rest.length + 1) true rest
  | ts => .error (faultAt ts)

/-! ## Records -/

/-- Whether a field may be left out. -/
inductive Presence where
  | required
  /-- Only where fields have names. -/
  | optionalByName
  | optional
  deriving DecidableEq, Repr

structure FieldReader (σ : Type) where
  name : String
  presence : Presence
  read : σ → Reader σ

def FieldReader.of (name : String) (presence : Presence) (r : Reader α) (set : σ → α → σ) :
    FieldReader σ :=
  ⟨name, presence, fun s => r.map (set s)⟩

def key : Reader String
  | [] => .error .ended
  | .text (some name) :: rest => .ok (name, rest)
  | .broken true asRead _ :: _ => .error asRead
  | _ => .error .malformed

/-- The next key of an object, or nothing at the object's end. -/
def nextKey (first : Bool) : Reader (Option String)
  | [] => .error .ended
  | .mark .closeObject :: rest => .ok (none, rest)
  | .mark .comma :: rest => if first then .error .malformed else key.map some rest
  | ts => if first then key.map some ts else .error .malformed

def colon : Reader Unit
  | [] => .error .ended
  | .mark .colon :: rest => .ok ((), rest)
  | _ => .error .malformed

/-- The members up to the end of an object, with the names of the fields read before. A known key
may not come twice; an unknown one is passed over. -/
def members (fields : List (FieldReader σ)) (fuel : Nat) (first : Bool) (seen : List String)
    (s : σ) : Reader σ := fun ts =>
  match fuel with
  | 0 => .error .ended
  | fuel + 1 =>
    match nextKey first ts with
    | .error fault => .error fault
    | .ok (none, rest) =>
      if fields.all fun f => f.presence != .required || seen.contains f.name then .ok (s, rest)
      else .error .mistyped
    | .ok (some name, rest) =>
      match fields.find? (·.name == name) with
      | none =>
        match colon rest with
        | .error fault => .error fault
        | .ok ((), rest) =>
          match skip rest with
          | .error fault => .error fault
          | .ok ((), rest) => members fields fuel false seen s rest
      | some field =>
        if seen.contains name then .error .mistyped
        else match colon rest with
          | .error fault => .error fault
          | .ok ((), rest) =>
            match field.read s rest with
            | .error fault => .error fault
            | .ok (s, rest) => members fields fuel false (name :: seen) s rest

/-- The fields in order, up to the end of an array. -/
def positional (fields : List (FieldReader σ)) (first : Bool) (s : σ) : Reader σ := fun ts =>
  match fields with
  | [] => (endArray.map fun _ => s) ts
  | field :: others =>
    match nextElement first ts with
    | .error fault => .error fault
    | .ok (false, rest) =>
      if (field :: others).all (·.presence == .optional) then (endArray.map fun _ => s) rest
      else .error .mistyped
    | .ok (true, rest) =>
      match field.read s rest with
      | .error fault => .error fault
      | .ok (s, rest) => positional others false s rest

/-- A record whose absent fields are as in `initial`. -/
def record (fields : List (FieldReader σ)) (initial : σ) : Reader σ
  | .mark .openObject :: rest => members fields (rest.length + 1) true [] initial rest
  | .mark .openArray :: rest => positional fields true initial rest
  | ts => .error (faultAt ts)

/-- Reads a value with no tokens after it. -/
def readAll (r : Reader α) (ts : List Token) : Except Fault α :=
  match r ts with
  | .error fault => .error fault
  | .ok (a, []) => .ok a
  | .ok (_, _ :: _) => .error .malformed

/-- Reads a text that holds one value and nothing after it. -/
def read (r : Reader α) (input : String) : Except Fault α := readAll r (tokens input)

/-- Reads bytes. Only texts that are read have to be text; those that are passed over may be
anything. -/
def readBytes (r : Reader α) (input : List UInt8) : Except Fault α := readAll r (byteTokens input)

end ClusterAccess.Json
