import SqlAssist.Json.Basic
import SqlAssist.Json.Number

/-! # Reading values of a known shape

A text is read in one pass from left to right, so the first fault in the text is the one reported.
Records are written as objects, or as arrays of their fields in order. -/
namespace SqlAssist.Json

def readFound (t : Text) : Except Fault Found :=
  match t with
  | [] => .error .endOfText
  | 'n' :: rest => do
    let _ ← skipLiteral "ull".toList rest
    return .null
  | 't' :: rest => do
    let _ ← skipLiteral "rue".toList rest
    return .boolean true
  | 'f' :: rest => do
    let _ ← skipLiteral "alse".toList rest
    return .boolean false
  | '"' :: rest => do
    let (s, _) ← readQuoted rest
    return .string s
  | '[' :: _ => .ok .sequence
  | '\x7b' :: _ => .ok .map
  | '-' :: rest => do
    let (number, _) ← readNumber true rest
    return number.found
  | c :: rest =>
    if c.isDigit then do
      let (number, _) ← readNumber false (c :: rest)
      return number.found
    else .error .malformed

def unexpected {α : Type} (expected : Text) (t : Text) : Except Fault α := do
  let found ← readFound t
  throw (.mismatch (.invalidType found expected))

def readBool : Reader Bool := fun t =>
  match skipSpace t with
  | 't' :: rest => do
    let rest ← skipLiteral "rue".toList rest
    return (true, rest)
  | 'f' :: rest => do
    let rest ← skipLiteral "alse".toList rest
    return (false, rest)
  | t => unexpected "a boolean".toList t

def readString : Reader Text := fun t =>
  match skipSpace t with
  | '"' :: rest => readQuoted rest
  | t => unexpected "a string".toList t

def inRange (low high : Int) (expected : Text) : Number → Except Fault Int
  | .integer i =>
    if low ≤ i ∧ i ≤ high then .ok i else .error (.mismatch (.outOfRange i expected))
  | number => .error (.mismatch (.invalidType number.found expected))

def readInteger (low high : Int) (expected : Text) : Reader Int := fun t =>
  match skipSpace t with
  | '-' :: rest => do
    let (number, rest) ← readNumber true rest
    let i ← inRange low high expected number
    return (i, rest)
  | c :: rest =>
    if c.isDigit then do
      let (number, rest) ← readNumber false (c :: rest)
      let i ← inRange low high expected number
      return (i, rest)
    else unexpected expected (c :: rest)
  | [] => .error .endOfText

def readInt32 : Reader Int32 := fun t => do
  let (i, rest) ← readInteger (-0x80000000) 0x7FFFFFFF "i32".toList t
  return (Int32.ofInt i, rest)

def readUInt8 : Reader UInt8 := fun t => do
  let (i, rest) ← readInteger 0 255 "u8".toList t
  return (UInt8.ofNat i.toNat, rest)

def readOptional {α : Type} (read : Reader α) : Reader (Option α) := fun t =>
  match skipSpace t with
  | 'n' :: rest => do
    let rest ← skipLiteral "ull".toList rest
    return (none, rest)
  | t => do
    let (a, rest) ← read t
    return (some a, rest)

/-- Reads the elements of an array behind the first one, through the closing bracket, in at most
`steps` steps. Every step takes a comma, so as many steps as there are characters are enough, and
when none are left the text has ended. -/
def readElementsIn {α : Type} (read : Reader α) : Nat → Reader (List α)
  | 0, _ => .error .endOfText
  | steps + 1, t =>
    match skipSpace t with
    | [] => .error .endOfText
    | ']' :: rest => .ok ([], rest)
    | ',' :: rest =>
      match skipSpace rest with
      | [] => .error .endOfText
      | ']' :: _ => .error .malformed
      | rest => do
        let (a, rest) ← read rest
        let (as, rest) ← readElementsIn read steps rest
        return (a :: as, rest)
    | _ => .error .malformed

def readList {α : Type} (read : Reader α) : Reader (List α) := fun t =>
  match skipSpace t with
  | [] => .error .endOfText
  | '[' :: rest =>
    match skipSpace rest with
    | [] => .error .endOfText
    | ']' :: rest => .ok ([], rest)
    | rest => do
      let (a, rest) ← read rest
      let (as, rest) ← readElementsIn read rest.length rest
      return (a :: as, rest)
  | t => unexpected "a sequence".toList t

structure RecordField (β : Type) where
  key : Text
  isSet : β → Bool
  read : β → Reader β

def RecordField.of {β γ : Type} (key : Text) (get : β → Option γ) (set : β → γ → β)
    (read : Reader γ) : RecordField β where
  key := key
  isSet parts := (get parts).isSome
  read parts t := do
    let (value, rest) ← read t
    return (set parts value, rest)

/-- A record: its name, its fields in order, and how it is put together from its parts, which gives
the key of the first field that is missing if one is. -/
structure Shape (α β : Type) where
  name : Text
  fields : List (RecordField β)
  start : β
  build : β → Except Text α

namespace Shape

variable {α β : Type}

def expectation (shape : Shape α β) : Text := "struct ".toList ++ shape.name

/-- Reads a member whose opening quote has been read. A key that is given twice is a fault before
its value is looked at, and the values of unknown keys are skipped. -/
def readMember (shape : Shape α β) (parts : β) : Reader β := fun t => do
  let (key, rest) ← readQuoted t
  match shape.fields.find? (·.key == key) with
  | some field =>
    if field.isSet parts then throw (.mismatch (.duplicateField key))
    else
      let rest ← skipColon rest
      field.read parts rest
  | none =>
    let rest ← skipColon rest
    let rest ← skipValue rest
    return (parts, rest)

/-- Reads the members of an object behind the first one, through the closing brace, in at most
`steps` steps; as for arrays, as many as there are characters are enough. -/
def readMembersIn (shape : Shape α β) : Nat → β → Reader β
  | 0, _, _ => .error .endOfText
  | steps + 1, parts, t =>
    match skipSpace t with
    | [] => .error .endOfText
    | '\x7d' :: rest => .ok (parts, rest)
    | ',' :: rest =>
      match skipSpace rest with
      | [] => .error .endOfText
      | '"' :: rest => do
        let (parts, rest) ← shape.readMember parts rest
        shape.readMembersIn steps parts rest
      | _ => .error .malformed
    | _ => .error .malformed

def readObject (shape : Shape α β) : Reader β := fun t =>
  match skipSpace t with
  | [] => .error .endOfText
  | '\x7d' :: rest => .ok (shape.start, rest)
  | '"' :: rest => do
    let (parts, rest) ← shape.readMember shape.start rest
    shape.readMembersIn rest.length parts rest
  | _ => .error .malformed

def readEnd : Reader Unit := fun t =>
  match skipSpace t with
  | [] => .error .endOfText
  | ']' :: rest => .ok ((), rest)
  | _ => .error .malformed

/-- Reads fields in order, of which `count` have been read, through the closing bracket; gives the
parts and how many fields there were. -/
def readPositions (fields : List (RecordField β)) (count : Nat) (parts : β) :
    Reader (β × Nat) := fun t =>
  match fields with
  | [] => do
    let ((), rest) ← readEnd t
    return ((parts, count), rest)
  | field :: fields =>
    match skipSpace t with
    | [] => .error .endOfText
    | ']' :: rest => .ok ((parts, count), rest)
    | c :: rest =>
      if count = 0 then do
        let (parts, rest) ← field.read parts (c :: rest)
        readPositions fields (count + 1) parts rest
      else if c = ',' then
        match skipSpace rest with
        | [] => .error .endOfText
        | ']' :: _ => .error .malformed
        | rest => do
          let (parts, rest) ← field.read parts rest
          readPositions fields (count + 1) parts rest
      else .error .malformed

def read (shape : Shape α β) : Reader α := fun t =>
  match skipSpace t with
  | [] => .error .endOfText
  | '[' :: rest => do
    let ((parts, count), rest) ← readPositions shape.fields 0 shape.start rest
    match shape.build parts with
    | .ok a => return (a, rest)
    | .error _ =>
      throw (.mismatch (.invalidLength count
        (shape.expectation ++ " with ".toList ++ Text.ofNat shape.fields.length ++
          " elements".toList)))
  | '\x7b' :: rest => do
    let (parts, rest) ← shape.readObject rest
    match shape.build parts with
    | .ok a => return (a, rest)
    | .error key => throw (.mismatch (.missingField key))
  | t => unexpected shape.expectation t

end Shape

def readWhole {α : Type} (read : Reader α) (t : Text) : Except Fault α := do
  let (a, rest) ← read t
  if skipSpace rest = [] then return a else throw .malformed

end SqlAssist.Json
