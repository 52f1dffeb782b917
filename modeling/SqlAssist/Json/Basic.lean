import SqlAssist.Character.Case
import SqlAssist.Character.Word
import SqlAssist.Text

/-! # Strings and faults of JSON

A text can end too early, break the rules of JSON, or be JSON of another shape than expected. Strings
are read without their opening quote: the reader of a value has already seen it. A value that nobody
asked for is read over without looking at what it stands for: its numbers may be of any size and
halves of surrogate pairs may stand alone. Values are written without white space. -/
namespace SqlAssist.Json

inductive Found where
  | null
  | boolean (b : Bool)
  | integer (i : Int)
  | decimal (shown : Text)
  | string (t : Text)
  | sequence
  | map
deriving DecidableEq, Repr

inductive Mismatch where
  | missingField (key : Text)
  | duplicateField (key : Text)
  | invalidType (found : Found) (expected : Text)
  | outOfRange (value : Int) (expected : Text)
  | invalidLength (count : Nat) (expected : Text)
deriving DecidableEq, Repr

inductive Fault where
  | endOfText
  | malformed
  | mismatch (m : Mismatch)
deriving DecidableEq, Repr

open Character in
/-- A character as it stands in a quoted text: escaped if it is a quote or a backslash, cannot be
seen, or would be drawn onto the character before it. -/
def quotedChar (c : Char) : Text :=
  if c = '\x00' then ['\\', '0']
  else if c = '\t' then ['\\', 't']
  else if c = '\r' then ['\\', 'r']
  else if c = '\n' then ['\\', 'n']
  else if c = '\\' ∨ c = '"' then ['\\', c]
  else if isOverlaid c || !isPrintable c then
    '\\' :: 'u' :: '\x7b' :: Nat.toDigits 16 c.toNat ++ ['\x7d']
  else [c]

def quoted (t : Text) : Text := '"' :: t.flatMap quotedChar ++ ['"']

def Found.message : Found → Text
  | .null => "null".toList
  | .boolean b => "boolean `".toList ++ (if b then "true" else "false").toList ++ ['\x60']
  | .integer i => "integer `".toList ++ Text.ofInt i ++ ['\x60']
  | .decimal shown => "floating point `".toList ++ shown ++ ['\x60']
  | .string t => "string ".toList ++ quoted t
  | .sequence => "sequence".toList
  | .map => "map".toList

def Mismatch.message : Mismatch → Text
  | .missingField key => "missing field `".toList ++ key ++ ['\x60']
  | .duplicateField key => "duplicate field `".toList ++ key ++ ['\x60']
  | .invalidType found expected =>
    "invalid type: ".toList ++ found.message ++ ", expected ".toList ++ expected
  | .outOfRange value expected =>
    "invalid value: integer `".toList ++ Text.ofInt value ++ "`, expected ".toList ++ expected
  | .invalidLength count expected =>
    "invalid length ".toList ++ Text.ofNat count ++ ", expected ".toList ++ expected

abbrev Reader (α : Type) := Text → Except Fault (α × Text)

def hexValue? (c : Char) : Option Nat :=
  if c.isDigit then some (c.toNat - '0'.toNat)
  else if 'a' ≤ c ∧ c ≤ 'f' then some (c.toNat - 'a'.toNat + 10)
  else if 'A' ≤ c ∧ c ≤ 'F' then some (c.toNat - 'A'.toNat + 10)
  else none

/-- Reads four hexadecimal digits. Fewer than four bytes mean that the text ends too early,
whatever they are. -/
def readHex : Reader Nat := fun t =>
  if Text.size t < 4 then .error .endOfText
  else
    match t with
    | a :: b :: c :: d :: rest =>
      match hexValue? a, hexValue? b, hexValue? c, hexValue? d with
      | some a, some b, some c, some d => .ok (((a * 16 + b) * 16 + c) * 16 + d, rest)
      | _, _, _, _ => .error .malformed
    | _ => .error .malformed

def isLeading (unit : Nat) : Bool := 0xD800 ≤ unit && unit ≤ 0xDBFF

def isTrailing (unit : Nat) : Bool := 0xDC00 ≤ unit && unit ≤ 0xDFFF

def pairChar (leading trailing : Nat) : Char :=
  Char.ofNat ((leading - 0xD800) * 0x400 + (trailing - 0xDC00) + 0x10000)

def readTrailing : Reader Nat := fun t =>
  match t with
  | [] => .error .endOfText
  | '\\' :: [] => .error .endOfText
  | '\\' :: 'u' :: rest => do
    let (unit, rest) ← readHex rest
    if isTrailing unit then return (unit, rest) else throw .malformed
  | _ => .error .malformed

def readUnits : Reader Char := fun t => do
  let (unit, rest) ← readHex t
  if isTrailing unit then throw .malformed
  else if isLeading unit then
    let (trailing, rest) ← readTrailing rest
    return (pairChar unit trailing, rest)
  else return (Char.ofNat unit, rest)

def simpleEscape? : Char → Option Char
  | '"' => some '"'
  | '\\' => some '\\'
  | '/' => some '/'
  | 'b' => some '\x08'
  | 'f' => some '\x0c'
  | 'n' => some '\n'
  | 'r' => some '\r'
  | 't' => some '\t'
  | _ => none

def readEscape : Reader Char := fun t =>
  match t with
  | [] => .error .endOfText
  | 'u' :: rest => readUnits rest
  | c :: rest =>
    match simpleEscape? c with
    | some d => .ok (d, rest)
    | none => .error .malformed

/-- Reads a string through its closing quote, in at most `steps` steps. Every step takes at least
one character, so as many steps as there are characters are enough, and when none are left the
text has ended. -/
def readQuotedIn : Nat → Reader Text
  | 0, _ => .error .endOfText
  | steps + 1, t =>
    match t with
    | [] => .error .endOfText
    | '"' :: rest => .ok ([], rest)
    | '\\' :: rest => do
      let (c, rest) ← readEscape rest
      let (s, rest) ← readQuotedIn steps rest
      return (c :: s, rest)
    | c :: rest =>
      if c.toNat < 0x20 then .error .malformed
      else do
        let (s, rest) ← readQuotedIn steps rest
        return (c :: s, rest)

def readQuoted : Reader Text := fun t => readQuotedIn t.length t

def writeChar (c : Char) : Text :=
  if c = '"' ∨ c = '\\' then ['\\', c]
  else if c = '\x08' then ['\\', 'b']
  else if c = '\x0c' then ['\\', 'f']
  else if c = '\n' then ['\\', 'n']
  else if c = '\r' then ['\\', 'r']
  else if c = '\t' then ['\\', 't']
  else if c.toNat < 0x20 then
    ['\\', 'u', '0', '0', Nat.digitChar (c.toNat / 16), Nat.digitChar (c.toNat % 16)]
  else [c]

def writeText (t : Text) : Text := '"' :: t.flatMap writeChar ++ ['"']

def isSpace (c : Char) : Bool := c == ' ' || c == '\n' || c == '\t' || c == '\r'

def skipSpace (t : Text) : Text := t.dropWhile isSpace

def skipLiteral : Text → Text → Except Fault Text
  | [], t => .ok t
  | _ :: _, [] => .error .endOfText
  | x :: literal, c :: t => if c = x then skipLiteral literal t else .error .malformed

def skipEscape (t : Text) : Except Fault Text :=
  match t with
  | [] => .error .endOfText
  | 'u' :: rest => do
    let (_, rest) ← readHex rest
    return rest
  | c :: rest => if (simpleEscape? c).isSome then .ok rest else .error .malformed

def skipQuotedIn : Nat → Text → Except Fault Text
  | 0, _ => .error .endOfText
  | steps + 1, t =>
    match t with
    | [] => .error .endOfText
    | '"' :: rest => .ok rest
    | '\\' :: rest => do
      let rest ← skipEscape rest
      skipQuotedIn steps rest
    | c :: rest => if c.toNat < 0x20 then .error .malformed else skipQuotedIn steps rest

def skipQuoted (t : Text) : Except Fault Text := skipQuotedIn t.length t

def skipDigits : Text → Except Fault Text
  | [] => .error .malformed
  | c :: t => if c.isDigit then .ok (t.dropWhile Char.isDigit) else .error .malformed

def skipExponent : Text → Except Fault Text
  | [] => .ok []
  | c :: t =>
    if c = 'e' ∨ c = 'E' then
      match t with
      | '+' :: digits => skipDigits digits
      | '-' :: digits => skipDigits digits
      | digits => skipDigits digits
    else .ok (c :: t)

def skipPlaces : Text → Except Fault Text
  | '.' :: t => do
    let rest ← skipDigits t
    skipExponent rest
  | t => skipExponent t

/-- Skips a number, its sign already read. A number that breaks off is malformed even at the end of
the text. -/
def skipNumber : Text → Except Fault Text
  | [] => .error .malformed
  | c :: t =>
    if c = '0' then
      if t.head?.any Char.isDigit then .error .malformed else skipPlaces t
    else if c.isDigit then skipPlaces (t.dropWhile Char.isDigit)
    else .error .malformed

def skipColon (t : Text) : Except Fault Text :=
  match skipSpace t with
  | [] => .error .endOfText
  | ':' :: rest => .ok rest
  | _ => .error .malformed

mutual

/-- Skips a value. Twice as many steps as there are characters, and one more, are enough; when none
are left the text has ended. -/
def skipValueIn : Nat → Text → Except Fault Text
  | 0, _ => .error .endOfText
  | steps + 1, t =>
    match skipSpace t with
    | [] => .error .endOfText
    | 'n' :: rest => skipLiteral "ull".toList rest
    | 't' :: rest => skipLiteral "rue".toList rest
    | 'f' :: rest => skipLiteral "alse".toList rest
    | '"' :: rest => skipQuoted rest
    | '-' :: rest => skipNumber rest
    | '[' :: rest =>
      match skipSpace rest with
      | ']' :: rest => .ok rest
      | rest => skipElementsIn steps rest
    | '\x7b' :: rest =>
      match skipSpace rest with
      | '\x7d' :: rest => .ok rest
      | rest => skipMembersIn steps rest
    | c :: rest => if c.isDigit then skipNumber (c :: rest) else .error .malformed

def skipElementsIn : Nat → Text → Except Fault Text
  | 0, _ => .error .endOfText
  | steps + 1, t => do
    let rest ← skipValueIn steps t
    match skipSpace rest with
    | [] => .error .endOfText
    | ',' :: rest => skipElementsIn steps rest
    | ']' :: rest => .ok rest
    | _ => .error .malformed

def skipMembersIn : Nat → Text → Except Fault Text
  | 0, _ => .error .endOfText
  | steps + 1, t =>
    match skipSpace t with
    | [] => .error .endOfText
    | '"' :: rest => do
      let rest ← skipQuoted rest
      let rest ← skipColon rest
      let rest ← skipValueIn steps rest
      match skipSpace rest with
      | [] => .error .endOfText
      | ',' :: rest => skipMembersIn steps rest
      | '\x7d' :: rest => .ok rest
      | _ => .error .malformed
    | _ => .error .malformed

end

def skipValue (t : Text) : Except Fault Text := skipValueIn (2 * t.length + 1) t

def writeBool (b : Bool) : Text := (if b then "true" else "false").toList

def writeList {α : Type} (write : α → Text) (as : List α) : Text :=
  '[' :: Text.join [','] (as.map write) ++ [']']

abbrev Member := Text × Text

def writeMember (member : Member) : Text := writeText member.1 ++ ':' :: member.2

def writeObject (members : List Member) : Text :=
  '\x7b' :: Text.join [','] (members.map writeMember) ++ ['\x7d']

def optionalMember {α : Type} (key : Text) (write : α → Text) : Option α → List Member
  | some a => [(key, write a)]
  | none => []

end SqlAssist.Json
