import SqlAssist.Json.Basic
import SqlAssist.Text

/-! # Numbers of JSON

An integer is kept as such if it fits into 64 bits, with a sign or without. Every other number is a
double-precision number: its leading digits as far as they fit into 64 bits, scaled by a power of
ten. Such a number is written with the fewest digits that read back as the same number, and of those
with the nearest ones; the search is over exact natural numbers, where for each power of ten, from
large to small, the two multiples around the number are tried. -/
namespace SqlAssist

namespace Decimal

/-- A positive number `mantissa * 2 ^ exponent`. When `narrowBelow` holds, the next smaller number
of its kind is half as far away as the next larger one. -/
structure Binary where
  mantissa : Nat
  exponent : Int
  narrowBelow : Bool
deriving DecidableEq, Repr

structure Scaled where
  digits : Nat
  exponent : Int
deriving DecidableEq, Repr

namespace Binary

def hiddenBit : Nat := 0x10000000000000

def ofBits (bits : Nat) : Binary :=
  let fraction := bits % hiddenBit
  let biased := bits / hiddenBit % 0x800
  if biased = 0 then ⟨fraction, -1074, false⟩
  else ⟨hiddenBit + fraction, Int.ofNat biased - 1075, fraction == 0 && 1 < biased⟩

/-- The number in quarters of its last binary place. -/
def quarters (b : Binary) : Nat := 4 * b.mantissa

/-- The least value, in the same quarters, that is no nearer to the next smaller number. -/
def lowest (b : Binary) : Nat := b.quarters - if b.narrowBelow then 1 else 2

/-- The greatest value, in the same quarters, that is no nearer to the next larger number. -/
def highest (b : Binary) : Nat := b.quarters + 2

/-- How much one quarter counts against a unit of `10 ^ place`, as a fraction. -/
def quarterIn (b : Binary) (place : Int) : Nat × Nat :=
  let two := b.exponent - 2
  (Nat.pow 2 two.toNat * Nat.pow 10 (-place).toNat, Nat.pow 2 (-two).toNat * Nat.pow 10 place.toNat)

/-- The multiple of `10 ^ place` that reads back as the number and is nearest to it, if there is
one; of two equally near ones the even one. -/
def multipleAt? (b : Binary) (place : Int) : Option Nat :=
  let (numerator, denominator) := b.quarterIn place
  let below := b.quarters * numerator / denominator
  let readsBack (n : Nat) : Bool :=
    let low := b.lowest * numerator
    let high := b.highest * numerator
    let value := n * denominator
    if b.mantissa % 2 = 0 then low ≤ value && value ≤ high else low < value && value < high
  let gapBelow := b.quarters * numerator - below * denominator
  let gapAbove := (below + 1) * denominator - b.quarters * numerator
  let preferBelow := gapBelow < gapAbove || (gapBelow == gapAbove && below % 2 == 0)
  match readsBack below, readsBack (below + 1) with
  | true, true => some (if preferBelow then below else below + 1)
  | true, false => some below
  | false, true => some (below + 1)
  | false, false => none

/-- The shortest decimal. Places from `10 ^ 309` down to `10 ^ (-341)` are enough for every number
of double precision. -/
def shortest? (b : Binary) : Option Scaled :=
  (List.range 651).findSome? fun i =>
    let place := 309 - Int.ofNat i
    (b.multipleAt? place).map (⟨·, place⟩)

end Binary

def exponentText (exponent : Int) : Text :=
  'e' :: (if exponent < 0 then '-' else '+') :: Text.ofNat exponent.natAbs

/-- Writes a positive number: in positional notation from `10 ^ (-5)` up to sixteen digits before
the point, and with an exponent otherwise. Positional notation always has a point. -/
def Scaled.display (s : Scaled) : Text :=
  let digits := Text.ofNat s.digits
  let length : Int := digits.length
  let point := length + s.exponent
  if 0 ≤ s.exponent ∧ point ≤ 16 then
    digits ++ List.replicate s.exponent.toNat '0' ++ ['.', '0']
  else if 0 < point ∧ point ≤ 16 then
    digits.take point.toNat ++ '.' :: digits.drop point.toNat
  else if -5 < point ∧ point ≤ 0 then
    '0' :: '.' :: List.replicate (-point).toNat '0' ++ digits
  else
    let tail := digits.drop 1
    digits.take 1 ++ (if tail = [] then [] else '.' :: tail) ++ exponentText (point - 1)

def signBit : Nat := 0x8000000000000000

def displayBits (bits : Nat) : Text :=
  let sign := if bits / signBit % 2 = 1 then ['-'] else []
  let b := Binary.ofBits (bits % signBit)
  if b.mantissa = 0 then sign ++ ['0', '.', '0']
  else
    match b.shortest? with
    | some s => sign ++ s.display
    | none => sign ++ ['0', '.', '0']

end Decimal

namespace Json

inductive Number where
  | integer (i : Int)
  | decimal (value : Float)

def Number.found : Number → Found
  | .integer i => .integer i
  | .decimal value => .decimal (Decimal.displayBits value.toBits.toNat)

def largestSignificand : Nat := 0xFFFFFFFFFFFFFFFF

def largestExponent : Nat := 0x7FFFFFFF

def digitValue (c : Char) : Nat := c.toNat - '0'.toNat

def takeDigits (significand : Nat) : Text → Nat × Text
  | [] => (significand, [])
  | c :: t =>
    let next := significand * 10 + digitValue c
    if c.isDigit && next ≤ largestSignificand then takeDigits next t else (significand, c :: t)

def digitsValue (digits : Text) : Nat := digits.foldl (fun n c => n * 10 + digitValue c) 0

def powerOfTen (n : Nat) : Float := Float.ofScientific 1 false n

def greatestPower : Nat := 308

/-- `f * 10 ^ exponent`, computed in double precision with one power of ten if that can be, and for
small numbers with `steps` further divisions by the greatest one. -/
def scale? (f : Float) (exponent : Int) : Nat → Option Float
  | 0 => some f
  | steps + 1 =>
    if exponent.natAbs ≤ greatestPower then
      if 0 ≤ exponent then
        let scaled := f * powerOfTen exponent.natAbs
        if scaled.isInf then none else some scaled
      else some (f / powerOfTen exponent.natAbs)
    else if f == 0 then some f
    else if 0 ≤ exponent then none
    else scale? (f / powerOfTen greatestPower) (exponent + greatestPower) steps

/-- The number with the given significand and exponent; too large a one is malformed. -/
def decimalOf (negative : Bool) (significand : Nat) (exponent : Int) : Except Fault Number :=
  let steps := exponent.natAbs / greatestPower + 1
  match scale? (UInt64.ofNat significand).toFloat exponent steps with
  | some f => .ok (.decimal (if negative then -f else f))
  | none => .error .malformed

/-- A nonzero number too large to scale is malformed; zero, and what is too small, is zero. -/
def overflowingExponent (negative isZero negativeExponent : Bool) : Except Fault Number :=
  if !isZero && !negativeExponent then .error .malformed
  else .ok (.decimal (if negative then -0.0 else 0.0))

def beginsExponent : Text → Bool
  | c :: _ => c == 'e' || c == 'E'
  | [] => false

def exponentSign : Text → Bool × Text
  | '-' :: t => (true, t)
  | '+' :: t => (false, t)
  | t => (false, t)

def readExponent (negative : Bool) (significand : Nat) (start : Int) : Reader Number := fun t =>
  let (negativeExponent, t) := exponentSign t
  match t with
  | [] => .error .endOfText
  | c :: _ =>
    if c.isDigit then do
      let digits := t.takeWhile Char.isDigit
      let rest := t.dropWhile Char.isDigit
      let exponent := digitsValue digits
      let number ←
        if exponent ≤ largestExponent then
          decimalOf negative significand
            (if negativeExponent then start - exponent else start + exponent)
        else overflowingExponent negative (significand == 0) negativeExponent
      return (number, rest)
    else .error .malformed

def readScale (negative : Bool) (significand : Nat) (exponent : Int) : Reader Number := fun t =>
  if beginsExponent t then readExponent negative significand exponent t.tail
  else do
    let number ← decimalOf negative significand exponent
    return (number, t)

/-- Reads decimal places, the point already read. Places that do not fit are dropped. -/
def readPlaces (negative : Bool) (significand : Nat) (exponent : Int) : Reader Number := fun t =>
  let (significand, rest) := takeDigits significand t
  let taken := t.length - rest.length
  if taken = 0 ∧ !rest.head?.any Char.isDigit then
    .error (if rest = [] then .endOfText else .malformed)
  else readScale negative significand (exponent - taken) (rest.dropWhile Char.isDigit)

/-- An integer of the given size, as far as 64 bits hold it. Negative zero is no integer. -/
def integerOf (negative : Bool) (significand : Nat) : Number :=
  if !negative then .integer significand
  else if 0 < significand ∧ significand ≤ 0x8000000000000000 then .integer (-significand)
  else .decimal (-(UInt64.ofNat significand).toFloat)

def readNumber (negative : Bool) : Reader Number := fun t =>
  match t with
  | [] => .error .endOfText
  | c :: rest =>
    if c = '0' ∧ rest.head?.any Char.isDigit then .error .malformed
    else if c.isDigit then
      let (significand, rest) := takeDigits 0 t
      let dropped := rest.takeWhile Char.isDigit
      let rest := rest.dropWhile Char.isDigit
      match rest with
      | '.' :: places => readPlaces negative significand dropped.length places
      | _ =>
        if beginsExponent rest ∨ dropped ≠ [] then
          readScale negative significand dropped.length rest
        else .ok (integerOf negative significand, rest)
    else .error .malformed

end Json

end SqlAssist
