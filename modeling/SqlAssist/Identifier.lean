import SqlAssist.Character.Letter
import SqlAssist.Search

/-! # Identifiers

A name is written plain or in brackets. Plain names begin with a letter or an underscore, after at
most two number signs that mark temporary tables. Where a search ignores letter case, the combining
iota counts as a letter too, because it folds to one. -/
namespace SqlAssist

open Character

/-- How the letters of a name are compared by the search that reads it. -/
inductive Letters where
  | exact
  | folded
deriving DecidableEq, Repr

namespace Letters

def isLetter (letters : Letters) (c : Char) : Bool :=
  isSettledLetter c || (letters == .folded && c == '\u0345')

def isNameStart (letters : Letters) (c : Char) : Bool := letters.isLetter c || c == '_'

def isNamePart (letters : Letters) (c : Char) : Bool :=
  letters.isNameStart c || isSettledNumber c || c == '$' || c == '@' || c == '#'

end Letters

namespace Identifier

/-- The number signs at the front of a text, at most two of them. -/
def temporaryMark : Text → Text × Text
  | '#' :: '#' :: t => (['#', '#'], t)
  | '#' :: t => (['#'], t)
  | t => ([], t)

theorem temporaryMark_append (t : Text) : (temporaryMark t).1 ++ (temporaryMark t).2 = t := by
  unfold temporaryMark
  split <;> simp

/-- Reads a plain name, as far as it goes. -/
def readPlain? (letters : Letters) (t : Text) : Option (Text × Text) :=
  match temporaryMark t with
  | (_, []) => none
  | (mark, c :: rest) =>
    if letters.isNameStart c then
      some (mark ++ c :: rest.takeWhile letters.isNamePart, rest.dropWhile letters.isNamePart)
    else none

/-- Reads a name in brackets, which are part of what is read. -/
def readBracketed? : Text → Option (Text × Text)
  | '[' :: t =>
    let body := t.takeWhile (· ≠ ']')
    match t.dropWhile (· ≠ ']') with
    | [] => none
    | close :: rest => if body = [] then none else some ('[' :: body ++ [close], rest)
  | _ => none

def read? (letters : Letters) (t : Text) : Option (Text × Text) :=
  (readBracketed? t).or (readPlain? letters t)

theorem readPlain?_append {letters : Letters} {t name rest : Text}
    (h : readPlain? letters t = some (name, rest)) : name ++ rest = t := by
  have hm := temporaryMark_append t
  unfold readPlain? at h
  split at h
  · cases h
  · rename_i mark c r hr
    split at h
    · cases h; rw [← hm, hr]; simp
    · cases h

theorem readPlain?_ne_nil {letters : Letters} {t name rest : Text}
    (h : readPlain? letters t = some (name, rest)) : name ≠ [] := by
  unfold readPlain? at h
  split at h
  · cases h
  · split at h <;> cases h; simp

theorem readBracketed?_append {t name rest : Text} (h : readBracketed? t = some (name, rest)) :
    name ++ rest = t := by
  unfold readBracketed? at h
  split at h
  · rename_i t
    simp only at h
    split at h
    · cases h
    · rename_i hd
      split at h
      · cases h
      · cases h
        have := List.takeWhile_append_dropWhile (p := (· ≠ ']')) (l := t)
        rw [hd] at this
        simpa using this
  · cases h

theorem readBracketed?_ne_nil {t name rest : Text} (h : readBracketed? t = some (name, rest)) :
    name ≠ [] := by
  unfold readBracketed? at h
  split at h
  · simp only at h
    split at h
    · cases h
    · split at h <;> cases h
      simp
  · cases h

theorem read?_append {letters : Letters} {t name rest : Text}
    (h : read? letters t = some (name, rest)) : name ++ rest = t := by
  unfold read? at h
  cases hb : readBracketed? t with
  | none => rw [hb, Option.none_or] at h; exact readPlain?_append h
  | some p => rw [hb] at h; cases h; exact readBracketed?_append hb

theorem read?_ne_nil {letters : Letters} {t name rest : Text}
    (h : read? letters t = some (name, rest)) : name ≠ [] := by
  unfold read? at h
  cases hb : readBracketed? t with
  | none => rw [hb, Option.none_or] at h; exact readPlain?_ne_nil h
  | some p => rw [hb] at h; cases h; exact readBracketed?_ne_nil hb

theorem read?_length {letters : Letters} {t name rest : Text}
    (h : read? letters t = some (name, rest)) : rest.length < t.length := by
  have hne := List.length_pos_iff.mpr (read?_ne_nil h)
  rw [← read?_append h, List.length_append]
  omega

def strip : Text → Text
  | '[' :: t => if t.getLast? = some ']' then t.dropLast else '[' :: t
  | t => t

def isPlainWord : Text → Bool
  | [] => false
  | c :: t =>
    (isAlphabetic c || c == '_' || c == '#') &&
      t.all (fun d => isAlphanumeric d || d == '_' || d == '$' || d == '@' || d == '#')

/-- A name as it is written: in brackets unless it is a plain word. -/
def quote (name : Text) : Text := if isPlainWord name then name else '[' :: name ++ [']']

end Identifier

structure ObjectName where
  qualifier : Option Text
  name : Text
deriving DecidableEq, Repr

namespace ObjectName

/-- Reads a name, with a dot and a second name behind it if they are there. -/
def read? (letters : Letters) (t : Text) : Option (ObjectName × Text) := do
  let (first, rest) ← Identifier.read? letters t
  let lone := (⟨none, Identifier.strip first⟩, rest)
  match rest with
  | '.' :: behind =>
    match Identifier.read? letters behind with
    | some (second, rest) => return (⟨some (Identifier.strip first), Identifier.strip second⟩, rest)
    | none => return lone
  | _ => return lone

theorem read?_length {letters : Letters} {t rest : Text} {name : ObjectName}
    (h : read? letters t = some (name, rest)) : rest.length < t.length := by
  simp only [read?, Option.bind_eq_bind, Option.bind_eq_some_iff, Prod.exists] at h
  obtain ⟨first, behind, hf, h⟩ := h
  have hl := Identifier.read?_length hf
  split at h
  · split at h
    · rename_i hs
      have hl' := Identifier.read?_length hs
      cases h
      simp at hl
      omega
    · cases h; exact hl
  · cases h; exact hl

end ObjectName

end SqlAssist
