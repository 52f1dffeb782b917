import SqlAssist.Character.Word
import SqlAssist.Text

/-! # Searching a text

A pattern reads something at one place of a text, given the character before that place. A search
tries the places from left to right and goes on behind each hit, so hits never overlap. Words are
read by simple case folding: besides the two cases of each letter, the long s is an `s` and the Kelvin
sign is a `k`. A keyword is made of words and stands alone when no word character touches it. -/
namespace SqlAssist

open Character

/-- A reader of one place: from the character before it and the text from it on, to what was read
and the text that follows. -/
abbrev Pattern (α : Type) := Option Char → Text → Option (α × Text)

structure Hit (α : Type) where
  here : Text
  value : α
  rest : Text
deriving Repr

namespace Pattern

variable {α : Type}

/-- The hits in a text whose first `skip` characters belong to an earlier hit. -/
def hitsFrom (pattern : Pattern α) : Option Char → Nat → Text → List (Hit α)
  | _, _, [] => []
  | _, skip + 1, c :: t => hitsFrom pattern (some c) skip t
  | before, 0, c :: t =>
    match pattern before (c :: t) with
    | some (value, rest) =>
      ⟨c :: t, value, rest⟩ :: hitsFrom pattern (some c) (t.length - rest.length) t
    | none => hitsFrom pattern (some c) 0 t

def hits (pattern : Pattern α) (t : Text) : List (Hit α) := hitsFrom pattern none 0 t

def firstFrom? (pattern : Pattern α) : Option Char → Text → Option (Hit α)
  | _, [] => none
  | before, c :: t =>
    match pattern before (c :: t) with
    | some (value, rest) => some ⟨c :: t, value, rest⟩
    | none => firstFrom? pattern (some c) t

def first? (pattern : Pattern α) (t : Text) : Option (Hit α) := firstFrom? pattern none t

def last? (pattern : Pattern α) (t : Text) : Option (Hit α) := (hits pattern t).getLast?

def occurs (pattern : Pattern α) (t : Text) : Bool := (first? pattern t).isSome

@[simp] theorem hitsFrom_nil (pattern : Pattern α) (before : Option Char) (skip : Nat) :
    hitsFrom pattern before skip [] = [] := by
  cases skip <;> rfl

@[simp] theorem hitsFrom_skip (pattern : Pattern α) (before : Option Char) (skip : Nat) (c : Char)
    (t : Text) :
    hitsFrom pattern before (skip + 1) (c :: t) = hitsFrom pattern (some c) skip t := rfl

theorem hitsFrom_of_none {pattern : Pattern α} {before : Option Char} {c : Char} {t : Text}
    (h : pattern before (c :: t) = none) :
    hitsFrom pattern before 0 (c :: t) = hitsFrom pattern (some c) 0 t := by
  simp [hitsFrom, h]

theorem hitsFrom_of_some {pattern : Pattern α} {before : Option Char} {c : Char} {t : Text}
    {value : α} {rest : Text} (h : pattern before (c :: t) = some (value, rest)) :
    hitsFrom pattern before 0 (c :: t) =
      ⟨c :: t, value, rest⟩ :: hitsFrom pattern (some c) (t.length - rest.length) t := by
  simp [hitsFrom, h]

theorem head?_hitsFrom (pattern : Pattern α) (before : Option Char) (t : Text) :
    (hitsFrom pattern before 0 t).head? = firstFrom? pattern before t := by
  induction t generalizing before with
  | nil => simp [firstFrom?]
  | cons c t ih =>
    cases h : pattern before (c :: t) with
    | none => rw [hitsFrom_of_none h, ih]; simp [firstFrom?, h]
    | some p => obtain ⟨value, rest⟩ := p; rw [hitsFrom_of_some h]; simp [firstFrom?, h]

end Pattern

def Hit.start {α : Type} (hit : Hit α) (t : Text) : Nat := Text.size t - Text.size hit.here

def Hit.stop {α : Type} (hit : Hit α) (t : Text) : Nat := Text.size t - Text.size hit.rest

def foldLetter (c : Char) : Char :=
  if c = 'ſ' then 's' else if c = '\u212A' then 'k' else c.toLower

/-- Whether a neighbouring character, if there is one, leaves a word alone. -/
def noWord (neighbour : Option Char) : Bool := !neighbour.any isWord

@[simp] theorem noWord_none : noWord none = true := rfl

/-- Reads a word, given in lower case, from the front of a text. -/
def readWord? : Text → Text → Option Text
  | [], t => some t
  | _ :: _, [] => none
  | w :: word, c :: t => if foldLetter c = w then readWord? word t else none

@[simp] theorem readWord?_nil (t : Text) : readWord? [] t = some t := by
  cases t <;> rfl

theorem readWord?_length {word t rest : Text} (h : readWord? word t = some rest) :
    rest.length + word.length = t.length := by
  induction word generalizing t with
  | nil => simp at h; simp [h]
  | cons w word ih =>
    cases t with
    | nil => simp [readWord?] at h
    | cons c t =>
      simp only [readWord?] at h
      split at h
      · have := ih h; simp; omega
      · cases h

def readWords? : List Text → Text → Option Text
  | [], t => some t
  | [word], t => readWord? word t
  | word :: words, t => do
    let t ← readWord? word t
    let t ← Text.skipBlanks? t
    readWords? words t

/-- Words that stand alone, with white space between them. -/
def standingWords (words : List Text) : Pattern Unit := fun before t =>
  if noWord before then
    ((readWords? words t).filter (fun rest => noWord rest.head?)).map ((), ·)
  else none

def standingOneOf (words : List Text) : Pattern Unit := fun before t =>
  words.findSome? (fun word => standingWords [word] before t)

inductive Keyword where
  | select
  | fromTable
  | whereFilter
  | orderBy
  | groupBy
  | havingFilter
  | insert
  | update
  | set
  | values
  | join
  | on
deriving DecidableEq, Repr

namespace Keyword

def words : Keyword → List Text
  | .select => ["select".toList]
  | .fromTable => ["from".toList]
  | .whereFilter => ["where".toList]
  | .orderBy => ["order".toList, "by".toList]
  | .groupBy => ["group".toList, "by".toList]
  | .havingFilter => ["having".toList]
  | .insert => ["insert".toList]
  | .update => ["update".toList]
  | .set => ["set".toList]
  | .values => ["values".toList]
  | .join => ["join".toList]
  | .on => ["on".toList]

def all : List Keyword :=
  [.select, .fromTable, .whereFilter, .orderBy, .groupBy, .havingFilter, .insert, .update, .set,
   .values, .join, .on]

theorem mem_all (keyword : Keyword) : keyword ∈ all := by
  cases keyword <;> decide

def text (keyword : Keyword) : Text := Text.join [' '] keyword.words

def pattern (keyword : Keyword) : Pattern Unit := standingWords keyword.words

/-- The offset of the last occurrence in a text. -/
def lastIn (keyword : Keyword) (t : Text) : Option Nat :=
  (keyword.pattern.last? t).map (Hit.start · t)

/-- The offset just past the last occurrence in a text. -/
def lastEndIn (keyword : Keyword) (t : Text) : Option Nat :=
  (keyword.pattern.last? t).map (Hit.stop · t)

/-- The text from the last occurrence on. -/
def fromLastIn? (keyword : Keyword) (t : Text) : Option Text :=
  (keyword.pattern.last? t).map Hit.here

def behindLastIn (keyword : Keyword) (t : Text) : Text :=
  ((keyword.pattern.last? t).map Hit.rest).getD []

end Keyword

def aliasStopWords : List Text :=
  ["as", "on", "where", "join", "inner", "left", "right", "full", "outer", "cross", "apply",
   "order", "group", "having", "union", "except", "intersect", "select", "from", "set", "values",
   "and", "or", "limit", "offset", "fetch", "with", "option", "for", "into", "pivot", "unpivot",
   "when", "then", "else", "end", "go", "using", "natural", "tablesample", "output"].map
    String.toList

/-- Whether a word, in any case, is no alias. -/
def isAliasStopWord (word : Text) : Bool := aliasStopWords.any (Text.eqIgnoreCase · word)

end SqlAssist
