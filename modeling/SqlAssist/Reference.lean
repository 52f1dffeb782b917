import SqlAssist.Identifier
import SqlAssist.Search
import SqlAssist.Text

/-! # Table references

A reference is a place of a statement where a table is named, behind FROM or JOIN. Four forms of
names are searched for independently of each other, and the places they propose, which can overlap,
are reduced to the widest ones. -/
namespace SqlAssist

/-- A table named in a statement. The span covers the name as written, brackets included. -/
structure Reference where
  schema : Option Text
  table : Text
  start : Nat
  length : Nat
  isTemporary : Bool
deriving DecidableEq, Repr

namespace Reference

def stop (reference : Reference) : Nat := reference.start + reference.length

def contains (reference other : Reference) : Bool :=
  reference.start ≤ other.start && other.stop ≤ reference.stop

theorem contains_refl (reference : Reference) : reference.contains reference = true := by
  simp [contains]

theorem contains_trans {r s t : Reference} (h : r.contains s = true) (h' : s.contains t = true) :
    r.contains t = true := by
  simp only [contains, Bool.and_eq_true, decide_eq_true_eq] at h h' ⊢
  omega

/-- The order in which references are reduced: by start, and the longer first. -/
def precedes (r s : Reference) : Bool :=
  r.start < s.start || (r.start == s.start && s.length ≤ r.length)

def keep (kept : List Reference) (reference : Reference) : List Reference :=
  if kept.any (·.contains reference) then kept else kept ++ [reference]

/-- Keeps the widest span at each place, in the order of the text. -/
def reduce (references : List Reference) : List Reference :=
  (references.mergeSort precedes).foldl keep []

@[simp] theorem keep_of_contained {kept : List Reference} {reference : Reference}
    (h : kept.any (·.contains reference) = true) : keep kept reference = kept := by
  simp [keep, h]

@[simp] theorem keep_of_not_contained {kept : List Reference} {reference : Reference}
    (h : kept.any (·.contains reference) = false) : keep kept reference = kept ++ [reference] := by
  simp [keep, h]

end Reference

inductive NameForm where
  | bracketedQualified
  | plainQualified
  | bracketed
  | plain
deriving DecidableEq, Repr

namespace NameForm

def all : List NameForm := [.bracketedQualified, .plainQualified, .bracketed, .plain]

def label : NameForm → Text
  | .bracketedQualified => "[schema].table".toList
  | .plainQualified => "schema.table".toList
  | .bracketed => "[table]".toList
  | .plain => "table".toList

/-- Reads a qualified name whose first part is read by `readFirst`. -/
def readQualified? (readFirst : Text → Option (Text × Text)) (t : Text) :
    Option (ObjectName × Text) := do
  let (first, rest) ← readFirst t
  let rest ← Text.skipChar? '.' rest
  let (second, rest) ← Identifier.read? .folded rest
  return (⟨some (Identifier.strip first), Identifier.strip second⟩, rest)

def readLone? (readFirst : Text → Option (Text × Text)) (t : Text) :
    Option (ObjectName × Text) := do
  let (first, rest) ← readFirst t
  return (⟨none, Identifier.strip first⟩, rest)

def read? : NameForm → Text → Option (ObjectName × Text)
  | .bracketedQualified => readQualified? Identifier.readBracketed?
  | .plainQualified => readQualified? (Identifier.readPlain? .folded)
  | .bracketed => readLone? Identifier.readBracketed?
  | .plain => readLone? (Identifier.readPlain? .folded)

end NameForm

def readAnchor? (before : Option Char) (t : Text) : Option Text :=
  if noWord before then
    ((readWord? "from".toList t).or (readWord? "join".toList t)).bind Text.skipBlanks?
  else none

def anchored {α : Type} (read : Text → Option (α × Text)) : Pattern (α × Text) := fun before t => do
  let named ← readAnchor? before t
  let (value, rest) ← read named
  return ((value, named), rest)

/-- Whether a text goes on with an argument list: the name in front of it is a function. -/
def isCall (rest : Text) : Bool := (Text.trimStart rest).head? == some '('

structure Candidate where
  form : NameForm
  reference : Reference
deriving DecidableEq, Repr

namespace Candidate

/-- The candidate for a hit in `statement`. A lone name in front of a dot is left to the qualified
forms, and a function is no table. -/
def ofHit? (form : NameForm) (statement : Text) (hit : Hit (ObjectName × Text)) :
    Option Candidate :=
  let (name, named) := hit.value
  if name.qualifier.isNone && hit.rest.head? == some '.' then none
  else if isCall hit.rest then none
  else
    some
      { form
        reference :=
          { schema := name.qualifier
            table := name.name
            start := Text.size statement - Text.size named
            length := Text.size named - Text.size hit.rest
            isTemporary := name.name.head? == some '#' } }

def ofForm (statement : Text) (form : NameForm) : List Candidate :=
  ((anchored form.read?).hits statement).filterMap (ofHit? form statement)

/-- The candidates of all forms, overlapping ones included. -/
def collect (statement : Text) : List Candidate := NameForm.all.flatMap (ofForm statement)

end Candidate

/-- Every table named behind a FROM or JOIN of a statement, in the order of the text. -/
def references (statement : Text) : List Reference :=
  Reference.reduce ((Candidate.collect statement).map Candidate.reference)

end SqlAssist
