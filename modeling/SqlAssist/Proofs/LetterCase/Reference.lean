import Mathlib.Data.List.Basic
import SqlAssist.Proofs.LetterCase.Reading
import SqlAssist.Reference

/-! # Table references without the case of ASCII letters

A search in a folded text hits at the same places, and finds the folding of what it finds in the
text itself. Spans are the same then, so the references of a folded statement are the folded
references. -/
namespace SqlAssist

open Character Text

section Searching

variable {α : Type} {f : α → α} {pattern : Pattern α}

/-- The hit of the same place in the folded text, with `f` for the folding of what was read. -/
def Hit.folded (f : α → α) (hit : Hit α) : Hit α :=
  ⟨Text.folded hit.here, f hit.value, Text.folded hit.rest⟩

/-- From a folded text the pattern reads the folding of what it reads from the text. -/
def Pattern.Folds (f : α → α) (pattern : Pattern α) : Prop :=
  ∀ left t, pattern (left.map Char.toLower) (Text.folded t) =
    (pattern left t).map (Prod.map f Text.folded)

theorem Pattern.Folds.hitsFrom_folded (h : pattern.Folds f) (before : Option Char) (skip : Nat)
    (t : Text) :
    hitsFrom pattern (before.map Char.toLower) skip (Text.folded t) =
      (hitsFrom pattern before skip t).map (Hit.folded f) := by
  induction t generalizing before skip with
  | nil => simp
  | cons c t ih =>
    cases skip with
    | succ skip => exact ih (some c) skip
    | zero =>
      have hread := h before (c :: t)
      cases hp : pattern before (c :: t) with
      | none =>
        rw [hp, folded_cons] at hread
        rw [hitsFrom_of_none hp, folded_cons, hitsFrom_of_none hread]
        exact ih (some c) 0
      | some found =>
        obtain ⟨value, rest⟩ := found
        rw [hp, folded_cons] at hread
        rw [hitsFrom_of_some hp, folded_cons, hitsFrom_of_some hread, length_folded, length_folded,
          List.map_cons, ← ih (some c)]
        rfl

theorem Pattern.Folds.hits_folded (h : pattern.Folds f) (t : Text) :
    pattern.hits (Text.folded t) = (pattern.hits t).map (Hit.folded f) :=
  h.hitsFrom_folded none 0 t

def ReadsFolded (f : α → α) (read : Text → Option (α × Text)) : Prop :=
  ∀ t, read (Text.folded t) = (read t).map (Prod.map f Text.folded)

theorem readAnchor?_folded (left : Option Char) (t : Text) :
    readAnchor? (left.map Char.toLower) (Text.folded t) =
      (readAnchor? left t).map Text.folded := by
  simp only [readAnchor?, noWord_map_toLower, readWord?_folded]
  split
  · rw [← Option.map_or, Option.bind_map, Option.map_bind]
    exact congrArg (Option.bind _) (funext skipBlanks?_folded)
  · rfl

theorem folds_anchored {read : Text → Option (α × Text)} (h : ReadsFolded f read) :
    (anchored read).Folds (Prod.map f Text.folded) := by
  intro left t
  simp only [anchored, readAnchor?_folded, Option.bind_eq_bind]
  cases readAnchor? left t with
  | none => rfl
  | some named =>
    simp only [Option.map_some, Option.bind_some, h named]
    cases read named with
    | none => rfl
    | some found => rfl

end Searching

def ObjectName.folded (name : ObjectName) : ObjectName :=
  ⟨name.qualifier.map Text.folded, Text.folded name.name⟩

namespace NameForm

variable {readFirst : Text → Option (Text × Text)}

theorem readsFolded_readQualified? (h : ReadsFolded Text.folded readFirst) :
    ReadsFolded ObjectName.folded (readQualified? readFirst) := by
  intro t
  simp only [readQualified?, h t, Option.bind_eq_bind]
  cases readFirst t with
  | none => rfl
  | some found =>
    obtain ⟨first, rest⟩ := found
    simp only [Option.map_some, Option.bind_some, Prod.map, skipChar?_folded (x := '.') (by decide)]
    cases skipChar? '.' rest with
    | none => rfl
    | some dotted =>
      simp only [Option.map_some, Option.bind_some, Identifier.read?_folded]
      cases Identifier.read? .folded dotted with
      | none => rfl
      | some second => simp [Prod.map, ObjectName.folded]

theorem readsFolded_readLone? (h : ReadsFolded Text.folded readFirst) :
    ReadsFolded ObjectName.folded (readLone? readFirst) := by
  intro t
  simp only [readLone?, h t, Option.bind_eq_bind]
  cases readFirst t with
  | none => rfl
  | some found => simp [Prod.map, ObjectName.folded]

theorem readsFolded_read? (form : NameForm) : ReadsFolded ObjectName.folded form.read? := by
  cases form with
  | bracketedQualified => exact readsFolded_readQualified? Identifier.readBracketed?_folded
  | plainQualified => exact readsFolded_readQualified? (Identifier.readPlain?_folded .folded)
  | bracketed => exact readsFolded_readLone? Identifier.readBracketed?_folded
  | plain => exact readsFolded_readLone? (Identifier.readPlain?_folded .folded)

end NameForm

theorem isCall_folded (t : Text) : isCall (Text.folded t) = isCall t := by
  rw [isCall, trimStart_folded, head?_folded_beq (by decide), isCall]

namespace Reference

def folded (reference : Reference) : Reference :=
  { reference with
    schema := reference.schema.map Text.folded
    table := Text.folded reference.table }

theorem keep_folded (kept : List Reference) (reference : Reference) :
    keep (kept.map folded) reference.folded = (keep kept reference).map folded := by
  have hany : (kept.map folded).any (·.contains reference.folded) =
      kept.any (·.contains reference) := by
    rw [List.any_map]
    rfl
  simp only [keep, hany]
  split
  · rfl
  · simp

theorem foldl_keep_folded (kept l : List Reference) :
    (l.map folded).foldl keep (kept.map folded) = (l.foldl keep kept).map folded := by
  induction l generalizing kept with
  | nil => rfl
  | cons reference l ih => simp only [List.map_cons, List.foldl_cons, keep_folded, ih]

/-- What is kept depends on the spans alone. -/
theorem reduce_map_folded (l : List Reference) : reduce (l.map folded) = (reduce l).map folded := by
  have hsort : (l.mergeSort precedes).map folded = (l.map folded).mergeSort precedes :=
    List.map_mergeSort fun _ _ _ _ => rfl
  rw [reduce, ← hsort, reduce]
  exact foldl_keep_folded [] _

end Reference

namespace Candidate

def folded (candidate : Candidate) : Candidate := ⟨candidate.form, candidate.reference.folded⟩

theorem ofHit?_folded (form : NameForm) (statement : Text) (hit : Hit (ObjectName × Text)) :
    ofHit? form (Text.folded statement) (hit.folded (Prod.map ObjectName.folded Text.folded)) =
      (ofHit? form statement hit).map folded := by
  obtain ⟨here, ⟨name, named⟩, rest⟩ := hit
  simp only [ofHit?, Hit.folded, Prod.map, ObjectName.folded, Option.isNone_map, isCall_folded,
    head?_folded_beq (x := '.') (by decide), head?_folded_beq (x := '#') (by decide),
    size_folded]
  split
  · rfl
  · split
    · rfl
    · rfl

theorem collect_folded (statement : Text) :
    collect (Text.folded statement) = (collect statement).map folded := by
  have hform (form : NameForm) :
      ofForm (Text.folded statement) form = (ofForm statement form).map folded := by
    rw [ofForm, (folds_anchored form.readsFolded_read?).hits_folded, ofForm, List.filterMap_map,
      List.map_filterMap]
    exact congrArg (List.filterMap · _) (funext (ofHit?_folded form statement))
  rw [collect, collect, List.map_flatMap]
  exact List.flatMap_congr fun form _ => hform form

end Candidate

/-- The references of a folded statement are the folded references. -/
theorem references_folded (statement : Text) :
    references (Text.folded statement) = (references statement).map Reference.folded := by
  rw [references, Candidate.collect_folded, List.map_map, references, ← Reference.reduce_map_folded,
    List.map_map]
  rfl

end SqlAssist
