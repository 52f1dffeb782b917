import SqlAssist.Proofs.Reference.Anchor
import SqlAssist.Proofs.Reference.Reduction

/-! # Every reference is named in the text

Whatever a statement looks like, a reference that is found in it stands where it says: the name of
the table in one of its spellings, behind FROM or JOIN and white space, and neither a function nor
one part of a longer name. No reference lies in another one. -/
namespace SqlAssist

open Character Identifier

def IsAnchorWord (word : Text) : Prop :=
  Text.eqIgnoreCase word "FROM".toList = true ∨ Text.eqIgnoreCase word "JOIN".toList = true

theorem foldLetter_of_mem_anchorLetters {c : Char} (h : c ∈ anchorLetters) :
    foldLetter c = c.toLower := by
  have hall : ∀ c ∈ anchorLetters, foldLetter c = c.toLower := Text.forall_of_all (by decide)
  exact hall c h

theorem isAnchorWord_of_map_foldLetter {word : Text}
    (h : word.map foldLetter = "from".toList ∨ word.map foldLetter = "join".toList) :
    IsAnchorWord word := by
  obtain ⟨_, hletters⟩ := mem_anchorLetters_of_map h
  have hmap : word.map foldLetter = word.map Char.toLower :=
    List.map_congr_left fun c hc => foldLetter_of_mem_anchorLetters (hletters c hc)
  rw [hmap] at h
  exact h.imp Text.eqIgnoreCase_iff.mpr Text.eqIgnoreCase_iff.mpr

namespace Reference

/-- The statement names the table of the reference at the place of the reference. -/
structure IsNamedIn (reference : Reference) (statement : Text) : Prop where
  start_lt_stop : reference.start < reference.stop
  stop_le_size : reference.stop ≤ Text.size statement
  isBoundary_start : Text.IsBoundary statement reference.start
  isBoundary_stop : Text.IsBoundary statement reference.stop
  isWrittenIn : reference.IsWrittenIn statement
  /-- In front of it stand FROM or JOIN, which begins a word, and white space. -/
  anchored : ∃ before word blanks,
    Text.IsSlice statement 0 reference.start (before ++ word ++ blanks) ∧
      noWord before.getLast? = true ∧ IsAnchorWord word ∧
      blanks ≠ [] ∧ ∀ c ∈ blanks, isBlank c = true
  /-- Behind it stands no list of arguments, and no dot if the name has one part only. -/
  followed : ∃ behind,
    Text.IsSlice statement reference.stop (Text.size statement) behind ∧
      (Text.trimStart behind).head? ≠ some '(' ∧
      (reference.schema = none → behind.head? ≠ some '.')
  isTemporary_iff : reference.isTemporary = true ↔ reference.table.head? = some '#'

end Reference

theorem ObjectName.Spelled.size_pos {name : ObjectName} {written : Text}
    (h : name.Spelled written) : 0 < Text.size written := by
  obtain ⟨⟨c, rest, rfl, _⟩, _⟩ := h.isTight
  exact Text.size_pos_of_ne_nil (List.cons_ne_nil c rest)

/-- How a candidate cuts the statement: up to FROM or JOIN, the white space behind it, the name and
what follows the name. -/
theorem Candidate.exists_cut_of_mem_collect {statement : Text} {candidate : Candidate}
    (h : candidate ∈ collect statement) :
    ∃ before word blanks written behind,
      statement = before ++ word ++ blanks ++ written ++ behind ∧
        candidate.reference.start = Text.size (before ++ word ++ blanks) ∧
        candidate.reference.length = Text.size written ∧
        noWord before.getLast? = true ∧ IsAnchorWord word ∧
        (blanks ≠ [] ∧ ∀ c ∈ blanks, isBlank c = true) ∧
        ObjectName.Spelled ⟨candidate.reference.schema, candidate.reference.table⟩ written ∧
        isCall behind = false ∧
        ¬ (candidate.reference.schema = none ∧ behind.head? = some '.') ∧
        candidate.reference.isTemporary = (candidate.reference.table.head? == some '#') := by
  obtain ⟨form, _, hform⟩ := List.mem_flatMap.mp h
  obtain ⟨⟨here, ⟨name, named⟩, rest⟩, hmem, hhit⟩ := List.mem_filterMap.mp hform
  obtain ⟨before, hstatement, hread⟩ := Pattern.exists_of_mem_hits hmem
  obtain ⟨hanchor, hname⟩ := anchored_eq_some_iff.mp hread
  simp only at hstatement hanchor hname
  obtain ⟨hleft, word, blanks, rfl, hword, hne, hblanks, _⟩ := readAnchor?_eq_some_iff.mp hanchor
  obtain ⟨written, rfl, hspelled⟩ := NameForm.spelled_of_read? hname
  obtain ⟨hdot, hcall, rfl⟩ := ofHit?_eq_some_iff.mp hhit
  refine ⟨before, word, blanks, written, rest, ?_, ?_, ?_, hleft,
    isAnchorWord_of_map_foldLetter hword, ⟨hne, hblanks⟩, hspelled, hcall, hdot, rfl⟩
  · rw [hstatement]
    simp
  · simp only [hstatement, Text.size_append]
    omega
  · simp only [Text.size_append]
    omega

/-- The candidates of all forms are named in the statement. -/
theorem Candidate.isNamedIn_of_mem_collect {statement : Text} {candidate : Candidate}
    (h : candidate ∈ collect statement) : candidate.reference.IsNamedIn statement := by
  obtain ⟨before, word, blanks, written, behind, hstatement, hstart, hlength, hleft, hword, hblanks,
    hspelled, hcall, hdot, htemporary⟩ := exists_cut_of_mem_collect h
  have hpos := hspelled.size_pos
  have hstop : candidate.reference.stop = candidate.reference.start + Text.size written := by
    rw [Reference.stop, hlength]
  have hsize : Text.size statement = candidate.reference.stop + Text.size behind := by
    rw [hstatement, Text.size_append, Text.size_append, hstop, hstart]
  have hslice : Text.IsSlice statement candidate.reference.start candidate.reference.stop written :=
    ⟨before ++ word ++ blanks, behind, hstatement, hstart.symm, hstop.symm⟩
  constructor
  · omega
  · omega
  · exact hslice.isBoundary_start
  · exact hslice.isBoundary_stop
  · exact ⟨written, hslice, hspelled⟩
  · refine ⟨before, word, blanks, ⟨[], written ++ behind, ?_, rfl, ?_⟩, hleft, hword, hblanks⟩
    · rw [hstatement]
      simp
    · rw [hstart, Nat.zero_add]
  · refine ⟨behind, ⟨before ++ word ++ blanks ++ written, [], ?_, ?_, hsize.symm⟩, ?_, ?_⟩
    · rw [hstatement, List.append_nil]
    · rw [Text.size_append, hstop, hstart]
    · simpa [isCall] using hcall
    · intro hlone hhead
      exact hdot ⟨hlone, hhead⟩
  · rw [htemporary, beq_iff_eq]

/-- Every reference of a statement is named in it, and of two references neither contains the
other. -/
theorem references_isNamedIn (statement : Text) :
    (∀ reference ∈ references statement, reference.IsNamedIn statement) ∧
      (references statement).Pairwise fun r s => r.contains s = false ∧ s.contains r = false := by
  constructor
  · intro reference h
    obtain ⟨candidate, hmem, rfl⟩ := List.mem_map.mp (Reference.mem_of_mem_reduce h)
    exact Candidate.isNamedIn_of_mem_collect hmem
  · exact (pairwise_references statement).imp Reference.isApart_of_isBefore

/-- Brackets that hold a JOIN of their own, letters of two bytes, a function, and a bracket that is
never closed. -/
theorem references_isNamedIn_in_brackets :
    let statement := "SELECT 'größe' from\t[a JOIN b].c JOIN f (1) join ##t JOIN [open".toList
    let outer : Reference := ⟨some "a JOIN b".toList, "c".toList, 22, 12, false⟩
    let temporary : Reference := ⟨none, "##t".toList, 51, 3, true⟩
    references statement = [outer, temporary] ∧ outer.IsNamedIn statement ∧
      temporary.IsNamedIn statement ∧ outer.contains temporary = false := by
  intro statement outer temporary
  let inner : Reference := ⟨none, "b".toList, 30, 1, false⟩
  have hcollect : (Candidate.collect statement).map Candidate.reference =
      [outer, inner, temporary] := by decide +kernel
  have hsorted : [outer, inner, temporary].Pairwise (fun r s => r.precedes s = true) := by decide
  have h : references statement = [outer, temporary] := by
    rw [references, hcollect, Reference.reduce, List.mergeSort_of_pairwise hsorted]
    decide
  obtain ⟨hnamed, hapart⟩ := references_isNamedIn statement
  rw [h] at hnamed hapart
  refine ⟨h, hnamed outer (by simp), hnamed temporary (by simp), ?_⟩
  exact (List.rel_of_pairwise_cons hapart List.mem_cons_self).1

end SqlAssist
