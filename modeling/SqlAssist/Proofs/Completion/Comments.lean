import SqlAssist.Clause
import SqlAssist.Proofs.Completion.Locality
import SqlAssist.Proofs.Mask.Alignment

/-! # Comments and completion

The statement being typed is read with its comments blanked, the line of the cursor as it is. So
comments can decide the clause only through what the line ends in: a JOIN with a name being typed
behind it, or an ON. What is offered depends on four readings of the document as it is: these two, the
qualifier that the line ends in, and the name behind UPDATE. Where they are those of the masked
document, masking the document changes nothing. -/
namespace SqlAssist

open Token Typing

/-- The line of the cursor is looked at first, and for two tails only. -/
theorem classify_eq_ite (t line : Text) :
    classify t line =
      if joinTail.occurs line then ⟨.joinTable, .high⟩
      else if onTail.occurs line then ⟨.onCondition, .high⟩ else classify t [] := by
  have hjoin : joinTail.occurs [] = false := rfl
  have hon : onTail.occurs [] = false := rfl
  cases hline : joinTail.occurs line <;> cases hline' : onTail.occurs line <;>
    simp only [classify, hline, hline', hjoin, hon, Bool.true_or, Bool.false_or, if_true, if_false,
      Bool.false_eq_true]

theorem classify_nil_ne_joinTable (t : Text) : classify t [] ≠ ⟨.joinTable, .high⟩ := by
  have hjoin : joinTail.occurs [] = false := rfl
  have hite {c : Prop} [Decidable c] {context other : Context}
      (h : context ≠ ⟨.joinTable, .high⟩) (hother : other ≠ ⟨.joinTable, .high⟩) :
      (if c then context else other) ≠ ⟨.joinTable, .high⟩ := by
    split <;> assumption
  simp only [classify, hjoin, Bool.false_eq_true, if_false]
  iterate 4 refine hite (by simp) ?_
  generalize (if Landmarks.isBehind (fun keyword => keyword.lastIn t) .insert [.select] then
    (Keyword.insert.fromLastIn? t).bind insertColumnList? else none) = target
  cases target with
  | some table => simp
  | none =>
    repeat' apply hite
    all_goals simp

/-- Two lines give the same clause when they have the same tails, or when the tail that counts is the
same, or when the statement is in an ON clause anyway. -/
theorem classify_eq_classify_iff {t line line' : Text} :
    classify t line' = classify t line ↔
      joinTail.occurs line' = joinTail.occurs line ∧
        (joinTail.occurs line = true ∨ classify t [] = ⟨.onCondition, .high⟩ ∨
          onTail.occurs line' = onTail.occurs line) := by
  have hjoin := classify_nil_ne_joinTable t
  rw [classify_eq_ite t line', classify_eq_ite t line]
  cases joinTail.occurs line' <;> cases joinTail.occurs line <;>
    cases onTail.occurs line' <;> cases onTail.occurs line <;> simp [hjoin, hjoin.symm, eq_comm]

/-- What is commented out in the statement is not read. -/
theorem analyze_mask (before line : Text) : analyze (mask before) line = analyze before line := by
  rw [analyze, Statement.current_mask, mask_mask, analyze]

/-- Comments change the clause of a text exactly when they change what its line ends in, and this
counts. -/
theorem analyze_mask_iff (t : Text) :
    analyze (mask t) (Text.lastLine (mask t)) = analyze t (Text.lastLine t) ↔
      joinTail.occurs (Text.lastLine (mask t)) = joinTail.occurs (Text.lastLine t) ∧
        (joinTail.occurs (Text.lastLine t) = true ∨ analyze t [] = ⟨.onCondition, .high⟩ ∨
          onTail.occurs (Text.lastLine (mask t)) = onTail.occurs (Text.lastLine t)) := by
  rw [analyze_mask]
  exact classify_eq_classify_iff

/-- Words in a comment at the end of the line are taken for a JOIN and an ON, and a comment hides the
end of a JOIN. -/
theorem analyze_mask_ne_of_tail_in_comment :
    let inLine := "SELECT 1 -- join".toList
    analyze inLine (Text.lastLine inLine) = ⟨.joinTable, .high⟩ ∧
      analyze (mask inLine) (Text.lastLine (mask inLine)) = ⟨.selectList, .high⟩ ∧
      ∀ t ∈ [inLine, "SELECT 1 -- on".toList, "SELECT * FROM Users u JOIN /* c */ ".toList],
        analyze t (Text.lastLine t) ≠ analyze (mask t) (Text.lastLine (mask t)) := by
  decide +kernel

namespace Completion

/-- What completion reads off a document as it is, with its comments. -/
structure Unmasked where
  endsInJoin : Bool
  endsInOn : Bool
  qualifier : Option Text
  updated : Option ObjectName
deriving DecidableEq, Repr

def unmasked (line query : Text) : Unmasked :=
  { endsInJoin := Typing.joinTail.occurs line
    endsInOn := Typing.onTail.occurs line
    qualifier := (memberAccess.first? line).map Hit.value
    updated := (Scope.updateName.first? query).map Hit.value }

def unmaskedAt (document : Text) (offset : Nat) : Unmasked :=
  unmasked (Text.lastLine (Text.upTo offset document)) (Statement.containing document offset).text

end Completion

theorem Item.ofQuery_mask (query : Text) : ofQuery (mask query) = ofQuery query := by
  rw [ofQuery, mask_mask, ofQuery]

namespace Scope

theorem tableOfAlias?_mask (query name : Text) (snapshot : Snapshot) :
    tableOfAlias? (mask query) name snapshot = tableOfAlias? query name snapshot := by
  rw [tableOfAlias?, Item.ofQuery_mask, tableOfAlias?]

theorem updateTarget?_eq_bind (query : Text) (snapshot : Snapshot) :
    updateTarget? query snapshot =
      ((updateName.first? query).map Hit.value).bind fun name =>
        (snapshot.findTable? name.qualifier name.name).or
          (tableOfAlias? query name.name snapshot) := by
  rw [updateTarget?, Option.bind_map]
  rfl

theorem updateTarget?_mask {query : Text}
    (h : (updateName.first? (mask query)).map Hit.value =
      (updateName.first? query).map Hit.value) (snapshot : Snapshot) :
    updateTarget? (mask query) snapshot = updateTarget? query snapshot := by
  rw [updateTarget?_eq_bind, updateTarget?_eq_bind, h]
  simp only [tableOfAlias?_mask]

theorem tablesInScope_mask {query : Text}
    (h : (updateName.first? (mask query)).map Hit.value =
      (updateName.first? query).map Hit.value) (snapshot : Snapshot) :
    tablesInScope (mask query) snapshot = tablesInScope query snapshot := by
  simp only [tablesInScope, tables, Item.ofQuery_mask, updateTarget?_mask h]

end Scope

/-- Of the line of the cursor only its tail counts for the clause. -/
theorem classify_congr_line {line line' : Text}
    (hjoin : Typing.joinTail.occurs line' = Typing.joinTail.occurs line)
    (hon : Typing.onTail.occurs line' = Typing.onTail.occurs line) (t : Text) :
    classify t line' = classify t line := by
  simp only [classify, hjoin, hon]

namespace Completion

theorem members_mask (qualifier : Text) (clause : Clause) (query : Text) (snapshot : Snapshot)
    (settings : Settings) :
    members qualifier clause (mask query) snapshot settings =
      members qualifier clause query snapshot settings := by
  simp only [members, Scope.tableOfAlias?_mask]

theorem forClause_mask {query : Text}
    (h : (Scope.updateName.first? (mask query)).map Hit.value =
      (Scope.updateName.first? query).map Hit.value) (clause : Clause) (snapshot : Snapshot)
    (settings : Settings) :
    forClause clause (mask query) snapshot settings =
      forClause clause query snapshot settings := by
  simp only [forClause, Scope.tablesInScope_mask h, Scope.updateTarget?_mask h]

theorem ofParts_mask {line line' query : Text}
    (h : unmasked line' (mask query) = unmasked line query) (typed : Text) (snapshot : Snapshot)
    (settings : Settings) :
    ofParts (mask typed) line' (mask query) snapshot settings =
      ofParts typed line query snapshot settings := by
  obtain ⟨hjoin, hon, hmember, hupdate⟩ := Unmasked.mk.inj h
  have hclause : classify (mask (mask typed)) line' = classify (mask typed) line := by
    rw [mask_mask, classify_congr_line hjoin hon]
  simp only [ofParts, hclause]
  cases hline : memberAccess.first? line with
  | none =>
    have hline' : memberAccess.first? line' = none := by
      rwa [hline, Option.map_none, Option.map_eq_none_iff] at hmember
    simp only [hline', forClause_mask hupdate]
  | some hit =>
    rw [hline, Option.map_some, Option.map_eq_some_iff] at hmember
    obtain ⟨hit', hline', hvalue⟩ := hmember
    simp only [hline', hvalue, members_mask]

end Completion

/-- Where the cursor stands in no comment, comments change what is offered only through the four
readings that are made of the document as it is. -/
theorem complete_mask (document : Text) (offset : Nat) (snapshot : Snapshot) (settings : Settings)
    (hascii : commentsAreAscii document = true) (hboundary : Text.IsBoundary document offset)
    (hcursor : ¬ InsideComment document offset)
    (hreadings : Completion.unmaskedAt (mask document) offset =
      Completion.unmaskedAt document offset) :
    complete (mask document) (Position.ofOffset document offset) snapshot settings =
      complete document (Position.ofOffset document offset) snapshot settings := by
  obtain ⟨x, y, rfl, rfl⟩ := hboundary
  obtain ⟨z, hmask⟩ := exists_mask_append hcursor
  have hplace : Position.ofOffset (x ++ y) (Text.size x) =
      Position.ofOffset (mask x ++ z) (Text.size (mask x)) := by
    rw [Position.ofOffset_of_forall₂ (forall₂_mask hascii), hmask, size_mask]
  have hmasked : complete (mask (x ++ y)) (Position.ofOffset (x ++ y) (Text.size x)) snapshot
      settings =
      Completion.ofParts (mask (Statement.current x)) (Text.lastLine (mask x))
        (mask (Statement.containing (x ++ y) (Text.size x)).text) snapshot settings := by
    rw [hplace, hmask, Completion.complete_append_eq_ofParts, Statement.current_mask, ← hmask,
      Statement.containing_mask, size_mask, Statement.masked]
  rw [hmasked, Completion.complete_append_eq_ofParts]
  apply Completion.ofParts_mask
  have hfront : Text.upTo (Text.size x) (mask (x ++ y)) = mask x := by
    rw [hmask, ← size_mask x, Text.upTo_append_size]
  rwa [Completion.unmaskedAt, Completion.unmaskedAt, hfront, Text.upTo_append_size,
    Statement.containing_mask] at hreadings

theorem complete_mask_update :
    let document := "UPDATE Users -- join [us\nSET /* on */ Email = 1, ".toList
    let offset := Text.size document
    let snapshot : Snapshot :=
      { tables := [⟨"dbo".toList, "Users".toList, [.ofType "Email".toList "text".toList]⟩] }
    commentsAreAscii document = true ∧ Text.IsBoundary document offset ∧
      ¬ InsideComment document offset ∧
      Completion.unmaskedAt (mask document) offset = Completion.unmaskedAt document offset ∧
      (complete document (Position.ofOffset document offset) snapshot {}).suggestions.map
        Suggestion.insertText = ["Email = ".toList] ∧
      complete (mask document) (Position.ofOffset document offset) snapshot {} =
        complete document (Position.ofOffset document offset) snapshot {} := by
  intro document offset snapshot
  have hascii : commentsAreAscii document = true := by decide +kernel
  have hboundary : Text.IsBoundary document offset := ⟨document, [], by simp, rfl⟩
  have hcursor : ¬ InsideComment document offset := by decide +kernel
  have hreadings : Completion.unmaskedAt (mask document) offset =
      Completion.unmaskedAt document offset := by decide +kernel
  exact ⟨hascii, hboundary, hcursor, hreadings, by decide +kernel,
    complete_mask document offset snapshot {} hascii hboundary hcursor hreadings⟩

/-- A comment on a line of its own that names a table behind UPDATE: the cursor is not in it and not
at its end, and yet nothing is offered where the masked document has a column to assign to. -/
theorem complete_mask_ne_of_update_in_comment :
    let document := "-- update Ghosts\nUPDATE Users SET ".toList
    let offset := Text.size document
    let snapshot : Snapshot :=
      { tables := [⟨"dbo".toList, "Users".toList, [.ofType "Email".toList "text".toList]⟩] }
    commentsAreAscii document = true ∧ Text.IsBoundary document offset ∧
      (∀ span ∈ spans document,
        span.kind.isComment = true → ¬ (span.start < offset ∧ offset ≤ span.stop)) ∧
      (complete document (Position.ofOffset document offset) snapshot {}).suggestions = [] ∧
      (complete (mask document) (Position.ofOffset document offset) snapshot {}).suggestions.map
        Suggestion.insertText = ["Email = ".toList] := by
  intro document offset snapshot
  exact ⟨by decide +kernel, ⟨document, [], by simp, rfl⟩, by decide +kernel, by decide +kernel,
    by decide +kernel⟩

end SqlAssist
