import SqlAssist.Clause
import SqlAssist.Proofs.LetterCase.Condition
import SqlAssist.Proofs.LetterCase.Scan
import SqlAssist.Proofs.Statement.Placement

/-! # The clause without the case of ASCII letters

Where keywords stand, which names are being typed and where an operator is awaited does not depend
on the case of ASCII letters. So the clause at the end of a folded text is that of the text, and the
table that columns are listed of is the folded one. -/
namespace SqlAssist

open Character Text

namespace Typing

theorem isNameChar_toLower (c : Char) : isNameChar c.toLower = isNameChar c := by
  rw [isNameChar, Letters.isNamePart_toLower, toLower_beq (by decide), isNameChar]

@[simp] theorem isName_folded (inBracket : Bool) (t : Text) :
    isName inBracket (folded t) = isName inBracket t := by
  have hopen (c : Char) : (c.toLower == '[') = (c == '[') := toLower_beq (by decide) c
  have hclose (c : Char) : (c.toLower != ']') = (c != ']') := by
    rw [bne, toLower_beq (by decide), bne]
  induction t generalizing inBracket with
  | nil => rfl
  | cons c t ih => simp only [folded_cons, isName, hopen, hclose, isNameChar_toLower, ih]

theorem isJoinRest_folded (t : Text) : isJoinRest (folded t) = isJoinRest t := by
  rw [isJoinRest, folded_beq_nil, skipBlanks?_folded, Option.any_map, isJoinRest]
  simp only [isName_folded]

theorem folds_joinTail : joinTail.Folds id := by
  intro left t
  simp only [joinTail, noWord_map_toLower, readWord?_folded, Option.any_map,
    isJoinRest_folded]
  split <;> rfl

theorem folds_onTail : onTail.Folds id := by
  intro left t
  simp only [onTail, noWord_map_toLower, readWord?_folded, Option.any_map,
    isBlank_folded]
  split <;> rfl

@[simp] theorem behindWord?_folded (word t : Text) :
    behindWord? word (folded t) = (behindWord? word t).map folded := by
  rw [behindWord?, readWord?_folded, behindWord?]
  cases readWord? word t with
  | none => rfl
  | some rest => exact skipBlanks?_folded rest

@[simp] theorem isUpdateTarget_folded (t : Text) :
    isUpdateTarget (folded t) = isUpdateTarget t := by
  simp only [isUpdateTarget, behindWord?_folded, Option.any_map, isName_folded]

@[simp] theorem isInsertTarget_folded (t : Text) :
    isInsertTarget (folded t) = isInsertTarget t := by
  simp only [isInsertTarget, behindWord?_folded, Option.any_map, isName_folded]

theorem isOpenList_folded (t : Text) : isOpenList (folded t) = isOpenList t := by
  have hclose (columns : Text) : (folded columns).contains ')' = columns.contains ')' := by
    rw [← List.any_beq', ← List.any_beq', folded, List.any_map]
    exact congrArg (List.any columns) (funext fun c => toLower_beq (by decide) c)
  rw [isOpenList, trimStart_folded, skipChar?_folded (by decide), Option.any_map, isOpenList]
  simp only [hclose]

@[simp] theorem columnListOf?_folded (t : Text) :
    columnListOf? (folded t) = (columnListOf? t).map folded := by
  rw [columnListOf?, ObjectName.read?_folded, columnListOf?]
  cases ObjectName.read? .folded t with
  | none => rfl
  | some found =>
    simp only [Option.map_some, Option.filter_some, Prod.map_snd, isOpenList_folded]
    split <;> rfl

@[simp] theorem insertColumnList?_folded (t : Text) :
    insertColumnList? (folded t) = (insertColumnList? t).map folded := by
  rw [insertColumnList?, behindWord?_folded, insertColumnList?]
  cases behindWord? "insert".toList t with
  | none => rfl
  | some rest =>
    simp only [Option.map_some, Option.bind_some, behindWord?_folded, columnListOf?_folded,
      Option.map_or]
    cases behindWord? "into".toList rest with
    | none => rfl
    | some list => simp only [Option.map_some, Option.bind_some, columnListOf?_folded]

theorem isGap_folded (t : Text) : isGap (folded t) = isGap t := by
  rw [isGap, bne, folded_beq_nil, isBlank_folded, isGap, bne]

theorem isAliasThenGap_folded (t : Text) : isAliasThenGap (folded t) = isAliasThenGap t := by
  rw [isAliasThenGap, Identifier.read?_folded, isAliasThenGap]
  cases Identifier.read? .folded t with
  | none => rfl
  | some found => exact isGap_folded found.2

@[simp] theorem isTableThenGap_folded (t : Text) :
    isTableThenGap (folded t) = isTableThenGap t := by
  simp only [isTableThenGap, skipBlanks?_folded]
  cases skipBlanks? t with
  | none => rfl
  | some named =>
    simp only [Option.map_some, Option.bind_some, ObjectName.read?_folded, Option.any_map,
      Prod.map, isGap_folded, skipBlanks?_folded, behindWord?_folded,
      isAliasThenGap_folded]

end Typing

namespace Statement

theorem current_folded (t : Text) : current (Text.folded t) = Text.folded (current t) := by
  have htexts : texts (Text.folded t) = (texts t).map Text.folded := by
    rw [texts, Token.tokens_folded, textsOf_folded, texts]
  exact current_of_texts_map htexts

end Statement

def Clause.folded : Clause → Clause
  | .insertColumns table => .insertColumns (Text.folded table)
  | clause => clause

def Context.folded (context : Context) : Context := ⟨context.clause.folded, context.confidence⟩

theorem classify_folded (t line : Text) :
    classify (folded t) (folded line) = (classify t line).folded := by
  have htarget (c : Bool) :
      (if c then (Keyword.insert.fromLastIn? (folded t)).bind Typing.insertColumnList? else none) =
        (if c then (Keyword.insert.fromLastIn? t).bind Typing.insertColumnList? else none).map
          folded := by
    cases c with
    | false => rfl
    | true =>
      rw [Keyword.fromLastIn?_folded]
      cases Keyword.insert.fromLastIn? t with
      | none => rfl
      | some inserted => exact Typing.insertColumnList?_folded inserted
  simp only [classify, htarget]
  simp only [Keyword.lastIn_folded, Typing.folds_joinTail.occurs_folded,
    Typing.folds_onTail.occurs_folded, Keyword.behindLastIn_folded,
    (folds_standingOneOf orderByEnds).occurs_folded, Condition.awaitsOperator_folded,
    Keyword.fromLastIn?_folded, Option.any_map, Typing.isUpdateTarget_folded,
    Typing.isInsertTarget_folded, Typing.isTableThenGap_folded, apply_ite Context.folded]
  iterate 5 refine congrArg (ite _ _) ?_
  generalize (if Landmarks.isBehind (fun keyword => keyword.lastIn t) .insert [.select] then
    (Keyword.insert.fromLastIn? t).bind Typing.insertColumnList? else none) = target
  cases target with
  | some table => rfl
  | none =>
    simp only [Option.map_none, apply_ite Context.folded]
    rfl

theorem analyze_folded (before line : Text) :
    analyze (folded before) (folded line) = (analyze before line).folded := by
  rw [analyze, Statement.current_folded, mask_folded, classify_folded, analyze]

/-- Two clauses that differ in nothing but the case of ASCII letters in the name of a table. -/
inductive Clause.EqIgnoreCase : Clause → Clause → Prop where
  | same (clause : Clause) : EqIgnoreCase clause clause
  | insertColumns {table table' : Text} (h : eqIgnoreCase table table' = true) :
      EqIgnoreCase (.insertColumns table) (.insertColumns table')

namespace Clause

variable {clause clause' : Clause}

theorem eqIgnoreCase_of_folded (h : clause.folded = clause'.folded) :
    clause.EqIgnoreCase clause' := by
  cases clause with
  | insertColumns table =>
    cases clause' with
    | insertColumns table' => exact .insertColumns (beq_iff_eq.mpr (Clause.insertColumns.inj h))
    | _ => cases h
  | _ =>
    cases clause' <;> cases h
    all_goals exact .same _

theorem EqIgnoreCase.awaitsOperator_eq (h : clause.EqIgnoreCase clause') :
    clause.awaitsOperator = clause'.awaitsOperator := by
  cases h <;> rfl

end Clause

structure Context.EqIgnoreCase (context context' : Context) : Prop where
  clause : context.clause.EqIgnoreCase context'.clause
  confidence : context.confidence = context'.confidence
  awaitsOperator : context.clause.awaitsOperator = context'.clause.awaitsOperator

/-- Texts that are equal when the case of ASCII letters is ignored, with lines that are, have the
same clause at their ends. -/
theorem analyze_eqIgnoreCase {before before' line line' : Text}
    (hbefore : eqIgnoreCase before before' = true) (hline : eqIgnoreCase line line' = true) :
    (analyze before line).EqIgnoreCase (analyze before' line') := by
  have hfolded : (analyze before line).folded = (analyze before' line').folded := by
    have htext : folded before = folded before' := eq_of_beq hbefore
    have hlast : folded line = folded line' := eq_of_beq hline
    rw [← analyze_folded, ← analyze_folded, htext, hlast]
  have hclause : (analyze before line).folded.clause = (analyze before' line').folded.clause :=
    congrArg Context.clause hfolded
  have hconfidence : (analyze before line).folded.confidence =
      (analyze before' line').folded.confidence := congrArg Context.confidence hfolded
  have hsame := Clause.eqIgnoreCase_of_folded hclause
  exact ⟨hsame, hconfidence, hsame.awaitsOperator_eq⟩

theorem analyze_eqIgnoreCase_insert :
    eqIgnoreCase "INSERT INTO Users\n(Id, N".toList "insert into USERS\n(ID, n".toList = true ∧
      eqIgnoreCase "(Id, N".toList "(ID, n".toList = true ∧
      (analyze "INSERT INTO Users\n(Id, N".toList "(Id, N".toList).EqIgnoreCase
        (analyze "insert into USERS\n(ID, n".toList "(ID, n".toList) := by
  have hbefore :
      eqIgnoreCase "INSERT INTO Users\n(Id, N".toList "insert into USERS\n(ID, n".toList = true := by
    decide
  have hline : eqIgnoreCase "(Id, N".toList "(ID, n".toList = true := by decide
  exact ⟨hbefore, hline, analyze_eqIgnoreCase hbefore hline⟩

end SqlAssist
