import SqlAssist.Completion
import SqlAssist.Proofs.Mask.Scan
import SqlAssist.Proofs.Position
import SqlAssist.Proofs.Reference.Written
import SqlAssist.Proofs.Statement.Placement
import SqlAssist.Proofs.Statement.Segments

/-! # Completion looks at one statement

What is offered at a place follows from three parts of the document: the statement being typed, the
part of its line before the place, and the statement around the place. Closed texts in front of and
behind a part of the document leave all three as they are, but for the line break with which the first
statement of that part then begins. It is masked as it is, no keyword and no anchor is read across it,
and all offsets of keywords move by the same distance, so neither the clause nor the tables in scope
depend on it. -/
namespace SqlAssist

open Character Token

theorem region?_newline (t : Text) : region? ('\n' :: t) = none :=
  region?_cons_of_isBlank isBlank_newline t

theorem mask_newline (t : Text) : mask ('\n' :: t) = '\n' :: mask t :=
  mask_cons_of_code (region?_newline t)

theorem Statement.texts_newline (t : Text) :
    texts ('\n' :: t) = (texts t).modifyHead ('\n' :: ·) :=
  texts_of_code (region?_newline t)

namespace Keyword

theorem words_eq_cons (keyword : Keyword) :
    ∃ w word rest, keyword.words = (w :: word) :: rest ∧ isBlank w = false := by
  cases keyword <;> exact ⟨_, _, _, rfl, by decide⟩

theorem ignoresNewline_pattern (keyword : Keyword) : keyword.pattern.IgnoresNewline where
  at_newline left t := by
    obtain ⟨w, word, rest, hwords, hw⟩ := keyword.words_eq_cons
    have hword : readWord? (w :: word) ('\n' :: t) = none := readWord?_of_isBlank hw isBlank_newline
    have hread : readWords? keyword.words ('\n' :: t) = none := by
      rw [hwords]
      cases rest with
      | nil => exact hword
      | cons next rest => simp [readWords?, hword]
    simp [pattern, standingWords, hread]
  behind_newline t := by simp only [pattern, standingWords, noWord_newline]

/-- A line break in front moves the last occurrence of a keyword by one byte. -/
theorem lastIn_newline (keyword : Keyword) (t : Text) :
    keyword.lastIn ('\n' :: t) = (keyword.lastIn t).map (· + 1) := by
  rw [lastIn, keyword.ignoresNewline_pattern.last?_cons, lastIn, Option.map_map]
  cases hlast : keyword.pattern.last? t with
  | none => rfl
  | some hit =>
    have hle := Text.size_le_of_suffix (Pattern.here_suffix_of_last? hlast)
    have hone : Char.utf8Size '\n' = 1 := by decide
    simp only [Option.map_some, Function.comp_apply, Hit.start, Text.size_cons, hone]
    congr 1
    omega

theorem behindLastIn_newline (keyword : Keyword) (t : Text) :
    keyword.behindLastIn ('\n' :: t) = keyword.behindLastIn t := by
  rw [behindLastIn, keyword.ignoresNewline_pattern.last?_cons, behindLastIn]

theorem fromLastIn?_newline (keyword : Keyword) (t : Text) :
    keyword.fromLastIn? ('\n' :: t) = keyword.fromLastIn? t := by
  rw [fromLastIn?, keyword.ignoresNewline_pattern.last?_cons, fromLastIn?]

end Keyword

theorem occursBehind_succ (a b : Option Nat) :
    occursBehind (a.map (· + 1)) (b.map (· + 1)) = occursBehind a b := by
  cases a <;> cases b <;> simp [occursBehind]

/-- Only the order of the landmarks counts. -/
theorem Landmarks.isBehind_succ (marks : Landmarks) (k : Keyword) (others : List Keyword) :
    Landmarks.isBehind (fun keyword => (marks keyword).map (· + 1)) k others =
      marks.isBehind k others := by
  simp only [Landmarks.isBehind, occursBehind_succ]

theorem classify_newline (t line : Text) : classify ('\n' :: t) line = classify t line := by
  unfold classify
  simp only [Keyword.lastIn_newline, Keyword.behindLastIn_newline, Keyword.fromLastIn?_newline,
    Landmarks.isBehind_succ (fun keyword => keyword.lastIn t), Option.isSome_map]

theorem Item.ofQuery_newline (query : Text) : ofQuery ('\n' :: query) = ofQuery query := by
  rw [ofQuery, mask_newline, (ignoresNewline_anchored _).hits_cons, ofQuery]

namespace Scope

theorem ignoresNewline_updateName : updateName.IgnoresNewline where
  at_newline left t := by
    have hword : readWord? "update".toList ('\n' :: t) = none :=
      readWord?_of_isBlank (w := 'u') (by decide) isBlank_newline
    rw [updateName, hword, Option.bind_none, Option.bind_none, ite_self]
  behind_newline t := by simp only [updateName, noWord_newline]

theorem tableOfAlias?_newline (query name : Text) (snapshot : Snapshot) :
    tableOfAlias? ('\n' :: query) name snapshot = tableOfAlias? query name snapshot := by
  rw [tableOfAlias?, Item.ofQuery_newline, tableOfAlias?]

theorem updateTarget?_newline (query : Text) (snapshot : Snapshot) :
    updateTarget? ('\n' :: query) snapshot = updateTarget? query snapshot := by
  simp only [updateTarget?, ignoresNewline_updateName.first?_cons, tableOfAlias?_newline]

theorem tablesInScope_newline (query : Text) (snapshot : Snapshot) :
    tablesInScope ('\n' :: query) snapshot = tablesInScope query snapshot := by
  simp only [tablesInScope, tables, Item.ofQuery_newline, updateTarget?_newline]

end Scope

namespace Completion

theorem members_newline (qualifier : Text) (clause : Clause) (query : Text) (snapshot : Snapshot)
    (settings : Settings) :
    members qualifier clause ('\n' :: query) snapshot settings =
      members qualifier clause query snapshot settings := by
  simp only [members, Scope.tableOfAlias?_newline]

theorem forClause_newline (clause : Clause) (query : Text) (snapshot : Snapshot)
    (settings : Settings) :
    forClause clause ('\n' :: query) snapshot settings =
      forClause clause query snapshot settings := by
  simp only [forClause, Scope.tablesInScope_newline, Scope.updateTarget?_newline]

/-- What is offered for a statement being typed, the line of the cursor and the whole statement. -/
def ofParts (typed line query : Text) (snapshot : Snapshot) (settings : Settings) : Completion :=
  let context := classify (mask typed) line
  let suggestions :=
    match memberAccess.first? line with
    | some hit => members hit.value context.clause query snapshot settings
    | none => forClause context.clause query snapshot settings
  ⟨context, Suggestion.rank suggestions settings.maxSuggestions⟩

theorem complete_eq_ofParts (document : Text) (position : Position) (snapshot : Snapshot)
    (settings : Settings) :
    complete document position snapshot settings =
      let before := Position.front document position
      ofParts (Statement.current before) (Text.lastLine before)
        (Statement.containing document (Text.size before)).text snapshot settings := rfl

theorem complete_append_eq_ofParts (x y : Text) (snapshot : Snapshot) (settings : Settings) :
    complete (x ++ y) (Position.ofOffset (x ++ y) (Text.size x)) snapshot settings =
      ofParts (Statement.current x) (Text.lastLine x)
        (Statement.containing (x ++ y) (Text.size x)).text snapshot settings := by
  rw [complete_eq_ofParts, Position.front_ofOffset_append]

theorem ofParts_newline (typed line query : Text) (snapshot : Snapshot) (settings : Settings) :
    ofParts ('\n' :: typed) line ('\n' :: query) snapshot settings =
      ofParts typed line query snapshot settings := by
  simp only [ofParts, mask_newline, classify_newline, members_newline, forClause_newline]

end Completion

/-- In a document with closed texts around `x ++ y`, the statement being typed behind `x` and the
statement around that place are those of `x ++ y`, or both begin with one more line break. -/
theorem Statement.current_and_containing_between {p x y : Text} (r : Text) (hp : Closed p)
    (hd : Closed (x ++ y)) :
    let front := p ++ ';' :: '\n' :: x
    let around := (containing (front ++ (y ++ ';' :: r)) (Text.size front)).text
    let query := (containing (x ++ y) (Text.size x)).text
    (current front = current x ∧ around = query) ∨
      (current front = '\n' :: current x ∧ around = '\n' :: query) := by
  obtain ⟨init, last, z, more, hx, hxy⟩ := (continues_texts x y).exists_append
  have hfront : texts (p ++ ';' :: '\n' :: x) =
      texts p ++ (init ++ [last]).modifyHead ('\n' :: ·) := by
    rw [texts_append_of_closed hp, texts_newline, hx]
  have hwhole : texts (p ++ ';' :: '\n' :: x ++ (y ++ ';' :: r)) =
      texts p ++ (init ++ (last ++ z) :: (more ++ texts r)).modifyHead ('\n' :: ·) := by
    rw [show p ++ ';' :: '\n' :: x ++ (y ++ ';' :: r) =
        p ++ ';' :: '\n' :: ((x ++ y) ++ ';' :: r) by simp,
      texts_append_of_closed hp, texts_newline, texts_append_of_closed hd, hxy, List.append_assoc]
    rfl
  simp only
  rw [current_eq_of_texts hx, containing_append_of_texts hx hxy]
  cases init with
  | nil =>
    rw [current_eq_of_texts hfront, containing_append_of_texts hfront hwhole]
    exact Or.inr ⟨rfl, rfl⟩
  | cons first init =>
    have hfront' : texts (p ++ ';' :: '\n' :: x) =
        (texts p ++ ('\n' :: first) :: init) ++ [last] := by
      rw [hfront, List.append_assoc]
      rfl
    have hwhole' : texts (p ++ ';' :: '\n' :: x ++ (y ++ ';' :: r)) =
        (texts p ++ ('\n' :: first) :: init) ++ (last ++ z) :: (more ++ texts r) := by
      rw [hwhole, List.append_assoc]
      rfl
    rw [current_eq_of_texts hfront', containing_append_of_texts hfront' hwhole']
    exact Or.inl ⟨rfl, rfl⟩

/-- What is offered in a part of a document does not depend on closed texts around it. -/
theorem complete_between_statements (p d r : Text) (offset : Nat) (snapshot : Snapshot)
    (settings : Settings) (hp : Closed p) (hd : Closed d) (ho : Text.IsBoundary d offset) :
    let document := p ++ ";\n".toList ++ d ++ ";".toList ++ r
    complete document (Position.ofOffset document (Text.size p + 2 + offset)) snapshot settings =
      complete d (Position.ofOffset d offset) snapshot settings := by
  obtain ⟨x, y, rfl, rfl⟩ := ho
  have hdocument : p ++ ";\n".toList ++ (x ++ y) ++ ";".toList ++ r =
      p ++ ';' :: '\n' :: x ++ (y ++ ';' :: r) := by
    simp
  have hoffset : Text.size p + 2 + Text.size x = Text.size (p ++ ';' :: '\n' :: x) := by
    have hsize : Text.size (';' :: '\n' :: x) = 1 + (1 + Text.size x) := rfl
    rw [Text.size_append, hsize]
    omega
  have hline : Text.lastLine (p ++ ';' :: '\n' :: x) = Text.lastLine x := by
    rw [show p ++ ';' :: '\n' :: x = (p ++ [';']) ++ '\n' :: x by simp,
      Text.lastLine_append_newline]
  simp only
  rw [hdocument, hoffset, Completion.complete_append_eq_ofParts,
    Completion.complete_append_eq_ofParts, hline]
  rcases Statement.current_and_containing_between r hp hd with ⟨htyped, haround⟩ | ⟨htyped, haround⟩
  · rw [htyped, haround]
  · rw [htyped, haround, Completion.ofParts_newline]

/-- A member access on the second line of a document, the statement going on behind it. -/
theorem complete_between_statements_member :
    let p := "SELECT ';'".toList
    let d := "SELECT u. FROM Users u".toList
    let r := " SELECT 2".toList
    let users : Table := ⟨"dbo".toList, "Users".toList, [.ofType "Id".toList "int".toList]⟩
    let snapshot : Snapshot := { tables := [users] }
    let settings : Settings := {}
    let document := p ++ ";\n".toList ++ d ++ ";".toList ++ r
    Closed p ∧ Closed d ∧ Text.IsBoundary d 9 ∧
      (complete d (Position.ofOffset d 9) snapshot settings).suggestions.map Suggestion.label =
        ["Id".toList] ∧
      complete document (Position.ofOffset document (Text.size p + 2 + 9)) snapshot settings =
        complete d (Position.ofOffset d 9) snapshot settings :=
  have hp : Closed "SELECT ';'".toList := by unfold Closed; decide +kernel
  have hd : Closed "SELECT u. FROM Users u".toList := by unfold Closed; decide +kernel
  have ho : Text.IsBoundary "SELECT u. FROM Users u".toList 9 :=
    ⟨"SELECT u.".toList, " FROM Users u".toList, by decide, by decide⟩
  ⟨hp, hd, ho, by decide +kernel, complete_between_statements _ _ _ 9 _ _ hp hd ho⟩

end SqlAssist
