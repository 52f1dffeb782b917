import SqlAssist.Proofs.Clause.Operand
import SqlAssist.Proofs.LetterCase.Reference
import SqlAssist.Search

/-! # Keywords and conditions without the case of ASCII letters

The letters of a keyword are compared without their case, so a keyword stands in a folded text where
it stands in the text. A condition is cut at words, and an operand is told by the classes of its
characters and a few signs, so an operator is awaited behind a folded condition where it is awaited
behind the condition itself. -/
namespace SqlAssist

open Character Text

theorem readWords?_folded (words : List Text) (t : Text) :
    readWords? words (folded t) = (readWords? words t).map folded := by
  induction words generalizing t with
  | nil => rfl
  | cons word words ih =>
    cases words with
    | nil => exact readWord?_folded word t
    | cons next words =>
      simp only [readWords?, readWord?_folded, Option.bind_eq_bind]
      cases readWord? word t with
      | none => rfl
      | some behind =>
        simp only [Option.map_some, Option.bind_some, skipBlanks?_folded]
        cases skipBlanks? behind with
        | none => rfl
        | some front => exact ih front

theorem folds_standingWords (words : List Text) : (standingWords words).Folds id := by
  intro left t
  simp only [standingWords, noWord_map_toLower, readWords?_folded]
  split
  · cases readWords? words t with
    | none => rfl
    | some rest =>
      simp only [Option.map_some, Option.filter_some, head?_folded, noWord_map_toLower]
      split <;> rfl
  · rfl

theorem folds_standingOneOf (words : List Text) : (standingOneOf words).Folds id := by
  intro left t
  have hword (word : Text) : standingWords [word] (left.map Char.toLower) (folded t) =
      (standingWords [word] left t).map (Prod.map id folded) :=
    folds_standingWords [word] left t
  simp only [standingOneOf, hword, List.map_findSome?]
  rfl

namespace Pattern.Folds

variable {α : Type} {f : α → α} {pattern : Pattern α}

theorem last?_folded (h : pattern.Folds f) (t : Text) :
    pattern.last? (folded t) = (pattern.last? t).map (Hit.folded f) := by
  rw [last?, h.hits_folded, List.getLast?_map, last?]

theorem occurs_folded (h : pattern.Folds f) (t : Text) :
    pattern.occurs (folded t) = pattern.occurs t := by
  have hfirst (s : Text) : pattern.first? s = (pattern.hits s).head? :=
    (head?_hitsFrom pattern none s).symm
  rw [occurs, hfirst, h.hits_folded, List.head?_map, Option.isSome_map, occurs, hfirst]

end Pattern.Folds

namespace Keyword

theorem last?_pattern_folded (keyword : Keyword) (t : Text) :
    keyword.pattern.last? (folded t) = (keyword.pattern.last? t).map (Hit.folded id) :=
  (folds_standingWords keyword.words).last?_folded t

@[simp] theorem lastIn_folded (keyword : Keyword) (t : Text) :
    keyword.lastIn (folded t) = keyword.lastIn t := by
  rw [lastIn, last?_pattern_folded, Option.map_map, lastIn]
  refine congrArg (Option.map · _) (funext fun hit => ?_)
  simp [Hit.start, Hit.folded]

@[simp] theorem fromLastIn?_folded (keyword : Keyword) (t : Text) :
    keyword.fromLastIn? (folded t) = (keyword.fromLastIn? t).map folded := by
  rw [fromLastIn?, last?_pattern_folded, Option.map_map, fromLastIn?, Option.map_map]
  rfl

@[simp] theorem behindLastIn_folded (keyword : Keyword) (t : Text) :
    keyword.behindLastIn (folded t) = folded (keyword.behindLastIn t) := by
  rw [behindLastIn, last?_pattern_folded, behindLastIn]
  cases keyword.pattern.last? t <;> rfl

end Keyword

namespace Text

theorem folded_beq_singleton {x : Char} (hx : x.isAlpha = false) (t : Text) :
    (folded t == [x]) = (t == [x]) := by
  cases t with
  | nil => rfl
  | cons c t =>
    rw [folded_cons, List.cons_beq_cons, toLower_beq hx, List.cons_beq_cons]
    cases t <;> rfl

theorem folded_beq_nil (t : Text) : (folded t == []) = (t == []) := by
  cases t <;> rfl

theorem all_folded {p : Char → Bool} (hp : ∀ c, p c.toLower = p c) (t : Text) :
    (folded t).all p = t.all p := by
  rw [folded, List.all_map]
  exact congrArg (List.all t) (funext hp)

@[simp] theorem isBlank_folded (t : Text) : isBlank (folded t) = isBlank t := by
  exact all_folded isBlank_toLower t

@[simp] theorem trim_folded (t : Text) : trim (folded t) = folded (trim t) := by
  simp only [trim, trimStart_folded, reverse_folded]

end Text

/-- A table name is read from a folded text with the same qualifier or none. -/
@[simp] theorem ObjectName.read?_folded (letters : Letters) (t : Text) :
    read? letters (Text.folded t) = (read? letters t).map (Prod.map folded Text.folded) := by
  simp only [read?, Identifier.read?_folded, Option.bind_eq_bind]
  cases Identifier.read? letters t with
  | none => rfl
  | some found =>
    obtain ⟨first, rest⟩ := found
    simp only [Option.map_some, Option.bind_some, Prod.map]
    by_cases hdot : rest.head? = some '.'
    · obtain ⟨behind, rfl⟩ := List.head?_eq_some_iff.mp hdot
      have hfolded : Text.folded ('.' :: behind) = '.' :: Text.folded behind := rfl
      simp only [hfolded, Identifier.read?_folded]
      cases Identifier.read? letters behind <;> simp [ObjectName.folded]
    · have hfolded : (Text.folded rest).head? ≠ some '.' := by simpa using hdot
      split
      · rename_i hhead
        exact absurd (congrArg List.head? hhead) hfolded
      · split
        · exact absurd rfl hdot
        · simp [ObjectName.folded]

theorem isSettledDigit_toLower (c : Char) : isSettledDigit c.toLower = isSettledDigit c :=
  apply_toLower (by decide) c

namespace Condition

theorem lastPart_folded (body : Text) : lastPart (folded body) = folded (lastPart body) := by
  rw [lastPart, (folds_standingOneOf _).last?_folded, lastPart]
  cases (standingOneOf _).last? body <;> rfl

theorem isName_folded (t : Text) : isName (folded t) = isName t := by
  rw [isName, ObjectName.read?_folded, isName]
  cases ObjectName.read? .folded t with
  | none => rfl
  | some found =>
    obtain ⟨name, rest⟩ := found
    cases rest <;> rfl

theorem isCall_folded (t : Text) : isCall (folded t) = isCall t := by
  have hinner (c : Char) : isInner c.toLower = isInner c := by
    simp [isInner]
  have hclose (arguments : Text) : ((folded arguments).dropWhile isInner == [')']) =
      (arguments.dropWhile isInner == [')']) := by
    rw [dropWhile_folded hinner, folded_beq_singleton (by decide)]
  rw [isCall_eq, takeWhile_folded isWord_toLower, dropWhile_folded isWord_toLower, trimStart_folded,
    skipChar?_folded (by decide), Option.any_map, bne, folded_beq_nil, isCall_eq, bne]
  simp only [hclose]

theorem isLiteral_folded (t : Text) : isLiteral (folded t) = isLiteral t := by
  have hclose (body : Text) : ((folded body).dropWhile (· ≠ '\'') == ['\'']) =
      (body.dropWhile (· ≠ '\'') == ['\'']) := by
    rw [(cut_folded (by decide) body).2, folded_beq_singleton (by decide)]
  rw [isLiteral_eq, skipChar?_folded (by decide), Option.any_map, isLiteral_eq]
  simp only [hclose]

theorem isNumber_folded (t : Text) : isNumber (folded t) = isNumber t := by
  have hdecimals (decimals : Text) : (folded decimals != [] &&
      (folded decimals).all isSettledDigit) = (decimals != [] && decimals.all isSettledDigit) := by
    rw [bne, folded_beq_nil, all_folded isSettledDigit_toLower, bne]
  rw [isNumber_eq, takeWhile_folded isSettledDigit_toLower, dropWhile_folded isSettledDigit_toLower,
    skipChar?_folded (by decide), Option.any_map, bne, folded_beq_nil, folded_beq_nil, isNumber_eq,
    bne]
  simp only [hdecimals]

theorem isOperand_folded (t : Text) : isOperand (folded t) = isOperand t := by
  rw [isOperand, isName_folded, isCall_folded, isLiteral_folded, isNumber_folded, isOperand]

/-- An operator is awaited behind a condition or not, whatever the case of its ASCII letters. -/
@[simp] theorem awaitsOperator_folded (body : Text) :
    awaitsOperator (folded body) = awaitsOperator body := by
  have hword (word t : Text) : eqIgnoreCase word (folded t) = eqIgnoreCase word t :=
    congrArg (folded word == ·) (folded_folded t)
  have hlast (t : Text) : (folded t).getLast?.any Character.isBlank =
      t.getLast?.any Character.isBlank := by
    rw [folded, List.getLast?_map, Option.any_map]
    exact congrArg (Option.any · _) (funext isBlank_toLower)
  simp only [awaitsOperator, lastPart_folded, trim_folded, isOperand_folded, hlast, hword]

end Condition

end SqlAssist
