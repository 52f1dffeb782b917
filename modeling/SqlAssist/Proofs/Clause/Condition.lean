import SqlAssist.Proofs.Clause.Operand
import SqlAssist.Proofs.Search.Break

/-! # When the operator of a condition is awaited

Only what stands behind the last AND or OR counts. While that is a single operand, its operator is
awaited; once an operator has been typed, it is not, whatever is typed behind it. -/
namespace SqlAssist.Condition

open Character

abbrev connective : Pattern Unit := standingOneOf ["and".toList, "or".toList]

variable {body rest t : Text}

theorem areLettered_connective : AreLettered ["and".toList, "or".toList] :=
  areLettered_of_all (by decide +kernel)

theorem lastPart_eq (body : Text) :
    lastPart body = ((connective.places body).getLast?.map Hit.rest).getD body := by
  rw [lastPart, Pattern.last?, hits_standingOneOf areLettered_connective]
  cases (connective.places body).getLast? <;> rfl

theorem lastPart_of_not_occurs (h : connective.occurs t = false) : lastPart t = t := by
  rw [lastPart_eq, Pattern.places_eq_nil_iff.mpr h]
  rfl

theorem lastPart_suffix (body : Text) : lastPart body <:+ body := by
  unfold lastPart
  split
  · rename_i hit hlast
    obtain ⟨hhere, left, hread⟩ := Pattern.mem_hits (List.mem_of_getLast? hlast)
    obtain ⟨_, _, x, hx, _⟩ := standingOneOf_eq_some hread
    exact (hx ▸ List.suffix_append x hit.rest).trans hhere
  · exact List.suffix_refl body

theorem placesFrom_connective_cons {b : Char} (hblank : isBlank b = true) (before : Option Char)
    (t : Text) : connective.placesFrom before (b :: t) = connective.places t :=
  placesFrom_standingOneOf_cons (by decide) areLettered_connective (isWord_of_isBlank hblank)
    before t

/-- In front of white space an AND or OR stands alone where it does at the end of a text. -/
theorem places_append_cons {b : Char} (hblank : isBlank b = true) (front t : Text) :
    connective.places (front ++ b :: t) =
      (connective.places front).map (Hit.append (b :: t)) ++ connective.places t := by
  have hbreak : connective.BreaksAt (b :: t) :=
    breaksAt_standingOneOf areLettered_connective (by simp [noWord, isWord_of_isBlank hblank])
  rw [Pattern.places, hbreak.placesFrom_append, placesFrom_connective_cons hblank]
  rfl

theorem lastPart_append {b : Char} (hb : b ∈ body.getLast?) (hblank : isBlank b = true)
    (h : connective.occurs rest = false) : lastPart (body ++ rest) = lastPart body ++ rest := by
  obtain ⟨front, rfl⟩ := List.getLast?_eq_some_iff.mp hb
  have hplaces (t : Text) (ht : connective.places t = []) :
      connective.places (front ++ b :: t) =
        (connective.places front).map (Hit.append (b :: t)) := by
    rw [places_append_cons hblank, ht, List.append_nil]
  rw [List.append_assoc, List.singleton_append, lastPart_eq, lastPart_eq,
    hplaces rest (Pattern.places_eq_nil_iff.mpr h), hplaces [] rfl]
  simp only [List.getLast?_map, Option.map_map]
  cases (connective.places front).getLast? <;> simp [Hit.append]

theorem lastPart_connective {word : Text} (hword : connective.places word = [⟨word, (), []⟩])
    (front : Text) {behind : Text} (hblank : ∃ b ∈ behind.head?, isBlank b = true)
    (h : connective.occurs behind = false) :
    lastPart (front ++ ' ' :: (word ++ behind)) = behind := by
  obtain ⟨b, hb, hblank⟩ := hblank
  obtain ⟨t, rfl⟩ := List.head?_eq_some_iff.mp hb
  have ht : connective.places t = [] := by
    rw [← placesFrom_connective_cons hblank none, ← Pattern.places, Pattern.places_eq_nil_iff, h]
  rw [lastPart_eq, places_append_cons isBlank_space, places_append_cons hblank, hword, ht]
  simp [Hit.append]

theorem not_isBlank_head?_trimStart (t : Text) :
    ∀ c ∈ (Text.trimStart t).head?, isBlank c = false := by
  intro c hc
  have hstop := List.head?_dropWhile_not isBlank t
  rw [← Text.trimStart, Option.mem_def.mp hc] at hstop
  simpa using hstop

theorem exists_trim (t : Text) : ∃ front gap, t = front ++ (Text.trim t ++ gap) ∧
    (∀ c ∈ front, isBlank c = true) ∧ ∀ c ∈ gap, isBlank c = true := by
  let back := (Text.trimStart t).reverse.takeWhile isBlank
  refine ⟨t.takeWhile isBlank, back.reverse, ?_, fun c hc => List.mem_takeWhile_imp hc,
    fun c hc => List.mem_takeWhile_imp (List.mem_reverse.mp hc)⟩
  have hback : Text.trim t ++ back.reverse = Text.trimStart t := by
    rw [Text.trim, ← List.reverse_append, Text.trimStart, List.takeWhile_append_dropWhile,
      List.reverse_reverse]
  rw [hback, Text.trimStart, List.takeWhile_append_dropWhile]

theorem isTight_trim (h : Text.trim t ≠ []) : Text.IsTight (Text.trim t) := by
  have hback : Text.trim t <+: Text.trimStart t := by
    have hsuffix : Text.trimStart (Text.trimStart t).reverse <:+ (Text.trimStart t).reverse :=
      List.dropWhile_suffix _
    simpa [Text.trim] using List.reverse_prefix.mpr hsuffix
  constructor
  · obtain ⟨c, x, hx⟩ := List.exists_cons_of_ne_nil h
    obtain ⟨gap, hgap⟩ := hback
    refine ⟨c, x, hx, not_isBlank_head?_trimStart t c ?_⟩
    rw [← hgap, hx]
    rfl
  · obtain ⟨c, x, hx⟩ := List.exists_cons_of_ne_nil (mt List.reverse_eq_nil_iff.mpr h)
    refine ⟨x.reverse, c, by rw [Text.trim, hx, List.reverse_cons], ?_⟩
    exact not_isBlank_head?_trimStart _ c (by rw [hx]; rfl)

/-- What is left when a text is trimmed goes on up to its last character that is no white space. -/
theorem exists_trim_append {front x : Text} {c : Char} (hfront : ∀ d ∈ front, isBlank d = true)
    (hx : Text.IsTight x) (hc : isBlank c = false) (gap t : Text) :
    ∃ t', Text.trim (front ++ (x ++ (gap ++ c :: t))) = x ++ (gap ++ c :: t') := by
  have hstart : Text.trimStart (front ++ (x ++ (gap ++ c :: t))) = x ++ (gap ++ c :: t) := by
    rw [Text.trimStart, List.dropWhile_append_of_pos hfront, ← Text.trimStart,
      Text.trimStart_of_isTight hx]
  have hend (s : Text) :
      Text.trimStart (t.reverse ++ c :: s) = t.reverse.dropWhile isBlank ++ c :: s := by
    rw [Text.trimStart, List.dropWhile_append]
    split
    · rename_i hempty
      rw [List.isEmpty_iff.mp hempty, List.dropWhile_cons_of_neg (by simp [hc])]
      rfl
    · rfl
  have hreverse :
      (x ++ (gap ++ c :: t)).reverse = t.reverse ++ c :: (gap.reverse ++ x.reverse) := by
    simp
  refine ⟨(t.reverse.dropWhile isBlank).reverse, ?_⟩
  rw [Text.trim, hstart, hreverse, hend]
  simp

/-- Where an operator is awaited, the last part is an operand with white space behind it. -/
theorem exists_operand (h : awaitsOperator body = true) :
    ∃ front x gap, lastPart body = front ++ (x ++ gap) ∧ (∀ c ∈ front, isBlank c = true) ∧
      IsOperand x ∧ Text.IsTight x ∧ Typing.isGap gap = true := by
  simp only [awaitsOperator, Bool.and_eq_true] at h
  obtain ⟨⟨hblank, hoperand⟩, _⟩ := h
  obtain ⟨b, hb, hblank⟩ := (Option.any_eq_true isBlank _).mp hblank
  obtain ⟨front, gap, hpart, hfront, hall⟩ := exists_trim (lastPart body)
  have hx : Text.IsTight (Text.trim (lastPart body)) := by
    refine isTight_trim fun hnil => ?_
    rw [hnil] at hoperand
    cases hoperand
  refine ⟨front, _, gap, hpart, hfront, isOperand_iff.mp hoperand, hx,
    Typing.isGap_iff.mpr ⟨?_, hall⟩⟩
  rintro rfl
  obtain ⟨_, init, d, hinit, hd⟩ := hx
  rw [hpart, hinit, List.append_nil, ← List.append_assoc, List.getLast?_concat] at hb
  rw [← Option.some.inj hb, hd] at hblank
  cases hblank

/-- An operand at the end of a condition, and what is typed behind its white space, are no operand
together. -/
theorem awaitsOperator_append {c : Char} (h : awaitsOperator body = true) (hc : isBlank c = false)
    (hparen : c ≠ '(') (hrest : connective.occurs (c :: rest) = false) :
    awaitsOperator (body ++ c :: rest) = false := by
  obtain ⟨front, x, gap, hpart, hfront, hoperand, hx, hgap⟩ := exists_operand h
  obtain ⟨hne, hall⟩ := Typing.isGap_iff.mp hgap
  have hbody : gap.getLast hne ∈ body.getLast? := by
    obtain ⟨before, hbefore⟩ := lastPart_suffix body
    rw [← hbefore, hpart, ← List.append_assoc, ← List.append_assoc,
      List.getLast?_append_of_ne_nil _ hne]
    exact List.getLast?_eq_some_getLast hne
  have hlast : lastPart (body ++ c :: rest) = front ++ (x ++ (gap ++ c :: rest)) := by
    rw [lastPart_append hbody (hall _ (List.getLast_mem hne)) hrest, hpart]
    simp only [List.append_assoc]
  obtain ⟨t, htrim⟩ := exists_trim_append hfront hx hc gap rest
  rw [awaitsOperator, hlast, htrim, hoperand.isOperand_append hgap hc hparen, Bool.and_false,
    Bool.false_and]

def operatorWords : List Text :=
  ["=", "<>", "<", ">", "<=", ">=", "LIKE", "IN", "BETWEEN", "IS"].map String.toList

/-- Behind a typed operator none is awaited, and behind an AND or OR one is awaited as if nothing
stood in front. -/
theorem awaitsOperator_typed :
    (∀ body operator rest : Text, awaitsOperator body = true → operator ∈ operatorWords →
      connective.occurs rest = false →
        awaitsOperator (body ++ operator ++ " ".toList ++ rest) = false) ∧
    ∀ front behind : Text, (∃ b ∈ behind.head?, isBlank b = true) →
      connective.occurs behind = false →
        awaitsOperator (front ++ " AND".toList ++ behind) = awaitsOperator behind ∧
          awaitsOperator (front ++ " or".toList ++ behind) = awaitsOperator behind := by
  constructor
  · intro body operator rest h hoperator hrest
    have hall : operatorWords.all (fun operator => !connective.occurs operator &&
        operator.head?.any fun c => !isBlank c && c != '(') = true := by decide +kernel
    have hword := List.all_eq_true.mp hall operator hoperator
    simp only [Bool.and_eq_true, Bool.not_eq_true', Option.any_eq_true, bne_iff_ne] at hword
    obtain ⟨hnot, c, hhead, hc, hparen⟩ := hword
    obtain ⟨t, rfl⟩ := List.head?_eq_some_iff.mp hhead
    have hnone : connective.occurs (c :: (t ++ ' ' :: rest)) = false := by
      rw [← Pattern.places_eq_nil_iff] at hnot hrest ⊢
      rw [← List.cons_append, places_append_cons isBlank_space, hnot, hrest]
      rfl
    have hfalse := awaitsOperator_append h hc hparen hnone
    simpa using hfalse
  · intro front behind hblank hbehind
    have hsame (word : Text) (hword : connective.places word = [⟨word, (), []⟩]) :
        awaitsOperator (front ++ ' ' :: (word ++ behind)) = awaitsOperator behind := by
      rw [awaitsOperator, awaitsOperator, lastPart_connective hword front hblank hbehind,
        lastPart_of_not_occurs hbehind]
    have hand := hsame "AND".toList rfl
    have hor := hsame "or".toList rfl
    exact ⟨by simpa using hand, by simpa using hor⟩

/-- A name that holds the letters of OR is typed behind an operator, and behind an OR. -/
theorem awaitsOperator_typed_order :
    awaitsOperator "a = 1 AND u.Id ".toList = true ∧
      awaitsOperator ("a = 1 AND u.Id ".toList ++ ">=".toList ++ " ".toList ++ "o.Order ".toList) =
        false ∧
      awaitsOperator ("a = 1".toList ++ " or".toList ++ " o.Order ".toList) =
        awaitsOperator " o.Order ".toList ∧
      awaitsOperator " o.Order ".toList = true := by
  have hbody : awaitsOperator "a = 1 AND u.Id ".toList = true := by decide +kernel
  have hrest : connective.occurs "o.Order ".toList = false := by decide +kernel
  have hbehind : connective.occurs " o.Order ".toList = false := by decide +kernel
  exact ⟨hbody, awaitsOperator_typed.1 _ ">=".toList _ hbody (by decide) hrest,
    (awaitsOperator_typed.2 _ _ ⟨' ', rfl, isBlank_space⟩ hbehind).2, by decide +kernel⟩

end SqlAssist.Condition
