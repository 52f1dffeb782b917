import SqlAssist.Clause
import SqlAssist.Proofs.Clause.Target

/-! # Operands

An operand is a table or column name with or without a qualifier, a call without inner parentheses, a
literal without a quote inside, or a number. The readers that tell an operand accept these shapes and
no others. A shape that is complete does not become another one when a further word or sign follows
it behind white space: only an argument list could be taken into it. -/
namespace SqlAssist

open Character Identifier

namespace Condition

/-- Neither a parenthesis that opens nor one that closes. -/
def isInner (c : Char) : Bool := c ≠ '(' && c ≠ ')'

theorem isCall_eq (t : Text) :
    isCall t = (t.takeWhile isWord != [] &&
      (Text.skipChar? '(' (Text.trimStart (t.dropWhile isWord))).any
        fun arguments => arguments.dropWhile isInner == [')']) := by
  unfold isCall
  split
  · rename_i d word arguments hword hrest
    rw [hword, hrest]
    split
    · rename_i hclose
      have hinner : arguments.dropWhile isInner = [')'] := hclose
      simp [Text.skipChar?, hinner]
    · rename_i hclose
      have hinner : arguments.dropWhile isInner ≠ [')'] := fun heq => hclose heq
      simp [Text.skipChar?, hinner]
  · rename_i hnot
    cases hword : t.takeWhile isWord with
    | nil => rfl
    | cons d word =>
      cases hskip : Text.skipChar? '(' (Text.trimStart (t.dropWhile isWord)) with
      | none => simp
      | some arguments =>
        exact absurd (Text.skipChar?_eq_some_iff.mp hskip) (hnot d word arguments hword)

theorem isLiteral_eq (t : Text) :
    isLiteral t = (Text.skipChar? '\'' t).any fun body => body.dropWhile (· ≠ '\'') == ['\''] := by
  unfold isLiteral
  split
  · rename_i t
    split
    · rename_i hclose
      rw [Text.skipChar?, if_pos rfl, Option.any_some, hclose]
      rfl
    · rename_i hclose
      rw [Text.skipChar?, if_pos rfl, Option.any_some]
      exact (beq_eq_false_iff_ne.mpr fun heq => hclose heq).symm
  · rename_i hnot
    cases hskip : Text.skipChar? '\'' t with
    | none => rfl
    | some body => exact absurd (Text.skipChar?_eq_some_iff.mp hskip) (hnot body)

theorem isNumber_eq (t : Text) :
    isNumber t = (t.takeWhile isSettledDigit != [] &&
      (t.dropWhile isSettledDigit == [] ||
        (Text.skipChar? '.' (t.dropWhile isSettledDigit)).any
          fun decimals => decimals != [] && decimals.all isSettledDigit)) := by
  unfold isNumber
  split
  · rename_i hdigits hrest
    rw [hdigits, hrest]
    rfl
  · rename_i hdigits hrest
    rw [hdigits, hrest]
    rfl
  · rename_i hwhole hdecimal
    cases hdigits : t.takeWhile isSettledDigit with
    | nil => rfl
    | cons d digits =>
      have hne : t.dropWhile isSettledDigit ≠ [] := hwhole d digits hdigits
      cases hskip : Text.skipChar? '.' (t.dropWhile isSettledDigit) with
      | none => simp [hne]
      | some decimals =>
        exact absurd (Text.skipChar?_eq_some_iff.mp hskip) (hdecimal d digits decimals hdigits)

/-- An operand as it is written. -/
inductive IsOperand : Text → Prop where
  | name {written : Text} {name : ObjectName} (hname : name.Spelled written) : IsOperand written
  | call {word gap arguments : Text} (hne : word ≠ []) (hword : ∀ c ∈ word, isWord c = true)
      (hgap : ∀ c ∈ gap, isBlank c = true) (harguments : ∀ c ∈ arguments, isInner c = true) :
      IsOperand (word ++ (gap ++ '(' :: (arguments ++ [')'])))
  | literal {body : Text} (hbody : '\'' ∉ body) : IsOperand ('\'' :: (body ++ ['\'']))
  | whole {digits : Text} (hne : digits ≠ []) (hdigits : ∀ c ∈ digits, isSettledDigit c = true) :
      IsOperand digits
  | decimal {digits decimals : Text} (hne : digits ≠ [])
      (hdigits : ∀ c ∈ digits, isSettledDigit c = true) (hne' : decimals ≠ [])
      (hdecimals : ∀ c ∈ decimals, isSettledDigit c = true) :
      IsOperand (digits ++ '.' :: decimals)

theorem isName_iff {t : Text} : isName t = true ↔ ∃ name : ObjectName, name.Spelled t := by
  constructor
  · intro h
    unfold isName at h
    split at h
    · rename_i name hread
      obtain ⟨written, rfl, hname⟩ := ObjectName.exists_spelled_of_read? hread
      exact ⟨name, by rwa [List.append_nil]⟩
    · cases h
  · rintro ⟨name, hname⟩
    have hread : ObjectName.read? .folded (t ++ []) = some (name, []) :=
      hname.read?_append_of_head? (by simp)
    rw [List.append_nil] at hread
    rw [isName, hread]

theorem dropWhile_eq_singleton_iff {p : Char → Bool} {c : Char} {t : Text} :
    t.dropWhile p = [c] ↔ ∃ front, t = front ++ [c] ∧ (∀ d ∈ front, p d = true) ∧ p c = false := by
  constructor
  · intro h
    refine ⟨t.takeWhile p, ?_, fun d hd => List.mem_takeWhile_imp hd, ?_⟩
    · rw [← h, List.takeWhile_append_dropWhile]
    · have hstop := List.head?_dropWhile_not p t
      rw [h] at hstop
      simpa using hstop
  · rintro ⟨front, rfl, hfront, hc⟩
    exact (takeWhile_append_of_head? hfront (by simpa using hc)).2

theorem isCall_iff {t : Text} :
    isCall t = true ↔ ∃ word gap arguments, t = word ++ (gap ++ '(' :: (arguments ++ [')'])) ∧
      word ≠ [] ∧ (∀ c ∈ word, isWord c = true) ∧ (∀ c ∈ gap, isBlank c = true) ∧
        ∀ c ∈ arguments, isInner c = true := by
  rw [isCall_eq, Bool.and_eq_true, bne_iff_ne, Option.any_eq_true]
  constructor
  · rintro ⟨hne, rest, hskip, hclose⟩
    obtain ⟨arguments, rfl, harguments, _⟩ := dropWhile_eq_singleton_iff.mp (beq_iff_eq.mp hclose)
    have hopen := Text.skipChar?_eq_some_iff.mp hskip
    refine ⟨t.takeWhile isWord, (t.dropWhile isWord).takeWhile isBlank, arguments, ?_, hne,
      fun c hc => List.mem_takeWhile_imp hc, fun c hc => List.mem_takeWhile_imp hc, harguments⟩
    rw [← hopen, Text.trimStart, List.takeWhile_append_dropWhile, List.takeWhile_append_dropWhile]
  · rintro ⟨word, gap, arguments, rfl, hne, hword, hgap, harguments⟩
    have hstop : ∀ c ∈ (gap ++ '(' :: (arguments ++ [')'])).head?, isWord c = false := by
      intro c hc
      cases gap with
      | nil =>
        obtain rfl : '(' = c := Option.some.inj hc
        decide
      | cons d gap =>
        obtain rfl : d = c := Option.some.inj hc
        exact isWord_of_isBlank (hgap d List.mem_cons_self)
    obtain ⟨htake, hdrop⟩ := takeWhile_append_of_head? hword hstop
    have htrim : Text.trimStart (gap ++ '(' :: (arguments ++ [')'])) =
        '(' :: (arguments ++ [')']) :=
      (takeWhile_append_of_head? hgap (by simp)).2
    rw [htake, hdrop, htrim]
    refine ⟨hne, arguments ++ [')'], rfl, beq_iff_eq.mpr ?_⟩
    exact dropWhile_eq_singleton_iff.mpr ⟨arguments, rfl, harguments, rfl⟩

theorem isLiteral_iff {t : Text} :
    isLiteral t = true ↔ ∃ body, t = '\'' :: (body ++ ['\'']) ∧ '\'' ∉ body := by
  rw [isLiteral_eq, Option.any_eq_true]
  constructor
  · rintro ⟨rest, hskip, hclose⟩
    obtain ⟨body, rfl, hbody, _⟩ := dropWhile_eq_singleton_iff.mp (beq_iff_eq.mp hclose)
    refine ⟨body, Text.skipChar?_eq_some_iff.mp hskip, fun hmem => ?_⟩
    simpa using hbody _ hmem
  · rintro ⟨body, rfl, hbody⟩
    refine ⟨body ++ ['\''], rfl, beq_iff_eq.mpr ?_⟩
    refine dropWhile_eq_singleton_iff.mpr ⟨body, rfl, fun c hc => decide_eq_true ?_, rfl⟩
    rintro rfl
    exact hbody hc

theorem isNumber_iff {t : Text} :
    isNumber t = true ↔
      (t ≠ [] ∧ ∀ c ∈ t, isSettledDigit c = true) ∨
        ∃ digits decimals, t = digits ++ '.' :: decimals ∧
          (digits ≠ [] ∧ ∀ c ∈ digits, isSettledDigit c = true) ∧
            decimals ≠ [] ∧ ∀ c ∈ decimals, isSettledDigit c = true := by
  have hcut := List.takeWhile_append_dropWhile (p := isSettledDigit) (l := t)
  rw [isNumber_eq, Bool.and_eq_true, bne_iff_ne, Bool.or_eq_true, beq_iff_eq, Option.any_eq_true]
  constructor
  · rintro ⟨hne, hwhole | ⟨decimals, hskip, hdecimals⟩⟩
    · rw [hwhole, List.append_nil] at hcut
      rw [hcut] at hne
      exact Or.inl ⟨hne, List.takeWhile_eq_self_iff.mp hcut⟩
    · rw [Bool.and_eq_true, bne_iff_ne, List.all_eq_true] at hdecimals
      rw [Text.skipChar?_eq_some_iff.mp hskip] at hcut
      exact Or.inr ⟨_, decimals, hcut.symm, ⟨hne, fun c hc => List.mem_takeWhile_imp hc⟩, hdecimals⟩
  · rintro (⟨hne, hdigits⟩ | ⟨digits, decimals, rfl, ⟨hne, hdigits⟩, hne', hdecimals⟩)
    · rw [List.takeWhile_eq_self_iff.mpr hdigits, List.dropWhile_eq_nil_iff.mpr hdigits]
      exact ⟨hne, Or.inl rfl⟩
    · obtain ⟨htake, hdrop⟩ := takeWhile_append_of_head? (t := '.' :: decimals) hdigits (by
        intro c hc
        obtain rfl : '.' = c := Option.some.inj hc
        decide)
      rw [htake, hdrop]
      refine ⟨hne, Or.inr ⟨decimals, rfl, ?_⟩⟩
      rw [Bool.and_eq_true, bne_iff_ne, List.all_eq_true]
      exact ⟨hne', hdecimals⟩

/-- The readers accept the shapes of an operand and no others. -/
theorem isOperand_iff {t : Text} : isOperand t = true ↔ IsOperand t := by
  rw [isOperand, Bool.or_eq_true, Bool.or_eq_true, Bool.or_eq_true, isName_iff, isCall_iff,
    isLiteral_iff, isNumber_iff]
  constructor
  · rintro (((⟨name, hname⟩ | ⟨word, gap, arguments, rfl, hne, hword, hgap, harguments⟩) |
      ⟨body, rfl, hbody⟩) | ⟨hne, hdigits⟩ |
      ⟨digits, decimals, rfl, ⟨hne, hdigits⟩, hne', hdecimals⟩)
    · exact .name hname
    · exact .call hne hword hgap harguments
    · exact .literal hbody
    · exact .whole hne hdigits
    · exact .decimal hne hdigits hne' hdecimals
  · intro h
    cases h with
    | name hname => exact Or.inl (Or.inl (Or.inl ⟨_, hname⟩))
    | call hne hword hgap harguments =>
      exact Or.inl (Or.inl (Or.inr ⟨_, _, _, rfl, hne, hword, hgap, harguments⟩))
    | literal hbody => exact Or.inl (Or.inr ⟨_, rfl, hbody⟩)
    | whole hne hdigits => exact Or.inr (Or.inl ⟨hne, hdigits⟩)
    | decimal hne hdigits hne' hdecimals =>
      exact Or.inr (Or.inr ⟨_, _, rfl, ⟨hne, hdigits⟩, hne', hdecimals⟩)

theorem isBlank_of_isSettledDigit {c : Char} (h : isSettledDigit c = true) : isBlank c = false := by
  have hall : ∀ n ∈ blanks.codePoints, isSettledDigit (Char.ofNat n) = false := by decide +kernel
  cases hblank : isBlank c with
  | false => rfl
  | true =>
    have hc := hall c.toNat (Ranges.mem_codePoints_of_covers hblank)
    rw [Char.ofNat_toNat, h] at hc
    cases hc

theorem dot_not_mem_of_isPlain {x : Text} (h : IsPlain .folded x) : '.' ∉ x :=
  not_mem_of_isPlain_of_not_isNamePart h (by decide)

theorem mem_of_append_eq_cons {c : Char} {x y t : Text} (hne : x ≠ []) (h : x ++ y = c :: t) :
    c ∈ x := by
  obtain ⟨d, x, rfl⟩ := List.exists_cons_of_ne_nil hne
  obtain rfl : d = c := (List.cons.inj h).1
  exact List.mem_cons_self

/-- A name that does not begin with a bracket is plain up to its dot, if it has one. -/
theorem exists_isPlain_of_isName {t : Text} (h : isName t = true) (hhead : t.head? ≠ some '[') :
    IsPlain .folded t ∨ ∃ x y, t = x ++ '.' :: y ∧ IsPlain .folded x ∧ IsWritten .folded y := by
  obtain ⟨name, hname⟩ := isName_iff.mp h
  cases hname with
  | lone hx =>
    rcases hx with ⟨body, rfl, _⟩ | hplain
    · exact absurd rfl hhead
    · exact Or.inl hplain
  | @qualified x y hx hy =>
    rcases hx with ⟨body, rfl, _⟩ | hplain
    · exact absurd rfl hhead
    · exact Or.inr ⟨x, y, rfl, hplain, hy⟩

/-- Something that is neither a part of names nor a dot does not stand inside a name. -/
theorem isName_append_eq_false {front t : Text} {d : Char} (hne : front ≠ [])
    (hhead : front.head? ≠ some '[') (hdot : '.' ∉ front)
    (hd : Letters.folded.isNamePart d = false) (hd' : d ≠ '.') :
    isName (front ++ d :: t) = false := by
  refine Bool.eq_false_iff.mpr fun h => ?_
  have hhead' : (front ++ d :: t).head? ≠ some '[' := by
    rwa [List.head?_append_of_ne_nil _ hne]
  have hnot {x : Text} (hx : IsPlain .folded x) : d ∉ x :=
    not_mem_of_isPlain_of_not_isNamePart hx hd
  rcases exists_isPlain_of_isName h hhead' with hplain | ⟨x, y, heq, hplain, _⟩
  · exact hnot hplain (by simp)
  · rcases List.append_eq_append_iff.mp heq with ⟨a, rfl, ha⟩ | ⟨a, rfl, ha⟩
    · cases a with
      | nil => exact hd' (List.cons.inj ha).1
      | cons e a =>
        obtain rfl := (List.cons.inj ha).1
        exact hnot hplain (by simp)
    · cases a with
      | nil => exact hd' (List.cons.inj ha).1.symm
      | cons e a =>
        obtain rfl := (List.cons.inj ha).1
        exact hdot (by simp)

theorem isNamePart_of_isName {d : Char} {t : Text} (h : isName (d :: t) = true) (hd : d ≠ '[') :
    Letters.folded.isNamePart d = true := by
  have hhead : (d :: t).head? ≠ some '[' := fun heq => hd (Option.some.inj heq)
  rcases exists_isPlain_of_isName h hhead with hplain | ⟨x, y, heq, hplain, _⟩
  · exact isNamePart_of_mem_isPlain hplain List.mem_cons_self
  · obtain ⟨⟨e, x, rfl, _⟩, _⟩ := isTight_of_isPlain hplain
    obtain rfl := (List.cons.inj heq).1
    exact isNamePart_of_mem_isPlain hplain List.mem_cons_self

theorem isCall_cons_eq_false {d : Char} (hd : isWord d = false) (t : Text) :
    isCall (d :: t) = false := by
  rw [isCall_eq, List.takeWhile_cons_of_neg (by simp [hd])]
  rfl

/-- Neither white space nor an argument list begins inside the text. -/
def IsUnbroken (t : Text) : Prop := ∀ c ∈ t, isBlank c = false ∧ c ≠ '('

theorem isUnbroken_of_isPlain {t : Text} (h : IsPlain .folded t) : IsUnbroken t := by
  intro c hc
  have hpart := isNamePart_of_mem_isPlain h hc
  refine ⟨Letters.not_isBlank_of_isNamePart hpart, ?_⟩
  rintro rfl
  exact absurd hpart (by decide)

theorem isUnbroken_of_isSettledDigit {digits : Text}
    (h : ∀ c ∈ digits, isSettledDigit c = true) : IsUnbroken digits := by
  intro c hc
  refine ⟨isBlank_of_isSettledDigit (h c hc), ?_⟩
  rintro rfl
  exact absurd (h _ hc) (by decide)

/-- A call goes on with its argument list where its word ends. -/
theorem head?_trimStart_of_isCall {front t : Text} {d : Char} (hfront : IsUnbroken front)
    (hd : isWord d = false) (h : isCall (front ++ d :: t) = true) :
    (Text.trimStart (d :: t)).head? = some '(' := by
  rw [isCall_eq, Bool.and_eq_true, Option.any_eq_true] at h
  obtain ⟨_, arguments, hskip, _⟩ := h
  have hopen := Text.skipChar?_eq_some_iff.mp hskip
  rw [List.dropWhile_append, List.dropWhile_cons_of_neg (by simp [hd])] at hopen
  cases hrest : front.dropWhile isWord with
  | nil =>
    rw [hrest, List.isEmpty_nil, if_pos rfl] at hopen
    rw [hopen]
    rfl
  | cons e rest =>
    have hmem : e ∈ front := (List.dropWhile_suffix _).subset (hrest ▸ List.mem_cons_self)
    obtain ⟨hblank, hparen⟩ := hfront e hmem
    rw [hrest, List.isEmpty_cons, if_neg Bool.false_ne_true, List.cons_append, Text.trimStart,
      List.dropWhile_cons_of_neg (by simp [hblank])] at hopen
    exact absurd (List.cons.inj hopen).1 hparen

theorem isCall_dot_eq_false {front : Text} (hfront : IsUnbroken front) (t : Text) :
    isCall (front ++ '.' :: t) = false := by
  refine Bool.eq_false_iff.mpr fun h => ?_
  have hopen := head?_trimStart_of_isCall hfront (by decide) h
  rw [Text.trimStart, List.dropWhile_cons_of_neg (by simp)] at hopen
  cases hopen

theorem isCall_gap_eq_false {front gap : Text} {c : Char} (hfront : IsUnbroken front)
    (hgap : Typing.isGap gap = true) (hc : isBlank c = false) (hparen : c ≠ '(') (t : Text) :
    isCall (front ++ (gap ++ c :: t)) = false := by
  refine Bool.eq_false_iff.mpr fun h => ?_
  obtain ⟨hne, hall⟩ := Typing.isGap_iff.mp hgap
  have htrim : Text.trimStart (gap ++ c :: t) = c :: t :=
    (takeWhile_append_of_head? hall (by simpa using hc)).2
  obtain ⟨b, gap, rfl⟩ := List.exists_cons_of_ne_nil hne
  have hopen : (Text.trimStart (b :: gap ++ c :: t)).head? = some '(' :=
    head?_trimStart_of_isCall hfront (isWord_of_isBlank (hall b List.mem_cons_self)) h
  rw [htrim] at hopen
  exact hparen (Option.some.inj hopen)

theorem isCall_append_eq_false {word gap arguments t : Text}
    (hword : ∀ c ∈ word, isWord c = true) (hgap : ∀ c ∈ gap, isBlank c = true)
    (harguments : ∀ c ∈ arguments, isInner c = true) (ht : t ≠ []) :
    isCall (word ++ (gap ++ '(' :: (arguments ++ [')'])) ++ t) = false := by
  have hfront {word gap : Text} (hword : ∀ c ∈ word, isWord c = true)
      (hgap : ∀ c ∈ gap, isBlank c = true) : '(' ∉ word ++ gap :=
    List.not_mem_append (not_mem_of_forall hword (by decide)) (not_mem_of_forall hgap (by decide))
  have hinner {arguments : Text} (h : ∀ c ∈ arguments, isInner c = true) : ')' ∉ arguments :=
    not_mem_of_forall h (by decide)
  refine Bool.eq_false_iff.mpr fun h => ?_
  obtain ⟨word', gap', arguments', heq, _, hword', hgap', harguments'⟩ := isCall_iff.mp h
  have hcut : word ++ gap ++ '(' :: (arguments ++ ')' :: t) =
      word' ++ gap' ++ '(' :: (arguments' ++ [')']) := by
    simpa using heq
  obtain ⟨_, hlist⟩ := cut_unique (hfront hword hgap) (hfront hword' hgap') hcut
  obtain ⟨_, hnil⟩ := cut_unique (hinner harguments) (hinner harguments') hlist
  exact ht hnil

namespace IsOperand

variable {x gap rest : Text} {c : Char}

theorem isName_append (hx : IsOperand x) (hgap : Typing.isGap gap = true) :
    isName (x ++ (gap ++ rest)) = false := by
  obtain ⟨b, hb, hblank⟩ := Typing.exists_blank_head?_of_isGap hgap rest
  obtain ⟨t, ht⟩ := List.head?_eq_some_iff.mp hb
  have hpart : Letters.folded.isNamePart b = false := Letters.folded.isNamePart_of_isBlank hblank
  have hdot : b ≠ '.' := ne_dot_of_isBlank hblank
  rw [ht]
  cases hx with
  | name hname =>
    have hread : ObjectName.read? .folded (x ++ b :: t) = some (_, b :: t) :=
      hname.read?_append_of_head? (by simpa using ⟨hpart, hdot⟩)
    rw [isName, hread]
  | @call word blanks arguments hne hword hblanks harguments =>
    have hbracket : word.head? ≠ some '[' := fun hhead =>
      not_mem_of_forall hword (by decide) (List.mem_of_head? hhead)
    have hfalse {d : Char} {s : Text} (hd : Letters.folded.isNamePart d = false) (hd' : d ≠ '.') :
        isName (word ++ d :: s) = false :=
      isName_append_eq_false hne hbracket (not_mem_of_forall hword (by decide)) hd hd'
    rw [List.append_assoc]
    cases blanks with
    | nil => exact hfalse (by decide) (by decide)
    | cons d blanks =>
      have hd := hblanks d List.mem_cons_self
      exact hfalse (Letters.folded.isNamePart_of_isBlank hd) (ne_dot_of_isBlank hd)
  | @literal body hbody =>
    refine Bool.eq_false_iff.mpr fun h => ?_
    exact absurd (isNamePart_of_isName h (by decide)) (by decide)
  | @whole digits hne hdigits =>
    refine isName_append_eq_false hne (fun hhead => ?_) ?_ hpart hdot
    · exact not_mem_of_forall hdigits (by decide) (List.mem_of_head? hhead)
    · exact not_mem_of_forall hdigits (by decide)
  | @decimal digits decimals hne hdigits hne' hdecimals =>
    refine Bool.eq_false_iff.mpr fun h => ?_
    rw [List.append_assoc, List.cons_append] at h
    have hhead : (digits ++ '.' :: (decimals ++ b :: t)).head? ≠ some '[' := by
      intro hhead
      rw [List.head?_append_of_ne_nil _ hne] at hhead
      exact not_mem_of_forall hdigits (by decide) (List.mem_of_head? hhead)
    rcases exists_isPlain_of_isName h hhead with hplain | ⟨front, second, heq, hplain, hsecond⟩
    · exact dot_not_mem_of_isPlain hplain (by simp)
    · have hdigitsDot : '.' ∉ digits := not_mem_of_forall hdigits (by decide)
      obtain ⟨_, rfl⟩ := cut_unique hdigitsDot (dot_not_mem_of_isPlain hplain) heq
      rcases hsecond with ⟨body, hbody, _⟩ | hplain'
      · exact not_mem_of_forall hdecimals (by decide) (mem_of_append_eq_cons hne' hbody)
      · exact not_mem_of_isPlain_of_not_isNamePart hplain' hpart (by simp)

theorem isCall_append (hx : IsOperand x) (hgap : Typing.isGap gap = true)
    (hc : isBlank c = false) (hparen : c ≠ '(') : isCall (x ++ (gap ++ c :: rest)) = false := by
  cases hx with
  | name hname =>
    cases hname with
    | lone hy =>
      rcases hy with ⟨body, rfl, _⟩ | hy
      · exact isCall_cons_eq_false (by decide) _
      · exact isCall_gap_eq_false (isUnbroken_of_isPlain hy) hgap hc hparen rest
    | qualified hy hz =>
      rw [List.append_assoc]
      rcases hy with ⟨body, rfl, _⟩ | hy
      · exact isCall_cons_eq_false (by decide) _
      · exact isCall_dot_eq_false (isUnbroken_of_isPlain hy) _
  | call hne hword hblanks harguments =>
    exact isCall_append_eq_false hword hblanks harguments (by simp)
  | literal hbody => exact isCall_cons_eq_false (by decide) _
  | whole hne hdigits =>
    exact isCall_gap_eq_false (isUnbroken_of_isSettledDigit hdigits) hgap hc hparen rest
  | decimal hne hdigits hne' hdecimals =>
    rw [List.append_assoc]
    exact isCall_dot_eq_false (isUnbroken_of_isSettledDigit hdigits) _

theorem isLiteral_append (hx : IsOperand x) (hgap : Typing.isGap gap = true) :
    isLiteral (x ++ (gap ++ rest)) = false := by
  refine Bool.eq_false_iff.mpr fun h => ?_
  obtain ⟨body, heq, hbody⟩ := isLiteral_iff.mp h
  have hquote : Letters.folded.isNamePart '\'' = false := by decide
  cases hx with
  | @name _ name hname =>
    obtain ⟨⟨d, x, rfl, _⟩, _⟩ := hname.isTight
    obtain rfl : d = '\'' := (List.cons.inj heq).1
    exact absurd (isNamePart_of_isName (isName_iff.mpr ⟨name, hname⟩) (by decide)) (by decide)
  | call hne hword hblanks harguments =>
    rw [List.append_assoc] at heq
    exact not_mem_of_forall hword (by decide) (mem_of_append_eq_cons hne heq)
  | @literal body' hbody' =>
    have hrest : body' ++ '\'' :: (gap ++ rest) = body ++ ['\''] := by simpa using heq
    obtain ⟨_, hnil⟩ := cut_unique hbody' hbody hrest
    exact (Typing.isGap_iff.mp hgap).1 (List.append_eq_nil_iff.mp hnil).1
  | whole hne hdigits =>
    exact not_mem_of_forall hdigits (by decide) (mem_of_append_eq_cons hne heq)
  | decimal hne hdigits hne' hdecimals =>
    rw [List.append_assoc] at heq
    exact not_mem_of_forall hdigits (by decide) (mem_of_append_eq_cons hne heq)

theorem isNumber_append (hgap : Typing.isGap gap = true) :
    isNumber (x ++ (gap ++ rest)) = false := by
  refine Bool.eq_false_iff.mpr fun h => ?_
  obtain ⟨b, hb, hblank⟩ := Typing.exists_blank_head?_of_isGap hgap rest
  have hmem : b ∈ x ++ (gap ++ rest) := List.mem_append_right x (List.mem_of_head? hb)
  have hdigit {digits : Text} (hdigits : ∀ c ∈ digits, isSettledDigit c = true) : b ∉ digits := by
    intro hmem
    rw [isBlank_of_isSettledDigit (hdigits b hmem)] at hblank
    cases hblank
  rcases isNumber_iff.mp h with ⟨_, hdigits⟩ | ⟨digits, decimals, heq, ⟨_, hdigits⟩, _, hdecimals⟩
  · exact hdigit hdigits hmem
  · rw [heq] at hmem
    rcases List.mem_append.mp hmem with hmem | hmem
    · exact hdigit hdigits hmem
    · rcases List.mem_cons.mp hmem with rfl | hmem
      · exact ne_dot_of_isBlank hblank rfl
      · exact hdigit hdecimals hmem

/-- An operand does not go on behind white space, except with an argument list. -/
theorem isOperand_append (hx : IsOperand x) (hgap : Typing.isGap gap = true)
    (hc : isBlank c = false) (hparen : c ≠ '(') :
    isOperand (x ++ (gap ++ c :: rest)) = false := by
  rw [isOperand, hx.isName_append hgap, hx.isCall_append hgap hc hparen,
    hx.isLiteral_append hgap, isNumber_append hgap]
  rfl

end IsOperand

end Condition

end SqlAssist
