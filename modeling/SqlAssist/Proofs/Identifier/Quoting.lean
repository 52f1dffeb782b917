import SqlAssist.Proofs.Identifier

/-! # Writing a name and reading it

A name is written in brackets unless it is a plain word. Both spellings are read back as far as they
go, so what is written is read as it was written, with one exception: the words that are left
without brackets are not all plain names. Number signs alone or too many of them, and alphabetic
characters that are no letters, make a word that the reader stops in. -/
namespace SqlAssist.Identifier

open Character

/-- A text that can stand behind a name: nothing, or a space, a dot or a comma and more. -/
def EndsName (rest : Text) : Prop :=
  rest = [] ∨ ∃ c ∈ [' ', '.', ','], rest.head? = some c

theorem EndsName.of_head? {rest : Text} {c : Char} (hc : c ∈ [' ', '.', ','])
    (h : rest.head? = some c) : EndsName rest :=
  Or.inr ⟨c, hc, h⟩

theorem EndsName.not_isNamePart {rest : Text} (h : EndsName rest) (letters : Letters) :
    ∀ c ∈ rest.head?, letters.isNamePart c = false := by
  have hall : ∀ c ∈ [' ', '.', ','], letters.isNamePart c = false := by
    cases letters <;> exact Text.forall_of_all (by decide)
  intro c hc
  rcases h with rfl | ⟨d, hd, hhead⟩
  · cases hc
  · obtain rfl : d = c := Option.some.inj (hhead.symm.trans hc)
    exact hall d hd

theorem takeWhile_append_of_head? {p : Char → Bool} {s t : Text} (hs : ∀ c ∈ s, p c = true)
    (ht : ∀ c ∈ t.head?, p c = false) :
    (s ++ t).takeWhile p = s ∧ (s ++ t).dropWhile p = t := by
  have hstop : t.takeWhile p = [] ∧ t.dropWhile p = t := by
    cases t with
    | nil => exact ⟨rfl, rfl⟩
    | cons c t => simp [ht c rfl]
  rw [List.takeWhile_append_of_pos hs, List.dropWhile_append_of_pos hs, hstop.1, hstop.2,
    List.append_nil]
  exact ⟨rfl, rfl⟩

theorem not_mem_of_forall {p : Char → Bool} {t : Text} (h : ∀ c ∈ t, p c = true) {sign : Char}
    (hsign : p sign = false) : sign ∉ t := by
  intro hmem
  rw [h sign hmem] at hsign
  cases hsign

/-- A text is cut in one way at the first place of a character. -/
theorem cut_unique {d : Char} {x x' u u' : Text} (hx : d ∉ x) (hx' : d ∉ x')
    (h : x ++ d :: u = x' ++ d :: u') : x = x' ∧ u = u' := by
  have hcut {x u : Text} (hx : d ∉ x) :=
    takeWhile_append_of_head? (p := (· ≠ d)) (t := d :: u)
      (fun c hc => decide_eq_true (ne_of_mem_of_not_mem hc hx)) (by simp)
  obtain ⟨hfront, hrest⟩ := hcut (u := u) hx
  rw [h, (hcut hx').1] at hfront
  rw [h, (hcut hx').2] at hrest
  exact ⟨hfront.symm, (List.cons.inj hrest).2.symm⟩

theorem ne_numberSign_of_isNameStart {letters : Letters} {c : Char}
    (h : letters.isNameStart c = true) : c ≠ '#' := by
  rintro rfl
  revert h
  cases letters <;> decide

theorem temporaryMark_replicate {n : Nat} (hn : n ≤ 2) {c : Char} (hc : c ≠ '#') (t : Text) :
    temporaryMark (List.replicate n '#' ++ c :: t) = (List.replicate n '#', c :: t) := by
  have hlone : ∀ d : Char, d ≠ '#' → ∀ t, temporaryMark (d :: t) = ([], d :: t) := by
    intro d hd t
    unfold temporaryMark
    split
    · rename_i heq
      exact absurd (List.cons.inj heq).1 hd
    · rename_i heq
      exact absurd (List.cons.inj heq).1 hd
    · rfl
  match n, hn with
  | 0, _ => exact hlone c hc t
  | 1, _ =>
    change temporaryMark ('#' :: c :: t) = (['#'], c :: t)
    unfold temporaryMark
    split
    · rename_i heq
      exact absurd (List.cons.inj (List.cons.inj heq).2).1 hc
    · rename_i heq
      rw [← (List.cons.inj heq).2]
    · rename_i hlast
      exact absurd rfl (hlast _)
  | 2, _ => rfl

/-- A plain name is read to its end. -/
theorem readPlain?_append_of_isPlain {letters : Letters} {name rest : Text}
    (h : IsPlain letters name) (hrest : ∀ c ∈ rest.head?, letters.isNamePart c = false) :
    readPlain? letters (name ++ rest) = some (name, rest) := by
  obtain ⟨n, first, tail, rfl, hn, hfirst, htail⟩ := h
  obtain ⟨htake, hdrop⟩ := takeWhile_append_of_head? htail hrest
  have hmark := temporaryMark_replicate hn (ne_numberSign_of_isNameStart hfirst) (tail ++ rest)
  rw [List.append_assoc, List.cons_append, readPlain?, hmark]
  simp only [hfirst, if_true, htake, hdrop]

theorem isPlain_iff {letters : Letters} {name : Text} :
    IsPlain letters name ↔ readPlain? letters name = some (name, []) := by
  constructor
  · intro h
    have hread : readPlain? letters (name ++ []) = some (name, []) :=
      readPlain?_append_of_isPlain h (by simp)
    rwa [List.append_nil] at hread
  · intro h
    exact isPlain_of_readPlain? h

instance (letters : Letters) (name : Text) : Decidable (IsPlain letters name) :=
  decidable_of_iff _ isPlain_iff.symm

theorem isNamePart_of_mem_isPlain {letters : Letters} {name : Text} (h : IsPlain letters name)
    {c : Char} (hc : c ∈ name) : letters.isNamePart c = true := by
  have hsign : letters.isNamePart '#' = true := by cases letters <;> decide
  obtain ⟨n, first, rest, rfl, _, hfirst, hrest⟩ := h
  rcases List.mem_append.mp hc with hmark | hname
  · rwa [List.eq_of_mem_replicate hmark]
  · rcases List.mem_cons.mp hname with rfl | hname
    · exact Letters.isNamePart_of_isNameStart hfirst
    · exact hrest c hname

theorem not_mem_of_isPlain_of_not_isNamePart {letters : Letters} {name : Text}
    (h : IsPlain letters name) {sign : Char} (hsign : letters.isNamePart sign = false) :
    sign ∉ name :=
  not_mem_of_forall (fun _ => isNamePart_of_mem_isPlain h) hsign

theorem readBracketed?_brackets {body : Text} (hne : body ≠ []) (hbody : ']' ∉ body)
    (rest : Text) :
    readBracketed? ('[' :: body ++ [']'] ++ rest) = some ('[' :: body ++ [']'], rest) := by
  have hpart : ∀ c ∈ body, decide (c ≠ ']') = true := by
    intro c hc
    exact decide_eq_true fun heq => hbody (heq ▸ hc)
  obtain ⟨htake, hdrop⟩ := takeWhile_append_of_head? (t := ']' :: rest) hpart (by simp)
  rw [show '[' :: body ++ [']'] ++ rest = '[' :: (body ++ ']' :: rest) by simp, readBracketed?]
  simp only [htake, hdrop, if_neg hne]

theorem readBracketed?_of_head? {t : Text} (h : t.head? ≠ some '[') : readBracketed? t = none := by
  unfold readBracketed?
  split
  · exact absurd rfl h
  · rfl

theorem head?_ne_bracket_of_isPlain {letters : Letters} {name : Text} (h : IsPlain letters name)
    (rest : Text) : (name ++ rest).head? ≠ some '[' := by
  obtain ⟨n, first, tail, rfl, _, hfirst, _⟩ := h
  have hbracket : letters.isNameStart '[' = false := by cases letters <;> decide
  cases n with
  | zero =>
    rintro heq
    obtain rfl : first = '[' := Option.some.inj heq
    rw [hbracket] at hfirst
    cases hfirst
  | succ n => simp [List.replicate_succ]

/-- A name in either spelling is read to its end. -/
theorem IsWritten.read?_append {letters : Letters} {name rest : Text} (h : IsWritten letters name)
    (hrest : ∀ c ∈ rest.head?, letters.isNamePart c = false) :
    read? letters (name ++ rest) = some (name, rest) := by
  rcases h with ⟨body, rfl, hne, hbody⟩ | hplain
  · rw [read?, readBracketed?_brackets hne hbody, Option.some_or]
  · rw [read?, readBracketed?_of_head? (head?_ne_bracket_of_isPlain hplain rest), Option.none_or,
      readPlain?_append_of_isPlain hplain hrest]

theorem quote_of_isPlainWord {name : Text} (h : isPlainWord name = true) : quote name = name := by
  rw [quote, if_pos h]

theorem quote_of_not_isPlainWord {name : Text} (h : isPlainWord name = false) :
    quote name = '[' :: name ++ [']'] := by
  rw [quote, if_neg (by simp [h])]

theorem isAlphanumeric_of_mem_isPlainWord {name : Text} (h : isPlainWord name = true) {c : Char}
    (hc : c ∈ name) : isAlphanumeric c = true ∨ c ∈ ['_', '$', '@', '#'] := by
  cases name with
  | nil => cases hc
  | cons d t =>
    simp only [isPlainWord, Bool.and_eq_true, Bool.or_eq_true, beq_iff_eq, List.all_eq_true] at h
    obtain ⟨hfirst, hrest⟩ := h
    rcases List.mem_cons.mp hc with rfl | hc
    · rcases hfirst with (halpha | rfl) | rfl
      · exact Or.inl (isAlphanumeric_of_isAlphabetic halpha)
      · exact Or.inr (by decide)
      · exact Or.inr (by decide)
    · rcases hrest c hc with (((halnum | rfl) | rfl) | rfl) | rfl
      · exact Or.inl halnum
      · exact Or.inr (by decide)
      · exact Or.inr (by decide)
      · exact Or.inr (by decide)
      · exact Or.inr (by decide)

theorem strip_of_isPlainWord {name : Text} (h : isPlainWord name = true) : strip name = name := by
  unfold strip
  split
  · revert h
    simp only [isPlainWord, Bool.and_eq_true]
    rintro ⟨hfirst, _⟩
    exact absurd hfirst (by decide)
  · rfl

theorem strip_quote (name : Text) : strip (quote name) = name := by
  cases h : isPlainWord name with
  | true => rw [quote_of_isPlainWord h, strip_of_isPlainWord h]
  | false => rw [quote_of_not_isPlainWord h, strip_brackets]

theorem not_isBracketed_of_not_mem {name : Text} (h : ']' ∉ name) : ¬ IsBracketed name := by
  rintro ⟨body, rfl, _⟩
  simp at h

/-- What is written is a name in one of the two spellings just when brackets are left out of plain
names only. -/
theorem isWritten_quote_iff {letters : Letters} {name : Text} (hne : name ≠ [])
    (hbracket : ']' ∉ name) :
    IsWritten letters (quote name) ↔ (isPlainWord name = true → IsPlain letters name) := by
  cases h : isPlainWord name with
  | true =>
    rw [quote_of_isPlainWord h]
    constructor
    · rintro (hbracketed | hplain) _
      · exact absurd hbracketed (not_isBracketed_of_not_mem hbracket)
      · exact hplain
    · intro hplain
      exact Or.inr (hplain rfl)
  | false =>
    rw [quote_of_not_isPlainWord h]
    constructor
    · intro _ hword
      cases hword
    · intro _
      exact Or.inl ⟨name, rfl, hne, hbracket⟩

/-- The name inside what is written is the name, and what is written is read to its end just when it
is in brackets or a plain name. -/
theorem strip_quote_and_read?_quote_iff (name : Text) (hne : name ≠ []) (hbracket : ']' ∉ name) :
    strip (quote name) = name ∧
      ∀ letters rest, EndsName rest →
        (read? letters (quote name ++ rest) = some (quote name, rest) ↔
          (isPlainWord name = true → IsPlain letters name)) := by
  refine ⟨strip_quote name, ?_⟩
  intro letters rest hrest
  rw [← isWritten_quote_iff hne hbracket]
  constructor
  · intro hread
    exact isWritten_of_read? hread
  · intro hwritten
    exact hwritten.read?_append (hrest.not_isNamePart letters)

theorem strip_quote_and_read?_quote_iff_opening_bracket :
    let name := "it's a [b.c".toList
    name ≠ [] ∧ ']' ∉ name ∧ EndsName ".x".toList ∧ isPlainWord name = false ∧
      strip (quote name) = name ∧
      read? .exact (quote name ++ ".x".toList) = some (quote name, ".x".toList) :=
  have hne : "it's a [b.c".toList ≠ [] := by decide
  have hbracket : ']' ∉ "it's a [b.c".toList := by decide
  have hends : EndsName ".x".toList := .of_head? (c := '.') (by decide) rfl
  have hword : isPlainWord "it's a [b.c".toList = false := by decide
  have hall := strip_quote_and_read?_quote_iff _ hne hbracket
  have hread := (hall.2 .exact _ hends).mpr fun h => absurd (h.symm.trans hword) (by decide)
  ⟨hne, hbracket, hends, hword, hall.1, hread⟩

/-- Words that are left without brackets and not read to their end: number signs alone, three of
them, one in front of a digit, a Roman numeral, and a word with a vowel sign behind its first
letter. -/
theorem not_read?_quote :
    (["#", "###a", "#1", "Ⅷ"].map fun name => (quote name.toList, read? .exact (quote name.toList))) =
        [("#".toList, none), ("###a".toList, none), ("#1".toList, none), ("Ⅷ".toList, none)] ∧
      quote "किताब".toList = "किताब".toList ∧
      read? .exact (quote "किताब".toList) = some (['क'], "किताब".toList.tail) := by
  decide +kernel

end SqlAssist.Identifier
