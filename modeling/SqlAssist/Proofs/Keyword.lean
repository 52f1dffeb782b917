import SqlAssist.Proofs.Reference.Anchor
import SqlAssist.Search

/-! # Keywords in a text

A keyword is spelled by its words, in any case, with white space between them. What stands at the
beginning of a place determines the keyword that is read there, and no keyword begins inside another
one: in front of most of its characters stands a letter, its white space begins no word, and its
second word opens no keyword. So the search for a keyword finds every place where it stands alone. -/
namespace SqlAssist

open Character

def smallLetters : List Char := "abcdefghijklmnopqrstuvwxyz".toList

/-- What counts as a letter of a keyword are the two cases of the letter, the long s and the Kelvin
sign. -/
theorem foldLetter_eq_iff {c w : Char} (hw : w ∈ smallLetters) :
    foldLetter c = w ↔
      c = w ∨ c = w.toUpper ∨ (c = 'ſ' ∧ w = 's') ∨ (c = '\u212A' ∧ w = 'k') := by
  have hsmall : ∀ d ∈ smallLetters, foldLetter d = d ∧ foldLetter d.toUpper = d :=
    Text.forall_of_all (by decide)
  have hcapitals : ∀ n ∈ capitals, Char.ofNat n = (Char.ofNat n).toLower.toUpper := by decide
  constructor
  · intro h
    by_cases hs : c = 'ſ'
    · rw [foldLetter, if_pos hs] at h
      exact Or.inr (Or.inr (Or.inl ⟨hs, h.symm⟩))
    · by_cases hk : c = '\u212A'
      · rw [foldLetter, if_neg hs, if_pos hk] at h
        exact Or.inr (Or.inr (Or.inr ⟨hk, h.symm⟩))
      · rw [foldLetter, if_neg hs, if_neg hk] at h
        rcases toLower_eq_or_mem_capitals c with hc | hc
        · exact Or.inl (hc.symm.trans h)
        · have hupper := hcapitals c.toNat hc
          rw [Char.ofNat_toNat, h] at hupper
          exact Or.inr (Or.inl hupper)
  · rintro (rfl | rfl | ⟨rfl, rfl⟩ | ⟨rfl, rfl⟩)
    · exact (hsmall c hw).1
    · exact (hsmall w hw).2
    · rfl
    · rfl

theorem isWord_of_foldLetter {c : Char} (h : foldLetter c ∈ smallLetters) : isWord c = true := by
  have hsmall : ∀ d ∈ smallLetters, isWord d = true ∧ isWord d.toUpper = true :=
    Text.forall_of_all (by decide +kernel)
  rcases (foldLetter_eq_iff h).mp rfl with hc | hc | ⟨rfl, _⟩ | ⟨rfl, _⟩
  · exact hc ▸ (hsmall _ h).1
  · exact hc ▸ (hsmall _ h).2
  · decide +kernel
  · decide +kernel

/-- The text spells the words, in any case and with white space between them. -/
inductive IsSpelling : List Text → Text → Prop where
  | last (x : Text) : IsSpelling [x.map foldLetter] x
  | cons (x : Text) {blanks y : Text} {words : List Text} (hne : blanks ≠ [])
      (hblanks : ∀ c ∈ blanks, isBlank c = true) (tail : IsSpelling words y) :
      IsSpelling (x.map foldLetter :: words) (x ++ (blanks ++ y))

theorem exists_of_readWords? {words : List Text} (hwords : words ≠ []) {t rest : Text}
    (h : readWords? words t = some rest) : ∃ x, t = x ++ rest ∧ IsSpelling words x := by
  induction words generalizing t with
  | nil => exact absurd rfl hwords
  | cons word words ih =>
    cases words with
    | nil =>
      obtain ⟨x, rfl, rfl⟩ := exists_of_readWord? h
      exact ⟨x, rfl, .last x⟩
    | cons next words =>
      simp only [readWords?, Option.bind_eq_bind, Option.bind_eq_some_iff] at h
      obtain ⟨behind, hword, front, hblanks, hnext⟩ := h
      obtain ⟨x, rfl, rfl⟩ := exists_of_readWord? hword
      obtain ⟨blanks, rfl, hne, hall, _⟩ := Text.skipBlanks?_eq_some_iff.mp hblanks
      obtain ⟨y, rfl, hy⟩ := ih (List.cons_ne_nil next words) hnext
      exact ⟨x ++ (blanks ++ y), by simp, .cons x hne hall hy⟩

def AreLettered (words : List Text) : Prop := ∀ word ∈ words, ∀ c ∈ word, c ∈ smallLetters

theorem areLettered_of_all {words : List Text}
    (h : words.all (fun word => word.all fun c => smallLetters.contains c) = true) :
    AreLettered words := fun word hword c hc =>
  List.contains_iff_mem.mp (List.all_eq_true.mp (List.all_eq_true.mp h word hword) c hc)

/-- The word that a text begins with, in small letters. -/
def firstWord (t : Text) : Text := (t.takeWhile isWord).map foldLetter

namespace IsSpelling

theorem isWord_of_mem {x : Text} {words : List Text} (h : AreLettered (x.map foldLetter :: words))
    {c : Char} (hc : c ∈ x) : isWord c = true :=
  isWord_of_foldLetter (h _ List.mem_cons_self _ (List.mem_map_of_mem hc))

/-- A text that spells words begins with the first of them, if no word goes on behind it. -/
theorem firstWord_append {word x rest : Text} {words : List Text} (h : IsSpelling (word :: words) x)
    (hletters : AreLettered (word :: words)) (hrest : noWord rest.head? = true) :
    firstWord (x ++ rest) = word := by
  cases h with
  | last x =>
    have hstop : ∀ c ∈ rest.head?, isWord c = false := by
      intro c hc
      rw [Option.mem_def.mp hc] at hrest
      simpa [noWord] using hrest
    have htake : (x ++ rest).takeWhile isWord = x :=
      (Identifier.takeWhile_append_of_head? (fun c hc => isWord_of_mem hletters hc) hstop).1
    rw [firstWord, htake]
  | @cons x blanks y _ hne hblanks tail =>
    obtain ⟨c, blanks, rfl⟩ := List.exists_cons_of_ne_nil hne
    have hstop : ∀ d ∈ (c :: blanks ++ y ++ rest).head?, isWord d = false := by
      intro d hd
      obtain rfl := Option.some.inj hd
      exact isWord_of_isBlank (hblanks c List.mem_cons_self)
    have htake : (x ++ (c :: blanks ++ y ++ rest)).takeWhile isWord = x :=
      (Identifier.takeWhile_append_of_head? (fun c hc => isWord_of_mem hletters hc) hstop).1
    rw [firstWord, List.append_assoc, htake]

theorem ne_nil {words : List Text} {x : Text} (h : IsSpelling words x) : words ≠ [] := by
  cases h <;> exact List.cons_ne_nil _ _

theorem ne_nil_of_not_mem {x : Text} {words : List Text} (h : [] ∉ x.map foldLetter :: words) :
    x ≠ [] := by
  rintro rfl
  exact h List.mem_cons_self

theorem exists_isWord_head? {words : List Text} {x : Text} (h : IsSpelling words x)
    (hwords : [] ∉ words) (hletters : AreLettered words) : ∃ c ∈ x.head?, isWord c = true := by
  cases h with
  | last x =>
    obtain ⟨c, x, rfl⟩ := List.exists_cons_of_ne_nil (ne_nil_of_not_mem hwords)
    exact ⟨c, rfl, isWord_of_mem hletters List.mem_cons_self⟩
  | cons x hne hblanks tail =>
    obtain ⟨c, x, rfl⟩ := List.exists_cons_of_ne_nil (ne_nil_of_not_mem hwords)
    exact ⟨c, rfl, isWord_of_mem hletters List.mem_cons_self⟩

theorem exists_isWord_getLast? {words : List Text} {x : Text} (h : IsSpelling words x)
    (hwords : [] ∉ words) (hletters : AreLettered words) : ∃ c ∈ x.getLast?, isWord c = true := by
  induction h with
  | last x =>
    have hne := ne_nil_of_not_mem hwords
    exact ⟨x.getLast hne, List.getLast?_eq_some_getLast hne,
      isWord_of_mem hletters (List.getLast_mem hne)⟩
  | @cons x blanks y words hne hblanks tail ih =>
    have hlater : AreLettered words := fun word hword => hletters word (List.mem_cons_of_mem _ hword)
    obtain ⟨c, hc, hword⟩ := ih (fun hmem => hwords (List.mem_cons_of_mem _ hmem)) hlater
    have hy : y ≠ [] := List.ne_nil_of_mem (List.mem_of_getLast? hc)
    refine ⟨c, ?_, hword⟩
    rwa [← List.append_assoc, List.getLast?_append_of_ne_nil _ hy]

/-- A text that begins with a spelling of words is read as these, up to the end of the spelling. -/
theorem readWords?_append {words : List Text} {x : Text} (h : IsSpelling words x)
    (hwords : [] ∉ words) (hletters : AreLettered words) (rest : Text) :
    readWords? words (x ++ rest) = some rest := by
  induction h with
  | last x => exact readWord?_append x rest
  | @cons x blanks y words hne hblanks tail ih =>
    have hwords' : [] ∉ words := fun hmem => hwords (List.mem_cons_of_mem _ hmem)
    have hlater : AreLettered words := fun word hword => hletters word (List.mem_cons_of_mem _ hword)
    obtain ⟨c, hc, hword⟩ := tail.exists_isWord_head? hwords' hlater
    obtain ⟨y, rfl⟩ := List.head?_eq_some_iff.mp hc
    have hskip : Text.skipBlanks? (blanks ++ (c :: y ++ rest)) = some (c :: y ++ rest) := by
      refine Text.skipBlanks?_eq_some_iff.mpr ⟨blanks, rfl, hne, hblanks, ?_⟩
      intro d hd
      obtain rfl := Option.some.inj hd
      by_contra hblank
      rw [isWord_of_isBlank (Bool.not_eq_false _ ▸ hblank)] at hword
      cases hword
    obtain ⟨next, words, rfl⟩ := List.exists_cons_of_ne_nil tail.ne_nil
    have hfirst := readWord?_append x (blanks ++ (c :: y ++ rest))
    rw [List.append_assoc, List.append_assoc]
    simp only [readWords?, Option.bind_eq_bind, hfirst, Option.bind_some, hskip]
    exact ih hwords' hlater

/-- Where a spelling is cut in two, a letter stands in front of the cut, or white space behind it, or
some of the later words begin there. -/
theorem cut {words : List Text} {x : Text} (h : IsSpelling words x) (hletters : AreLettered words)
    {u v : Text} (hx : x = u ++ v) (hu : u ≠ []) (hv : v ≠ []) :
    (∃ c ∈ u.getLast?, isWord c = true) ∨ (∃ c ∈ v.head?, isBlank c = true) ∨
      ∃ word later, word :: later <:+ words.tail ∧ IsSpelling (word :: later) v := by
  induction h generalizing u with
  | last x =>
    refine Or.inl ⟨u.getLast hu, List.getLast?_eq_some_getLast hu, isWord_of_mem hletters ?_⟩
    exact hx ▸ List.mem_append_left v (List.getLast_mem hu)
  | @cons x blanks y words hne hblanks tail ih =>
    have htail : AreLettered words := fun word hword => hletters word (List.mem_cons_of_mem _ hword)
    have hnext : ∃ word later, word :: later <:+ words ∧ IsSpelling (word :: later) y := by
      obtain ⟨word, later, rfl⟩ := List.exists_cons_of_ne_nil tail.ne_nil
      exact ⟨word, later, List.suffix_refl _, tail⟩
    rcases List.append_eq_append_iff.mp hx with ⟨a, rfl, ha⟩ | ⟨a, rfl, rfl⟩
    · rcases List.append_eq_append_iff.mp ha with ⟨b, rfl, hb⟩ | ⟨b, rfl, rfl⟩
      · rcases b with _ | ⟨d, b⟩
        · obtain rfl : y = v := hb
          exact Or.inr (Or.inr hnext)
        · rcases ih htail hb (List.cons_ne_nil d b) with hword | hblank | ⟨word, later, hs, hlater⟩
          · rw [← List.append_assoc, List.getLast?_append_of_ne_nil _ (List.cons_ne_nil d b)]
            exact Or.inl hword
          · exact Or.inr (Or.inl hblank)
          · exact Or.inr (Or.inr ⟨word, later, hs.trans (List.tail_suffix words), hlater⟩)
      · rcases b with _ | ⟨d, b⟩
        · exact Or.inr (Or.inr hnext)
        · exact Or.inr (Or.inl ⟨d, rfl, hblanks d (by simp)⟩)
    · exact Or.inl ⟨u.getLast hu, List.getLast?_eq_some_getLast hu,
        isWord_of_mem hletters (List.mem_append_left a (List.getLast_mem hu))⟩

end IsSpelling

namespace Keyword

def opening (keyword : Keyword) : Text := keyword.words.headD []

theorem opening_injective {a b : Keyword} (h : a.opening = b.opening) : a = b := by
  have hall : ∀ a ∈ all, ∀ b ∈ all, a.opening = b.opening → a = b := by decide +kernel
  exact hall a a.mem_all b b.mem_all h

theorem words_eq (keyword : Keyword) : keyword.words = keyword.opening :: keyword.words.tail := by
  cases keyword <;> rfl

theorem areLettered_words (keyword : Keyword) : AreLettered keyword.words := by
  have hall : ∀ keyword ∈ all,
      keyword.words.all (fun word => word.all fun c => smallLetters.contains c) = true := by
    decide +kernel
  exact areLettered_of_all (hall keyword keyword.mem_all)

theorem nil_not_mem_words (keyword : Keyword) : [] ∉ keyword.words := by
  cases keyword <;> decide

theorem opening_ne_nil (keyword : Keyword) : keyword.opening ≠ [] := by
  cases keyword <;> decide

/-- No keyword begins with a later word of a keyword. -/
theorem opening_not_mem_tail (a b : Keyword) : a.opening ∉ b.words.tail := by
  have hall : ∀ a ∈ all, ∀ b ∈ all, a.opening ∉ b.words.tail := by decide +kernel
  exact hall a a.mem_all b b.mem_all

variable {keyword : Keyword} {left : Option Char} {t rest : Text}

/-- A keyword that stands alone is spelled out between two characters that are no part of words. -/
theorem exists_of_pattern (h : keyword.pattern left t = some ((), rest)) :
    noWord left = true ∧ noWord rest.head? = true ∧
      ∃ x, t = x ++ rest ∧ IsSpelling keyword.words x := by
  unfold pattern standingWords at h
  split at h
  · rename_i hleft
    obtain ⟨rest', hfilter, heq⟩ := Option.map_eq_some_iff.mp h
    obtain ⟨hread, hrest⟩ := Option.filter_eq_some_iff.mp hfilter
    obtain rfl := (Prod.mk.inj heq).2
    have hne : keyword.words ≠ [] := by
      rw [keyword.words_eq]
      exact List.cons_ne_nil _ _
    exact ⟨hleft, hrest, exists_of_readWords? hne hread⟩
  · cases h

theorem pattern_eq_some_iff : keyword.pattern left t = some ((), rest) ↔
    noWord left = true ∧ noWord rest.head? = true ∧
      ∃ x, t = x ++ rest ∧ IsSpelling keyword.words x := by
  refine ⟨exists_of_pattern, ?_⟩
  rintro ⟨hleft, hrest, x, rfl, hx⟩
  have hread := hx.readWords?_append keyword.nil_not_mem_words keyword.areLettered_words rest
  rw [pattern, standingWords, if_pos hleft, hread, Option.filter_some, if_pos hrest, Option.map_some]

/-- The keyword that stands at a place begins with the first word of the text from there on. -/
theorem opening_eq_firstWord (h : keyword.pattern left t = some ((), rest)) :
    keyword.opening = firstWord t := by
  obtain ⟨_, hrest, x, rfl, hx⟩ := exists_of_pattern h
  have hletters := keyword.areLettered_words
  rw [keyword.words_eq] at hx hletters
  exact (hx.firstWord_append hletters hrest).symm

/-- At most one keyword stands at a place. -/
theorem eq_of_pattern {other : Keyword} {rest' : Text}
    (h : keyword.pattern left t = some ((), rest))
    (h' : other.pattern left t = some ((), rest')) : keyword = other :=
  opening_injective ((opening_eq_firstWord h).trans (opening_eq_firstWord h').symm)

theorem not_isBlank_head? (h : keyword.pattern left t = some ((), rest)) :
    ∀ c ∈ t.head?, isBlank c = false := by
  intro c hc
  by_contra hblank
  have hword := opening_eq_firstWord h
  obtain ⟨t, rfl⟩ := List.head?_eq_some_iff.mp hc
  have hstop : isWord c = false := isWord_of_isBlank (Bool.not_eq_false _ ▸ hblank)
  rw [firstWord, List.takeWhile_cons_of_neg (by simp [hstop])] at hword
  exact keyword.opening_ne_nil hword

/-- No keyword begins inside a keyword. -/
theorem length_le_of_pattern_inside {other : Keyword} {u v rest' : Text} (hu : u ≠ [])
    (h : keyword.pattern left (u ++ v) = some ((), rest))
    (h' : other.pattern u.getLast? v = some ((), rest')) : v.length ≤ rest.length := by
  obtain ⟨_, hrest, x, heq, hx⟩ := exists_of_pattern h
  by_contra hlong
  rcases List.append_eq_append_iff.mp heq with ⟨a, rfl, rfl⟩ | ⟨a, rfl, rfl⟩
  · have ha : a ≠ [] := by
      rintro rfl
      exact hlong (Nat.le_refl _)
    rcases hx.cut keyword.areLettered_words rfl hu ha with ⟨c, hc, hword⟩ | ⟨c, hc, hblank⟩ |
      ⟨word, later, hs, hlater⟩
    · have hleft := (exists_of_pattern h').1
      rw [Option.mem_def.mp hc] at hleft
      simp [noWord, hword] at hleft
    · obtain ⟨a, rfl⟩ := List.head?_eq_some_iff.mp hc
      have hnot := not_isBlank_head? h' c rfl
      rw [hblank] at hnot
      cases hnot
    · have hletters : AreLettered (word :: later) := by
        intro w hw
        exact keyword.areLettered_words w (List.mem_of_mem_tail (hs.subset hw))
      have hopening := (opening_eq_firstWord h').trans (hlater.firstWord_append hletters hrest)
      exact opening_not_mem_tail other keyword (hopening ▸ hs.subset List.mem_cons_self)
  · rw [List.length_append] at hlong
    omega

theorem noOverlap (keyword : Keyword) (before : Option Char) (t : Text) :
    keyword.pattern.NoOverlap before t := by
  intro x c y _ rest ht hread x' y' hy hshort
  cases hlater : keyword.pattern (x'.getLast?.or (some c)) y' with
  | none => rfl
  | some found =>
    have hleft : (c :: x').getLast? = x'.getLast?.or (some c) := by
      rw [← Pattern.getLast?_cons_or c x' none, Option.or_none]
    have hle := length_le_of_pattern_inside (u := c :: x') (v := y') (List.cons_ne_nil c x')
      (by rwa [List.cons_append, ← hy]) (hleft ▸ hlater)
    rw [hy, List.length_append] at hshort
    omega

/-- The search for a keyword finds every place where it stands alone. -/
theorem hits_eq_places (keyword : Keyword) (t : Text) :
    keyword.pattern.hits t = keyword.pattern.places t :=
  (keyword.noOverlap none t).hits_eq

end Keyword

end SqlAssist
