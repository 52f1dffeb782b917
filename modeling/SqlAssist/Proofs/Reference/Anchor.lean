import SqlAssist.Proofs.Identifier.Qualified
import SqlAssist.Proofs.Search.Places
import SqlAssist.Proofs.Text

/-! # Anchors

An anchor is a FROM or JOIN that stands alone and has white space behind it, and a name is looked
for behind that white space. The word of an anchor and its white space hold no other anchor; the
name can hold one, for example inside brackets. Where no name does, anchors and names follow each
other without overlap. -/
namespace SqlAssist

open Character Identifier

def anchorWord : Pattern Unit := standingOneOf ["from".toList, "join".toList]

/-- FROM or JOIN, standing alone, and white space behind it. What is read is the text behind the
white space. -/
def anchor : Pattern Text := fun before t =>
  ((anchorWord before t).bind fun found => Text.skipBlanks? found.2).map fun named => (named, named)

/-- For each anchor of a statement, from left to right, the text that begins behind its white
space. -/
def anchors (statement : Text) : List Text := (anchor.places statement).map Hit.value

def anchorLetters : List Char := "fromjinFROMJIN".toList

theorem mem_anchorLetters_of_foldLetter {c : Char} (h : foldLetter c ∈ "fromjin".toList) :
    c ∈ anchorLetters := by
  have hcapitals : ∀ n ∈ capitals, foldLetter (Char.ofNat n) ∈ "fromjin".toList →
      Char.ofNat n ∈ anchorLetters := by
    decide
  have hlower : ∀ d ∈ "fromjin".toList, d ∈ anchorLetters := Text.forall_of_all (by decide)
  rcases toLower_eq_or_mem_capitals c with hc | hc
  · unfold foldLetter at h
    split at h
    · exact absurd h (by decide)
    · split at h
      · exact absurd h (by decide)
      · rw [hc] at h
        exact hlower c h
  · have hn := hcapitals c.toNat hc
    rw [Char.ofNat_toNat] at hn
    exact hn h

theorem of_mem_anchorLetters {c : Char} (h : c ∈ anchorLetters) :
    isWord c = true ∧ Letters.folded.isNamePart c = true ∧ c ≠ ']' := by
  have hall : ∀ c ∈ anchorLetters,
      isWord c = true ∧ Letters.folded.isNamePart c = true ∧ c ≠ ']' :=
    Text.forall_of_all (by decide +kernel)
  exact hall c h

theorem isWord_of_isBlank {c : Char} (h : isBlank c = true) : isWord c = false := by
  have hall : ∀ n ∈ blanks.codePoints, isWord (Char.ofNat n) = false := by decide +kernel
  have hc := hall c.toNat (Ranges.mem_codePoints_of_covers h)
  rwa [Char.ofNat_toNat] at hc

theorem mem_anchorLetters_of_map {x : Text}
    (h : x.map foldLetter = "from".toList ∨ x.map foldLetter = "join".toList) :
    x ≠ [] ∧ ∀ c ∈ x, c ∈ anchorLetters := by
  have hfrom : ∀ d ∈ "from".toList, d ∈ "fromjin".toList := Text.forall_of_all (by decide)
  have hjoin : ∀ d ∈ "join".toList, d ∈ "fromjin".toList := Text.forall_of_all (by decide)
  constructor
  · rintro rfl
    rcases h with h | h <;> cases h
  · intro c hc
    apply mem_anchorLetters_of_foldLetter
    have hmem : foldLetter c ∈ x.map foldLetter := List.mem_map_of_mem hc
    rcases h with h | h
    · exact hfrom _ (h ▸ hmem)
    · exact hjoin _ (h ▸ hmem)

theorem Text.skipBlanks?_eq_some_iff {t rest : Text} :
    Text.skipBlanks? t = some rest ↔
      ∃ blanks, t = blanks ++ rest ∧ blanks ≠ [] ∧ (∀ c ∈ blanks, Character.isBlank c = true) ∧
        ∀ c ∈ rest.head?, Character.isBlank c = false := by
  constructor
  · intro h
    cases t with
    | nil => cases h
    | cons c t =>
      simp only [Text.skipBlanks?] at h
      split at h
      · rename_i hc
        obtain rfl := Option.some.inj h
        refine ⟨c :: t.takeWhile Character.isBlank, ?_, List.cons_ne_nil _ _, ?_, ?_⟩
        · rw [List.cons_append, Text.trimStart, List.takeWhile_append_dropWhile]
        · intro d hd
          rcases List.mem_cons.mp hd with rfl | hd
          · exact hc
          · exact List.mem_takeWhile_imp hd
        · intro d hd
          have hnot := List.head?_dropWhile_not Character.isBlank t
          rw [Text.trimStart] at hd
          rw [hd] at hnot
          simpa using hnot
      · cases h
  · rintro ⟨blanks, rfl, hne, hall, hrest⟩
    obtain ⟨c, blanks, rfl⟩ := List.exists_cons_of_ne_nil hne
    have hstop := (takeWhile_append_of_head? (s := blanks) (t := rest)
      (fun d hd => hall d (List.mem_cons_of_mem c hd)) hrest).2
    rw [List.cons_append, Text.skipBlanks?, if_pos (hall c List.mem_cons_self), Text.trimStart,
      hstop]

theorem noWord_head?_of_skipBlanks? {t rest : Text} (h : Text.skipBlanks? t = some rest) :
    noWord t.head? = true := by
  obtain ⟨blanks, rfl, hne, hall, _⟩ := Text.skipBlanks?_eq_some_iff.mp h
  obtain ⟨c, blanks, rfl⟩ := List.exists_cons_of_ne_nil hne
  simp [noWord, isWord_of_isBlank (hall c List.mem_cons_self)]

/-- A word that white space follows stands alone if no word is in front of it. -/
theorem standingWords_bind_skipBlanks? (word : Text) (before : Option Char) (t : Text) :
    ((standingWords [word] before t).bind fun found => Text.skipBlanks? found.2) =
      if noWord before then (readWord? word t).bind Text.skipBlanks? else none := by
  rw [standingWords]
  split
  · simp only [readWords?]
    cases hread : readWord? word t with
    | none => rfl
    | some rest =>
      cases hblanks : Text.skipBlanks? rest with
      | none =>
        rw [Option.bind_some, hblanks, Option.bind_map]
        cases hfilter : (some rest).filter (fun rest => noWord rest.head?) with
        | none => rfl
        | some rest' =>
          obtain rfl := Option.some.inj (Option.filter_eq_some_iff.mp hfilter).1
          exact hblanks
      | some named =>
        have hword := noWord_head?_of_skipBlanks? hblanks
        simp [Option.filter, hword, hblanks]
  · rfl

theorem readWord?_join_of_from {t rest : Text} (h : readWord? "from".toList t = some rest) :
    readWord? "join".toList t = none := by
  cases t with
  | nil => cases h
  | cons c t =>
    have hfrom : readWord? ('f' :: "rom".toList) (c :: t) = some rest := h
    have hc : foldLetter c = 'f' := by
      by_contra hne
      rw [readWord?, if_neg hne] at hfrom
      cases hfrom
    change readWord? ('j' :: "oin".toList) (c :: t) = none
    rw [readWord?, hc, if_neg (by decide)]

/-- An anchor is what the searches for names look for. -/
theorem anchor_eq_map_readAnchor? (before : Option Char) (t : Text) :
    anchor before t = (readAnchor? before t).map fun named => (named, named) := by
  have hfrom := standingWords_bind_skipBlanks? "from".toList before t
  have hjoin := standingWords_bind_skipBlanks? "join".toList before t
  rw [anchor, readAnchor?]
  refine congrArg (Option.map _) ?_
  simp only [anchorWord, standingOneOf, List.findSome?_cons, List.findSome?_nil]
  cases hbefore : noWord before with
  | false => simp [standingWords, hbefore]
  | true =>
    simp only [hbefore, if_true] at hfrom hjoin ⊢
    cases hread : readWord? "from".toList t with
    | none =>
      have hnone : standingWords ["from".toList] before t = none := by
        simp only [standingWords, readWords?, hread, Option.filter_none, Option.map_none, ite_self]
      rw [hnone, Option.none_or, ← hjoin]
      cases standingWords ["join".toList] before t <;> rfl
    | some rest =>
      have hnone : standingWords ["join".toList] before t = none := by
        simp only [standingWords, readWords?, readWord?_join_of_from hread, Option.filter_none,
          Option.map_none, ite_self]
      rw [hread] at hfrom
      rw [Option.some_or, ← hfrom, hnone]
      cases standingWords ["from".toList] before t <;> rfl

theorem anchor_eq_some_iff {left : Option Char} {t named rest : Text} :
    anchor left t = some (named, rest) ↔ readAnchor? left t = some named ∧ rest = named := by
  rw [anchor_eq_map_readAnchor?, Option.map_eq_some_iff]
  constructor
  · rintro ⟨named, hread, heq⟩
    obtain ⟨rfl, rfl⟩ := Prod.mk.inj heq
    exact ⟨hread, rfl⟩
  · rintro ⟨hread, rfl⟩
    exact ⟨_, hread, rfl⟩

theorem readWord?_append (x t : Text) : readWord? (x.map foldLetter) (x ++ t) = some t := by
  induction x with
  | nil => exact readWord?_nil t
  | cons c x ih => rw [List.map_cons, List.cons_append, readWord?, if_pos rfl, ih]

/-- An anchor is a word, and white space behind it, up to the first other character. -/
theorem readAnchor?_eq_some_iff {left : Option Char} {t named : Text} :
    readAnchor? left t = some named ↔
      noWord left = true ∧ ∃ word blanks, t = word ++ (blanks ++ named) ∧
        (word.map foldLetter = "from".toList ∨ word.map foldLetter = "join".toList) ∧
        blanks ≠ [] ∧ (∀ c ∈ blanks, isBlank c = true) ∧
        ∀ c ∈ named.head?, isBlank c = false := by
  constructor
  · intro h
    unfold readAnchor? at h
    split at h
    · rename_i hleft
      obtain ⟨behind, hread, hblanks⟩ := Option.bind_eq_some_iff.mp h
      obtain ⟨blanks, rfl, hne, hall, hnamed⟩ := Text.skipBlanks?_eq_some_iff.mp hblanks
      rcases Option.or_eq_some_iff.mp hread with hfrom | ⟨_, hjoin⟩
      · obtain ⟨word, rfl, hword⟩ := exists_of_readWord? hfrom
        exact ⟨hleft, word, blanks, rfl, Or.inl hword, hne, hall, hnamed⟩
      · obtain ⟨word, rfl, hword⟩ := exists_of_readWord? hjoin
        exact ⟨hleft, word, blanks, rfl, Or.inr hword, hne, hall, hnamed⟩
    · cases h
  · rintro ⟨hleft, word, blanks, rfl, hword, hne, hall, hnamed⟩
    have hread := readWord?_append word (blanks ++ named)
    have hblanks : Text.skipBlanks? (blanks ++ named) = some named :=
      Text.skipBlanks?_eq_some_iff.mpr ⟨blanks, rfl, hne, hall, hnamed⟩
    rw [readAnchor?, if_pos hleft]
    rcases hword with hfrom | hjoin
    · rw [hfrom] at hread
      rw [hread, Option.some_or, Option.bind_some, hblanks]
    · rw [hjoin] at hread
      have hnot : readWord? "from".toList (word ++ (blanks ++ named)) = none := by
        cases hfrom : readWord? "from".toList (word ++ (blanks ++ named)) with
        | none => rfl
        | some rest =>
          rw [readWord?_join_of_from hfrom] at hread
          cases hread
      rw [hnot, hread, Option.none_or, Option.bind_some, hblanks]

theorem exists_of_readAnchor? {left : Option Char} {t named : Text}
    (h : readAnchor? left t = some named) :
    noWord left = true ∧ ∃ word blanks, t = word ++ (blanks ++ named) ∧ word ≠ [] ∧
      (∀ c ∈ word, c ∈ anchorLetters) ∧ ∀ c ∈ blanks, isBlank c = true := by
  obtain ⟨hleft, word, blanks, rfl, hword, _, hall, _⟩ := readAnchor?_eq_some_iff.mp h
  obtain ⟨hne, hletters⟩ := mem_anchorLetters_of_map hword
  exact ⟨hleft, word, blanks, rfl, hne, hletters, hall⟩

theorem standingWords_eq_some_iff {word : Text} {left : Option Char} {t rest : Text} :
    standingWords [word] left t = some ((), rest) ↔
      noWord left = true ∧ noWord rest.head? = true ∧ readWord? word t = some rest := by
  rw [standingWords]
  split
  · rename_i hleft
    simp [hleft, readWords?, Option.filter_eq_some_iff, and_comm]
  · rename_i hleft
    simp [hleft]

/-- A FROM or JOIN stands alone where no word touches it. -/
theorem anchorWord_eq_some_iff {left : Option Char} {t rest : Text} :
    anchorWord left t = some ((), rest) ↔
      noWord left = true ∧ noWord rest.head? = true ∧ ∃ word, t = word ++ rest ∧
        (word.map foldLetter = "from".toList ∨ word.map foldLetter = "join".toList) := by
  constructor
  · intro h
    obtain ⟨word, hmem, hstands⟩ := List.exists_of_findSome?_eq_some h
    obtain ⟨hleft, hrest, hread⟩ := standingWords_eq_some_iff.mp hstands
    obtain ⟨x, ht, rfl⟩ := exists_of_readWord? hread
    exact ⟨hleft, hrest, x, ht, by simpa using hmem⟩
  · rintro ⟨hleft, hrest, word, rfl, hword⟩
    have hread := readWord?_append word rest
    rw [anchorWord, standingOneOf, List.findSome?_cons, List.findSome?_cons]
    rcases hword with hfrom | hjoin
    · rw [hfrom] at hread
      rw [standingWords_eq_some_iff.mpr ⟨hleft, hrest, hread⟩]
    · rw [hjoin] at hread
      have hnot : standingWords ["from".toList] left (word ++ rest) = none := by
        refine Option.eq_none_iff_forall_ne_some.mpr fun found hstands => ?_
        obtain ⟨_, _, hfrom⟩ := standingWords_eq_some_iff.mp hstands
        rw [readWord?_join_of_from hfrom] at hread
        cases hread
      rw [hnot, standingWords_eq_some_iff.mpr ⟨hleft, hrest, hread⟩]

/-- What stands in front of an anchor matters only as far as it is no word. -/
theorem readAnchor?_congr_left {left left' : Option Char} (hleft : noWord left' = true)
    {t named : Text} (h : readAnchor? left t = some named) : readAnchor? left' t = some named := by
  obtain ⟨hword, _⟩ := exists_of_readAnchor? h
  rw [readAnchor?, if_pos hword] at h
  rw [readAnchor?, if_pos hleft, h]

theorem exists_anchorWord_of_readAnchor? {left : Option Char} {t named : Text}
    (h : readAnchor? left t = some named) :
    ∃ behind, anchorWord left t = some ((), behind) ∧
      ∃ word, (word = "from".toList ∨ word = "join".toList) ∧ readWord? word t = some behind := by
  obtain ⟨hleft, word, blanks, rfl, hword, hne, hall, hnamed⟩ := readAnchor?_eq_some_iff.mp h
  have hblanks : Text.skipBlanks? (blanks ++ named) = some named :=
    Text.skipBlanks?_eq_some_iff.mpr ⟨blanks, rfl, hne, hall, hnamed⟩
  exact ⟨blanks ++ named,
    anchorWord_eq_some_iff.mpr ⟨hleft, noWord_head?_of_skipBlanks? hblanks, word, rfl, hword⟩,
    word.map foldLetter, hword, readWord?_append word (blanks ++ named)⟩

theorem mem_anchors_iff {statement named : Text} :
    named ∈ anchors statement ↔
      ∃ x here, statement = x ++ here ∧ here ≠ [] ∧ readAnchor? x.getLast? here = some named := by
  rw [anchors, List.mem_map]
  constructor
  · rintro ⟨⟨here, named, rest⟩, hmem, rfl⟩
    obtain ⟨x, rfl, hne, hread⟩ := Pattern.exists_of_mem_placesFrom hmem
    rw [Option.or_none] at hread
    exact ⟨x, here, rfl, hne, (anchor_eq_some_iff.mp hread).1⟩
  · rintro ⟨x, here, rfl, hne, hread⟩
    refine ⟨⟨here, named, named⟩, Pattern.mem_placesFrom_of_readsBehind ⟨hne, ?_⟩, rfl⟩
    rw [Option.or_none]
    exact anchor_eq_some_iff.mpr ⟨hread, rfl⟩

/-- A part of a text that does not hold a character lies in front of it or behind it. -/
theorem append_cons_cases {c : Char} {x y front part back : Text} (hc : c ∉ part)
    (h : x ++ c :: y = front ++ (part ++ back)) :
    (∃ between, x = front ++ (part ++ between) ∧ back = between ++ c :: y) ∨
      ∃ between, front = x ++ c :: between ∧ y = between ++ (part ++ back) := by
  have hfirst {a : Text} (hx : x = front ++ a) (ha : part ++ back = a ++ c :: y) :
      ∃ between, x = front ++ (part ++ between) ∧ back = between ++ c :: y := by
    rcases List.append_eq_append_iff.mp ha with ⟨between, rfl, hback⟩ | ⟨b, rfl, hb⟩
    · exact ⟨between, hx, hback⟩
    · cases b with
      | nil => exact ⟨[], by simpa using hx, hb.symm⟩
      | cons d b =>
        obtain rfl := (List.cons.inj hb).1
        simp at hc
  rcases List.append_eq_append_iff.mp h with ⟨a, hfront, ha⟩ | ⟨a, hx, ha⟩
  · cases a with
    | nil => exact Or.inl (hfirst (a := []) (by simpa using hfront.symm) ha.symm)
    | cons d between =>
      obtain ⟨rfl, hy⟩ := List.cons.inj ha
      exact Or.inr ⟨between, hfront, hy⟩
  · exact Or.inl (hfirst hx ha)

/-- Where no FROM or JOIN stands alone in two texts, none does when they are put together with a
character between them that is no part of a word. -/
theorem not_occurs_anchorWord_append {c : Char} (hc : isWord c = false) {x y : Text}
    (hx : anchorWord.occurs x = false) (hy : anchorWord.occurs y = false) :
    anchorWord.occurs (x ++ c :: y) = false := by
  rw [Bool.eq_false_iff, ne_eq, Pattern.occurs_iff] at hx hy ⊢
  rintro ⟨front, _, ⟨⟨⟩, rest⟩, heq, _, hread⟩
  obtain ⟨hleft, hright, word, rfl, hword⟩ := anchorWord_eq_some_iff.mp hread
  obtain ⟨hne, hletters⟩ := mem_anchorLetters_of_map hword
  have hnot : c ∉ word := by
    intro hmem
    rw [(of_mem_anchorLetters (hletters c hmem)).1] at hc
    cases hc
  -- Where the character touched the word, now an end of the text does.
  rcases append_cons_cases hnot heq with ⟨between, rfl, rfl⟩ | ⟨between, rfl, rfl⟩
  · refine hx ⟨front, word ++ between, ((), between), rfl, by simp [hne], ?_⟩
    refine anchorWord_eq_some_iff.mpr ⟨hleft, ?_, word, rfl, hword⟩
    cases between with
    | nil => exact noWord_none
    | cons d between => exact hright
  · refine hy ⟨between, word ++ rest, ((), rest), rfl, by simp [hne], ?_⟩
    refine anchorWord_eq_some_iff.mpr ⟨?_, hright, word, rfl, hword⟩
    rw [List.getLast?_append_of_ne_nil _ (List.cons_ne_nil c between)] at hleft
    cases between with
    | nil => exact noWord_none
    | cons d between => exact hleft

theorem hitsFrom_anchored_eq_nil {α : Type} (read : Text → Option (α × Text)) {t : Text}
    (h : anchorWord.occurs t = false) (before : Option Char) (skip : Nat) :
    (anchored read).hitsFrom before skip t = [] := by
  refine List.eq_nil_iff_forall_not_mem.mpr fun hit hmem => ?_
  obtain ⟨x, rfl, hne, hread⟩ :=
    Pattern.exists_of_mem_placesFrom (Pattern.mem_placesFrom_of_mem_hitsFrom hmem)
  obtain ⟨hanchor, _⟩ := anchored_eq_some_iff.mp hread
  have hstands : noWord x.getLast? = true := by
    obtain ⟨hleft, _⟩ := exists_of_readAnchor? hanchor
    cases hlast : x.getLast? with
    | none => exact noWord_none
    | some c => rwa [hlast] at hleft
  obtain ⟨behind, hword, _⟩ :=
    exists_anchorWord_of_readAnchor? (readAnchor?_congr_left hstands hanchor)
  have hoccurs : anchorWord.occurs (x ++ hit.here) = true :=
    Pattern.occurs_iff.mpr ⟨x, hit.here, _, rfl, hne, hword⟩
  rw [h] at hoccurs
  cases hoccurs

/-- No anchor begins inside the word or the white space of another one. -/
theorem length_le_of_readAnchor?_inside {left : Option Char} {x v named named' : Text}
    (hx : x ≠ []) (h : readAnchor? left (x ++ v) = some named)
    (h' : readAnchor? x.getLast? v = some named') : v.length ≤ named.length := by
  obtain ⟨_, word, blanks, heq, _, hletters, hblanks⟩ := exists_of_readAnchor? h
  by_contra hlong
  rcases List.append_eq_append_iff.mp heq with ⟨a, hword, _⟩ | ⟨b, _, hb⟩
  · obtain ⟨hleft, _⟩ := exists_of_readAnchor? h'
    have hmem : x.getLast hx ∈ word := by
      rw [hword]
      exact List.mem_append_left a (List.getLast_mem hx)
    obtain ⟨hlast, _⟩ := of_mem_anchorLetters (hletters _ hmem)
    rw [List.getLast?_eq_some_getLast hx, noWord, Option.any_some, hlast] at hleft
    cases hleft
  · rcases List.append_eq_append_iff.mp hb with ⟨a, _, rfl⟩ | ⟨a, rfl, rfl⟩
    · rw [List.length_append] at hlong
      omega
    · cases a with
      | nil => exact hlong (Nat.le_refl _)
      | cons d a =>
        have hd : isBlank d = true := hblanks d (by simp)
        rw [readAnchor?_of_isBlank (t := d :: a ++ named) hd] at h'
        cases h'

/-- A name in brackets ends with its bracket, and a plain name where no name goes on. -/
theorem Identifier.exists_of_read? {letters : Letters} {t name rest : Text}
    (h : read? letters t = some (name, rest)) :
    t = name ++ rest ∧ name ≠ [] ∧
      (name.getLast? = some ']' ∨ ∀ c ∈ rest.head?, letters.isNamePart c = false) := by
  refine ⟨(read?_append h).symm, read?_ne_nil h, ?_⟩
  rcases Option.or_eq_some_iff.mp h with hb | ⟨_, hp⟩
  · obtain ⟨body, rfl, _⟩ := isBracketed_of_readBracketed? hb
    exact Or.inl List.getLast?_concat
  · unfold readPlain? at hp
    split at hp
    · cases hp
    · rename_i mark first tail _
      split at hp
      · obtain ⟨_, rfl⟩ := Prod.mk.inj (Option.some.inj hp)
        refine Or.inr fun c hc => ?_
        have hnot := List.head?_dropWhile_not letters.isNamePart tail
        rw [hc] at hnot
        simpa using hnot
      · cases hp

namespace ObjectName

/-- A table name is one name, or two with a dot between them where that can be read. -/
theorem read?_eq_some_iff {letters : Letters} {t rest : Text} {name : ObjectName} :
    read? letters t = some (name, rest) ↔
      ∃ first behind, Identifier.read? letters t = some (first, behind) ∧
        ((∃ dotted second, behind = '.' :: dotted ∧
            Identifier.read? letters dotted = some (second, rest) ∧
            name = ⟨some (strip first), strip second⟩) ∨
          ((∀ dotted, behind = '.' :: dotted → Identifier.read? letters dotted = none) ∧
            name = ⟨none, strip first⟩ ∧ rest = behind)) := by
  simp only [read?, Option.bind_eq_bind, Option.bind_eq_some_iff, Prod.exists]
  refine exists_congr fun first => exists_congr fun behind => and_congr_right fun hfirst => ?_
  split
  · rename_i dotted
    cases hsecond : Identifier.read? letters dotted with
    | none =>
      simp only [Option.pure_def, Option.some.injEq, Prod.mk.injEq]
      constructor
      · rintro ⟨rfl, rfl⟩
        refine Or.inr ⟨?_, rfl, rfl⟩
        intro dotted' heq
        obtain rfl := (List.cons.inj heq).2
        exact hsecond
      · rintro (⟨dotted', second, heq, hread, _⟩ | ⟨_, rfl, rfl⟩)
        · obtain rfl := (List.cons.inj heq).2
          rw [hsecond] at hread
          cases hread
        · exact ⟨rfl, rfl⟩
    | some found =>
      obtain ⟨second, rest'⟩ := found
      simp only [Option.pure_def, Option.some.injEq, Prod.mk.injEq]
      constructor
      · rintro ⟨rfl, rfl⟩
        exact Or.inl ⟨dotted, second, rfl, hsecond, rfl⟩
      · rintro (⟨dotted', second', heq, hread, rfl⟩ | ⟨hnone, _⟩)
        · obtain rfl := (List.cons.inj heq).2
          obtain ⟨rfl, rfl⟩ := Prod.mk.inj (Option.some.inj (hsecond.symm.trans hread))
          exact ⟨rfl, rfl⟩
        · rw [hnone dotted rfl] at hsecond
          cases hsecond
  · rename_i hdot
    simp only [Option.pure_def, Option.some.injEq, Prod.mk.injEq]
    constructor
    · rintro ⟨rfl, rfl⟩
      exact Or.inr ⟨fun dotted heq => absurd heq (hdot dotted), rfl, rfl⟩
    · rintro (⟨dotted, _, heq, _⟩ | ⟨_, rfl, rfl⟩)
      · exact absurd heq (hdot dotted)
      · exact ⟨rfl, rfl⟩

theorem exists_of_read? {letters : Letters} {t rest : Text} {name : ObjectName}
    (h : read? letters t = some (name, rest)) :
    ∃ written, t = written ++ rest ∧ written ≠ [] ∧
      (written.getLast? = some ']' ∨ ∀ c ∈ rest.head?, letters.isNamePart c = false) := by
  obtain ⟨first, behind, hfirst, ⟨dotted, second, rfl, hsecond, _⟩ | ⟨_, _, rfl⟩⟩ :=
    read?_eq_some_iff.mp h
  · obtain ⟨rfl, _, _⟩ := Identifier.exists_of_read? hfirst
    obtain ⟨rfl, hne, hend⟩ := Identifier.exists_of_read? hsecond
    refine ⟨first ++ '.' :: second, by simp, by simp, ?_⟩
    obtain ⟨c, second, rfl⟩ := List.exists_cons_of_ne_nil hne
    rwa [List.getLast?_append_cons, List.getLast?_cons_cons]
  · obtain ⟨rfl, hne, hend⟩ := Identifier.exists_of_read? hfirst
    exact ⟨first, rfl, hne, hend⟩

end ObjectName

/-- No word of an anchor reaches over the end of a name: a closing bracket is none of its letters,
and behind a plain name no letter follows. -/
theorem length_le_of_readWord?_inside {word t v rest z : Text} {name : ObjectName}
    (hword : word = "from".toList ∨ word = "join".toList)
    (h : ObjectName.read? .folded t = some (name, rest)) (hv : v <:+ t)
    (hlong : rest.length < v.length) (hread : readWord? word v = some z) :
    rest.length ≤ z.length := by
  obtain ⟨written, rfl, hne, hend⟩ := ObjectName.exists_of_read? h
  obtain ⟨letters, rfl, rfl⟩ := exists_of_readWord? hread
  obtain ⟨_, hletters⟩ := mem_anchorLetters_of_map hword
  obtain ⟨front, hfront⟩ := hv
  rw [← List.append_assoc] at hfront
  by_contra hshort
  rcases List.append_eq_append_iff.mp hfront with ⟨a, _, rfl⟩ | ⟨behind, hbehind, rfl⟩
  · simp at hshort
  · rcases List.append_eq_append_iff.mp hbehind with ⟨inside, rfl, rfl⟩ | ⟨a, rfl, rfl⟩
    · have hne : behind ≠ [] := by
        rintro rfl
        simp at hshort
      obtain ⟨d, behind, rfl⟩ := List.exists_cons_of_ne_nil hne
      have hinside : inside ≠ [] := by
        rintro rfl
        simp at hlong
      rcases hend with hbracket | hstop
      · rw [List.getLast?_append_of_ne_nil _ hinside] at hbracket
        have hmem := List.mem_append_left (d :: behind) (List.mem_of_getLast? hbracket)
        exact (of_mem_anchorLetters (hletters _ hmem)).2.2 rfl
      · have hmem : d ∈ inside ++ d :: behind := by simp
        have hpart := (of_mem_anchorLetters (hletters d hmem)).2.1
        rw [hstop d rfl] at hpart
        cases hpart
    · simp only [List.length_append] at hlong
      omega

end SqlAssist
