import SqlAssist.Proofs.Keyword
import SqlAssist.Proofs.Text

/-! # The last occurrence of a keyword

A keyword occurs where its words are spelled out between two word boundaries. No keyword begins
inside another one, so a search from left to right that goes on behind each hit misses none of its
occurrences, and what it finds last is the one that starts furthest to the right. -/
namespace SqlAssist

open Character

/-- A word begins or ends between two neighbours: exactly one of them is a part of words. -/
def IsWordBoundary (left right : Option Char) : Prop := left.any isWord ≠ right.any isWord

namespace Keyword

/-- The words of the keyword are spelled out between two offsets, with a word boundary on either
side. -/
def StandsAt (keyword : Keyword) (t : Text) (start stop : Nat) : Prop :=
  ∃ x y z, t = x ++ (y ++ z) ∧ Text.size x = start ∧ Text.size x + Text.size y = stop ∧
    IsSpelling keyword.words y ∧
    IsWordBoundary x.getLast? y.head? ∧ IsWordBoundary y.getLast? z.head?

/-- The occurrence that starts furthest to the right. -/
structure IsRightmost (keyword : Keyword) (t : Text) (start stop : Nat) : Prop where
  stands : keyword.StandsAt t start stop
  greatest : ∀ i j, keyword.StandsAt t i j → i ≤ start

variable {keyword : Keyword} {t : Text} {start stop : Nat}

theorem isWordBoundary_right_iff {left right : Option Char} (h : ∃ c ∈ right, isWord c = true) :
    IsWordBoundary left right ↔ noWord left = true := by
  obtain ⟨c, hc, hword⟩ := h
  rw [Option.mem_def.mp hc, IsWordBoundary, Option.any_some, hword, noWord]
  cases left.any isWord <;> simp

theorem isWordBoundary_left_iff {left right : Option Char} (h : ∃ c ∈ left, isWord c = true) :
    IsWordBoundary left right ↔ noWord right = true := by
  rw [IsWordBoundary, ne_comm]
  exact isWordBoundary_right_iff h

/-- A keyword stands at the places where the search for it reads something. -/
theorem standsAt_iff : keyword.StandsAt t start stop ↔
    ∃ hit ∈ keyword.pattern.places t, hit.start t = start ∧ hit.stop t = stop := by
  constructor
  · rintro ⟨x, y, z, rfl, rfl, rfl, hy, hleft, hright⟩
    have hhead := hy.exists_isWord_head? keyword.nil_not_mem_words keyword.areLettered_words
    have hlast := hy.exists_isWord_getLast? keyword.nil_not_mem_words keyword.areLettered_words
    have hread : keyword.pattern x.getLast? (y ++ z) = some ((), z) :=
      pattern_eq_some_iff.mpr ⟨(isWordBoundary_right_iff hhead).mp hleft,
        (isWordBoundary_left_iff hlast).mp hright, y, rfl, hy⟩
    have hne : y ++ z ≠ [] := by
      obtain ⟨c, hc, _⟩ := hhead
      obtain ⟨y, rfl⟩ := List.head?_eq_some_iff.mp hc
      exact List.cons_ne_nil _ _
    have hmem : (⟨y ++ z, (), z⟩ : Hit Unit) ∈ keyword.pattern.places (x ++ (y ++ z)) :=
      Pattern.mem_placesFrom_of_readsBehind ⟨hne, by rwa [Option.or_none]⟩
    refine ⟨_, hmem, ?_, ?_⟩
    · simp only [Hit.start, Text.size_append]
      omega
    · simp only [Hit.stop, Text.size_append]
      omega
  · rintro ⟨hit, hmem, rfl, rfl⟩
    obtain ⟨x, rfl, _, hread⟩ := Pattern.exists_of_mem_placesFrom hmem
    rw [Option.or_none] at hread
    obtain ⟨hleft, hright, y, hhere, hy⟩ := exists_of_pattern hread
    have hhead := hy.exists_isWord_head? keyword.nil_not_mem_words keyword.areLettered_words
    have hlast := hy.exists_isWord_getLast? keyword.nil_not_mem_words keyword.areLettered_words
    refine ⟨x, y, hit.rest, by rw [hhere], ?_, ?_, hy, (isWordBoundary_right_iff hhead).mpr hleft,
      (isWordBoundary_left_iff hlast).mpr hright⟩
    · simp only [Hit.start, Text.size_append]
      omega
    · simp only [Hit.stop, hhere, Text.size_append]
      omega

theorem last?_eq_getLast?_places (keyword : Keyword) (t : Text) :
    keyword.pattern.last? t = (keyword.pattern.places t).getLast? := by
  rw [Pattern.last?, hits_eq_places]

theorem StandsAt.bounds (h : keyword.StandsAt t start stop) :
    start < stop ∧ stop ≤ Text.size t ∧ t.IsBoundary start ∧ t.IsBoundary stop := by
  obtain ⟨x, y, z, rfl, rfl, rfl, hy, _⟩ := h
  obtain ⟨c, hc, _⟩ := hy.exists_isWord_head? keyword.nil_not_mem_words keyword.areLettered_words
  obtain ⟨y, rfl⟩ := List.head?_eq_some_iff.mp hc
  have hpos := c.utf8Size_pos
  refine ⟨?_, ?_, ⟨x, c :: y ++ z, rfl, rfl⟩, ⟨x ++ c :: y, z, ?_, Text.size_append x (c :: y)⟩⟩
  · rw [Text.size_cons]
    omega
  · simp only [Text.size_append]
    omega
  · rw [List.append_assoc]

theorem eq_or_start_lt_of_last? {hit last : Hit Unit} (hmem : hit ∈ keyword.pattern.places t)
    (hlast : keyword.pattern.last? t = some last) : hit = last ∨ hit.start t < last.start t := by
  have hpairwise := keyword.pattern.pairwise_start_places t
  rw [last?_eq_getLast?_places] at hlast
  obtain ⟨init, hinit⟩ := List.getLast?_eq_some_iff.mp hlast
  rw [hinit] at hmem hpairwise
  rcases List.mem_append.mp hmem with hmem | hmem
  · exact Or.inr ((List.pairwise_append.mp hpairwise).2.2 hit hmem last List.mem_cons_self)
  · exact Or.inl (List.mem_singleton.mp hmem)

theorem standsAt_of_last? {last : Hit Unit} (h : keyword.pattern.last? t = some last) :
    keyword.StandsAt t (last.start t) (last.stop t) := by
  rw [last?_eq_getLast?_places] at h
  exact standsAt_iff.mpr ⟨last, List.mem_of_getLast? h, rfl, rfl⟩

theorem last?_eq_none_iff :
    keyword.pattern.last? t = none ↔ ∀ i j, ¬ keyword.StandsAt t i j := by
  rw [last?_eq_getLast?_places, List.getLast?_eq_none_iff]
  constructor
  · intro hnil i j h
    obtain ⟨hit, hmem, _⟩ := standsAt_iff.mp h
    rw [hnil] at hmem
    cases hmem
  · intro hnot
    apply List.eq_nil_iff_forall_not_mem.mpr
    intro hit hmem
    exact hnot _ _ (standsAt_iff.mpr ⟨hit, hmem, rfl, rfl⟩)

/-- What is found last is the rightmost occurrence. -/
theorem isRightmost_iff : keyword.IsRightmost t start stop ↔
    ∃ last, keyword.pattern.last? t = some last ∧ last.start t = start ∧ last.stop t = stop := by
  constructor
  · intro h
    obtain ⟨hit, hmem, rfl, rfl⟩ := standsAt_iff.mp h.stands
    cases hlast : keyword.pattern.last? t with
    | none => exact absurd h.stands (last?_eq_none_iff.mp hlast _ _)
    | some last =>
      have hle := h.greatest _ _ (standsAt_of_last? hlast)
      rcases eq_or_start_lt_of_last? hmem hlast with rfl | hlt
      · exact ⟨hit, rfl, rfl, rfl⟩
      · omega
  · rintro ⟨last, hlast, rfl, rfl⟩
    refine ⟨standsAt_of_last? hlast, ?_⟩
    intro i j h
    obtain ⟨hit, hmem, rfl, _⟩ := standsAt_iff.mp h
    rcases eq_or_start_lt_of_last? hmem hlast with rfl | hlt
    · exact Nat.le_refl _
    · exact Nat.le_of_lt hlt

theorem lastIn_and_lastEndIn_eq_some_iff :
    keyword.lastIn t = some start ∧ keyword.lastEndIn t = some stop ↔
      keyword.IsRightmost t start stop := by
  rw [isRightmost_iff, lastIn, lastEndIn]
  cases keyword.pattern.last? t with
  | none => simp
  | some last => simp

theorem dropBytes?_start {last : Hit Unit} (h : keyword.pattern.last? t = some last) :
    Text.dropBytes? (last.start t) t = some last.here := by
  obtain ⟨x, ht, _⟩ := Pattern.exists_of_mem_hits (List.mem_of_getLast? h)
  apply Text.dropBytes?_eq_some_iff.mpr
  refine ⟨x, ht, ?_⟩
  have hsize := congrArg Text.size ht
  rw [Text.size_append] at hsize
  rw [Hit.start]
  omega

theorem dropBytes?_stop {last : Hit Unit} (h : keyword.pattern.last? t = some last) :
    Text.dropBytes? (last.stop t) t = some last.rest := by
  obtain ⟨x, ht, hread⟩ := Pattern.exists_of_mem_hits (List.mem_of_getLast? h)
  obtain ⟨_, _, y, hhere, _⟩ := exists_of_pattern hread
  apply Text.dropBytes?_eq_some_iff.mpr
  refine ⟨x ++ y, by rw [ht, hhere, List.append_assoc], ?_⟩
  have hsize := congrArg Text.size ht
  rw [hhere, Text.size_append, Text.size_append] at hsize
  rw [Hit.stop, Text.size_append]
  omega

/-- The landmarks of a keyword are the two ends of its rightmost occurrence, and are missing when it
does not occur. They lie between characters of the text, in their order, so the text can be cut at
them: what is read from the occurrence on, and what is read behind it, are the parts of the text from
there on. -/
theorem lastIn_lastEndIn_rightmost (keyword : Keyword) (t : Text) :
    (∀ i j, keyword.lastIn t = some i ∧ keyword.lastEndIn t = some j ↔
      keyword.IsRightmost t i j ∧ i < j ∧ j ≤ Text.size t ∧ t.IsBoundary i ∧ t.IsBoundary j) ∧
    (keyword.lastIn t = none ↔ ∀ i j, ¬ keyword.StandsAt t i j) ∧
    (keyword.lastEndIn t = none ↔ ∀ i j, ¬ keyword.StandsAt t i j) ∧
    (keyword.lastIn t).map (Text.dropBytes? · t) = (keyword.fromLastIn? t).map some ∧
    Text.dropBytes? ((keyword.lastEndIn t).getD (Text.size t)) t =
      some (keyword.behindLastIn t) := by
  refine ⟨?ends, ?noStart, ?noStop, ?fromStart, ?behindStop⟩
  case ends =>
    intro i j
    rw [lastIn_and_lastEndIn_eq_some_iff]
    exact ⟨fun h => ⟨h, h.stands.bounds⟩, And.left⟩
  case noStart => rw [lastIn, Option.map_eq_none_iff, last?_eq_none_iff]
  case noStop => rw [lastEndIn, Option.map_eq_none_iff, last?_eq_none_iff]
  case fromStart =>
    rw [lastIn, fromLastIn?]
    cases hlast : keyword.pattern.last? t with
    | none => rfl
    | some last => exact congrArg some (dropBytes?_start hlast)
  case behindStop =>
    rw [lastEndIn, behindLastIn]
    cases hlast : keyword.pattern.last? t with
    | none => exact Text.dropBytes?_eq_some_iff.mpr ⟨t, (List.append_nil t).symm, rfl⟩
    | some last => exact dropBytes?_stop hlast

/-- The long s is an s, and a longer word does not count. -/
example : set.lastIn "SET ſet settings".toList = some 4 ∧
    set.lastEndIn "SET ſet settings".toList = some 8 := by
  decide +kernel

end Keyword

end SqlAssist
