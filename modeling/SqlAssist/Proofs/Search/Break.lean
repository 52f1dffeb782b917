import SqlAssist.Proofs.Keyword

/-! # Words in a text that goes on

A text that goes on with something that no word begins with, at once or behind white space, holds in
its front part the words that stand there anyway: nothing lengthens them and nothing takes them
away. So the places in the whole text are those in the front part and those in the rest. -/
namespace SqlAssist

open Character

/-- The hit in a text that goes on with `z`. -/
def Hit.append {α : Type} (z : Text) (hit : Hit α) : Hit α :=
  ⟨hit.here ++ z, hit.value, hit.rest ++ z⟩

namespace Pattern

variable {α : Type} {pattern : Pattern α} {z : Text}

/-- In front of `z` the pattern reads what it reads at the end of a text. -/
def BreaksAt (pattern : Pattern α) (z : Text) : Prop :=
  ∀ left t, t ≠ [] → pattern left (t ++ z) = (pattern left t).map (Prod.map id (· ++ z))

theorem BreaksAt.placesFrom_append (h : pattern.BreaksAt z) (before : Option Char) (x : Text) :
    placesFrom pattern before (x ++ z) =
      (placesFrom pattern before x).map (Hit.append z) ++
        placesFrom pattern (x.getLast?.or before) z := by
  induction x generalizing before with
  | nil => rfl
  | cons c x ih =>
    have hread := h before (c :: x) (List.cons_ne_nil c x)
    rw [List.cons_append] at hread
    rw [List.cons_append, getLast?_cons_or]
    cases hp : pattern before (c :: x) with
    | none =>
      rw [hp] at hread
      rw [placesFrom_of_none hread, placesFrom_of_none hp, ih]
    | some found =>
      obtain ⟨value, rest⟩ := found
      rw [hp] at hread
      rw [placesFrom_of_some hread, placesFrom_of_some hp, ih, List.map_cons, List.cons_append]
      rfl

/-- What stands in front of a text matters only as far as the pattern sees it. -/
theorem placesFrom_congr_left {left left' : Option Char}
    (h : ∀ t, pattern left t = pattern left' t) (t : Text) :
    placesFrom pattern left t = placesFrom pattern left' t := by
  cases t with
  | nil => rfl
  | cons c t => simp only [placesFrom, h]

/-- Where nothing is read in a front part, all places lie behind it. -/
theorem placesFrom_append_of_none {before : Option Char} {x y : Text}
    (h : ∀ left s, s ≠ [] → s <:+ x → pattern left (s ++ y) = none) :
    placesFrom pattern before (x ++ y) = placesFrom pattern (x.getLast?.or before) y := by
  induction x generalizing before with
  | nil => rfl
  | cons c x ih =>
    have hfirst : pattern before (c :: (x ++ y)) = none :=
      h before (c :: x) (List.cons_ne_nil c x) (List.suffix_refl _)
    rw [List.cons_append, placesFrom_of_none hfirst, getLast?_cons_or]
    exact ih fun left s hne hs => h left s hne (hs.trans (List.suffix_cons c x))

theorem places_eq_nil_iff {t : Text} : pattern.places t = [] ↔ pattern.occurs t = false := by
  rw [occurs, first?, firstFrom?_eq_head?_placesFrom, ← Bool.not_eq_true, List.isSome_head?,
    ne_eq, not_not, places]

end Pattern

variable {word z : Text} {words : List Text}

theorem noWord_head?_of_trimStart (hz : noWord (Text.trimStart z).head? = true) :
    noWord z.head? = true := by
  cases z with
  | nil => rfl
  | cons c z =>
    cases hblank : isBlank c with
    | false => rwa [Text.trimStart, List.dropWhile_cons_of_neg (by simp [hblank])] at hz
    | true => simp [noWord, isWord_of_isBlank hblank]

theorem readWord?_eq_none {w : Char} (hw : w ∈ smallLetters) (hz : noWord z.head? = true) :
    readWord? (w :: word) z = none := by
  cases z with
  | nil => rfl
  | cons c z =>
    rw [readWord?, if_neg]
    rintro rfl
    simp [noWord, isWord_of_foldLetter hw] at hz

/-- A word is read in front of a break as it is read at the end of a text. -/
theorem readWord?_append_of_noWord (hword : ∀ c ∈ word, c ∈ smallLetters)
    (hz : noWord z.head? = true) (t : Text) :
    readWord? word (t ++ z) = (readWord? word t).map (· ++ z) := by
  induction word generalizing t with
  | nil => simp
  | cons w word ih =>
    obtain ⟨hw, hword⟩ := List.forall_mem_cons.mp hword
    cases t with
    | nil => exact readWord?_eq_none hw hz
    | cons c t =>
      rw [List.cons_append, readWord?, readWord?]
      split
      · exact ih hword t
      · rfl

theorem readWords?_eq_none (hne : words ≠ []) (hwords : [] ∉ words) (hletters : AreLettered words)
    (hz : noWord z.head? = true) : readWords? words z = none := by
  obtain ⟨word, words, rfl⟩ := List.exists_cons_of_ne_nil hne
  have hword : word ≠ [] := fun hnil => hwords (hnil ▸ List.mem_cons_self)
  obtain ⟨w, word, rfl⟩ := List.exists_cons_of_ne_nil hword
  have hnone : readWord? (w :: word) z = none :=
    readWord?_eq_none (hletters _ List.mem_cons_self _ List.mem_cons_self) hz
  cases words with
  | nil => exact hnone
  | cons next words => simp only [readWords?, hnone, Option.bind_eq_bind, Option.bind_none]

/-- What is read behind white space is read in front of a break, if nothing is read at its end. -/
theorem skipBlanks?_append_bind {read : Text → Option Text}
    (hread : ∀ t, read (t ++ z) = (read t).map (· ++ z)) (hz : read (Text.trimStart z) = none)
    (hnil : read [] = none) (t : Text) :
    (Text.skipBlanks? (t ++ z)).bind read = ((Text.skipBlanks? t).bind read).map (· ++ z) := by
  cases t with
  | nil =>
    cases z with
    | nil => rfl
    | cons c z =>
      simp only [List.nil_append, Text.skipBlanks?]
      split
      · rename_i hblank
        rw [Text.trimStart, List.dropWhile_cons_of_pos hblank] at hz
        exact hz
      · rfl
  | cons c t =>
    rw [List.cons_append, Text.skipBlanks?, Text.skipBlanks?]
    split
    · simp only [Option.bind_some, Text.trimStart, List.dropWhile_append]
      split
      · rename_i hempty
        rw [List.isEmpty_iff.mp hempty, hnil]
        exact hz
      · exact hread _
    · rfl

/-- Words are read in front of a break as they are read at the end of a text. -/
theorem readWords?_append (hne : words ≠ []) (hwords : [] ∉ words) (hletters : AreLettered words)
    (hz : noWord (Text.trimStart z).head? = true) (t : Text) :
    readWords? words (t ++ z) = (readWords? words t).map (· ++ z) := by
  induction words generalizing t with
  | nil => exact absurd rfl hne
  | cons word words ih =>
    obtain ⟨hword, hlater⟩ := List.forall_mem_cons.mp hletters
    have hread := readWord?_append_of_noWord hword (noWord_head?_of_trimStart hz) t
    cases words with
    | nil => exact hread
    | cons next words =>
      have hnext : [] ∉ next :: words := fun hmem => hwords (List.mem_cons_of_mem word hmem)
      have hbind := skipBlanks?_append_bind (ih (List.cons_ne_nil _ _) hnext hlater)
        (readWords?_eq_none (List.cons_ne_nil _ _) hnext hlater hz)
        (readWords?_eq_none (List.cons_ne_nil _ _) hnext hlater noWord_none)
      simp only [readWords?, Option.bind_eq_bind, hread]
      cases readWord? word t with
      | none => rfl
      | some behind => exact hbind behind

theorem breaksAt_standingWords (hread : ∀ t, readWords? words (t ++ z) =
    (readWords? words t).map (· ++ z)) (hz : noWord z.head? = true) :
    (standingWords words).BreaksAt z := by
  intro left t _
  rw [standingWords, hread, standingWords]
  split
  · cases readWords? words t with
    | none => rfl
    | some rest =>
      have hhead : noWord (rest ++ z).head? = noWord rest.head? := by
        cases rest with
        | nil => exact hz
        | cons c rest => rfl
      simp only [Option.map_some, Option.filter_some, hhead]
      split <;> rfl
  · rfl

theorem breaksAt_standingOneOf (hletters : AreLettered words) (hz : noWord z.head? = true) :
    (standingOneOf words).BreaksAt z := by
  intro left t ht
  rw [standingOneOf, standingOneOf]
  induction words with
  | nil => rfl
  | cons word words ih =>
    obtain ⟨hword, hlater⟩ := List.forall_mem_cons.mp hletters
    have hread : (standingWords [word]).BreaksAt z :=
      breaksAt_standingWords (readWord?_append_of_noWord hword hz) hz
    rw [List.findSome?_cons, List.findSome?_cons, hread left t ht, ih hlater]
    cases standingWords [word] left t <;> rfl

theorem standingOneOf_eq_some {left : Option Char} {t rest : Text}
    (h : standingOneOf words left t = some ((), rest)) :
    noWord left = true ∧ noWord rest.head? = true ∧
      ∃ x, t = x ++ rest ∧ x.map foldLetter ∈ words := by
  obtain ⟨word, hword, hread⟩ := List.exists_of_findSome?_eq_some h
  obtain ⟨hleft, hrest, hread⟩ := standingWords_eq_some_iff.mp hread
  obtain ⟨x, rfl, rfl⟩ := exists_of_readWord? hread
  exact ⟨hleft, hrest, x, rfl, hword⟩

theorem standingOneOf_congr_left {left left' : Option Char} (h : noWord left = noWord left')
    (t : Text) : standingOneOf words left t = standingOneOf words left' t := by
  simp only [standingOneOf, standingWords, h]

theorem placesFrom_standingOneOf_cons (hwords : [] ∉ words) (hletters : AreLettered words)
    {c : Char} (hc : isWord c = false) (before : Option Char) (t : Text) :
    (standingOneOf words).placesFrom before (c :: t) = (standingOneOf words).places t := by
  have hnone : standingOneOf words before (c :: t) = none := by
    refine Option.eq_none_iff_forall_ne_some.mpr fun ⟨⟨⟩, rest⟩ hread => ?_
    obtain ⟨_, _, x, ht, hmem⟩ := standingOneOf_eq_some hread
    cases x with
    | nil => exact hwords hmem
    | cons d x =>
      obtain ⟨rfl, _⟩ := List.cons.inj ht
      rw [isWord_of_foldLetter (hletters _ hmem _ List.mem_cons_self)] at hc
      cases hc
  have hleft : noWord (some c) = noWord none := by simp [noWord, hc]
  rw [Pattern.placesFrom_of_none hnone,
    Pattern.placesFrom_congr_left (standingOneOf_congr_left hleft), Pattern.places]

theorem noOverlap_standingOneOf (hletters : AreLettered words) (before : Option Char) (t : Text) :
    (standingOneOf words).NoOverlap before t := by
  intro x c y _ rest ht hread x' y' hy hshort
  obtain ⟨_, _, found, hfound, hmem⟩ := standingOneOf_eq_some hread
  cases hlater : standingOneOf words (x'.getLast?.or (some c)) y' with
  | none => rfl
  | some later =>
    have hleft := (standingOneOf_eq_some hlater).1
    have hlast : x'.getLast?.or (some c) = (c :: x').getLast? := by
      rw [← Pattern.getLast?_cons_or c x' none, Option.or_none]
    have hinside : c :: x' <+: found := by
      refine List.prefix_of_prefix_length_le ⟨y', by rw [List.cons_append, ← hy]⟩
        ⟨rest, hfound.symm⟩ ?_
      have hlength := congrArg List.length hfound
      simp only [List.length_cons, List.length_append] at hlength ⊢
      omega
    have hword : isWord ((c :: x').getLast (List.cons_ne_nil c x')) = true := by
      refine isWord_of_foldLetter (hletters _ hmem _ (List.mem_map_of_mem ?_))
      exact hinside.subset (List.getLast_mem _)
    rw [hlast, List.getLast?_eq_some_getLast (List.cons_ne_nil c x')] at hleft
    simp [noWord, hword] at hleft

/-- The search for a word finds every place where it stands alone. -/
theorem hits_standingOneOf (hletters : AreLettered words) (t : Text) :
    (standingOneOf words).hits t = (standingOneOf words).places t :=
  (noOverlap_standingOneOf hletters none t).hits_eq

end SqlAssist
