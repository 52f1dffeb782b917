import SqlAssist.Text

/-! # Offsets, bytes and lower case of a text

An offset names a place of a text when a character begins there or the text ends; such a place is the
same as a way to write the text as a front and a back part. A greater character has the greater UTF-8
form, and no form is the beginning of another one, so the order of two texts by their bytes is the one
by their characters. Full lower-casing does not see the case of ASCII letters, and neither makes nor
removes a closing bracket. -/
namespace SqlAssist

namespace Text

/-- A character begins at the offset, or the text ends there. -/
def IsBoundary (t : Text) (offset : Nat) : Prop :=
  ∃ front back, t = front ++ back ∧ size front = offset

/-- The part of a text between two offsets, neither of which lies inside a character. -/
def IsSlice (t : Text) (start stop : Nat) (part : Text) : Prop :=
  ∃ front back, t = front ++ part ++ back ∧ size front = start ∧ start + size part = stop

/-- The text begins and ends with a character other than white space. -/
def IsTight (t : Text) : Prop :=
  (∃ c rest, t = c :: rest ∧ Character.isBlank c = false) ∧
    ∃ init c, t = init ++ [c] ∧ Character.isBlank c = false

theorem size_eq_zero_iff {t : Text} : size t = 0 ↔ t = [] := by
  cases t with
  | nil => simp
  | cons c t =>
    have hpos := size_pos_of_ne_nil (List.cons_ne_nil c t)
    simp only [reduceCtorEq, iff_false]
    omega

theorem append_inj_of_size {s t s' t' : Text} (h : s ++ t = s' ++ t') (hs : size s = size s') :
    s = s' ∧ t = t' := by
  rcases List.append_eq_append_iff.mp h with ⟨u, rfl, rfl⟩ | ⟨u, rfl, rfl⟩
  · have hu : size u = 0 := by rw [size_append] at hs; omega
    simp [size_eq_zero_iff.mp hu]
  · have hu : size u = 0 := by rw [size_append] at hs; omega
    simp [size_eq_zero_iff.mp hu]

@[simp] theorem upTo_zero (t : Text) : upTo 0 t = [] := by
  cases t with
  | nil => rfl
  | cons c t =>
    have hc := c.utf8Size_pos
    rw [upTo, if_neg (by omega)]

theorem upTo_append_add (s t : Text) (n : Nat) : upTo (size s + n) (s ++ t) = s ++ upTo n t := by
  induction s with
  | nil => simp
  | cons c s ih =>
    have hle : c.utf8Size ≤ c.utf8Size + size s + n := by omega
    have hn : c.utf8Size + size s + n - c.utf8Size = size s + n := by omega
    simp only [List.cons_append, size_cons, upTo, if_pos hle, hn, ih]

@[simp] theorem upTo_append_size (s t : Text) : upTo (size s) (s ++ t) = s := by
  simpa using upTo_append_add s t 0

theorem upTo_append_of_le {s : Text} {n : Nat} (h : n ≤ size s) (t : Text) :
    upTo n (s ++ t) = upTo n s := by
  induction s generalizing n with
  | nil =>
    obtain rfl : n = 0 := by simpa using h
    simp
  | cons c s ih =>
    simp only [List.cons_append, upTo]
    split
    · rw [ih (by rw [size_cons] at h; omega)]
    · rfl

theorem IsSlice.isBoundary_start {t part : Text} {start stop : Nat}
    (h : IsSlice t start stop part) : IsBoundary t start := by
  obtain ⟨front, back, rfl, rfl, _⟩ := h
  exact ⟨front, part ++ back, by simp, rfl⟩

theorem IsSlice.isBoundary_stop {t part : Text} {start stop : Nat}
    (h : IsSlice t start stop part) : IsBoundary t stop := by
  obtain ⟨front, back, rfl, rfl, rfl⟩ := h
  exact ⟨front ++ part, back, by simp, by simp⟩

/-- A slice of a slice, its offsets counted from the beginning of the text. -/
theorem IsSlice.trans {t part inner : Text} {start stop first last : Nat}
    (h : IsSlice t start stop part) (hi : IsSlice part first last inner) :
    IsSlice t (start + first) (start + last) inner := by
  obtain ⟨front, back, rfl, rfl, rfl⟩ := h
  obtain ⟨front', back', rfl, rfl, rfl⟩ := hi
  refine ⟨front ++ front', back' ++ back, by simp, by simp, ?_⟩
  omega

theorem join_cons_eq_append (between t : Text) (ts : List Text) :
    join between (t :: ts) = t ++ ts.flatMap (between ++ ·) := by
  induction ts generalizing t with
  | nil => simp [join]
  | cons u ts ih =>
    have hjoin : join between (t :: u :: ts) = t ++ between ++ join between (u :: ts) := rfl
    rw [hjoin, ih, List.flatMap_cons]
    simp

def bytes (t : Text) : List UInt8 := t.flatMap String.utf8EncodeChar

theorem bytes_cons (c : Char) (t : Text) : bytes (c :: t) = String.utf8EncodeChar c ++ bytes t :=
  List.flatMap_cons

@[simp] theorem bytes_append (s t : Text) : bytes (s ++ t) = bytes s ++ bytes t :=
  List.flatMap_append

@[simp] theorem length_bytes (t : Text) : (bytes t).length = size t := by
  induction t with
  | nil => rfl
  | cons c t ih =>
    rw [bytes_cons, List.length_append, String.length_utf8EncodeChar, ih, size_cons]

/-- A byte below 128 is a character of its own. -/
theorem toNat_of_mem_utf8EncodeChar {c : Char} {b : UInt8} (h : b ∈ String.utf8EncodeChar c)
    (hb : b.toNat < 128) : b.toNat = c.toNat := by
  have hval : c.toNat = c.val.toNat := rfl
  unfold String.utf8EncodeChar at h
  simp only at h
  split at h
  · obtain rfl := List.mem_singleton.mp h
    rw [UInt8.toNat_ofNat'] at hb ⊢
    omega
  · split at h
    · simp only [List.mem_cons, List.not_mem_nil, or_false] at h
      rcases h with rfl | rfl <;> rw [UInt8.toNat_ofNat'] at hb <;> omega
    · split at h
      · simp only [List.mem_cons, List.not_mem_nil, or_false] at h
        rcases h with rfl | rfl | rfl <;> rw [UInt8.toNat_ofNat'] at hb <;> omega
      · simp only [List.mem_cons, List.not_mem_nil, or_false] at h
        rcases h with rfl | rfl | rfl | rfl <;> rw [UInt8.toNat_ofNat'] at hb <;> omega

/-- The order of texts by their bytes, the first difference deciding; a text stands before what it is
the beginning of. -/
def ByteLt (s t : Text) : Prop := List.Lex (· < ·) (bytes s) (bytes t)

instance (s t : Text) : Decidable (ByteLt s t) :=
  inferInstanceAs (Decidable (List.Lex (· < ·) (bytes s) (bytes t)))

/-- What begins with a smaller character is smaller by its bytes, whatever follows. -/
theorem lex_utf8EncodeChar {c d : Char} (h : c.toNat < d.toNat) (s t : List UInt8) :
    List.Lex (· < ·) (String.utf8EncodeChar c ++ s) (String.utf8EncodeChar d ++ t) := by
  have hmax : d.val.toNat < 0x110000 := by
    rcases d.valid with hlow | ⟨_, hhigh⟩
    · exact Nat.lt_trans hlow (by decide)
    · exact hhigh
  have hlt : c.val.toNat < d.val.toNat := h
  unfold String.utf8EncodeChar
  simp only
  -- The first byte tells the length of the form, and then the digits to base 64 decide.
  repeat' split
  all_goals
    simp only [List.cons_append, List.nil_append, List.cons_lex_cons_iff, UInt8.lt_iff_toNat_lt,
      ← UInt8.toNat_inj, UInt8.toNat_ofNat']
    simp (disch := omega) only [Nat.mod_eq_of_lt]
    omega

theorem lex_append_left_iff (u s t : List UInt8) :
    List.Lex (· < ·) (u ++ s) (u ++ t) ↔ List.Lex (· < ·) s t := by
  induction u with
  | nil => rfl
  | cons b u ih =>
    simp only [List.cons_append, List.cons_lex_cons_iff, UInt8.lt_irrefl, false_or, true_and, ih]

theorem ByteLt.asymm {s t : Text} (h : ByteLt s t) : ¬ ByteLt t s :=
  List.lex_asymm (fun hlt => UInt8.lt_asymm hlt) h

theorem not_byteLt_nil (t : Text) : ¬ ByteLt t [] := List.not_lex_nil

theorem byteLt_nil_cons (c : Char) (t : Text) : ByteLt [] (c :: t) := by
  have hlength := length_bytes (c :: t)
  have hpos := size_pos_of_ne_nil (List.cons_ne_nil c t)
  unfold ByteLt
  cases hbytes : bytes (c :: t) with
  | nil =>
    rw [hbytes, List.length_nil] at hlength
    omega
  | cons b rest => exact List.Lex.nil

theorem byteLt_cons_cons_iff {c d : Char} {s t : Text} :
    ByteLt (c :: s) (d :: t) ↔ c.toNat < d.toNat ∨ c = d ∧ ByteLt s t := by
  rcases Nat.lt_trichotomy c.toNat d.toNat with hlt | heq | hgt
  · exact iff_of_true (lex_utf8EncodeChar hlt (bytes s) (bytes t)) (Or.inl hlt)
  · obtain rfl := Char.toNat_inj.mp heq
    simp only [Nat.lt_irrefl, false_or, true_and]
    exact lex_append_left_iff _ _ _
  · have hback : ByteLt (d :: t) (c :: s) := lex_utf8EncodeChar hgt (bytes t) (bytes s)
    refine iff_of_false hback.asymm ?_
    rintro (hlt | ⟨rfl, _⟩) <;> omega

theorem le_iff_not_byteLt {s t : Text} : le s t = true ↔ ¬ ByteLt t s := by
  induction s generalizing t with
  | nil => exact iff_of_true rfl (not_byteLt_nil t)
  | cons c s ih =>
    cases t with
    | nil => exact iff_of_false Bool.false_ne_true (not_not_intro (byteLt_nil_cons c s))
    | cons d t =>
      simp only [le, Bool.or_eq_true, Bool.and_eq_true, decide_eq_true_eq, beq_iff_eq, ih,
        byteLt_cons_cons_iff, not_or, not_and]
      constructor
      · rintro (hlt | ⟨rfl, hle⟩)
        · refine ⟨by omega, ?_⟩
          rintro rfl
          omega
        · exact ⟨Nat.lt_irrefl _, fun _ => hle⟩
      · rintro ⟨hnot, hle⟩
        rcases Nat.lt_or_eq_of_le (Nat.le_of_not_lt hnot) with hlt | heq
        · exact Or.inl hlt
        · obtain rfl := Char.toNat_inj.mp heq
          exact Or.inr ⟨rfl, hle rfl⟩

end Text

namespace Character

def capitals : List Nat := List.range' 65 26

theorem toLower_eq_or_mem_capitals (c : Char) : c.toLower = c ∨ c.toNat ∈ capitals := by
  by_cases h : c.val ≥ 'A'.val ∧ c.val ≤ 'Z'.val
  · have hlo : 65 ≤ c.toNat := h.1
    have hhi : c.toNat ≤ 90 := h.2
    refine Or.inr (List.mem_range'.mpr ⟨c.toNat - 65, ?_, ?_⟩)
    · omega
    · omega
  · exact Or.inl (dif_neg h)

/-- A property of characters that is the same for the two cases of each ASCII letter. -/
theorem apply_toLower {α : Type} {f : Char → α}
    (h : ∀ n ∈ capitals, f (Char.ofNat n).toLower = f (Char.ofNat n)) (c : Char) :
    f c.toLower = f c := by
  rcases toLower_eq_or_mem_capitals c with hc | hc
  · rw [hc]
  · have hn := h c.toNat hc
    rwa [Char.ofNat_toNat] at hn

theorem lower_toLower (c : Char) : lower c.toLower = lower c :=
  apply_toLower (by decide) c

theorem isCased_toLower (c : Char) : isCased c.toLower = isCased c :=
  apply_toLower (by decide) c

theorem isCaseIgnorable_toLower (c : Char) : isCaseIgnorable c.toLower = isCaseIgnorable c :=
  apply_toLower (by decide) c

theorem toLower_eq_sigma_iff (c : Char) : c.toLower = 'Σ' ↔ c = 'Σ' := by
  have h : decide (c.toLower = 'Σ') = decide (c = 'Σ') :=
    apply_toLower (f := fun c => decide (c = 'Σ')) (by decide) c
  simpa using h

theorem ascii_toLower (c : Char) : decide (c.toLower.toNat < 128) = decide (c.toNat < 128) :=
  apply_toLower (f := fun c => decide (c.toNat < 128)) (by decide) c

theorem mem_of_findShift {n : Nat} {shifts : List Shift} {s : Shift}
    (h : findShift n shifts = some s) : s ∈ shifts ∧ s.covers n = true := by
  induction shifts with
  | nil => cases h
  | cons first shifts ih =>
    simp only [findShift] at h
    split at h
    · cases h
    · split at h
      · rename_i hcovers
        obtain rfl := Option.some.inj h
        exact ⟨List.mem_cons_self, hcovers⟩
      · obtain ⟨hmem, hcovers⟩ := ih h
        exact ⟨List.mem_cons_of_mem _ hmem, hcovers⟩

theorem eq_of_ofNat_eq_closeBracket {n : Nat} (h : Char.ofNat n = ']') : n = 93 := by
  by_cases hn : n.isValidChar
  · rw [Char.ofNat, dif_pos hn] at h
    exact congrArg Char.toNat h
  · rw [Char.ofNat, dif_neg hn] at h
    exact absurd h (by decide)

/-- Only the closing bracket itself is lowered to a closing bracket. -/
theorem eq_of_closeBracket_mem_lower {c : Char} (h : ']' ∈ lower c) : c = ']' := by
  have hall : ∀ s ∈ lowerShifts, s.covers (Int.toNat (93 - s.shift)) = false := by decide +kernel
  unfold lower at h
  split at h
  · exact absurd h (by decide)
  · split at h
    · rename_i s hs
      obtain ⟨hmem, hcovers⟩ := mem_of_findShift hs
      have hn := eq_of_ofNat_eq_closeBracket (List.mem_singleton.mp h).symm
      have hback : c.toNat = Int.toNat (93 - s.shift) := by omega
      rw [hback, hall s hmem] at hcovers
      cases hcovers
    · exact (List.mem_singleton.mp h).symm

end Character

namespace Text

open Character

theorem casedNext_map_toLower (t : Text) : casedNext (t.map Char.toLower) = casedNext t := by
  have hignorable : isCaseIgnorable ∘ Char.toLower = isCaseIgnorable :=
    funext isCaseIgnorable_toLower
  rw [casedNext, List.dropWhile_map, hignorable, casedNext]
  cases t.dropWhile isCaseIgnorable with
  | nil => rfl
  | cons c rest => exact isCased_toLower c

theorem lowerAfter_map_toLower (inWord : Bool) (t : Text) :
    lowerAfter inWord (t.map Char.toLower) = lowerAfter inWord t := by
  induction t generalizing inWord with
  | nil => rfl
  | cons c t ih =>
    simp only [List.map_cons, lowerAfter, toLower_eq_sigma_iff, casedNext_map_toLower,
      lower_toLower, isCaseIgnorable_toLower, isCased_toLower, ih]

theorem lower_eq_of_eqIgnoreCase {s t : Text} (h : eqIgnoreCase s t = true) :
    lower s = lower t := by
  have hmap := eqIgnoreCase_iff.mp h
  calc lower s = lower (s.map Char.toLower) := (lowerAfter_map_toLower false s).symm
    _ = lower (t.map Char.toLower) := by rw [hmap]
    _ = lower t := lowerAfter_map_toLower false t

theorem isAscii_map_toLower (t : Text) : isAscii (t.map Char.toLower) = isAscii t := by
  have hascii : (fun c : Char => decide (c.toNat < 128)) ∘ Char.toLower =
      fun c : Char => decide (c.toNat < 128) :=
    funext ascii_toLower
  rw [isAscii, List.all_map, hascii, isAscii]

theorem isAscii_eq_of_eqIgnoreCase {s t : Text} (h : eqIgnoreCase s t = true) :
    isAscii s = isAscii t := by
  rw [← isAscii_map_toLower s, eqIgnoreCase_iff.mp h, isAscii_map_toLower]

theorem closeBracket_mem_lowerAfter_iff {inWord : Bool} {t : Text} :
    ']' ∈ lowerAfter inWord t ↔ ']' ∈ t := by
  induction t generalizing inWord with
  | nil => rfl
  | cons c t ih =>
    have hbracket : Character.lower ']' = [']'] := by decide
    simp only [lowerAfter, List.mem_append, List.mem_cons, ih]
    refine or_congr_left ?_
    by_cases hsigma : c = 'Σ'
    · rw [if_pos hsigma, hsigma]
      split <;> decide
    · rw [if_neg hsigma]
      constructor
      · exact fun h => (eq_of_closeBracket_mem_lower h).symm
      · rintro rfl
        rw [hbracket]
        exact List.mem_cons_self

/-- Lower-casing neither makes nor removes a closing bracket. -/
theorem closeBracket_mem_lower_iff {t : Text} : ']' ∈ lower t ↔ ']' ∈ t :=
  closeBracket_mem_lowerAfter_iff

end Text

end SqlAssist
