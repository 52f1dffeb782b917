import SqlAssist.Json.Basic
import SqlAssist.Json.Reader

/-! # Reading back single values

What the writers make of a string, a truth value or an integer is read back as the same value,
through its last character and no further. Only numbers look at what follows them: they go on with
digits, a point or an exponent, so a written value is always followed by the end of the text or by a
comma or closing bracket. -/
namespace SqlAssist.Json

/-- A value can end in front of the text: it is empty or begins with a comma or a closing bracket. -/
def EndsValue (rest : Text) : Prop :=
  ∀ c, rest.head? = some c → c = ',' ∨ c = ']' ∨ c = '\x7d'

theorem endsValue_nil : EndsValue [] := by
  intro c h
  cases h

theorem endsValue_cons {c : Char} (h : c = ',' ∨ c = ']' ∨ c = '\x7d') (rest : Text) :
    EndsValue (c :: rest) := by
  intro d hd
  obtain rfl : c = d := Option.some.inj hd
  exact h

/-- The reader takes exactly `written` off the front of a text and makes `value` of it. -/
structure ReadsBack {α : Type} (read : Reader α) (written : Text) (value : α) : Prop where
  /-- The first character opens a value: it is neither white space nor the end of an array, and
  begins no null. -/
  opens : ∃ c t, written = c :: t ∧ isSpace c = false ∧ c ≠ ']' ∧ c ≠ 'n'
  reads : ∀ rest, EndsValue rest → read (written ++ rest) = .ok (value, rest)

variable {α β : Type} {read : Reader α} {written : Text} {value : α}

theorem skipSpace_cons {c : Char} (h : isSpace c = false) (t : Text) :
    skipSpace (c :: t) = c :: t := by
  rw [skipSpace, List.dropWhile_cons, h]
  rfl

theorem ReadsBack.skipSpace_append (h : ReadsBack read written value) (rest : Text) :
    skipSpace (written ++ rest) = written ++ rest := by
  obtain ⟨c, t, rfl, hc, _⟩ := h.opens
  exact skipSpace_cons hc (t ++ rest)

theorem hexValue?_digitChar {d : Nat} (h : d < 16) : hexValue? (Nat.digitChar d) = some d := by
  have hall : ∀ d, d < 16 → hexValue? (Nat.digitChar d) = some d := by decide
  exact hall d h

theorem readHex_digitChar {n : Nat} (h : n < 256) (rest : Text) :
    readHex ('0' :: '0' :: Nat.digitChar (n / 16) :: Nat.digitChar (n % 16) :: rest) =
      .ok (n, rest) := by
  have hzero : hexValue? '0' = some 0 := by decide
  have hhigh : hexValue? (Nat.digitChar (n / 16)) = some (n / 16) :=
    hexValue?_digitChar (by omega)
  have hlow : hexValue? (Nat.digitChar (n % 16)) = some (n % 16) :=
    hexValue?_digitChar (by omega)
  have hsize : ¬ Text.size
      ('0' :: '0' :: Nat.digitChar (n / 16) :: Nat.digitChar (n % 16) :: rest) < 4 := by
    have h0 := Char.utf8Size_pos '0'
    have h1 := Char.utf8Size_pos (Nat.digitChar (n / 16))
    have h2 := Char.utf8Size_pos (Nat.digitChar (n % 16))
    simp only [Text.size_cons]
    omega
  have hvalue : ((0 * 16 + 0) * 16 + n / 16) * 16 + n % 16 = n := by omega
  simp only [readHex, if_neg hsize, hzero, hhigh, hlow, hvalue]

theorem readEscape_control {c : Char} (h : c.toNat < 0x20) (rest : Text) :
    readEscape ('u' :: '0' :: '0' :: Nat.digitChar (c.toNat / 16) ::
      Nat.digitChar (c.toNat % 16) :: rest) = .ok (c, rest) := by
  have htrailing : isTrailing c.toNat = false := by
    simp only [isTrailing, Bool.and_eq_false_iff, decide_eq_false_iff_not]
    omega
  have hleading : isLeading c.toNat = false := by
    simp only [isLeading, Bool.and_eq_false_iff, decide_eq_false_iff_not]
    omega
  have hhex := readHex_digitChar (n := c.toNat) (by omega) rest
  simp only [readEscape, readUnits, hhex, bind, Except.bind, htrailing, hleading,
    Char.ofNat_toNat]
  rfl

/-- Reading a string goes on behind a written character with that character read. -/
theorem readQuotedIn_writeChar (steps : Nat) (c : Char) (t : Text) :
    readQuotedIn (steps + 1) (writeChar c ++ t) =
      (readQuotedIn steps t).map fun found => (c :: found.1, found.2) := by
  have hescape {e : Text} (he : readEscape (e ++ t) = .ok (c, t)) :
      readQuotedIn (steps + 1) ('\\' :: e ++ t) =
        (readQuotedIn steps t).map fun found => (c :: found.1, found.2) := by
    simp only [List.cons_append, readQuotedIn, he, bind, Except.bind]
    cases readQuotedIn steps t <;> rfl
  unfold writeChar
  split
  · rename_i h
    rcases h with rfl | rfl
    · exact hescape rfl
    · exact hescape rfl
  split
  · rename_i h; subst h; exact hescape rfl
  split
  · rename_i h; subst h; exact hescape rfl
  split
  · rename_i h; subst h; exact hescape rfl
  split
  · rename_i h; subst h; exact hescape rfl
  split
  · rename_i h; subst h; exact hescape rfl
  split
  · rename_i h
    exact hescape (readEscape_control h t)
  · rename_i hquote _ _ _ _ _ hcontrol
    have hne : c ≠ '"' ∧ c ≠ '\\' := not_or.mp hquote
    simp only [List.cons_append, List.nil_append, readQuotedIn]
    split
    · rename_i heq; cases heq
    · rename_i heq; exact absurd (List.cons.inj heq).1 hne.1
    · rename_i heq; exact absurd (List.cons.inj heq).1 hne.2
    · rename_i heq
      obtain ⟨rfl, rfl⟩ := List.cons.inj heq
      rw [if_neg hcontrol]
      cases readQuotedIn steps t <;> rfl

theorem readQuotedIn_flatMap (s rest : Text) {steps : Nat} (h : s.length < steps) :
    readQuotedIn steps (s.flatMap writeChar ++ '"' :: rest) = .ok (s, rest) := by
  induction s generalizing steps with
  | nil =>
    obtain ⟨steps, rfl⟩ := Nat.exists_eq_add_one_of_ne_zero (Nat.ne_of_gt h)
    rfl
  | cons c s ih =>
    obtain ⟨steps, rfl⟩ := Nat.exists_eq_add_one_of_ne_zero (Nat.ne_of_gt (Nat.zero_lt_of_lt h))
    have hs : s.length < steps := by simpa using h
    rw [List.flatMap_cons, List.append_assoc, readQuotedIn_writeChar, ih hs]
    rfl

theorem writeChar_ne_nil (c : Char) : writeChar c ≠ [] := by
  unfold writeChar
  repeat' split
  all_goals exact List.cons_ne_nil _ _

theorem length_le_flatMap_writeChar (s : Text) : s.length ≤ (s.flatMap writeChar).length := by
  induction s with
  | nil => exact Nat.le_refl 0
  | cons c s ih =>
    have hpos := List.length_pos_iff.mpr (writeChar_ne_nil c)
    simp only [List.flatMap_cons, List.length_append, List.length_cons]
    omega

theorem readQuoted_flatMap (s rest : Text) :
    readQuoted (s.flatMap writeChar ++ '"' :: rest) = .ok (s, rest) := by
  apply readQuotedIn_flatMap
  have hlength := length_le_flatMap_writeChar s
  simp only [List.length_append, List.length_cons]
  omega

theorem writeText_append (s rest : Text) :
    writeText s ++ rest = '"' :: (s.flatMap writeChar ++ '"' :: rest) := by
  simp [writeText]

theorem readsBack_writeText (s : Text) : ReadsBack readString (writeText s) s where
  opens := ⟨'"', _, rfl, by decide, by decide, by decide⟩
  reads rest _ := by
    rw [writeText_append, readString, skipSpace_cons (by decide)]
    exact readQuoted_flatMap s rest

theorem readsBack_writeBool (b : Bool) : ReadsBack readBool (writeBool b) b where
  opens := by
    cases b
    · exact ⟨'f', "alse".toList, by decide, by decide, by decide, by decide⟩
    · exact ⟨'t', "rue".toList, by decide, by decide, by decide, by decide⟩
  reads rest _ := by
    cases b
    · rfl
    · rfl

theorem not_isDigit_head_of_endsValue {rest : Text} (h : EndsValue rest) :
    rest.head?.any Char.isDigit = false := by
  cases rest with
  | nil => rfl
  | cons c rest =>
    rcases h c rfl with rfl | rfl | rfl
    · rfl
    · rfl
    · rfl

/-- Digits are taken as far as they go when the number they write fits. -/
theorem takeDigits_append {ds rest : Text} {start : Nat} (hds : ∀ c ∈ ds, c.isDigit = true)
    (hfits : Nat.ofDigitChars 10 ds start ≤ largestSignificand)
    (hrest : rest.head?.any Char.isDigit = false) :
    takeDigits start (ds ++ rest) = (Nat.ofDigitChars 10 ds start, rest) := by
  induction ds generalizing start with
  | nil =>
    cases rest with
    | nil => rfl
    | cons c rest =>
      have hc : c.isDigit = false := hrest
      simp [takeDigits, hc]
  | cons c ds ih =>
    have hc : c.isDigit = true := hds c List.mem_cons_self
    have hnext : 10 * start + (c.toNat - '0'.toNat) = start * 10 + digitValue c := by
      rw [digitValue]
      omega
    rw [Nat.ofDigitChars_cons, hnext] at hfits ⊢
    have hle : start * 10 + digitValue c ≤ largestSignificand := by
      rw [Nat.ofDigitChars_eq_ofDigitChars_zero] at hfits
      have hpow : 0 < 10 ^ ds.length := Nat.pow_pos (by decide)
      calc start * 10 + digitValue c
          ≤ 10 ^ ds.length * (start * 10 + digitValue c) := Nat.le_mul_of_pos_left _ hpow
        _ ≤ 10 ^ ds.length * (start * 10 + digitValue c) + Nat.ofDigitChars 10 ds 0 :=
          Nat.le_add_right _ _
        _ ≤ largestSignificand := hfits
    rw [List.cons_append, takeDigits]
    simp only [hc, Bool.true_and, decide_eq_true_eq, if_pos hle]
    exact ih (fun d hd => hds d (List.mem_cons_of_mem c hd)) hfits

/-- The digits of a number begin with a zero only when they are that zero. -/
theorem ofNat_eq_cons_zero {n : Nat} {ds : Text} (h : Text.ofNat n = '0' :: ds) : ds = [] := by
  induction n using Nat.strongRecOn generalizing ds with
  | ind n ih =>
    by_cases hlt : n < 10
    · rw [Text.ofNat, Nat.toDigits_of_lt_base hlt] at h
      exact (List.cons.inj h).2.symm
    · rw [Text.ofNat, Nat.toDigits_of_base_le (by decide) (by omega)] at h
      obtain ⟨c, tail, hfront⟩ := List.exists_cons_of_ne_nil
        (Nat.toDigits_ne_nil (n := n / 10) (b := 10))
      rw [hfront, List.cons_append] at h
      obtain rfl : c = '0' := (List.cons.inj h).1
      obtain rfl : tail = [] := ih (n / 10) (by omega) hfront
      have hread := congrArg (fun ds => Nat.ofDigitChars 10 ds 0) hfront
      simp only [Nat.ofDigitChars_ten_toDigits] at hread
      have hzero : Nat.ofDigitChars 10 ['0'] 0 = 0 := by decide
      omega

theorem isDigit_of_mem_ofNat {n : Nat} {c : Char} (h : c ∈ Text.ofNat n) : c.isDigit = true :=
  Nat.isDigit_of_mem_toDigits (by decide) (by decide) h

theorem exists_ofNat_eq_cons (n : Nat) : ∃ c ds, Text.ofNat n = c :: ds ∧ c.isDigit = true := by
  obtain ⟨c, ds, h⟩ := List.exists_cons_of_ne_nil (Nat.toDigits_ne_nil (n := n) (b := 10))
  exact ⟨c, ds, h, isDigit_of_mem_ofNat (n := n) (by rw [Text.ofNat, h]; exact List.mem_cons_self)⟩

theorem readNumber_ofNat {n : Nat} (hn : n ≤ largestSignificand) (negative : Bool) {rest : Text}
    (hrest : EndsValue rest) :
    readNumber negative (Text.ofNat n ++ rest) = .ok (integerOf negative n, rest) := by
  have hhead := not_isDigit_head_of_endsValue hrest
  obtain ⟨c, ds, hofNat, hc⟩ := exists_ofNat_eq_cons n
  have htake : takeDigits 0 (Text.ofNat n ++ rest) = (n, rest) := by
    have hvalue : Nat.ofDigitChars 10 (Text.ofNat n) 0 = n := Nat.ofDigitChars_ten_toDigits
    have htaken : takeDigits 0 (Text.ofNat n ++ rest) =
        (Nat.ofDigitChars 10 (Text.ofNat n) 0, rest) :=
      takeDigits_append (fun d hd => isDigit_of_mem_ofNat hd) (by rw [hvalue]; exact hn) hhead
    rwa [hvalue] at htaken
  have hleading : ¬ (c = '0' ∧ (ds ++ rest).head?.any Char.isDigit = true) := by
    rintro ⟨rfl, hdigit⟩
    obtain rfl := ofNat_eq_cons_zero hofNat
    rw [List.nil_append, hhead] at hdigit
    cases hdigit
  have hstop : rest.takeWhile Char.isDigit = [] ∧ rest.dropWhile Char.isDigit = rest := by
    cases rest with
    | nil => exact ⟨rfl, rfl⟩
    | cons d rest =>
      have hd : d.isDigit = false := hhead
      simp [hd]
  rw [hofNat, List.cons_append] at htake ⊢
  simp only [readNumber, if_neg hleading, if_pos hc, htake, hstop.1, hstop.2]
  cases rest with
  | nil => rfl
  | cons d rest =>
    rcases hrest d rfl with rfl | rfl | rfl
    · rfl
    · rfl
    · rfl

/-- A written integer in the range that is asked for is read back. -/
theorem readsBack_ofInt {low high i : Int} (expected : Text) (hlow : low ≤ i) (hhigh : i ≤ high)
    (hfits : i.natAbs ≤ 0x80000000) : ReadsBack (readInteger low high expected) (Text.ofInt i) i := by
  have hnumber (negative : Bool) {rest : Text} (hrest : EndsValue rest) :=
    readNumber_ofNat (n := i.natAbs) (by rw [largestSignificand]; omega) negative hrest
  by_cases hneg : i < 0
  · have hofInt : Text.ofInt i = '-' :: Text.ofNat i.natAbs := if_pos hneg
    have hvalue : integerOf true i.natAbs = .integer i := by
      have hcond : 0 < i.natAbs ∧ i.natAbs ≤ 0x8000000000000000 := by omega
      have habs : -(i.natAbs : Int) = i := by omega
      rw [integerOf, if_neg (by decide), if_pos hcond, habs]
    refine ⟨⟨'-', _, hofInt, by decide, by decide, by decide⟩, fun rest hrest => ?_⟩
    rw [hofInt, List.cons_append, readInteger, skipSpace_cons (by decide)]
    simp only [hnumber true hrest, bind, Except.bind, hvalue, inRange, if_pos (And.intro hlow hhigh)]
    rfl
  · have hofInt : Text.ofInt i = Text.ofNat i.natAbs := if_neg hneg
    have hvalue : integerOf false i.natAbs = .integer i := by
      have habs : (i.natAbs : Int) = i := by omega
      rw [integerOf, if_pos (by decide), habs]
    obtain ⟨c, ds, hofNat, hc⟩ := exists_ofNat_eq_cons i.natAbs
    have hopens : isSpace c = false ∧ c ≠ ']' ∧ c ≠ 'n' ∧ c ≠ '-' := by
      have hall : ∀ d : Char, d.isDigit = false → c ≠ d := by
        rintro d hd rfl
        rw [hc] at hd
        cases hd
      refine ⟨?_, hall _ (by decide), hall _ (by decide), hall _ (by decide)⟩
      simp [isSpace, hall ' ' (by decide), hall '\n' (by decide), hall '\t' (by decide),
        hall '\r' (by decide)]
    obtain ⟨hspace, hbracket, hnull, hminus⟩ := hopens
    refine ⟨⟨c, ds, by rw [hofInt, hofNat], hspace, hbracket, hnull⟩, fun rest hrest => ?_⟩
    have hread := hnumber false hrest
    rw [hofNat, List.cons_append] at hread
    rw [hofInt, hofNat, List.cons_append, readInteger, skipSpace_cons hspace]
    split
    · rename_i heq; exact absurd (List.cons.inj heq).1 hminus
    · rename_i heq
      obtain ⟨rfl, rfl⟩ := List.cons.inj heq
      simp only [if_pos hc, hread, bind, Except.bind, hvalue, inRange,
        if_pos (And.intro hlow hhigh)]
      rfl
    · rename_i heq; cases heq

theorem readsBack_int32 (n : Int32) : ReadsBack readInt32 (Text.ofInt n.toInt) n := by
  have hlow : -0x80000000 ≤ n.toInt := n.le_toInt
  have hhigh : n.toInt ≤ 0x7FFFFFFF := Int.le_of_lt_add_one n.toInt_lt
  have h := readsBack_ofInt "i32".toList hlow hhigh (by omega)
  refine ⟨h.opens, fun rest hrest => ?_⟩
  simp only [readInt32, h.reads rest hrest, bind, Except.bind, Int32.ofInt_toInt]
  rfl

theorem readsBack_uint8 (n : UInt8) : ReadsBack readUInt8 (Text.ofNat n.toNat) n := by
  have hlt : n.toNat < 256 := n.toNat_lt
  have h : ReadsBack (readInteger 0 255 "u8".toList) (Text.ofInt n.toNat) n.toNat :=
    readsBack_ofInt _ (by omega) (by omega) (by omega)
  have hofInt : Text.ofInt n.toNat = Text.ofNat n.toNat := if_neg (by omega)
  rw [hofInt] at h
  refine ⟨h.opens, fun rest hrest => ?_⟩
  simp only [readUInt8, h.reads rest hrest, bind, Except.bind, Int.toNat_natCast,
    UInt8.ofNat_toNat]
  rfl

theorem ReadsBack.optional (h : ReadsBack read written value) :
    ReadsBack (readOptional read) written (some value) := by
  refine ⟨h.opens, fun rest hrest => ?_⟩
  rw [readOptional, h.skipSpace_append]
  obtain ⟨c, t, rfl, _, _, hnull⟩ := h.opens
  split
  · rename_i heq; exact absurd (List.cons.inj heq).1 hnull
  · simp only [h.reads rest hrest, bind, Except.bind]
    rfl

end SqlAssist.Json
