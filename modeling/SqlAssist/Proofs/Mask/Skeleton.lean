import SqlAssist.Proofs.Mask.Alignment
import SqlAssist.Proofs.Text

/-! # What masking leaves in place

Masking works byte by byte: inside comments every byte but a line break becomes a space, and all
other bytes are copied. The regions of a masked text other than code are those of the text that are
no comments, in the same places. The main result collects these, with the statements that the
masked text is cut into. -/
namespace SqlAssist

open Token

/-- What a byte of a comment is replaced by: newline and carriage return stay, all others become a
space. -/
def blankByte (b : UInt8) : UInt8 := if b = 10 ∨ b = 13 then b else 32

theorem bytes_blankOut (c : Char) :
    Text.bytes (blankOut c) = (String.utf8EncodeChar c).map blankByte := by
  unfold blankOut
  split
  · rename_i hc
    rcases hc with rfl | rfl <;> decide
  · rename_i hc
    have hspace : ∀ n, Text.bytes (List.replicate n ' ') = List.replicate n 32 := by
      intro n
      induction n with
      | zero => rfl
      | succ n ih =>
        rw [List.replicate_succ, Text.bytes_cons, ih, List.replicate_succ]
        rfl
    have hblank : ∀ b ∈ String.utf8EncodeChar c, blankByte b = 32 := by
      intro b hb
      refine if_neg fun hbreak => hc ?_
      rcases hbreak with rfl | rfl
      · exact Or.inl (Char.toNat_inj.mp (Text.toNat_of_mem_utf8EncodeChar hb (by decide)).symm)
      · exact Or.inr (Char.toNat_inj.mp (Text.toNat_of_mem_utf8EncodeChar hb (by decide)).symm)
    rw [hspace, List.map_congr_left hblank, List.map_const', String.length_utf8EncodeChar]

theorem bytes_flatMap_blankOut (t : Text) :
    Text.bytes (t.flatMap blankOut) = (Text.bytes t).map blankByte := by
  induction t with
  | nil => rfl
  | cons c t ih =>
    rw [List.flatMap_cons, Text.bytes_append, bytes_blankOut, ih, Text.bytes_cons, List.map_append]

/-- One of the spans is a comment that covers the byte. -/
def CommentAt (l : List Span) (i : Nat) : Prop :=
  ∃ span ∈ l, span.kind.isComment = true ∧ span.start ≤ i ∧ i < span.stop

instance (l : List Span) (i : Nat) : Decidable (CommentAt l i) :=
  inferInstanceAs (Decidable (∃ span ∈ l,
    span.kind.isComment = true ∧ span.start ≤ i ∧ i < span.stop))

theorem Token.le_start_of_mem_spansFrom {offset : Nat} {ts : List Token} {span : Span}
    (h : span ∈ spansFrom offset ts) : offset ≤ span.start := by
  induction ts generalizing offset with
  | nil => cases h
  | cons token ts ih =>
    rcases List.mem_cons.mp h with rfl | h
    · exact Nat.le_refl offset
    · exact (Nat.le_add_right offset token.size).trans (ih h)

theorem commentAt_of_lt {offset i : Nat} {token : Token} {ts : List Token} (h : i < token.size) :
    CommentAt (spansFrom offset (token :: ts)) (offset + i) ↔ token.isComment = true := by
  rw [spansFrom_cons]
  constructor
  · rintro ⟨span, hmem, hc, hlo, _⟩
    rcases List.mem_cons.mp hmem with rfl | hlater
    · exact hc
    · have hle := le_start_of_mem_spansFrom hlater
      omega
  · intro hc
    exact ⟨_, List.mem_cons_self, hc, Nat.le_add_right offset i, Nat.add_lt_add_left h offset⟩

theorem commentAt_of_le {offset i : Nat} {token : Token} {ts : List Token} (h : token.size ≤ i) :
    CommentAt (spansFrom offset (token :: ts)) (offset + i) ↔
      CommentAt (spansFrom (offset + token.size) ts) (offset + token.size + (i - token.size)) := by
  have hi : offset + token.size + (i - token.size) = offset + i := by omega
  rw [spansFrom_cons, hi]
  constructor
  · rintro ⟨span, hmem, hc, hlo, hhi⟩
    rcases List.mem_cons.mp hmem with rfl | hlater
    · simp only at hhi
      omega
    · exact ⟨span, hlater, hc, hlo, hhi⟩
  · rintro ⟨span, hmem, hspan⟩
    exact ⟨span, List.mem_cons_of_mem _ hmem, hspan⟩

theorem Token.bytes_masked (token : Token) :
    Text.bytes token.masked =
      if token.isComment then (Text.bytes token.text).map blankByte else Text.bytes token.text := by
  unfold Token.masked
  split
  · exact bytes_flatMap_blankOut token.text
  · rfl

/-- Masking replaces the bytes of comments and copies all others. -/
theorem getElem?_bytes_flatMap_masked (ts : List Token) (offset i : Nat) :
    (Text.bytes (ts.flatMap Token.masked))[i]? =
      if CommentAt (spansFrom offset ts) (offset + i) then (Text.bytes (textOf ts))[i]?.map blankByte
      else (Text.bytes (textOf ts))[i]? := by
  induction ts generalizing offset i with
  | nil => simp
  | cons token ts ih =>
    have hmasked : (Text.bytes token.masked).length = token.size := by
      rw [Text.length_bytes, token.size_masked]
    have htext : (Text.bytes token.text).length = token.size := Text.length_bytes token.text
    rw [List.flatMap_cons, textOf_cons, Text.bytes_append, Text.bytes_append]
    by_cases hi : i < token.size
    · simp only [commentAt_of_lt hi]
      rw [List.getElem?_append_left (by omega), List.getElem?_append_left (by omega),
        token.bytes_masked]
      split
      · exact List.getElem?_map
      · rfl
    · have hle : token.size ≤ i := Nat.le_of_not_lt hi
      simp only [commentAt_of_le hle]
      rw [List.getElem?_append_right (by omega), List.getElem?_append_right (by omega), hmasked,
        htext]
      exact ih (offset + token.size) (i - token.size)

theorem getElem?_bytes_mask (t : Text) (i : Nat) :
    (Text.bytes (mask t))[i]? =
      if CommentAt (spans t) i then (Text.bytes t)[i]?.map blankByte else (Text.bytes t)[i]? := by
  have h := getElem?_bytes_flatMap_masked (tokens t) 0 i
  rwa [textOf_tokens, Nat.zero_add] at h

namespace Token

/-- The regions other than code among some tokens, with their offsets. -/
def regionsFrom (offset : Nat) (ts : List Token) : List (Nat × Token) :=
  (placed offset ts).filter fun region => region.2.kind != .code

def regions (t : Text) : List (Nat × Token) := regionsFrom 0 (tokens t)

theorem regionsFrom_cons_of_code {token : Token} (h : token.kind = .code) (offset : Nat)
    (ts : List Token) : regionsFrom offset (token :: ts) = regionsFrom (offset + token.size) ts := by
  rw [regionsFrom, placed_cons, List.filter_cons_of_neg (by simp [h]), regionsFrom]

theorem regionsFrom_cons {token : Token} (h : token.kind ≠ .code) (offset : Nat)
    (ts : List Token) :
    regionsFrom offset (token :: ts) =
      (offset, token) :: regionsFrom (offset + token.size) ts := by
  rw [regionsFrom, placed_cons, List.filter_cons_of_pos (by simpa using h), regionsFrom]

theorem regionsFrom_consCode (offset : Nat) (c : Char) (ts : List Token) :
    regionsFrom offset (consCode c ts) = regionsFrom (offset + c.utf8Size) ts := by
  unfold consCode
  split
  · rename_i text ts
    rw [regionsFrom_cons_of_code rfl, regionsFrom_cons_of_code rfl]
    simp only [Token.size, Text.size_cons, Nat.add_assoc]
  · rw [regionsFrom_cons_of_code rfl]
    simp only [Token.size, Text.size_cons, Text.size_nil, Nat.add_zero]

theorem regionsFrom_tokens_of_isBlank {b : Text} (h : Text.isBlank b = true) (offset : Nat)
    (t : Text) :
    regionsFrom offset (tokens (b ++ t)) = regionsFrom (offset + Text.size b) (tokens t) := by
  induction b generalizing offset with
  | nil => rfl
  | cons c b ih =>
    obtain ⟨hc, hb⟩ := Bool.and_eq_true_iff.mp
      (show (Character.isBlank c && Text.isBlank b) = true from h)
    rw [List.cons_append, tokens_of_code (region?_cons_of_isBlank hc _), regionsFrom_consCode,
      ih hb, Text.size_cons, Nat.add_assoc]

/-- The regions of a masked text are those of the text that are no comments. -/
theorem regionsFrom_tokens_mask (t : Text) (offset : Nat) :
    regionsFrom offset (tokens (mask t)) =
      (regionsFrom offset (tokens t)).filter fun region => !region.2.isComment := by
  induction t using tokens.induct generalizing offset with
  | case1 => rw [mask_nil, tokens_nil]; rfl
  | case2 c t token rest h ih =>
    have hk := kind_ne_code_of_region? h
    rw [tokens_of_region h, regionsFrom_cons hk]
    cases hc : token.isComment with
    | true =>
      rw [mask_of_region h, regionsFrom_tokens_of_isBlank (token.isBlank_masked hc),
        token.size_masked, ih, List.filter_cons_of_neg (by simp [hc])]
    | false =>
      rw [tokens_of_region (region?_mask h hc), regionsFrom_cons hk, ih,
        List.filter_cons_of_pos (by simp [hc])]
  | case3 c t h ih =>
    rw [mask_cons_of_code h, tokens_of_code (region?_cons_mask h), tokens_of_code h,
      regionsFrom_consCode, regionsFrom_consCode, ih]

theorem regions_mask (t : Text) :
    regions (mask t) = (regions t).filter fun region => !region.2.isComment :=
  regionsFrom_tokens_mask t 0

theorem isComment_of_mem_tokens_mask {t : Text} {token : Token} (h : token ∈ tokens (mask t)) :
    token.isComment = false := by
  cases hc : token.isComment with
  | false => rfl
  | true =>
    have hk : token.kind ≠ .code := by
      intro hcode
      rw [isComment, hcode] at hc
      cases hc
    rw [← map_snd_placed 0 (tokens (mask t))] at h
    obtain ⟨⟨offset, other⟩, hplaced, rfl⟩ := List.mem_map.mp h
    have hregion : (offset, other) ∈ regions (mask t) :=
      List.mem_filter.mpr ⟨hplaced, by simpa using hk⟩
    rw [regions_mask] at hregion
    have hkept := (List.mem_filter.mp hregion).2
    simp [hc] at hkept

/-- A literal or quoted name, a name in brackets, or a terminator. -/
def isFixture (token : Token) : Bool :=
  match token.kind with
  | .quoted _ | .bracketed | .terminator => true
  | .code | .lineComment | .blockComment => false

theorem isFixture_eq (token : Token) :
    token.isFixture = (!token.isComment && token.kind != .code) := by
  obtain ⟨kind, text⟩ := token
  cases kind <;> rfl

def fixtures (t : Text) : List (Nat × Token) :=
  (placed 0 (tokens t)).filter fun region => region.2.isFixture

theorem fixtures_eq (t : Text) :
    fixtures t = (regions t).filter fun region => !region.2.isComment := by
  rw [fixtures, regions, regionsFrom, List.filter_filter]
  exact List.filter_congr fun region _ => isFixture_eq region.2

theorem fixtures_mask (t : Text) : fixtures (mask t) = fixtures t := by
  rw [fixtures_eq, fixtures_eq, regions_mask, List.filter_filter]
  exact List.filter_congr fun region _ => Bool.and_self _

end Token

/-- What a text and its masked form have in common. -/
structure KeepsSkeleton (t : Text) : Prop where
  length : (Text.bytes (mask t)).length = (Text.bytes t).length
  outside : ∀ i, ¬ CommentAt (spans t) i → (Text.bytes (mask t))[i]? = (Text.bytes t)[i]?
  /-- Of the bytes of comments, line breaks are copied and all others become spaces. -/
  inside : ∀ i, CommentAt (spans t) i →
    ∃ b, (Text.bytes t)[i]? = some b ∧ (Text.bytes (mask t))[i]? = some (blankByte b)
  no_comment : ∀ token ∈ tokens (mask t), token.isComment = false
  in_place : fixtures (mask t) = fixtures t
  stable : mask (mask t) = mask t
  current : mask (Statement.current t) = Statement.current (mask t)
  containing : ∀ offset,
    let statement := Statement.containing t offset
    let masked := Statement.containing (mask t) offset
    masked.start = statement.start ∧ masked.stop = statement.stop ∧
      masked.text = mask statement.text

theorem Token.stop_le_of_mem_spansFrom {offset : Nat} {ts : List Token} {span : Span}
    (h : span ∈ spansFrom offset ts) : span.stop ≤ offset + Text.size (textOf ts) := by
  induction ts generalizing offset with
  | nil => cases h
  | cons token ts ih =>
    rw [textOf_cons, Text.size_append, ← Nat.add_assoc]
    rcases List.mem_cons.mp h with rfl | h
    · exact Nat.le_add_right _ _
    · exact ih h

theorem exists_getElem?_of_commentAt {t : Text} {i : Nat} (h : CommentAt (spans t) i) :
    ∃ b, (Text.bytes t)[i]? = some b := by
  obtain ⟨span, hmem, _, _, hi⟩ := h
  have hstop := Token.stop_le_of_mem_spansFrom hmem
  rw [textOf_tokens, Nat.zero_add, ← Text.length_bytes] at hstop
  exact ⟨_, List.getElem?_eq_getElem (by omega)⟩

/-- Masking blanks comments and keeps everything else where it is. -/
theorem keepsSkeleton (t : Text) : KeepsSkeleton t where
  length := by rw [Text.length_bytes, Text.length_bytes, size_mask]
  outside i h := by rw [getElem?_bytes_mask, if_neg h]
  inside i h := by
    obtain ⟨b, hb⟩ := exists_getElem?_of_commentAt h
    exact ⟨b, hb, by rw [getElem?_bytes_mask, if_pos h, hb, Option.map_some]⟩
  no_comment _ h := isComment_of_mem_tokens_mask h
  in_place := fixtures_mask t
  stable := mask_mask t
  current := (Statement.current_mask t).symm
  containing offset := by
    intro statement masked
    have hmasked : masked = statement.masked := Statement.containing_mask t offset
    rw [hmasked, Statement.stop_masked]
    exact ⟨rfl, rfl, rfl⟩

example : mask "a/*-*/'b--'-- ü\n[c]".toList = "a     'b--'     \n[c]".toList := by cbv

end SqlAssist
