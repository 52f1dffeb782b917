import SqlAssist.Proofs.Statement.Segments
import SqlAssist.Proofs.Token.Decomposition
import SqlAssist.Script

/-! # Scanning a masked text

Masking turns comments into as much white space, which is code, and leaves every other region in its
place: no region begins, ends or disappears where a comment was. So a masked text has nothing left to
mask (`mask_mask`), and it has the terminators of the text, which makes masking a script the same as
masking each of its segments (`texts_mask`). -/
namespace SqlAssist

open Character Token

theorem size_flatMap_blankOut (t : Text) : Text.size (t.flatMap blankOut) = Text.size t := by
  induction t with
  | nil => rfl
  | cons c t ih => rw [List.flatMap_cons, Text.size_append, size_blankOut, ih, Text.size_cons]

theorem Token.size_masked (token : Token) : Text.size token.masked = token.size := by
  unfold Token.masked
  split
  · exact size_flatMap_blankOut token.text
  · rfl

theorem size_flatMap_masked (ts : List Token) :
    Text.size (ts.flatMap Token.masked) = Text.size (textOf ts) := by
  induction ts with
  | nil => rfl
  | cons token ts ih =>
    rw [List.flatMap_cons, Text.size_append, token.size_masked, ih, textOf_cons, Text.size_append]
    rfl

/-- Masking keeps the number of bytes. -/
theorem size_mask (t : Text) : Text.size (mask t) = Text.size t := by
  rw [mask, size_flatMap_masked, textOf_tokens]

theorem flatMap_masked_consCode (c : Char) (ts : List Token) :
    (consCode c ts).flatMap Token.masked = c :: ts.flatMap Token.masked := by
  unfold consCode
  split <;> simp [Token.masked, Token.isComment, TokenKind.isComment]

theorem mask_cons_of_code {c : Char} {t : Text} (h : region? (c :: t) = none) :
    mask (c :: t) = c :: mask t := by
  rw [mask, tokens_of_code h, flatMap_masked_consCode, mask]

theorem region?_cons_of_isBlank {c : Char} (h : isBlank c = true) (t : Text) :
    region? (c :: t) = none := by
  have hne (d : Char) (hd : isBlank d = false) : c ≠ d := by
    rintro rfl
    rw [h] at hd
    cases hd
  have hdash := hne '-' (by decide)
  have hslash := hne '/' (by decide)
  rw [region?_eq_none_iff, opening?_cons_eq_none_iff]
  refine ⟨⟨hne _ (by decide), hne _ (by decide), hne _ (by decide), hne _ (by decide)⟩, ?_, ?_⟩
  · exact fun hp => hdash (List.cons_prefix_cons.mp hp).1.symm
  · exact fun hp => hslash (List.cons_prefix_cons.mp hp).1.symm

theorem mask_of_isBlank {t : Text} (h : Text.isBlank t = true) : mask t = t := by
  induction t with
  | nil => simp [mask]
  | cons c t ih =>
    obtain ⟨hc, ht⟩ := Bool.and_eq_true_iff.mp (show (isBlank c && Text.isBlank t) = true from h)
    rw [mask_cons_of_code (region?_cons_of_isBlank hc t), ih ht]

@[simp] theorem mask_nil : mask [] = [] := by simp [mask]

theorem mask_of_region {t rest : Text} {token : Token} (h : region? t = some (token, rest)) :
    mask t = token.masked ++ mask rest := by
  rw [mask, tokens_of_region h, List.flatMap_cons, mask]

theorem isBlank_of_mem_blankOut {c d : Char} (h : d ∈ blankOut c) : isBlank d = true := by
  unfold blankOut at h
  split at h
  · rename_i hc
    obtain rfl := List.mem_singleton.mp h
    rcases hc with rfl | rfl <;> decide
  · rw [List.eq_of_mem_replicate h]
    exact isBlank_space

/-- What stands in the place of a comment is white space. -/
theorem Token.isBlank_masked {token : Token} (h : token.isComment = true) :
    Text.isBlank token.masked = true := by
  rw [Token.masked, if_pos h]
  refine List.all_eq_true.mpr fun d hd => ?_
  obtain ⟨c, _, hc⟩ := List.mem_flatMap.mp hd
  exact isBlank_of_mem_blankOut hc

theorem Token.masked_of_not_isComment {token : Token} (h : token.isComment = false) :
    token.masked = token.text := by
  rw [Token.masked, if_neg (by simp [h])]

theorem mask_append_of_isBlank {b : Text} (h : Text.isBlank b = true) (t : Text) :
    mask (b ++ t) = b ++ mask t := by
  induction b with
  | nil => rfl
  | cons c b ih =>
    obtain ⟨hc, hb⟩ := Bool.and_eq_true_iff.mp (show (isBlank c && Text.isBlank b) = true from h)
    rw [List.cons_append, mask_cons_of_code (region?_cons_of_isBlank hc _), ih hb,
      List.cons_append]

theorem Statement.texts_append_of_isBlank {b : Text} (h : Text.isBlank b = true) (t : Text) :
    texts (b ++ t) = (texts t).modifyHead (b ++ ·) := by
  induction b with
  | nil =>
    obtain ⟨first, others, ht⟩ := exists_texts_cons t
    rw [List.nil_append, ht]
    rfl
  | cons c b ih =>
    obtain ⟨hc, hb⟩ := Bool.and_eq_true_iff.mp (show (isBlank c && Text.isBlank b) = true from h)
    rw [List.cons_append, texts_of_code (region?_cons_of_isBlank hc _), ih hb,
      List.modifyHead_modifyHead]
    rfl

theorem Token.head?_masked_of_isComment {token : Token} {rest : Text} (h : token.isComment = true)
    (hs : HasShape token.kind token.text rest) : token.masked.head? = some ' ' := by
  rw [Token.masked, if_pos h]
  obtain ⟨kind, text⟩ := token
  cases kind with
  | lineComment =>
    obtain ⟨tail, rfl, _⟩ := hs
    rfl
  | blockComment =>
    obtain ⟨tail, rfl, _⟩ := hs
    rfl
  | code | quoted | bracketed | terminator => cases h

/-- A masked text begins as the text does, or with a space in the place of a comment. -/
theorem head?_mask (t : Text) : (mask t).head? = t.head? ∨ (mask t).head? = some ' ' := by
  cases t with
  | nil => exact Or.inl (by rw [mask_nil])
  | cons c t =>
    cases h : region? (c :: t) with
    | none => exact Or.inl (by rw [mask_cons_of_code h]; rfl)
    | some found =>
      obtain ⟨token, rest⟩ := found
      rw [mask_of_region h]
      cases hc : token.isComment with
      | true =>
        have hhead := token.head?_masked_of_isComment hc (hasShape_of_region? h)
        exact Or.inr (by rw [List.head?_append, hhead, Option.some_or])
      | false =>
        have hne := region?_text_ne_nil h
        rw [token.masked_of_not_isComment hc, ← region?_append h, List.head?_append_of_ne_nil _ hne,
          List.head?_append_of_ne_nil _ hne]
        exact Or.inl rfl

/-- A region other than code and comments ends in front of a masked text where it ends in front of
the text. -/
theorem Token.hasShape_mask {kind : TokenKind} {text rest : Text} (hk : kind ≠ .code)
    (hc : kind.isComment = false) (h : HasShape kind text rest) :
    HasShape kind text (mask rest) := by
  cases kind with
  | code => exact absurd rfl hk
  | quoted quote =>
    obtain ⟨tail, rfl, ⟨body, rfl, hb, hhead⟩ | ⟨rfl, hnone⟩⟩ := h
    · refine ⟨_, rfl, Or.inl ⟨body, rfl, hb, ?_⟩⟩
      rcases head?_mask rest with hsame | hspace
      · rw [hsame]
        exact hhead
      · rw [hspace]
        cases quote <;> decide
    · exact ⟨tail, rfl, Or.inr ⟨mask_nil, hnone⟩⟩
  | bracketed =>
    obtain ⟨tail, rfl, hclosed | ⟨rfl, hnone⟩⟩ := h
    · exact ⟨tail, rfl, Or.inl hclosed⟩
    · exact ⟨tail, rfl, Or.inr ⟨mask_nil, hnone⟩⟩
  | lineComment => cases hc
  | blockComment => cases hc
  | terminator => exact h

theorem region?_mask {t rest : Text} {token : Token} (h : region? t = some (token, rest))
    (hc : token.isComment = false) : region? (mask t) = some (token, mask rest) := by
  obtain ⟨hk, _, hs⟩ := region?_eq_some_iff.mp h
  rw [mask_of_region h, token.masked_of_not_isComment hc]
  exact region?_eq_some_iff.mpr ⟨hk, rfl, hasShape_mask hk hc hs⟩

theorem region?_cons_mask {c : Char} {t : Text} (h : region? (c :: t) = none) :
    region? (c :: mask t) = none := by
  rw [region?_eq_none_iff] at h ⊢
  rcases head?_mask t with hsame | hspace
  · rw [opening?_congr hsame, h]
  · obtain ⟨u, hu⟩ := List.head?_eq_some_iff.mp hspace
    rw [opening?_cons_eq_none_iff] at h ⊢
    refine ⟨h.1, ?_, ?_⟩ <;> simp [hu]

/-- A masked text has no comments. -/
theorem mask_mask (t : Text) : mask (mask t) = mask t := by
  induction t using tokens.induct with
  | case1 => rw [mask_nil, mask_nil]
  | case2 c t token rest h ih =>
    cases hc : token.isComment with
    | true => rw [mask_of_region h, mask_append_of_isBlank (token.isBlank_masked hc), ih]
    | false => rw [mask_of_region (region?_mask h hc), ih, mask_of_region h]
  | case3 c t h ih => rw [mask_cons_of_code h, mask_cons_of_code (region?_cons_mask h), ih]

namespace Statement

/-- The first segment of a text, behind a region, is masked as the text is. -/
theorem mask_append_first {t rest first : Text} {token : Token} {others : List Text}
    (h : region? t = some (token, rest)) (hrest : texts rest = first :: others) :
    mask (token.text ++ first) = token.masked ++ mask first :=
  mask_of_region (region?_append_first h hrest)

/-- Masking a script masks each of its segments. -/
theorem texts_mask (t : Text) : texts (mask t) = (texts t).map mask := by
  induction t using tokens.induct with
  | case1 => rw [mask_nil, texts_nil, List.map_singleton, mask_nil]
  | case2 c t token rest h ih =>
    obtain ⟨first, others, hrest⟩ := exists_texts_cons rest
    rw [hrest, List.map_cons] at ih
    cases ht : token.isTerminator with
    | true =>
      have hc : token.isComment = false := by
        rw [isTerminator, beq_iff_eq] at ht
        rw [isComment, ht]
        rfl
      rw [texts_of_terminator (region?_mask h hc) ht, texts_of_terminator h ht, ih, hrest,
        List.map_cons, List.map_cons, mask_nil]
    | false =>
      rw [texts_of_other h ht, hrest, List.modifyHead_cons, List.map_cons,
        mask_append_first h hrest]
      cases hc : token.isComment with
      | true =>
        rw [mask_of_region h, texts_append_of_isBlank (token.isBlank_masked hc), ih,
          List.modifyHead_cons]
      | false =>
        rw [texts_of_other (region?_mask h hc) ht, ih, List.modifyHead_cons,
          token.masked_of_not_isComment hc]
  | case3 c t h ih =>
    obtain ⟨first, others, ht⟩ := exists_texts_cons t
    rw [ht, List.map_cons] at ih
    rw [mask_cons_of_code h, texts_of_code (region?_cons_mask h), ih, texts_of_code h, ht,
      List.modifyHead_cons, List.modifyHead_cons, List.map_cons,
      mask_cons_of_code (region?_cons_first h ht)]

def masked (statement : Statement) : Statement := ⟨mask statement.text, statement.start⟩

theorem stop_masked (statement : Statement) : statement.masked.stop = statement.stop := by
  simp only [stop, masked, size_mask]

theorem place_map_mask (start : Nat) (l : List Text) :
    place start (l.map mask) = (place start l).map masked := by
  induction l generalizing start with
  | nil => rfl
  | cons t l ih => rw [List.map_cons, place, place, List.map_cons, size_mask, ih, masked]

/-- The segments of a masked script are the masked segments. -/
theorem segments_mask (script : Text) :
    segments (mask script) = (segments script).map masked := by
  rw [segments_eq_place, texts_mask, place_map_mask, segments_eq_place]

end Statement

end SqlAssist
