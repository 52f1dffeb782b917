import SqlAssist.Proofs.Mask.Scan
import SqlAssist.Proofs.Position
import SqlAssist.Proofs.Statement.Placement
import SqlAssist.Text

/-! # Offsets of a masked text

Masking replaces characters one by one, each by itself or by as much white space as it has bytes. So
an offset at the edge of a character that is not white space names the same place in a text and in the
masked text, and with ASCII comments even lines and columns stay. Where the cursor does not stand
inside a comment, the statement being typed and the statement around the cursor are, in the masked
document, the masked ones. -/
namespace SqlAssist

open Character Token

/-- The offset lies inside a comment of the text, not at one of its ends. -/
def InsideComment (t : Text) (offset : Nat) : Prop :=
  ∃ span ∈ spans t, span.kind.isComment = true ∧ span.start < offset ∧ offset < span.stop

instance (t : Text) (offset : Nat) : Decidable (InsideComment t offset) :=
  inferInstanceAs (Decidable (∃ span ∈ spans t,
    span.kind.isComment = true ∧ span.start < offset ∧ offset < span.stop))

namespace Token

/-- A character of code in front of tokens moves all of them but the code it joins. -/
theorem mem_spansFrom_consCode {offset : Nat} {c : Char} {ts : List Token} {span : Span}
    (h : span ∈ spansFrom (offset + c.utf8Size) ts) (hk : span.kind ≠ .code) :
    span ∈ spansFrom offset (consCode c ts) := by
  unfold consCode
  split
  · rename_i text ts
    rw [spansFrom_cons] at h ⊢
    rcases List.mem_cons.mp h with rfl | h
    · exact absurd rfl hk
    · refine List.mem_cons_of_mem _ ?_
      rwa [Nat.add_assoc] at h
  · rw [spansFrom_cons]
    exact List.mem_cons_of_mem _ h

end Token

theorem mask_eq_self {x : Text} {only : Token} (h : tokens x = [only])
    (hc : only.isComment = false) : mask x = x := by
  have htext := textOf_tokens x
  rw [h, textOf_cons, textOf_nil, List.append_nil] at htext
  rw [mask, h, List.flatMap_singleton, only.masked_of_not_isComment hc, htext]

/-- A region that goes on behind the place is masked in front of it as the text that ends there,
unless it is a comment. -/
theorem exists_mask_append_of_region {x y z rest : Text} {token only : Token}
    (h : region? (x ++ y) = some (token, rest)) (htext : token.text = x ++ z)
    (honly : tokens x = [only]) (hkind : only.kind = .code ∨ only.kind = token.kind)
    (hend : token.isComment = true → z = []) : ∃ z, mask (x ++ y) = mask x ++ z := by
  cases hc : token.isComment with
  | true =>
    rw [hend hc, List.append_nil] at htext
    have hone : region? x = some (token, []) := by
      obtain ⟨hk, _, hs⟩ := region?_eq_some_iff.mp h
      exact region?_eq_some_iff.mpr ⟨hk, by rw [htext, List.append_nil], hs.nil⟩
    refine ⟨mask rest, ?_⟩
    rw [mask_of_region h, mask_of_region hone, mask_nil, List.append_nil]
  | false =>
    have hnot : only.isComment = false := by
      rcases hkind with hcode | hsame
      · rw [isComment, hcode]
        rfl
      · rwa [isComment, hsame]
    refine ⟨z ++ mask rest, ?_⟩
    rw [mask_of_region h, token.masked_of_not_isComment hc, htext, mask_eq_self honly hnot,
      List.append_assoc]

/-- Masking looks only at what stands before a place that is not inside a comment. Offsets count
from `start`, where the text begins. -/
theorem exists_mask_append_from {x y : Text} (start : Nat)
    (h : ∀ span ∈ spansFrom start (tokens (x ++ y)), span.kind.isComment = true →
      ¬ (span.start < start + Text.size x ∧ start + Text.size x < span.stop)) :
    ∃ z, mask (x ++ y) = mask x ++ z := by
  induction hn : x.length using Nat.strongRecOn generalizing x start with
  | ind n ih =>
    cases x with
    | nil => exact ⟨mask y, by rw [mask_nil, List.nil_append, List.nil_append]⟩
    | cons c x =>
      have hx : c :: x ≠ [] := List.cons_ne_nil c x
      rcases region?_append_cases hx y with hnone | ⟨token, rest, hfirst, hboth⟩ | hswallow
      · have hopen : region? (c :: x) = none := region?_eq_none_of_append hnone
        rw [List.cons_append] at h hnone ⊢
        rw [tokens_of_code hnone] at h
        have hrest : ∃ z, mask (x ++ y) = mask x ++ z := by
          refine ih x.length (by simp at hn; omega) (start + c.utf8Size) ?_ rfl
          intro span hmem hc
          have hk : span.kind ≠ .code := by
            intro hcode
            rw [hcode] at hc
            cases hc
          have hspan := h span (mem_spansFrom_consCode hmem hk) hc
          rwa [Text.size_cons, ← Nat.add_assoc] at hspan
        obtain ⟨z, hz⟩ := hrest
        exact ⟨z, by rw [mask_cons_of_code hnone, mask_cons_of_code hopen, hz, List.cons_append]⟩
      · have hsize : Text.size (c :: x) = token.size + Text.size rest := by
          rw [← region?_append hfirst, Text.size_append, Token.size]
        rw [tokens_of_region hboth, spansFrom_cons] at h
        have hrest : ∃ z, mask (rest ++ y) = mask rest ++ z := by
          have hlength := region?_length hfirst
          refine ih rest.length (by omega) (start + token.size) ?_ rfl
          intro span hmem hc
          have hspan := h span (List.mem_cons_of_mem _ hmem) hc
          rwa [hsize, ← Nat.add_assoc] at hspan
        obtain ⟨z, hz⟩ := hrest
        exact ⟨z, by rw [mask_of_region hboth, mask_of_region hfirst, hz, List.append_assoc]⟩
      · obtain ⟨token, rest, z, hboth, htext, _, only, honly, hkind⟩ := hswallow
        refine exists_mask_append_of_region hboth htext honly hkind fun hc => ?_
        by_contra hne
        have hpos := Text.size_pos_of_ne_nil hne
        have hfront := Text.size_pos_of_ne_nil hx
        rw [tokens_of_region hboth, spansFrom_cons] at h
        apply h _ List.mem_cons_self hc
        simp only [Token.size, htext, Text.size_append]
        omega

theorem exists_mask_append {x y : Text} (h : ¬ InsideComment (x ++ y) (Text.size x)) :
    ∃ z, mask (x ++ y) = mask x ++ z := by
  refine exists_mask_append_from 0 fun span hmem hc hinside => h ?_
  rw [Nat.zero_add] at hinside
  exact ⟨span, hmem, hc, hinside⟩

namespace Statement

theorem current_mask (t : Text) : current (mask t) = mask (current t) :=
  current_of_texts_map (texts_mask t)

theorem containing_mask (t : Text) (offset : Nat) :
    containing (mask t) offset = (containing t offset).masked := by
  have hfirst : (⟨(pieces (tokens (mask t))).1, 0⟩ : Statement) =
      masked ⟨(pieces (tokens t)).1, 0⟩ := by
    rw [masked, (List.cons.inj (texts_mask t)).1]
  change ((segments (mask t)).find? fun statement =>
      min offset (Text.size (mask t)) ≤ statement.stop).getD
    ((segments (mask t)).getLastD ⟨(pieces (tokens (mask t))).1, 0⟩) =
    masked (((segments t).find? fun statement => min offset (Text.size t) ≤ statement.stop).getD
      ((segments t).getLastD ⟨(pieces (tokens t)).1, 0⟩))
  have hstop : ((fun statement : Statement => decide (min offset (Text.size t) ≤ statement.stop)) ∘
      masked) = fun statement => decide (min offset (Text.size t) ≤ statement.stop) := by
    funext statement
    rw [Function.comp_apply, stop_masked]
  rw [segments_mask, size_mask, hfirst, List.find?_map, hstop, List.getLastD_eq_getLast?,
    List.getLastD_eq_getLast?, List.getLast?_map, Option.getD_map, Option.getD_map]

end Statement

/-- The second text has, for each character of the first, the character or what blanks it out. -/
inductive Blanked : Text → Text → Prop where
  | nil : Blanked [] []
  | keep (c : Char) {t u : Text} (tail : Blanked t u) : Blanked (c :: t) (c :: u)
  | blank (c : Char) {t u : Text} (tail : Blanked t u) : Blanked (c :: t) (blankOut c ++ u)

namespace Blanked

theorem append_left (s : Text) {t u : Text} (h : Blanked t u) : Blanked (s ++ t) (s ++ u) := by
  induction s with
  | nil => exact h
  | cons c s ih => exact .keep c ih

theorem append_blankOut (s : Text) {t u : Text} (h : Blanked t u) :
    Blanked (s ++ t) (s.flatMap blankOut ++ u) := by
  induction s with
  | nil => exact h
  | cons c s ih =>
    rw [List.flatMap_cons, List.append_assoc]
    exact .blank c ih

theorem flatMap_masked (ts : List Token) : Blanked (textOf ts) (ts.flatMap Token.masked) := by
  induction ts with
  | nil => exact .nil
  | cons token ts ih =>
    rw [textOf_cons, List.flatMap_cons]
    cases hc : token.isComment with
    | true =>
      rw [Token.masked, if_pos hc]
      exact ih.append_blankOut token.text
    | false =>
      rw [token.masked_of_not_isComment hc]
      exact ih.append_left token.text

/-- White space that blanks out a character does not reach past the next other character. -/
theorem exists_of_isBlank_append {b u x y : Text} {c : Char} (hb : ∀ d ∈ b, isBlank d = true)
    (hc : isBlank c = false) (h : b ++ u = x ++ c :: y) : ∃ z, x = b ++ z ∧ u = z ++ c :: y := by
  rcases List.append_eq_append_iff.mp h with ⟨z, hx, hu⟩ | ⟨z, hb', hz⟩
  · exact ⟨z, hx, hu⟩
  · cases z with
    | nil => exact ⟨[], by simp [hb'], by simpa using hz.symm⟩
    | cons d z =>
      obtain ⟨rfl, _⟩ := List.cons.inj hz
      have hblank := hb c (by simp [hb'])
      rw [hc] at hblank
      cases hblank

/-- A character other than white space stands in both texts, as many bytes behind the beginning. -/
theorem exists_of_not_isBlank {t x y : Text} {c : Char} (h : Blanked t (x ++ c :: y))
    (hc : isBlank c = false) : ∃ x' y', t = x' ++ c :: y' ∧ Text.size x' = Text.size x := by
  generalize hu : x ++ c :: y = u at h
  induction h generalizing x with
  | nil => simp at hu
  | @keep d t u tail ih =>
    cases x with
    | nil =>
      obtain ⟨rfl, rfl⟩ := List.cons.inj hu
      exact ⟨[], t, rfl, rfl⟩
    | cons e x =>
      obtain ⟨rfl, rfl⟩ := List.cons.inj hu
      obtain ⟨x', y', rfl, hsize⟩ := ih rfl
      exact ⟨e :: x', y', rfl, by simp [hsize]⟩
  | @blank d t u tail ih =>
    have hblank : ∀ e ∈ blankOut d, isBlank e = true := fun e => isBlank_of_mem_blankOut
    obtain ⟨z, rfl, rfl⟩ := exists_of_isBlank_append hblank hc hu.symm
    obtain ⟨x', y', rfl, hsize⟩ := ih rfl
    exact ⟨d :: x', y', rfl, by rw [Text.size_cons, Text.size_append, size_blankOut, hsize]⟩

end Blanked

theorem blanked_mask (t : Text) : Blanked t (mask t) := by
  have h := Blanked.flatMap_masked (tokens t)
  rwa [textOf_tokens] at h

/-- What masking left of a text can be found in it between the same offsets. -/
theorem isBoundary_of_isSlice_mask {t name : Text} {start stop : Nat}
    (h : Text.IsSlice (mask t) start stop name) (hname : Text.IsTight name) :
    Text.IsBoundary t start ∧ Text.IsBoundary t stop := by
  obtain ⟨x, y, hmask, rfl, rfl⟩ := h
  obtain ⟨⟨c, rest, hfirst, hc⟩, init, d, hlast, hd⟩ := hname
  have halign := blanked_mask t
  rw [hmask] at halign
  constructor
  · rw [hfirst, List.append_assoc, List.cons_append] at halign
    obtain ⟨x', y', ht, hsize⟩ := halign.exists_of_not_isBlank hc
    exact ⟨x', c :: y', ht, hsize⟩
  · have hsplit : x ++ name ++ y = (x ++ init) ++ d :: y := by
      rw [hlast]
      simp
    rw [hsplit] at halign
    obtain ⟨x', y', ht, hsize⟩ := halign.exists_of_not_isBlank hd
    refine ⟨x' ++ [d], y', by rw [ht]; simp, ?_⟩
    rw [hlast, Text.size_append, hsize, Text.size_append, Text.size_append]
    omega

/-- Whether every comment of a text is ASCII. -/
def commentsAreAscii (t : Text) : Bool :=
  (tokens t).all fun token => !token.isComment || Text.isAscii token.text

theorem utf8Size_eq_one_of_lt {c : Char} (h : c.toNat < 128) : c.utf8Size = 1 := by
  have hval : c.val.toNat < 128 := h
  have hmax : (127 : UInt32).toNat = 127 := rfl
  rw [Char.utf8Size_eq_one_iff, UInt32.le_iff_toNat_le]
  omega

theorem forall₂_blankOut {c : Char} (h : c.toNat < 128) :
    List.Forall₂ SameStep [c] (blankOut c) := by
  have hone := utf8Size_eq_one_of_lt h
  unfold blankOut
  split
  · exact .cons (.refl c) .nil
  · rename_i hne
    have hnewline : c ≠ '\n' := fun heq => hne (Or.inl heq)
    rw [hone]
    exact .cons ⟨by rw [hone]; rfl, by simp [hnewline]⟩ .nil

theorem forall₂_flatMap_blankOut {t : Text} (h : Text.isAscii t = true) :
    List.Forall₂ SameStep t (t.flatMap blankOut) := by
  induction t with
  | nil => exact .nil
  | cons c t ih =>
    obtain ⟨hc, ht⟩ := Bool.and_eq_true_iff.mp
      (show (decide (c.toNat < 128) && Text.isAscii t) = true from h)
    rw [List.flatMap_cons]
    exact List.rel_append (forall₂_blankOut (by simpa using hc)) (ih ht)

theorem forall₂_flatMap_masked {ts : List Token}
    (h : ∀ token ∈ ts, token.isComment = true → Text.isAscii token.text = true) :
    List.Forall₂ SameStep (textOf ts) (ts.flatMap Token.masked) := by
  induction ts with
  | nil => exact .nil
  | cons token ts ih =>
    rw [textOf_cons, List.flatMap_cons]
    refine List.rel_append ?_ (ih fun other hmem => h other (by simp [hmem]))
    cases hc : token.isComment with
    | true =>
      rw [Token.masked, if_pos hc]
      exact forall₂_flatMap_blankOut (h token (by simp) hc)
    | false =>
      rw [token.masked_of_not_isComment hc]
      exact List.forall₂_same.mpr fun c _ => .refl c

/-- With ASCII comments a masked text has the characters of the text, step by step. -/
theorem forall₂_mask {t : Text} (h : commentsAreAscii t = true) :
    List.Forall₂ SameStep t (mask t) := by
  have hall : ∀ token ∈ tokens t, token.isComment = true → Text.isAscii token.text = true := by
    intro token hmem hc
    have hone := List.all_eq_true.mp h token hmem
    simpa [hc] using hone
  have hforall := forall₂_flatMap_masked hall
  rwa [textOf_tokens] at hforall

end SqlAssist
