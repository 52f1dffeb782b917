import SqlAssist.CommonTable
import SqlAssist.Proofs.LetterCase.Reading
import SqlAssist.Proofs.Statement.Segments
import SqlAssist.Script

/-! # Scanning without the case of ASCII letters

The regions of a script are told apart by signs alone, so the regions of a folded script are the
folded regions. Hence folding commutes with masking comments, with cutting a script into segments
and with looking for a closing parenthesis. -/
namespace SqlAssist

open Character Text

namespace Token

def folded (token : Token) : Token := ⟨token.kind, Text.folded token.text⟩

@[simp] theorem kind_folded (token : Token) : token.folded.kind = token.kind := rfl

@[simp] theorem text_folded (token : Token) : token.folded.text = Text.folded token.text := rfl

theorem closeQuote_folded {q : Char} (hq : q.isAlpha = false) (t : Text) :
    closeQuote q (Text.folded t) = Prod.map Text.folded Text.folded (closeQuote q t) := by
  fun_induction closeQuote q t with
  | case1 => rfl
  | case2 c => rfl
  | case3 t body rest hclose ih => simp_all [closeQuote]
  | case4 d t hd => simp_all [closeQuote]
  | case5 c d t hc body rest hclose ih => simp_all [closeQuote]

theorem closeBracket_folded (t : Text) :
    closeBracket (Text.folded t) = Prod.map Text.folded Text.folded (closeBracket t) := by
  fun_induction closeBracket t with
  | case1 => rfl
  | case2 t => simp_all [closeBracket]
  | case3 c t hc body rest hclose ih => simp_all [closeBracket]

theorem closeLine_folded (t : Text) :
    closeLine (Text.folded t) = Prod.map Text.folded Text.folded (closeLine t) := by
  obtain ⟨htake, hdrop⟩ := cut_folded (x := '\n') (by decide) t
  rw [closeLine, htake, hdrop, closeLine]
  rfl

theorem closeBlock_folded (t : Text) :
    closeBlock (Text.folded t) = Prod.map Text.folded Text.folded (closeBlock t) := by
  fun_induction closeBlock t with
  | case1 => rfl
  | case2 c => rfl
  | case3 c d t hclose => simp_all [closeBlock]
  | case4 c d t hclose body rest hrest ih => simp_all [closeBlock]

/-- Folding makes no sign that a region begins with. -/
theorem region?_folded_eq_none {t : Text} (h : region? t = none) :
    region? (Text.folded t) = none := by
  cases t with
  | nil => rfl
  | cons c t =>
    have hdash := startsWith_folded_iff (x := ['-', '-']) (forall_of_all (by decide)) (c :: t)
    have hstar := startsWith_folded_iff (x := ['/', '*']) (forall_of_all (by decide)) (c :: t)
    rw [region?_eq_none_iff, opening?_cons_eq_none_iff, ← hdash, ← hstar] at h
    rw [folded_cons, region?_eq_none_iff, opening?_cons_eq_none_iff]
    refine ⟨?_, h.2⟩
    simpa using h.1

theorem region?_folded (t : Text) :
    region? (Text.folded t) = (region? t).map (Prod.map folded Text.folded) := by
  cases hregion : region? t with
  | none => exact region?_folded_eq_none hregion
  | some found =>
    unfold region? at hregion
    split at hregion
    · obtain rfl := Option.some.inj hregion
      change region? ('\'' :: Text.folded _) = _
      rw [region?, closeQuote_folded (by decide)]
      rfl
    · obtain rfl := Option.some.inj hregion
      change region? ('"' :: Text.folded _) = _
      rw [region?, closeQuote_folded (by decide)]
      rfl
    · obtain rfl := Option.some.inj hregion
      change region? ('[' :: Text.folded _) = _
      rw [region?, closeBracket_folded]
      rfl
    · obtain rfl := Option.some.inj hregion
      change region? ('-' :: '-' :: Text.folded _) = _
      rw [region?, closeLine_folded]
      rfl
    · obtain rfl := Option.some.inj hregion
      change region? ('/' :: '*' :: Text.folded _) = _
      rw [region?, closeBlock_folded]
      rfl
    · obtain rfl := Option.some.inj hregion
      rfl
    · cases hregion

theorem consCode_folded (c : Char) (ts : List Token) :
    consCode c.toLower (ts.map folded) = (consCode c ts).map folded := by
  cases ts with
  | nil => rfl
  | cons token ts =>
    obtain ⟨kind, text⟩ := token
    cases kind <;> rfl

/-- The regions of a folded script are the folded regions. -/
theorem tokens_folded (t : Text) : tokens (Text.folded t) = (tokens t).map folded := by
  fun_induction tokens t with
  | case1 => simp
  | case2 c t token rest hregion ih =>
    have hfolded := region?_folded (c :: t)
    rw [hregion] at hfolded
    rw [tokens_of_region hfolded, ih]
    rfl
  | case3 c t hregion ih =>
    have hfolded : region? (c.toLower :: Text.folded t) = none := region?_folded_eq_none hregion
    rw [folded_cons, tokens_of_code hfolded, ih, consCode_folded]

theorem isComment_folded (token : Token) : token.folded.isComment = token.isComment := rfl

end Token

theorem blankOut_toLower (c : Char) : blankOut c.toLower = Text.folded (blankOut c) := by
  have hspaces : ∀ n : Nat, Text.folded (List.replicate n ' ') = List.replicate n ' ' := by
    intro n
    rw [Text.folded, List.map_replicate]
    rfl
  simp only [blankOut, utf8Size_toLower]
  split
  · rename_i hbreak
    rw [if_pos (by simpa using hbreak)]
    rfl
  · rename_i hother
    rw [if_neg (by simpa using hother), hspaces]

theorem Token.masked_folded (token : Token) : token.folded.masked = Text.folded token.masked := by
  unfold masked
  rw [isComment_folded]
  split
  · simp only [text_folded, Text.folded, List.map_flatMap, List.flatMap_map]
    exact List.flatMap_congr fun c _ => blankOut_toLower c
  · rfl

@[simp] theorem mask_folded (t : Text) : mask (Text.folded t) = Text.folded (mask t) := by
  rw [mask, Token.tokens_folded, mask, Text.folded, List.map_flatMap, List.flatMap_map]
  exact List.flatMap_congr fun token _ => token.masked_folded

namespace Statement

def folded (statement : Statement) : Statement := ⟨Text.folded statement.text, statement.start⟩

theorem textsOf_folded (ts : List Token) :
    textsOf (ts.map Token.folded) = (textsOf ts).map Text.folded := by
  induction ts with
  | nil => rfl
  | cons token ts ih =>
    cases hterminator : token.isTerminator with
    | true =>
      have hfolded : token.folded.isTerminator = true := hterminator
      rw [List.map_cons, textsOf_cons_terminator hfolded, textsOf_cons_terminator hterminator, ih]
      rfl
    | false =>
      have hfolded : token.folded.isTerminator = false := hterminator
      rw [List.map_cons, textsOf_cons_other hfolded, textsOf_cons_other hterminator, ih]
      simp [textsOf]

theorem place_map_folded (start : Nat) (l : List Text) :
    place start (l.map Text.folded) = (place start l).map folded := by
  induction l generalizing start with
  | nil => rfl
  | cons t l ih => simp [place, ih, folded]

/-- The segments of a folded script are the folded segments, in the same places. -/
theorem segments_folded (script : Text) :
    segments (Text.folded script) = (segments script).map folded := by
  rw [segments_eq_place, segments_eq_place, texts, Token.tokens_folded, textsOf_folded,
    place_map_folded, texts]

end Statement

namespace Parenthesis

theorem marked_folded (ts : List Token) :
    marked (ts.map Token.folded) = (marked ts).map (Prod.map Char.toLower id) := by
  simp only [marked, List.flatMap_map, List.map_flatMap, Token.text_folded, Token.kind_folded,
    Text.folded, List.map_map]
  rfl

theorem fromClosing_folded (depth : Nat) (chars : List (Char × Bool)) :
    fromClosing depth (chars.map (Prod.map Char.toLower id)) =
      (fromClosing depth chars).map (List.map (Prod.map Char.toLower id)) := by
  have hopening (c : Char) : (c.toLower == '(') = (c == '(') := toLower_beq (by decide) c
  have hclosing (c : Char) : (c.toLower == ')') = (c == ')') := toLower_beq (by decide) c
  fun_induction fromClosing depth chars with
  | case1 => rfl
  | case2 depth c inCode rest hopen ih =>
    rw [List.map_cons, Prod.map_apply, id_eq, fromClosing, hopening, if_pos hopen, ih]
  | case3 depth c inCode rest hopen hclose hdepth =>
    rw [List.map_cons, Prod.map_apply, id_eq, fromClosing, hopening, hclosing, if_neg hopen,
      if_pos hclose, if_pos hdepth]
    rfl
  | case4 depth c inCode rest hopen hclose hdepth ih =>
    rw [List.map_cons, Prod.map_apply, id_eq, fromClosing, hopening, hclosing, if_neg hopen,
      if_pos hclose, if_neg hdepth, ih]
  | case5 depth c inCode rest hopen hclose ih =>
    rw [List.map_cons, Prod.map_apply, id_eq, fromClosing, hopening, hclosing, if_neg hopen,
      if_neg hclose, ih]

@[simp] theorem closing?_folded (t : Text) :
    closing? (Text.folded t) = (closing? t).map Text.folded := by
  rw [closing?, Token.tokens_folded, marked_folded, fromClosing_folded, closing?, Option.map_map,
    Option.map_map]
  refine congrArg (Option.map · _) (funext fun chars => ?_)
  simp [Text.folded, Function.comp_def]

end Parenthesis

end SqlAssist
