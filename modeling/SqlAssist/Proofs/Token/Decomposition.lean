import Mathlib.Data.List.Chain
import SqlAssist.Proofs.Text
import SqlAssist.Proofs.Token.Shape

/-! # The one decomposition of a text

A list of tokens is shaped when each of them has the shape of its kind in front of those behind it
and code is never cut in two. The scanner's list is shaped, and a shaped list is what the scanner
makes of its own text, so the shapes alone determine the regions of a text. The same is true of
offsets: spans that tile a text and have the shapes of their kinds are the spans of its tokens. -/
namespace SqlAssist.Token

theorem opening?_cons_eq_none_iff {c : Char} {t : Text} :
    opening? (c :: t) = none ↔
      (c ≠ '\'' ∧ c ≠ '"' ∧ c ≠ '[' ∧ c ≠ ';') ∧
        ¬ ['-', '-'] <+: c :: t ∧ ¬ ['/', '*'] <+: c :: t := by
  unfold opening?
  split <;> simp_all [List.cons_prefix_cons]
  rename_i hdash hstar _
  refine ⟨?_, ?_⟩
  · rintro rfl ⟨s, rfl⟩
    exact hdash s rfl rfl
  · rintro rfl ⟨s, rfl⟩
    exact hstar s rfl rfl

theorem hasShape_code_cons {c : Char} {t after : Text} :
    HasShape .code (c :: t) after ↔
      opening? (c :: t ++ after) = none ∧ HasShape .code t after := by
  rw [List.cons_append, opening?_cons_eq_none_iff]
  constructor
  · rintro ⟨hchars, hparts⟩
    refine ⟨⟨hchars c (by simp), hparts (c :: t) (by simp) (List.suffix_refl _)⟩, ?_, ?_⟩
    · intro d hd
      exact hchars d (by simp [hd])
    · intro part hne hsuf
      exact hparts part hne (hsuf.trans (List.suffix_cons c t))
  · rintro ⟨⟨hc, hopen⟩, hchars, hparts⟩
    refine ⟨?_, ?_⟩
    · intro d hd
      rcases List.mem_cons.mp hd with rfl | hd
      · exact hc
      · exact hchars d hd
    · intro part hne hsuf
      rcases List.suffix_cons_iff.mp hsuf with rfl | hsuf
      · exact hopen
      · exact hparts part hne hsuf

theorem hasShape_code_nil (after : Text) : HasShape .code [] after := by
  refine ⟨by simp, ?_⟩
  intro part hne hsuf
  exact absurd (List.suffix_nil.mp hsuf) hne

def beginsWithCode (tokens : List Token) : Prop := tokens.head?.map Token.kind = some .code

/-- No token is empty, each has the shape of its kind in front of those behind it and then `after`,
and code does not follow code. -/
def Shaped (after : Text) : List Token → Prop
  | [] => True
  | token :: rest =>
    token.text ≠ [] ∧ HasShape token.kind token.text (textOf rest ++ after) ∧
      (token.kind = .code → ¬ beginsWithCode rest) ∧ Shaped after rest

theorem consCode_code (c : Char) (text : Text) (rest : List Token) :
    consCode c (⟨.code, text⟩ :: rest) = ⟨.code, c :: text⟩ :: rest := rfl

theorem consCode_of_not_beginsWithCode (c : Char) {tokens : List Token}
    (h : ¬ beginsWithCode tokens) : consCode c tokens = ⟨.code, [c]⟩ :: tokens := by
  unfold consCode
  split
  · exact absurd rfl h
  · rfl

theorem Shaped.consCode {c : Char} {ts : List Token} (h : Shaped [] ts)
    (hc : opening? (c :: textOf ts) = none) : Shaped [] (consCode c ts) := by
  by_cases hb : beginsWithCode ts
  · obtain ⟨token, rest, rfl⟩ : ∃ token rest, ts = token :: rest := by
      cases ts with
      | nil => cases hb
      | cons token rest => exact ⟨token, rest, rfl⟩
    obtain ⟨kind, text⟩ := token
    obtain rfl : kind = .code := Option.some.inj hb
    obtain ⟨_, hs, hnext, hrest⟩ := h
    refine ⟨by simp, hasShape_code_cons.mpr ⟨?_, hs⟩, hnext, hrest⟩
    simpa using hc
  · rw [consCode_of_not_beginsWithCode c hb]
    refine ⟨by simp, hasShape_code_cons.mpr ⟨by simpa using hc, hasShape_code_nil _⟩, ?_, h⟩
    exact fun _ => hb

theorem shaped_tokens (t : Text) : Shaped [] (tokens t) := by
  induction hn : t.length using Nat.strongRecOn generalizing t with
  | ind n ih =>
    cases t with
    | nil => simp [Shaped]
    | cons c t =>
      cases h : region? (c :: t) with
      | none =>
        have ht := ih t.length (by simp at hn; omega) t rfl
        rw [tokens_of_code h]
        exact ht.consCode (by rw [textOf_tokens]; exact region?_eq_none_iff.mp h)
      | some found =>
        obtain ⟨token, rest⟩ := found
        have hlen := region?_length h
        rw [tokens_of_region h]
        refine ⟨region?_text_ne_nil h, ?_, fun hk => absurd hk (kind_ne_code_of_region? h),
          ih rest.length (by omega) rest rfl⟩
        rw [textOf_tokens, List.append_nil]
        exact hasShape_of_region? h

theorem tokens_code_append {text after : Text} (hne : text ≠ []) (h : HasShape .code text after)
    (hb : ¬ beginsWithCode (tokens after)) :
    tokens (text ++ after) = ⟨.code, text⟩ :: tokens after := by
  induction text with
  | nil => exact absurd rfl hne
  | cons c text ih =>
    obtain ⟨hopen, hs⟩ := hasShape_code_cons.mp h
    have hstep : tokens (c :: (text ++ after)) = consCode c (tokens (text ++ after)) :=
      tokens_of_code (region?_eq_none_iff.mpr hopen)
    rw [List.cons_append, hstep]
    cases text with
    | nil => exact consCode_of_not_beginsWithCode c hb
    | cons d text => rw [ih (by simp) hs, consCode_code]

/-- A shaped list is what the scanner makes of its text. -/
theorem tokens_textOf {ts : List Token} (h : Shaped [] ts) : tokens (textOf ts) = ts := by
  induction ts with
  | nil => simp
  | cons token rest ih =>
    obtain ⟨hne, hs, hnext, hrest⟩ := h
    have ih := ih hrest
    rw [List.append_nil] at hs
    rw [textOf_cons]
    by_cases hk : token.kind = .code
    · obtain ⟨kind, text⟩ := token
      obtain rfl : kind = .code := hk
      rw [tokens_code_append hne hs (by rw [ih]; exact hnext rfl), ih]
    · have hr : region? (token.text ++ textOf rest) = some (token, textOf rest) :=
        region?_eq_some_iff.mpr ⟨hk, rfl, hs⟩
      rw [tokens_of_region hr, ih]

/-- A region by its kind and the offsets between which it lies. -/
structure Span where
  kind : TokenKind
  start : Nat
  stop : Nat
deriving DecidableEq, Repr

namespace Span

def ofPlaced (placed : Nat × Token) : Span :=
  ⟨placed.2.kind, placed.1, placed.1 + placed.2.size⟩

/-- Spans follow each other without a gap from `first` to `last`, and none is empty. -/
def Tile : Nat → List Span → Nat → Prop
  | first, [], last => first = last
  | first, span :: rest, last =>
    span.start = first ∧ span.start < span.stop ∧ Tile span.stop rest last

/-- The span cuts `text` out of `t` and leaves `after` behind it; so both of its ends lie between
characters. -/
def CutsOut (span : Span) (t text after : Text) : Prop :=
  ∃ before, t = before ++ text ++ after ∧ Text.size before = span.start ∧
    span.start + Text.size text = span.stop

end Span

def spansFrom (offset : Nat) (ts : List Token) : List Span := (placed offset ts).map Span.ofPlaced

def spans (t : Text) : List Span := spansFrom 0 (tokens t)

/-- Spans that tile a text, each with the shape of its kind, code never cut in two. -/
structure IsDecomposition (t : Text) (l : List Span) : Prop where
  tile : Span.Tile 0 l (Text.size t)
  shaped : ∀ span ∈ l, ∃ text after, span.CutsOut t text after ∧ HasShape span.kind text after
  apart : l.IsChain (fun span next => span.kind = .code → next.kind ≠ .code)

@[simp] theorem spansFrom_nil (offset : Nat) : spansFrom offset [] = [] := rfl

@[simp] theorem spansFrom_cons (offset : Nat) (token : Token) (rest : List Token) :
    spansFrom offset (token :: rest) =
      ⟨token.kind, offset, offset + token.size⟩ :: spansFrom (offset + token.size) rest := rfl

theorem beginsWithCode_iff_head?_spansFrom (offset : Nat) (ts : List Token) :
    beginsWithCode ts ↔ ∃ span ∈ (spansFrom offset ts).head?, span.kind = .code := by
  cases ts with
  | nil => simp [beginsWithCode]
  | cons token rest => simp [beginsWithCode]

/-- The spans of shaped tokens behind `before` have all the properties of a decomposition. -/
theorem Shaped.spansFrom {ts : List Token} (h : Shaped [] ts) (before : Text) :
    Span.Tile (Text.size before) (spansFrom (Text.size before) ts)
        (Text.size (before ++ textOf ts)) ∧
      (∀ span ∈ spansFrom (Text.size before) ts, ∃ text after,
        span.CutsOut (before ++ textOf ts) text after ∧ HasShape span.kind text after) ∧
      (spansFrom (Text.size before) ts).IsChain
        (fun span next => span.kind = .code → next.kind ≠ .code) := by
  induction ts generalizing before with
  | nil => simp [Span.Tile]
  | cons token rest ih =>
    obtain ⟨hne, hs, hnext, hrest⟩ := h
    have hpos := Text.size_pos_of_ne_nil hne
    obtain ⟨htile, hshaped, hchain⟩ := ih hrest (before ++ token.text)
    rw [Text.size_append, List.append_assoc] at htile
    rw [Text.size_append] at hchain
    simp only [Text.size_append, List.append_assoc] at hshaped
    rw [spansFrom_cons, textOf_cons]
    refine ⟨⟨rfl, Nat.lt_add_of_pos_right hpos, htile⟩, ?_, ?_⟩
    · intro span hmem
      rcases List.mem_cons.mp hmem with rfl | hmem
      · exact ⟨token.text, textOf rest, ⟨before, by simp, rfl, rfl⟩, by simpa using hs⟩
      · exact hshaped span hmem
    · refine List.isChain_cons.mpr ⟨?_, hchain⟩
      intro next hmem hk hk'
      exact hnext hk ((beginsWithCode_iff_head?_spansFrom _ rest).mpr ⟨next, hmem, hk'⟩)

/-- A decomposition of what stands behind `before` comes from shaped tokens. -/
theorem exists_shaped_of_tile {l : List Span} {before rest : Text}
    (htile : Span.Tile (Text.size before) l (Text.size (before ++ rest)))
    (hshaped : ∀ span ∈ l, ∃ text after,
      span.CutsOut (before ++ rest) text after ∧ HasShape span.kind text after)
    (hchain : l.IsChain (fun span next => span.kind = .code → next.kind ≠ .code)) :
    ∃ ts, textOf ts = rest ∧ Shaped [] ts ∧ l = Token.spansFrom (Text.size before) ts := by
  induction l generalizing before rest with
  | nil =>
    have hsize : Text.size rest = 0 := by
      have heq : Text.size before = Text.size (before ++ rest) := htile
      rw [Text.size_append] at heq
      omega
    exact ⟨[], (Text.size_eq_zero_iff.mp hsize).symm, trivial, rfl⟩
  | cons span l ih =>
    obtain ⟨hstart, hlt, htile⟩ := htile
    obtain ⟨text, after, ⟨front, heq, hfront, hstop⟩, hs⟩ := hshaped span (by simp)
    -- The first span starts where `before` ends, so it cuts its text off the front of `rest`.
    rw [List.append_assoc] at heq
    obtain ⟨rfl, rfl⟩ := Text.append_inj_of_size heq (by omega)
    obtain ⟨hhead, hchain⟩ := List.isChain_cons.mp hchain
    have hmid : span.stop = Text.size (before ++ text) := by rw [Text.size_append]; omega
    rw [hmid, ← List.append_assoc] at htile
    rw [← List.append_assoc] at hshaped
    obtain ⟨ts, rfl, hts, rfl⟩ :=
      ih htile (fun s hmem => hshaped s (List.mem_cons_of_mem span hmem)) hchain
    refine ⟨⟨span.kind, text⟩ :: ts, rfl, ⟨?_, by simpa using hs, ?_, hts⟩, ?_⟩
    · rintro rfl
      simp at hstop
      omega
    · intro hk hb
      obtain ⟨next, hmem, hk'⟩ := (beginsWithCode_iff_head?_spansFrom _ ts).mp hb
      exact hhead next hmem hk hk'
    · obtain ⟨kind, start, stop⟩ := span
      obtain rfl : start = Text.size before := hstart
      obtain rfl : stop = Text.size before + Text.size text := hstop.symm
      rw [spansFrom_cons, Text.size_append]
      rfl

/-- The texts of the tokens make up the text, and their spans are its only decomposition. -/
theorem isDecomposition_iff_eq_spans (t : Text) :
    textOf (tokens t) = t ∧ ∀ l : List Span, IsDecomposition t l ↔ l = spans t := by
  refine ⟨textOf_tokens t, fun l => ⟨?_, ?_⟩⟩
  · rintro ⟨htile, hshaped, hchain⟩
    obtain ⟨ts, rfl, hts, rfl⟩ := @exists_shaped_of_tile l [] t htile hshaped hchain
    rw [spans, tokens_textOf hts]
    rfl
  · rintro rfl
    have h := (shaped_tokens t).spansFrom []
    rw [textOf_tokens] at h
    exact ⟨h.1, h.2.1, h.2.2⟩

example : spans "a---b\n'c'''[d".toList =
    [⟨.code, 0, 1⟩, ⟨.lineComment, 1, 5⟩, ⟨.code, 5, 6⟩, ⟨.quoted .single, 6, 11⟩,
      ⟨.bracketed, 11, 13⟩] := by cbv

end SqlAssist.Token
