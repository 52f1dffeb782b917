import SqlAssist.Proofs.Token.Decomposition

/-! # Scanning a longer text

What the scanner makes of a text hardly depends on what follows the text. A shape looks no further
than the next character, so a region that ended stays as it is when the text goes on, and only the
last region of a text can grow. When a semicolon behind a text is a terminator, nothing was open
there, and the text is scanned as if it stood alone. -/
namespace SqlAssist.Token

theorem opening?_congr {c : Char} {t t' : Text} (h : t.head? = t'.head?) :
    opening? (c :: t) = opening? (c :: t') := by
  cases t with
  | nil =>
    obtain rfl : t' = [] := List.head?_eq_none_iff.mp h.symm
    rfl
  | cons d t =>
    obtain ⟨u, rfl⟩ : ∃ u, t' = d :: u := List.head?_eq_some_iff.mp h.symm
    unfold opening?
    split <;> simp_all

/-- Whether a text has the shape of a kind depends on the next character alone. -/
theorem HasShape.congr_head {kind : TokenKind} {text after after' : Text}
    (h : HasShape kind text after) (ha : after.head? = after'.head?) :
    HasShape kind text after' := by
  have hnil : after = [] ↔ after' = [] := by
    rw [← List.head?_eq_none_iff, ha, List.head?_eq_none_iff]
  cases kind with
  | code =>
    induction text with
    | nil => exact hasShape_code_nil _
    | cons c text ih =>
      obtain ⟨hopen, hs⟩ := hasShape_code_cons.mp h
      refine hasShape_code_cons.mpr ⟨?_, ih hs⟩
      rw [← hopen]
      exact opening?_congr (by simp [List.head?_append, ha])
  | quoted quote =>
    obtain ⟨tail, rfl, h⟩ := h
    refine ⟨tail, rfl, ?_⟩
    simpa only [ThroughQuote, ClosesQuote, ha, hnil] using h
  | bracketed =>
    obtain ⟨tail, rfl, h⟩ := h
    exact ⟨tail, rfl, by simpa only [ThroughFirst, hnil] using h⟩
  | lineComment =>
    obtain ⟨tail, rfl, h⟩ := h
    exact ⟨tail, rfl, by simpa only [ToLineBreak, ha, hnil] using h⟩
  | blockComment =>
    obtain ⟨tail, rfl, h⟩ := h
    exact ⟨tail, rfl, by simpa only [ThroughFirst, hnil] using h⟩
  | terminator => exact h

/-- What ends in front of some text ends also where the text ends. -/
theorem HasShape.nil {kind : TokenKind} {text after : Text} (h : HasShape kind text after) :
    HasShape kind text [] := by
  cases kind with
  | code =>
    obtain ⟨hchars, hparts⟩ := h
    refine ⟨hchars, fun part hne hsuffix => ?_⟩
    obtain ⟨hdash, hstar⟩ := hparts part hne hsuffix
    rw [List.append_nil]
    exact ⟨fun hp => hdash (hp.trans (List.prefix_append _ _)),
      fun hp => hstar (hp.trans (List.prefix_append _ _))⟩
  | quoted quote =>
    obtain ⟨tail, rfl, ⟨body, rfl, hb, _⟩ | ⟨_, hnone⟩⟩ := h
    · exact ⟨_, rfl, Or.inl ⟨body, rfl, hb, by simp⟩⟩
    · exact ⟨tail, rfl, Or.inr ⟨rfl, hnone⟩⟩
  | bracketed | blockComment =>
    obtain ⟨tail, rfl, hclosed | ⟨_, hnone⟩⟩ := h
    · exact ⟨tail, rfl, Or.inl hclosed⟩
    · exact ⟨tail, rfl, Or.inr ⟨rfl, hnone⟩⟩
  | lineComment =>
    obtain ⟨tail, rfl, hline, _⟩ := h
    exact ⟨tail, rfl, hline, Or.inl rfl⟩
  | terminator => exact h

theorem Shaped.congr_head {after after' : Text} {ts : List Token} (h : Shaped after ts)
    (ha : after.head? = after'.head?) : Shaped after' ts := by
  induction ts with
  | nil => trivial
  | cons token rest ih =>
    obtain ⟨hne, hs, hnext, hrest⟩ := h
    exact ⟨hne, hs.congr_head (by simp [List.head?_append, ha]), hnext, ih hrest⟩

theorem Shaped.append {after : Text} {ts us : List Token} (h : Shaped (textOf us ++ after) ts)
    (hu : Shaped after us) (hb : ¬ beginsWithCode us) : Shaped after (ts ++ us) := by
  induction ts with
  | nil => exact hu
  | cons token rest ih =>
    obtain ⟨hne, hs, hnext, hrest⟩ := h
    refine ⟨hne, by simpa using hs, fun hk => ?_, ih hrest⟩
    cases rest with
    | nil => exact hb
    | cons next rest => exact hnext hk

theorem Shaped.left {after : Text} {ts us : List Token} (h : Shaped after (ts ++ us)) :
    Shaped (textOf us ++ after) ts := by
  induction ts with
  | nil => trivial
  | cons token rest ih =>
    obtain ⟨hne, hs, hnext, hrest⟩ := h
    refine ⟨hne, by simpa using hs, fun hk => ?_, ih hrest⟩
    cases rest with
    | nil => simp [beginsWithCode]
    | cons next rest => exact hnext hk

theorem Shaped.nil {after : Text} {ts : List Token} (h : Shaped after ts) : Shaped [] ts := by
  induction ts with
  | nil => trivial
  | cons token rest ih =>
    obtain ⟨hne, hs, hnext, hrest⟩ := h
    refine ⟨hne, ?_, hnext, ih hrest⟩
    cases htext : textOf rest with
    | nil => exact hs.nil
    | cons c t => rw [htext] at hs; exact hs.congr_head rfl

def semicolon : Token := ⟨.terminator, [';']⟩

/-- Nothing is open at the end of the text: a semicolon put there is a terminator. -/
def Closed (t : Text) : Prop :=
  (placed 0 (tokens (t ++ [';']))).getLast? = some (Text.size t, semicolon)

instance (t : Text) : Decidable (Closed t) := inferInstanceAs (Decidable (_ = _))

theorem exists_of_getLast?_placed {offset n : Nat} {ts : List Token} {token : Token}
    (h : (placed offset ts).getLast? = some (n, token)) : ∃ us, ts = us ++ [token] := by
  have hlast := congrArg (Option.map Prod.snd) h
  rw [← List.getLast?_map, map_snd_placed] at hlast
  exact List.getLast?_eq_some_iff.mp hlast

theorem shaped_semicolon_cons {ts : List Token} (h : Shaped [] ts) :
    Shaped [] (semicolon :: ts) :=
  ⟨by simp [semicolon], rfl, by simp [semicolon], h⟩

theorem Closed.shaped_tokens {a : Text} (h : Closed a) : Shaped [';'] (tokens a) := by
  obtain ⟨ts, hts⟩ := exists_of_getLast?_placed h
  have htext : textOf ts = a := by
    have heq := textOf_tokens (a ++ [';'])
    rw [hts, textOf_append] at heq
    exact List.append_cancel_right heq
  have hshaped : Shaped [';'] ts := by
    have hall := Token.shaped_tokens (a ++ [';'])
    rw [hts] at hall
    exact hall.left
  rwa [← htext, tokens_textOf hshaped.nil]

/-- Behind a closed text and a semicolon, scanning starts afresh. -/
theorem Closed.tokens_append {a : Text} (h : Closed a) (b : Text) :
    tokens (a ++ ';' :: b) = tokens a ++ semicolon :: tokens b := by
  have hjoined : Shaped [] (tokens a ++ semicolon :: tokens b) := by
    refine Shaped.append (h.shaped_tokens.congr_head rfl)
      (shaped_semicolon_cons (Token.shaped_tokens b)) ?_
    simp [beginsWithCode, semicolon]
  have heq := tokens_textOf hjoined
  rwa [textOf_append, textOf_cons, textOf_tokens, textOf_tokens] at heq

/-- What ends in front of a semicolon ends also in front of a closing parenthesis: neither belongs
to any region, nor to the beginning of one. -/
theorem HasShape.closeParen {kind : TokenKind} {text after : Text}
    (h : HasShape kind text (';' :: after)) (after' : Text) :
    HasShape kind text (')' :: after') := by
  cases kind with
  | code =>
    induction text with
    | nil => exact hasShape_code_nil _
    | cons c text ih =>
      obtain ⟨hopen, hs⟩ := hasShape_code_cons.mp h
      refine hasShape_code_cons.mpr ⟨?_, ih hs⟩
      cases text with
      | nil =>
        obtain ⟨hc, _⟩ := opening?_cons_eq_none_iff.mp hopen
        exact opening?_cons_eq_none_iff.mpr ⟨hc, by simp, by simp⟩
      | cons d text =>
        rw [← hopen]
        exact opening?_congr rfl
  | quoted quote =>
    obtain ⟨tail, rfl, ⟨body, rfl, hb, _⟩ | ⟨hnil, _⟩⟩ := h
    · refine ⟨_, rfl, Or.inl ⟨body, rfl, hb, ?_⟩⟩
      cases quote <;> simp [Quote.char]
    · cases hnil
  | bracketed | blockComment =>
    obtain ⟨tail, rfl, hclosed | ⟨hnil, _⟩⟩ := h
    · exact ⟨tail, rfl, Or.inl hclosed⟩
    · cases hnil
  | lineComment =>
    obtain ⟨tail, rfl, _, hnil | hbreak⟩ := h
    · cases hnil
    · simp at hbreak
  | terminator => exact h

theorem Shaped.closeParen {after : Text} {ts : List Token} (h : Shaped (';' :: after) ts)
    (after' : Text) : Shaped (')' :: after') ts := by
  induction ts with
  | nil => trivial
  | cons token rest ih =>
    obtain ⟨hne, hs, hnext, hrest⟩ := h
    refine ⟨hne, ?_, hnext, ih hrest⟩
    cases htext : textOf rest with
    | nil =>
      rw [htext] at hs
      exact hs.closeParen after'
    | cons c t =>
      rw [htext] at hs
      exact hs.congr_head rfl

theorem opening?_append {x : Text} {kind : TokenKind} (h : opening? x = some kind) (y : Text) :
    opening? (x ++ y) = some kind := by
  cases x with
  | nil => cases h
  | cons c x =>
    cases x with
    | nil =>
      unfold opening? at h
      split at h <;> simp_all [opening?]
    | cons d x => rw [← h]; exact opening?_congr rfl

theorem region?_eq_none_of_append {x y : Text} (h : region? (x ++ y) = none) :
    region? x = none := by
  rw [region?_eq_none_iff] at h ⊢
  cases hopen : opening? x with
  | none => rfl
  | some kind =>
    rw [opening?_append hopen y] at h
    cases h

theorem region?_append_of_ne_nil {x rest : Text} {token : Token}
    (h : region? x = some (token, rest)) (hne : rest ≠ []) (y : Text) :
    region? (x ++ y) = some (token, rest ++ y) := by
  obtain ⟨hk, rfl, hs⟩ := region?_eq_some_iff.mp h
  refine region?_eq_some_iff.mpr ⟨hk, by simp, hs.congr_head ?_⟩
  rw [List.head?_append_of_ne_nil _ hne]

/-- A text that is the beginning of one region is one token, of the same kind or code. -/
theorem tokens_eq_singleton {x y z rest : Text} {token : Token} (hx : x ≠ [])
    (h : region? (x ++ y) = some (token, rest)) (htext : token.text = x ++ z) :
    ∃ only, tokens x = [only] ∧ (only.kind = .code ∨ only.kind = token.kind) := by
  have hopen := opening?_of_region? h
  cases hr : region? x with
  | none =>
    have hnone := region?_eq_none_iff.mp hr
    obtain ⟨c, rfl⟩ : ∃ c, x = [c] := by
      rcases x with _ | ⟨c, _ | ⟨d, x⟩⟩
      · exact absurd rfl hx
      · exact ⟨c, rfl⟩
      · rw [show opening? (c :: d :: x ++ y) = opening? (c :: d :: x) from opening?_congr rfl,
          hnone] at hopen
        cases hopen
    exact ⟨⟨.code, [c]⟩, by rw [tokens_of_code hr, tokens_nil]; rfl, Or.inl rfl⟩
  | some found =>
    obtain ⟨only, tail⟩ := found
    have htail : tail = [] := by
      by_contra hne
      have heq := h.symm.trans (region?_append_of_ne_nil hr hne y)
      obtain ⟨rfl, rfl⟩ := Prod.mk.inj (Option.some.inj heq)
      have hlen := congrArg List.length (region?_append hr)
      have hpos := List.length_pos_iff.mpr hne
      rw [htext, List.length_append, List.length_append] at hlen
      omega
    subst htail
    have hkind : only.kind = token.kind :=
      Option.some.inj ((opening?_append (opening?_of_region? hr) y).symm.trans hopen)
    exact ⟨only, by rw [tokens_of_region hr, tokens_nil], Or.inr hkind⟩

/-- How the first region of a text and that of a longer text compare: there is none in the longer
one, or it is the same in both, or it reaches beyond the shorter text. -/
theorem region?_append_cases {x : Text} (hx : x ≠ []) (y : Text) :
    region? (x ++ y) = none ∨
      (∃ token rest, region? x = some (token, rest) ∧
        region? (x ++ y) = some (token, rest ++ y)) ∨
      ∃ token rest z, region? (x ++ y) = some (token, rest) ∧ token.text = x ++ z ∧
        token.isTerminator = false ∧
        ∃ only, tokens x = [only] ∧ (only.kind = .code ∨ only.kind = token.kind) := by
  cases h : region? (x ++ y) with
  | none => exact Or.inl rfl
  | some found =>
    obtain ⟨token, rest⟩ := found
    obtain ⟨hk, happ, hs⟩ := region?_eq_some_iff.mp h
    refine Or.inr ?_
    by_cases ht : token.kind = .terminator
    · obtain ⟨kind, text⟩ := token
      obtain rfl : kind = .terminator := ht
      obtain rfl : text = [';'] := hs
      cases x with
      | nil => exact absurd rfl hx
      | cons c x =>
        obtain ⟨rfl, rfl⟩ := List.cons.inj happ
        exact Or.inl ⟨semicolon, x, rfl, rfl⟩
    · have hswallow (z : Text) (htext : token.text = x ++ z) :=
        tokens_eq_singleton hx h htext
      have hterm : token.isTerminator = false := by simp [isTerminator, ht]
      rcases List.append_eq_append_iff.mp happ with ⟨u, hxu, hrest⟩ | ⟨z, htext, _⟩
      · cases u with
        | nil =>
          have htext : token.text = x ++ [] := by simpa using hxu.symm
          exact Or.inr ⟨token, rest, [], rfl, htext, hterm, hswallow [] htext⟩
        | cons c u =>
          refine Or.inl ⟨token, c :: u, ?_, by rw [hrest]⟩
          rw [hrest] at hs
          exact region?_eq_some_iff.mpr ⟨hk, hxu.symm, hs.congr_head rfl⟩
      · exact Or.inr ⟨token, rest, z, rfl, htext, hterm, hswallow z htext⟩

end SqlAssist.Token
