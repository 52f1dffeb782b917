import Mathlib.Data.List.Forall2
import Mathlib.Data.List.TakeWhile
import Mathlib.Order.Bounds.Defs
import SqlAssist.Proofs.Text
import SqlAssist.Text

/-! # Offsets and places

A place in a text that stands behind another one follows from its place in that text alone: the lines
above are added, and on the first line the columns to the left as well. An offset between two
characters and its place determine each other, and the later offset has the later place. Offsets and
places need not be in the text; each of them means one that is, and going from an offset to its place
and back, or from a place to its offset and back, gives the one that was meant. -/
namespace SqlAssist

namespace Text

theorem ne_newline_of_not_mem {t : Text} (h : '\n' ∉ t) : ∀ c ∈ t, decide (c ≠ '\n') = true := by
  intro c hc
  have hne : c ≠ '\n' := fun heq => h (heq ▸ hc)
  simpa using hne

theorem lastLine_of_not_mem {t : Text} (h : '\n' ∉ t) : lastLine t = t := by
  have htake : t.reverse.takeWhile (· ≠ '\n') = t.reverse :=
    List.takeWhile_eq_self_iff.mpr (ne_newline_of_not_mem (by simpa using h))
  rw [lastLine, htake, List.reverse_reverse]

theorem lastLine_append_of_mem (s : Text) {t : Text} (h : '\n' ∈ t) :
    lastLine (s ++ t) = lastLine t := by
  have hlen : (t.reverse.takeWhile (· ≠ '\n')).length ≠ t.reverse.length := by
    intro heq
    have hall := List.takeWhile_eq_self_iff.mp
      ((List.takeWhile_prefix (l := t.reverse) (· ≠ '\n')).eq_of_length heq)
    simpa using hall '\n' (by simpa using h)
  rw [lastLine, List.reverse_append, List.takeWhile_append, if_neg hlen, lastLine]

theorem lastLine_append_of_not_mem (s : Text) {t : Text} (h : '\n' ∉ t) :
    lastLine (s ++ t) = lastLine s ++ t := by
  have hpos : ∀ c ∈ t.reverse, decide (c ≠ '\n') = true :=
    ne_newline_of_not_mem (by simpa using h)
  rw [lastLine, List.reverse_append, List.takeWhile_append_of_pos hpos, List.reverse_append,
    List.reverse_reverse, lastLine]

theorem lastLine_append_newline (s t : Text) : lastLine (s ++ '\n' :: t) = lastLine t := by
  by_cases h : '\n' ∈ t
  · rw [show s ++ '\n' :: t = (s ++ ['\n']) ++ t by simp, lastLine_append_of_mem _ h]
  · rw [show '\n' :: t = ['\n'] ++ t from rfl, lastLine_append_of_mem s (by simp),
      lastLine_append_of_not_mem _ h, lastLine_of_not_mem h]
    rfl

end Text

namespace Position

def behind (s : Text) (position : Position) : Position :=
  ⟨position.line + s.count '\n',
    if position.line = 1 then position.column + (Text.lastLine s).length else position.column⟩

theorem after_line_eq_one_iff {t : Text} : (after t).line = 1 ↔ '\n' ∉ t := by
  simp [after, List.count_eq_zero]

/-- Behind two texts one is at the place behind the second, seen from the end of the first. -/
theorem after_append (s t : Text) : after (s ++ t) = (after t).behind s := by
  have hline : (s ++ t).count '\n' + 1 = t.count '\n' + 1 + s.count '\n' := by
    rw [List.count_append]
    omega
  by_cases h : '\n' ∈ t
  · rw [behind, if_neg (fun h1 => after_line_eq_one_iff.mp h1 h)]
    simp only [after, Text.lastLine_append_of_mem s h, hline]
  · have hcolumn : (Text.lastLine s ++ t).length + 1 = t.length + 1 + (Text.lastLine s).length := by
      rw [List.length_append]
      omega
    rw [behind, if_pos (after_line_eq_one_iff.mpr h)]
    simp only [after, Text.lastLine_append_of_not_mem s h, Text.lastLine_of_not_mem h, hline,
      hcolumn]

theorem ofOffset_append_add (s t : Text) (n : Nat) :
    ofOffset (s ++ t) (Text.size s + n) = (ofOffset t n).behind s := by
  rw [ofOffset, Text.upTo_append_add, after_append, ofOffset]

theorem ofOffset_append_of_le {s : Text} {n : Nat} (h : n ≤ Text.size s) (t : Text) :
    ofOffset (s ++ t) n = ofOffset s n := by
  rw [ofOffset, Text.upTo_append_of_le h, ofOffset]

theorem firstLine_append_of_not_mem {s : Text} (h : '\n' ∉ s) (t : Text) :
    Text.firstLine (s ++ t) = s ++ Text.firstLine t :=
  List.takeWhile_append_of_pos (Text.ne_newline_of_not_mem h)

theorem firstLine_append_newline {line : Text} (h : '\n' ∉ line) (rest : Text) :
    Text.firstLine (line ++ '\n' :: rest) = line := by
  rw [firstLine_append_of_not_mem h]
  simp [Text.firstLine]

theorem frontOf_append_newline {line : Text} (h : '\n' ∉ line) (above left : Nat) (rest : Text) :
    frontOf (above + 1) left (line ++ '\n' :: rest) = line ++ '\n' :: frontOf above left rest := by
  have hdrop : (line ++ '\n' :: rest).dropWhile (· ≠ '\n') = '\n' :: rest := by
    rw [List.dropWhile_append_of_pos (Text.ne_newline_of_not_mem h)]
    simp
  rw [frontOf, hdrop]
  simp only [firstLine_append_newline h]

theorem frontOf_append (x y : Text) :
    frontOf (x.count '\n') (Text.lastLine x).length (x ++ y) = x := by
  induction hn : x.count '\n' generalizing x with
  | zero =>
    have h : '\n' ∉ x := List.count_eq_zero.mp hn
    rw [Text.lastLine_of_not_mem h, frontOf, firstLine_append_of_not_mem h, List.take_left]
  | succ n ih =>
    have hmem : '\n' ∈ x := List.count_pos_iff.mp (by omega)
    obtain ⟨line, rest, rfl, hline⟩ := List.eq_append_cons_of_mem hmem
    have hcount : rest.count '\n' = n := by
      rw [List.count_append, List.count_cons_self, List.count_eq_zero.mpr hline] at hn
      omega
    rw [List.append_assoc, List.cons_append, frontOf_append_newline hline,
      Text.lastLine_append_newline, ih rest hcount]

theorem front_ofOffset_append (x y : Text) :
    front (x ++ y) (ofOffset (x ++ y) (Text.size x)) = x := by
  rw [ofOffset, Text.upTo_append_size, front]
  exact frontOf_append x y

/-- The place of an offset between two characters leads back to the offset. -/
theorem toOffset_ofOffset {t : Text} {n : Nat} (h : Text.IsBoundary t n) :
    toOffset t (ofOffset t n) = n := by
  obtain ⟨front, back, rfl, rfl⟩ := h
  rw [toOffset, front_ofOffset_append]

theorem precedes_iff {p q : Position} :
    p.precedes q = true ↔ p.line < q.line ∨ p.line = q.line ∧ p.column < q.column := by
  simp [precedes]

theorem after_precedes_append (s : Text) {t : Text} (ht : t ≠ []) :
    (after s).precedes (after (s ++ t)) = true := by
  rw [precedes_iff]
  by_cases h : '\n' ∈ t
  · have hpos : 0 < t.count '\n' := List.count_pos_iff.mpr h
    refine Or.inl ?_
    simp only [after, List.count_append]
    omega
  · have hzero : t.count '\n' = 0 := List.count_eq_zero.mpr h
    have hlen := List.length_pos_iff.mpr ht
    refine Or.inr ⟨?_, ?_⟩
    · simp only [after, List.count_append]
      omega
    · simp only [after, Text.lastLine_append_of_not_mem s h, List.length_append]
      omega

/-- Of two offsets between characters, the later one has the later place. -/
theorem ofOffset_precedes {t : Text} {n m : Nat} (hn : Text.IsBoundary t n)
    (hm : Text.IsBoundary t m) (h : n < m) : (ofOffset t n).precedes (ofOffset t m) = true := by
  obtain ⟨x, y, rfl, rfl⟩ := hn
  obtain ⟨x', y', heq, rfl⟩ := hm
  have hn : ofOffset (x ++ y) (Text.size x) = after x := by
    rw [ofOffset, Text.upTo_append_size]
  have hm : ofOffset (x ++ y) (Text.size x') = after x' := by
    rw [ofOffset, heq, Text.upTo_append_size]
  rw [hn, hm]
  rcases List.append_eq_append_iff.mp heq with ⟨u, rfl, _⟩ | ⟨u, rfl, _⟩
  · apply after_precedes_append
    rintro rfl
    simp at h
  · rw [Text.size_append] at h
    omega

end Position

/-- The characters take the same number of bytes, and both or neither of them break the line. -/
def SameStep (c d : Char) : Prop := c.utf8Size = d.utf8Size ∧ (c = '\n' ↔ d = '\n')

theorem SameStep.refl (c : Char) : SameStep c c := ⟨rfl, Iff.rfl⟩

namespace Text

theorem forall₂_upTo {s t : Text} (h : List.Forall₂ SameStep s t) (n : Nat) :
    List.Forall₂ SameStep (upTo n s) (upTo n t) := by
  induction h generalizing n with
  | nil => exact .nil
  | cons hc _ ih =>
    simp only [upTo, hc.1]
    split
    · exact .cons hc (ih _)
    · exact .nil

theorem count_newline_of_forall₂ {s t : Text} (h : List.Forall₂ SameStep s t) :
    s.count '\n' = t.count '\n' := by
  induction h with
  | nil => rfl
  | cons hc _ ih => simp only [List.count_cons, ih, beq_iff_eq, hc.2]

theorem length_firstLine_of_forall₂ {s t : Text} (h : List.Forall₂ SameStep s t) :
    (firstLine s).length = (firstLine t).length := by
  induction h with
  | nil => rfl
  | @cons c d s t hc _ ih =>
    unfold firstLine at ih ⊢
    by_cases hn : c = '\n'
    · simp [hn, hc.2.mp hn]
    · have hd : d ≠ '\n' := fun heq => hn (hc.2.mpr heq)
      simp [hn, hd] at ih ⊢
      exact ih

theorem lastLine_eq_reverse_firstLine (t : Text) : lastLine t = (firstLine t.reverse).reverse := rfl

end Text

theorem Position.after_of_forall₂ {s t : Text} (h : List.Forall₂ SameStep s t) :
    after s = after t := by
  have hline := Text.count_newline_of_forall₂ h
  have hcolumn := Text.length_firstLine_of_forall₂ (List.forall₂_reverse_iff.mpr h)
  simp only [after, Text.lastLine_eq_reverse_firstLine, List.length_reverse, hline, hcolumn]

/-- Texts whose characters correspond step by step have the same places. -/
theorem Position.ofOffset_of_forall₂ {s t : Text} (h : List.Forall₂ SameStep s t) (n : Nat) :
    ofOffset s n = ofOffset t n :=
  after_of_forall₂ (Text.forall₂_upTo h n)

namespace Text

def lines (t : Text) : List Text := t.splitOn '\n'

theorem lines_of_not_mem {t : Text} (h : '\n' ∉ t) : lines t = [t] :=
  List.splitOn_eq_singleton h

theorem lines_append_newline {line : Text} (h : '\n' ∉ line) (rest : Text) :
    lines (line ++ '\n' :: rest) = line :: lines rest := by
  rw [lines, List.splitOn_append_cons_self, ← lines, lines_of_not_mem h]
  rfl

theorem not_mem_newline_or (t : Text) :
    '\n' ∉ t ∨ ∃ line rest, t = line ++ '\n' :: rest ∧ '\n' ∉ line := by
  by_cases h : '\n' ∈ t
  · obtain ⟨line, rest, ht, hline⟩ := List.eq_append_cons_of_mem h
    exact Or.inr ⟨line, rest, ht, hline⟩
  · exact Or.inl h

theorem isBoundary_size_upTo (n : Nat) (t : Text) : IsBoundary t (size (upTo n t)) := by
  obtain ⟨rest, ht⟩ := exists_upTo_append n t
  exact ⟨upTo n t, rest, ht, rfl⟩

theorem IsBoundary.le_size {t : Text} {n : Nat} (h : IsBoundary t n) : n ≤ size t := by
  obtain ⟨front, back, rfl, rfl⟩ := h
  rw [size_append]
  omega

/-- The front part up to an offset ends at the last place between characters that is not behind the
offset. -/
theorem isGreatest_size_upTo (n : Nat) (t : Text) :
    IsGreatest {m | IsBoundary t m ∧ m ≤ min n (size t)} (size (upTo n t)) := by
  constructor
  · have hboundary := isBoundary_size_upTo n t
    exact ⟨hboundary, Nat.le_min.mpr ⟨size_upTo_le n t, hboundary.le_size⟩⟩
  · rintro m ⟨⟨front, back, rfl, rfl⟩, hle⟩
    obtain ⟨k, rfl⟩ := Nat.exists_eq_add_of_le (hle.trans (Nat.min_le_left _ _))
    rw [upTo_append_add, size_append]
    exact Nat.le_add_right _ _

end Text

namespace Position

theorem firstLine_of_not_mem {t : Text} (h : '\n' ∉ t) : Text.firstLine t = t :=
  List.takeWhile_eq_self_iff.mpr (Text.ne_newline_of_not_mem h)

theorem frontOf_of_not_mem {t : Text} (h : '\n' ∉ t) (above left : Nat) :
    frontOf (above + 1) left t = t := by
  rw [frontOf, List.dropWhile_eq_nil_iff.mpr (Text.ne_newline_of_not_mem h)]

theorem front_ofOffset (t : Text) (n : Nat) : front t (ofOffset t n) = Text.upTo n t := by
  obtain ⟨rest, ht⟩ := Text.exists_upTo_append n t
  have hfront := frontOf_append (Text.upTo n t) rest
  rwa [← ht] at hfront

theorem exists_front_append (t : Text) (p : Position) : ∃ rest, t = front t p ++ rest := by
  suffices h : ∀ above left (t : Text), ∃ rest, t = frontOf above left t ++ rest from h _ _ t
  intro above left t
  induction above generalizing t with
  | zero =>
    obtain ⟨rest, hrest⟩ := (List.take_prefix left (Text.firstLine t)).trans
      (List.takeWhile_prefix (l := t) (· ≠ '\n'))
    exact ⟨rest, hrest.symm⟩
  | succ above ih =>
    rcases Text.not_mem_newline_or t with hlast | ⟨line, behind, rfl, hline⟩
    · exact ⟨[], by rw [frontOf_of_not_mem hlast, List.append_nil]⟩
    · obtain ⟨rest, hrest⟩ := ih behind
      exact ⟨rest, by rw [frontOf_append_newline hline, List.append_assoc, List.cons_append, ← hrest]⟩

theorem after_append_newline (line t : Text) :
    after (line ++ '\n' :: t) = ⟨(after t).line + line.count '\n' + 1, (after t).column⟩ := by
  simp only [after, Text.lastLine_append_newline, List.count_append, List.count_cons_self]
  congr 1
  omega

theorem after_frontOf {above left : Nat} {t line : Text} (h : (Text.lines t)[above]? = some line) :
    after (frontOf above left t) = ⟨above + 1, min left line.length + 1⟩ := by
  induction above generalizing t with
  | zero =>
    obtain ⟨hfirst, hline⟩ : Text.firstLine t = line ∧ '\n' ∉ line := by
      rcases Text.not_mem_newline_or t with hlast | ⟨first, rest, rfl, hfirst⟩
      · rw [Text.lines_of_not_mem hlast] at h
        obtain rfl := Option.some.inj h
        exact ⟨firstLine_of_not_mem hlast, hlast⟩
      · rw [Text.lines_append_newline hfirst] at h
        obtain rfl := Option.some.inj h
        exact ⟨firstLine_append_newline hfirst rest, hfirst⟩
    have hnone : '\n' ∉ line.take left := fun hmem => hline (List.mem_of_mem_take hmem)
    rw [frontOf, hfirst, after, List.count_eq_zero.mpr hnone, Text.lastLine_of_not_mem hnone,
      List.length_take]
  | succ above ih =>
    rcases Text.not_mem_newline_or t with hlast | ⟨first, rest, rfl, hline⟩
    · rw [Text.lines_of_not_mem hlast] at h
      cases h
    · rw [Text.lines_append_newline hline, List.getElem?_cons_succ] at h
      rw [frontOf_append_newline hline, after_append_newline, ih h, List.count_eq_zero.mpr hline]

theorem frontOf_of_lines {above : Nat} {t : Text} (left : Nat)
    (h : (Text.lines t)[above]? = none) : frontOf above left t = t := by
  induction above generalizing t with
  | zero =>
    rcases Text.not_mem_newline_or t with hlast | ⟨first, rest, rfl, hline⟩
    · rw [Text.lines_of_not_mem hlast] at h
      cases h
    · rw [Text.lines_append_newline hline] at h
      cases h
  | succ above ih =>
    rcases Text.not_mem_newline_or t with hlast | ⟨first, rest, rfl, hline⟩
    · exact frontOf_of_not_mem hlast above left
    · rw [Text.lines_append_newline hline, List.getElem?_cons_succ] at h
      rw [frontOf_append_newline hline, ih h]

/-- The place in the text that a place means: line and column zero mean one, a column too large
means the end of its line, and a line too large the end of the text. -/
def clamped (t : Text) (p : Position) : Position :=
  match (Text.lines t)[max p.line 1 - 1]? with
  | some line => ⟨max p.line 1, min (max p.column 1) (line.length + 1)⟩
  | none => ofOffset t (Text.size t)

theorem ofOffset_toOffset (t : Text) (p : Position) : ofOffset t (toOffset t p) = p.clamped t := by
  obtain ⟨rest, ht⟩ := exists_front_append t p
  have hafter : ofOffset t (toOffset t p) = after (front t p) := by
    have hupTo := Text.upTo_append_size (front t p) rest
    rw [← ht] at hupTo
    rw [ofOffset, toOffset, hupTo]
  have hline : max p.line 1 - 1 = p.line - 1 := by omega
  rw [hafter, clamped, hline, front]
  cases h : (Text.lines t)[p.line - 1]? with
  | some line =>
    have hcolumn : min (p.column - 1) line.length + 1 = min (max p.column 1) (line.length + 1) := by
      omega
    have hnext : p.line - 1 + 1 = max p.line 1 := by omega
    rw [after_frontOf h, hcolumn, hnext]
  | none =>
    have hall := Text.upTo_append_size t []
    rw [List.append_nil] at hall
    rw [frontOf_of_lines _ h, ofOffset, hall]

/-- How offsets and places of a text correspond. -/
structure Corresponds (t : Text) : Prop where
  /-- The place of an offset leads back to the offset, or to the last one before it that lies
  between characters. -/
  offset : ∀ n, IsGreatest {m | Text.IsBoundary t m ∧ m ≤ min n (Text.size t)}
    (toOffset t (ofOffset t n))
  boundary : ∀ p, Text.IsBoundary t (toOffset t p) ∧ toOffset t p ≤ Text.size t
  /-- The offset of a place leads back to the place, or to the one in the text that it means. -/
  place : ∀ p, ofOffset t (toOffset t p) = p.clamped t
  increasing : ∀ n m, Text.IsBoundary t n → Text.IsBoundary t m → n < m →
    (ofOffset t n).precedes (ofOffset t m) = true

/-- Offsets and places of a text are inverse to each other, up to those outside the text, and have
the same order. -/
theorem corresponds (t : Text) : Corresponds t where
  offset n := by
    rw [toOffset, front_ofOffset]
    exact Text.isGreatest_size_upTo n t
  boundary p := by
    obtain ⟨rest, ht⟩ := exists_front_append t p
    have hboundary : Text.IsBoundary t (toOffset t p) := ⟨front t p, rest, ht, rfl⟩
    exact ⟨hboundary, hboundary.le_size⟩
  place := ofOffset_toOffset t
  increasing _ _ hn hm h := ofOffset_precedes hn hm h

example : [⟨0, 0⟩, ⟨2, 3⟩, ⟨2, 9⟩, ⟨3, 7⟩, ⟨4, 1⟩].map (clamped "a\nGröße\n".toList) =
    [⟨1, 1⟩, ⟨2, 3⟩, ⟨2, 6⟩, ⟨3, 1⟩, ⟨3, 1⟩] := by decide

end Position

end SqlAssist
