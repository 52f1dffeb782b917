import SqlAssist.Proofs.Statement.Placement

/-! # Splitting a script

The statements of a script are its segments, the last one only if it is not blank. `Splits` says
what this means for the script: nothing is lost but a blank tail, cutting a statement again changes
nothing, and the statement found for an offset is the one statement that holds it, or else the blank
tail. -/
namespace SqlAssist.Statement

open Token

theorem dropBlankLast_concat (l : List Statement) (last : Statement) :
    dropBlankLast (l ++ [last]) = if Text.isBlank last.text then l else l ++ [last] := by
  induction l with
  | nil => rfl
  | cons statement l ih =>
    obtain ⟨next, rest, hnext⟩ : ∃ next rest, l ++ [last] = next :: rest :=
      List.exists_cons_of_ne_nil (by simp)
    rw [List.cons_append, hnext, dropBlankLast, ← hnext, ih]
    split <;> rfl

theorem split_eq_of_texts {script last : Text} {init : List Text}
    (h : texts script = init ++ [last]) :
    split script = if Text.isBlank last then place 0 init else place 0 (init ++ [last]) := by
  rw [split, segments_eq_place, h, place_append, place, place, dropBlankLast_concat]

theorem exists_texts_concat (script : Text) : ∃ init last, texts script = init ++ [last] := by
  rcases List.eq_nil_or_concat (texts script) with hnil | ⟨init, last, h⟩
  · obtain ⟨first, others, hcons⟩ := exists_texts_cons script
    rw [hcons] at hnil
    cases hnil
  · exact ⟨init, last, by simpa using h⟩

def lastSegment (script : Text) : Statement :=
  ⟨current script, Text.size script - Text.size (current script)⟩

/-- The statements are the segments but for a last one that is blank. -/
theorem segments_eq_split_or (script : Text) :
    segments script = split script ∨
      Text.isBlank (current script) = true ∧
        segments script = split script ++ [lastSegment script] := by
  obtain ⟨init, last, h⟩ := exists_texts_concat script
  have hsize := size_eq_of_texts h
  have hstart : Text.size script - Text.size last = Text.size (terminated init) := by omega
  rw [split_eq_of_texts h, segments_eq_place, h, lastSegment, current_eq_of_texts h, hstart]
  cases hblank : Text.isBlank last with
  | true => exact Or.inr ⟨rfl, by simp [place_append, place]⟩
  | false => exact Or.inl rfl

theorem split_prefix_segments (script : Text) : split script <+: segments script := by
  rcases segments_eq_split_or script with h | ⟨_, h⟩
  · exact h ▸ List.prefix_refl (segments script)
  · exact h ▸ List.prefix_append (split script) [lastSegment script]

theorem mem_segments_of_mem_split {script : Text} {statement : Statement}
    (h : statement ∈ split script) : statement ∈ segments script :=
  (split_prefix_segments script).subset h

theorem map_text_place (start : Nat) (l : List Text) : (place start l).map text = l := by
  induction l generalizing start with
  | nil => rfl
  | cons t l ih => rw [place, List.map_cons, ih]

theorem join_concat (l : List Text) (last : Text) :
    Text.join [';'] (l ++ [last]) = terminated l ++ last := by
  induction l with
  | nil => rfl
  | cons t l ih =>
    obtain ⟨next, rest, hnext⟩ : ∃ next rest, l ++ [last] = next :: rest :=
      List.exists_cons_of_ne_nil (by simp)
    rw [List.cons_append, hnext, Text.join, ← hnext, ih, terminated_cons]
    · simp
    · simp

/-- Where the last of some statements ends; the beginning of the script if there is none. -/
def endOf (statements : List Statement) : Nat := (statements.getLast?.map stop).getD 0

theorem endOf_place_concat (init : List Text) (last : Text) :
    endOf (place 0 (init ++ [last])) = Text.size (Text.join [';'] (init ++ [last])) := by
  rw [join_concat, endOf, place_append, place, place, List.getLast?_concat, Option.map_some,
    Option.getD_some, stop, Nat.zero_add, Text.size_append]

/-- White space, with a semicolon in front of it or without one. -/
def IsBlankTail (t : Text) : Prop :=
  Text.isBlank t = true ∨ ∃ blank, t = ';' :: blank ∧ Text.isBlank blank = true

/-- The statements, joined by semicolons, are the script up to a blank tail. -/
theorem exists_tail (script : Text) :
    ∃ tail, script = Text.join [';'] ((split script).map text) ++ tail ∧
      Text.IsSlice script (endOf (split script)) (Text.size script) tail ∧ IsBlankTail tail := by
  obtain ⟨init, last, h⟩ := exists_texts_concat script
  have hscript := eq_terminated_append h
  have hslice (statements : List Text) (tail : Text)
      (hall : script = Text.join [';'] statements ++ tail)
      (hend : endOf (place 0 statements) = Text.size (Text.join [';'] statements)) :
      Text.IsSlice script (endOf (place 0 statements)) (Text.size script) tail := by
    refine ⟨Text.join [';'] statements, [], by simpa using hall, hend.symm, ?_⟩
    rw [hend, ← Text.size_append, ← hall]
  rw [split_eq_of_texts h]
  cases hblank : Text.isBlank last with
  | false =>
    have hall : script = Text.join [';'] (init ++ [last]) ++ [] := by
      rw [join_concat, List.append_nil, ← hscript]
    rw [if_neg (by simp), map_text_place]
    exact ⟨[], hall, hslice _ _ hall (endOf_place_concat init last), Or.inl rfl⟩
  | true =>
    rw [if_pos rfl, map_text_place]
    rcases List.eq_nil_or_concat init with rfl | ⟨init, middle, rfl⟩
    · exact ⟨last, hscript, hslice [] last hscript rfl, Or.inl hblank⟩
    · rw [List.concat_eq_append] at hscript ⊢
      have hall : script = Text.join [';'] (init ++ [middle]) ++ ';' :: last := by
        rw [join_concat, hscript]
        simp
      exact ⟨';' :: last, hall, hslice _ _ hall (endOf_place_concat init middle),
        Or.inr ⟨last, rfl, hblank⟩⟩

/-- Splitting the text of a segment gives that text, or nothing when it is blank. -/
theorem split_of_mem_texts {script segment : Text} (h : segment ∈ texts script) :
    split segment = if Text.isBlank segment then [] else [⟨segment, 0⟩] :=
  split_eq_of_texts (show texts segment = [] ++ [segment] from texts_of_mem_texts h)

theorem text_mem_texts {script : Text} {statement : Statement} (h : statement ∈ segments script) :
    statement.text ∈ texts script := by
  rw [← map_text_place 0 (texts script), ← segments_eq_place]
  exact List.mem_map_of_mem h

/-- The offset lies in the statement or at its end. -/
def Holds (statement : Statement) (offset : Nat) : Prop :=
  statement.start ≤ offset ∧ offset ≤ statement.stop

/-- `found` is the only one of the statements that holds the offset. -/
def IsOnlyHolder (statements : List Statement) (offset : Nat) (found : Statement) : Prop :=
  found ∈ statements ∧ found.Holds offset ∧
    ∀ other ∈ statements, other.Holds offset → other = found

theorem containing_isOnlyHolder (script : Text) (offset : Nat) :
    IsOnlyHolder (segments script) (min offset (Text.size script)) (containing script offset) := by
  obtain ⟨hmem, hlo, hhi⟩ := containing_mem_segments script offset
  refine ⟨hmem, ⟨hlo, hhi⟩, ?_⟩
  rintro other hother ⟨hlo', hhi'⟩
  exact eq_of_mem_place hmem hother hlo hhi hlo' hhi'

/-- The statement found for an offset is the one that holds it, or else the blank tail. -/
theorem containing_split (script : Text) (offset : Nat) :
    IsOnlyHolder (split script) (min offset (Text.size script)) (containing script offset) ∨
      (∀ other ∈ split script, ¬ other.Holds (min offset (Text.size script))) ∧
        containing script offset = lastSegment script ∧
        Text.isBlank (lastSegment script).text = true := by
  obtain ⟨hmem, hholds, honly⟩ := containing_isOnlyHolder script offset
  have hsub : ∀ other ∈ split script, other.Holds (min offset (Text.size script)) →
      other = containing script offset := by
    intro other hother
    exact honly other (mem_segments_of_mem_split hother)
  by_cases hsplit : containing script offset ∈ split script
  · exact Or.inl ⟨hsplit, hholds, hsub⟩
  · refine Or.inr ⟨?_, ?_⟩
    · intro other hother h
      exact hsplit (hsub other hother h ▸ hother)
    · rcases segments_eq_split_or script with h | ⟨hblank, h⟩
      · rw [h] at hmem
        exact absurd hmem hsplit
      · rw [h] at hmem
        rcases List.mem_append.mp hmem with hmem | hlast
        · exact absurd hmem hsplit
        · exact ⟨List.mem_singleton.mp hlast, hblank⟩

/-- What it means that a script is split into the given statements. -/
structure Splits (script : Text) (statements : List Statement) : Prop where
  slice : ∀ statement ∈ statements,
    Text.IsSlice script statement.start statement.stop statement.text
  start_head : ∀ statement ∈ statements.head?, statement.start = 0
  /-- Between two consecutive statements there is one byte, a terminator. -/
  consecutive : statements.IsChain (FollowedBy (placed 0 (tokens script)))
  /-- Joined by semicolons and followed by the rest, the statements are the script. -/
  join : ∃ tail, script = Text.join [';'] (statements.map text) ++ tail ∧
    Text.IsSlice script (endOf statements) (Text.size script) tail ∧ IsBlankTail tail
  /-- A statement, split on its own, is itself, or nothing when it is blank. -/
  stable : ∀ statement ∈ statements,
    split statement.text = if Text.isBlank statement.text then [] else [⟨statement.text, 0⟩]
  /-- The statement found for an offset is the only one that holds the offset, brought back into the
  script, or, when none does, the blank text behind the last terminator. -/
  at_offset : ∀ offset,
    IsOnlyHolder statements (min offset (Text.size script)) (containing script offset) ∨
      (∀ other ∈ statements, ¬ other.Holds (min offset (Text.size script))) ∧
        containing script offset = lastSegment script ∧
        Text.isBlank (lastSegment script).text = true

/-- Splitting a script loses nothing, is stable, and agrees with the statement at an offset. -/
theorem splits_split (script : Text) : Splits script (split script) where
  slice _ hmem := isSlice_of_mem_segments (mem_segments_of_mem_split hmem)
  start_head := by
    intro statement hmem
    obtain ⟨rest, hrest⟩ := split_prefix_segments script
    have hhead : statement ∈ (segments script).head? := by
      rw [← hrest, List.head?_append, Option.mem_def.mp hmem, Option.some_or]
      exact rfl
    obtain rfl : ⟨(pieces (tokens script)).1, 0⟩ = statement := Option.some.inj hhead
    rfl
  consecutive := by
    have hall := isChain_segments script
    obtain ⟨rest, hrest⟩ := split_prefix_segments script
    rw [← hrest] at hall
    exact hall.left_of_append
  join := exists_tail script
  stable _ hmem := split_of_mem_texts (text_mem_texts (mem_segments_of_mem_split hmem))
  at_offset := containing_split script

example : (split "a;';';;\n ".toList).map (fun statement => (statement.start, statement.stop)) =
    [(0, 1), (2, 5), (6, 6)] := by cbv

end SqlAssist.Statement
