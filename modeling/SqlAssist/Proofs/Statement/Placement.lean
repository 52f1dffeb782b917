import Mathlib.Data.List.Chain
import SqlAssist.Proofs.Statement.Segments

/-! # Where segments lie

The segments of a script are slices of it that follow each other with one terminator between two of
them. Every offset up to the size of the script lies in exactly one of them, and that is the segment
found for the offset. The statement being typed is the segment around the cursor up to the cursor. -/
namespace SqlAssist.Statement

open Token

theorem current_eq_of_texts {t last : Text} {init : List Text} (h : texts t = init ++ [last]) :
    current t = last := by
  have hlast : (texts t).getLast? = some (current t) := by
    simp [texts, textsOf, current, List.getLast?_cons, List.getLastD_eq_getLast?]
  rw [h, List.getLast?_concat] at hlast
  exact (Option.some.inj hlast).symm

/-- What changes a script segment by segment changes the statement being typed. -/
theorem current_of_texts_map {t t' : Text} {change : Text → Text}
    (h : texts t' = (texts t).map change) : current t' = change (current t) := by
  obtain ⟨init, last, _, _, hlast, _⟩ := (continues_texts t []).exists_append
  rw [hlast, List.map_append, List.map_singleton] at h
  rw [current_eq_of_texts h, current_eq_of_texts hlast]

/-- An offset that lies in a segment selects it, also when the offset is the end of the segment. -/
theorem containing_eq_of_texts {script text : Text} {init more : List Text} {offset : Nat}
    (h : texts script = init ++ text :: more) (hlo : Text.size (terminated init) ≤ offset)
    (hhi : offset ≤ Text.size (terminated init) + Text.size text) :
    containing script offset = ⟨text, Text.size (terminated init)⟩ := by
  have hmin : min offset (Text.size script) = offset := by
    have hsize := size_terminated_texts script
    rw [h, terminated_append, Text.size_append, size_terminated_cons] at hsize
    omega
  have hplace : place 0 (texts script) =
      place 0 init ++ ⟨text, Text.size (terminated init)⟩ ::
        place (Text.size (terminated init) + Text.size text + 1) more := by
    rw [h, place_append, Nat.zero_add, place]
  have hbefore : (place 0 init).find? (fun statement => offset ≤ statement.stop) = none := by
    rw [List.find?_eq_none]
    intro statement hmem
    have := stop_lt_of_mem_place hmem
    simp only [decide_eq_true_eq]
    omega
  have hfound : (place 0 (texts script)).find? (fun statement => offset ≤ statement.stop) =
      some ⟨text, Text.size (terminated init)⟩ := by
    rw [hplace, List.find?_append, hbefore, Option.none_or, List.find?_cons_of_pos]
    exact decide_eq_true hhi
  change ((place 0 (texts script)).find? (fun statement =>
    min offset (Text.size script) ≤ statement.stop)).getD _ = _
  rw [hmin, hfound, Option.getD_some]

/-- Where the cursor stands between `x` and `y`, the statement around it is the last segment of `x`
with its continuation. -/
theorem containing_append_of_texts {x y last z : Text} {init more : List Text}
    (hx : texts x = init ++ [last]) (hxy : texts (x ++ y) = init ++ (last ++ z) :: more) :
    containing (x ++ y) (Text.size x) = ⟨last ++ z, Text.size (terminated init)⟩ := by
  have hsize := size_eq_of_texts hx
  refine containing_eq_of_texts hxy (by omega) ?_
  rw [Text.size_append]
  omega

/-- The statement being typed is the statement around the cursor up to the cursor. -/
theorem current_eq_containing_upTo (document : Text) (offset : Nat)
    (h : Text.IsBoundary document offset) :
    let statement := containing document offset
    statement.start ≤ offset ∧ offset ≤ statement.stop ∧
      Text.dropBytes? statement.start (Text.upTo offset document) =
        some (current (Text.upTo offset document)) ∧
      current (Text.upTo offset document) <+: statement.text := by
  obtain ⟨x, y, rfl, rfl⟩ := h
  obtain ⟨init, last, z, more, hx, hxy⟩ := (continues_texts x y).exists_append
  have hsize := size_eq_of_texts hx
  rw [containing_append_of_texts hx hxy, Text.upTo_append_size, current_eq_of_texts hx]
  refine ⟨by simp only; omega, ?_, ?_, List.prefix_append _ _⟩
  · simp only [stop, Text.size_append]
    omega
  · exact Text.dropBytes?_eq_some_iff.mpr ⟨terminated init, eq_terminated_append hx, rfl⟩

/-- The cursor between the two quotes of a pair, with a semicolon behind them. -/
theorem current_eq_containing_upTo_in_pair :
    let document := "SELECT 1; SELECT 'a'';b' --c".toList
    let statement := containing document 20
    Text.IsBoundary document 20 ∧ statement.start ≤ 20 ∧ 20 ≤ statement.stop ∧
      Text.dropBytes? statement.start (Text.upTo 20 document) =
        some (current (Text.upTo 20 document)) ∧
      current (Text.upTo 20 document) <+: statement.text :=
  have h : Text.IsBoundary "SELECT 1; SELECT 'a'';b' --c".toList 20 :=
    ⟨"SELECT 1; SELECT 'a'".toList, "';b' --c".toList, by decide, by decide⟩
  ⟨h, current_eq_containing_upTo _ 20 h⟩

theorem exists_of_mem_place {start : Nat} {l : List Text} {statement : Statement}
    (h : statement ∈ place start l) :
    ∃ init more, l = init ++ statement.text :: more ∧
      statement.start = start + Text.size (terminated init) := by
  induction l generalizing start with
  | nil => cases h
  | cons t l ih =>
    rcases List.mem_cons.mp h with rfl | h
    · exact ⟨[], l, rfl, rfl⟩
    · obtain ⟨init, more, rfl, hstart⟩ := ih h
      refine ⟨t :: init, more, rfl, ?_⟩
      rw [size_terminated_cons, hstart]
      omega

/-- The text of a segment is what the script has between the offsets of the segment. -/
theorem isSlice_of_mem_segments {script : Text} {statement : Statement}
    (h : statement ∈ segments script) :
    Text.IsSlice script statement.start statement.stop statement.text := by
  rw [segments_eq_place] at h
  obtain ⟨init, more, htexts, hstart⟩ := exists_of_mem_place h
  rw [Nat.zero_add] at hstart
  rcases eq_or_exists_of_texts_append htexts with heq | ⟨rest, heq⟩
  · exact ⟨terminated init, [], by rw [List.append_nil]; exact heq, hstart.symm, rfl⟩
  · exact ⟨terminated init, ';' :: rest, heq, hstart.symm, rfl⟩

theorem start_le_of_mem_place {start : Nat} {l : List Text} {statement : Statement}
    (h : statement ∈ place start l) : start ≤ statement.start := by
  obtain ⟨init, more, _, hstart⟩ := exists_of_mem_place h
  omega

theorem pairwise_place (start : Nat) (l : List Text) :
    (place start l).Pairwise (fun statement next => statement.stop < next.start) := by
  induction l generalizing start with
  | nil => exact .nil
  | cons t l ih =>
    refine List.pairwise_cons.mpr ⟨?_, ih _⟩
    intro next hnext
    have hle := start_le_of_mem_place hnext
    simp only [stop]
    omega

/-- No offset lies in two segments. -/
theorem eq_of_mem_place {start offset : Nat} {l : List Text} {statement other : Statement}
    (h : statement ∈ place start l) (h' : other ∈ place start l)
    (hlo : statement.start ≤ offset) (hhi : offset ≤ statement.stop)
    (hlo' : other.start ≤ offset) (hhi' : offset ≤ other.stop) : other = statement := by
  induction l generalizing start with
  | nil => cases h
  | cons t l ih =>
    rcases List.mem_cons.mp h with rfl | h <;> rcases List.mem_cons.mp h' with rfl | h'
    · rfl
    · have hle := start_le_of_mem_place h'
      simp only [stop] at hhi
      omega
    · have hle := start_le_of_mem_place h
      simp only [stop] at hhi'
      omega
    · exact ih h h'

/-- The next segment starts behind the terminator that ends this one. -/
def FollowedBy (ts : List (Nat × Token)) (statement next : Statement) : Prop :=
  next.start = statement.stop + 1 ∧ (statement.stop, semicolon) ∈ ts

theorem FollowedBy.mono {ts us : List (Nat × Token)} (h : ts ⊆ us) {statement next : Statement}
    (hf : FollowedBy ts statement next) : FollowedBy us statement next :=
  ⟨hf.1, h hf.2⟩

theorem eq_semicolon_of_isTerminator {token : Token} {after : Text}
    (ht : token.isTerminator = true) (hs : HasShape token.kind token.text after) :
    token = semicolon := by
  obtain ⟨kind, text⟩ := token
  obtain rfl : kind = .terminator := by simpa [isTerminator] using ht
  obtain rfl : text = [';'] := hs
  rfl

theorem isChain_place_textsOf {after : Text} {ts : List Token} (h : Shaped after ts)
    (offset : Nat) : (place offset (textsOf ts)).IsChain (FollowedBy (placed offset ts)) := by
  induction ts generalizing offset with
  | nil => exact .singleton _
  | cons token rest ih =>
    obtain ⟨_, hs, _, hrest⟩ := h
    have hsub (n : Nat) : placed n rest ⊆ (offset, token) :: placed n rest :=
      List.subset_cons_self _ _
    cases ht : token.isTerminator with
    | true =>
      obtain rfl := eq_semicolon_of_isTerminator ht hs
      rw [textsOf_cons_terminator ht, placed_cons, place]
      refine List.isChain_cons.mpr ⟨?_, (ih hrest _).imp fun _ _ => FollowedBy.mono (hsub _)⟩
      intro next hnext
      obtain rfl : ⟨(pieces rest).1, offset + Text.size [] + 1⟩ = next := Option.some.inj hnext
      exact ⟨rfl, List.mem_cons_self⟩
    | false =>
      have hstop : offset + Text.size (token.text ++ (pieces rest).1) =
          offset + token.size + Text.size (pieces rest).1 := by
        rw [Text.size_append, Nat.add_assoc]
        rfl
      have hchain := (ih hrest (offset + token.size)).imp fun _ _ => FollowedBy.mono (hsub _)
      obtain ⟨hhead, htail⟩ := List.isChain_cons.mp hchain
      rw [textsOf_cons_other ht, placed_cons, textsOf, List.modifyHead_cons, place, hstop]
      refine List.isChain_cons.mpr ⟨?_, htail⟩
      intro next hnext
      obtain ⟨hnext', hmem⟩ := hhead next hnext
      simp only [FollowedBy, stop, hstop]
      exact ⟨hnext', hmem⟩

/-- Consecutive segments have one terminator between them. -/
theorem isChain_segments (script : Text) :
    (segments script).IsChain (FollowedBy (placed 0 (tokens script))) :=
  isChain_place_textsOf (shaped_tokens script) 0

theorem exists_of_lt_size_terminated {l : List Text} {offset : Nat}
    (h : offset < Text.size (terminated l)) :
    ∃ init text more, l = init ++ text :: more ∧ Text.size (terminated init) ≤ offset ∧
      offset ≤ Text.size (terminated init) + Text.size text := by
  induction l generalizing offset with
  | nil => simp at h
  | cons t l ih =>
    rw [size_terminated_cons] at h
    by_cases hle : offset ≤ Text.size t
    · exact ⟨[], t, l, rfl, by simp, by simpa using hle⟩
    · have hlt : offset - (Text.size t + 1) < Text.size (terminated l) := by omega
      obtain ⟨init, text, more, rfl, hlo, hhi⟩ := ih hlt
      refine ⟨t :: init, text, more, rfl, ?_, ?_⟩
      · rw [size_terminated_cons]
        omega
      · rw [size_terminated_cons]
        omega

theorem containing_min (script : Text) (offset : Nat) :
    containing script (min offset (Text.size script)) = containing script offset := by
  have hmin : min (min offset (Text.size script)) (Text.size script) =
      min offset (Text.size script) := by
    omega
  simp only [containing, hmin]

/-- The segment found for an offset is a segment, and it holds the offset. -/
theorem containing_mem_segments (script : Text) (offset : Nat) :
    let statement := containing script offset
    statement ∈ segments script ∧ statement.start ≤ min offset (Text.size script) ∧
      min offset (Text.size script) ≤ statement.stop := by
  have hlt : min offset (Text.size script) < Text.size (terminated (texts script)) := by
    rw [size_terminated_texts]
    omega
  obtain ⟨init, text, more, htexts, hlo, hhi⟩ := exists_of_lt_size_terminated hlt
  have hmem : ⟨text, Text.size (terminated init)⟩ ∈ segments script := by
    rw [segments_eq_place, htexts, place_append, place, Nat.zero_add]
    exact List.mem_append_right _ List.mem_cons_self
  rw [← containing_min, containing_eq_of_texts htexts hlo hhi]
  exact ⟨hmem, hlo, hhi⟩

end SqlAssist.Statement
