import SqlAssist.Proofs.Literal.CommonTable
import SqlAssist.Proofs.Literal.Reference
import SqlAssist.Proofs.Mask.Alignment
import SqlAssist.Proofs.Token.Decomposition
import SqlAssist.Proofs.Validation.Independence

/-! # The content of literals

Two scripts that are scanned into the same spans and differ in their literals alone have the same
markers, as long as no search for a name goes into a literal. A search can: its anchors are looked for
in the whole statement, and the list of columns of a common table ends at the first parenthesis of any
kind. So a literal that reads like the end of a query has a marker of its own. -/
namespace SqlAssist

open Token

/-- If the token is a literal, its characters are ASCII and break no line. -/
def Token.LiteralIsAscii (token : Token) : Prop :=
  token.kind = .quoted .single → ∀ c ∈ token.text, c.toNat < 128 ∧ c ≠ '\n'

-- The instance for the members of a list, not the one for all characters.
instance (token : Token) : Decidable token.LiteralIsAscii :=
  have := List.decidableBAll (fun c : Char => c.toNat < 128 ∧ c ≠ '\n') token.text
  inferInstanceAs (Decidable (_ → ∀ c ∈ token.text, c.toNat < 128 ∧ c ≠ '\n'))

/-- The scripts have the same spans and are equal outside their literals, whose characters are ASCII
and break no line. -/
structure DifferInLiterals (script other : Text) : Prop where
  spans : spans script = spans other
  outside : ∀ pair ∈ (tokens script).zip (tokens other), pair.1.kind ≠ .quoted .single →
    pair.1.text = pair.2.text
  ascii : ∀ token ∈ tokens script ++ tokens other, token.LiteralIsAscii

/-- No search for a name goes into a literal of the script: its regions are quiet, and no literal
holds the first parenthesis of a list of columns. -/
structure SearchesOutside (script : Text) : Prop where
  regions : ∀ token ∈ tokens script, token.IsQuiet
  columns : ∀ text ∈ Statement.texts script, CommonTable.ColumnsInCode (mask text)

theorem forall₂_sameStep_of_ascii {x y : Text} (hx : ∀ c ∈ x, c.toNat < 128 ∧ c ≠ '\n')
    (hy : ∀ c ∈ y, c.toNat < 128 ∧ c ≠ '\n') (hsize : Text.size x = Text.size y) :
    List.Forall₂ SameStep x y := by
  induction x generalizing y with
  | nil =>
    rw [Text.size_nil, eq_comm, Text.size_eq_zero_iff] at hsize
    rw [hsize]
    exact .nil
  | cons c x ih =>
    obtain ⟨hc, hx⟩ := List.forall_mem_cons.mp hx
    have hone := utf8Size_eq_one_of_lt hc.1
    cases y with
    | nil =>
      rw [Text.size_cons, hone, Text.size_nil] at hsize
      omega
    | cons d y =>
      obtain ⟨hd, hy⟩ := List.forall_mem_cons.mp hy
      have hone' := utf8Size_eq_one_of_lt hd.1
      rw [Text.size_cons, Text.size_cons, hone, hone'] at hsize
      exact .cons ⟨hone.trans hone'.symm, iff_of_false hc.2 hd.2⟩ (ih hx hy (by omega))

theorem forall₂_sameToken {ts ts' : List Token} {offset : Nat}
    (hspans : spansFrom offset ts = spansFrom offset ts')
    (houtside : ∀ pair ∈ ts.zip ts', pair.1.kind ≠ .quoted .single → pair.1.text = pair.2.text)
    (hts : ∀ token ∈ ts, token.LiteralIsAscii ∧ token.IsQuiet)
    (hts' : ∀ token ∈ ts', token.LiteralIsAscii ∧ token.IsQuiet) :
    List.Forall₂ SameOutside.SameToken ts ts' := by
  induction ts generalizing ts' offset with
  | nil =>
    cases ts' with
    | nil => exact .nil
    | cons token' ts' => cases hspans
  | cons token ts ih =>
    cases ts' with
    | nil => cases hspans
    | cons token' ts' =>
      rw [spansFrom_cons, spansFrom_cons, List.cons.injEq, Span.mk.injEq] at hspans
      obtain ⟨⟨hkind, _, hstop⟩, hrest⟩ := hspans
      have hsize : token.size = token'.size := Nat.add_left_cancel hstop
      rw [← hsize] at hrest
      obtain ⟨htext, houtside⟩ := List.forall_mem_cons.mp houtside
      obtain ⟨⟨hascii, hquiet⟩, hts⟩ := List.forall_mem_cons.mp hts
      obtain ⟨⟨hascii', hquiet'⟩, hts'⟩ := List.forall_mem_cons.mp hts'
      refine .cons ⟨hkind, htext, fun hliteral => ?_, hquiet, hquiet'⟩ (ih hrest houtside hts hts')
      exact forall₂_sameStep_of_ascii (hascii hliteral) (hascii' (hkind ▸ hliteral)) hsize

theorem DifferInLiterals.sameOutside {script other : Text} (h : DifferInLiterals script other)
    (hsearch : SearchesOutside script) (hsearch' : SearchesOutside other) :
    SameOutside script other := by
  obtain ⟨hascii, hascii'⟩ := List.forall_mem_append.mp h.ascii
  have htokens : List.Forall₂ SameOutside.SameToken (tokens script) (tokens other) :=
    forall₂_sameToken h.spans h.outside
      (fun token hmem => ⟨hascii token hmem, hsearch.regions token hmem⟩)
      (fun token hmem => ⟨hascii' token hmem, hsearch'.regions token hmem⟩)
  have hsame := SameOutside.textOf_of_forall₂ htokens (shaped_tokens script) (shaped_tokens other)
  rwa [textOf_tokens, textOf_tokens] at hsame

section

variable {script other : Text}

/-- Segments at the same place that differ in their literals have the same markers. -/
theorem Statement.markers_eq {text text' : Text} (h : SameOutside text text')
    (hcolumns : CommonTable.ColumnsInCode (mask text))
    (hcolumns' : CommonTable.ColumnsInCode (mask text'))
    (hplaces : ∀ n, Position.ofOffset script n = Position.ofOffset other n) (start : Nat)
    (snapshot : Snapshot) :
    markers ⟨text, start⟩ script snapshot = markers ⟨text', start⟩ other snapshot := by
  have hreferences := h.mask.references_eq (mask_mask text)
  have hnames := h.mask.names_eq hcolumns hcolumns'
  simp only [markers, unknownReferences, hreferences, hnames, Reference.marker, hplaces]

theorem Statement.flatMap_markers_place {texts texts' : List Text}
    (h : List.Forall₂ SameOutside texts texts')
    (hcolumns : ∀ text ∈ texts, CommonTable.ColumnsInCode (mask text))
    (hcolumns' : ∀ text ∈ texts', CommonTable.ColumnsInCode (mask text))
    (hplaces : ∀ n, Position.ofOffset script n = Position.ofOffset other n) (start : Nat)
    (snapshot : Snapshot) :
    (place start texts).flatMap (·.markers script snapshot) =
      (place start texts').flatMap (·.markers other snapshot) := by
  induction h generalizing start with
  | nil => rfl
  | cons hsame _ ih =>
    obtain ⟨hfirst, hcolumns⟩ := List.forall_mem_cons.mp hcolumns
    obtain ⟨hfirst', hcolumns'⟩ := List.forall_mem_cons.mp hcolumns'
    rw [place, place, List.flatMap_cons, List.flatMap_cons, hsame.size_eq,
      markers_eq hsame hfirst hfirst' hplaces, ih hcolumns hcolumns']

end

/-- The content of literals does not influence the markers of a script, unless a search for a name
goes into one. -/
theorem validate_eq_of_differInLiterals (script other : Text) (snapshot : Snapshot)
    (h : DifferInLiterals script other) (hsearch : SearchesOutside script)
    (hsearch' : SearchesOutside other) : validate script snapshot = validate other snapshot := by
  have hsame := h.sameOutside hsearch hsearch'
  cases hempty : snapshot.isEmpty with
  | true => simp [validate, hempty]
  | false =>
    rw [validate_eq_flatMap_segments hempty, validate_eq_flatMap_segments hempty,
      Statement.segments_eq_place, Statement.segments_eq_place]
    exact Statement.flatMap_markers_place hsame.forall₂_texts hsearch.columns hsearch'.columns
      (Position.ofOffset_of_forall₂ hsame.steps) 0 snapshot

/-- Parentheses, semicolons, comment marks and words in literals, some of them in the query of a
common table. -/
theorem validate_eq_of_differInLiterals_common_table :
    let script := "WITH c (a) AS (SELECT ')') SELECT 'from' FROM c;\nSELECT '; it''s' FROM Lost".toList
    let other := "WITH c (a) AS (SELECT '(') SELECT 'join' FROM c;\nSELECT '-- /* ;' FROM Lost".toList
    let snapshot : Snapshot := { tables := [⟨"dbo".toList, "Users".toList, []⟩] }
    DifferInLiterals script other ∧ SearchesOutside script ∧ SearchesOutside other ∧
      (validate script snapshot).map (fun marker => (marker.message, marker.start)) =
        [("Invalid object name 'Lost'.".toList, ⟨2, 23⟩)] ∧
      validate script snapshot = validate other snapshot := by
  intro script other snapshot
  have h : DifferInLiterals script other :=
    ⟨by decide +kernel, by decide +kernel, by decide +kernel⟩
  have hsearch : SearchesOutside script := ⟨by decide +kernel, by decide +kernel⟩
  have hsearch' : SearchesOutside other := ⟨by decide +kernel, by decide +kernel⟩
  refine ⟨h, hsearch, hsearch', by decide +kernel, ?_⟩
  exact validate_eq_of_differInLiterals script other snapshot h hsearch hsearch'

/-- A literal that reads like the end of a query has a marker of its own. -/
theorem validate_ne_of_anchor_in_literal :
    let script := "SELECT 'x FROM Ghosts'".toList
    let other := "SELECT 'xxxxxxxxxxxxx'".toList
    let snapshot : Snapshot := { tables := [⟨"dbo".toList, "Users".toList, []⟩] }
    DifferInLiterals script other ∧
      (validate script snapshot).map Marker.message = ["Invalid object name 'Ghosts'.".toList] ∧
      validate script snapshot ≠ validate other snapshot := by
  intro script other snapshot
  have h : DifferInLiterals script other :=
    ⟨by decide +kernel, by decide +kernel, by decide +kernel⟩
  exact ⟨h, by decide +kernel, by decide +kernel⟩

end SqlAssist
