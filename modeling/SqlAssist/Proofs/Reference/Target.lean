import SqlAssist.Proofs.Reference.Anchor
import SqlAssist.Proofs.Reference.Reduction

/-! # One table at each anchor

The four forms of names are searched for one by one, and what they propose is reduced. One reader
that looks at the name behind each anchor finds the same tables, as long as no name holds an anchor
of its own: each anchor names at most one table, and the tables come in the order of the text. -/
namespace SqlAssist

open Character Identifier

/-- No FROM or JOIN that stands alone lies inside the name behind an anchor. -/
def NamesHoldNoAnchor (statement : Text) : Prop :=
  ∀ named ∈ anchors statement, ∀ found ∈ (ObjectName.read? .folded named).toList,
    ∀ hit ∈ anchorWord.places named, hit.rest.length < found.2.length

instance (statement : Text) : Decidable (NamesHoldNoAnchor statement) :=
  inferInstanceAs (Decidable (∀ named ∈ anchors statement,
    ∀ found ∈ (ObjectName.read? .folded named).toList,
      ∀ hit ∈ anchorWord.places named, hit.rest.length < found.2.length))

namespace Reference

/-- The table of this name, which `named` begins with and `rest` follows. A lone name in front of a
dot is no table, and neither is the name of a function. -/
def ofName? (statement named : Text) (name : ObjectName) (rest : Text) : Option Reference :=
  if name.qualifier = none ∧ rest.head? = some '.' then none
  else if isCall rest then none
  else
    some
      { schema := name.qualifier
        table := name.name
        start := Text.size statement - Text.size named
        length := Text.size named - Text.size rest
        isTemporary := name.name.head? == some '#' }

/-- The table named at the beginning of `named`, an end part of the statement. -/
def target? (statement named : Text) : Option Reference :=
  (ObjectName.read? .folded named).bind fun found => ofName? statement named found.1 found.2

theorem target?_eq_some_iff {statement named : Text} {reference : Reference} :
    target? statement named = some reference ↔
      ∃ name rest, ObjectName.read? .folded named = some (name, rest) ∧
        ofName? statement named name rest = some reference := by
  rw [target?, Option.bind_eq_some_iff, Prod.exists]

theorem of_ofName?_eq_some {statement named rest : Text} {name : ObjectName} {reference : Reference}
    (h : ofName? statement named name rest = some reference) :
    ¬ (name.qualifier = none ∧ rest.head? = some '.') ∧
      reference.start = Text.size statement - Text.size named ∧
      reference.length = Text.size named - Text.size rest := by
  unfold ofName? at h
  split at h
  · cases h
  · rename_i hlone
    split at h
    · cases h
    · obtain rfl := Option.some.inj h
      exact ⟨hlone, rfl, rfl⟩

end Reference

/-- The candidate for a hit is the table of the name that was read. -/
theorem Candidate.map_reference_ofHit? (form : NameForm) (statement : Text)
    (hit : Hit (ObjectName × Text)) :
    (ofHit? form statement hit).map Candidate.reference =
      Reference.ofName? statement hit.value.2 hit.value.1 hit.rest := by
  obtain ⟨here, ⟨⟨qualifier, name⟩, named⟩, rest⟩ := hit
  have hlone : (qualifier.isNone && rest.head? == some '.') = true ↔
      qualifier = none ∧ rest.head? = some '.' := by
    rw [Bool.and_eq_true, Option.isNone_iff_eq_none, beq_iff_eq]
  simp only [ofHit?, Reference.ofName?, hlone]
  split
  · rfl
  · split
    · rfl
    · rfl

namespace NameForm

variable {readFirst : Text → Option (Text × Text)} {t rest : Text} {name : ObjectName}

theorem objectName_read?_of_readQualified? (hfirst : IsSpecialCase readFirst)
    (h : readQualified? readFirst t = some (name, rest)) :
    ObjectName.read? .folded t = some (name, rest) := by
  simp only [readQualified?, Option.bind_eq_bind, Option.bind_eq_some_iff, Prod.exists] at h
  obtain ⟨first, behind, hread, dotted, hdot, second, rest', hsecond, heq⟩ := h
  obtain ⟨rfl, rfl⟩ := Prod.mk.inj (Option.some.inj heq)
  refine ObjectName.read?_eq_some_iff.mpr ⟨first, behind, hfirst _ _ hread, Or.inl ?_⟩
  exact ⟨dotted, second, Text.skipChar?_eq_some_iff.mp hdot, hsecond, rfl⟩

/-- A form for lone names reads what the one reader reads, or it stops at a dot. -/
theorem objectName_read?_of_readLone? (hfirst : IsSpecialCase readFirst)
    (h : readLone? readFirst t = some (name, rest)) :
    ObjectName.read? .folded t = some (name, rest) ∨
      (name.qualifier = none ∧ rest.head? = some '.' ∧
        ∃ name' rest', ObjectName.read? .folded t = some (name', rest') ∧
          rest'.length ≤ rest.length) := by
  simp only [readLone?, Option.bind_eq_bind, Option.bind_eq_some_iff, Prod.exists] at h
  obtain ⟨first, behind, hread, heq⟩ := h
  obtain ⟨rfl, rfl⟩ := Prod.mk.inj (Option.some.inj heq)
  by_cases hsecond : ∀ dotted, behind = '.' :: dotted → Identifier.read? .folded dotted = none
  · exact Or.inl (ObjectName.read?_eq_some_iff.mpr
      ⟨first, behind, hfirst _ _ hread, Or.inr ⟨hsecond, rfl, rfl⟩⟩)
  · push Not at hsecond
    obtain ⟨dotted, rfl, hsome⟩ := hsecond
    obtain ⟨⟨second, rest'⟩, hsecond⟩ := Option.ne_none_iff_exists'.mp hsome
    have hshort := Identifier.read?_length hsecond
    refine Or.inr ⟨rfl, rfl, ⟨some (strip first), strip second⟩, rest', ?_, ?_⟩
    · exact ObjectName.read?_eq_some_iff.mpr
        ⟨first, _, hfirst _ _ hread, Or.inl ⟨dotted, second, rfl, hsecond, rfl⟩⟩
    · rw [List.length_cons]
      omega

/-- A form reads what the one reader reads, or it reads a lone name and stops at a dot. -/
theorem objectName_read?_of_read? {form : NameForm} (h : form.read? t = some (name, rest)) :
    ObjectName.read? .folded t = some (name, rest) ∨
      (name.qualifier = none ∧ rest.head? = some '.' ∧
        ∃ name' rest', ObjectName.read? .folded t = some (name', rest') ∧
          rest'.length ≤ rest.length) := by
  cases form with
  | bracketedQualified =>
    exact Or.inl (objectName_read?_of_readQualified? isSpecialCase_readBracketed? h)
  | plainQualified => exact Or.inl (objectName_read?_of_readQualified? isSpecialCase_readPlain? h)
  | bracketed => exact objectName_read?_of_readLone? isSpecialCase_readBracketed? h
  | plain => exact objectName_read?_of_readLone? isSpecialCase_readPlain? h

theorem readQualified?_of_readFirst {first dotted second : Text}
    (hfirst : readFirst t = some (first, '.' :: dotted))
    (hsecond : Identifier.read? .folded dotted = some (second, rest)) :
    readQualified? readFirst t = some (⟨some (strip first), strip second⟩, rest) := by
  simp only [readQualified?, hfirst, Option.bind_eq_bind, Option.bind_some, Text.skipChar?, if_true,
    hsecond, Option.pure_def]

theorem readLone?_of_readFirst {first : Text} (hfirst : readFirst t = some (first, rest)) :
    readLone? readFirst t = some (⟨none, strip first⟩, rest) := by
  simp only [readLone?, hfirst, Option.bind_eq_bind, Option.bind_some, Option.pure_def]

theorem exists_read?_of_objectName_read? (h : ObjectName.read? .folded t = some (name, rest)) :
    ∃ form ∈ all, form.read? t = some (name, rest) := by
  obtain ⟨first, behind, hfirst, hparts⟩ := ObjectName.read?_eq_some_iff.mp h
  rcases Option.or_eq_some_iff.mp hfirst with hbracketed | ⟨_, hplain⟩
  · rcases hparts with ⟨dotted, second, rfl, hsecond, rfl⟩ | ⟨_, rfl, rfl⟩
    · exact ⟨.bracketedQualified, by decide, readQualified?_of_readFirst hbracketed hsecond⟩
    · exact ⟨.bracketed, by decide, readLone?_of_readFirst hbracketed⟩
  · rcases hparts with ⟨dotted, second, rfl, hsecond, rfl⟩ | ⟨_, rfl, rfl⟩
    · exact ⟨.plainQualified, by decide, readQualified?_of_readFirst hplain hsecond⟩
    · exact ⟨.plain, by decide, readLone?_of_readFirst hplain⟩

end NameForm

namespace NamesHoldNoAnchor

variable {statement : Text}

/-- Behind an anchor, the next one begins behind the name. -/
theorem length_le (h : NamesHoldNoAnchor statement) {x y x' y' named named' rest : Text} {c : Char}
    {name : ObjectName} (hstatement : statement = x ++ c :: y)
    (hanchor : readAnchor? x.getLast? (c :: y) = some named)
    (hname : ObjectName.read? .folded named = some (name, rest)) (hy : y = x' ++ y')
    (hanchor' : readAnchor? (x'.getLast?.or (some c)) y' = some named') :
    y'.length ≤ rest.length := by
  have hleft : (c :: x').getLast? = x'.getLast?.or (some c) := by
    rw [← Pattern.getLast?_cons_or c x' none, Option.or_none]
  have hsplit : c :: y = (c :: x') ++ y' := by rw [hy, List.cons_append]
  have hbehind : y'.length ≤ named.length := by
    rw [hsplit] at hanchor
    exact length_le_of_readAnchor?_inside (List.cons_ne_nil c x') hanchor (by rwa [hleft])
  have hsuffix : y' <:+ named := by
    have hy' : y' <:+ c :: y := hsplit ▸ List.suffix_append (c :: x') y'
    exact List.suffix_of_suffix_length_le hy' (readAnchor?_suffix hanchor) hbehind
  obtain ⟨z, rfl⟩ := hsuffix
  by_contra hinside
  have hstands : noWord z.getLast? = true := by
    cases z with
    | nil => exact noWord_none
    | cons d z =>
      obtain ⟨front, hfront⟩ := readAnchor?_suffix hanchor
      have hx' : c :: x' = front ++ d :: z := by
        rw [hsplit, ← List.append_assoc] at hfront
        exact (List.append_cancel_right hfront).symm
      rw [← hleft, hx', List.getLast?_append_of_ne_nil _ (List.cons_ne_nil d z)] at hanchor'
      exact (exists_of_readAnchor? hanchor').1
  obtain ⟨behind, hword, word, hletters, hread⟩ :=
    exists_anchorWord_of_readAnchor? (readAnchor?_congr_left hstands hanchor')
  have hne : y' ≠ [] := by
    rintro rfl
    exact hinside (Nat.zero_le _)
  have hplace : (⟨y', (), behind⟩ : Hit Unit) ∈ anchorWord.places (z ++ y') :=
    Pattern.mem_placesFrom_of_readsBehind ⟨hne, by rwa [Option.or_none]⟩
  have hmem : z ++ y' ∈ anchors statement :=
    mem_anchors_iff.mpr ⟨x, c :: y, hstatement, List.cons_ne_nil c y, hanchor⟩
  have hlt := h _ hmem (name, rest) (by rw [hname]; exact List.mem_singleton_self _) _ hplace
  have hle := length_le_of_readWord?_inside hletters hname (List.suffix_append z y')
    (Nat.lt_of_not_le hinside) hread
  exact absurd hlt (Nat.not_lt.mpr hle)

/-- So the search for a form of names misses nothing. -/
theorem noOverlap (h : NamesHoldNoAnchor statement) (form : NameForm) :
    (anchored form.read?).NoOverlap none statement := by
  intro x c y found rest hstatement hread x' y' hy hshort
  obtain ⟨name, named⟩ := found
  rw [Option.or_none] at hread
  obtain ⟨hanchor, hname⟩ := anchored_eq_some_iff.mp hread
  obtain ⟨name', rest', hone, hrest⟩ : ∃ name' rest',
      ObjectName.read? .folded named = some (name', rest') ∧ rest'.length ≤ rest.length := by
    rcases NameForm.objectName_read?_of_read? hname with hone | ⟨_, _, hone⟩
    · exact ⟨name, rest, hone, Nat.le_refl _⟩
    · exact hone
  cases hlater : anchored form.read? (x'.getLast?.or (some c)) y' with
  | none => rfl
  | some found =>
    obtain ⟨⟨name'', named''⟩, rest''⟩ := found
    obtain ⟨hanchor', _⟩ := anchored_eq_some_iff.mp hlater
    have hle := h.length_le hstatement hanchor hone hy hanchor'
    rw [hy, List.length_append] at hshort
    omega

theorem hits_eq (h : NamesHoldNoAnchor statement) (form : NameForm) :
    (anchored form.read?).hits statement = (anchored form.read?).places statement :=
  (h.noOverlap form).hits_eq

/-- The candidates are the tables of the anchors. -/
theorem mem_collect_iff (h : NamesHoldNoAnchor statement) (reference : Reference) :
    reference ∈ (Candidate.collect statement).map Candidate.reference ↔
      reference ∈ (anchors statement).filterMap (Reference.target? statement) := by
  rw [List.mem_filterMap, List.mem_map]
  constructor
  · rintro ⟨candidate, hmem, rfl⟩
    obtain ⟨form, _, hform⟩ := List.mem_flatMap.mp hmem
    obtain ⟨⟨here, ⟨name, named⟩, rest⟩, hhits, hhit⟩ := List.mem_filterMap.mp hform
    rw [h.hits_eq form] at hhits
    obtain ⟨x, rfl, hne, hread⟩ := Pattern.exists_of_mem_placesFrom hhits
    rw [Option.or_none] at hread
    obtain ⟨hanchor, hname⟩ := anchored_eq_some_iff.mp hread
    have hofName : Reference.ofName? (x ++ here) named name rest = some candidate.reference := by
      have hmap := Candidate.map_reference_ofHit? form (x ++ here) ⟨here, (name, named), rest⟩
      rw [hhit, Option.map_some] at hmap
      exact hmap.symm
    refine ⟨named, mem_anchors_iff.mpr ⟨x, here, rfl, hne, hanchor⟩, ?_⟩
    rcases NameForm.objectName_read?_of_read? hname with hone | ⟨hqualifier, hdot, _⟩
    · exact Reference.target?_eq_some_iff.mpr ⟨name, rest, hone, hofName⟩
    · exact absurd ⟨hqualifier, hdot⟩ (Reference.of_ofName?_eq_some hofName).1
  · rintro ⟨named, hmem, htarget⟩
    obtain ⟨x, here, rfl, hne, hanchor⟩ := mem_anchors_iff.mp hmem
    obtain ⟨name, rest, hone, hofName⟩ := Reference.target?_eq_some_iff.mp htarget
    obtain ⟨form, hform, hread⟩ := NameForm.exists_read?_of_objectName_read? hone
    have hhit : (⟨here, (name, named), rest⟩ : Hit (ObjectName × Text)) ∈
        (anchored form.read?).hits (x ++ here) := by
      rw [h.hits_eq form]
      refine Pattern.mem_placesFrom_of_readsBehind ⟨hne, ?_⟩
      rw [Option.or_none]
      exact anchored_eq_some_iff.mpr ⟨hanchor, hread⟩
    rw [← Candidate.map_reference_ofHit? form _ ⟨here, (name, named), rest⟩,
      Option.map_eq_some_iff] at hofName
    obtain ⟨candidate, hcandidate, rfl⟩ := hofName
    exact ⟨candidate, List.mem_flatMap.mpr
      ⟨form, hform, List.mem_filterMap.mpr ⟨_, hhit, hcandidate⟩⟩, rfl⟩

theorem isBefore_target? (h : NamesHoldNoAnchor statement) {x y x' y' named named' : Text}
    {c : Char} {reference reference' : Reference} (hstatement : statement = x ++ c :: y)
    (hanchor : readAnchor? x.getLast? (c :: y) = some named) (hy : y = x' ++ y')
    (hanchor' : readAnchor? (x'.getLast?.or (some c)) y' = some named')
    (htarget : Reference.target? statement named = some reference)
    (htarget' : Reference.target? statement named' = some reference') :
    reference.IsBefore reference' := by
  obtain ⟨name, rest, hname, hofName⟩ := Reference.target?_eq_some_iff.mp htarget
  obtain ⟨name', rest', _, hofName'⟩ := Reference.target?_eq_some_iff.mp htarget'
  obtain ⟨_, hstart, hlength⟩ := Reference.of_ofName?_eq_some hofName
  obtain ⟨_, hstart', _⟩ := Reference.of_ofName?_eq_some hofName'
  obtain ⟨written, hwritten, _⟩ := ObjectName.exists_of_read? hname
  have hnamed : named <:+ statement :=
    hstatement ▸ (readAnchor?_suffix hanchor).trans (List.suffix_append x _)
  have hrest : rest <:+ named := hwritten ▸ List.suffix_append written rest
  have hy' : y' <:+ statement := by
    rw [hstatement, hy, ← List.cons_append, ← List.append_assoc]
    exact List.suffix_append _ _
  have hsuffix : y' <:+ rest :=
    List.suffix_of_suffix_length_le hy' (hrest.trans hnamed)
      (h.length_le hstatement hanchor hname hy hanchor')
  have hsize := Text.size_le_of_suffix hnamed
  have hsizeRest := Text.size_le_of_suffix hrest
  have hsizeLater := Text.size_le_of_suffix hsuffix
  have hsizeNext := Text.size_lt_of_suffix (readAnchor?_suffix hanchor') (readAnchor?_length hanchor')
  have hstrict := Text.size_lt_of_suffix hrest (ObjectName.read?_length hname)
  simp only [Reference.IsBefore, Reference.stop]
  omega

theorem pairwise_targets (h : NamesHoldNoAnchor statement) :
    ((anchors statement).filterMap (Reference.target? statement)).Pairwise Reference.IsBefore := by
  rw [List.pairwise_filterMap, anchors, List.pairwise_map]
  apply Pattern.pairwise_placesFrom
  intro x c y named rest hstatement hread hit hlater reference htarget reference' htarget'
  obtain ⟨x', hy, _, hread'⟩ := Pattern.exists_of_mem_placesFrom hlater
  rw [Option.or_none] at hread
  obtain ⟨hanchor, _⟩ := anchor_eq_some_iff.mp hread
  obtain ⟨hanchor', _⟩ := anchor_eq_some_iff.mp hread'
  exact h.isBefore_target? hstatement hanchor hy hanchor' htarget htarget'

end NamesHoldNoAnchor

/-- Where no name holds an anchor, the references are the tables named behind the anchors: one for
each anchor that names a table, in the order of the text. -/
theorem references_eq_filterMap_anchors (statement : Text) (h : NamesHoldNoAnchor statement) :
    references statement = (anchors statement).filterMap (Reference.target? statement) :=
  Reference.reduce_eq_of_mem_iff h.mem_collect_iff h.pairwise_targets

/-- All spellings, a name of three parts, a function, and a lone name in front of a dot. -/
theorem references_eq_filterMap_anchors_spellings :
    let statement :=
      ("SELECT * FROM [my dbo].#Users u JOIN sales.[Orders] JOIN[x] join  Joint, " ++
        "[y] from f (1) JOIN a.b.c JOIN d. JOIN [e].").toList
    NamesHoldNoAnchor statement ∧ (anchors statement).length = 7 ∧
      references statement =
        [⟨some "my dbo".toList, "#Users".toList, 14, 15, true⟩,
          ⟨some "sales".toList, "Orders".toList, 37, 14, false⟩,
          ⟨none, "Joint".toList, 66, 5, false⟩, ⟨some "a".toList, "b".toList, 93, 3, false⟩] ∧
      references statement = (anchors statement).filterMap (Reference.target? statement) := by
  intro statement
  have h : NamesHoldNoAnchor statement := by decide +kernel
  have heq := references_eq_filterMap_anchors statement h
  refine ⟨h, by decide +kernel, ?_, heq⟩
  rw [heq]
  decide +kernel

end SqlAssist
