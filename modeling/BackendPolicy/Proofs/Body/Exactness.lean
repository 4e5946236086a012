import BackendPolicy.Proofs.Body.Attributes

/-!
This module contains the exactness of extraction: nothing that a schema selects is lost, doubled or made up.
`Selected` says which content a schema selects from a body without saying how it is found. The main
statement is `extract_exact`: a content that is extracted is selected, and no other one is.
-/

namespace BackendPolicy

def isSelectedBlock (schema : BodySchema) : Structure → Bool
  | .attribute _ _ _ _ => false
  | .block kind _ _ _ => schema.blocks.any fun entry => entry.kind = kind

def sourceBlocks (schema : BodySchema) (body : Body) : Body :=
  body.filter (isSelectedBlock schema)

/--
Whether a content holds exactly what a schema selects from a body. The attributes are those of the body that
have an entry. The blocks are those of the body whose kind has an entry, one for one and in source order, and
the first entry of the kind says what is selected from the body of the block.
-/
inductive Selected (index : LineIndex) : BodySchema → Body → BodyContent → Prop where
  | intro {schema : BodySchema} {body : Body} {content : BodyContent}
      (names : ∀ name,
        content.attributes.contains name ↔ Defines body name ∧ schema.NamesAttribute name)
      (own : ∀ name found,
        content.attributes.get? name = some found → IsLastAttribute index body name found)
      (count : content.blocks.length = (sourceBlocks schema body).length)
      (heads : ∀ (i : Nat) kind kindSpan labels inner found,
        (sourceBlocks schema body)[i]? = some (.block kind kindSpan labels inner) →
        content.blocks[i]? = some found →
        HasHead index kind kindSpan labels found)
      (closed : ∀ (i : Nat) kind kindSpan labels inner found entry,
        (sourceBlocks schema body)[i]? = some (.block kind kindSpan labels inner) →
        content.blocks[i]? = some found →
        schema.blocks.find? (fun entry => entry.kind = kind) = some entry →
        entry.body = none →
        found.body = .empty)
      (opened : ∀ (i : Nat) kind kindSpan labels inner found entry innerSchema,
        (sourceBlocks schema body)[i]? = some (.block kind kindSpan labels inner) →
        content.blocks[i]? = some found →
        schema.blocks.find? (fun entry => entry.kind = kind) = some entry →
        entry.body = some innerSchema →
        Selected index innerSchema inner found.body)
      : Selected index schema body content

theorem map_some_filterMap {f : α → Option β} {p : α → Bool} (h : ∀ a, p a = (f a).isSome)
    (as : List α)
    : (as.filterMap f).map some = (as.filter p).map f := by
  induction as with
  | nil => rfl
  | cons a as ih =>
    rw [List.filterMap_cons]
    rw [List.filter_cons]
    rw [h a]
    cases hf : f a with
    | none => simp [ih]
    | some b => simp [ih, hf]

variable {index : LineIndex} {schema : BodySchema} {body : Body} {content : BodyContent}

theorem isSelectedBlock_eq_isSome (index : LineIndex) (schema : BodySchema) (s : Structure)
    : isSelectedBlock schema s = (selectedBlock? index schema s).isSome := by
  rcases s with _ | ⟨kind, kindSpan, labels, inner⟩
  . rfl
  . rw [selectedBlock?_block]
    rw [Option.isSome_map]
    unfold BodySchema.block?
    rw [List.isSome_find?]
    rfl

theorem length_selectedBlocks
    : (selectedBlocks index schema body).length = (sourceBlocks schema body).length := by
  have h := map_some_filterMap (isSelectedBlock_eq_isSome index schema) body
  rw [selectedBlocks_eq_filterMap]
  simpa [sourceBlocks] using congrArg List.length h

theorem selectedBlock?_of_getElem? {i : Nat} {s : Structure} {found : Block}
    (hs : (sourceBlocks schema body)[i]? = some s)
    (hfound : (selectedBlocks index schema body)[i]? = some found)
    : selectedBlock? index schema s = some found := by
  have h := map_some_filterMap (isSelectedBlock_eq_isSome index schema) body
  rw [← selectedBlocks_eq_filterMap] at h
  have hi := congrArg (fun blocks => blocks[i]?) h
  simp only [List.getElem?_map, hfound] at hi
  unfold sourceBlocks at hs
  simp only [hs, Option.map_some, Option.some.injEq] at hi
  exact hi.symm

theorem select_selected (schema : BodySchema) (body : Body)
    : Selected index schema body (select index schema body) := by
  constructor
  . intro name
    unfold Dict.contains
    rw [get?_select]
    rw [← isSome_attributeOf?_iff index]
    rw [← BodySchema.isSome_attribute?_iff]
    split
    . next h => simp [h]
    . next h => simp [h]
  . intro name found h
    exact (get?_select_eq_some_iff.1 h).2
  . exact length_selectedBlocks
  . intro i kind kindSpan labels inner found hs hfound
    obtain ⟨_, _, hhead, _⟩ := exists_entry_of_selectedBlock? (selectedBlock?_of_getElem? hs hfound)
    exact hhead
  . intro i kind kindSpan labels inner found entry hs hfound hentry hbody
    obtain ⟨entry', hentry', _, hinner⟩ :=
      exists_entry_of_selectedBlock? (selectedBlock?_of_getElem? hs hfound)
    have : entry' = entry := Option.some.inj (hentry'.symm.trans hentry)
    subst this
    rw [hinner]
    unfold selectedBody
    rw [hbody]
  . intro i kind kindSpan labels inner found entry innerSchema hs hfound hentry hbody
    obtain ⟨entry', hentry', _, hinner⟩ :=
      exists_entry_of_selectedBlock? (selectedBlock?_of_getElem? hs hfound)
    have : entry' = entry := Option.some.inj (hentry'.symm.trans hentry)
    subst this
    rw [hinner]
    unfold selectedBody
    rw [hbody]
    -- The body of the block is a part of the body, so the recursion ends.
    have hmem : Structure.block kind kindSpan labels inner ∈ body :=
      List.mem_of_mem_filter (List.mem_of_getElem? hs)
    have := List.sizeOf_lt_of_mem hmem
    exact select_selected innerSchema inner
termination_by sizeOf body
decreasing_by
  simp only [Structure.block.sizeOf_spec] at this
  omega

namespace Selected

theorem get?_eq_some_iff (h : Selected index schema body content) {name : String} {found : Attribute}
    : content.attributes.get? name = some found
        ↔
      schema.NamesAttribute name ∧ IsLastAttribute index body name found := by
  obtain ⟨names, own, _, _, _, _⟩ := h
  have hname := names name
  unfold Dict.contains at hname
  constructor
  . intro hfound
    rw [hfound] at hname
    exact ⟨(hname.1 rfl).2, own name found hfound⟩
  . intro ⟨hentry, hlast⟩
    have hdefines : Defines body name := by
      rw [← isSome_attributeOf?_iff index]
      rw [attributeOf?_eq_some_iff.2 hlast]
      rfl
    obtain ⟨other, hother⟩ := Option.isSome_iff_exists.1 (hname.2 ⟨hdefines, hentry⟩)
    rw [hother]
    rw [← attributeOf?_eq_some_iff] at hlast
    rw [← attributeOf?_eq_some_iff.2 (own name other hother)]
    exact hlast

theorem attributes_eq {other : BodyContent} (h : Selected index schema body content)
    (hother : Selected index schema body other)
    : content.attributes = other.attributes := by
  apply Dict.ext_get?
  intro name
  apply Option.ext
  intro found
  rw [h.get?_eq_some_iff]
  rw [hother.get?_eq_some_iff]

end Selected

theorem HasHead.eq_of_body_eq {kind : String} {kindSpan : Span} {labels : List Label} {found other : Block}
    (h : HasHead index kind kindSpan labels found) (hother : HasHead index kind kindSpan labels other)
    (hbody : found.body = other.body)
    : found = other := by
  have hkind := h.kind_eq.trans hother.kind_eq.symm
  have hlabels := h.labels_eq.trans hother.labels_eq.symm
  have hlabelRanges := h.labelRanges_eq.trans hother.labelRanges_eq.symm
  have hkindRange := h.kindRange_eq.trans hother.kindRange_eq.symm
  have hheadRange := h.headRange_eq.trans hother.headRange_eq.symm
  cases found
  cases other
  rw [Block.mk.injEq]
  exact ⟨hkind, hlabels, hbody, hheadRange, hkindRange, hlabelRanges⟩

theorem exists_block_of_getElem? {i : Nat} {s : Structure} (hs : (sourceBlocks schema body)[i]? = some s)
    : ∃ kind kindSpan labels inner entry,
        s = .block kind kindSpan labels inner
          ∧ schema.blocks.find? (fun entry => entry.kind = kind) = some entry := by
  have hmem : s ∈ sourceBlocks schema body := List.mem_of_getElem? hs
  have hselected : isSelectedBlock schema s = true := List.of_mem_filter hmem
  rcases s with _ | ⟨kind, kindSpan, labels, inner⟩
  . simp [isSelectedBlock] at hselected
  . unfold isSelectedBlock at hselected
    dsimp only at hselected
    rw [← List.isSome_find?] at hselected
    obtain ⟨entry, hentry⟩ := Option.isSome_iff_exists.1 hselected
    exact ⟨kind, kindSpan, labels, inner, entry, rfl, hentry⟩

theorem Selected.unique {other : BodyContent} (h : Selected index schema body content)
    (hother : Selected index schema body other)
    : content = other := by
  induction h generalizing other with
  | @intro schema body content names own count heads closed opened ih =>
    have hattributes := (Selected.intro names own count heads closed opened).attributes_eq hother
    obtain ⟨_, _, count', heads', closed', opened'⟩ := hother
    -- Both contents have one block for every selected block of the source, so they are compared place by place.
    have hblocks : content.blocks = other.blocks := by
      apply List.ext_getElem?
      intro i
      cases hs : (sourceBlocks schema body)[i]? with
      | none =>
        have := List.getElem?_eq_none_iff.1 hs
        rw [List.getElem?_eq_none (by omega)]
        rw [List.getElem?_eq_none (by omega)]
      | some s =>
        have hlt := (List.getElem?_eq_some_iff.1 hs).1
        obtain ⟨found, hfound⟩ : ∃ found, content.blocks[i]? = some found := by
          exact ⟨_, List.getElem?_eq_getElem (by omega)⟩
        obtain ⟨found', hfound'⟩ : ∃ found, other.blocks[i]? = some found := by
          exact ⟨_, List.getElem?_eq_getElem (by omega)⟩
        obtain ⟨kind, kindSpan, labels, inner, entry, rfl, hentry⟩ := exists_block_of_getElem? hs
        rw [hfound]
        rw [hfound']
        congr 1
        apply (heads i _ _ _ _ _ hs hfound).eq_of_body_eq (heads' i _ _ _ _ _ hs hfound')
        cases hbody : entry.body with
        | none =>
          rw [closed i _ _ _ _ _ entry hs hfound hentry hbody]
          rw [closed' i _ _ _ _ _ entry hs hfound' hentry hbody]
        | some innerSchema =>
          apply ih i _ _ _ _ _ entry innerSchema hs hfound hentry hbody
          exact opened' i _ _ _ _ _ entry innerSchema hs hfound' hentry hbody
    cases content
    cases other
    rw [BodyContent.mk.injEq]
    exact ⟨hattributes, hblocks⟩

/--
An extracted content is the only one that holds exactly what the schema selects.
-/
theorem extract_exact (h : extract index schema body = .ok content)
    : Selected index schema body content ∧ ∀ other, Selected index schema body other → other = content := by
  have hselect := (extract_eq_ok_iff index schema).1 h
  have hselected : Selected index schema body content := by
    rw [← hselect.2]
    apply select_selected
  exact ⟨hselected, fun other hother => hother.unique hselected⟩

theorem extract_exact_nested
    : let index := LineIndex.ofSource "a.tf" "a \"x\" \x7b\n  k = 1\n  a = 2\n\x7d\nb \x7b\n\x7d\na \"y\" \x7b\n\x7d\n"
      let schema : BodySchema := {
        attributes := [{ name := "k", required := true }]
        blocks := [
          { kind := "a", labelNames := ["name"], body := some (.ofAttributes ["k", "k"]) },
          { kind := "a" }] }
      let body : Body := [
        .block "a" ⟨0, 1⟩ [⟨"x", ⟨2, 5⟩⟩] [
          .attribute "k" (.number (.int 1)) ⟨10, 15⟩ ⟨14, 15⟩,
          .attribute "a" (.number (.int 2)) ⟨18, 23⟩ ⟨22, 23⟩],
        .block "b" ⟨26, 27⟩ [] [],
        .block "a" ⟨32, 33⟩ [⟨"y", ⟨34, 37⟩⟩] []]
      extract index schema body = .ok (select index schema body)
        ∧ Selected index schema body (select index schema body) := by
  intro index schema body
  have h : extract index schema body = .ok (select index schema body) := by rfl
  exact ⟨h, (extract_exact h).1⟩

end BackendPolicy
