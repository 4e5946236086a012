import BackendPolicy.Proofs.Body.Attributes

/-!
This module contains conformity: which contents have the shape that a schema describes, at every depth.
Extraction without faults only yields blocks of that shape.
-/

namespace BackendPolicy

mutual

/--
Whether a content has the shape that a schema describes: every attribute has an entry, every required
attribute is there, and every block conforms.
-/
inductive Conforms : BodySchema → BodyContent → Prop where
  | intro {schema : BodySchema} {content : BodyContent}
      (names : ∀ name, content.attributes.contains name → schema.NamesAttribute name)
      (required : ∀ a ∈ schema.attributes, a.required → content.attributes.contains a.name)
      (blocks : ∀ block ∈ content.blocks, BlockConforms schema block)
      : Conforms schema content

/--
Whether a block has as many labels and label ranges as the first entry of its kind names, and a body that
conforms to the schema of that entry.
-/
inductive BlockConforms : BodySchema → Block → Prop where
  | intro {schema : BodySchema} {block : Block} (entry : BlockSchema)
      (kind : schema.blocks.find? (fun b => b.kind = block.kind) = some entry)
      (labels : block.labels.length = entry.labelNames.length)
      (labelRanges : block.labelRanges.length = entry.labelNames.length)
      (closed : entry.body = none → block.body = .empty)
      (opened : ∀ inner, entry.body = some inner → Conforms inner block.body)
      : BlockConforms schema block

end

variable {index : LineIndex} {schema : BodySchema} {content : BodyContent} {block : Block}

theorem labelFaults_eq_nil_iff {entry : BlockSchema} {kindSpan : Span} {labels : List Label}
    : labelFaults index entry kindSpan labels = [] ↔ labels.length = entry.labelNames.length := by
  unfold labelFaults
  split
  . next h => simp [h]
  . next h => simp [h]

theorem missingFaults_eq_nil_iff {range : Range}
    : missingFaults schema content range = []
        ↔
      ∀ a ∈ schema.attributes, a.required → content.attributes.contains a.name := by
  unfold missingFaults
  simp

theorem namesAttribute_of_contains {body : Body} {name : String}
    (h : (select index schema body).attributes.contains name)
    : schema.NamesAttribute name := by
  obtain ⟨found, hfound⟩ := Option.isSome_iff_exists.1 h
  exact (get?_select_eq_some_iff.1 hfound).1

theorem blockConforms_of_faults_eq_nil (schema : BodySchema) (body : Body)
    (h : faults index schema body = [])
    : ∀ block ∈ selectedBlocks index schema body, BlockConforms schema block := by
  intro block hblock
  rw [selectedBlocks_eq_filterMap] at hblock
  obtain ⟨s, hs, hselected⟩ := List.mem_filterMap.1 hblock
  rw [faults_eq_flatMap] at h
  have hfaults := List.flatMap_eq_nil_iff.1 h s hs
  rcases s with _ | ⟨kind, kindSpan, labels, inner⟩
  . simp [selectedBlock?] at hselected
  . obtain ⟨entry, hentry, hhead, hbody⟩ := exists_entry_of_selectedBlock? hselected
    rw [structureFaults_block] at hfaults
    rw [hentry] at hfaults
    obtain ⟨hlabels, hinner⟩ := List.append_eq_nil_iff.1 hfaults
    rw [labelFaults_eq_nil_iff] at hlabels
    refine .intro entry ?_ ?_ ?_ ?_ ?_
    . rw [hhead.kind_eq]
      exact hentry
    . rw [hhead.labels_eq]
      simpa using hlabels
    . rw [hhead.labelRanges_eq]
      simpa using hlabels
    . intro hnone
      rw [hbody]
      unfold selectedBody
      rw [hnone]
    . intro innerSchema hsome
      rw [hbody]
      unfold selectedBody
      unfold innerFaults at hinner
      rw [hsome] at hinner ⊢
      obtain ⟨hnested, hmissing⟩ := List.append_eq_nil_iff.1 hinner
      -- The body of the block is a part of the body, so the recursion ends.
      have := List.sizeOf_lt_of_mem hs
      refine .intro ?_ ?_ ?_
      . intro name
        exact namesAttribute_of_contains
      . exact missingFaults_eq_nil_iff.1 hmissing
      . exact blockConforms_of_faults_eq_nil innerSchema inner hnested
termination_by sizeOf body
decreasing_by
  simp only [Structure.block.sizeOf_spec] at this
  omega

theorem select_conforms {body : Body} {range : Range} (h : faults index schema body = [])
    (hmissing : missingFaults schema (select index schema body) range = [])
    : Conforms schema (select index schema body) := by
  refine .intro ?_ ?_ ?_
  . intro name
    exact namesAttribute_of_contains
  . exact missingFaults_eq_nil_iff.1 hmissing
  . exact blockConforms_of_faults_eq_nil schema body h

theorem BlockConforms.of_ofBlock {entry : BlockSchema} {inner : BodySchema} (hbody : entry.body = some inner)
    (h : BlockConforms (.ofBlock entry) block)
    : block.labels.length = entry.labelNames.length ∧ Conforms inner block.body := by
  obtain ⟨found, hfound, hlabels, _, _, hinner⟩ := h
  have hmem : found ∈ (BodySchema.ofBlock entry).blocks := List.mem_of_find?_eq_some hfound
  obtain rfl : found = entry := by simpa [BodySchema.ofBlock] using hmem
  exact ⟨hlabels, hinner inner hbody⟩

theorem Conforms.blockConforms (h : Conforms schema content) (hblock : block ∈ content.blocks)
    : BlockConforms schema block := by
  obtain ⟨_, _, blocks⟩ := h
  exact blocks block hblock

end BackendPolicy
