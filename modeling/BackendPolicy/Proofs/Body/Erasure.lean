import BackendPolicy.Proofs.Body.Attributes

/-!
This module contains contents and failures without their ranges, and structures without their spans. What a schema
selects from a body and what is wrong in it are then the same, whatever file the body is read from and wherever
in the file it is.
-/

namespace BackendPolicy

mutual

def Structure.erase : Structure → Structure
  | .attribute key value _ _ => .attribute key value ⟨0, 0⟩ ⟨0, 0⟩
  | .block kind _ labels body =>
    .block kind ⟨0, 0⟩ (labels.map fun label => ⟨label.text, ⟨0, 0⟩⟩) (eraseBody body)
termination_by structural s => s

def eraseBody : Body → Body
  | [] => []
  | s :: rest => s.erase :: eraseBody rest
termination_by structural body => body

end

def Attribute.erase (a : Attribute) : Attribute :=
  { a with range := .nowhere, valueRange := .nowhere }

mutual

def BodyContent.erase : BodyContent → BodyContent
  | ⟨attributes, blocks⟩ => ⟨attributes.map Attribute.erase, eraseBlocks blocks⟩
termination_by structural content => content

def Block.erase : Block → Block
  | ⟨kind, labels, body, _, _, labelRanges⟩ =>
    ⟨kind, labels, body.erase, .nowhere, .nowhere, labelRanges.map fun _ => .nowhere⟩
termination_by structural block => block

def eraseBlocks : List Block → List Block
  | [] => []
  | block :: blocks => block.erase :: eraseBlocks blocks
termination_by structural blocks => blocks

end

def RunError.erase : RunError → RunError
  | labelCount kind expected found _ => labelCount kind expected found .nowhere
  | missingAttribute name _ => missingAttribute name .nowhere
  | evaluation _ error => evaluation .nowhere error
  | unsuitable _ reason => unsuitable .nowhere reason
  | e => e

def withoutRanges {α β : Type} (erase : α → β) (outcome : Except RunError α) : Except RunError β :=
  (outcome.map erase).mapError RunError.erase

theorem withoutRanges_orFirst {α β : Type} (erase : α → β) (faults : List RunError) (value : α)
    : withoutRanges erase (orFirst faults value) = orFirst (faults.map RunError.erase) (erase value) := by
  cases faults with
  | nil => rfl
  | cons => rfl

theorem eraseBody_eq_map (body : Body) : eraseBody body = body.map Structure.erase := by
  induction body with
  | nil => rfl
  | cons s rest ih =>
    rw [eraseBody]
    rw [ih]
    rfl

theorem eraseBlocks_eq_map (blocks : List Block) : eraseBlocks blocks = blocks.map Block.erase := by
  induction blocks with
  | nil => rfl
  | cons block blocks ih =>
    rw [eraseBlocks]
    rw [ih]
    rfl

namespace BodyContent

variable (content : BodyContent)

@[simp]
theorem attributes_erase : content.erase.attributes = content.attributes.map Attribute.erase := by
  cases content
  rfl

@[simp]
theorem blocks_erase : content.erase.blocks = content.blocks.map Block.erase := by
  cases content
  exact eraseBlocks_eq_map _

theorem contains_erase (name : String)
    : content.erase.attributes.contains name = content.attributes.contains name := by
  unfold Dict.contains
  simp

theorem erase_eq_of {content other : BodyContent}
    (hattributes : content.attributes.map Attribute.erase = other.attributes.map Attribute.erase)
    (hblocks : content.blocks.map Block.erase = other.blocks.map Block.erase)
    : content.erase = other.erase := by
  rw [← attributes_erase] at hattributes
  rw [← attributes_erase] at hattributes
  rw [← blocks_erase] at hblocks
  rw [← blocks_erase] at hblocks
  revert hattributes hblocks
  cases content.erase
  cases other.erase
  rintro rfl rfl
  rfl

end BodyContent

theorem map_flatMap_congr {α β γ : Type} {f g : α → List β} {erase : β → γ} {as : List α}
    (h : ∀ a ∈ as, (f a).map erase = (g a).map erase)
    : (as.flatMap f).map erase = (as.flatMap g).map erase := by
  rw [List.map_flatMap]
  rw [List.map_flatMap]
  exact List.flatMap_congr h

variable (index other : LineIndex)

theorem erase_structureAttribute? (name : String) (s : Structure)
    : (structureAttribute? index name s).map Attribute.erase
        =
      (structureAttribute? other name s.erase).map Attribute.erase := by
  rcases s with ⟨key, value, span, valueSpan⟩ | _
  . unfold Structure.erase structureAttribute?
    dsimp only
    split <;> rfl
  . rfl

theorem erase_attributeOf? (name : String) (body : Body)
    : (attributeOf? index name body).map Attribute.erase
        =
      (attributeOf? other name (eraseBody body)).map Attribute.erase := by
  unfold attributeOf?
  rw [eraseBody_eq_map]
  rw [← List.getLast?_map]
  rw [← List.getLast?_map]
  rw [List.map_filterMap]
  rw [List.map_filterMap]
  rw [List.filterMap_map]
  simp only [erase_structureAttribute? index other]
  rfl

theorem erase_selectedAttribute? (schema : BodySchema) (s : Structure)
    : (selectedAttribute? index schema s).toList.map (fun e => (e.1, e.2.erase))
        =
      (selectedAttribute? other schema s.erase).toList.map (fun e => (e.1, e.2.erase)) := by
  rcases s with ⟨key, value, span, valueSpan⟩ | _
  . unfold Structure.erase selectedAttribute?
    dsimp only
    split <;> rfl
  . rfl

theorem erase_missingFaults (schema : BodySchema) (content : BodyContent) (range : Range)
    : (missingFaults schema content range).map RunError.erase
        =
      missingFaults schema content.erase .nowhere := by
  unfold missingFaults
  simp only [BodyContent.contains_erase, List.map_map]
  rfl

theorem erase_selectedBlock?_of {schema : BodySchema} {kind : String} {kindSpan : Span} {labels : List Label}
    {inner : Body}
    (hinner : ∀ innerSchema,
      (select index innerSchema inner).erase = (select other innerSchema (eraseBody inner)).erase)
    : (selectedBlock? index schema (.block kind kindSpan labels inner)).toList.map Block.erase
        =
      (selectedBlock? other schema (Structure.erase (.block kind kindSpan labels inner))).toList.map
        Block.erase := by
  unfold Structure.erase
  rw [selectedBlock?_block]
  rw [selectedBlock?_block]
  cases schema.block? kind with
  | none => rfl
  | some entry =>
    have hbody : (selectedBody index entry inner).erase = (selectedBody other entry (eraseBody inner)).erase := by
      unfold selectedBody
      cases entry.body with
      | none => rfl
      | some innerSchema => exact hinner innerSchema
    simp [Block.erase, hbody]

theorem erase_select (schema : BodySchema) (body : Body)
    : (select index schema body).erase = (select other schema (eraseBody body)).erase := by
  rw [eraseBody_eq_map]
  apply BodyContent.erase_eq_of
  . unfold select selectedAttributes
    rw [Dict.map_ofList]
    rw [Dict.map_ofList]
    rw [List.filterMap_eq_flatMap_toList]
    rw [List.filterMap_eq_flatMap_toList]
    rw [List.flatMap_map]
    rw [map_flatMap_congr fun s _ => erase_selectedAttribute? index other schema s]
  . unfold select
    dsimp only
    rw [selectedBlocks_eq_filterMap]
    rw [selectedBlocks_eq_filterMap]
    rw [List.filterMap_eq_flatMap_toList]
    rw [List.filterMap_eq_flatMap_toList]
    rw [List.flatMap_map]
    apply map_flatMap_congr
    intro s hs
    rcases s with _ | ⟨kind, kindSpan, labels, inner⟩
    . rfl
    . apply erase_selectedBlock?_of
      intro innerSchema
      -- The body of the block is a part of the body, so the recursion ends.
      have := List.sizeOf_lt_of_mem hs
      exact erase_select innerSchema inner
termination_by sizeOf body
decreasing_by
  simp only [Structure.block.sizeOf_spec] at this
  omega

theorem erase_selectedBlock? (schema : BodySchema) (s : Structure)
    : (selectedBlock? index schema s).toList.map Block.erase
        =
      (selectedBlock? other schema s.erase).toList.map Block.erase := by
  rcases s with _ | ⟨kind, kindSpan, labels, inner⟩
  . rfl
  . apply erase_selectedBlock?_of
    intro innerSchema
    apply erase_select

theorem erase_labelFaults (entry : BlockSchema) (kindSpan : Span) (labels : List Label)
    : (labelFaults index entry kindSpan labels).map RunError.erase
        =
      (labelFaults other entry ⟨0, 0⟩ (labels.map fun label => ⟨label.text, ⟨0, 0⟩⟩)).map RunError.erase := by
  unfold labelFaults
  rw [List.length_map]
  split <;> rfl

theorem erase_structureFaults (schema : BodySchema) (s : Structure)
    : (structureFaults index schema s).map RunError.erase
        =
      (structureFaults other schema s.erase).map RunError.erase := by
  rcases s with _ | ⟨kind, kindSpan, labels, inner⟩
  . rfl
  . unfold Structure.erase
    rw [structureFaults_block]
    rw [structureFaults_block]
    cases schema.block? kind with
    | none => rfl
    | some entry =>
      dsimp only
      rw [List.map_append]
      rw [List.map_append]
      rw [erase_labelFaults index other]
      congr 1
      unfold innerFaults
      cases entry.body with
      | none => rfl
      | some innerSchema =>
        dsimp only
        rw [List.map_append]
        rw [List.map_append]
        rw [erase_missingFaults]
        rw [erase_missingFaults]
        rw [erase_select index other]
        congr 1
        rw [eraseBody_eq_map]
        rw [faults_eq_flatMap]
        rw [faults_eq_flatMap]
        rw [List.flatMap_map]
        apply map_flatMap_congr
        intro s hs
        have := List.sizeOf_lt_of_mem hs
        exact erase_structureFaults innerSchema s
termination_by sizeOf s
decreasing_by
  simp only [Structure.block.sizeOf_spec]
  omega

end BackendPolicy
