import BackendPolicy.Proofs.Body.Conformity

/-!
This module contains what is selected and what is wrong under the schemas that the program builds: one kind
of block, or some optional attributes.
-/

namespace BackendPolicy

namespace BodySchema

theorem block?_ofBlock (entry : BlockSchema) (kind : String)
    : (ofBlock entry).block? kind = if kind = entry.kind then some entry else none := by
  unfold ofBlock block?
  by_cases h : kind = entry.kind
  . simp [h]
  . simp [h, Ne.symm h]

theorem block?_ofAttributes (names : List String) (kind : String)
    : (ofAttributes names).block? kind = none := rfl

theorem namesAttribute_ofAttributes_iff {names : List String} {name : String}
    : (ofAttributes names).NamesAttribute name ↔ name ∈ names := by
  unfold ofAttributes NamesAttribute
  simp

theorem not_required_of_mem_ofAttributes {names : List String} {a : AttributeSchema}
    (h : a ∈ (ofAttributes names).attributes)
    : a.required = false := by
  unfold ofAttributes at h
  obtain ⟨name, _, rfl⟩ := List.mem_map.1 h
  rfl

end BodySchema

open BodySchema

variable (index : LineIndex) (head : Range)

theorem missingFaults_eq_nil_of_not_required {schema : BodySchema}
    (h : ∀ a ∈ schema.attributes, a.required = false) (content : BodyContent) (range : Range)
    : missingFaults schema content range = [] := by
  rw [missingFaults_eq_nil_iff]
  intro a ha hrequired
  rw [h a ha] at hrequired
  contradiction

theorem innerFaults_ofBlock {entry inner : BlockSchema} (hbody : entry.body = some (.ofBlock inner))
    (body : Body)
    : innerFaults index entry head body = faults index (.ofBlock inner) body := by
  unfold innerFaults
  rw [hbody]
  dsimp only
  rw [missingFaults_eq_nil_of_not_required]
  . rw [List.append_nil]
  . intro a ha
    cases ha

theorem innerFaults_ofAttributes {entry : BlockSchema} {names : List String}
    (hbody : entry.body = some (.ofAttributes names)) (body : Body)
    : innerFaults index entry head body = [] := by
  unfold innerFaults
  rw [hbody]
  dsimp only
  rw [missingFaults_eq_nil_of_not_required]
  . rw [List.append_nil]
    rw [faults_eq_flatMap]
    rw [List.flatMap_eq_nil_iff]
    intro s hs
    rcases s with _ | ⟨kind, kindSpan, labels, inner⟩
    . rfl
    . rw [structureFaults_block]
      rw [block?_ofAttributes]
  . intro a
    exact not_required_of_mem_ofAttributes

theorem structureFaults_ofBlock (entry : BlockSchema) (kind : String) (kindSpan : Span)
    (labels : List Label) (body : Body)
    : structureFaults index (.ofBlock entry) (.block kind kindSpan labels body)
        =
      if kind = entry.kind then
        labelFaults index entry kindSpan labels
          ++ innerFaults index entry (headOf index kindSpan labels) body
      else
        [] := by
  rw [structureFaults_block]
  rw [block?_ofBlock]
  by_cases h : kind = entry.kind
  . rw [if_pos h]
    rw [if_pos h]
  . rw [if_neg h]
    rw [if_neg h]

theorem selectedBlock?_ofBlock (entry : BlockSchema) (kind : String) (kindSpan : Span)
    (labels : List Label) (body : Body)
    : selectedBlock? index (.ofBlock entry) (.block kind kindSpan labels body)
        =
      if kind = entry.kind then
        some ⟨kind, labels.map Label.text, selectedBody index entry body, headOf index kindSpan labels,
          index.range kindSpan, labels.map fun label => index.range label.span⟩
      else
        none := by
  rw [selectedBlock?_block]
  rw [block?_ofBlock]
  split
  . next h =>
    rw [h]
    rfl
  . rfl

theorem structureFaults_ofBlock_ofAttributes (entry : BlockSchema) {names : List String}
    (hbody : entry.body = some (.ofAttributes names)) (kind : String) (kindSpan : Span)
    (labels : List Label) (body : Body)
    : structureFaults index (.ofBlock entry) (.block kind kindSpan labels body)
        =
      if kind = entry.kind then labelFaults index entry kindSpan labels else [] := by
  rw [structureFaults_ofBlock]
  rw [innerFaults_ofAttributes index _ hbody]
  rw [List.append_nil]

theorem structureFaults_ofBlock_eq_nil_iff (entry : BlockSchema) {names : List String}
    (hbody : entry.body = some (.ofAttributes names)) {s : Structure}
    : structureFaults index (.ofBlock entry) s = []
        ↔
      ∀ kindSpan labels body, s = .block entry.kind kindSpan labels body
        → labels.length = entry.labelNames.length := by
  rcases s with _ | ⟨kind, kindSpan, labels, body⟩
  . simp [structureFaults]
  . rw [structureFaults_ofBlock_ofAttributes index entry hbody]
    split
    . next h =>
      rw [labelFaults_eq_nil_iff]
      simp [h]
    . next h => simp [h]

theorem get?_selectedBody_ofAttributes {entry : BlockSchema} {names : List String}
    (hbody : entry.body = some (.ofAttributes names)) {name : String} (hname : name ∈ names) (body : Body)
    : (selectedBody index entry body).attributes.get? name = attributeOf? index name body := by
  unfold selectedBody
  rw [hbody]
  dsimp only
  rw [get?_select]
  rw [← namesAttribute_ofAttributes_iff] at hname
  rw [← isSome_attribute?_iff] at hname
  rw [if_pos hname]

end BackendPolicy
