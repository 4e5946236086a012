import BackendPolicy.Body.Content
import BackendPolicy.Proofs.Data.Dict
import BackendPolicy.Proofs.Data.Faults

/-!
This module contains extraction, taken apart: `select` is what a schema selects from a body, `faults` is
everything in the body that is wrong for the schema, in the order in which extraction gets there. The main
statement is `extract_eq_orFirst`: extraction fails with the first fault, and without faults it yields all
that is selected.
-/

namespace BackendPolicy

def headOf (index : LineIndex) (kindSpan : Span) (labels : List Label) : Range :=
  headRange (index.range kindSpan) (labels.map fun label => index.range label.span)

def selectedAttribute? (index : LineIndex) (schema : BodySchema) : Structure → Option (String × Attribute)
  | .attribute key value span valueSpan =>
    if (schema.attribute? key).isSome then
      some (key, ⟨key, value, index.range span, index.range valueSpan⟩)
    else
      none
  | .block _ _ _ _ => none

def selectedAttributes (index : LineIndex) (schema : BodySchema) (body : Body) : List (String × Attribute) :=
  body.filterMap (selectedAttribute? index schema)

mutual

def selectedBlocks (index : LineIndex) (schema : BodySchema) : Body → List Block
  | [] => []
  | s :: rest => (selectedBlock? index schema s).toList ++ selectedBlocks index schema rest
termination_by structural body => body

def selectedBlock? (index : LineIndex) (schema : BodySchema) : Structure → Option Block
  | .attribute _ _ _ _ => none
  | .block kind kindSpan labels body =>
    match schema.block? kind with
    | none => none
    | some entry =>
      let content :=
        match entry.body with
        | none => .empty
        | some inner => ⟨.ofList (selectedAttributes index inner body), selectedBlocks index inner body⟩
      some ⟨entry.kind, labels.map Label.text, content, headOf index kindSpan labels,
        index.range kindSpan, labels.map fun label => index.range label.span⟩
termination_by structural s => s

end

def select (index : LineIndex) (schema : BodySchema) (body : Body) : BodyContent :=
  ⟨.ofList (selectedAttributes index schema body), selectedBlocks index schema body⟩

def missingFaults (schema : BodySchema) (content : BodyContent) (range : Range) : List RunError :=
  (schema.attributes.filter fun a => a.required && !content.attributes.contains a.name).map fun a =>
    .missingAttribute a.name range

def labelFaults (index : LineIndex) (entry : BlockSchema) (kindSpan : Span) (labels : List Label) :
    List RunError :=
  if labels.length = entry.labelNames.length then
    []
  else
    [.labelCount entry.kind entry.labelNames labels.length (headOf index kindSpan labels)]

mutual

/--
What is wrong in a body for a schema: for every selected block its labels, then what is wrong inside it,
then the attributes that it lacks.
-/
def faults (index : LineIndex) (schema : BodySchema) : Body → List RunError
  | [] => []
  | s :: rest => structureFaults index schema s ++ faults index schema rest
termination_by structural body => body

def structureFaults (index : LineIndex) (schema : BodySchema) : Structure → List RunError
  | .attribute _ _ _ _ => []
  | .block kind kindSpan labels body =>
    match schema.block? kind with
    | none => []
    | some entry =>
      labelFaults index entry kindSpan labels ++
        match entry.body with
        | none => []
        | some inner =>
          faults index inner body
            ++ missingFaults inner (select index inner body) (headOf index kindSpan labels)
termination_by structural s => s

end

def selectedBody (index : LineIndex) (entry : BlockSchema) (body : Body) : BodyContent :=
  match entry.body with
  | none => .empty
  | some inner => select index inner body

def innerFaults (index : LineIndex) (entry : BlockSchema) (head : Range) (body : Body) : List RunError :=
  match entry.body with
  | none => []
  | some inner => faults index inner body ++ missingFaults inner (select index inner body) head

structure HasHead (index : LineIndex) (kind : String) (kindSpan : Span) (labels : List Label)
    (found : Block) : Prop where
  kind_eq : found.kind = kind
  labels_eq : found.labels = labels.map Label.text
  labelRanges_eq : found.labelRanges = labels.map fun label => index.range label.span
  kindRange_eq : found.kindRange = index.range kindSpan
  headRange_eq : found.headRange = headOf index kindSpan labels

variable (index : LineIndex) (schema : BodySchema)

theorem selectedBlock?_block (kind : String) (kindSpan : Span) (labels : List Label) (body : Body)
    : selectedBlock? index schema (.block kind kindSpan labels body)
        =
      (schema.block? kind).map fun entry =>
        ⟨entry.kind, labels.map Label.text, selectedBody index entry body, headOf index kindSpan labels,
          index.range kindSpan, labels.map fun label => index.range label.span⟩ := by
  unfold selectedBlock?
  cases schema.block? kind <;> rfl

theorem structureFaults_block (kind : String) (kindSpan : Span) (labels : List Label) (body : Body)
    : structureFaults index schema (.block kind kindSpan labels body)
        =
      match schema.block? kind with
      | none => []
      | some entry =>
        labelFaults index entry kindSpan labels
          ++ innerFaults index entry (headOf index kindSpan labels) body := by
  unfold structureFaults
  cases schema.block? kind <;> rfl

theorem selectedBlocks_eq_filterMap (body : Body)
    : selectedBlocks index schema body = body.filterMap (selectedBlock? index schema) := by
  induction body with
  | nil => rfl
  | cons s rest ih =>
    rw [selectedBlocks]
    rw [ih]
    rw [List.filterMap_cons]
    cases selectedBlock? index schema s <;> rfl

theorem faults_eq_flatMap (body : Body)
    : faults index schema body = body.flatMap (structureFaults index schema) := by
  induction body with
  | nil => rfl
  | cons s rest ih =>
    rw [faults]
    rw [ih]
    rw [List.flatMap_cons]

theorem checkRequired_eq_orFirst (content : BodyContent) (range : Range)
    : content.checkRequired schema range = orFirst (missingFaults schema content range) () := by
  unfold BodyContent.checkRequired missingFaults
  rw [← List.head?_filter]
  cases List.filter _ _ with
  | nil => rfl
  | cons => rfl

theorem exists_entry_of_selectedBlock? {index : LineIndex} {schema : BodySchema} {kind : String}
    {kindSpan : Span} {labels : List Label} {inner : Body} {found : Block}
    (h : selectedBlock? index schema (.block kind kindSpan labels inner) = some found)
    : ∃ entry,
        schema.block? kind = some entry
          ∧ HasHead index kind kindSpan labels found
          ∧ found.body = selectedBody index entry inner := by
  rw [selectedBlock?_block] at h
  obtain ⟨entry, hentry, rfl⟩ := Option.map_eq_some_iff.1 h
  have hkind : entry.kind = kind := by simpa using List.find?_some hentry
  exact ⟨entry, hentry, ⟨hkind, rfl, rfl, rfl, rfl⟩, rfl⟩

mutual

theorem extractInto_eq_orFirst (schema : BodySchema) (done : BodyContent)
    : ∀ body : Body,
        extractInto index schema done body
          =
        orFirst (faults index schema body)
          ⟨done.attributes.insertMany (selectedAttributes index schema body),
            done.blocks ++ selectedBlocks index schema body⟩
  | [] => by
    cases done
    simp [extractInto, faults, selectedAttributes, selectedBlocks, Dict.insertMany]
  | s :: rest => by
    rw [extractInto]
    rw [extractStructure_eq_orFirst]
    simp only [extractInto_eq_orFirst]
    rw [orFirst_bind_orFirst]
    rw [← Dict.insertMany_append]
    rw [faults]
    congr 2
    . unfold selectedAttributes
      rw [List.filterMap_cons]
      cases selectedAttribute? index schema s <;> rfl
    . rw [selectedBlocks]
      simp
termination_by structural body => body

theorem extractStructure_eq_orFirst (schema : BodySchema) (done : BodyContent)
    : ∀ s : Structure,
        extractStructure index schema done s
          =
        orFirst (structureFaults index schema s)
          ⟨done.attributes.insertMany (selectedAttribute? index schema s).toList,
            done.blocks ++ (selectedBlock? index schema s).toList⟩
  | .attribute key value span valueSpan => by
    simp only [extractStructure, structureFaults, selectedAttribute?, selectedBlock?]
    cases done
    cases schema.attribute? key with
    | none => simp [Dict.insertMany]
    | some => simp [Dict.insertMany]
  | .block kind kindSpan labels body => by
    simp only [extractStructure, structureFaults, selectedAttribute?, selectedBlock?]
    cases done
    cases schema.block? kind with
    | none => simp [Dict.insertMany]
    | some entry =>
      dsimp only
      by_cases hlabels : labels.length = entry.labelNames.length
      . simp only [labelFaults, hlabels, ne_eq, not_true_eq_false, ↓reduceIte, List.nil_append]
        cases entry.body with
        | none => rfl
        | some inner =>
          have hinner : extractInto index inner .empty body
              = orFirst (faults index inner body) (select index inner body) :=
            extractInto_eq_orFirst inner .empty body
          dsimp only
          rw [hinner]
          cases faults index inner body with
          | cons => rfl
          | nil =>
            simp only [checkRequired_eq_orFirst, orFirst_nil, List.nil_append]
            unfold headOf
            dsimp only [bind, Except.bind]
            cases missingFaults _ _ _ with
            | nil => rfl
            | cons => rfl
      . simp only [labelFaults, hlabels, ne_eq, not_false_eq_true, ↓reduceIte]
        rfl
termination_by structural s => s

end

/--
Extraction fails with the first fault. Without faults it yields all that the schema selects.
-/
theorem extract_eq_orFirst (body : Body)
    : extract index schema body = orFirst (faults index schema body) (select index schema body) := by
  apply extractInto_eq_orFirst

theorem extract_eq_ok_iff {body : Body} {content : BodyContent}
    : extract index schema body = .ok content
        ↔
      faults index schema body = [] ∧ select index schema body = content := by
  rw [extract_eq_orFirst]
  rw [orFirst_eq_ok_iff]

end BackendPolicy
