import BackendPolicy.Body.Basic
import BackendPolicy.Body.Schema
import BackendPolicy.Data.Dict
import BackendPolicy.Module.Error

/-!
This module contains the extraction of content: the parts of a body that a schema selects, with the ranges
of their parts.
-/

namespace BackendPolicy

/--
An extracted attribute. `range` covers the whole definition, `valueRange` only the value.
-/
structure Attribute where
  name : String
  value : Expr
  range : Range
  valueRange : Range

instance : Inhabited Attribute := ⟨⟨"", default, default, default⟩⟩

mutual

structure BodyContent where
  attributes : Dict Attribute
  blocks : List Block

/--
An extracted block. `headRange` covers the kind and the labels.
-/
structure Block where
  kind : String
  labels : List String
  body : BodyContent
  headRange : Range
  kindRange : Range
  labelRanges : List Range

end

namespace BodyContent

def empty : BodyContent := ⟨.empty, []⟩

instance : Inhabited BodyContent := ⟨empty⟩

/--
Add the content of a further body. Its attributes replace earlier ones of the same name.
-/
def append (c d : BodyContent) : BodyContent :=
  ⟨c.attributes.override d.attributes, c.blocks ++ d.blocks⟩

def checkRequired (content : BodyContent) (schema : BodySchema) (range : Range) : Except RunError Unit :=
  match schema.attributes.find? fun a => a.required && !content.attributes.contains a.name with
  | some missing => .error (.missingAttribute missing.name range)
  | none => .ok ()

end BodyContent

instance : Inhabited Block := ⟨⟨"", [], default, default, default, []⟩⟩

def headRange (kindRange : Range) (labelRanges : List Range) : Range :=
  match labelRanges.getLast? with
  | some last => kindRange.through last
  | none => kindRange

mutual

/--
Add the parts of a body that a schema selects to the content that is extracted. The required attributes of
the body itself are not checked, those of the blocks inside it are.
-/
def extractInto (index : LineIndex) (schema : BodySchema) (done : BodyContent) :
    Body → Except RunError BodyContent
  | [] => .ok done
  | s :: rest => do
    let done ← extractStructure index schema done s
    extractInto index schema done rest
termination_by structural body => body

def extractStructure (index : LineIndex) (schema : BodySchema) (done : BodyContent) :
    Structure → Except RunError BodyContent
  | .attribute key value span valueSpan =>
    match schema.attribute? key with
    | none => .ok done
    | some _ =>
      let found := ⟨key, value, index.range span, index.range valueSpan⟩
      .ok { done with attributes := done.attributes.insert key found }
  | .block kind kindSpan labels body =>
    match schema.block? kind with
    | none => .ok done
    | some block => do
      let kindRange := index.range kindSpan
      let labelRanges := labels.map fun label => index.range label.span
      let head := headRange kindRange labelRanges
      if labels.length ≠ block.labelNames.length then
        throw (.labelCount block.kind block.labelNames labels.length head)
      let content ←
        match block.body with
        | none => pure .empty
        | some inner => do
          let content ← extractInto index inner .empty body
          content.checkRequired inner head
          pure content
      let found := ⟨block.kind, labels.map Label.text, content, head, kindRange, labelRanges⟩
      return { done with blocks := done.blocks ++ [found] }
termination_by structural s => s

end

def extract (index : LineIndex) (schema : BodySchema) (body : Body) : Except RunError BodyContent :=
  extractInto index schema .empty body

end BackendPolicy
