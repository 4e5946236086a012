/-!
This module contains schemas, which select the parts of a body that are of interest.
-/

namespace BackendPolicy

structure AttributeSchema where
  name : String
  required : Bool := false
deriving DecidableEq, Repr, Inhabited

mutual

/--
The attributes and blocks of interest in a body. Of several entries of one name the first one counts.
-/
structure BodySchema where
  attributes : List AttributeSchema := []
  blocks : List BlockSchema := []

/--
Blocks of interest, with a name for each of their labels. Without a schema for the body nothing inside the
blocks is of interest.
-/
structure BlockSchema where
  kind : String
  labelNames : List String := []
  body : Option BodySchema := none

end

instance : Inhabited BodySchema := ⟨⟨[], []⟩⟩

instance : Inhabited BlockSchema := ⟨⟨"", [], none⟩⟩

namespace BodySchema

def ofAttribute (name : String) : BodySchema := { attributes := [{ name }] }

def ofRequired (name : String) : BodySchema := { attributes := [{ name, required := true }] }

def ofAttributes (names : List String) : BodySchema :=
  { attributes := names.map fun name => { name } }

def ofBlock (block : BlockSchema) : BodySchema := { blocks := [block] }

def attribute? (schema : BodySchema) (name : String) : Option AttributeSchema :=
  schema.attributes.find? fun a => a.name = name

def block? (schema : BodySchema) (kind : String) : Option BlockSchema :=
  schema.blocks.find? fun b => b.kind = kind

end BodySchema

end BackendPolicy
