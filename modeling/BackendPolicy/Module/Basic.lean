import BackendPolicy.Module.Variables
import BackendPolicy.Text.Path

/-!
This module contains modules: the parsed files of one directory, in the order of their names. A module is
read as if its files were one body.
-/

namespace BackendPolicy

structure SourceFile where
  index : LineIndex
  body : Body

def SourceFile.ofSource (filename source : String) : Except RunError SourceFile :=
  match Hcl.parseFile source.toList with
  | .ok body => .ok ⟨.ofSource filename source, body⟩
  | .error e => .error (.unparsable filename e)

structure Module where
  files : List SourceFile

namespace Module

/--
Parse named texts in the order of their names. Texts of equal names keep their order.
-/
def ofSources (sources : List (String × String)) : Except RunError Module := do
  let sorted := sources.mergeSort fun a b => Path.le a.1 b.1
  return ⟨← sorted.mapM fun (filename, source) => SourceFile.ofSource filename source⟩

def filenames (m : Module) : List String :=
  m.files.map fun file => file.index.filename

/--
The range of the module as a whole: the start of its first file.
-/
def range (m : Module) : Range :=
  match m.files with
  | file :: _ => file.index.range none
  | [] => .nowhere

def contentInto (schema : BodySchema) (done : BodyContent) : List SourceFile → Except RunError BodyContent
  | [] => .ok done
  | file :: files => do
    let content ← extract file.index schema file.body
    contentInto schema (done.append content) files

/--
The parts of all files that a schema selects. Required attributes may be in any file.
-/
def content (m : Module) (schema : BodySchema) : Except RunError BodyContent := do
  let content ← contentInto schema .empty m.files
  content.checkRequired schema m.range
  return content

def variableSchema : BodySchema :=
  .ofBlock {
    kind := "variable"
    labelNames := ["name"]
    body := some (.ofAttribute "default") }

def declare (vars : Variables) : List Block → Except RunError Variables
  | [] => .ok vars
  | block :: blocks =>
    match block.body.attributes.get? "default" with
    | none => declare vars blocks
    | some default => do
      let v ← default.eval []
      declare (vars.insert (block.labels.headD "") v) blocks

def defaults (m : Module) : Except RunError Variables := do
  let content ← m.content variableSchema
  declare .empty content.blocks

end Module

end BackendPolicy
