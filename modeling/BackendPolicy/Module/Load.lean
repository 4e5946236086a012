import BackendPolicy.Module.Basic
import BackendPolicy.Text.Path

/-!
This module contains the loading of modules. The files of a module are the plain files of one directory
whose names end in `.tf`.
-/

namespace BackendPolicy

variable {m : Type → Type} [Monad m]

def SourceFile.load (files : FileAccess m) (root name : String) : ExceptT RunError m SourceFile := do
  let path := Path.join root name
  match ← files.readText path with
  | .ok source => MonadExcept.ofExcept (SourceFile.ofSource name source)
  | .error fault => throw (.unreadable path fault)

namespace Module

def sourceNames (names : List String) : List String :=
  (names.filter fun name => Path.hasExtension name "tf").mergeSort fun a b => a ≤ b

def load (files : FileAccess m) (root : String) : ExceptT RunError m Module := do
  match ← files.listFiles root with
  | .ok names => return ⟨← (sourceNames names).mapM (SourceFile.load files root)⟩
  | .error fault => throw (.unlistable root fault)

end Module

end BackendPolicy
