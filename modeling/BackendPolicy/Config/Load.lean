import BackendPolicy.Config.Decode
import BackendPolicy.Files.Access
import BackendPolicy.Text.Path

/-!
This module contains the loading of configurations from files.
-/

namespace BackendPolicy

inductive ConfigError where
  | unreadable (fault : FileFault)
  | undecodable (error : Config.DecodeError)

namespace ConfigError

def message : ConfigError → String
  | unreadable fault => s!"Failed to read config file: {fault.message}"
  | undecodable error => s!"Failed to parse config file: {error.message}"

def cause : ConfigError → String
  | unreadable fault => fault.message
  | undecodable error => error.message

end ConfigError

namespace Config

variable {m : Type → Type} [Monad m]

def fileName : String := ".backend-lint.toml"

def ofRead : Except FileFault String → Except ConfigError Config
  | .ok text => (ofText text).mapError .undecodable
  | .error fault => .error (.unreadable fault)

def load (files : FileAccess m) (path : String) : ExceptT ConfigError m Config :=
  ExceptT.mk (ofRead <$> files.readText path)

def loadFor (files : FileAccess m) (root : String) : ExceptT ConfigError m Config :=
  ExceptT.mk do
    match ← files.readText (Path.join root fileName) with
    | .error .notFound => return .ok default
    | found => return ofRead found

end Config

end BackendPolicy
