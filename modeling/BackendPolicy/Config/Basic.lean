import BackendPolicy.Data.Dict

/-!
This module contains the settings of a run.
-/

namespace BackendPolicy

inductive Format where
  | table
  | json
deriving DecidableEq, Repr, Inhabited

def Format.display : Format → String
  | table => "table"
  | json => "json"

def Format.ofName? (name : String) : Option Format :=
  [table, json].find? fun f => f.display = name

structure Config where
  rules : Dict Bool
  vars : Dict String
  format : Format

namespace Config

def default : Config := ⟨.empty, .empty, .table⟩

instance : Inhabited Config := ⟨default⟩

def ruleEnabled? (c : Config) (name : String) : Option Bool :=
  c.rules.get? name

end Config

end BackendPolicy
