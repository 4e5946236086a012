import BackendPolicy.Proofs.Module.Content
import BackendPolicy.Rule.Check

/-!
This module contains the variables of a module, read off its files: every declaration with what its default
evaluates to. The main statement is `variablesFor_eq_orFirst`: settling the variables fails with the first
fault, first among the shapes of the declarations and then among their defaults.
-/

namespace BackendPolicy

namespace Attribute

variable {a : Attribute} {scope : Scope}

theorem eval_eq_ok_iff {v : Value} : a.eval scope = .ok v ↔ a.value.eval scope = .ok v := by
  unfold eval
  cases a.value.eval scope with
  | ok => simp
  | error => simp

theorem evalString_eq_ok_iff {text : String}
    : a.evalString scope = .ok text ↔ ∃ v, a.value.eval scope = .ok v ∧ v.asString = .ok text := by
  unfold evalString eval
  cases a.value.eval scope with
  | error => simp [bind, Except.bind]
  | ok v =>
    cases htext : v.asString with
    | error => simp [bind, Except.bind, htext, throw, throwThe, MonadExceptOf.throw]
    | ok => simp [bind, Except.bind, htext, pure, Except.pure]

end Attribute

namespace Module

def declaration? (index : LineIndex) : Structure → Option (String × Except RunError Value)
  | .attribute _ _ _ _ => none
  | .block kind _ labels body =>
    if kind = "variable" then
      (attributeOf? index "default" body).map fun default =>
        ((labels.map Label.text).headD "", default.eval [])
    else
      none

def declarations (m : Module) : List (String × Except RunError Value) :=
  m.files.flatMap fun file => file.body.filterMap (declaration? file.index)

def valuesOf (declarations : List (String × Except RunError Value)) : List (String × Value) :=
  declarations.filterMap fun
    | (name, .ok v) => some (name, v)
    | (_, .error _) => none

def failuresOf (declarations : List (String × Except RunError Value)) : List RunError :=
  declarations.filterMap fun
    | (_, .ok _) => none
    | (_, .error e) => some e

theorem failuresOf_eq_nil_iff {declarations : List (String × Except RunError Value)}
    : failuresOf declarations = [] ↔ ∀ declaration ∈ declarations, ∃ v, declaration.2 = .ok v := by
  unfold failuresOf
  rw [List.filterMap_eq_nil_iff]
  constructor
  . intro h declaration hmem
    have hnone := h declaration hmem
    rcases declaration with ⟨name, v | e⟩
    . contradiction
    . exact ⟨_, rfl⟩
  . intro h declaration hmem
    obtain ⟨v, hv⟩ := h declaration hmem
    rcases declaration with ⟨name, outcome⟩
    subst hv
    rfl

def blockDeclaration? (block : Block) : Option (String × Except RunError Value) :=
  (block.body.attributes.get? "default").map fun default => (block.labels.headD "", default.eval [])

theorem declare_eq_orFirst (vars : Variables) (blocks : List Block)
    : declare vars blocks
        =
      orFirst (failuresOf (blocks.filterMap blockDeclaration?))
        (vars.insertMany (valuesOf (blocks.filterMap blockDeclaration?))) := by
  induction blocks generalizing vars with
  | nil => rfl
  | cons block blocks ih =>
    unfold declare
    rw [List.filterMap_cons]
    unfold blockDeclaration?
    cases block.body.attributes.get? "default" with
    | none =>
      dsimp only [Option.map_none]
      apply ih
    | some default =>
      dsimp only [Option.map_some]
      cases default.eval [] with
      | error e => rfl
      | ok v => apply ih

def variableEntry : BlockSchema where
  kind := "variable"
  labelNames := ["name"]
  body := some (.ofAttributes ["default"])

theorem variableSchema_eq_ofBlock : variableSchema = .ofBlock variableEntry := rfl

theorem blockDeclaration?_selectedBlock? (index : LineIndex) (s : Structure)
    : (selectedBlock? index variableSchema s).bind blockDeclaration? = declaration? index s := by
  rcases s with _ | ⟨kind, kindSpan, labels, body⟩
  . rfl
  . rw [variableSchema_eq_ofBlock]
    rw [selectedBlock?_ofBlock]
    change Option.bind (if kind = "variable" then _ else _) _ = if kind = "variable" then _ else _
    by_cases h : kind = "variable"
    . rw [if_pos h]
      rw [if_pos h]
      dsimp only [Option.bind_some, blockDeclaration?]
      rw [get?_selectedBody_ofAttributes index rfl (by simp)]
    . rw [if_neg h]
      rw [if_neg h]
      rfl

variable (m : Module)

theorem filterMap_blockDeclaration?
    : (m.selected variableSchema).blocks.filterMap blockDeclaration? = m.declarations := by
  rw [blocks_selected]
  unfold declarations
  rw [List.filterMap_flatMap]
  congr 1
  funext file
  rw [selectedBlocks_eq_filterMap]
  rw [List.filterMap_filterMap]
  congr 1
  funext s
  apply blockDeclaration?_selectedBlock?

/--
What is wrong in the declarations of a module: first their shapes, then their defaults.
-/
def declarationFaults (m : Module) : List RunError :=
  m.fileFaults variableSchema ++ failuresOf m.declarations

def declared (m : Module) : Variables :=
  .ofList (valuesOf m.declarations)

theorem defaults_eq_orFirst : m.defaults = orFirst m.declarationFaults m.declared := by
  unfold defaults
  rw [content_eq_orFirst]
  simp only [declare_eq_orFirst]
  rw [orFirst_bind_orFirst]
  rw [filterMap_blockDeclaration?]
  rw [contentFaults_of_forall_not_required]
  . rfl
  . intro a ha
    cases ha

/--
The variables that a check uses: those that the module declares, over them the texts of the configuration
and over those the given values.
-/
def finalVariables (m : Module) (config : Config) (given : List (String × Value)) : Variables :=
  (m.declared.setTexts config.vars.entries).insertMany given

theorem variablesFor_eq_orFirst (config : Config) (given : List (String × Value))
    : m.variablesFor config given = orFirst m.declarationFaults (m.finalVariables config given) := by
  unfold variablesFor
  rw [defaults_eq_orFirst]
  cases m.declarationFaults with
  | nil => rfl
  | cons => rfl

end Module

end BackendPolicy
