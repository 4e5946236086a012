import BackendPolicy.Proofs.Command.Arguments
import BackendPolicy.Proofs.Module.Priority

/-!
This module contains texts that take the place of what a module declares. The main statement is
`overrides_are_opaque`: such a text is what a reference to its variable evaluates to, letter by letter.
-/

namespace BackendPolicy

def Expr.reference (name : String) : Expr :=
  .traversal (.variable "var") [.field name]

theorem Expr.eval_reference {vars : Variables} {name : String} {v : Value} (h : vars.get? name = some v)
    : (reference name).eval vars.scope = .ok v := by
  have harrange : (reference name).arrange = reference name := by
    unfold reference arrange
    rw [opTree, opTree]
    rw [OpTree.toExpr, OpTree.toExpr]
    rfl
  have hfield : vars.entries.lookup name = some v := h
  unfold eval
  rw [harrange]
  unfold reference Variables.scope Variables.value Context.start
  simp [Expr.value, walk, Context.enter, Value.field, Focus.value, hfield, bind, Except.bind]

namespace Command

/--
Whether the last text that a name is given is a certain one: behind the option for variables, or in the
configuration if the option never names it.
-/
inductive IsLastSetting (texts : List String) (config : Config) (name : String) : String → Prop where
  | given {before : List String} {value : String} {after : List String} (hname : name ≠ "")
    (hequals : '=' ∉ name.toList) (htexts : texts = before ++ (name ++ "=" ++ value) :: after)
    (hafter : ∀ other, name ++ "=" ++ other ∉ after) : IsLastSetting texts config name value
  | configured {value : String} (htexts : ∀ other, name ++ "=" ++ other ∉ texts)
    (hconfig : config.vars.get? name = some value) : IsLastSetting texts config name value

namespace Given.Reads

variable {given : Given} {texts : List String} {name : String}

theorem not_mem_vars (h : given.Reads texts) (htexts : ∀ other, name ++ "=" ++ other ∉ texts) (other : String)
    : (name, other) ∉ given.vars := by
  intro hmem
  obtain ⟨text, htext, hread⟩ := exists_of_mem_of_mapM (mapM_eq_ok_iff.2 h) _ hmem
  obtain ⟨rfl, _⟩ := readVar_eq_ok_iff.1 hread
  exact htexts other htext

theorem lastValue?_eq_some {before after : List String} {value : String}
    (h : given.Reads (before ++ (name ++ "=" ++ value) :: after)) (hname : name ≠ "") (hequals : '=' ∉ name.toList)
    (hafter : ∀ other, name ++ "=" ++ other ∉ after)
    : lastValue? name given.vars = some value := by
  have hvalue : readVar (name ++ "=" ++ value) = .ok (name, value) := readVar_eq_ok_iff.2 ⟨rfl, hname, hequals⟩
  have hread := mapM_eq_ok_iff.2 h
  rw [List.mapM_append] at hread
  rw [List.mapM_cons] at hread
  rw [hvalue] at hread
  obtain ⟨varsBefore, _, hread⟩ := bind_eq_ok_iff.1 hread
  obtain ⟨_, hrest, hread⟩ := bind_eq_ok_iff.1 hread
  obtain ⟨_, hvar, hrest⟩ := bind_eq_ok_iff.1 hrest
  obtain ⟨varsAfter, hvarsAfter, hrest⟩ := bind_eq_ok_iff.1 hrest
  cases hvar
  cases hrest
  have hnone : ({ given with vars := varsAfter } : Given).Reads after := mapM_eq_ok_iff.1 hvarsAfter
  rw [lastValue?_eq_some_iff]
  exact ⟨varsBefore, varsAfter, (Except.ok.inj hread).symm, hnone.not_mem_vars hafter⟩

theorem get?_finalVariables (h : given.Reads texts) (m : Module) {config : Config} {value : String}
    (hlast : IsLastSetting texts config name value)
    : (m.finalVariables config (Module.givenValues given.vars)).get? name = some (.string value) := by
  rw [Module.get?_finalVariables]
  cases hlast with
  | given hname hequals htexts hafter =>
    subst htexts
    rw [h.lastValue?_eq_some hname hequals hafter]
    rfl
  | configured htexts hconfig =>
    rw [lastValue?_eq_none_iff.2 (h.not_mem_vars htexts)]
    rw [hconfig]
    rfl

end Given.Reads

/--
The text that a variable is given is taken as it is. The option for variables names the variable before the first
equals sign, and everything behind it is the text. Whatever the module declares for the name and however the text is
written, a reference to the variable evaluates to the last text that it is given.
-/
theorem overrides_are_opaque
    : (∀ text, (∃ var, readVar text = .ok var) ↔ '=' ∈ text.toList ∧ text.toList.head? ≠ some '=')
        ∧ (∀ text name value,
            readVar text = .ok (name, value) ↔ text = name ++ "=" ++ value ∧ name ≠ "" ∧ '=' ∉ name.toList)
        ∧ ∀ arguments root given,
            Request.ofArguments arguments = .ok (.check root given)
              → given.Reads (varTexts false arguments)
                ∧ ∀ (m : Module) declared config,
                    m.defaults = .ok declared
                      → ∃ vars,
                          m.variablesFor config (Module.givenValues given.vars) = .ok vars
                            ∧ ∀ name value,
                                IsLastSetting (varTexts false arguments) config name value
                                  → ∀ a : Attribute, a.value = .reference name
                                    → (Session.start m vars).host.evaluate a = .ok value := by
  refine ⟨fun text => exists_readVar_eq_ok_iff, fun text name value => readVar_eq_ok_iff, ?_⟩
  intro arguments root given h
  have hreads := reads_of_ofArguments h
  refine ⟨hreads, ?_⟩
  intro m declared config hdeclared
  have hcomply : m.VariablesComply := by
    rw [Module.defaults_eq_orFirst] at hdeclared
    rw [← Module.declarationFaults_eq_nil_iff]
    exact (orFirst_eq_ok_iff.1 hdeclared).1
  refine ⟨_, (m.variablesFor_eq_ok_iff).2 ⟨hcomply, rfl⟩, ?_⟩
  intro name value hlast a ha
  have heval := Expr.eval_reference (hreads.get?_finalVariables m hlast)
  rw [← ha] at heval
  exact Attribute.evalString_eq_ok_iff.2 ⟨.string value, heval, rfl⟩

def trickyText : String := "a=\"$\x7b1\x7d\"\\\n%\x7bif true"

theorem overrides_are_opaque_tricky
    : let arguments := ["-C", "site", "check", "--var", "lock=POST", "-q", "--var=lock=" ++ trickyText]
      let given : Given := { root := some "site", vars := [("lock", "POST"), ("lock", trickyText)], quiet := true }
      Request.ofArguments arguments = .ok (.check "site" given)
        ∧ ∃ vars,
            Module.lockedByVariable.variablesFor .default (Module.givenValues given.vars) = .ok vars
              ∧ ∀ a : Attribute, a.value = .reference "lock"
                → (Session.start Module.lockedByVariable vars).host.evaluate a = .ok trickyText := by
  intro arguments given
  have harguments : Request.ofArguments arguments = .ok (.check "site" given) := by rfl
  have htexts : varTexts false arguments = ["lock=POST"] ++ ("lock" ++ "=" ++ trickyText) :: [] := by rfl
  obtain ⟨declared, hdeclared⟩ : ∃ declared, Module.lockedByVariable.defaults = .ok declared :=
    ⟨_, by with_unfolding_all rfl⟩
  obtain ⟨_, _, hcheck⟩ := overrides_are_opaque
  obtain ⟨vars, hvars, hvalue⟩ := (hcheck _ _ _ harguments).2 Module.lockedByVariable declared .default hdeclared
  refine ⟨harguments, vars, hvars, ?_⟩
  apply hvalue "lock" trickyText
  exact .given (by decide) (by decide) htexts (by simp)

end Command

end BackendPolicy
