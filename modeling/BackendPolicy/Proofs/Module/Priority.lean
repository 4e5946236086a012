import BackendPolicy.Command.Run
import BackendPolicy.Proofs.Data.Bytes
import BackendPolicy.Proofs.Module.Verdict

/-!
This module contains the value that a variable has in a check. A name may be given several times in each of
three places: for the check, in the configuration and by the module. The first of these places that has the
name counts, and in it the last value.
-/

namespace BackendPolicy

def IsLastExpr (body : Body) (name : String) (value : Expr) : Prop :=
  ∃ before span valueSpan after,
    body = before ++ .attribute name value span valueSpan :: after ∧ ¬ Defines after name

theorem isLastExpr_iff (index : LineIndex) {body : Body} {name : String} {value : Expr}
    : IsLastExpr body name value ↔ ∃ found, IsLastAttribute index body name found ∧ found.value = value := by
  constructor
  . rintro ⟨before, span, valueSpan, after, hbody, hafter⟩
    exact ⟨_, ⟨before, value, span, valueSpan, after, hbody, hafter, rfl⟩, rfl⟩
  . rintro ⟨found, ⟨before, value, span, valueSpan, after, hbody, hafter, rfl⟩, rfl⟩
    exact ⟨before, span, valueSpan, after, hbody, hafter⟩

def Structure.DeclaresDefault (s : Structure) (name : String) (default : Expr) : Prop :=
  ∃ kindSpan labels body,
    s = .block "variable" kindSpan labels body
      ∧ labels.map Label.text = [name]
      ∧ IsLastExpr body "default" default

namespace Module

def IsLastDefault (m : Module) (name : String) (v : Value) : Prop :=
  ∃ before s default after,
    m.structures = before ++ s :: after
      ∧ s.DeclaresDefault name default
      ∧ default.eval [] = .ok v
      ∧ ∀ s' ∈ after, ∀ default', ¬ s'.DeclaresDefault name default'

/--
The value that a variable has: its last text for the check, else its text in the configuration, else the
last default.
-/
inductive HasValue (m : Module) (config : Config) (texts : List (String × String)) (name : String)
    : Value → Prop where
  | given {before text after} (htexts : texts = before ++ (name, text) :: after)
    (hafter : ∀ other, (name, other) ∉ after) : HasValue m config texts name (.string text)
  | configured {text} (htexts : ∀ other, (name, other) ∉ texts)
    (hconfig : config.vars.get? name = some text) : HasValue m config texts name (.string text)
  | declared {v} (htexts : ∀ other, (name, other) ∉ texts) (hconfig : config.vars.get? name = none)
    (hdefault : m.IsLastDefault name v) : HasValue m config texts name v

def valueFor? (name : String) : String × Except RunError Value → Option Value
  | (key, .ok v) => if key = name then some v else none
  | (_, .error _) => none

theorem valueFor?_eq_some_iff {name : String} {declaration : String × Except RunError Value} {v : Value}
    : valueFor? name declaration = some v ↔ declaration = (name, .ok v) := by
  rcases declaration with ⟨key, e | v'⟩
  . simp [valueFor?]
  . simp [valueFor?]

theorem lastValue?_valuesOf (name : String) (declarations : List (String × Except RunError Value))
    : lastValue? name (valuesOf declarations) = (declarations.filterMap (valueFor? name)).getLast? := by
  unfold lastValue? valuesOf
  rw [List.filterMap_filterMap]
  congr 2
  funext ⟨key, outcome⟩
  cases outcome <;> rfl

def located (m : Module) : List (LineIndex × Structure) :=
  m.files.flatMap fun file => file.body.map fun s => (file.index, s)

variable {m : Module} {name : String}

theorem map_snd_located (m : Module) : m.located.map Prod.snd = m.structures := by
  unfold located structures
  rw [List.map_flatMap]
  simp

theorem declarations_eq_filterMap (m : Module)
    : m.declarations = m.located.filterMap fun e => declaration? e.1 e.2 := by
  unfold declarations located
  rw [List.filterMap_flatMap]
  congr 1
  funext file
  rw [List.filterMap_map]
  rfl

theorem mem_located_iff {index : LineIndex} {s : Structure}
    : (index, s) ∈ m.located ↔ ∃ file ∈ m.files, file.index = index ∧ s ∈ file.body := by
  unfold located
  simp only [List.mem_flatMap, List.mem_map, Prod.mk.injEq]
  grind

theorem VariablesComply.declaration?_eq_some_iff (h : m.VariablesComply) {index : LineIndex} {s : Structure}
    (hmem : (index, s) ∈ m.located) {v : Value}
    : declaration? index s = some (name, .ok v)
        ↔
      ∃ default, s.DeclaresDefault name default ∧ default.eval [] = .ok v := by
  obtain ⟨file, hfile, rfl, hs⟩ := mem_located_iff.1 hmem
  rw [Module.declaration?_eq_some_iff]
  constructor
  . rintro ⟨kindSpan, labels, body, rfl, found, hfound, heq⟩
    obtain ⟨hname, heval⟩ := Prod.mk.inj heq
    obtain ⟨label, rfl⟩ := List.length_eq_one_iff.1 (h file hfile _ _ _ hs).1
    refine ⟨found.value, ⟨_, _, _, rfl, ?_, (isLastExpr_iff _).2 ⟨found, hfound, rfl⟩⟩, ?_⟩
    . simp [hname]
    . exact Attribute.eval_eq_ok_iff.1 heval.symm
  . rintro ⟨default, ⟨kindSpan, labels, body, rfl, hlabels, hlast⟩, heval⟩
    obtain ⟨found, hfound, rfl⟩ := (isLastExpr_iff file.index).1 hlast
    refine ⟨_, _, _, rfl, found, hfound, ?_⟩
    rw [hlabels]
    rw [Attribute.eval_eq_ok_iff.2 heval]
    rfl

theorem VariablesComply.exists_value (h : m.VariablesComply) {index : LineIndex} {s : Structure}
    (hmem : (index, s) ∈ m.located) {default : Expr} (hdefault : s.DeclaresDefault name default)
    : ∃ v, declaration? index s = some (name, .ok v) := by
  obtain ⟨file, hfile, rfl, hs⟩ := mem_located_iff.1 hmem
  obtain ⟨kindSpan, labels, body, rfl, hlabels, hlast⟩ := hdefault
  obtain ⟨found, hfound, rfl⟩ := (isLastExpr_iff file.index).1 hlast
  obtain ⟨v, hv⟩ := (h file hfile _ _ _ hs).2 found hfound
  exact ⟨v, (h.declaration?_eq_some_iff hmem).2 ⟨found.value, ⟨_, _, _, rfl, hlabels, hlast⟩, hv⟩⟩

theorem VariablesComply.lastValue?_eq_some_iff (h : m.VariablesComply) {v : Value}
    : lastValue? name (valuesOf m.declarations) = some v ↔ m.IsLastDefault name v := by
  rw [lastValue?_valuesOf]
  rw [declarations_eq_filterMap]
  rw [List.filterMap_filterMap]
  rw [getLast?_filterMap_eq_some_iff]
  simp only [Option.bind_eq_some_iff, valueFor?_eq_some_iff, exists_eq_right]
  -- The structures stand in one order with and without the indexes, so one list is cut where the other is.
  constructor
  . rintro ⟨before, ⟨index, s⟩, after, hlocated, hs, hafter⟩
    have hmem : (index, s) ∈ m.located := by simp [hlocated]
    obtain ⟨default, hdefault, heval⟩ := (h.declaration?_eq_some_iff hmem).1 hs
    refine ⟨before.map Prod.snd, s, default, after.map Prod.snd, ?_, hdefault, heval, ?_⟩
    . rw [← map_snd_located]
      simp [hlocated]
    . intro _ hs' default' hdefault'
      obtain ⟨⟨index', s'⟩, hafter', rfl⟩ := List.mem_map.1 hs'
      have hmem' : (index', s') ∈ m.located := by simp [hlocated, hafter']
      obtain ⟨v', hv'⟩ := h.exists_value hmem' hdefault'
      simpa [hv', valueFor?] using hafter _ hafter'
  . rintro ⟨before, s, default, after, hstructures, hdefault, heval, hafter⟩
    rw [← map_snd_located] at hstructures
    obtain ⟨before, rest, hlocated, rfl, hrest⟩ := List.map_eq_append_iff.1 hstructures
    obtain ⟨⟨index, _⟩, after, rfl, rfl, rfl⟩ := List.map_eq_cons_iff.1 hrest
    refine ⟨before, _, after, hlocated, ?_, ?_⟩
    . exact (h.declaration?_eq_some_iff (by simp [hlocated])).2 ⟨default, hdefault, heval⟩
    . intro ⟨index', s'⟩ hafter'
      rw [Option.eq_none_iff_forall_ne_some]
      intro v' hv'
      simp only [Option.bind_eq_some_iff, valueFor?_eq_some_iff, exists_eq_right] at hv'
      have hmem' : (index', s') ∈ m.located := by simp [hlocated, hafter']
      obtain ⟨default', hdefault', _⟩ := (h.declaration?_eq_some_iff hmem').1 hv'
      exact hafter s' (List.mem_map_of_mem hafter') default' hdefault'

theorem VariablesComply.exists_isLastDefault_iff (h : m.VariablesComply)
    : (∃ v, m.IsLastDefault name v)
        ↔
      ∃ s ∈ m.structures, ∃ default, s.DeclaresDefault name default := by
  constructor
  . rintro ⟨v, before, s, default, after, hstructures, hdefault, _⟩
    exact ⟨s, by simp [hstructures], default, hdefault⟩
  . rintro ⟨s, hs, default, hdefault⟩
    rw [← map_snd_located] at hs
    obtain ⟨⟨index, s⟩, hmem, rfl⟩ := List.mem_map.1 hs
    obtain ⟨v, hv⟩ := h.exists_value hmem hdefault
    simp only [← h.lastValue?_eq_some_iff]
    rw [← Option.ne_none_iff_exists']
    intro hnone
    rw [lastValue?_eq_none_iff] at hnone
    apply hnone v
    unfold valuesOf
    rw [declarations_eq_filterMap]
    simp only [List.mem_filterMap]
    exact ⟨_, ⟨_, hmem, hv⟩, rfl⟩

def givenValues (texts : List (String × String)) : List (String × Value) :=
  texts.map fun (name, text) => (name, .string text)

variable (m) (config : Config) (texts : List (String × String)) (name)

theorem get?_finalVariables
    : (m.finalVariables config (givenValues texts)).get? name
        =
      ((lastValue? name texts).map .string).or
        (((config.vars.get? name).map .string).or (lastValue? name (valuesOf m.declarations))) := by
  have hmap (entries : List (String × String))
      : lastValue? name (givenValues entries) = (lastValue? name entries).map .string :=
    lastValue?_map Value.string name entries
  unfold finalVariables Variables.setTexts declared
  rw [Dict.get?_insertMany]
  rw [Dict.get?_insertMany]
  rw [Dict.get?_ofList]
  rw [hmap]
  rw [← Dict.lastValue?_entries config.vars]
  rw [← hmap config.vars.entries]
  rfl

variable {m config texts name}

theorem get?_finalVariables_eq_some_iff (h : m.VariablesComply) {v : Value}
    : (m.finalVariables config (givenValues texts)).get? name = some v
        ↔
      m.HasValue config texts name v := by
  rw [get?_finalVariables]
  constructor
  . intro hv
    cases hgiven : lastValue? name texts with
    | some text =>
      obtain rfl : Value.string text = v := by simpa [hgiven] using hv
      obtain ⟨before, after, htexts, hafter⟩ := lastValue?_eq_some_iff.1 hgiven
      exact .given htexts hafter
    | none =>
      have htexts := lastValue?_eq_none_iff.1 hgiven
      cases hconfig : config.vars.get? name with
      | some text =>
        obtain rfl : Value.string text = v := by simpa [hgiven, hconfig] using hv
        exact .configured htexts hconfig
      | none =>
        refine .declared htexts hconfig (h.lastValue?_eq_some_iff.1 ?_)
        simpa [hgiven, hconfig] using hv
  . intro hv
    cases hv with
    | given htexts hafter => simp [lastValue?_eq_some_iff.2 ⟨_, _, htexts, hafter⟩]
    | configured htexts hconfig => simp [lastValue?_eq_none_iff.2 htexts, hconfig]
    | declared htexts hconfig hdefault =>
      simp [lastValue?_eq_none_iff.2 htexts, hconfig, h.lastValue?_eq_some_iff.2 hdefault]

theorem exists_hasValue_iff (h : m.VariablesComply)
    : (∃ v, m.HasValue config texts name v)
        ↔
      (∃ text, (name, text) ∈ texts)
        ∨ config.vars.contains name
        ∨ ∃ s ∈ m.structures, ∃ default, s.DeclaresDefault name default := by
  simp only [← get?_finalVariables_eq_some_iff h]
  rw [← h.exists_isLastDefault_iff]
  simp only [← h.lastValue?_eq_some_iff]
  unfold Dict.contains
  rw [Option.isSome_iff_exists]
  simp only [← Option.ne_none_iff_exists']
  rw [get?_finalVariables]
  simp only [ne_eq, Option.or_eq_none_iff, Option.map_eq_none_iff, lastValue?_eq_none_iff, not_and_or,
    not_forall, Classical.not_not]

theorem check_eq_run {vars : Variables} {given : List (String × Value)} (rules : Ruleset)
    (h : m.variablesFor config given = .ok vars)
    : m.check rules config given
        =
      (rules.run (Session.start m vars).host).result.map fun () =>
        (rules.run (Session.start m vars).host).issues := by
  unfold check
  rw [h]
  dsimp only [bind, Except.bind, Session.check, Session.keep, Session.start, List.nil_append]
  cases (rules.run _).result with
  | error e => rfl
  | ok => rfl

theorem check_of_defaults_eq_error {e : RunError} (rules : Ruleset) (given : List (String × Value))
    (h : m.defaults = .error e)
    : m.check rules config given = .error e := by
  unfold check variablesFor
  rw [h]
  rfl

theorem runCheck_of_check_eq_error {M : Type → Type} [Monad M] [LawfulMonad M] {files : FileAccess M}
    {root : String} {request : Command.Given} {rules : Ruleset} {e : RunError} (coloured : Bool)
    (hconfig : Command.loadConfig files root request.config = pure config)
    (hrules : Ruleset.builtin.applyConfig config = .ok rules)
    (hmodule : Module.load files root = pure m)
    (h : m.check rules config (givenValues request.vars) = .error e)
    : Command.runCheck files coloured root request = throw (.ofRunError e) := by
  have hconfigured : Command.configuredRules config = (pure rules : ExceptT Command.Failure M Ruleset) := by
    unfold Command.configuredRules
    rw [hrules]
    rfl
  have hloaded (failure : RunError → Command.Failure)
      : Command.orFail failure (pure m : ExceptT RunError M Module) = pure m := by
    apply ExceptT.ext
    simp [Command.orFail, Except.mapError]
  unfold Command.runCheck
  rw [hconfig]
  rw [pure_bind]
  rw [hconfigured]
  rw [pure_bind]
  rw [hmodule]
  rw [hloaded]
  rw [pure_bind]
  unfold givenValues at h
  dsimp only
  rw [h]
  apply ExceptT.ext
  simp [Except.mapError, MonadExcept.ofExcept]

/--
Whether a check sees every name with the value that it has by priority, each name once and in byte order.
-/
structure SeesByPriority (m : Module) (config : Config) (texts : List (String × String)) (vars : Variables)
    : Prop where
  runs : ∀ rules,
    m.check rules config (givenValues texts)
      =
    (rules.run (Session.start m vars).host).result.map fun () =>
      (rules.run (Session.start m vars).host).issues
  scope : ∀ a,
    (Session.start m vars).host.evaluate a = a.evalString [("var", .object vars.entries)]
  names : ∀ name,
    (∃ v, (name, v) ∈ vars.entries)
      ↔
    (∃ text, (name, text) ∈ texts)
      ∨ config.vars.contains name
      ∨ ∃ s ∈ m.structures, ∃ default, s.DeclaresDefault name default
  values : ∀ name v, (name, v) ∈ vars.entries ↔ m.HasValue config texts name v
  nodup : vars.names.Nodup
  ascending : vars.names.Pairwise fun a b => utf8Bytes a < utf8Bytes b

theorem VariablesComply.seesByPriority (h : m.VariablesComply)
    : m.SeesByPriority config texts (m.finalVariables config (givenValues texts)) := by
  have hvalues (name : String) (v : Value)
      : (name, v) ∈ (m.finalVariables config (givenValues texts)).entries
          ↔
        m.HasValue config texts name v := by
    rw [Dict.mem_entries_iff]
    rw [get?_finalVariables_eq_some_iff h]
  have hsorted := List.pairwise_map.2 (m.finalVariables config (givenValues texts)).sorted
  refine ⟨?_, ?_, ?_, hvalues, ?_, ?_⟩
  . intro rules
    apply check_eq_run
    rw [variablesFor_eq_ok_iff]
    exact ⟨h, rfl⟩
  . intro a
    rfl
  . intro name
    simp only [hvalues]
    exact exists_hasValue_iff h
  . exact hsorted.imp String.ne_of_lt
  . exact hsorted.imp utf8Bytes_lt_iff.2

/--
The variables of a check: a name that is given in several places has its value from the first of them. A
module whose variables cannot be settled fails every check, whatever is given in their place.
-/
theorem variables_by_priority (m : Module)
    : (∀ declared, m.defaults = .ok declared
        → ∀ config texts, ∃ vars,
            m.variablesFor config (givenValues texts) = .ok vars ∧ m.SeesByPriority config texts vars)
        ∧ ∀ e, m.defaults = .error e
            → (∀ rules config given, m.check rules config given = .error e)
              ∧ ∀ {M : Type → Type} [Monad M] [LawfulMonad M] (files : FileAccess M) (coloured : Bool)
                  (root : String) (request : Command.Given) (config : Config) (rules : Ruleset),
                  Command.loadConfig files root request.config = pure config
                    → Ruleset.builtin.applyConfig config = .ok rules
                    → Module.load files root = pure m
                    → Command.runCheck files coloured root request = throw (.ofRunError e) := by
  constructor
  . intro declared hdeclared config texts
    have hcomply : m.VariablesComply := by
      rw [defaults_eq_orFirst] at hdeclared
      rw [← declarationFaults_eq_nil_iff]
      exact (orFirst_eq_ok_iff.1 hdeclared).1
    refine ⟨m.finalVariables config (givenValues texts), ?_, hcomply.seesByPriority⟩
    rw [variablesFor_eq_ok_iff]
    exact ⟨hcomply, rfl⟩
  . intro e he
    have hcheck (rules : Ruleset) (config : Config) (given : List (String × Value))
        : m.check rules config given = .error e := check_of_defaults_eq_error rules given he
    refine ⟨hcheck, ?_⟩
    intro M _ _ files coloured root request config rules hconfig hrules hmodule
    exact runCheck_of_check_eq_error coloured hconfig hrules hmodule (hcheck rules config _)

example
    : (lockedByVariable.variablesFor ⟨.empty, .ofList [("lock", "PATCH"), ("zone", "a")], .table⟩
          (givenValues [("zone", "b"), ("zone", "c")])).map Dict.entries
        =
      .ok [("lock", .string "PATCH"), ("zone", .string "c")] := by
  with_unfolding_all rfl

end Module

end BackendPolicy
