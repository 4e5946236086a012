import BackendPolicy.Command.Run
import BackendPolicy.Proofs.Data.Faults

/-!
This module contains the configuration of a run: what it is, and how there may be none. The command line may
give a file; else a file is looked for in the directory that is checked.
-/

namespace BackendPolicy.Command

section

variable (files : FileAccess Id) (root : String)

/--
How there is no configuration. A file that is given has to be there, the file that is looked for by default
may be absent.
-/
inductive ConfigFails : Option String → Failure → Prop where
  | unreadable {path : String} {fault : FileFault} (hread : files.readText path = .error fault)
      : ConfigFails (some path)
          ((Failure.ofConfigError (.unreadable fault)).during s!"failed to load {path}")
  | undecodable {path text : String} {e : Config.DecodeError} (hread : files.readText path = .ok text)
      (htext : Config.ofText text = .error e)
      : ConfigFails (some path)
          ((Failure.ofConfigError (.undecodable e)).during s!"failed to load {path}")
  | defaultUnreadable {fault : FileFault}
      (hread : files.readText (Path.join root ".backend-lint.toml") = .error fault)
      (hfault : fault ≠ .notFound)
      : ConfigFails none (.ofConfigError (.unreadable fault))
  | defaultUndecodable {text : String} {e : Config.DecodeError}
      (hread : files.readText (Path.join root ".backend-lint.toml") = .ok text)
      (htext : Config.ofText text = .error e)
      : ConfigFails none (.ofConfigError (.undecodable e))

inductive HasConfig : Option String → Config → Prop where
  | given {path text : String} {config : Config} (hread : files.readText path = .ok text)
      (htext : Config.ofText text = .ok config) : HasConfig (some path) config
  | default {text : String} {config : Config}
      (hread : files.readText (Path.join root ".backend-lint.toml") = .ok text)
      (htext : Config.ofText text = .ok config) : HasConfig none config
  | absent (hread : files.readText (Path.join root ".backend-lint.toml") = .error .notFound)
      : HasConfig none .default

end

variable {files : FileAccess Id} {root : String}

theorem run_loadConfig (path : Option String)
    : (loadConfig files root path).run.run
        =
      match path with
      | some path =>
        (Config.ofRead (files.readText path)).mapError fun e =>
          (Failure.ofConfigError e).during s!"failed to load {path}"
      | none =>
        Except.mapError .ofConfigError <|
          match files.readText (Path.join root ".backend-lint.toml") with
          | .error .notFound => .ok .default
          | found => Config.ofRead found := by
  cases path with
  | some => rfl
  | none =>
    unfold loadConfig orFail Config.loadFor Config.fileName
    cases files.readText (Path.join root ".backend-lint.toml") with
    | ok => rfl
    | error fault => cases fault <;> rfl

theorem ofRead_eq_ok_iff {found : Except FileFault String} {config : Config}
    : Config.ofRead found = .ok config ↔ ∃ text, found = .ok text ∧ Config.ofText text = .ok config := by
  cases found with
  | error => simp [Config.ofRead]
  | ok text => cases htext : Config.ofText text <;> simp [Config.ofRead, Except.mapError, htext]

theorem ofRead_eq_error_iff {found : Except FileFault String} {e : ConfigError}
    : Config.ofRead found = .error e
        ↔
      (∃ fault, found = .error fault ∧ e = .unreadable fault)
        ∨ ∃ text error, found = .ok text ∧ Config.ofText text = .error error ∧ e = .undecodable error := by
  cases found with
  | error => simp [Config.ofRead, eq_comm]
  | ok text => cases htext : Config.ofText text <;> simp [Config.ofRead, Except.mapError, htext, eq_comm]

theorem loadConfig_eq_ok_iff {path : Option String} {config : Config}
    : (loadConfig files root path).run.run = .ok config ↔ HasConfig files root path config := by
  rw [run_loadConfig]
  cases path with
  | some path =>
    dsimp only
    rw [mapError_eq_ok_iff]
    rw [ofRead_eq_ok_iff]
    constructor
    . rintro ⟨text, hread, htext⟩
      exact .given hread htext
    . intro h
      cases h with
      | given hread htext => exact ⟨_, hread, htext⟩
  | none =>
    dsimp only
    rw [mapError_eq_ok_iff]
    split
    . next habsent =>
      constructor
      . rintro ⟨⟩
        exact .absent habsent
      . intro h
        cases h with
        | default hread => simp [hread] at habsent
        | absent => rfl
    . next hfound =>
      rw [ofRead_eq_ok_iff]
      constructor
      . rintro ⟨text, hread, htext⟩
        exact .default hread htext
      . intro h
        cases h with
        | default hread htext => exact ⟨_, hread, htext⟩
        | absent habsent => exact absurd habsent hfound

theorem loadConfig_eq_error_iff {path : Option String} {f : Failure}
    : (loadConfig files root path).run.run = .error f ↔ ConfigFails files root path f := by
  rw [run_loadConfig]
  cases path with
  | some path =>
    dsimp only
    rw [mapError_eq_error_iff]
    simp only [ofRead_eq_error_iff]
    constructor
    . rintro ⟨_, ⟨fault, hread, rfl⟩ | ⟨text, error, hread, htext, rfl⟩, rfl⟩
      . exact .unreadable hread
      . exact .undecodable hread htext
    . intro h
      cases h with
      | unreadable hread => exact ⟨_, .inl ⟨_, hread, rfl⟩, rfl⟩
      | undecodable hread htext => exact ⟨_, .inr ⟨_, _, hread, htext, rfl⟩, rfl⟩
  | none =>
    dsimp only
    rw [mapError_eq_error_iff]
    split
    . next habsent =>
      constructor
      . rintro ⟨_, ⟨⟩, _⟩
      . intro h
        cases h with
        | defaultUnreadable hread hfault => exact absurd (Except.error.inj (hread.symm.trans habsent)) hfault
        | defaultUndecodable hread => simp [hread] at habsent
    . next hfound =>
      simp only [ofRead_eq_error_iff]
      constructor
      . rintro ⟨_, ⟨fault, hread, rfl⟩ | ⟨text, error, hread, htext, rfl⟩, rfl⟩
        . refine .defaultUnreadable hread ?_
          rintro rfl
          exact hfound hread
        . exact .defaultUndecodable hread htext
      . intro h
        cases h with
        | defaultUnreadable hread => exact ⟨_, .inl ⟨_, hread, rfl⟩, rfl⟩
        | defaultUndecodable hread htext => exact ⟨_, .inr ⟨_, _, hread, htext, rfl⟩, rfl⟩

end BackendPolicy.Command
