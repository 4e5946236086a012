import BackendPolicy.Proofs.Hcl.Structure
import BackendPolicy.Proofs.Module.Sources
import BackendPolicy.Proofs.Module.Verdict

/-!
This module contains the policy on modules that come from the parser. The keys of their bodies are distinct, so the
last attribute of a name is the only one.
-/

namespace BackendPolicy

open Hcl

theorem mem_keysOf_iff {body : Body} {name : String} : name ∈ keysOf body ↔ Defines body name := by
  unfold keysOf Defines
  rw [List.mem_filterMap]
  constructor
  . rintro ⟨s, hs, hkey⟩
    rcases s with ⟨key, value, span, valueSpan⟩ | _
    . cases hkey
      exact ⟨value, span, valueSpan, hs⟩
    . contradiction
  . rintro ⟨value, span, valueSpan, hmem⟩
    exact ⟨_, hmem, rfl⟩

theorem isLastAttribute_iff_of_nodup {index : LineIndex} {body : Body} {name : String} {found : Attribute}
    (h : (keysOf body).Nodup)
    : IsLastAttribute index body name found
        ↔
      ∃ (value : Expr) (span valueSpan : Span),
        .attribute name value span valueSpan ∈ body
          ∧ found = ⟨name, value, index.range span, index.range valueSpan⟩ := by
  constructor
  . rintro ⟨before, value, span, valueSpan, after, rfl, _, hfound⟩
    exact ⟨value, span, valueSpan, by simp, hfound⟩
  . rintro ⟨value, span, valueSpan, hmem, hfound⟩
    obtain ⟨before, after, rfl⟩ := List.append_of_mem hmem
    refine ⟨before, value, span, valueSpan, after, rfl, ?_, hfound⟩
    rw [← mem_keysOf_iff]
    have hkeys : keysOf (before ++ .attribute name value span valueSpan :: after)
        = keysOf before ++ name :: keysOf after := by
      simp [keysOf]
    rw [hkeys] at h
    exact (List.nodup_cons.1 (List.nodup_append.1 h).2.1).1

theorem forall_isLastAttribute_iff_of_nodup {index : LineIndex} {body : Body} {name : String} {P : Expr → Prop}
    (h : (keysOf body).Nodup)
    : (∀ found, IsLastAttribute index body name found → P found.value)
        ↔
      ∀ value span valueSpan, .attribute name value span valueSpan ∈ body → P value := by
  simp only [isLastAttribute_iff_of_nodup h]
  constructor
  . intro hall value span valueSpan hmem
    exact hall _ ⟨value, span, valueSpan, hmem, rfl⟩
  . rintro hall _ ⟨value, span, valueSpan, hmem, rfl⟩
    exact hall value span valueSpan hmem

def HasText (body : Body) (name : String) (scope : Scope) (text : String) : Prop :=
  ∃ value span valueSpan v,
    .attribute name value span valueSpan ∈ body ∧ value.eval scope = .ok v ∧ v.asString = .ok text

theorem evaluatesTo_iff_of_nodup {index : LineIndex} {body : Body} {name text : String} {scope : Scope}
    (h : (keysOf body).Nodup)
    : EvaluatesTo index body name scope text ↔ HasText body name scope text := by
  unfold EvaluatesTo
  simp only [isLastAttribute_iff_of_nodup h]
  constructor
  . rintro ⟨_, v, ⟨value, span, valueSpan, hmem, rfl⟩, hv, htext⟩
    exact ⟨value, span, valueSpan, v, hmem, hv, htext⟩
  . rintro ⟨value, span, valueSpan, v, hmem, hv, htext⟩
    exact ⟨_, v, ⟨value, span, valueSpan, hmem, rfl⟩, hv, htext⟩

namespace Module

variable {sources : List (String × String)} {m : Module}

theorem unambiguous_of_ofSources (h : ofSources sources = .ok m) : ∀ file ∈ m.files, Unambiguous file.body := by
  intro file hfile
  obtain ⟨_, _, _, hbody⟩ := exists_isOf_of_mem_files h file hfile
  exact unambiguous_of_parseFile hbody

/--
The policy on a parsed module is one on all attributes that it is about, not only on the last ones.
-/
theorem complies_iff_of_ofSources (h : ofSources sources = .ok m) (vars : Variables)
    : m.Complies vars
        ↔
      (∀ file ∈ m.files, ∀ kindSpan labels body, .block "variable" kindSpan labels body ∈ file.body
          → labels.length = 1
              ∧ ∀ value span valueSpan, .attribute "default" value span valueSpan ∈ body
                  → ∃ v, value.eval [] = .ok v)
        ∧ ∀ file ∈ m.files, ∀ kindSpan labels body, .block "terraform" kindSpan labels body ∈ file.body
            → labels = []
                ∧ ∀ kindSpan labels inner, .block "backend" kindSpan labels inner ∈ body
                    → (∃ label, labels = [label] ∧ label.text = "http")
                        ∧ HasText inner "lock_method" vars.scope "POST"
                        ∧ HasText inner "unlock_method" vars.scope "DELETE" := by
  have hcomplies : m.Complies vars ↔ m.VariablesComply ∧ m.BackendsComply vars :=
    ⟨fun h => ⟨h.declarations, h.backends⟩, fun ⟨declarations, backends⟩ => ⟨declarations, backends⟩⟩
  rw [hcomplies]
  apply and_congr
  . apply forall₂_congr
    intro file hfile
    apply forall₄_congr
    intro kindSpan labels body hmem
    have hbody := (unambiguous_of_ofSources h file hfile).of_block_mem hmem
    apply and_congr_right
    intro _
    exact forall_isLastAttribute_iff_of_nodup (P := fun value => ∃ v, value.eval [] = .ok v) hbody.nodup_keysOf
  . apply forall₂_congr
    intro file hfile
    apply forall₄_congr
    intro kindSpan labels body hmem
    have hbody := (unambiguous_of_ofSources h file hfile).of_block_mem hmem
    apply and_congr_right
    intro _
    apply forall₄_congr
    intro innerSpan innerLabels inner hinner
    have hkeys := (hbody.of_block_mem hinner).nodup_keysOf
    unfold BackendComplies
    rw [evaluatesTo_iff_of_nodup hkeys]
    rw [evaluatesTo_iff_of_nodup hkeys]

end Module

end BackendPolicy
