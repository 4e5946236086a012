import BackendPolicy.Hcl.Structure
import BackendPolicy.Proofs.Hcl.Parser
import Mathlib.Data.List.Nodup

/-!
This module contains the keys of parsed bodies: at no depth does a body have two attributes of one key.
-/

namespace BackendPolicy.Hcl

open BackendPolicy.Hcl.Parser

/--
Whether the keys of a body are distinct, and so are those of the bodies inside it.
-/
inductive Unambiguous : Body → Prop where
  | intro {body : Body} (keys : (keysOf body).Nodup)
      (blocks : ∀ kind kindSpan labels inner, .block kind kindSpan labels inner ∈ body → Unambiguous inner)
      : Unambiguous body

theorem Unambiguous.nodup_keysOf {body : Body} (h : Unambiguous body) : (keysOf body).Nodup := by
  obtain ⟨keys, _⟩ := h
  exact keys

theorem Unambiguous.of_block_mem {body inner : Body} {kind : String} {kindSpan : Span} {labels : List Label}
    (h : Unambiguous body) (hmem : .block kind kindSpan labels inner ∈ body)
    : Unambiguous inner := by
  obtain ⟨_, blocks⟩ := h
  exact blocks kind kindSpan labels inner hmem

inductive Fresh (keys : List String) : Structure → Prop where
  | ofAttribute {key : String} {value : Expr} {span valueSpan : Span} (h : key ∉ keys)
      : Fresh keys (.attribute key value span valueSpan)
  | ofBlock {kind : String} {kindSpan : Span} {labels : List Label} {body : Body} (h : Unambiguous body)
      : Fresh keys (.block kind kindSpan labels body)

theorem unambiguous_nil : Unambiguous [] := by
  refine .intro .nil ?_
  intro _ _ _ _ hmem
  contradiction

theorem keysOf_append_attribute (body : Body) (key : String) (value : Expr) (span valueSpan : Span)
    : keysOf (body ++ [.attribute key value span valueSpan]) = keysOf body ++ [key] := by
  simp [keysOf]

theorem keysOf_append_block (body : Body) (kind : String) (kindSpan : Span) (labels : List Label) (inner : Body)
    : keysOf (body ++ [.block kind kindSpan labels inner]) = keysOf body := by
  simp [keysOf]

theorem Unambiguous.append_singleton {body : Body} {s : Structure} (h : Unambiguous body)
    (hfresh : Fresh (keysOf body) s)
    : Unambiguous (body ++ [s]) := by
  obtain ⟨keys, blocks⟩ := h
  cases hfresh with
  | ofAttribute hkey =>
    refine .intro ?_ ?_
    . rw [keysOf_append_attribute]
      rw [← List.concat_eq_append]
      rw [List.nodup_concat]
      exact ⟨hkey, keys⟩
    . intro kind kindSpan labels inner hmem
      simp only [List.mem_append, List.mem_singleton, reduceCtorEq, or_false] at hmem
      exact blocks kind kindSpan labels inner hmem
  | ofBlock hbody =>
    refine .intro ?_ ?_
    . rw [keysOf_append_block]
      exact keys
    . intro kind kindSpan labels inner hmem
      simp only [List.mem_append, List.mem_singleton, Structure.block.injEq] at hmem
      obtain hmem | ⟨_, _, _, rfl⟩ := hmem
      . exact blocks kind kindSpan labels inner hmem
      . exact hbody

variable {c : Cursor}

theorem attributeValue_ensures (key : String) (start : Nat)
    : (attributeValue key start).Ensures c fun s _ =>
        ∃ value span valueSpan, s = .attribute key value span valueSpan := by
  unfold attributeValue
  simp only [ensures_bind, ensures_pure]
  intro _ _ _ _ _ _ ⟨value, span⟩ _ _
  exact ⟨_, _, _, rfl⟩

theorem lineAttribute_ensures
    : lineAttribute.Ensures c fun s _ =>
        ∃ key value span valueSpan, s = .attribute key value span valueSpan := by
  unfold lineAttribute
  simp only [ensures_bind]
  intro ⟨key, span⟩ _ _ _ _ _ _ c _ s next hs
  obtain ⟨value, span, valueSpan, rfl⟩ := attributeValue_ensures key span.start s next hs
  exact ⟨_, _, _, _, rfl⟩

theorem blockBody_ensures {body : Parser Body} (h : ∀ c, body.Ensures c fun inner _ => Unambiguous inner)
    : (blockBody body).Ensures c fun inner _ => Unambiguous inner := by
  unfold blockBody
  rw [ensures_bind]
  intro _ c _
  rw [ensures_bind]
  apply Ensures.orElse
  . simp only [ensures_bind, ensures_pure]
    intro _ _ _ _ _ _ _ c _ inner _ hinner _ _ _
    exact h c _ _ hinner
  . simp only [ensures_bind, ensures_pure]
    intro _ c _
    apply ensures_opt
    . simp only [ensures_bind, ensures_pure]
      intro s _ hs _ _ _ _ _ _
      obtain ⟨key, value, span, valueSpan, rfl⟩ := lineAttribute_ensures s _ hs
      apply unambiguous_nil.append_singleton
      exact .ofAttribute (by simp [keysOf])
    . intro _ _ _
      exact unambiguous_nil

theorem oneStructure_ensures (keys : List String) {body : Parser Body}
    (h : ∀ c, body.Ensures c fun inner _ => Unambiguous inner)
    : (oneStructure keys body).Ensures c fun s _ => Fresh keys s := by
  unfold oneStructure
  simp only [ensures_bind]
  rintro start _ _ ⟨name, span⟩ _ _ _ _ _ text c _
  cases text with
  | nil => exact ensures_fail
  | cons first _ =>
    dsimp only
    split
    . intro s last hs
      -- One branch is a bare function of the cursor. `split` cannot abstract a condition over it.
      by_cases hkey : name ∈ keys
      . cases (congrFun (if_pos hkey) c).symm.trans hs
      . have hs := (congrFun (if_neg hkey) c).symm.trans hs
        obtain ⟨value, span, valueSpan, rfl⟩ := attributeValue_ensures name start s last hs
        exact .ofAttribute hkey
    . split
      . simp only [ensures_bind, ensures_pure]
        intro inner next hinner
        exact .ofBlock (blockBody_ensures h inner next hinner)
      . split
        . refine (ensures_bind (p := many label)).2 ?_
          intro labels _ _
          simp only [ensures_bind, ensures_pure]
          intro inner next hinner
          exact .ofBlock (blockBody_ensures h inner next hinner)
        . exact ensures_complain

theorem bodyWith_ensures {body : Parser Body} (h : ∀ c, body.Ensures c fun inner _ => Unambiguous inner)
    : (bodyWith body).Ensures c fun inner _ => Unambiguous inner := by
  unfold bodyWith
  dsimp only
  refine (ensures_bind (p := iterate _ [])).2 ?_
  intro structures next hstructures
  simp only [ensures_bind, ensures_pure]
  intro _ _ _
  refine ensures_iterate (fun done _ => Unambiguous done) ?_ [] c unambiguous_nil structures next hstructures
  intro done c hinv
  simp only [ensures_bind]
  intro _ c _
  apply ensures_opt
  . intro s next hs
    have hfresh := oneStructure_ensures (keysOf done) h s next hs
    simp only [ensures_bind, ensures_pure]
    intro _ _ _ _ _ _ _ _ _ _ heq
    cases heq
    exact hinv.append_singleton hfresh
  . rw [ensures_pure]
    intro _ heq
    contradiction

theorem bodyWithin_ensures (depth : Nat) : (bodyWithin depth).Ensures c fun body _ => Unambiguous body := by
  induction depth generalizing c with
  | zero => exact ensures_fail
  | succ depth ih => exact bodyWith_ensures fun _ => ih

theorem unambiguous_of_parseFile {text : List Char} {body : Body} (h : parseFile text = .ok body)
    : Unambiguous body := by
  have hfile : file.Ensures (.start text) fun body _ => Unambiguous body := by
    unfold file
    simp only [ensures_bind, ensures_pure]
    intro length c _ inner _ hinner _ _ _
    exact bodyWithin_ensures _ inner _ hinner
  unfold parseFile at h
  split at h
  . next found last heq =>
    cases h
    exact hfile _ last heq
  . contradiction
  . contradiction

end BackendPolicy.Hcl
