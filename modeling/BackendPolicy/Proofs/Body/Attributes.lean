import BackendPolicy.Proofs.Body.Selection

/-!
This module contains the attributes of a body, looked up by name, and what extraction finds of them: exactly
those that the schema names, each with its own value and ranges.
-/

namespace BackendPolicy

def structureAttribute? (index : LineIndex) (name : String) : Structure → Option Attribute
  | .attribute key value span valueSpan =>
    if key = name then some ⟨key, value, index.range span, index.range valueSpan⟩ else none
  | .block _ _ _ _ => none

/--
The attribute of a name in a body. Of several the last one counts; in a parsed body there is only one.
-/
def attributeOf? (index : LineIndex) (name : String) (body : Body) : Option Attribute :=
  (body.filterMap (structureAttribute? index name)).getLast?

def Defines (body : Body) (name : String) : Prop :=
  ∃ value span valueSpan, Structure.attribute name value span valueSpan ∈ body

def IsLastAttribute (index : LineIndex) (body : Body) (name : String) (found : Attribute) : Prop :=
  ∃ (before : Body) (value : Expr) (span valueSpan : Span) (after : Body),
    body = before ++ .attribute name value span valueSpan :: after
      ∧ ¬ Defines after name
      ∧ found = ⟨name, value, index.range span, index.range valueSpan⟩

def BodySchema.NamesAttribute (schema : BodySchema) (name : String) : Prop :=
  ∃ entry ∈ schema.attributes, entry.name = name

theorem BodySchema.isSome_attribute?_iff {schema : BodySchema} {name : String}
    : (schema.attribute? name).isSome ↔ schema.NamesAttribute name := by
  unfold BodySchema.attribute? BodySchema.NamesAttribute
  simp

variable {index : LineIndex} {body : Body} {name : String} {found : Attribute}

theorem structureAttribute?_eq_some_iff {s : Structure}
    : structureAttribute? index name s = some found
        ↔
      ∃ (value : Expr) (span valueSpan : Span),
        s = .attribute name value span valueSpan
          ∧ found = ⟨name, value, index.range span, index.range valueSpan⟩ := by
  rcases s with ⟨key, value, span, valueSpan⟩ | _
  . unfold structureAttribute?
    by_cases h : key = name
    . subst h
      simp [eq_comm]
    . simp [h]
  . simp [structureAttribute?]

theorem forall_structureAttribute?_eq_none_iff (index : LineIndex)
    : (∀ s ∈ body, structureAttribute? index name s = none) ↔ ¬ Defines body name := by
  constructor
  . intro h ⟨value, span, valueSpan, hmem⟩
    have := h _ hmem
    simp [structureAttribute?] at this
  . intro h s hs
    cases hattr : structureAttribute? index name s with
    | none => rfl
    | some found =>
      obtain ⟨value, span, valueSpan, rfl, -⟩ := structureAttribute?_eq_some_iff.1 hattr
      exact absurd ⟨value, span, valueSpan, hs⟩ h

theorem attributeOf?_eq_some_iff
    : attributeOf? index name body = some found ↔ IsLastAttribute index body name found := by
  unfold attributeOf? IsLastAttribute
  rw [getLast?_filterMap_eq_some_iff]
  constructor
  . rintro ⟨before, s, after, hbody, hs, hafter⟩
    obtain ⟨value, span, valueSpan, rfl, hfound⟩ := structureAttribute?_eq_some_iff.1 hs
    exact ⟨before, value, span, valueSpan, after, hbody,
      (forall_structureAttribute?_eq_none_iff index).1 hafter, hfound⟩
  . rintro ⟨before, value, span, valueSpan, after, hbody, hafter, hfound⟩
    exact ⟨before, _, after, hbody, structureAttribute?_eq_some_iff.2 ⟨value, span, valueSpan, rfl, hfound⟩,
      (forall_structureAttribute?_eq_none_iff index).2 hafter⟩

theorem attributeOf?_eq_none_iff : attributeOf? index name body = none ↔ ¬ Defines body name := by
  unfold attributeOf?
  rw [List.getLast?_eq_none_iff]
  rw [List.filterMap_eq_nil_iff]
  exact forall_structureAttribute?_eq_none_iff index

theorem isSome_attributeOf?_iff (index : LineIndex)
    : (attributeOf? index name body).isSome ↔ Defines body name := by
  rw [← Option.ne_none_iff_isSome]
  rw [ne_eq]
  rw [attributeOf?_eq_none_iff]
  exact Classical.not_not

theorem get?_select (index : LineIndex) (schema : BodySchema) (body : Body) (name : String)
    : (select index schema body).attributes.get? name
        =
      if (schema.attribute? name).isSome then attributeOf? index name body else none := by
  unfold select
  rw [Dict.get?_ofList]
  unfold lastValue? selectedAttributes attributeOf?
  rw [List.filterMap_filterMap]
  split
  . next hname =>
    congr 2
    funext s
    rcases s with ⟨key, value, span, valueSpan⟩ | _
    . by_cases hkey : key = name
      . subst hkey
        simp [selectedAttribute?, structureAttribute?, hname]
      . simp only [selectedAttribute?, structureAttribute?, hkey, ↓reduceIte]
        split <;> simp [hkey]
    . rfl
  . next hname =>
    rw [List.getLast?_eq_none_iff]
    rw [List.filterMap_eq_nil_iff]
    intro s hs
    rcases s with ⟨key, value, span, valueSpan⟩ | _
    . simp only [selectedAttribute?]
      by_cases hkey : key = name
      . simp [hkey, hname]
      . split <;> simp [hkey]
    . rfl

theorem get?_select_eq_some_iff {schema : BodySchema}
    : (select index schema body).attributes.get? name = some found
        ↔
      schema.NamesAttribute name ∧ IsLastAttribute index body name found := by
  rw [get?_select]
  rw [← BodySchema.isSome_attribute?_iff]
  rw [← attributeOf?_eq_some_iff]
  split
  . next h => simp [h]
  . next h => simp [h]

end BackendPolicy
