import BackendPolicy.Proofs.Body.Traversal
import BackendPolicy.Proofs.Module.Content

/-!
This module contains the failures of content extraction from modules. The main statement is
`content_fails_earliest`: extraction fails if and only if a block that it gets to has the wrong number of
labels or lacks an attribute, or no file has an attribute that the schema requires, and then with the fault
that is met first.
-/

namespace BackendPolicy

def BodySchema.MiscountsLabels (schema : BodySchema) (body : Body) : Prop :=
  ∃ place entry kind kindSpan labels inner,
    ReachedAt schema body place entry (.block kind kindSpan labels inner)
      ∧ labels.length ≠ entry.labelNames.length

def BodySchema.LacksAttribute (schema : BodySchema) (body : Body) : Prop :=
  ∃ place entry kind kindSpan labels inner innerSchema a,
    ReachedAt schema body place entry (.block kind kindSpan labels inner)
      ∧ entry.body = some innerSchema
      ∧ a ∈ innerSchema.attributes
      ∧ a.required
      ∧ ¬ Defines inner a.name

theorem exists_faultAt_iff (index : LineIndex) (schema : BodySchema) (body : Body)
    : (∃ place e, FaultAt index schema body place e)
        ↔
      schema.MiscountsLabels body ∨ schema.LacksAttribute body := by
  constructor
  . rintro ⟨place, e, h⟩
    cases h with
    | labelCount hreached hcount => exact .inl ⟨_, _, _, _, _, _, hreached, hcount⟩
    | missing hreached hbody ha hrequired habsent =>
      exact .inr ⟨_, _, _, _, _, _, _, _, hreached, hbody, List.mem_of_getElem? ha, hrequired, habsent⟩
  . rintro (hcount | hlacks)
    . obtain ⟨_, _, _, _, _, _, hreached, hcount⟩ := hcount
      exact ⟨_, _, .labelCount hreached hcount⟩
    . obtain ⟨_, _, _, _, _, _, _, _, hreached, hbody, ha, hrequired, habsent⟩ := hlacks
      obtain ⟨j, hj⟩ := List.getElem?_of_mem ha
      exact ⟨_, _, .missing hreached hbody hj hrequired habsent⟩

namespace Module

/--
What is wrong at a place of a module. The place of a file is its number. An attribute that no file has is met
after all files, at the number of the schema's entry.
-/
inductive FaultAt (m : Module) (schema : BodySchema) : List Nat → RunError → Prop where
  | inFile {i : Nat} {file : SourceFile} {place : List Nat} {e : RunError}
      (hfile : m.files[i]? = some file)
      (hfault : BackendPolicy.FaultAt file.index schema file.body place e)
      : FaultAt m schema (i :: place) e
  | missing {j : Nat} {a : AttributeSchema}
      (ha : schema.attributes[j]? = some a)
      (hrequired : a.required)
      (habsent : ∀ file ∈ m.files, ¬ Defines file.body a.name)
      : FaultAt m schema [m.files.length, j] (.missingAttribute a.name m.range)

variable (m : Module) (schema : BodySchema)

theorem contains_selected_iff {name : String} (hname : schema.NamesAttribute name)
    : (m.selected schema).attributes.contains name ↔ ∃ file ∈ m.files, Defines file.body name := by
  have hfile (file : SourceFile)
      : (∃ found, (name, found) ∈ selectedAttributes file.index schema file.body)
          ↔
        Defines file.body name := by
    rw [← Dict.contains_ofList_iff]
    exact contains_select_iff file.index file.body hname
  rw [attributes_selected]
  rw [Dict.contains_ofList_iff]
  simp only [List.mem_flatMap]
  rw [exists_comm]
  simp only [exists_and_left, hfile]

theorem fileFaults_inOrder
    : InOrder
        (fun place e =>
          ∃ i file rest,
            m.files[i]? = some file
              ∧ place = i :: rest
              ∧ BackendPolicy.FaultAt file.index schema file.body rest e)
        (m.fileFaults schema) :=
  .flatMap m.files fun file _ => faults_inOrder file.index schema file.body

theorem contentFaults_inOrder : InOrder (m.FaultAt schema) (m.contentFaults schema) := by
  have hmissing := missingFaults_inOrder (fun name => ∃ file ∈ m.files, Defines file.body name)
    (fun a ha => m.contains_selected_iff schema ⟨a, ha, rfl⟩) m.range
  refine ((m.fileFaults_inOrder schema).append (hmissing.cons m.files.length) ?_).congr ?_
  . rintro _ _ _ _ ⟨i, file, rest, hfile, rfl, _⟩ ⟨_, rfl, _⟩
    exact List.cons_lt_cons_iff.2 (.inl (List.getElem?_eq_some_iff.1 hfile).1)
  . intro place e
    constructor
    . rintro (⟨i, file, rest, hfile, rfl, hfault⟩ | ⟨_, rfl, j, a, ha, rfl, ⟨hrequired, habsent⟩, rfl⟩)
      . exact .inFile hfile hfault
      . exact .missing ha hrequired fun file hfile h => habsent ⟨file, hfile, h⟩
    . intro h
      cases h with
      | inFile hfile hfault => exact .inl ⟨_, _, _, hfile, rfl, hfault⟩
      | missing ha hrequired habsent =>
        refine .inr ⟨_, rfl, _, _, ha, rfl, ⟨hrequired, ?_⟩, rfl⟩
        rintro ⟨file, hfile, h⟩
        exact habsent file hfile h

theorem exists_faultAt_iff
    : (∃ place e, m.FaultAt schema place e)
        ↔
      (∃ file ∈ m.files, schema.MiscountsLabels file.body)
        ∨ (∃ file ∈ m.files, schema.LacksAttribute file.body)
        ∨ ∃ a ∈ schema.attributes, a.required ∧ ∀ file ∈ m.files, ¬ Defines file.body a.name := by
  have hfile (file : SourceFile) := BackendPolicy.exists_faultAt_iff file.index schema file.body
  constructor
  . rintro ⟨place, e, h⟩
    cases h with
    | @inFile i file place _ hmem hfault =>
      obtain hcount | hlacks := (hfile file).1 ⟨_, _, hfault⟩
      . exact .inl ⟨file, List.mem_of_getElem? hmem, hcount⟩
      . exact .inr (.inl ⟨file, List.mem_of_getElem? hmem, hlacks⟩)
    | missing ha hrequired habsent => exact .inr (.inr ⟨_, List.mem_of_getElem? ha, hrequired, habsent⟩)
  . rintro (⟨file, hmem, hcount⟩ | ⟨file, hmem, hlacks⟩ | ⟨a, ha, hrequired, habsent⟩)
    . obtain ⟨i, hi⟩ := List.getElem?_of_mem hmem
      obtain ⟨place, e, hfault⟩ := (hfile file).2 (.inl hcount)
      exact ⟨_, e, .inFile hi hfault⟩
    . obtain ⟨i, hi⟩ := List.getElem?_of_mem hmem
      obtain ⟨place, e, hfault⟩ := (hfile file).2 (.inr hlacks)
      exact ⟨_, e, .inFile hi hfault⟩
    . obtain ⟨j, hj⟩ := List.getElem?_of_mem ha
      exact ⟨_, _, .missing hj hrequired habsent⟩

theorem content_eq_error_iff {e : RunError}
    : m.content schema = .error e
        ↔
      ∃ place, m.FaultAt schema place e ∧ ∀ other e', m.FaultAt schema other e' → place ≤ other := by
  rw [content_eq_orFirst]
  rw [orFirst_eq_error_iff]
  exact (m.contentFaults_inOrder schema).head?_eq_some_iff

/--
Extraction fails exactly if a block that is reached has the wrong number of labels or lacks an attribute that
is required, or no file has an attribute that the schema requires. The failure is the one at the least place.
-/
theorem content_fails_earliest
    : ((∃ e, m.content schema = .error e)
          ↔
        (∃ file ∈ m.files, schema.MiscountsLabels file.body)
          ∨ (∃ file ∈ m.files, schema.LacksAttribute file.body)
          ∨ ∃ a ∈ schema.attributes, a.required ∧ ∀ file ∈ m.files, ¬ Defines file.body a.name)
      ∧ ∀ e,
          m.content schema = .error e
            ↔
          ∃ place, m.FaultAt schema place e ∧ ∀ other e', m.FaultAt schema other e' → place ≤ other := by
  refine ⟨?_, fun e => m.content_eq_error_iff schema⟩
  rw [← exists_faultAt_iff]
  have hnil := (m.contentFaults_inOrder schema).eq_nil_iff
  rw [content_eq_orFirst]
  cases hfaults : m.contentFaults schema with
  | nil =>
    simp only [hfaults, true_iff] at hnil
    simp [hnil]
  | cons e faults =>
    simp only [hfaults, reduceCtorEq, false_iff, not_forall, Classical.not_not] at hnil
    simp [hnil]

def strictEntry : BlockSchema := {
  kind := "a"
  body := some {
    attributes := [{ name := "k" }, { name := "k", required := true }]
    blocks := [{ kind := "b", labelNames := ["n"] }] } }

def strictSchema : BodySchema := {
  attributes := [{ name := "top", required := true }]
  blocks := [strictEntry] }

def faultyBody : Body :=
  [.block "a" ⟨0, 1⟩ [] [.block "b" ⟨6, 7⟩ [] []]]

def faultyModule : Module :=
  ⟨[⟨.ofSource "main.tf" "a \x7b\n  b \x7b\n  \x7d\n\x7d\n", faultyBody⟩]⟩

/--
The block inside comes before the attribute that the block around it lacks, and both before that of the file.
-/
theorem content_fails_earliest_inside
    : let e : RunError := .labelCount "b" ["n"] 0 ⟨"main.tf", ⟨2, 3, 6⟩, ⟨2, 4, 7⟩⟩
      faultyModule.content strictSchema = .error e
        ∧ (∃ place,
            faultyModule.FaultAt strictSchema place e
              ∧ ∀ other e', faultyModule.FaultAt strictSchema other e' → place ≤ other)
        ∧ faultyModule.FaultAt strictSchema [0, 0, 1, 1]
            (.missingAttribute "k" ⟨"main.tf", ⟨1, 1, 0⟩, ⟨1, 2, 1⟩⟩)
        ∧ faultyModule.FaultAt strictSchema [1, 0]
            (.missingAttribute "top" ⟨"main.tf", ⟨1, 1, 0⟩, ⟨1, 1, 0⟩⟩) := by
  have herror : faultyModule.content strictSchema
      = .error (.labelCount "b" ["n"] 0 ⟨"main.tf", ⟨2, 3, 6⟩, ⟨2, 4, 7⟩⟩) := by
    with_unfolding_all rfl
  have hhead : headOf (.ofSource "main.tf" "a \x7b\n  b \x7b\n  \x7d\n\x7d\n") ⟨0, 1⟩ []
      = ⟨"main.tf", ⟨1, 1, 0⟩, ⟨1, 2, 1⟩⟩ := by
    with_unfolding_all rfl
  have hrange : faultyModule.range = ⟨"main.tf", ⟨1, 1, 0⟩, ⟨1, 1, 0⟩⟩ := by
    with_unfolding_all rfl
  refine ⟨herror, ((content_fails_earliest faultyModule strictSchema).2 _).1 herror, ?_, ?_⟩
  . rw [← hhead]
    have hreached : ReachedAt strictSchema faultyBody [0] strictEntry
        (.block "a" ⟨0, 1⟩ [] [.block "b" ⟨6, 7⟩ [] []]) :=
      .here rfl rfl
    exact .inFile rfl (.missing (j := 1) (a := ⟨"k", true⟩) hreached rfl rfl rfl (by simp [Defines]))
  . rw [← hrange]
    have habsent : ∀ file ∈ faultyModule.files, ¬ Defines file.body "top" := by
      simp [faultyModule, faultyBody, Defines]
    exact .missing (a := ⟨"top", true⟩) rfl rfl habsent

end Module

end BackendPolicy
