import BackendPolicy.Module.Basic
import BackendPolicy.Proofs.Body.Schema

/-!
This module contains the content of modules, taken apart like that of single bodies: what a schema selects
from all files, and everything in them that is wrong for it.
-/

namespace BackendPolicy.Module

def structures (m : Module) : Body :=
  m.files.flatMap SourceFile.body

def selected (m : Module) (schema : BodySchema) : BodyContent :=
  m.files.foldl (fun done file => done.append (select file.index schema file.body)) .empty

def fileFaults (m : Module) (schema : BodySchema) : List RunError :=
  m.files.flatMap fun file => faults file.index schema file.body

/--
What is wrong in a module for a schema: what is wrong inside its files, then the attributes that none of them
has.
-/
def contentFaults (m : Module) (schema : BodySchema) : List RunError :=
  m.fileFaults schema ++ missingFaults schema (m.selected schema) m.range

theorem contentInto_eq_orFirst (schema : BodySchema) (done : BodyContent) (files : List SourceFile)
    : contentInto schema done files
        =
      orFirst (files.flatMap fun file => faults file.index schema file.body)
        (files.foldl (fun done file => done.append (select file.index schema file.body)) done) := by
  induction files generalizing done with
  | nil => rfl
  | cons file files ih =>
    unfold contentInto
    rw [extract_eq_orFirst]
    simp only [ih]
    rw [orFirst_bind_orFirst]
    rfl

variable (m : Module) (schema : BodySchema)

theorem content_eq_orFirst : m.content schema = orFirst (m.contentFaults schema) (m.selected schema) := by
  unfold content
  rw [contentInto_eq_orFirst]
  unfold contentFaults fileFaults selected
  simp only [checkRequired_eq_orFirst]
  cases List.flatMap _ m.files with
  | cons => rfl
  | nil =>
    dsimp only [orFirst_nil, List.nil_append, bind, Except.bind]
    cases missingFaults _ _ _ with
    | nil => rfl
    | cons => rfl

theorem blocks_selected
    : (m.selected schema).blocks
        =
      m.files.flatMap fun file => selectedBlocks file.index schema file.body := by
  unfold selected
  have hblocks (done : BodyContent) (files : List SourceFile)
      : (files.foldl (fun done file => done.append (select file.index schema file.body)) done).blocks
          =
        done.blocks ++ files.flatMap fun file => selectedBlocks file.index schema file.body := by
    induction files generalizing done with
    | nil => simp
    | cons file files ih =>
      rw [List.foldl_cons]
      rw [ih]
      rw [List.flatMap_cons]
      simp [BodyContent.append, select]
  rw [hblocks]
  rfl

theorem attributes_selected
    : (m.selected schema).attributes
        =
      .ofList (m.files.flatMap fun file => selectedAttributes file.index schema file.body) := by
  unfold selected
  have hattributes (done : BodyContent) (files : List SourceFile)
      : (files.foldl (fun done file => done.append (select file.index schema file.body)) done).attributes
          =
        done.attributes.insertMany
          (files.flatMap fun file => selectedAttributes file.index schema file.body) := by
    induction files generalizing done with
    | nil => rfl
    | cons file files ih =>
      rw [List.foldl_cons]
      rw [ih]
      rw [List.flatMap_cons]
      rw [Dict.insertMany_append]
      unfold BodyContent.append select
      dsimp only
      rw [Dict.override_ofList]
  rw [hattributes]
  rfl

theorem contentFaults_of_forall_not_required (h : ∀ a ∈ schema.attributes, a.required = false)
    : m.contentFaults schema = m.fileFaults schema := by
  unfold contentFaults
  rw [missingFaults_eq_nil_of_not_required h]
  rw [List.append_nil]

theorem fileFaults_eq_nil_iff
    : m.fileFaults schema = []
        ↔
      ∀ file ∈ m.files, ∀ s ∈ file.body, structureFaults file.index schema s = [] := by
  unfold fileFaults
  simp only [List.flatMap_eq_nil_iff, faults_eq_flatMap]

theorem blockConforms_of_fileFaults_eq_nil (h : m.fileFaults schema = [])
    : ∀ block ∈ (m.selected schema).blocks, BlockConforms schema block := by
  intro block hblock
  rw [blocks_selected] at hblock
  obtain ⟨file, hfile, hmem⟩ := List.mem_flatMap.1 hblock
  have hfaults := List.flatMap_eq_nil_iff.1 h file hfile
  exact blockConforms_of_faults_eq_nil schema file.body hfaults block hmem

end BackendPolicy.Module
