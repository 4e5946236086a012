import BackendPolicy.Proofs.Module.Backends
import BackendPolicy.Proofs.Module.Sources
import BackendPolicy.Proofs.Source.LineIndex

/-!
This module contains the shape of the content of modules: it conforms to the schema at every depth. So what a
check takes for granted is there, which is the first label of a variable and of a backend, and the line of an
offset.
-/

namespace BackendPolicy

namespace Module

open BackendType

variable {m : Module} {schema : BodySchema} {content : BodyContent}

theorem content_eq_ok_iff
    : m.content schema = .ok content ↔ m.contentFaults schema = [] ∧ m.selected schema = content := by
  rw [content_eq_orFirst]
  rw [orFirst_eq_ok_iff]

theorem namesAttribute_of_contains_selected {name : String}
    (h : (m.selected schema).attributes.contains name)
    : schema.NamesAttribute name := by
  rw [attributes_selected] at h
  obtain ⟨found, hfound⟩ := Dict.contains_ofList_iff.1 h
  obtain ⟨file, _, hmem⟩ := List.mem_flatMap.1 hfound
  have hfile : (select file.index schema file.body).attributes.contains name :=
    Dict.contains_ofList_iff.2 ⟨found, hmem⟩
  exact namesAttribute_of_contains hfile

theorem conforms_of_content (h : m.content schema = .ok content) : Conforms schema content := by
  obtain ⟨hfaults, rfl⟩ := content_eq_ok_iff.1 h
  obtain ⟨hfiles, hmissing⟩ := List.append_eq_nil_iff.1 hfaults
  refine .intro ?_ ?_ ?_
  . intro name
    exact namesAttribute_of_contains_selected
  . exact missingFaults_eq_nil_iff.1 hmissing
  . exact m.blockConforms_of_fileFaults_eq_nil schema hfiles

theorem length_labels_of_content_ofBlock (entry : BlockSchema) {inner : BodySchema}
    (hbody : entry.body = some inner) (h : m.content (.ofBlock entry) = .ok content)
    : ∀ block ∈ content.blocks, block.labels.length = entry.labelNames.length := by
  intro block hblock
  exact (((conforms_of_content h).blockConforms hblock).of_ofBlock hbody).1

/--
Whether what a check takes for granted is there: whenever the content is extracted that declares the
variables, its blocks have a first label, and so have the backends that the rule gets of its host. Every
offset into a file has a line.
-/
structure Grants (m : Module) : Prop where
  names : ∀ content, m.content variableSchema = .ok content → ∀ block ∈ content.blocks, 0 < block.labels.length
  types : ∀ vars content, (Session.start m vars).host.content BackendType.schema = .ok content
    → ∀ backend ∈ BackendType.backends content, 0 < backend.labels.length
  lines : ∀ file ∈ m.files, ∀ offset, file.index.Locates offset

theorem grants_of_ofSources {sources : List (String × String)} (h : ofSources sources = .ok m) : m.Grants := by
  refine ⟨?_, ?_, ?_⟩
  . intro content hcontent block hblock
    have : block.labels.length = 1 :=
      length_labels_of_content_ofBlock variableEntry rfl hcontent block hblock
    omega
  . intro vars content hcontent backend hbackend
    have hconforms : Conforms BackendType.schema content := conforms_of_content (m := m) hcontent
    have : backend.labels.length = 1 :=
      labels_of_blockConforms (fun _ => hconforms.blockConforms) backend hbackend
    omega
  . intro file hfile offset
    obtain ⟨source, _, hsource⟩ := exists_isOf_of_mem_files h file hfile
    rw [hsource.1]
    apply LineIndex.ofSource_locates

/--
All content of modules conforms to its schema, and in a module that is parsed from texts a check finds
everything that it takes for granted.
-/
theorem content_conforms
    : (∀ (m : Module) (schema : BodySchema) (content : BodyContent),
          m.content schema = .ok content → Conforms schema content)
        ∧ ∀ (sources : List (String × String)) (m : Module), ofSources sources = .ok m → m.Grants :=
  ⟨fun _ _ _ => conforms_of_content, fun _ _ => grants_of_ofSources⟩

/--
A schema whose block kind has a second entry, which does not count.
-/
def siteSchema : BodySchema where
  attributes := [{ name := "region", required := true }]
  blocks := [
    { kind := "site"
      labelNames := ["name"]
      body := some { attributes := [{ name := "url", required := true }], blocks := [{ kind := "peer" }] } },
    { kind := "site" }]

def scatteredSite : Module where
  files := [
    { index := .ofSource "a.tf" "site \"x\" \x7b\n  url = \"u\"\n  peer \x7b\n    url = 1\n  \x7d\n\x7d\n"
      body := [
        .block "site" ⟨0, 4⟩ [⟨"x", ⟨5, 8⟩⟩] [
          .attribute "url" (.string "u") ⟨13, 22⟩ ⟨19, 22⟩,
          .block "peer" ⟨25, 29⟩ [] [.attribute "url" (.string "v") ⟨36, 43⟩ ⟨42, 43⟩]]] },
    { index := .ofSource "b.tf" "region = \"r\"\n"
      body := [.attribute "region" (.string "r") ⟨0, 12⟩ ⟨9, 12⟩] }]

def labelledSource : String :=
  "variable lock \x7b\n\x7d\nterraform \x7b\n  backend \"http\" \x7b\n  \x7d\n\x7d\n"

theorem content_conforms_scattered
    : scatteredSite.content siteSchema = .ok (scatteredSite.selected siteSchema)
        ∧ Conforms siteSchema (scatteredSite.selected siteSchema)
        ∧ ∃ m, ofSources [("main.tf", labelledSource)] = .ok m ∧ m.Grants := by
  have hcontent : scatteredSite.content siteSchema = .ok (scatteredSite.selected siteSchema) :=
    content_eq_ok_iff.2 ⟨by rfl, rfl⟩
  refine ⟨hcontent, content_conforms.1 _ _ _ hcontent, ?_⟩
  have hsources : (ofSources [("main.tf", labelledSource)]).isOk := by
    unfold ofSources
    rw [List.mergeSort_singleton]
    decide +kernel
  cases hm : ofSources _ with
  | error e => simp [hm, Except.isOk, Except.toBool] at hsources
  | ok m => exact ⟨m, rfl, content_conforms.2 _ _ hm⟩

end Module

end BackendPolicy
