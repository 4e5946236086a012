import BackendPolicy.Proofs.Body.Erasure
import BackendPolicy.Proofs.Module.Backends
import BackendPolicy.Proofs.Module.Sources

/-!
This module contains the law that the division of a module into files does not matter. Up to ranges, modules
with the same structures have the same content, the same variables and the same verdicts. The main statement
is `outcomes_of_division`.
-/

namespace BackendPolicy

def Issue.erase (issue : Issue) : Issue :=
  { issue with range := .nowhere }

namespace BackendType

def Shortfall.erase : Shortfall → Shortfall
  | failure e => failure e.erase
  | violation message _ => violation message .nowhere

theorem withoutRanges_reported (shortfall : Option Shortfall)
    : withoutRanges (List.map Issue.erase) (reported shortfall)
        =
      reported (shortfall.map Shortfall.erase) := by
  rcases shortfall with _ | _ | _ <;> rfl

theorem erase_shortfall? (scope : Scope) (backend : Block) (requirement : Requirement)
    : (requirement.shortfall? (·.evalString scope) backend).map Shortfall.erase
        =
      (requirement.shortfall? (·.evalString scope) backend.erase).map Shortfall.erase := by
  obtain ⟨kind, labels, body, headRange, kindRange, labelRanges⟩ := backend
  cases requirement with
  | type =>
    dsimp only [Requirement.shortfall?, Block.erase]
    split <;> rfl
  | presence policy =>
    dsimp only [Requirement.shortfall?, Block.erase]
    rw [BodyContent.attributes_erase]
    rw [Dict.get?_map]
    cases body.attributes.get? policy.key <;> rfl
  | verb policy =>
    dsimp only [Requirement.shortfall?, Block.erase]
    rw [BodyContent.attributes_erase]
    rw [Dict.get?_map]
    cases body.attributes.get? policy.key with
    | none => rfl
    | some found =>
      dsimp only [Option.map_some, Attribute.evalString, Attribute.eval, Attribute.erase]
      cases found.value.eval scope with
      | error => rfl
      | ok v =>
        dsimp only [bind, Except.bind]
        cases v.asString with
        | error => rfl
        | ok text =>
          dsimp only [pure, Except.pure]
          split <;> rfl

theorem erase_firstShortfall? (scope : Scope) (backend : Block) (requirements : List Requirement)
    : (firstShortfall? (·.evalString scope) backend requirements).map Shortfall.erase
        =
      (firstShortfall? (·.evalString scope) backend.erase requirements).map Shortfall.erase := by
  unfold firstShortfall?
  rw [List.map_findSome?]
  rw [List.map_findSome?]
  congr 1
  funext requirement
  apply erase_shortfall?

theorem erase_findSome?_firstShortfall? (scope : Scope) {backends others : List Block}
    (h : backends.map Block.erase = others.map Block.erase)
    : (backends.findSome? (firstShortfall? (·.evalString scope) · requirements)).map Shortfall.erase
        =
      (others.findSome? (firstShortfall? (·.evalString scope) · requirements)).map Shortfall.erase := by
  have hfind (backends : List Block)
      : (backends.findSome? (firstShortfall? (·.evalString scope) · requirements)).map Shortfall.erase
          =
        (backends.map Block.erase).findSome? fun backend =>
          (firstShortfall? (·.evalString scope) backend requirements).map Shortfall.erase := by
    rw [List.map_findSome?]
    rw [List.findSome?_map]
    congr 1
    funext backend
    apply erase_firstShortfall?
  rw [hfind]
  rw [hfind]
  rw [h]

end BackendType

namespace Module

open BackendType

variable {m n : Module}

/--
What is collected from the structures of all files does not depend on their division into files, if it does
not depend on the file that a structure is in and on where in the file it is.
-/
theorem map_flatMap_files_congr {α β : Type} {f : LineIndex → Structure → List α} {erase : α → β}
    (hf : ∀ index other s, (f index s).map erase = (f other s.erase).map erase)
    (h : eraseBody m.structures = eraseBody n.structures)
    : (m.files.flatMap fun file => file.body.flatMap (f file.index)).map erase
        =
      (n.files.flatMap fun file => file.body.flatMap (f file.index)).map erase := by
  have hjoin (index : LineIndex) (m : Module)
      : (m.files.flatMap fun file => file.body.flatMap (f file.index)).map erase
          =
        ((eraseBody m.structures).flatMap (f index)).map erase := by
    rw [eraseBody_eq_map]
    unfold structures
    rw [List.flatMap_map]
    rw [List.flatMap_assoc]
    apply map_flatMap_congr
    intro file _
    apply map_flatMap_congr
    intro s _
    apply hf
  let index := LineIndex.ofSource "" ""
  rw [hjoin index]
  rw [hjoin index]
  rw [h]

theorem erase_selected (h : eraseBody m.structures = eraseBody n.structures) (schema : BodySchema)
    : (m.selected schema).erase = (n.selected schema).erase := by
  apply BodyContent.erase_eq_of
  . rw [attributes_selected]
    rw [attributes_selected]
    rw [Dict.map_ofList]
    rw [Dict.map_ofList]
    congr 1
    unfold selectedAttributes
    simp only [List.filterMap_eq_flatMap_toList]
    exact map_flatMap_files_congr (fun index other => erase_selectedAttribute? index other schema) h
  . rw [blocks_selected]
    rw [blocks_selected]
    simp only [selectedBlocks_eq_filterMap, List.filterMap_eq_flatMap_toList]
    exact map_flatMap_files_congr (fun index other => erase_selectedBlock? index other schema) h

theorem erase_fileFaults (h : eraseBody m.structures = eraseBody n.structures) (schema : BodySchema)
    : (m.fileFaults schema).map RunError.erase = (n.fileFaults schema).map RunError.erase := by
  unfold fileFaults
  simp only [faults_eq_flatMap]
  exact map_flatMap_files_congr (fun index other => erase_structureFaults index other schema) h

theorem erase_contentFaults (h : eraseBody m.structures = eraseBody n.structures) (schema : BodySchema)
    : (m.contentFaults schema).map RunError.erase = (n.contentFaults schema).map RunError.erase := by
  unfold contentFaults
  rw [List.map_append]
  rw [List.map_append]
  rw [erase_fileFaults h]
  rw [erase_missingFaults]
  rw [erase_missingFaults]
  rw [erase_selected h]

theorem erase_content (h : eraseBody m.structures = eraseBody n.structures) (schema : BodySchema)
    : withoutRanges BodyContent.erase (m.content schema)
        =
      withoutRanges BodyContent.erase (n.content schema) := by
  rw [content_eq_orFirst]
  rw [content_eq_orFirst]
  rw [withoutRanges_orFirst]
  rw [withoutRanges_orFirst]
  rw [erase_contentFaults h]
  rw [erase_selected h]

def eraseDeclaration (declaration : String × Except RunError Value) : String × Except RunError Value :=
  (declaration.1, withoutRanges id declaration.2)

theorem erase_declaration? (index other : LineIndex) (s : Structure)
    : (declaration? index s).toList.map eraseDeclaration
        =
      (declaration? other s.erase).toList.map eraseDeclaration := by
  rcases s with _ | ⟨kind, kindSpan, labels, body⟩
  . rfl
  . unfold Structure.erase declaration?
    dsimp only
    split
    . have hname : (labels.map fun label => (⟨label.text, ⟨0, 0⟩⟩ : Label)).map Label.text
          = labels.map Label.text := by
        simp
      have hdefault := erase_attributeOf? index other "default" body
      have heval (a : Attribute) : withoutRanges id (a.eval []) = withoutRanges id (a.erase.eval []) := by
        unfold Attribute.eval Attribute.erase
        dsimp only
        cases a.value.eval [] <;> rfl
      have hmap (found : Option Attribute)
          : (found.map fun a => ((labels.map Label.text).headD "", a.eval [])).toList.map eraseDeclaration
              =
            ((found.map Attribute.erase).map fun a =>
              ((labels.map Label.text).headD "", withoutRanges id (a.eval []))).toList := by
        cases found with
        | none => rfl
        | some a =>
          simp only [Option.map_some, Option.toList_some, List.map_cons, List.map_nil, eraseDeclaration,
            heval a]
      rw [hname]
      rw [hmap]
      rw [hmap]
      rw [hdefault]
    . rfl

theorem erase_declarations (h : eraseBody m.structures = eraseBody n.structures)
    : m.declarations.map eraseDeclaration = n.declarations.map eraseDeclaration := by
  unfold declarations
  simp only [List.filterMap_eq_flatMap_toList]
  exact map_flatMap_files_congr erase_declaration? h

theorem valuesOf_map_eraseDeclaration (declarations : List (String × Except RunError Value))
    : valuesOf (declarations.map eraseDeclaration) = valuesOf declarations := by
  unfold valuesOf
  rw [List.filterMap_map]
  congr 1
  funext ⟨name, outcome⟩
  cases outcome <;> rfl

theorem failuresOf_map_eraseDeclaration (declarations : List (String × Except RunError Value))
    : failuresOf (declarations.map eraseDeclaration) = (failuresOf declarations).map RunError.erase := by
  unfold failuresOf
  rw [List.filterMap_map]
  rw [List.map_filterMap]
  congr 1
  funext ⟨name, outcome⟩
  cases outcome <;> rfl

theorem declared_eq_of_structures (h : eraseBody m.structures = eraseBody n.structures) : m.declared = n.declared := by
  unfold declared
  rw [← valuesOf_map_eraseDeclaration]
  rw [erase_declarations h]
  rw [valuesOf_map_eraseDeclaration]

theorem erase_declarationFaults (h : eraseBody m.structures = eraseBody n.structures)
    : m.declarationFaults.map RunError.erase = n.declarationFaults.map RunError.erase := by
  unfold declarationFaults
  rw [List.map_append]
  rw [List.map_append]
  rw [erase_fileFaults h]
  rw [← failuresOf_map_eraseDeclaration]
  rw [erase_declarations h]
  rw [failuresOf_map_eraseDeclaration]

theorem erase_defaults (h : eraseBody m.structures = eraseBody n.structures)
    : withoutRanges id m.defaults = withoutRanges id n.defaults := by
  rw [defaults_eq_orFirst]
  rw [defaults_eq_orFirst]
  rw [withoutRanges_orFirst]
  rw [withoutRanges_orFirst]
  rw [erase_declarationFaults h]
  rw [declared_eq_of_structures h]

theorem erase_backends (h : eraseBody m.structures = eraseBody n.structures)
    : m.backends.map Block.erase = n.backends.map Block.erase := by
  have herase (m : Module) : m.backends.map Block.erase = BackendType.backends (m.selected schema).erase := by
    rw [← backends_selected]
    unfold BackendType.backends
    rw [BodyContent.blocks_erase]
    rw [List.flatMap_map]
    rw [List.map_flatMap]
    congr 1
    funext terraform
    cases terraform
    simp [Block.erase]
  rw [herase]
  rw [herase]
  rw [erase_selected h]

theorem withoutRanges_orFirst_bind {α β γ : Type} (erase : β → γ) (faults : List RunError) (value : α)
    (next : α → Except RunError β)
    : withoutRanges erase (orFirst faults value >>= next)
        =
      orFirst (faults.map RunError.erase) () >>= fun _ => withoutRanges erase (next value) := by
  cases faults with
  | nil => rfl
  | cons => rfl

theorem erase_policyCheck (h : eraseBody m.structures = eraseBody n.structures) (vars : Variables)
    : withoutRanges (List.map Issue.erase) (m.policyCheck vars)
        =
      withoutRanges (List.map Issue.erase) (n.policyCheck vars) := by
  unfold policyCheck
  dsimp only
  rw [withoutRanges_orFirst_bind]
  rw [withoutRanges_orFirst_bind]
  rw [← fileFaults_schema]
  rw [← fileFaults_schema]
  rw [erase_fileFaults h]
  rw [withoutRanges_reported]
  rw [withoutRanges_reported]
  rw [erase_findSome?_firstShortfall? _ (erase_backends h)]

theorem erase_check (h : eraseBody m.structures = eraseBody n.structures) {rules : Ruleset} {config : Config}
    (hrules : Ruleset.builtin.applyConfig config = .ok rules) (given : List (String × Value))
    : withoutRanges (List.map Issue.erase) (m.check rules config given)
        =
      withoutRanges (List.map Issue.erase) (n.check rules config given) := by
  have henabled := Ruleset.enabled_of_applyConfig hrules
  have hvars : m.finalVariables config given = n.finalVariables config given := by
    unfold finalVariables
    rw [declared_eq_of_structures h]
  split at henabled
  . rw [check_eq_policyCheck _ _ _ henabled]
    rw [check_eq_policyCheck _ _ _ henabled]
    rw [withoutRanges_orFirst_bind]
    rw [withoutRanges_orFirst_bind]
    rw [erase_declarationFaults h]
    rw [hvars]
    rw [erase_policyCheck h]
  . rw [check_eq_of_disabled _ _ _ henabled]
    rw [check_eq_of_disabled _ _ _ henabled]
    rw [withoutRanges_orFirst_bind]
    rw [withoutRanges_orFirst_bind]
    rw [erase_declarationFaults h]

theorem get?_selected (m : Module) (schema : BodySchema) (name : String)
    : (m.selected schema).attributes.get? name
        =
      m.files.reverse.findSome? fun file => (select file.index schema file.body).attributes.get? name := by
  unfold selected
  have hfold (done : BodyContent) (files : List SourceFile)
      : (files.foldl (fun done file => done.append (select file.index schema file.body)) done).attributes.get?
            name
          =
        (files.reverse.findSome? fun file => (select file.index schema file.body).attributes.get? name).or
          (done.attributes.get? name) := by
    induction files generalizing done with
    | nil => rfl
    | cons file files ih =>
      rw [List.foldl_cons]
      rw [ih]
      rw [List.reverse_cons]
      rw [List.findSome?_append]
      rw [Option.or_assoc]
      congr 1
      unfold BodyContent.append
      rw [Dict.get?_override]
      simp
  rw [hfold]
  exact Option.or_none

/--
The content of a module is put together from those of its files: the blocks are those of all files in order,
and an attribute is that of the last file that has it.
-/
theorem exists_parts_of_content {schema : BodySchema} {content : BodyContent}
    (h : m.content schema = .ok content)
    : ∃ parts,
        m.files.mapM (fun file => extract file.index schema file.body) = .ok parts
          ∧ content.blocks = parts.flatMap BodyContent.blocks
          ∧ ∀ name,
              content.attributes.get? name
                =
              parts.reverse.findSome? fun part => part.attributes.get? name := by
  rw [content_eq_orFirst] at h
  obtain ⟨hfaults, rfl⟩ := orFirst_eq_ok_iff.1 h
  obtain ⟨hfiles, _⟩ := List.append_eq_nil_iff.1 hfaults
  refine ⟨m.files.map fun file => select file.index schema file.body, ?_, ?_, ?_⟩
  . simp only [extract_eq_orFirst]
    rw [mapM_orFirst]
    rw [orFirst_eq_ok_iff]
    exact ⟨hfiles, rfl⟩
  . rw [blocks_selected]
    rw [List.flatMap_map]
    rfl
  . intro name
    rw [get?_selected]
    rw [← List.map_reverse]
    rw [List.findSome?_map]
    rfl

def joined (m : Module) (index : LineIndex) : Module :=
  ⟨[⟨index, m.structures⟩]⟩

theorem structures_joined (m : Module) (index : LineIndex) : (m.joined index).structures = m.structures := by
  simp [structures, joined]

/--
Up to ranges a module has the content of one file with all its structures, also where extraction fails. The
division of the same structures into files changes neither the variables nor the outcome of a check, and neither do
the places of the structures in their files.
-/
theorem outcomes_of_division (m : Module)
    : (∀ schema index,
          withoutRanges BodyContent.erase (m.content schema)
            =
          withoutRanges BodyContent.erase ((m.joined index).content schema))
        ∧ (∀ schema content, m.content schema = .ok content
            → ∃ parts,
                m.files.mapM (fun file => extract file.index schema file.body) = .ok parts
                  ∧ content.blocks = parts.flatMap BodyContent.blocks
                  ∧ ∀ name,
                      content.attributes.get? name
                        =
                      parts.reverse.findSome? fun part => part.attributes.get? name)
        ∧ ∀ n : Module, eraseBody m.structures = eraseBody n.structures
            → withoutRanges id m.defaults = withoutRanges id n.defaults
                ∧ ∀ config given rules, Ruleset.builtin.applyConfig config = .ok rules
                    → withoutRanges (List.map Issue.erase) (m.check rules config given)
                        =
                      withoutRanges (List.map Issue.erase) (n.check rules config given) := by
  refine ⟨?_, ?_, ?_⟩
  . intro schema index
    apply erase_content
    rw [structures_joined]
  . intro schema content h
    exact exists_parts_of_content h
  . intro n h
    refine ⟨erase_defaults h, ?_⟩
    intro config given rules hrules
    exact erase_check h hrules given

-- Both files have the attribute, and the one of the second file counts.
example
    : let file (name text : String) : SourceFile := {
        index := .ofSource name ""
        body := [.attribute "a" (.string text) ⟨0, 0⟩ ⟨0, 0⟩] }
      let m : Module := ⟨[file "a.tf" "first", file "b.tf" "second"]⟩
      (m.content (.ofAttribute "a")).map (fun content => content.attributes.entries.map Prod.snd)
        =
      .ok [⟨"a", .string "second", ⟨"b.tf", ⟨1, 1, 0⟩, ⟨1, 1, 0⟩⟩, ⟨"b.tf", ⟨1, 1, 0⟩, ⟨1, 1, 0⟩⟩⟩] := by
  with_unfolding_all rfl

def lockText : String := "variable \"lock\" \x7b\n  default = \"POST\"\n\x7d\n"

def s3Text : String := "terraform \x7b\n  backend \"s3\" \x7b\x7d\n\x7d\n"

def lockStructure : Structure :=
  .block "variable" ⟨0, 0⟩ [⟨"lock", ⟨0, 0⟩⟩] [.attribute "default" (.string "POST") ⟨0, 0⟩ ⟨0, 0⟩]

def s3Structure : Structure :=
  .block "terraform" ⟨0, 0⟩ [] [.block "backend" ⟨0, 0⟩ [⟨"s3", ⟨0, 0⟩⟩] []]

def isLock : Structure → Bool
  | .block "variable" _ [label] [.attribute "default" (.string "POST") _ _] => label.text = "lock"
  | _ => false

def isS3 : Structure → Bool
  | .block "terraform" _ [] [.block "backend" _ [label] []] => label.text = "s3"
  | _ => false

theorem erase_eq_lockStructure {s : Structure} (h : isLock s = true) : s.erase = lockStructure := by
  unfold isLock at h
  split at h
  . next label _ _ =>
    have hlabel : label.text = "lock" := of_decide_eq_true h
    simp [Structure.erase, eraseBody, lockStructure, hlabel]
  . contradiction

theorem erase_eq_s3Structure {s : Structure} (h : isS3 s = true) : s.erase = s3Structure := by
  unfold isS3 at h
  split at h
  . next label =>
    have hlabel : label.text = "s3" := of_decide_eq_true h
    simp [Structure.erase, eraseBody, s3Structure, hlabel]
  . contradiction

/--
One file with two structures and two files with one of them each. No structure of the second file is where it is in
the one file.
-/
theorem outcomes_of_division_two_files
    : ∃ whole first second : SourceFile,
        SourceFile.ofSource "main.tf" (lockText ++ s3Text) = .ok whole
          ∧ SourceFile.ofSource "a.tf" lockText = .ok first
          ∧ SourceFile.ofSource "b.tf" s3Text = .ok second
          ∧ withoutRanges id (defaults ⟨[whole]⟩) = withoutRanges id (defaults ⟨[first, second]⟩)
          ∧ withoutRanges (List.map Issue.erase) (check ⟨[whole]⟩ .builtin .default [])
              = withoutRanges (List.map Issue.erase) (check ⟨[first, second]⟩ .builtin .default []) := by
  have hparse : ((Hcl.parseFile (lockText ++ s3Text).toList).toOption.any fun body =>
      body.length = 2 && body[0]?.any isLock && body[1]?.any isS3) = true := by
    decide +kernel
  have hparse' : ((Hcl.parseFile lockText.toList).toOption.any fun body =>
      body.length = 1 && body[0]?.any isLock) = true := by
    decide +kernel
  have hparse'' : ((Hcl.parseFile s3Text.toList).toOption.any fun body =>
      body.length = 1 && body[0]?.any isS3) = true := by
    decide +kernel
  obtain ⟨whole, hwhole, _, htest⟩ := SourceFile.exists_ofSource_of_any "main.tf" hparse
  obtain ⟨first, hfirst, _, htest'⟩ := SourceFile.exists_ofSource_of_any "a.tf" hparse'
  obtain ⟨second, hsecond, _, htest''⟩ := SourceFile.exists_ofSource_of_any "b.tf" hparse''
  simp only [Bool.and_eq_true, decide_eq_true_eq, List.length_eq_one_iff, List.length_eq_two]
    at htest htest' htest''
  obtain ⟨⟨⟨s, t, hbody⟩, hlock⟩, hs3⟩ := htest
  obtain ⟨⟨s', hbody'⟩, hlock'⟩ := htest'
  obtain ⟨⟨t', hbody''⟩, hs3'⟩ := htest''
  rw [hbody] at hlock hs3
  rw [hbody'] at hlock'
  rw [hbody''] at hs3'
  have hcut : eraseBody (structures ⟨[whole]⟩) = eraseBody (structures ⟨[first, second]⟩) := by
    simp [structures, hbody, hbody', hbody'', eraseBody, erase_eq_lockStructure hlock, erase_eq_s3Structure hs3,
      erase_eq_lockStructure hlock', erase_eq_s3Structure hs3']
  obtain ⟨hdefaults, hchecks⟩ := (outcomes_of_division ⟨[whole]⟩).2.2 ⟨[first, second]⟩ hcut
  exact ⟨whole, first, second, hwhole, hfirst, hsecond, hdefaults, hchecks .default [] .builtin rfl⟩

end Module

end BackendPolicy
