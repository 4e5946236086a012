import Mathlib.Data.List.Sort
import BackendPolicy.Module.Load
import BackendPolicy.Proofs.Files.Tree
import BackendPolicy.Proofs.Module.Sources

/-!
This module contains the loading of modules from directories. The main statement is `load_selected`: a
directory is read as if the texts of its plain files with the extension `tf` had been given by their names,
and of the files that fail the first one by name is reported.
-/

namespace BackendPolicy

namespace FileTree

structure AreEntries (entries : List (String × FileTree)) : Prop where
  filenames : ∀ entry ∈ entries, Path.IsFilename entry.1
  distinct : (entries.map Prod.fst).Nodup

def Selects (entries : List (String × FileTree)) (name : String) (bytes : ByteArray) : Prop :=
  (name, .file bytes) ∈ entries ∧ Path.HasExtension name "tf"

structure AreTexts (entries : List (String × FileTree)) (sources : List (String × String)) : Prop where
  distinct : (sources.map Prod.fst).Nodup
  mem_iff : ∀ name bytes, Selects entries name bytes ↔ ∃ text, (name, text) ∈ sources ∧ text.toUTF8 = bytes

def textOf? : String × FileTree → Option (String × String)
  | (name, .file bytes) =>
    if Path.hasExtension name "tf" then (String.fromUTF8? bytes).map fun text => (name, text) else none
  | _ => none

theorem textOf?_eq_some_iff {key name text : String} {inner : FileTree}
    : textOf? (key, inner) = some (name, text)
        ↔
      key = name ∧ inner = .file text.toUTF8 ∧ Path.HasExtension name "tf" := by
  cases inner with
  | file bytes =>
    simp only [textOf?, Path.hasExtension_iff (by decide : '.' ∉ "tf".toList), Option.ite_none_right_eq_some,
      Option.map_eq_some_iff, Prod.mk.injEq, fromUTF8?_eq_some_iff, file.injEq]
    grind
  | link => simp [textOf?]
  | directory => simp [textOf?]

theorem AreEntries.lookup {entries : List (String × FileTree)} (h : AreEntries entries) {name : String}
    {inner : FileTree} (hmem : (name, inner) ∈ entries) : entries.lookup name = some inner := by
  obtain ⟨before, after, rfl⟩ := List.append_of_mem hmem
  have hdistinct := h.distinct
  rw [List.map_append] at hdistinct
  rw [List.lookup_eq_some_iff]
  refine ⟨before, after, rfl, ?_⟩
  intro entry hentry
  rw [bne_iff_ne]
  exact ((List.nodup_append.1 hdistinct).2.2 entry.1 (List.mem_map_of_mem hentry) name (by simp)).symm

end FileTree

namespace SourceFile

def ofRead (root name : String) : Except FileFault String → Except RunError SourceFile
  | .ok source => ofSource name source
  | .error fault => .error (.unreadable (Path.join root name) fault)

theorem run_load (files : FileAccess Id) (root name : String)
    : (load files root name).run.run = ofRead root name (files.readText (Path.join root name)) := by
  unfold load
  dsimp only
  rw [exceptT_run_bind]
  cases files.readText (Path.join root name) with
  | error => rfl
  | ok source =>
    change (MonadExcept.ofExcept (ofSource name source) : ExceptT RunError Id _).run.run = ofSource name source
    cases ofSource name source <;> rfl

inductive ReadFails (root name : String) : Except FileFault String → RunError → Prop where
  | unreadable {fault : FileFault}
      : ReadFails root name (.error fault) (.unreadable (Path.join root name) fault)
  | unparsable {text : String} {fault : Hcl.ParseError} (h : Hcl.parseFile text.toList = .error fault)
      : ReadFails root name (.ok text) (.unparsable name fault)

theorem ofRead_eq_error_iff {root name : String} {found : Except FileFault String} {e : RunError}
    : ofRead root name found = .error e ↔ ReadFails root name found e := by
  cases found with
  | error fault =>
    unfold ofRead
    constructor
    . rintro ⟨⟩
      exact .unreadable
    . rintro ⟨⟩
      rfl
  | ok text =>
    unfold ofRead
    dsimp only
    rw [ofSource_eq_error_iff]
    constructor
    . rintro ⟨fault, hfault, rfl⟩
      exact .unparsable hfault
    . rintro ⟨⟩
      exact ⟨_, ‹_›, rfl⟩

inductive Fails (root name : String) : ByteArray → RunError → Prop where
  | notText {bytes : ByteArray} (h : ∀ text : String, text.toUTF8 ≠ bytes)
      : Fails root name bytes (.unreadable (Path.join root name) .notText)
  | unparsable {text : String} {fault : Hcl.ParseError} (h : Hcl.parseFile text.toList = .error fault)
      : Fails root name text.toUTF8 (.unparsable name fault)

theorem ofRead_textOfBytes_eq_error_iff {root name : String} {bytes : ByteArray} {e : RunError}
    : ofRead root name (textOfBytes bytes) = .error e ↔ Fails root name bytes e := by
  rw [ofRead_eq_error_iff]
  constructor
  . intro h
    by_cases htext : ∃ text : String, text.toUTF8 = bytes
    . obtain ⟨text, rfl⟩ := htext
      rw [textOfBytes_toUTF8] at h
      cases h with
      | unparsable h => exact .unparsable h
    . rw [not_exists] at htext
      rw [textOfBytes_of_notText htext] at h
      cases h with
      | unreadable => exact .notText htext
  . intro h
    cases h with
    | notText htext =>
      rw [textOfBytes_of_notText htext]
      exact .unreadable
    | unparsable h =>
      rw [textOfBytes_toUTF8]
      exact .unparsable h

end SourceFile

namespace Module

theorem run_load (files : FileAccess Id) (root : String)
    : (load files root).run.run
        =
      match files.listFiles root with
      | .ok names =>
        ((sourceNames names).mapM fun name =>
          SourceFile.ofRead root name (files.readText (Path.join root name))).map .mk
      | .error fault => .error (.unlistable root fault) := by
  unfold load
  rw [exceptT_run_bind]
  cases files.listFiles root with
  | error => rfl
  | ok names =>
    simp only [← SourceFile.run_load]
    rw [← exceptT_run_mapM]
    change ((sourceNames names).mapM (SourceFile.load files root) >>= fun found => pure (mk found)).run.run = _
    rw [exceptT_run_bind]
    cases ((sourceNames names).mapM (SourceFile.load files root)).run.run <;> rfl

def selectedNames (entries : List (String × FileTree)) : List String :=
  sourceNames ((entries.filter fun entry => entry.2.isFile).map Prod.fst)

theorem mem_sourceNames_iff {names : List String} {name : String}
    : name ∈ sourceNames names ↔ name ∈ names ∧ Path.HasExtension name "tf" := by
  unfold sourceNames
  rw [List.mem_mergeSort]
  rw [List.mem_filter]
  rw [Path.hasExtension_iff (by decide)]

theorem pairwise_le_sourceNames (names : List String) : (sourceNames names).Pairwise (· ≤ ·) :=
  List.pairwise_mergeSort' _ _

theorem pairwise_sourceNames {names : List String} (h : names.Nodup)
    : (sourceNames names).Pairwise (· < ·) := by
  have hnodup : (sourceNames names).Nodup := List.nodup_mergeSort.2 (h.filter _)
  exact ((pairwise_le_sourceNames names).and hnodup).imp fun hab => lt_of_le_of_ne hab.1 hab.2

/--
Whether names are those of a directory's module: the names with the extension `tf`, in byte order.
-/
structure AreSourceNames (listed names : List String) : Prop where
  perm : names.Perm (listed.filter fun name => Path.HasExtension name "tf")
  ascending : names.Pairwise fun a b => utf8Bytes a ≤ utf8Bytes b

theorem areSourceNames_iff {listed names : List String}
    : AreSourceNames listed names ↔ names = sourceNames listed := by
  have hfilter : (listed.filter fun name => Path.hasExtension name "tf")
      = listed.filter fun name => Path.HasExtension name "tf" := by
    apply List.filter_congr
    intro name _
    rw [Bool.eq_iff_iff]
    rw [Path.hasExtension_iff (by decide)]
    rw [decide_eq_true_iff]
  have hperm : (sourceNames listed).Perm (listed.filter fun name => Path.HasExtension name "tf") := by
    rw [← hfilter]
    exact List.mergeSort_perm _ _
  have hsorted := pairwise_le_sourceNames listed
  constructor
  . intro h
    have hascending := h.ascending.imp utf8Bytes_le_iff.1
    exact (h.perm.trans hperm.symm).eq_of_pairwise (fun a b _ _ => le_antisymm) hascending hsorted
  . rintro rfl
    exact ⟨hperm, hsorted.imp utf8Bytes_le_iff.2⟩

def legible (files : FileAccess Id) (root : String) (names : List String) : Module :=
  ⟨names.filterMap fun name =>
    (SourceFile.ofRead root name (files.readText (Path.join root name))).toOption⟩

def readFaults (files : FileAccess Id) (root : String) (names : List String) : List RunError :=
  names.flatMap fun name => faultsOf (SourceFile.ofRead root name (files.readText (Path.join root name)))

theorem load_eq_orFirst {files : FileAccess Id} {root : String} {listed : List String}
    (h : files.listFiles root = .ok listed)
    : (load files root).run.run
        =
      orFirst (readFaults files root (sourceNames listed)) (legible files root (sourceNames listed)) := by
  rw [run_load]
  rw [h]
  dsimp only
  rw [mapM_eq_orFirst]
  unfold readFaults legible
  cases (sourceNames listed).flatMap _ <;> rfl

section

variable {tree : FileTree} {directory : List String} {root : String} {entries : List (String × FileTree)}

theorem mem_selectedNames_iff {name : String}
    : name ∈ selectedNames entries ↔ ∃ bytes, FileTree.Selects entries name bytes := by
  unfold selectedNames FileTree.Selects
  rw [mem_sourceNames_iff]
  rw [exists_and_right]
  apply and_congr_left'
  simp only [List.mem_map, List.mem_filter, Prod.exists, exists_and_right, exists_eq_right]
  constructor
  . rintro ⟨inner, hmem, hfile⟩
    cases inner with
    | file bytes => exact ⟨bytes, hmem⟩
    | link => contradiction
    | directory => contradiction
  . rintro ⟨bytes, hmem⟩
    exact ⟨.file bytes, hmem, rfl⟩

theorem pairwise_selectedNames (h : FileTree.AreEntries entries)
    : (selectedNames entries).Pairwise (· < ·) := by
  apply pairwise_sourceNames
  exact h.distinct.sublist (List.filter_sublist.map _)

theorem run_load_of_locate (h : tree.locate directory root = .ok (.directory entries))
    : (load (tree.access directory) root).run.run
        =
      ((selectedNames entries).mapM fun name =>
        SourceFile.ofRead root name (tree.readText directory (Path.join root name))).map .mk := by
  rw [run_load]
  unfold FileTree.access
  dsimp only
  rw [FileTree.listFiles_of_locate h]
  rfl

theorem readText_of_selects (h : tree.locate directory root = .ok (.directory entries))
    (hentries : FileTree.AreEntries entries) {name : String} {bytes : ByteArray}
    (hselects : FileTree.Selects entries name bytes)
    : tree.readText directory (Path.join root name) = textOfBytes bytes :=
  FileTree.readText_join h (hentries.filenames _ hselects.1) (hentries.lookup hselects.1)

theorem load_eq_error_iff (h : tree.locate directory root = .ok (.directory entries))
    (hentries : FileTree.AreEntries entries) {e : RunError}
    : (load (tree.access directory) root).run.run = .error e
        ↔
      ∃ name bytes,
        FileTree.Selects entries name bytes
          ∧ SourceFile.Fails root name bytes e
          ∧ ∀ other bytes' e', FileTree.Selects entries other bytes' → SourceFile.Fails root other bytes' e'
            → utf8Bytes name ≤ utf8Bytes other := by
  have hfails {name : String} {bytes : ByteArray} {e : RunError}
      (hselects : FileTree.Selects entries name bytes)
      : SourceFile.ofRead root name (tree.readText directory (Path.join root name)) = .error e
          ↔
        SourceFile.Fails root name bytes e := by
    rw [readText_of_selects h hentries hselects]
    rw [SourceFile.ofRead_textOfBytes_eq_error_iff]
  rw [run_load_of_locate h]
  rw [map_eq_error_iff]
  rw [mapM_eq_error_iff_least (fun a b => lt_asymm) (pairwise_selectedNames hentries)]
  simp only [mem_selectedNames_iff, utf8Bytes_le_iff, not_lt]
  constructor
  . rintro ⟨name, ⟨bytes, hselects⟩, he, hleast⟩
    refine ⟨name, bytes, hselects, (hfails hselects).1 he, ?_⟩
    intro other bytes' e' hselects' hfails'
    exact hleast other ⟨bytes', hselects'⟩ e' ((hfails hselects').2 hfails')
  . rintro ⟨name, bytes, hselects, he, hleast⟩
    refine ⟨name, ⟨bytes, hselects⟩, (hfails hselects).2 he, ?_⟩
    rintro other ⟨bytes', hselects'⟩ e' he'
    exact hleast other bytes' e' hselects' ((hfails hselects').1 he')

theorem exists_areTexts (hentries : FileTree.AreEntries entries)
    (htexts : ∀ name bytes, FileTree.Selects entries name bytes → ∃ text : String, text.toUTF8 = bytes)
    : ∃ sources, FileTree.AreTexts entries sources := by
  refine ⟨entries.filterMap FileTree.textOf?, ?_, ?_⟩
  . unfold List.Nodup
    rw [List.pairwise_map]
    rw [List.pairwise_filterMap]
    apply (List.pairwise_map.1 hentries.distinct).imp
    rintro ⟨a, inner⟩ ⟨b, inner'⟩ hne ⟨a', text⟩ ha ⟨b', text'⟩ hb
    obtain ⟨rfl, _⟩ := FileTree.textOf?_eq_some_iff.1 ha
    obtain ⟨rfl, _⟩ := FileTree.textOf?_eq_some_iff.1 hb
    exact hne
  . intro name bytes
    simp only [List.mem_filterMap, Prod.exists, FileTree.textOf?_eq_some_iff]
    constructor
    . intro hselects
      obtain ⟨text, rfl⟩ := htexts name bytes hselects
      exact ⟨text, ⟨name, _, hselects.1, rfl, rfl, hselects.2⟩, rfl⟩
    . rintro ⟨text, ⟨_, _, hmem, rfl, rfl, hextension⟩, rfl⟩
      exact ⟨hmem, hextension⟩

theorem load_eq_ofSources (h : tree.locate directory root = .ok (.directory entries))
    (hentries : FileTree.AreEntries entries) {sources : List (String × String)}
    (hsources : FileTree.AreTexts entries sources)
    : (load (tree.access directory) root).run.run = ofSources sources := by
  have hnames : ∀ name, name ∈ selectedNames entries ↔ name ∈ sources.map Prod.fst := by
    intro name
    rw [mem_selectedNames_iff]
    simp only [hsources.mem_iff, List.mem_map, Prod.exists, exists_and_right, exists_eq_right]
    simp
  -- Sorted by name in either way, the names are the same list.
  have hsorted : selectedNames entries = (sources.mergeSort fun a b => Path.le a.1 b.1).map Prod.fst := by
    have hperm := (sort_stablySorted sources).perm.map Prod.fst
    have hlt := pairwise_selectedNames hentries
    apply List.Perm.eq_of_pairwise (fun a b _ _ => le_antisymm) (hlt.imp le_of_lt)
    . rw [List.pairwise_map]
      apply (sort_stablySorted sources).ascending.imp_of_mem
      intro a b ha hb hab
      have hfilename {s : String × String} (hs : s ∈ sources.mergeSort fun a b => Path.le a.1 b.1)
          : Path.IsFilename s.1 := by
        have hname : s.1 ∈ sources.map Prod.fst := List.mem_map_of_mem (List.mem_mergeSort.1 hs)
        obtain ⟨bytes, hmem, _⟩ := mem_selectedNames_iff.1 ((hnames s.1).2 hname)
        exact hentries.filenames _ hmem
      exact (Path.le_of_isFilename (hfilename ha) (hfilename hb)).1 hab
    . rw [List.perm_ext_iff_of_nodup (hlt.imp ne_of_lt) (hperm.nodup_iff.2 hsources.distinct)]
      intro name
      rw [hnames]
      rw [hperm.mem_iff]
  rw [run_load_of_locate h]
  rw [ofSources_eq_map]
  rw [hsorted]
  rw [List.mapM_map]
  congr 1
  apply mapM_congr
  intro (name, text) hmem
  have hselects : FileTree.Selects entries name text.toUTF8 := by
    rw [hsources.mem_iff]
    exact ⟨text, List.mem_mergeSort.1 hmem, rfl⟩
  dsimp only [Function.comp]
  rw [readText_of_selects h hentries hselects]
  rw [textOfBytes_toUTF8]
  rfl

theorem exists_load_eq_error (h : tree.locate directory root = .ok (.directory entries))
    (hentries : FileTree.AreEntries entries) {name : String} {bytes : ByteArray} {e : RunError}
    (hselects : FileTree.Selects entries name bytes) (hfails : SourceFile.Fails root name bytes e)
    : ∃ e', (load (tree.access directory) root).run.run = .error e' := by
  rw [run_load_of_locate h]
  cases hfiles : (selectedNames entries).mapM fun name =>
      SourceFile.ofRead root name (tree.readText directory (Path.join root name)) with
  | error e' => exact ⟨e', rfl⟩
  | ok files =>
    obtain ⟨file, hfile⟩ := exists_of_mapM_of_mem hfiles name (mem_selectedNames_iff.2 ⟨bytes, hselects⟩)
    rw [readText_of_selects h hentries hselects] at hfile
    rw [SourceFile.ofRead_textOfBytes_eq_error_iff.2 hfails] at hfile
    contradiction

theorem load_congr (h : tree.locate directory root = .ok (.directory entries))
    (hentries : FileTree.AreEntries entries) {tree' : FileTree} {directory' : List String}
    {entries' : List (String × FileTree)} (h' : tree'.locate directory' root = .ok (.directory entries'))
    (hentries' : FileTree.AreEntries entries')
    (hselects : ∀ name bytes, FileTree.Selects entries' name bytes ↔ FileTree.Selects entries name bytes)
    : (load (tree'.access directory') root).run.run = (load (tree.access directory) root).run.run := by
  have hnames : selectedNames entries' = selectedNames entries := by
    apply (pairwise_selectedNames hentries').eq_of_mem_iff (pairwise_selectedNames hentries)
    intro name
    simp only [mem_selectedNames_iff, hselects]
  rw [run_load_of_locate h]
  rw [run_load_of_locate h']
  rw [hnames]
  congr 1
  apply mapM_congr
  intro name hname
  obtain ⟨bytes, hbytes⟩ := mem_selectedNames_iff.1 hname
  rw [readText_of_selects h hentries hbytes]
  rw [readText_of_selects h' hentries' ((hselects name bytes).2 hbytes)]

/--
Loading a directory is parsing the texts of its plain files with the extension `tf`, in whatever order they
are given. If one of these files is no text, the first one by name that is no text or cannot be parsed is
reported. Nothing else in the directory counts.
-/
theorem load_selected (h : tree.locate directory root = .ok (.directory entries))
    (hentries : FileTree.AreEntries entries)
    : ((∀ name bytes, FileTree.Selects entries name bytes → ∃ text : String, text.toUTF8 = bytes)
            → (∃ sources, FileTree.AreTexts entries sources)
              ∧ ∀ sources, FileTree.AreTexts entries sources
                → (load (tree.access directory) root).run.run = ofSources sources)
        ∧ ((∃ name bytes, FileTree.Selects entries name bytes ∧ ∀ text : String, text.toUTF8 ≠ bytes)
            → ∃ name bytes e,
                FileTree.Selects entries name bytes
                  ∧ SourceFile.Fails root name bytes e
                  ∧ (∀ other bytes' e', FileTree.Selects entries other bytes'
                      → SourceFile.Fails root other bytes' e' → utf8Bytes name ≤ utf8Bytes other)
                  ∧ (load (tree.access directory) root).run.run = .error e)
        ∧ ∀ (tree' : FileTree) directory' entries', tree'.locate directory' root = .ok (.directory entries')
            → FileTree.AreEntries entries'
            → (∀ name bytes, FileTree.Selects entries' name bytes ↔ FileTree.Selects entries name bytes)
            → (load (tree'.access directory') root).run.run = (load (tree.access directory) root).run.run := by
  refine ⟨?_, ?_, ?_⟩
  . intro htexts
    exact ⟨exists_areTexts hentries htexts, fun _ => load_eq_ofSources h hentries⟩
  . rintro ⟨name, bytes, hselects, htext⟩
    obtain ⟨e, he⟩ := exists_load_eq_error h hentries hselects (.notText htext)
    obtain ⟨name, bytes, hselects, hfails, hleast⟩ := (load_eq_error_iff h hentries).1 he
    exact ⟨name, bytes, e, hselects, hfails, hleast, he⟩
  . intro tree' directory' entries' h' hentries' hselects
    exact load_congr h hentries h' hentries' hselects

def siteEntries : List (String × FileTree) := [
  ("b.tf", .file "b = 1\n".toUTF8),
  (".tf", .file ⟨#[255]⟩),
  ("child", .directory [("c.tf", .file "".toUTF8)]),
  ("..tf", .file "c = 2\n".toUTF8),
  ("a.tf", .link "b.tf"),
  ("a.b.tf", .file "variable".toUTF8)]

def siteTree : FileTree :=
  .directory [("home", .directory [("link", .link "../site")]), ("site", .directory siteEntries)]

def siteTexts : List (String × String) :=
  [("a.b.tf", "variable"), ("b.tf", "b = 1\n"), ("..tf", "c = 2\n")]

theorem load_selected_linked
    : siteTree.locate ["home"] "link/" = .ok (.directory siteEntries)
        ∧ FileTree.AreEntries siteEntries
        ∧ FileTree.AreTexts siteEntries siteTexts
        ∧ (load (siteTree.access ["home"]) "link/").run.run = ofSources siteTexts := by
  have hlocate : siteTree.locate ["home"] "link/" = .ok (.directory siteEntries) := by
    rw [FileTree.locate_eq_ok_iff]
    have hsteps : FileTree.steps "link/" = ["link", "."] := by
      rw [FileTree.steps_eq]
      decide
    have htarget : FileTree.steps "../site" = ["..", "site"] := by
      rw [FileTree.steps_eq]
      decide
    refine ⟨by decide, ["site"], ?_, rfl⟩
    rw [hsteps]
    simp [siteTree, FileTree.maxLinks, FileTree.follow, FileTree.origin, htarget, Path.isAbsolute,
      FileTree.at?, FileTree.entry?, FileTree.entries, List.lookup_cons]
  have hentries : FileTree.AreEntries siteEntries := ⟨by decide, by decide⟩
  have htexts : FileTree.AreTexts siteEntries siteTexts := by
    refine ⟨by decide, ?_⟩
    intro name bytes
    unfold FileTree.Selects
    constructor
    . rintro ⟨hmem, hextension⟩
      simp only [siteEntries, List.mem_cons, Prod.mk.injEq, FileTree.file.injEq, reduceCtorEq, and_false,
        List.not_mem_nil, or_false, false_or] at hmem
      obtain ⟨rfl, rfl⟩ | ⟨rfl, rfl⟩ | ⟨rfl, rfl⟩ | ⟨rfl, rfl⟩ := hmem
      . exact ⟨"b = 1\n", by decide, rfl⟩
      . exact absurd hextension (by decide)
      . exact ⟨"c = 2\n", by decide, rfl⟩
      . exact ⟨"variable", by decide, rfl⟩
    . rintro ⟨text, hmem, rfl⟩
      simp only [siteTexts, List.mem_cons, Prod.mk.injEq, List.not_mem_nil, or_false] at hmem
      obtain ⟨rfl, rfl⟩ | ⟨rfl, rfl⟩ | ⟨rfl, rfl⟩ := hmem
      . exact ⟨by simp [siteEntries], by decide⟩
      . exact ⟨by simp [siteEntries], by decide⟩
      . exact ⟨by simp [siteEntries], by decide⟩
  refine ⟨hlocate, hentries, htexts, ?_⟩
  apply ((load_selected hlocate hentries).1 _).2 siteTexts htexts
  intro name bytes hselects
  obtain ⟨text, _, htext⟩ := (htexts.mem_iff name bytes).1 hselects
  exact ⟨text, htext⟩

end

end Module

end BackendPolicy
