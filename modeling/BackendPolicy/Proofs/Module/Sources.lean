import BackendPolicy.Module.Basic
import BackendPolicy.Proofs.Data.Faults
import BackendPolicy.Proofs.Data.Sorting
import BackendPolicy.Proofs.Text.Path

/-!
This module contains the parsing of named texts in the order of their names. The main statement is
`ofSources_in_order`: names are ordered by their components, the texts are sorted by that order, in which equal
names keep their places, and so the order in which they are given does not matter.
-/

namespace BackendPolicy

namespace Path

structure IsComponentOrder (le : String → String → Bool) : Prop where
  refl : ∀ a, le a a
  total : ∀ a b, le a b ∨ le b a
  trans : ∀ a b c, le a b → le b c → le a c
  both : ∀ a b, le a b ∧ le b a ↔ components a = components b
  lex : ∀ a b, le a b ↔ components a = components b ∨ List.Lex Component.Before (components a) (components b)

theorem le_refl (a : String) : le a a := by
  rw [le_iff]
  exact .inl rfl

theorem le_isComponentOrder : IsComponentOrder le where
  refl := le_refl
  total := le_total
  trans := fun _ _ _ => le_trans
  both a b := by
    constructor
    . rintro ⟨hab, hba⟩
      exact components_eq_of_le hab hba
    . intro h
      rw [le_iff]
      rw [le_iff]
      exact ⟨.inl h, .inl h.symm⟩
  lex := fun _ _ => le_iff

theorem same_iff {a b : String} : same a b ↔ components a = components b := by
  unfold same
  simp

end Path

namespace SourceFile

def IsOf (source : String × String) (file : SourceFile) : Prop :=
  file.index = .ofSource source.1 source.2 ∧ Hcl.parseFile source.2.toList = .ok file.body

theorem ofSource_eq_ok_iff {filename source : String} {file : SourceFile}
    : ofSource filename source = .ok file ↔ file.IsOf (filename, source) := by
  obtain ⟨index, body⟩ := file
  unfold ofSource IsOf
  cases Hcl.parseFile source.toList with
  | error => simp
  | ok => simp [eq_comm]

theorem exists_ofSource_of_any (filename : String) {source : String} {test : Body → Bool}
    (h : (Hcl.parseFile source.toList).toOption.any test = true)
    : ∃ file,
        ofSource filename source = .ok file
          ∧ file.index = .ofSource filename source
          ∧ test file.body = true := by
  obtain ⟨body, hbody, htest⟩ := (Option.any_eq_true _ _).1 h
  exact ⟨⟨_, body⟩, ofSource_eq_ok_iff.2 ⟨rfl, toOption_eq_some_iff.1 hbody⟩, rfl, htest⟩

theorem ofSource_eq_error_iff {filename source : String} {e : RunError}
    : ofSource filename source = .error e
        ↔
      ∃ fault, Hcl.parseFile source.toList = .error fault ∧ e = .unparsable filename fault := by
  unfold ofSource
  cases Hcl.parseFile source.toList with
  | error => simp [eq_comm]
  | ok => simp

end SourceFile

/--
Whether a list of named texts is sorted by name and has, for every name, the texts of that name as they are in
another list.
-/
structure StablySorted (sources sorted : List (String × String)) : Prop where
  perm : sorted.Perm sources
  ascending : sorted.Pairwise fun a b => Path.le a.1 b.1
  stable : ∀ name, (sorted.filter fun s => Path.same name s.1) = sources.filter fun s => Path.same name s.1

/--
Whether parsing texts one after the other ends in an outcome: a file for each of them, or else a complaint
about the first one that cannot be parsed.
-/
inductive ParsesInTurn : List (String × String) → Except RunError Module → Prop where
  | all {sources : List (String × String)} {files : List SourceFile}
      (h : List.Forall₂ SourceFile.IsOf sources files)
      : ParsesInTurn sources (.ok ⟨files⟩)
  | first {before after : List (String × String)} {name text : String} {fault : Hcl.ParseError}
      (hbefore : ∀ s ∈ before, ∃ body, Hcl.parseFile s.2.toList = .ok body)
      (hfault : Hcl.parseFile text.toList = .error fault)
      : ParsesInTurn (before ++ (name, text) :: after) (.error (.unparsable name fault))

theorem sort_stablySorted (sources : List (String × String))
    : StablySorted sources (sources.mergeSort fun a b => Path.le a.1 b.1) := by
  have htrans (a b c : String × String) : Path.le a.1 b.1 → Path.le b.1 c.1 → Path.le a.1 c.1 := Path.le_trans
  have htotal (a b : String × String) : Path.le a.1 b.1 || Path.le b.1 a.1 := by
    simpa using Path.le_total a.1 b.1
  refine ⟨List.mergeSort_perm _ _, List.pairwise_mergeSort htrans htotal _, ?_⟩
  intro name
  apply filter_mergeSort htrans htotal
  intro a b ha hb
  rw [Path.same_iff] at ha hb
  exact (Path.le_isComponentOrder.both a.1 b.1).2 (ha.symm.trans hb) |>.1

theorem StablySorted.eq {sources others sorted sorted' : List (String × String)}
    (h : StablySorted sources sorted) (h' : StablySorted others sorted')
    (hstable : ∀ name,
      (others.filter fun s => Path.same name s.1) = sources.filter fun s => Path.same name s.1)
    : sorted' = sorted := by
  refine eq_of_sorted_of_filter_eq (fun a b => Path.same a.1 b.1) ?_ ?_ ?_ h'.ascending h.ascending ?_
  . intro s
    exact Path.le_refl s.1
  . intro s
    rw [Path.same_iff]
  . intro a b hab hba
    rw [Path.same_iff]
    exact Path.components_eq_of_le hab hba
  . intro s
    rw [h.stable]
    rw [h'.stable]
    rw [hstable]

namespace Module

theorem ofSources_eq_map (sources : List (String × String))
    : ofSources sources
        =
      ((sources.mergeSort fun a b => Path.le a.1 b.1).mapM fun s => SourceFile.ofSource s.1 s.2).map .mk := by
  unfold ofSources
  dsimp only
  generalize (sources.mergeSort fun a b => Path.le a.1 b.1) = sorted
  cases sorted.mapM fun s => SourceFile.ofSource s.1 s.2 <;> rfl

theorem ofSources_parsesInTurn (sources : List (String × String))
    : ParsesInTurn (sources.mergeSort fun a b => Path.le a.1 b.1) (ofSources sources) := by
  rw [ofSources_eq_map]
  generalize (sources.mergeSort fun a b => Path.le a.1 b.1) = sorted
  cases hfiles : sorted.mapM fun s => SourceFile.ofSource s.1 s.2 with
  | ok files =>
    apply ParsesInTurn.all
    exact (mapM_eq_ok_iff.1 hfiles).imp fun _ _ => SourceFile.ofSource_eq_ok_iff.1
  | error e =>
    obtain ⟨before, ⟨name, text⟩, after, rfl, hbefore, he⟩ := mapM_eq_error_iff.1 hfiles
    obtain ⟨fault, hfault, rfl⟩ := SourceFile.ofSource_eq_error_iff.1 he
    refine .first ?_ hfault
    intro s hs
    obtain ⟨file, hfile⟩ := hbefore s hs
    exact ⟨file.body, (SourceFile.ofSource_eq_ok_iff.1 hfile).2⟩

theorem exists_isOf_of_mem_files {sources : List (String × String)} {m : Module}
    (h : ofSources sources = .ok m)
    : ∀ file ∈ m.files, ∃ source ∈ sources, file.IsOf source := by
  rw [ofSources_eq_map] at h
  cases hfiles : (sources.mergeSort fun a b => Path.le a.1 b.1).mapM fun s => SourceFile.ofSource s.1 s.2 with
  | error e =>
    rw [hfiles] at h
    contradiction
  | ok files =>
    rw [hfiles] at h
    cases h
    intro file hfile
    obtain ⟨source, hsource, hof⟩ := exists_of_mem_of_mapM hfiles file hfile
    exact ⟨source, List.mem_mergeSort.1 hsource, SourceFile.ofSource_eq_ok_iff.1 hof⟩

theorem ofSources_congr {sources others : List (String × String)}
    (h : ∀ name, (others.filter fun s => Path.same name s.1) = sources.filter fun s => Path.same name s.1)
    : ofSources others = ofSources sources := by
  rw [ofSources_eq_map]
  rw [ofSources_eq_map]
  rw [(sort_stablySorted sources).eq (sort_stablySorted others) h]

/--
Names are ordered by their components. Texts are parsed in that order of their names, texts of equal names as
they are given, up to the first one that cannot be parsed. So texts that are given in another order are the
same module, or fail with the same complaint, as long as those of equal names are given as before.
-/
theorem ofSources_in_order
    : (∀ path, Path.components path
            =
          Path.leading ((path.toList.splitOn '/').map String.ofList)
            ++ ((path.toList.splitOn '/').map String.ofList).filterMap Path.ordinary?)
        ∧ Path.IsComponentOrder Path.le
        ∧ (∀ sources, ∃ sorted, StablySorted sources sorted ∧ ParsesInTurn sorted (ofSources sources))
        ∧ ∀ sources others : List (String × String), others.Perm sources
            → (∀ name,
                (others.filter fun s => Path.same name s.1) = sources.filter fun s => Path.same name s.1)
            → ofSources others = ofSources sources := by
  refine ⟨Path.components_eq, Path.le_isComponentOrder, ?_, ?_⟩
  . intro sources
    exact ⟨_, sort_stablySorted sources, ofSources_parsesInTurn sources⟩
  . intro sources others _ hstable
    exact ofSources_congr hstable

def reorderedTexts : List (String × String) :=
  [("a//b.tf", "x = 1\n"), ("c.tf", "y = 2\n"), ("a/b.tf", "z = 3\n")]

theorem ofSources_in_order_reordered
    : ofSources [("c.tf", "y = 2\n"), ("a//b.tf", "x = 1\n"), ("a/b.tf", "z = 3\n")]
        =
      ofSources reorderedTexts := by
  apply ofSources_in_order.2.2.2
  . exact List.Perm.swap _ _ _
  . intro name
    unfold reorderedTexts Path.same
    by_cases h : Path.components name = Path.components "c.tf"
    . simp only [h, List.filter_cons, List.filter_nil]
      rfl
    . simp [h, List.filter_cons]

end Module

end BackendPolicy
