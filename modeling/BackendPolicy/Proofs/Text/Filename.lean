import BackendPolicy.Proofs.Text.Path

/-!
This module contains the names that files have in a directory. Such a name is one component, so names are
ordered by their bytes and a path to a directory is continued by one step.
-/

namespace BackendPolicy.Path

structure IsFilename (name : String) : Prop where
  nonempty : name ≠ ""
  here : name ≠ "."
  up : name ≠ ".."
  slash : '/' ∉ name.toList

instance (name : String) : Decidable (IsFilename name) :=
  decidable_of_iff (name ≠ "" ∧ name ≠ "." ∧ name ≠ ".." ∧ '/' ∉ name.toList)
    ⟨fun h => ⟨h.1, h.2.1, h.2.2.1, h.2.2.2⟩, fun h => ⟨h.nonempty, h.here, h.up, h.slash⟩⟩

/--
Whether a name has an extension: what follows the last dot, if anything precedes that dot.
-/
def HasExtension (name extension : String) : Prop :=
  '.' ∉ extension.toList ∧ ∃ stem, stem ≠ "" ∧ name = stem ++ "." ++ extension

theorem hasExtension_iff {name extension : String} (hdot : '.' ∉ extension.toList)
    : hasExtension name extension ↔ HasExtension name extension := by
  unfold hasExtension HasExtension
  dsimp only
  rw [Bool.and_eq_true]
  rw [List.isSuffixOf_iff_suffix]
  rw [decide_eq_true_iff]
  constructor
  . rintro ⟨⟨stem, hstem⟩, hlength⟩
    refine ⟨hdot, String.ofList stem, ?_, ?_⟩
    . rintro h
      have hnil : stem = [] := by simpa using h
      simp [← hstem, hnil] at hlength
    . rw [← String.toList_inj]
      simp [← hstem]
  . rintro ⟨_, stem, hstem, rfl⟩
    refine ⟨⟨stem.toList, by simp⟩, ?_⟩
    have hpos : 0 < stem.toList.length := by
      rw [List.length_pos_iff]
      simpa using hstem
    have hlist : (stem ++ "." ++ extension).toList = stem.toList ++ '.' :: extension.toList := by simp
    rw [hlist]
    rw [List.length_append]
    omega

instance (name extension : String) : Decidable (HasExtension name extension) :=
  if hdot : '.' ∉ extension.toList then
    decidable_of_iff _ (hasExtension_iff hdot)
  else
    isFalse fun h => hdot h.1

example : HasExtension "a.b.tf" "tf" ∧ HasExtension "..tf" "tf" ∧ ¬ HasExtension ".tf" "tf" := by decide

theorem pieces_append_slash (directory rest : String)
    : pieces (directory ++ "/" ++ rest) = pieces directory ++ pieces rest := by
  unfold pieces
  simp only [splitSlash_eq_splitOn]
  have hlist : (directory ++ "/" ++ rest).toList = directory.toList ++ '/' :: rest.toList := by simp
  rw [hlist]
  unfold List.splitOn
  rw [List.splitOnP_append_cons _ _ (by simp)]
  rw [List.filter_append]
  rw [List.map_append]

theorem pieces_of_isFilename {name : String} (h : IsFilename name) : pieces name = [name] := by
  have hne : name.toList ≠ [] := by simpa using h.nonempty
  unfold pieces
  rw [splitSlash_eq_splitOn]
  rw [List.splitOn_eq_singleton h.slash]
  simp [hne]

theorem isAbsolute_of_isFilename {name : String} (h : IsFilename name) : isAbsolute name = false := by
  unfold isAbsolute
  rw [decide_eq_false_iff_not]
  intro hhead
  exact h.slash (List.mem_of_mem_head? hhead)

theorem components_of_isFilename {name : String} (h : IsFilename name) : components name = [.name name] := by
  unfold components
  dsimp only
  rw [isAbsolute_of_isFilename h]
  rw [pieces_of_isFilename h]
  simp [Component.ofPiece?, h.here, h.up]

theorem le_of_isFilename {a b : String} (ha : IsFilename a) (hb : IsFilename b) : le a b ↔ a ≤ b := by
  unfold le compare
  rw [components_of_isFilename ha]
  rw [components_of_isFilename hb]
  simp only [compareComponents, Component.compare, Ordering.then_eq, decide_eq_true_iff]
  exact compare_le_iff_le

theorem join_eq {directory name : String} (hdirectory : directory ≠ "") (h : IsFilename name)
    : (directory.toList.getLast? ≠ some '/' ∧ join directory name = directory ++ "/" ++ name)
        ∨ ∃ inner, directory = inner ++ "/" ∧ join directory name = inner ++ "/" ++ name := by
  unfold join
  rw [isAbsolute_of_isFilename h]
  by_cases hlast : directory.toList.getLast? = some '/'
  . right
    obtain ⟨inner, hinner⟩ := List.getLast?_eq_some_iff.1 hlast
    have heq : directory = String.ofList inner ++ "/" := by
      rw [← String.toList_inj]
      simp [hinner]
    refine ⟨String.ofList inner, heq, ?_⟩
    simp [hdirectory, hlast, ← heq]
  . left
    simp [hdirectory, hlast]

theorem pieces_join {directory name : String} (hdirectory : directory ≠ "") (h : IsFilename name)
    : pieces (join directory name) = pieces directory ++ [name] := by
  obtain ⟨_, heq⟩ | ⟨inner, rfl, heq⟩ := join_eq hdirectory h
  . rw [heq]
    rw [pieces_append_slash]
    rw [pieces_of_isFilename h]
  . have hinner : pieces (inner ++ "/") = pieces inner := by
      have hempty := pieces_append_slash inner ""
      simpa [pieces, splitSlash] using hempty
    rw [heq]
    rw [pieces_append_slash]
    rw [pieces_of_isFilename h]
    rw [hinner]

theorem isAbsolute_join {directory name : String} (hdirectory : directory ≠ "") (h : IsFilename name)
    : isAbsolute (join directory name) = isAbsolute directory := by
  have hne : directory.toList ≠ [] := by simpa using hdirectory
  have hrest : ∃ rest, join directory name = directory ++ rest := by
    obtain ⟨_, heq⟩ | ⟨inner, rfl, heq⟩ := join_eq hdirectory h
    . refine ⟨"/" ++ name, ?_⟩
      rw [heq]
      rw [String.append_assoc]
    . exact ⟨name, heq⟩
  obtain ⟨rest, heq⟩ := hrest
  unfold isAbsolute
  rw [heq]
  rw [String.toList_append]
  rw [List.head?_append_of_ne_nil _ hne]

theorem getLast?_join {directory name : String} (hdirectory : directory ≠ "") (h : IsFilename name)
    : (join directory name).toList.getLast? ≠ some '/' := by
  have hsplit : ∃ before, join directory name = before ++ name := by
    obtain ⟨_, heq⟩ | ⟨inner, _, heq⟩ := join_eq hdirectory h
    . exact ⟨_, heq⟩
    . exact ⟨_, heq⟩
  obtain ⟨before, heq⟩ := hsplit
  have hne : name.toList ≠ [] := by simpa using h.nonempty
  rw [heq]
  rw [String.toList_append]
  rw [List.getLast?_append_of_ne_nil _ hne]
  intro hlast
  exact h.slash (List.mem_of_getLast? hlast)

end BackendPolicy.Path
