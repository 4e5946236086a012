import BackendPolicy.Files.Tree
import BackendPolicy.Proofs.Text.Filename

/-!
This module contains the reading of files that a directory lists. `readText_join` follows the path to a
directory and then one more step: whatever links and dots the path goes through, it ends at the entry.
-/

namespace BackendPolicy

theorem fromUTF8?_eq_some_iff {bytes : ByteArray} {text : String}
    : String.fromUTF8? bytes = some text ↔ text.toUTF8 = bytes := by
  unfold String.fromUTF8?
  constructor
  . intro h
    split at h
    . cases h
      rfl
    . contradiction
  . rintro rfl
    rw [String.toUTF8_eq_toByteArray]
    rw [dif_pos text.isValidUTF8]
    rfl

theorem textOfBytes_toUTF8 (text : String) : textOfBytes text.toUTF8 = .ok text := by
  unfold textOfBytes
  rw [fromUTF8?_eq_some_iff.2 rfl]

theorem textOfBytes_of_notText {bytes : ByteArray} (h : ∀ text : String, text.toUTF8 ≠ bytes)
    : textOfBytes bytes = .error .notText := by
  unfold textOfBytes
  cases htext : String.fromUTF8? bytes with
  | none => rfl
  | some text => exact absurd (fromUTF8?_eq_some_iff.1 htext) (h text)

namespace FileTree

variable {tree : FileTree}

theorem at?_append (tree : FileTree) (place names : List String)
    : tree.at? (place ++ names) = (tree.at? place).bind fun inner => inner.at? names := by
  induction place generalizing tree with
  | nil => rfl
  | cons name place ih =>
    rw [List.cons_append]
    rw [at?.eq_2]
    rw [at?.eq_2]
    cases tree.entry? name with
    | none => rfl
    | some inner => exact ih inner

/--
Steps that are followed to their end leave a place and a number of links for the steps behind them.
-/
theorem follow_append (tree : FileTree) (links : Nat) (place todo : List String)
    : (∃ left goal, ∀ rest, tree.follow links place (todo ++ rest) = tree.follow left goal rest)
        ∨ ∃ fault, ∀ rest, tree.follow links place (todo ++ rest) = .error fault := by
  induction links, place, todo using follow.induct tree with
  | case1 links place => exact .inl ⟨links, place, fun _ => rfl⟩
  | case2 links place names entries hat ih =>
    simpa [follow, hat] using ih
  | case3 links place names entries hat hup ih =>
    simpa [follow, hat] using ih
  | case4 links place name names entries hat hhere hup hlookup =>
    right
    refine ⟨.notFound, ?_⟩
    intro rest
    simp [follow, hat, hhere, hup, hlookup]
  | case5 place name names entries hat hhere hup target hlookup =>
    right
    refine ⟨.linkCycle, ?_⟩
    intro rest
    simp [follow, hat, hhere, hup, hlookup]
  | case6 place name names entries hat hhere hup target hlookup links ih =>
    simpa [follow, hat, hhere, hup, hlookup] using ih
  | case7 links place name names entries hat hhere hup inner hinner hlookup ih =>
    simpa [follow, hat, hhere, hup, hlookup] using ih
  | case8 links place name names hat =>
    right
    refine ⟨.notADirectory, ?_⟩
    intro rest
    simp [follow]

theorem steps_eq (path : String)
    : steps path = Path.pieces path ++ if path.toList.getLast? = some '/' then ["."] else [] := by
  unfold steps
  congr 1
  have hiff : path.endsWith "/" ↔ path.toList.getLast? = some '/' := by
    rw [← String.endsWith_toSlice]
    rw [String.Slice.endsWith_string_iff]
    rw [List.getLast?_eq_some_iff]
    simp [List.IsSuffix, eq_comm]
  simp only [hiff]

/--
A path that is followed to its end leaves the steps behind it to the place where it ends. The slash at its end
asks for nothing more.
-/
theorem follow_pieces {links : Nat} {start place : List String} {path : String}
    (h : tree.follow links start (steps path) = .ok place)
    : ∃ left, ∀ rest, tree.follow links start (Path.pieces path ++ rest) = tree.follow left place rest := by
  rw [steps_eq] at h
  obtain ⟨left, goal, hgoal⟩ | ⟨fault, hfault⟩ := follow_append tree links start (Path.pieces path)
  . rw [hgoal] at h
    have heq : goal = place := by
      split at h
      . unfold follow at h
        split at h
        . simpa [follow] using h
        . contradiction
      . simpa [follow] using h
    subst heq
    exact ⟨left, hgoal⟩
  . rw [hfault] at h
    contradiction

theorem locate_eq_ok_iff {directory : List String} {path : String} {found : FileTree}
    : tree.locate directory path = .ok found
        ↔
      path ≠ ""
        ∧ ∃ place, tree.follow maxLinks (origin directory path) (steps path) = .ok place
          ∧ tree.at? place = some found := by
  unfold locate
  by_cases hempty : path = ""
  . simp [hempty]
  . rw [if_neg (by simpa using hempty)]
    cases tree.follow maxLinks (origin directory path) (steps path) with
    | error => simp [bind, Except.bind]
    | ok place => cases hat : tree.at? place <;> simp [bind, Except.bind, pure, Except.pure, hempty, hat]

section

variable {directory : List String} {root name : String} {entries : List (String × FileTree)}
  {bytes : ByteArray}

theorem locate_join (h : tree.locate directory root = .ok (.directory entries))
    (hname : Path.IsFilename name) (hentry : entries.lookup name = some (.file bytes))
    : tree.locate directory (Path.join root name) = .ok (.file bytes) := by
  rw [locate_eq_ok_iff] at *
  obtain ⟨hroot, place, hfollow, hat⟩ := h
  obtain ⟨left, hleft⟩ := follow_pieces hfollow
  have horigin : origin directory (Path.join root name) = origin directory root := by
    unfold origin
    rw [Path.isAbsolute_join hroot hname]
  have hsteps : steps (Path.join root name) = Path.pieces root ++ [name] := by
    rw [steps_eq]
    rw [if_neg (Path.getLast?_join hroot hname)]
    rw [Path.pieces_join hroot hname]
    simp
  refine ⟨?_, place ++ [name], ?_, ?_⟩
  . intro hjoin
    have hpieces := Path.pieces_join hroot hname
    rw [hjoin] at hpieces
    simp [Path.pieces, Path.splitSlash] at hpieces
  . rw [horigin]
    rw [hsteps]
    rw [hleft]
    simp [follow, hat, hname.here, hname.up, hentry]
  . rw [at?_append]
    rw [hat]
    simp [at?, entry?, FileTree.entries, hentry]

theorem readText_join (h : tree.locate directory root = .ok (.directory entries))
    (hname : Path.IsFilename name) (hentry : entries.lookup name = some (.file bytes))
    : tree.readText directory (Path.join root name) = textOfBytes bytes := by
  unfold readText
  rw [locate_join h hname hentry]
  rfl

theorem listFiles_of_locate (h : tree.locate directory root = .ok (.directory entries))
    : tree.listFiles directory root = .ok ((entries.filter fun entry => entry.2.isFile).map Prod.fst) := by
  unfold listFiles
  rw [h]
  rfl

end

end FileTree

end BackendPolicy
