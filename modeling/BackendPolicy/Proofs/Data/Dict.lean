import Mathlib.Data.List.Sort
import BackendPolicy.Data.Dict

/-!
This module contains the laws of dictionaries: what is found after many values were put in, and that a
dictionary is determined by what is found in it.
-/

namespace BackendPolicy

variable {α β : Type}

theorem getLast?_filterMap_eq_some_iff {f : α → Option β} {as : List α} {b : β}
    : (as.filterMap f).getLast? = some b
        ↔
      ∃ before a after, as = before ++ a :: after ∧ f a = some b ∧ ∀ a' ∈ after, f a' = none := by
  rw [List.getLast?_filterMap]
  rw [List.findSome?_eq_some_iff]
  constructor
  . rintro ⟨after, a, before, has, ha, hafter⟩
    refine ⟨before.reverse, a, after.reverse, ?_, ha, by simpa using hafter⟩
    rw [← List.reverse_reverse as]
    rw [has]
    simp
  . rintro ⟨before, a, after, rfl, ha, hafter⟩
    exact ⟨after.reverse, a, before.reverse, by simp, ha, by simpa using hafter⟩

/--
The value that a name has in a list of named values. Of several values the last one counts.
-/
def lastValue? (name : String) (entries : List (String × α)) : Option α :=
  (entries.filterMap fun e => if e.1 = name then some e.2 else none).getLast?

@[simp]
theorem lastValue?_nil (name : String) : lastValue? name ([] : List (String × α)) = none := rfl

theorem lastValue?_cons (name : String) (entry : String × α) (entries : List (String × α))
    : lastValue? name (entry :: entries)
        =
      (lastValue? name entries).or (if entry.1 = name then some entry.2 else none) := by
  unfold lastValue?
  split
  . next h =>
    rw [List.filterMap_cons_some (b := entry.2)]
    . rw [List.getLast?_cons]
      cases List.getLast? _ <;> rfl
    . simp [h]
  . next h =>
    rw [List.filterMap_cons_none]
    . simp
    . simp [h]

theorem lastValue?_eq_some_iff {name : String} {entries : List (String × α)} {value : α}
    : lastValue? name entries = some value
        ↔
      ∃ before after, entries = before ++ (name, value) :: after ∧ ∀ other, (name, other) ∉ after := by
  unfold lastValue?
  rw [getLast?_filterMap_eq_some_iff]
  constructor
  . rintro ⟨before, ⟨key, v⟩, after, hentries, hentry, hafter⟩
    obtain ⟨rfl, rfl⟩ : key = name ∧ v = value := by simpa using hentry
    refine ⟨before, after, hentries, ?_⟩
    intro other hother
    simpa using hafter _ hother
  . rintro ⟨before, after, hentries, hafter⟩
    refine ⟨before, (name, value), after, hentries, by simp, ?_⟩
    intro entry hentry
    have : entry.1 ≠ name := fun h => hafter entry.2 (h ▸ hentry)
    simp [this]

theorem lastValue?_eq_none_iff {name : String} {entries : List (String × α)}
    : lastValue? name entries = none ↔ ∀ value, (name, value) ∉ entries := by
  unfold lastValue?
  rw [List.getLast?_eq_none_iff]
  rw [List.filterMap_eq_nil_iff]
  constructor
  . intro h value hvalue
    simpa using h _ hvalue
  . intro h entry hentry
    have : entry.1 ≠ name := fun he => h entry.2 (he ▸ hentry)
    simp [this]

theorem lastValue?_map_key (f : String → α → β) (name : String) (entries : List (String × α))
    : lastValue? name (entries.map fun e => (e.1, f e.1 e.2)) = (lastValue? name entries).map (f name) := by
  induction entries with
  | nil => rfl
  | cons entry entries ih =>
    rw [List.map_cons]
    rw [lastValue?_cons]
    rw [lastValue?_cons]
    rw [ih]
    by_cases h : entry.1 = name
    . subst h
      cases lastValue? entry.1 entries <;> simp
    . simp [h]

theorem lastValue?_map (f : α → β) (name : String) (entries : List (String × α))
    : lastValue? name (entries.map fun e => (e.1, f e.2)) = (lastValue? name entries).map f :=
  lastValue?_map_key (fun _ => f) name entries

theorem lastValue?_eq_some_iff_mem {name : String} {entries : List (String × α)} {value : α}
    (h : (entries.map Prod.fst).Nodup)
    : lastValue? name entries = some value ↔ (name, value) ∈ entries := by
  rw [lastValue?_eq_some_iff]
  constructor
  . rintro ⟨before, after, rfl, _⟩
    simp
  . intro hmem
    obtain ⟨before, after, rfl⟩ := List.append_of_mem hmem
    refine ⟨before, after, rfl, ?_⟩
    intro other hother
    rw [List.map_append] at h
    have hafter : name ∉ after.map Prod.fst := (List.nodup_cons.1 (List.nodup_append.1 h).2.1).1
    exact hafter (List.mem_map.2 ⟨_, hother, rfl⟩)

theorem lastValue?_filter {p : String → Bool} {name : String} (h : p name) (entries : List (String × α))
    : lastValue? name (entries.filter fun e => p e.1) = lastValue? name entries := by
  unfold lastValue?
  rw [List.filterMap_filter]
  congr 2
  funext e
  by_cases hname : e.1 = name
  . simp [hname, h]
  . simp [hname]

namespace Dict

def map (f : α → β) (d : Dict α) : Dict β where
  entries := d.entries.map fun e => (e.1, f e.2)
  sorted := List.pairwise_map.2 d.sorted

@[simp]
theorem get?_insertMany (d : Dict α) (entries : List (String × α)) (name : String)
    : (d.insertMany entries).get? name = (lastValue? name entries).or (d.get? name) := by
  induction entries generalizing d with
  | nil => simp [insertMany]
  | cons entry entries ih =>
    have hstep : d.insertMany (entry :: entries) = (d.insert entry.1 entry.2).insertMany entries := rfl
    rw [hstep]
    rw [ih]
    rw [lastValue?_cons]
    rw [get?_insert]
    rw [Option.or_assoc]
    congr 1
    by_cases h : entry.1 = name
    . simp [h]
    . simp [h, Ne.symm h]

@[simp]
theorem get?_ofList (entries : List (String × α)) (name : String)
    : (ofList entries).get? name = lastValue? name entries := by
  unfold ofList
  rw [get?_insertMany]
  simp

theorem contains_ofList_iff {entries : List (String × α)} {name : String}
    : (ofList entries).contains name ↔ ∃ value, (name, value) ∈ entries := by
  unfold contains
  rw [get?_ofList]
  rw [← Option.ne_none_iff_isSome]
  rw [ne_eq]
  rw [lastValue?_eq_none_iff]
  simp

theorem insertMany_append (d : Dict α) (entries others : List (String × α))
    : d.insertMany (entries ++ others) = (d.insertMany entries).insertMany others := by
  unfold insertMany
  rw [List.foldl_append]

theorem lookup_eq_none_of_forall_lt {name : String} {entries : List (String × α)}
    (h : ∀ e ∈ entries, name < e.1)
    : entries.lookup name = none := by
  rw [List.lookup_eq_none_iff]
  intro e he
  have := String.ne_of_lt (h e he)
  simpa using this

theorem mem_entries_iff {d : Dict α} {name : String} {value : α}
    : (name, value) ∈ d.entries ↔ d.get? name = some value := by
  obtain ⟨entries, hsorted⟩ := d
  unfold get?
  dsimp
  induction entries with
  | nil => simp
  | cons head rest ih =>
    obtain ⟨hhead, hrest⟩ := List.pairwise_cons.1 hsorted
    rw [List.mem_cons]
    rw [lookup_cons_ite head.1 head.2]
    rw [ih hrest]
    by_cases h : name = head.1
    . subst h
      have habsent : rest.lookup head.1 = none := lookup_eq_none_of_forall_lt hhead
      simp [habsent, Prod.ext_iff, eq_comm]
    . have : (name, value) ≠ head := fun he => h (congrArg Prod.fst he)
      simp [h, this]

theorem lastValue?_entries (d : Dict α) (name : String) : lastValue? name d.entries = d.get? name := by
  obtain ⟨entries, hsorted⟩ := d
  unfold get?
  dsimp
  induction entries with
  | nil => rfl
  | cons head rest ih =>
    obtain ⟨hhead, hrest⟩ := List.pairwise_cons.1 hsorted
    rw [lastValue?_cons]
    rw [ih hrest]
    rw [lookup_cons_ite head.1 head.2]
    by_cases h : name = head.1
    . subst h
      simp [lookup_eq_none_of_forall_lt hhead]
    . simp [h, Ne.symm h]

@[simp]
theorem get?_override (d e : Dict α) (name : String)
    : (d.override e).get? name = (e.get? name).or (d.get? name) := by
  unfold override
  rw [get?_insertMany]
  rw [lastValue?_entries]

theorem ext_get? {d e : Dict α} (h : ∀ name, d.get? name = e.get? name) : d = e := by
  apply Dict.ext
  have hirrefl : Std.Irrefl fun a b : String × α => a.1 < b.1 := ⟨fun a => String.lt_irrefl a.1⟩
  apply List.Pairwise.eq_of_mem_iff d.sorted e.sorted
  intro entry
  rw [mem_entries_iff]
  rw [mem_entries_iff]
  rw [h]

theorem ext_mem {d e : Dict α} (h : ∀ name value, (name, value) ∈ d.entries ↔ (name, value) ∈ e.entries)
    : d = e := by
  apply ext_get?
  intro name
  apply Option.ext
  intro value
  rw [← mem_entries_iff]
  rw [← mem_entries_iff]
  exact h name value

theorem ofList_entries (d : Dict α) : ofList d.entries = d := by
  apply ext_get?
  intro name
  rw [get?_ofList]
  rw [lastValue?_entries]

@[simp]
theorem get?_map (f : α → β) (d : Dict α) (name : String) : (d.map f).get? name = (d.get? name).map f := by
  rw [← lastValue?_entries]
  rw [← lastValue?_entries]
  apply lastValue?_map

theorem map_ofList (f : α → β) (entries : List (String × α))
    : (ofList entries).map f = ofList (entries.map fun e => (e.1, f e.2)) := by
  apply ext_get?
  intro name
  rw [get?_map]
  rw [get?_ofList]
  rw [get?_ofList]
  rw [lastValue?_map]

theorem override_ofList (d : Dict α) (entries : List (String × α))
    : d.override (ofList entries) = d.insertMany entries := by
  apply ext_get?
  intro name
  rw [get?_override]
  rw [get?_ofList]
  rw [get?_insertMany]

end Dict

end BackendPolicy
