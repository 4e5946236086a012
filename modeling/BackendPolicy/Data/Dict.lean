/-!
This module contains `Dict`, a finite map from names to values. The entries are kept in the byte order
of their names, so two dictionaries with the same answers are the same value.
-/

namespace BackendPolicy

/--
A finite map from names to values, in the order of the names.
-/
structure Dict (α : Type) where
  entries : List (String × α)
  sorted : entries.Pairwise (fun a b => a.1 < b.1)

namespace Dict

variable {α : Type}

def empty : Dict α := ⟨[], .nil⟩

instance : EmptyCollection (Dict α) := ⟨empty⟩

instance : Inhabited (Dict α) := ⟨empty⟩

@[ext]
theorem ext {a b : Dict α} (h : a.entries = b.entries) : a = b := by
  cases a; cases b; cases h; rfl

def insertEntry (name : String) (value : α) : List (String × α) → List (String × α)
  | [] => [(name, value)]
  | entry :: rest =>
    if name < entry.1 then
      (name, value) :: entry :: rest
    else if entry.1 < name then
      entry :: insertEntry name value rest
    else
      (name, value) :: rest

theorem mem_insertEntry {name : String} {value : α} {entries : List (String × α)} {e : String × α}
    (h : e ∈ insertEntry name value entries) : e.1 = name ∨ e ∈ entries := by
  induction entries with
  | nil => simp_all [insertEntry]
  | cons head rest ih =>
    unfold insertEntry at h
    split at h
    · rcases List.mem_cons.1 h with rfl | h
      · exact .inl rfl
      · exact .inr h
    · split at h
      · rcases List.mem_cons.1 h with rfl | h
        · exact .inr (by simp)
        · rcases ih h with h | h
          · exact .inl h
          · exact .inr (by simp [h])
      · rcases List.mem_cons.1 h with rfl | h
        · exact .inl rfl
        · exact .inr (by simp [h])

theorem eq_of_not_lt {a b : String} (hab : ¬ a < b) (hba : ¬ b < a) : a = b :=
  String.le_antisymm (String.not_lt.1 hba) (String.not_lt.1 hab)

theorem pairwise_insertEntry {name : String} {value : α} {entries : List (String × α)}
    (h : entries.Pairwise (fun a b => a.1 < b.1)) :
    (insertEntry name value entries).Pairwise (fun a b => a.1 < b.1) := by
  induction entries with
  | nil => simp [insertEntry]
  | cons head rest ih =>
    obtain ⟨hhead, hrest⟩ := List.pairwise_cons.1 h
    unfold insertEntry
    split
    · next hlt =>
      refine List.pairwise_cons.2 ⟨?_, h⟩
      intro e he
      rcases List.mem_cons.1 he with rfl | he
      · exact hlt
      · exact String.lt_trans hlt (hhead e he)
    · split
      · next hlt =>
        refine List.pairwise_cons.2 ⟨?_, ih hrest⟩
        intro e he
        rcases mem_insertEntry he with he | he
        · simpa [he] using hlt
        · exact hhead e he
      · next hle hge =>
        have heq : name = head.1 := eq_of_not_lt hle hge
        refine List.pairwise_cons.2 ⟨?_, hrest⟩
        intro e he
        simpa [heq] using hhead e he

def insert (d : Dict α) (name : String) (value : α) : Dict α :=
  ⟨insertEntry name value d.entries, pairwise_insertEntry d.sorted⟩

def insertMany (d : Dict α) (entries : List (String × α)) : Dict α :=
  entries.foldl (fun d e => d.insert e.1 e.2) d

/--
Turn a list of named values into a dictionary. Of two values of one name the later stays.
-/
def ofList (entries : List (String × α)) : Dict α :=
  insertMany empty entries

def get? (d : Dict α) (name : String) : Option α :=
  d.entries.lookup name

def contains (d : Dict α) (name : String) : Bool :=
  (d.get? name).isSome

def names (d : Dict α) : List String :=
  d.entries.map Prod.fst

def override (d e : Dict α) : Dict α :=
  d.insertMany e.entries

theorem lookup_cons_ite (name : String) (value : α) (entries : List (String × α)) (other : String) :
    ((name, value) :: entries).lookup other
      = if other = name then some value else entries.lookup other := by
  by_cases h : other = name
  · simp [h]
  · simp [List.lookup_cons, h, beq_eq_false_iff_ne.2 h]

theorem lookup_insertEntry (name other : String) (value : α) (entries : List (String × α)) :
    (insertEntry name value entries).lookup other
      = if other = name then some value else entries.lookup other := by
  induction entries with
  | nil => simp [insertEntry, lookup_cons_ite]
  | cons head rest ih =>
    obtain ⟨n, v⟩ := head
    unfold insertEntry
    split
    · rw [lookup_cons_ite]
    · split
      · next hlt =>
        have hne : n ≠ name := fun he => String.lt_irrefl name (he ▸ hlt)
        rw [lookup_cons_ite, lookup_cons_ite, ih]
        by_cases hh : other = n
        · simp [hh, hne]
        · simp [hh]
      · next hle hge =>
        have heq : name = n := eq_of_not_lt hle hge
        rw [lookup_cons_ite, lookup_cons_ite, heq]
        split <;> rfl

@[simp]
theorem get?_insert (d : Dict α) (name other : String) (value : α) :
    (d.insert name value).get? other = if other = name then some value else d.get? other :=
  lookup_insertEntry name other value d.entries

@[simp]
theorem get?_empty (name : String) : (empty : Dict α).get? name = none := rfl

end Dict

end BackendPolicy
