import Mathlib.Data.List.Forall2

/-!
This module contains `orFirst`, the outcome of work that stops at its first fault, described by the list of
all faults that the work would meet.
-/

namespace BackendPolicy

variable {ε α β : Type}

/--
A value, unless there are faults. Then it is the first of them.
-/
def orFirst (faults : List ε) (value : α) : Except ε α :=
  match faults with
  | [] => .ok value
  | fault :: _ => .error fault

@[simp]
theorem orFirst_nil (value : α) : orFirst ([] : List ε) value = .ok value := rfl

@[simp]
theorem orFirst_cons (fault : ε) (faults : List ε) (value : α)
    : orFirst (fault :: faults) value = .error fault := rfl

theorem orFirst_bind_orFirst (faults : List ε) (value : α) (more : α → List ε) (next : α → β)
    : (orFirst faults value >>= fun a => orFirst (more a) (next a))
        =
      orFirst (faults ++ more value) (next value) := by
  cases faults with
  | nil => rfl
  | cons => rfl

theorem orFirst_eq_ok_iff {faults : List ε} {value result : α}
    : orFirst faults value = .ok result ↔ faults = [] ∧ value = result := by
  cases faults with
  | nil => simp
  | cons => simp

theorem orFirst_eq_error_iff {faults : List ε} {value : α} {fault : ε}
    : orFirst faults value = .error fault ↔ faults.head? = some fault := by
  cases faults with
  | nil => simp
  | cons => simp

theorem orFirst_bind_eq_ok_iff {faults : List ε} {value : α} {next : α → Except ε β} {result : β}
    : (orFirst faults value >>= next) = .ok result ↔ faults = [] ∧ next value = .ok result := by
  cases faults with
  | nil => simp [bind, Except.bind]
  | cons => simp [bind, Except.bind]

theorem mapError_orFirst {ε' : Type} (f : ε → ε') (faults : List ε) (value : α)
    : (orFirst faults value).mapError f = orFirst (faults.map f) value := by
  cases faults <;> rfl

theorem bind_eq_orFirst [Inhabited β] {outcome : Except ε α} {faults more : List ε} {value : α}
    {next : α → Except ε β} (h : outcome = orFirst faults value)
    (hnext : faults = [] → ∃ result, next value = orFirst more result)
    : ∃ result, (outcome >>= next) = orFirst (faults ++ more) result := by
  subst h
  cases faults with
  | nil => exact hnext rfl
  | cons => exact ⟨default, rfl⟩

def faultsOf : Except ε α → List ε
  | .ok _ => []
  | .error e => [e]

theorem bind_eq_ok_iff {outcome : Except ε α} {next : α → Except ε β} {result : β}
    : (outcome >>= next) = .ok result ↔ ∃ a, outcome = .ok a ∧ next a = .ok result := by
  cases outcome with
  | error => simp [bind, Except.bind]
  | ok => simp [bind, Except.bind]

theorem guard_eq_ok_iff {c : Prop} [Decidable c] {e : ε} {next : Except ε α} {a : α}
    : (if c then throw e else next) = .ok a ↔ ¬ c ∧ next = .ok a := by
  split
  . next h => simp [h, throw, throwThe, MonadExceptOf.throw]
  . next h => simp [h]

theorem mapM_eq_orFirst (f : α → Except ε β) (as : List α)
    : as.mapM f
        =
      orFirst (as.flatMap fun a => faultsOf (f a)) (as.filterMap fun a => (f a).toOption) := by
  induction as with
  | nil => rfl
  | cons a as ih =>
    rw [List.mapM_cons]
    rw [ih]
    rw [List.flatMap_cons]
    rw [List.filterMap_cons]
    cases f a with
    | error => rfl
    | ok => cases as.flatMap fun a => faultsOf (f a) <;> rfl

theorem mapM_orFirst (faults : α → List ε) (value : α → β) (as : List α)
    : as.mapM (fun a => orFirst (faults a) (value a)) = orFirst (as.flatMap faults) (as.map value) := by
  induction as with
  | nil => rfl
  | cons a as ih =>
    rw [List.mapM_cons]
    rw [ih]
    rw [List.flatMap_cons]
    cases faults a with
    | nil => cases as.flatMap faults <;> rfl
    | cons => rfl

theorem mapM_eq_ok_iff {f : α → Except ε β} {as : List α} {bs : List β}
    : as.mapM f = .ok bs ↔ List.Forall₂ (fun a b => f a = .ok b) as bs := by
  induction as generalizing bs with
  | nil => simp [pure, Except.pure, eq_comm]
  | cons a as ih =>
    rw [List.mapM_cons]
    rw [List.forall₂_cons_left_iff]
    simp only [← ih]
    cases ha : f a with
    | error => simp [bind, Except.bind]
    | ok b =>
      cases has : as.mapM f with
      | error => simp [bind, Except.bind]
      | ok rest => simp [bind, Except.bind, pure, Except.pure, eq_comm]

theorem mapM_cons_eq_error_iff {f : α → Except ε β} {a : α} {as : List α} {e : ε}
    : (a :: as).mapM f = .error e ↔ f a = .error e ∨ (∃ b, f a = .ok b) ∧ as.mapM f = .error e := by
  rw [List.mapM_cons]
  cases f a with
  | error => simp [bind, Except.bind]
  | ok => cases as.mapM f <;> simp [bind, Except.bind, pure, Except.pure]

theorem mapM_eq_error_iff {f : α → Except ε β} {as : List α} {e : ε}
    : as.mapM f = .error e
        ↔
      ∃ before a after,
        as = before ++ a :: after ∧ (∀ a' ∈ before, ∃ b, f a' = .ok b) ∧ f a = .error e := by
  induction as with
  | nil => simp [pure, Except.pure]
  | cons first as ih =>
    rw [mapM_cons_eq_error_iff]
    rw [ih]
    constructor
    . rintro (he | ⟨hfirst, before, a, after, rfl, hbefore, he⟩)
      . exact ⟨[], first, as, rfl, by simp, he⟩
      . exact ⟨first :: before, a, after, rfl, List.forall_mem_cons.2 ⟨hfirst, hbefore⟩, he⟩
    . rintro ⟨before, a, after, has, hbefore, he⟩
      cases before with
      | nil =>
        obtain ⟨rfl, rfl⟩ := List.cons.inj has
        exact .inl he
      | cons _ before =>
        obtain ⟨rfl, rfl⟩ := List.cons.inj has
        obtain ⟨hfirst, hbefore⟩ := List.forall_mem_cons.1 hbefore
        exact .inr ⟨hfirst, before, a, after, rfl, hbefore, he⟩

theorem toOption_eq_some_iff {outcome : Except ε α} {a : α} : outcome.toOption = some a ↔ outcome = .ok a := by
  cases outcome <;> simp [Except.toOption]

theorem mapError_eq_ok_iff {ε' : Type} {f : ε → ε'} {outcome : Except ε α} {a : α}
    : outcome.mapError f = .ok a ↔ outcome = .ok a := by
  cases outcome <;> simp [Except.mapError]

theorem mapError_eq_error_iff {ε' : Type} {f : ε → ε'} {outcome : Except ε α} {e : ε'}
    : outcome.mapError f = .error e ↔ ∃ error, outcome = .error error ∧ f error = e := by
  cases outcome <;> simp [Except.mapError]

theorem map_eq_error_iff {f : α → β} {outcome : Except ε α} {e : ε}
    : outcome.map f = .error e ↔ outcome = .error e := by
  cases outcome <;> simp [Except.map]

theorem mapM_congr {f g : α → Except ε β} {as : List α} (h : ∀ a ∈ as, f a = g a) : as.mapM f = as.mapM g := by
  induction as with
  | nil => rfl
  | cons a as ih =>
    obtain ⟨ha, has⟩ := List.forall_mem_cons.1 h
    rw [List.mapM_cons]
    rw [List.mapM_cons]
    rw [ha]
    rw [ih has]

/--
Of a list in order, the one that is reported is before all others that fail.
-/
theorem mapM_eq_error_iff_least {before : α → α → Prop} (hasymm : ∀ a b, before a b → ¬ before b a)
    {f : α → Except ε β} {as : List α} (hsorted : as.Pairwise before) {e : ε}
    : as.mapM f = .error e ↔ ∃ a ∈ as, f a = .error e ∧ ∀ b ∈ as, ∀ e', f b = .error e' → ¬ before b a := by
  rw [mapM_eq_error_iff]
  constructor
  . rintro ⟨front, a, back, rfl, hfront, he⟩
    refine ⟨a, by simp, he, ?_⟩
    have hback := (List.pairwise_cons.1 (List.pairwise_append.1 hsorted).2.1).1
    intro b hb e' he'
    obtain hb | hb := List.mem_append.1 hb
    . obtain ⟨result, hresult⟩ := hfront b hb
      rw [hresult] at he'
      contradiction
    . obtain rfl | hb := List.mem_cons.1 hb
      . exact fun h => hasymm b b h h
      . exact hasymm a b (hback b hb)
  . rintro ⟨a, ha, he, hleast⟩
    obtain ⟨front, back, rfl⟩ := List.append_of_mem ha
    refine ⟨front, a, back, rfl, ?_, he⟩
    intro b hb
    have hbefore : before b a := (List.pairwise_append.1 hsorted).2.2 b hb a (by simp)
    cases hresult : f b with
    | ok result => exact ⟨result, rfl⟩
    | error e' => exact absurd hbefore (hleast b (by simp [hb]) e' hresult)

theorem exceptT_run_ofExcept (outcome : Except ε α)
    : (MonadExcept.ofExcept outcome : ExceptT ε Id α).run.run = outcome := by
  cases outcome <;> rfl

theorem exceptT_run_bind (action : ExceptT ε Id α) (next : α → ExceptT ε Id β)
    : (action >>= next).run.run = action.run.run >>= fun a => (next a).run.run := by
  rw [ExceptT.run_bind]
  rw [Id.run_bind]
  cases action.run.run with
  | error => rfl
  | ok => rfl

theorem exceptT_run_mapM (f : α → ExceptT ε Id β) (as : List α)
    : (as.mapM f).run.run = as.mapM fun a => (f a).run.run := by
  induction as with
  | nil => rfl
  | cons a as ih =>
    rw [List.mapM_cons]
    rw [List.mapM_cons]
    rw [exceptT_run_bind]
    congr 1
    funext b
    rw [exceptT_run_bind]
    rw [ih]
    rfl

theorem exists_of_mapM_of_mem {f : α → Except ε β} {as : List α} {bs : List β} (h : as.mapM f = .ok bs)
    : ∀ a ∈ as, ∃ b, f a = .ok b := by
  rw [mapM_eq_ok_iff] at h
  induction h with
  | nil => simp
  | cons hab _ ih =>
    rw [List.forall_mem_cons]
    exact ⟨⟨_, hab⟩, ih⟩

theorem exists_of_mem_of_mapM {f : α → Except ε β} {as : List α} {bs : List β} (h : as.mapM f = .ok bs)
    : ∀ b ∈ bs, ∃ a ∈ as, f a = .ok b := by
  rw [mapM_eq_ok_iff] at h
  induction h with
  | nil => simp
  | cons hab _ ih =>
    rw [List.forall_mem_cons]
    constructor
    . exact ⟨_, by simp, hab⟩
    . intro b hb
      obtain ⟨a, ha, heq⟩ := ih b hb
      exact ⟨a, by simp [ha], heq⟩

end BackendPolicy
