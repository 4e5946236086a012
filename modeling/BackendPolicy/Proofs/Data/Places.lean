import Mathlib.Data.List.Lex
import BackendPolicy.Proofs.Data.Faults

/-!
This module contains the order of faults by their places. A place is the list of the numbers that lead to
it, and of two places the one that is smaller in the lexicographic order comes first. `InOrder` ties a list
to what stands at places, so that the head of the list is what stands at the least place.
-/

namespace BackendPolicy

variable {ε α : Type}

/--
Whether a list holds exactly what stands at places, in the order of the places.
-/
def InOrder (At : List Nat → ε → Prop) (l : List ε) : Prop :=
  ∃ placed : List (List Nat × ε),
    placed.map Prod.snd = l
      ∧ placed.Pairwise (fun a b => a.1 < b.1)
      ∧ ∀ place e, (place, e) ∈ placed ↔ At place e

namespace InOrder

variable {At Bt : List Nat → ε → Prop} {l k : List ε}

theorem congr (h : InOrder At l) (hiff : ∀ place e, At place e ↔ Bt place e) : InOrder Bt l := by
  obtain ⟨placed, hl, hsorted, hmem⟩ := h
  exact ⟨placed, hl, hsorted, fun place e => (hmem place e).trans (hiff place e)⟩

theorem nil (h : ∀ place e, ¬ At place e) : InOrder At [] := by
  refine ⟨[], rfl, .nil, ?_⟩
  simp [h]

theorem singleton (place : List Nat) (e : ε) : InOrder (fun p e' => p = place ∧ e' = e) [e] := by
  refine ⟨[(place, e)], rfl, List.pairwise_singleton _ _, ?_⟩
  simp

theorem option (o : Option ε) : InOrder (fun place e => place = [] ∧ o = some e) o.toList := by
  cases o with
  | none => exact nil (by simp)
  | some e => simpa [eq_comm] using singleton [] e

theorem append (h : InOrder At l) (h' : InOrder Bt k)
    (hlt : ∀ place e other e', At place e → Bt other e' → place < other)
    : InOrder (fun place e => At place e ∨ Bt place e) (l ++ k) := by
  obtain ⟨placed, rfl, hsorted, hmem⟩ := h
  obtain ⟨placed', rfl, hsorted', hmem'⟩ := h'
  refine ⟨placed ++ placed', List.map_append, ?_, ?_⟩
  . rw [List.pairwise_append]
    refine ⟨hsorted, hsorted', ?_⟩
    intro ⟨place, e⟩ ha ⟨other, e'⟩ hb
    exact hlt place e other e' ((hmem _ _).1 ha) ((hmem' _ _).1 hb)
  . intro place e
    rw [List.mem_append]
    rw [hmem]
    rw [hmem']

theorem cons (h : InOrder At l) (n : Nat)
    : InOrder (fun place e => ∃ rest, place = n :: rest ∧ At rest e) l := by
  obtain ⟨placed, rfl, hsorted, hmem⟩ := h
  refine ⟨placed.map fun a => (n :: a.1, a.2), ?_, ?_, ?_⟩
  . simp
  . rw [List.pairwise_map]
    apply hsorted.imp
    intro a b hab
    exact List.cons_lt_cons_iff.2 (.inr ⟨rfl, hab⟩)
  . intro place e
    simp only [List.mem_map, Prod.exists, Prod.mk.injEq]
    constructor
    . rintro ⟨rest, e', hrest, rfl, rfl⟩
      exact ⟨rest, rfl, (hmem _ _).1 hrest⟩
    . rintro ⟨rest, rfl, hrest⟩
      exact ⟨rest, e, (hmem _ _).2 hrest, rfl, rfl⟩

theorem flatMap_from {f : α → List ε} {At : α → List Nat → ε → Prop} (as : List α)
    (h : ∀ a ∈ as, InOrder (At a) (f a)) (start : Nat)
    : InOrder (fun place e => ∃ i a rest, as[i]? = some a ∧ place = (start + i) :: rest ∧ At a rest e)
        (as.flatMap f) := by
  induction as generalizing start with
  | nil => exact nil (by simp)
  | cons a as ih =>
    have hhead := (h a (by simp)).cons start
    have htail := ih (fun b hb => h b (by simp [hb])) (start + 1)
    rw [List.flatMap_cons]
    apply (hhead.append htail ?_).congr
    . intro place e
      constructor
      . rintro (⟨rest, rfl, hrest⟩ | ⟨i, b, rest, hb, rfl, hrest⟩)
        . exact ⟨0, a, rest, rfl, rfl, hrest⟩
        . refine ⟨i + 1, b, rest, hb, ?_, hrest⟩
          congr 1
          omega
      . rintro ⟨i, b, rest, hb, rfl, hrest⟩
        cases i with
        | zero =>
          cases hb
          exact .inl ⟨rest, rfl, hrest⟩
        | succ i =>
          refine .inr ⟨i, b, rest, hb, ?_, hrest⟩
          congr 1
          omega
    . rintro _ _ _ _ ⟨rest, rfl, _⟩ ⟨i, b, rest', _, rfl, _⟩
      exact List.cons_lt_cons_iff.2 (.inl (by omega))

/--
What stands at places in the members of a list stands in the list at the number of the member, followed by the
place in the member.
-/
theorem flatMap {f : α → List ε} {At : α → List Nat → ε → Prop} (as : List α)
    (h : ∀ a ∈ as, InOrder (At a) (f a))
    : InOrder (fun place e => ∃ i a rest, as[i]? = some a ∧ place = i :: rest ∧ At a rest e)
        (as.flatMap f) := by
  simpa using flatMap_from as h 0

theorem members (as : List α) : InOrder (fun place a => ∃ i, as[i]? = some a ∧ place = [i]) as := by
  have hall := flatMap as fun a _ => singleton [] a
  rw [List.flatMap_singleton'] at hall
  apply hall.congr
  intro place a
  constructor
  . rintro ⟨i, _, _, ha, rfl, rfl, rfl⟩
    exact ⟨i, ha, rfl⟩
  . rintro ⟨i, ha, rfl⟩
    exact ⟨i, a, [], ha, rfl, rfl, rfl⟩

theorem filterMap (h : InOrder At l) (f : ε → Option α)
    : InOrder (fun place a => ∃ e, At place e ∧ f e = some a) (l.filterMap f) := by
  obtain ⟨placed, rfl, hsorted, hmem⟩ := h
  refine ⟨placed.filterMap fun entry => (f entry.2).map fun a => (entry.1, a), ?_, ?_, ?_⟩
  . rw [List.map_filterMap]
    rw [List.filterMap_map]
    congr 1
    funext entry
    simp [Function.comp_def]
  . rw [List.pairwise_filterMap]
    apply hsorted.imp
    rintro ⟨place, e⟩ ⟨other, e'⟩ hlt _ ha _ hb
    obtain ⟨_, _, rfl⟩ := Option.map_eq_some_iff.1 ha
    obtain ⟨_, _, rfl⟩ := Option.map_eq_some_iff.1 hb
    exact hlt
  . intro place a
    simp only [List.mem_filterMap, Option.map_eq_some_iff, Prod.exists, Prod.mk.injEq, ← hmem]
    constructor
    . rintro ⟨_, e, he, _, ha, rfl, rfl⟩
      exact ⟨e, he, ha⟩
    . rintro ⟨e, he, ha⟩
      exact ⟨place, e, he, a, ha, rfl, rfl⟩

theorem map (h : InOrder At l) (f : ε → α)
    : InOrder (fun place a => ∃ e, At place e ∧ f e = a) (l.map f) := by
  have hmap := h.filterMap (some ∘ f)
  rw [List.filterMap_eq_map] at hmap
  simpa using hmap

theorem ofOption (o : Option α) {f : α → List ε} {At : α → List Nat → ε → Prop} (h : ∀ a, InOrder (At a) (f a))
    : InOrder (fun place e => ∃ a, o = some a ∧ At a place e) (o.toList.flatMap f) := by
  cases o with
  | none => exact nil (by simp)
  | some a =>
    rw [Option.toList_some]
    rw [List.flatMap_singleton]
    simpa using h a

theorem guarded (h : InOrder At l) (c : Prop) [Decidable c]
    : InOrder (fun place e => ¬ c ∧ At place e) (if c then [] else l) := by
  split
  . next hc => exact nil (by simp [hc])
  . next hc => simpa [hc] using h

theorem faultsOf (outcome : Except ε α)
    : InOrder (fun place e => place = [] ∧ outcome = .error e) (faultsOf outcome) := by
  cases outcome with
  | ok => exact nil (by simp)
  | error e => simpa [BackendPolicy.faultsOf, eq_comm] using singleton [] e

/--
What is found first stands behind places where nothing is found.
-/
theorem findSome? (h : InOrder At l) (f : ε → Option α)
    : InOrder
        (fun place a =>
          ∃ e, At place e ∧ f e = some a ∧ ∀ other e', At other e' → other < place → f e' = none)
        (l.findSome? f).toList := by
  obtain ⟨placed, rfl, hsorted, hmem⟩ := h
  simp only [← hmem]
  rw [List.findSome?_map]
  cases hfind : placed.findSome? (f ∘ Prod.snd) with
  | none =>
    rw [List.findSome?_eq_none_iff] at hfind
    apply nil
    rintro place a ⟨e, he, ha, _⟩
    have hnone := hfind _ he
    simp [ha] at hnone
  | some a =>
    obtain ⟨before, ⟨place, e⟩, after, rfl, ha, hbefore⟩ := List.findSome?_eq_some_iff.1 hfind
    obtain ⟨_, hrest, hlt⟩ := List.pairwise_append.1 hsorted
    have hafter := (List.pairwise_cons.1 hrest).1
    refine ⟨[(place, a)], rfl, List.pairwise_singleton _ _, ?_⟩
    intro other b
    rw [List.mem_singleton]
    constructor
    . rintro ⟨⟩
      refine ⟨e, by simp, ha, ?_⟩
      intro other e' hmem hother
      obtain hmem | hmem := List.mem_append.1 hmem
      . exact hbefore _ hmem
      . obtain heq | hmem := List.mem_cons.1 hmem
        . obtain ⟨rfl, _⟩ := Prod.mk.inj heq
          exact absurd hother (lt_irrefl _)
        . exact absurd hother (lt_asymm (hafter _ hmem))
    . rintro ⟨e', hmem, hb, hnone⟩
      -- What is found at another place would be behind the first one, where nothing may be found before it.
      obtain hmem | hmem := List.mem_append.1 hmem
      . have hbefore := hbefore _ hmem
        simp [hb] at hbefore
      . obtain heq | hmem := List.mem_cons.1 hmem
        . obtain ⟨rfl, rfl⟩ := Prod.mk.inj heq
          obtain rfl : b = a := Option.some.inj (hb.symm.trans ha)
          rfl
        . have hfirst := hnone place e (by simp) (hafter _ hmem)
          simp [hfirst] at ha

theorem filter_map (as : List α) (p : α → Bool) (f : α → ε)
    : InOrder (fun place e => ∃ i a, as[i]? = some a ∧ place = [i] ∧ p a ∧ e = f a)
        ((as.filter p).map f) := by
  rw [← List.filterMap_eq_map]
  rw [List.filterMap_filter]
  apply ((members as).filterMap _).congr
  intro place e
  simp only [Option.ite_none_right_eq_some, Function.comp_apply, Option.some.injEq]
  constructor
  . rintro ⟨a, ⟨i, ha, rfl⟩, hp, rfl⟩
    exact ⟨i, a, ha, rfl, hp, rfl⟩
  . rintro ⟨i, a, ha, rfl, hp, rfl⟩
    exact ⟨a, ⟨i, ha, rfl⟩, hp, rfl⟩

theorem eq_nil_iff (h : InOrder At l) : l = [] ↔ ∀ place e, ¬ At place e := by
  obtain ⟨placed, rfl, _, hmem⟩ := h
  simp only [← hmem]
  cases placed with
  | nil => simp
  | cons first rest =>
    simp only [List.map_cons, reduceCtorEq, false_iff]
    intro h
    exact h first.1 first.2 (by simp)

theorem exists_least (h : InOrder At l) (hat : ∃ place e, At place e)
    : ∃ place e, At place e ∧ ∀ other e', At other e' → place ≤ other := by
  obtain ⟨placed, rfl, hsorted, hmem⟩ := h
  simp only [← hmem] at *
  cases placed with
  | nil => simp at hat
  | cons first rest =>
    refine ⟨first.1, first.2, by simp, ?_⟩
    intro other e' hother
    obtain rfl | hrest := List.mem_cons.1 hother
    . exact le_refl _
    . exact le_of_lt ((List.pairwise_cons.1 hsorted).1 _ hrest)

theorem head?_eq_some_iff (h : InOrder At l) {e : ε}
    : l.head? = some e ↔ ∃ place, At place e ∧ ∀ other e', At other e' → place ≤ other := by
  obtain ⟨placed, rfl, hsorted, hmem⟩ := h
  simp only [← hmem]
  cases placed with
  | nil => simp
  | cons first rest =>
    have hfirst := (List.pairwise_cons.1 hsorted).1
    simp only [List.map_cons, List.head?_cons, Option.some.injEq]
    constructor
    . rintro rfl
      refine ⟨first.1, by simp, ?_⟩
      intro other e' hother
      obtain rfl | hrest := List.mem_cons.1 hother
      . exact le_refl _
      . exact le_of_lt (hfirst _ hrest)
    . rintro ⟨place, hplace, hleast⟩
      obtain rfl | hrest := List.mem_cons.1 hplace
      . rfl
      . have hle : place ≤ first.1 := hleast first.1 first.2 (by simp)
        exact absurd (hfirst _ hrest) (not_lt_of_ge hle)

end InOrder

end BackendPolicy
