/-!
This module contains stable sorting by an order in which different values may stand on both sides of each
other. Such values keep their order, and that determines the sorted list.
-/

namespace BackendPolicy

variable {α : Type} {le : α → α → Bool}

theorem filter_mergeSort (htrans : ∀ a b c, le a b → le b c → le a c) (htotal : ∀ a b, le a b || le b a)
    {p : α → Bool} (hp : ∀ a b, p a → p b → le a b) (l : List α)
    : (l.mergeSort le).filter p = l.filter p := by
  have hpairwise : (l.filter p).Pairwise (fun a b => le a b) := by
    apply List.pairwise_of_forall_mem_list
    intro a ha b hb
    exact hp a b (List.mem_filter.1 ha).2 (List.mem_filter.1 hb).2
  have hsublist := List.sublist_mergeSort htrans htotal hpairwise List.filter_sublist
  have hfilter := hsublist.filter p
  rw [List.filter_filter] at hfilter
  simp only [Bool.and_self] at hfilter
  apply (hfilter.eq_of_length _).symm
  exact ((List.mergeSort_perm l le).filter p).length_eq.symm

/--
Two sorted lists are equal if for every value they have the same values of its kind in the same order. The
kind of a value takes in all values that stand on both sides of it.
-/
theorem eq_of_sorted_of_filter_eq (same : α → α → Bool) (hrefl : ∀ a, le a a) (hsame : ∀ a, same a a)
    (hkind : ∀ a b, le a b → le b a → same a b) {l k : List α} (hl : l.Pairwise (fun a b => le a b))
    (hk : k.Pairwise (fun a b => le a b)) (hfilter : ∀ a, l.filter (same a) = k.filter (same a))
    : l = k := by
  induction l generalizing k with
  | nil =>
    cases k with
    | nil => rfl
    | cons b k =>
      have hb := hfilter b
      rw [List.filter_cons_of_pos (hsame b)] at hb
      contradiction
  | cons a l ih =>
    cases k with
    | nil =>
      have ha := hfilter a
      rw [List.filter_cons_of_pos (hsame a)] at ha
      contradiction
    | cons b k =>
      obtain ⟨hal, hltail⟩ := List.pairwise_cons.1 hl
      obtain ⟨hbk, hktail⟩ := List.pairwise_cons.1 hk
      have hba : le b a := by
        have hmem : a ∈ (b :: k).filter (same a) := by
          rw [← hfilter]
          simp [hsame]
        obtain rfl | hmem := List.mem_cons.1 (List.mem_filter.1 hmem).1
        . exact hrefl _
        . exact hbk a hmem
      have hab : le a b := by
        have hmem : b ∈ (a :: l).filter (same b) := by
          rw [hfilter]
          simp [hsame]
        obtain rfl | hmem := List.mem_cons.1 (List.mem_filter.1 hmem).1
        . exact hrefl _
        . exact hal b hmem
      have hheads := hfilter a
      rw [List.filter_cons_of_pos (hsame a)] at hheads
      rw [List.filter_cons_of_pos (hkind a b hab hba)] at hheads
      obtain ⟨rfl, _⟩ := List.cons.inj hheads
      congr 1
      apply ih hltail hktail
      intro c
      have hc := hfilter c
      by_cases h : same c a
      . rw [List.filter_cons_of_pos h] at hc
        rw [List.filter_cons_of_pos h] at hc
        exact (List.cons.inj hc).2
      . rw [List.filter_cons_of_neg h] at hc
        rw [List.filter_cons_of_neg h] at hc
        exact hc

end BackendPolicy
