import BackendPolicy.Body.Basic
import BackendPolicy.Proofs.Text.Boundary
import Mathlib.Data.List.Flatten

/-!
This module contains the places of the parts of a body in its source. `WellPlaced` says that the parts are placed one
behind the other, and that each of them covers whole characters.
-/

namespace BackendPolicy

structure Span.IsIn (span : Span) (text : List Char) : Prop where
  start_boundary : IsBoundary text span.start
  stop_boundary : IsBoundary text span.stop
  start_lt : span.start < span.stop

instance (span : Span) (text : List Char) : Decidable (span.IsIn text) :=
  decidable_of_iff (IsBoundary text span.start ∧ IsBoundary text span.stop ∧ span.start < span.stop)
    ⟨fun ⟨hstart, hstop, hlt⟩ => ⟨hstart, hstop, hlt⟩, fun ⟨hstart, hstop, hlt⟩ => ⟨hstart, hstop, hlt⟩⟩

structure Span.IsInside (span outer : Span) (text : List Char) : Prop where
  start_boundary : IsBoundary text span.start
  stop_boundary : IsBoundary text span.stop
  start_le : span.start ≤ span.stop
  start_ge : outer.start ≤ span.start
  stop_le : span.stop ≤ outer.stop

instance (span outer : Span) (text : List Char) : Decidable (span.IsInside outer text) :=
  decidable_of_iff
    (IsBoundary text span.start ∧ IsBoundary text span.stop ∧ span.start ≤ span.stop ∧ outer.start ≤ span.start
      ∧ span.stop ≤ outer.stop)
    ⟨fun ⟨hstart, hstop, hle, hge, hle'⟩ => ⟨hstart, hstop, hle, hge, hle'⟩,
      fun ⟨hstart, hstop, hle, hge, hle'⟩ => ⟨hstart, hstop, hle, hge, hle'⟩⟩

/--
A part of a body: an attribute with its value, or a word in the head of a block, which is its kind or a label.
-/
inductive Part where
  | definition (span valueSpan : Span)
  | word (span : Span)
deriving DecidableEq, Repr

namespace Part

def span : Part → Span
  | .definition span _ => span
  | .word span => span

def IsIn (text : List Char) : Part → Prop
  | .definition span valueSpan => span.IsIn text ∧ valueSpan.IsInside span text
  | .word span => span.IsIn text

instance (text : List Char) : (p : Part) → Decidable (p.IsIn text)
  | .definition _ _ => inferInstanceAs (Decidable (_ ∧ _))
  | .word _ => inferInstanceAs (Decidable (Span.IsIn _ _))

end Part

def headParts (kindSpan : Span) (labels : List Label) : List Part :=
  .word kindSpan :: labels.map fun label => .word label.span

mutual

def parts : Body → List Part
  | [] => []
  | s :: rest => structureParts s ++ parts rest
termination_by structural body => body

def structureParts : Structure → List Part
  | .attribute _ _ span valueSpan => [.definition span valueSpan]
  | .block _ kindSpan labels body => headParts kindSpan labels ++ parts body
termination_by structural s => s

end

/--
Whether parts are placed in a text one behind the other.
-/
structure ArePlaced (text : List Char) (ps : List Part) : Prop where
  isIn : ∀ p ∈ ps, p.IsIn text
  ordered : ps.Pairwise fun p q => p.span.stop ≤ q.span.start

/--
Whether the spans of a body are what parsing a text gives.
-/
def WellPlaced (text : List Char) (body : Body) : Prop :=
  ArePlaced text (parts body)

instance (text : List Char) (body : Body) : Decidable (WellPlaced text body) :=
  decidable_of_iff
    ((∀ p ∈ parts body, p.IsIn text) ∧ (parts body).Pairwise fun p q => p.span.stop ≤ q.span.start)
    ⟨fun ⟨hin, hordered⟩ => ⟨hin, hordered⟩, fun ⟨hin, hordered⟩ => ⟨hin, hordered⟩⟩

def headStop (kindSpan : Span) (labels : List Label) : Nat :=
  ((labels.getLast?.map Label.span).getD kindSpan).stop

theorem parts_eq_flatMap (body : Body) : parts body = body.flatMap structureParts := by
  induction body with
  | nil => rfl
  | cons s rest ih =>
    rw [parts]
    rw [ih]
    rw [List.flatMap_cons]

theorem structureParts_sublist_parts {body : Body} {s : Structure} (h : s ∈ body)
    : (structureParts s).Sublist (parts body) := by
  rw [parts_eq_flatMap]
  have := (List.singleton_sublist.2 h).flatMap structureParts
  simpa using this

section

variable {body inner : Body} {kind : String} {kindSpan : Span} {labels : List Label}

theorem headParts_sublist_structureParts
    : (headParts kindSpan labels).Sublist (structureParts (.block kind kindSpan labels inner)) := by
  rw [structureParts]
  apply List.sublist_append_left

theorem innerParts_sublist_structureParts
    : (parts inner).Sublist (structureParts (.block kind kindSpan labels inner)) := by
  rw [structureParts]
  apply List.sublist_append_right

theorem headParts_sublist_parts (h : .block kind kindSpan labels inner ∈ body)
    : (headParts kindSpan labels).Sublist (parts body) :=
  headParts_sublist_structureParts.trans (structureParts_sublist_parts h)

theorem innerParts_sublist_parts (h : .block kind kindSpan labels inner ∈ body)
    : (parts inner).Sublist (parts body) :=
  innerParts_sublist_structureParts.trans (structureParts_sublist_parts h)

end

theorem Part.IsIn.span_isIn {text : List Char} {p : Part} (h : p.IsIn text) : p.span.IsIn text := by
  cases p with
  | definition => exact h.1
  | word => exact h

namespace ArePlaced

variable {text : List Char} {ps qs : List Part}

theorem sublist (h : ArePlaced text ps) (hsub : qs.Sublist ps) : ArePlaced text qs :=
  ⟨fun p hp => h.isIn p (hsub.subset hp), h.ordered.sublist hsub⟩

theorem stop_le_start (h : ArePlaced text (ps ++ qs)) {p q : Part} (hp : p ∈ ps) (hq : q ∈ qs)
    : p.span.stop ≤ q.span.start :=
  (List.pairwise_append.1 h.ordered).2.2 p hp q hq

end ArePlaced

namespace WellPlaced

variable {text : List Char} {body inner : Body} {s : Structure} {kind : String} {kindSpan : Span}
  {labels : List Label}

theorem arePlaced_structureParts (h : WellPlaced text body) (hs : s ∈ body)
    : ArePlaced text (structureParts s) :=
  h.sublist (structureParts_sublist_parts hs)

theorem of_mem (h : WellPlaced text body) (hs : .block kind kindSpan labels inner ∈ body)
    : WellPlaced text inner :=
  h.sublist (innerParts_sublist_parts hs)

end WellPlaced

theorem mem_headParts_of_mem {kindSpan : Span} {labels : List Label} {label : Label} (h : label ∈ labels)
    : .word label.span ∈ headParts kindSpan labels :=
  List.mem_cons_of_mem _ (List.mem_map_of_mem h)

theorem exists_headParts_eq (kindSpan : Span) (labels : List Label)
    : ∃ before last, headParts kindSpan labels = before ++ [last] ∧ last.span.stop = headStop kindSpan labels := by
  obtain rfl | ⟨before, label, rfl⟩ := labels.eq_nil_or_concat
  . exact ⟨[], .word kindSpan, rfl, rfl⟩
  . refine ⟨headParts kindSpan before, .word label.span, ?_, ?_⟩
    . simp [headParts]
    . simp [headStop, Part.span]

namespace ArePlaced

variable {text : List Char} {kindSpan : Span} {labels : List Label}

theorem stop_le_headStop (h : ArePlaced text (headParts kindSpan labels)) {p : Part}
    (hp : p ∈ headParts kindSpan labels)
    : p.span.stop ≤ headStop kindSpan labels := by
  obtain ⟨before, last, heq, hstop⟩ := exists_headParts_eq kindSpan labels
  rw [heq] at h hp
  rw [← hstop]
  obtain hp | hp := List.mem_append.1 hp
  . have horder := h.stop_le_start hp (List.mem_singleton_self last)
    have hlast := (h.isIn last (by simp)).span_isIn.start_lt
    omega
  . rw [List.mem_singleton] at hp
    rw [hp]

theorem isBoundary_headStop (h : ArePlaced text (headParts kindSpan labels))
    : IsBoundary text (headStop kindSpan labels) := by
  obtain ⟨before, last, heq, hstop⟩ := exists_headParts_eq kindSpan labels
  rw [← hstop]
  apply (h.isIn last _).span_isIn.stop_boundary
  rw [heq]
  simp

end ArePlaced

end BackendPolicy
