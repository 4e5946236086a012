import BackendPolicy.Body.Content

/-!
This module contains the spans of a body. Extraction looks at a source text through the ranges of these spans and
in no other way.
-/

namespace BackendPolicy

mutual

def Structure.spans : Structure → List Span
  | .attribute _ _ span valueSpan => [span, valueSpan]
  | .block _ kindSpan labels body => kindSpan :: (labels.map Label.span ++ spansOf body)
termination_by structural s => s

def spansOf : Body → List Span
  | [] => []
  | s :: rest => s.spans ++ spansOf rest
termination_by structural body => body

end

variable {index other : LineIndex}

mutual

theorem extractInto_congr {body : Body} (h : ∀ span ∈ spansOf body, index.range span = other.range span)
    (schema : BodySchema) (done : BodyContent)
    : extractInto index schema done body = extractInto other schema done body := by
  cases body with
  | nil => rfl
  | cons s rest =>
    unfold spansOf at h
    obtain ⟨hs, hrest⟩ := List.forall_mem_append.1 h
    unfold extractInto
    rw [extractStructure_congr hs]
    simp only [extractInto_congr hrest]

theorem extractStructure_congr {s : Structure} (h : ∀ span ∈ s.spans, index.range span = other.range span)
    (schema : BodySchema) (done : BodyContent)
    : extractStructure index schema done s = extractStructure other schema done s := by
  rcases s with ⟨key, value, span, valueSpan⟩ | ⟨kind, kindSpan, labels, body⟩
  . have hspan := h span (by simp [Structure.spans])
    have hvalue := h valueSpan (by simp [Structure.spans])
    unfold extractStructure
    rw [hspan]
    rw [hvalue]
  . unfold Structure.spans at h
    obtain ⟨hkind, hrest⟩ := List.forall_mem_cons.1 h
    obtain ⟨hlabels, hbody⟩ := List.forall_mem_append.1 hrest
    have hranges : (labels.map fun label => index.range label.span)
        = labels.map fun label => other.range label.span :=
      List.map_congr_left (List.forall_mem_map.1 hlabels)
    unfold extractStructure
    simp only [hkind, hranges, extractInto_congr hbody]

end

theorem extract_congr {body : Body} (h : ∀ span ∈ spansOf body, index.range span = other.range span)
    (schema : BodySchema)
    : extract index schema body = extract other schema body :=
  extractInto_congr h schema .empty

end BackendPolicy
