import BackendPolicy.Proofs.Body.Exactness
import BackendPolicy.Proofs.Hcl.Placement
import BackendPolicy.Proofs.Source.Order

/-!
This module contains the ranges of extracted content. The main statement is `extract_faithful`: if the parts of a
body are placed one behind the other in a source, the ranges of what is extracted from it have the spans of their
parts, and they are ordered and nested as the parts are.
-/

namespace BackendPolicy

namespace Range

structure IsAt (r : Range) (index : LineIndex) (span : Span) : Prop where
  filename_eq : r.filename = index.filename
  start_eq : r.start.byte = span.start
  stop_eq : r.stop.byte = span.stop
  start_le : r.start ≤ r.stop
  stop_le : r.stop.byte ≤ index.size

structure Within (r outer : Range) : Prop where
  start_le : outer.start ≤ r.start
  stop_le : r.stop ≤ outer.stop

def Before (r s : Range) : Prop :=
  r.stop ≤ s.start

end Range

/--
Whether a range is one of those in a content, at any depth.
-/
inductive BodyContent.HasRange : BodyContent → Range → Prop where
  | ofAttribute {content : BodyContent} {name : String} {found : Attribute}
      (h : content.attributes.get? name = some found) : HasRange content found.range
  | ofValue {content : BodyContent} {name : String} {found : Attribute}
      (h : content.attributes.get? name = some found) : HasRange content found.valueRange
  | ofKind {content : BodyContent} {block : Block} (h : block ∈ content.blocks)
      : HasRange content block.kindRange
  | ofLabel {content : BodyContent} {block : Block} {r : Range} (h : block ∈ content.blocks)
      (hr : r ∈ block.labelRanges) : HasRange content r
  | ofHead {content : BodyContent} {block : Block} (h : block ∈ content.blocks)
      : HasRange content block.headRange
  | ofBody {content : BodyContent} {block : Block} {r : Range} (h : block ∈ content.blocks)
      (hr : HasRange block.body r) : HasRange content r

/--
Whether the ranges of an extracted block are those of a head in a source: the kind, behind it the labels one
behind the other, and the range from the start of the kind to the end of the last label.
-/
structure HeadIsAt (index : LineIndex) (kindSpan : Span) (labels : List Label) (found : Block) : Prop where
  kind : found.kindRange.IsAt index kindSpan
  each_label : List.Forall₂ (fun label r => Range.IsAt r index label.span) labels found.labelRanges
  head : found.headRange.IsAt index ⟨kindSpan.start, headStop kindSpan labels⟩
  head_start : found.headRange.start = found.kindRange.start
  head_stop : found.headRange.stop = (found.labelRanges.getLast?.getD found.kindRange).stop
  kind_within : found.kindRange.Within found.headRange
  labels_within : ∀ r ∈ found.labelRanges, r.Within found.headRange
  labels_behind : ∀ r ∈ found.labelRanges, found.kindRange.Before r
  labels_increasing : found.labelRanges.Pairwise fun r s => r.start < s.start ∧ r.Before s

structure AttributeIsAt (index : LineIndex) (span valueSpan : Span) (found : Attribute) : Prop where
  range : found.range.IsAt index span
  value : found.valueRange.IsAt index valueSpan
  within : found.valueRange.Within found.range

/--
Whether the ranges of a content are faithful to the body that a schema selected it from. Attributes and heads of
blocks are where their sources are. Of two blocks the first one is before the second one, with all that is in it.
What is in a block is behind its head, and is faithful to the body of its source.
-/
inductive Faithful (index : LineIndex) : BodySchema → Body → BodyContent → Prop where
  | intro {schema : BodySchema} {body : Body} {content : BodyContent}
      (attributes : ∀ name found,
        content.attributes.get? name = some found →
        ∃ span valueSpan,
          .attribute name found.value span valueSpan ∈ body ∧ AttributeIsAt index span valueSpan found)
      (count : content.blocks.length = (sourceBlocks schema body).length)
      (heads : ∀ (i : Nat) kind kindSpan labels inner found,
        (sourceBlocks schema body)[i]? = some (.block kind kindSpan labels inner) →
        content.blocks[i]? = some found →
        HeadIsAt index kindSpan labels found)
      (siblings : content.blocks.Pairwise fun b d =>
        b.headRange.Before d.headRange ∧ ∀ r, b.body.HasRange r → r.Before d.headRange)
      (nested : ∀ block ∈ content.blocks, ∀ r, block.body.HasRange r → block.headRange.Before r)
      (closed : ∀ (i : Nat) kind kindSpan labels inner found entry,
        (sourceBlocks schema body)[i]? = some (.block kind kindSpan labels inner) →
        content.blocks[i]? = some found →
        schema.blocks.find? (fun entry => entry.kind = kind) = some entry →
        entry.body = none →
        found.body = .empty)
      (opened : ∀ (i : Nat) kind kindSpan labels inner found entry innerSchema,
        (sourceBlocks schema body)[i]? = some (.block kind kindSpan labels inner) →
        content.blocks[i]? = some found →
        schema.blocks.find? (fun entry => entry.kind = kind) = some entry →
        entry.body = some innerSchema →
        Faithful index innerSchema inner found.body)
      : Faithful index schema body content

section

variable {filename source : String} {kind : String} {kindSpan : Span} {labels : List Label}

theorem WellPlaced.stop_le_start_of_lt {text : List Char} {body : Body} (h : WellPlaced text body)
    {schema : BodySchema} {s t : Structure} {i j : Nat}
    (hs : (sourceBlocks schema body)[i]? = some s) (ht : (sourceBlocks schema body)[j]? = some t) (hij : i < j)
    {p q : Part} (hp : p ∈ structureParts s) (hq : q ∈ structureParts t)
    : p.span.stop ≤ q.span.start := by
  have hordered := h.ordered
  rw [parts_eq_flatMap] at hordered
  have hsub : (sourceBlocks schema body).Sublist body := List.filter_sublist
  have hpairs := (List.pairwise_flatMap.1 (hordered.sublist (hsub.flatMap _))).2
  obtain ⟨hi, rfl⟩ := List.getElem?_eq_some_iff.1 hs
  obtain ⟨hj, rfl⟩ := List.getElem?_eq_some_iff.1 ht
  exact List.pairwise_iff_getElem.1 hpairs i j hi hj hij p hp q hq

theorem headOf_eq_range (index : LineIndex) (kindSpan : Span) (labels : List Label)
    : headOf index kindSpan labels = index.range (some ⟨kindSpan.start, headStop kindSpan labels⟩) := by
  unfold headOf headRange headStop
  rw [List.getLast?_map]
  cases labels.getLast? <;> rfl

namespace LineIndex

theorem byte_pos_of_isBoundary {offset : Nat} (h : IsBoundary source.toList offset)
    : ((ofSource filename source).pos offset).byte = offset :=
  Nat.min_eq_left h.le

theorem range_isAt {span : Span} (hstart : IsBoundary source.toList span.start)
    (hstop : IsBoundary source.toList span.stop) (hle : span.start ≤ span.stop)
    : ((ofSource filename source).range (some span)).IsAt (ofSource filename source) span where
  filename_eq := rfl
  start_eq := byte_pos_of_isBoundary hstart
  stop_eq := byte_pos_of_isBoundary hstop
  start_le := pos_le_pos_of_isBoundary filename hstart hstop hle
  stop_le := Nat.min_le_right _ _

theorem range_isAt_of_isIn {span : Span} (h : span.IsIn source.toList)
    : ((ofSource filename source).range (some span)).IsAt (ofSource filename source) span :=
  range_isAt h.start_boundary h.stop_boundary (Nat.le_of_lt h.start_lt)

theorem range_within {span outer : Span} (h : span.IsInside outer source.toList)
    (houter : outer.IsIn source.toList)
    : ((ofSource filename source).range (some span)).Within ((ofSource filename source).range (some outer)) where
  start_le := pos_le_pos_of_isBoundary filename houter.start_boundary h.start_boundary h.start_ge
  stop_le := pos_le_pos_of_isBoundary filename h.stop_boundary houter.stop_boundary h.stop_le

end LineIndex

open LineIndex

theorem HasHead.headIsAt {found : Block} (h : HasHead (ofSource filename source) kind kindSpan labels found)
    (hplaced : ArePlaced source.toList (headParts kindSpan labels))
    : HeadIsAt (ofSource filename source) kindSpan labels found := by
  have hkind : kindSpan.IsIn source.toList := (hplaced.isIn (.word kindSpan) List.mem_cons_self).span_isIn
  have hlabel (label : Label) (hlabel : label ∈ labels) : label.span.IsIn source.toList :=
    (hplaced.isIn (.word label.span) (mem_headParts_of_mem hlabel)).span_isIn
  have hstop := hplaced.isBoundary_headStop
  have hkindStop : kindSpan.stop ≤ headStop kindSpan labels :=
    hplaced.stop_le_headStop (p := .word kindSpan) List.mem_cons_self
  obtain ⟨hbehind, hincreasing⟩ := List.pairwise_cons.1 hplaced.ordered
  rw [List.pairwise_map] at hincreasing
  have hkindLt := hkind.start_lt
  have hhead := h.headRange_eq
  rw [headOf_eq_range] at hhead
  refine ⟨?_, ?_, ?_, ?_, ?_, ?_, ?_, ?_, ?_⟩
  . rw [h.kindRange_eq]
    exact range_isAt_of_isIn hkind
  . rw [h.labelRanges_eq]
    rw [List.forall₂_map_right_iff]
    rw [List.forall₂_same]
    intro label hmem
    exact range_isAt_of_isIn (hlabel label hmem)
  . rw [hhead]
    refine range_isAt ?_ ?_ ?_
    . exact hkind.start_boundary
    . exact hstop
    . dsimp only
      omega
  . rw [hhead]
    rw [h.kindRange_eq]
    rfl
  . rw [hhead]
    rw [h.kindRange_eq]
    rw [h.labelRanges_eq]
    unfold headStop
    rw [List.getLast?_map]
    cases labels.getLast? <;> rfl
  . rw [hhead]
    rw [h.kindRange_eq]
    exact ⟨le_refl _, pos_le_pos_of_isBoundary filename hkind.stop_boundary hstop hkindStop⟩
  . rw [hhead]
    rw [h.labelRanges_eq]
    intro r hr
    obtain ⟨label, hmem, rfl⟩ := List.mem_map.1 hr
    have hstart : kindSpan.stop ≤ label.span.start :=
      hbehind (.word label.span) (List.mem_map_of_mem hmem)
    have hle : label.span.stop ≤ headStop kindSpan labels :=
      hplaced.stop_le_headStop (p := .word label.span) (mem_headParts_of_mem hmem)
    constructor
    . apply pos_le_pos_of_isBoundary filename hkind.start_boundary (hlabel label hmem).start_boundary
      omega
    . exact pos_le_pos_of_isBoundary filename (hlabel label hmem).stop_boundary hstop hle
  . rw [h.kindRange_eq]
    rw [h.labelRanges_eq]
    intro r hr
    obtain ⟨label, hmem, rfl⟩ := List.mem_map.1 hr
    apply pos_le_pos_of_isBoundary filename hkind.stop_boundary (hlabel label hmem).start_boundary
    exact hbehind (.word label.span) (List.mem_map_of_mem hmem)
  . rw [h.labelRanges_eq]
    rw [List.pairwise_map]
    apply hincreasing.imp_of_mem
    intro label other hmem hother hle
    have hlt := (hlabel label hmem).start_lt
    constructor
    . apply (pos_lt_pos_iff_of_isBoundary filename (hlabel label hmem).start_boundary
        (hlabel other hother).start_boundary).2
      exact Nat.lt_of_lt_of_le hlt hle
    . exact pos_le_pos_of_isBoundary filename (hlabel label hmem).stop_boundary
        (hlabel other hother).start_boundary hle

theorem IsLastAttribute.exists_source {body : Body} {name : String} {found : Attribute}
    (h : IsLastAttribute (ofSource filename source) body name found) (hbody : WellPlaced source.toList body)
    : ∃ span valueSpan,
        .attribute name found.value span valueSpan ∈ body
          ∧ span.IsIn source.toList
          ∧ valueSpan.IsInside span source.toList
          ∧ found.range = (ofSource filename source).range (some span)
          ∧ found.valueRange = (ofSource filename source).range (some valueSpan) := by
  obtain ⟨before, value, span, valueSpan, after, rfl, _, rfl⟩ := h
  have hmem : Structure.attribute name value span valueSpan
      ∈ before ++ .attribute name value span valueSpan :: after := by simp
  obtain ⟨hspan, hvalue⟩ :=
    (hbody.arePlaced_structureParts hmem).isIn (.definition span valueSpan) (by simp [structureParts])
  exact ⟨span, valueSpan, hmem, hspan, hvalue, rfl, rfl⟩

theorem Selected.exists_source {index : LineIndex} {schema : BodySchema} {body : Body} {content : BodyContent}
    (h : Selected index schema body content) {i : Nat} {found : Block} (hfound : content.blocks[i]? = some found)
    : ∃ kind kindSpan labels inner entry,
        (sourceBlocks schema body)[i]? = some (.block kind kindSpan labels inner)
          ∧ schema.blocks.find? (fun entry => entry.kind = kind) = some entry
          ∧ .block kind kindSpan labels inner ∈ body
          ∧ HasHead index kind kindSpan labels found := by
  obtain ⟨_, _, count, heads, _, _⟩ := h
  have hlt := (List.getElem?_eq_some_iff.1 hfound).1
  have hs := List.getElem?_eq_getElem (Nat.lt_of_lt_of_eq hlt count)
  obtain ⟨kind, kindSpan, labels, inner, entry, heq, hentry⟩ := exists_block_of_getElem? hs
  rw [heq] at hs
  exact ⟨kind, kindSpan, labels, inner, entry, hs, hentry, List.mem_of_mem_filter (List.mem_of_getElem? hs),
    heads i _ _ _ _ _ hs hfound⟩

theorem not_hasRange_empty (r : Range) : ¬ BodyContent.empty.HasRange r := by
  intro h
  cases h with
  | ofAttribute h => contradiction
  | ofValue h => contradiction
  | ofKind h => contradiction
  | ofLabel h => contradiction
  | ofHead h => contradiction
  | ofBody h => contradiction

/--
Whether a range starts no earlier than one of some parts and ends no later than one of them.
-/
def LiesAmong (index : LineIndex) (ps : List Part) (r : Range) : Prop :=
  ∃ p ∈ ps, ∃ q ∈ ps, index.pos p.span.start ≤ r.start ∧ r.stop ≤ index.pos q.span.stop

theorem LiesAmong.mono {index : LineIndex} {ps qs : List Part} {r : Range} (h : LiesAmong index ps r)
    (hsub : ps.Sublist qs)
    : LiesAmong index qs r := by
  obtain ⟨p, hp, q, hq, hr⟩ := h
  exact ⟨p, hsub.subset hp, q, hsub.subset hq, hr⟩

theorem liesAmong_range {index : LineIndex} {ps : List Part} {p : Part} (hp : p ∈ ps)
    : LiesAmong index ps (index.range (some p.span)) :=
  ⟨p, hp, p, hp, le_refl _, le_refl _⟩

theorem liesAmong_headOf (index : LineIndex) (kindSpan : Span) (labels : List Label)
    : LiesAmong index (headParts kindSpan labels) (headOf index kindSpan labels) := by
  obtain ⟨before, last, heq, hstop⟩ := exists_headParts_eq kindSpan labels
  rw [headOf_eq_range]
  rw [← hstop]
  refine ⟨.word kindSpan, List.mem_cons_self, last, ?_, le_refl _, le_refl _⟩
  rw [heq]
  simp

theorem Selected.liesAmong {schema : BodySchema} {body : Body} {content : BodyContent}
    (h : Selected (ofSource filename source) schema body content) (hbody : WellPlaced source.toList body)
    : ∀ r, content.HasRange r → LiesAmong (ofSource filename source) (parts body) r := by
  induction h with
  | @intro schema body content names own count heads closed opened ih =>
    have hselected := Selected.intro names own count heads closed opened
    intro r hr
    cases hr with
    | ofAttribute hfound =>
      obtain ⟨span, valueSpan, hmem, _, _, hrange, _⟩ := (own _ _ hfound).exists_source hbody
      rw [hrange]
      have hp : .definition span valueSpan ∈ parts body :=
        (structureParts_sublist_parts hmem).subset (by simp [structureParts])
      exact liesAmong_range hp
    | ofValue hfound =>
      obtain ⟨span, valueSpan, hmem, hspan, hvalue, _, hrange⟩ := (own _ _ hfound).exists_source hbody
      rw [hrange]
      have hp : .definition span valueSpan ∈ parts body :=
        (structureParts_sublist_parts hmem).subset (by simp [structureParts])
      have hwithin : ((ofSource filename source).range (some valueSpan)).Within _ := range_within hvalue hspan
      exact ⟨_, hp, _, hp, hwithin.start_le, hwithin.stop_le⟩
    | ofKind hblock =>
      obtain ⟨i, hi⟩ := List.mem_iff_getElem?.1 hblock
      obtain ⟨kind, kindSpan, labels, inner, entry, _, _, hmem, hhead⟩ := hselected.exists_source hi
      rw [hhead.kindRange_eq]
      have hp : .word kindSpan ∈ headParts kindSpan labels := List.mem_cons_self
      exact (liesAmong_range hp).mono (headParts_sublist_parts hmem)
    | ofLabel hblock hlabel =>
      obtain ⟨i, hi⟩ := List.mem_iff_getElem?.1 hblock
      obtain ⟨kind, kindSpan, labels, inner, entry, _, _, hmem, hhead⟩ := hselected.exists_source hi
      rw [hhead.labelRanges_eq] at hlabel
      obtain ⟨label, hmemLabel, rfl⟩ := List.mem_map.1 hlabel
      exact (liesAmong_range (mem_headParts_of_mem hmemLabel)).mono (headParts_sublist_parts hmem)
    | ofHead hblock =>
      obtain ⟨i, hi⟩ := List.mem_iff_getElem?.1 hblock
      obtain ⟨kind, kindSpan, labels, inner, entry, _, _, hmem, hhead⟩ := hselected.exists_source hi
      rw [hhead.headRange_eq]
      exact (liesAmong_headOf _ kindSpan labels).mono (headParts_sublist_parts hmem)
    | ofBody hblock hr =>
      obtain ⟨i, hi⟩ := List.mem_iff_getElem?.1 hblock
      obtain ⟨kind, kindSpan, labels, inner, entry, hs, hentry, hmem, _⟩ := hselected.exists_source hi
      cases hinner : entry.body with
      | none =>
        rw [closed i _ _ _ _ _ entry hs hi hentry hinner] at hr
        exact absurd hr (not_hasRange_empty r)
      | some innerSchema =>
        have := ih i _ _ _ _ _ entry innerSchema hs hi hentry hinner (hbody.of_mem hmem) r hr
        exact this.mono (innerParts_sublist_parts hmem)

theorem pos_stop_le_pos_start {p q : Part} (hp : p.IsIn source.toList) (hq : q.IsIn source.toList)
    (h : p.span.stop ≤ q.span.start)
    : (ofSource filename source).pos p.span.stop ≤ (ofSource filename source).pos q.span.start :=
  pos_le_pos_of_isBoundary filename hp.span_isIn.stop_boundary hq.span_isIn.start_boundary h

theorem LiesAmong.before {ps qs : List Part} {r s : Range}
    (hr : LiesAmong (ofSource filename source) ps r) (hs : LiesAmong (ofSource filename source) qs s)
    (hps : ∀ p ∈ ps, p.IsIn source.toList) (hqs : ∀ q ∈ qs, q.IsIn source.toList)
    (h : ∀ p ∈ ps, ∀ q ∈ qs, p.span.stop ≤ q.span.start)
    : r.Before s := by
  obtain ⟨_, _, p, hp, _, hstop⟩ := hr
  obtain ⟨q, hq, _, _, hstart, _⟩ := hs
  calc r.stop
    _ ≤ (ofSource filename source).pos p.span.stop := hstop
    _ ≤ (ofSource filename source).pos q.span.start :=
      pos_stop_le_pos_start (hps p hp) (hqs q hq) (h p hp q hq)
    _ ≤ s.start := hstart

theorem Selected.exists_parts {schema : BodySchema} {body : Body} {content : BodyContent}
    (h : Selected (ofSource filename source) schema body content) (hbody : WellPlaced source.toList body) {i : Nat}
    {found : Block} (hfound : content.blocks[i]? = some found)
    : ∃ kind kindSpan labels inner,
        (sourceBlocks schema body)[i]? = some (.block kind kindSpan labels inner)
          ∧ .block kind kindSpan labels inner ∈ body
          ∧ LiesAmong (ofSource filename source) (headParts kindSpan labels) found.headRange
          ∧ ∀ r, found.body.HasRange r → LiesAmong (ofSource filename source) (parts inner) r := by
  obtain ⟨kind, kindSpan, labels, inner, entry, hs, hentry, hmem, hhead⟩ := h.exists_source hfound
  refine ⟨kind, kindSpan, labels, inner, hs, hmem, ?_, ?_⟩
  . rw [hhead.headRange_eq]
    apply liesAmong_headOf
  . obtain ⟨_, _, _, _, closed, opened⟩ := h
    intro r hr
    cases hinner : entry.body with
    | none =>
      rw [closed i _ _ _ _ _ entry hs hfound hentry hinner] at hr
      exact absurd hr (not_hasRange_empty r)
    | some innerSchema =>
      have hselected := opened i _ _ _ _ _ entry innerSchema hs hfound hentry hinner
      exact hselected.liesAmong (hbody.of_mem hmem) r hr

theorem Selected.faithful {schema : BodySchema} {body : Body} {content : BodyContent}
    (h : Selected (ofSource filename source) schema body content) (hbody : WellPlaced source.toList body)
    : Faithful (ofSource filename source) schema body content := by
  induction h with
  | @intro schema body content names own count heads closed opened ih =>
    have hselected := Selected.intro names own count heads closed opened
    refine .intro ?_ count ?_ ?_ ?_ closed ?_
    . intro name found hfound
      obtain ⟨span, valueSpan, hmem, hspan, hvalue, hrange, hvalueRange⟩ :=
        (own name found hfound).exists_source hbody
      refine ⟨span, valueSpan, hmem, ?_, ?_, ?_⟩
      . rw [hrange]
        exact range_isAt_of_isIn hspan
      . rw [hvalueRange]
        exact range_isAt hvalue.start_boundary hvalue.stop_boundary hvalue.start_le
      . rw [hrange]
        rw [hvalueRange]
        exact range_within hvalue hspan
    . intro i kind kindSpan labels inner found hs hfound
      have hmem : .block kind kindSpan labels inner ∈ body := List.mem_of_mem_filter (List.mem_of_getElem? hs)
      exact (heads i kind kindSpan labels inner found hs hfound).headIsAt
        (ArePlaced.sublist hbody (headParts_sublist_parts hmem))
    . rw [List.pairwise_iff_getElem]
      intro i j hi hj hij
      obtain ⟨kind, kindSpan, labels, inner, hs, hmem, hhead, hinside⟩ :=
        hselected.exists_parts hbody (List.getElem?_eq_getElem hi)
      obtain ⟨kind', kindSpan', labels', inner', ht, hmem', hhead', _⟩ :=
        hselected.exists_parts hbody (List.getElem?_eq_getElem hj)
      have hbefore {r : Range}
          (hr : LiesAmong (ofSource filename source) (structureParts (.block kind kindSpan labels inner)) r)
          : r.Before content.blocks[j].headRange := by
        apply hr.before (hhead'.mono headParts_sublist_structureParts)
        . exact (hbody.arePlaced_structureParts hmem).isIn
        . exact (hbody.arePlaced_structureParts hmem').isIn
        . intro p hp q hq
          exact hbody.stop_le_start_of_lt hs ht hij hp hq
      constructor
      . exact hbefore (hhead.mono headParts_sublist_structureParts)
      . intro r hr
        exact hbefore ((hinside r hr).mono innerParts_sublist_structureParts)
    . intro block hblock r hr
      obtain ⟨i, hi⟩ := List.mem_iff_getElem?.1 hblock
      obtain ⟨kind, kindSpan, labels, inner, _, hmem, hhead, hinside⟩ := hselected.exists_parts hbody hi
      have hplaced := hbody.arePlaced_structureParts hmem
      rw [structureParts] at hplaced
      apply hhead.before (hinside r hr)
      . intro p hp
        exact hplaced.isIn p (List.mem_append_left _ hp)
      . intro p hp
        exact hplaced.isIn p (List.mem_append_right _ hp)
      . intro p hp q hq
        exact hplaced.stop_le_start hp hq
    . intro i kind kindSpan labels inner found entry innerSchema hs hfound hentry hinner
      have hmem : .block kind kindSpan labels inner ∈ body := List.mem_of_mem_filter (List.mem_of_getElem? hs)
      exact ih i kind kindSpan labels inner found entry innerSchema hs hfound hentry hinner (hbody.of_mem hmem)

/--
The ranges of a content are faithful to the body that it is extracted from, if the parts of the body are placed one
behind the other in the source. So they are in every file that is parsed.
-/
theorem extract_faithful (filename source : String) (schema : BodySchema)
    : (∀ body content,
        WellPlaced source.toList body →
        extract (ofSource filename source) schema body = .ok content →
        Faithful (ofSource filename source) schema body content)
      ∧ ∀ body, Hcl.parseFile source.toList = .ok body → WellPlaced source.toList body := by
  constructor
  . intro body content hbody h
    obtain ⟨_, rfl⟩ := (extract_eq_ok_iff _ _).1 h
    exact (select_selected schema body).faithful hbody
  . intro body h
    exact Hcl.wellPlaced_of_parseFile h

theorem extract_faithful_of_nested
    : let source := "site \"é\" b \x7b\n  url = \"€\"\n  peer \x7b k = 1 \x7d\n\x7d\nsite \"x\" y \x7b\n\x7d\n"
      let index := LineIndex.ofSource "a.tf" source
      let inner : BodySchema := {
        attributes := [{ name := "url" }]
        blocks := [{ kind := "peer", body := some (.ofAttributes ["k"]) }] }
      let schema : BodySchema := {
        blocks := [{ kind := "site", labelNames := ["name", "zone"], body := some inner }] }
      let body : Body := [
        .block "site" ⟨0, 4⟩ [⟨"é", ⟨5, 9⟩⟩, ⟨"b", ⟨10, 11⟩⟩] [
          .attribute "url" (.string "€") ⟨16, 27⟩ ⟨22, 27⟩,
          .block "peer" ⟨30, 34⟩ [] [.attribute "k" (.number (.int 1)) ⟨37, 42⟩ ⟨41, 42⟩]],
        .block "site" ⟨47, 51⟩ [⟨"x", ⟨52, 55⟩⟩, ⟨"y", ⟨56, 57⟩⟩] []]
      WellPlaced source.toList body
        ∧ extract index schema body = .ok (select index schema body)
        ∧ Faithful index schema body (select index schema body)
        ∧ ∃ parsed, Hcl.parseFile source.toList = .ok parsed ∧ WellPlaced source.toList parsed := by
  intro source index inner schema body
  obtain ⟨hfaithful, hplaced⟩ := extract_faithful "a.tf" source schema
  have hbody : WellPlaced source.toList body := by decide +kernel
  have h : extract index schema body = .ok (select index schema body) := by rfl
  refine ⟨hbody, h, hfaithful body _ hbody h, ?_⟩
  have hparsed : (Hcl.parseFile source.toList).isOk := by decide +kernel
  cases hparse : Hcl.parseFile source.toList with
  | error e => simp [hparse, Except.isOk, Except.toBool] at hparsed
  | ok parsed => exact ⟨parsed, rfl, hplaced parsed hparse⟩

end

end BackendPolicy
