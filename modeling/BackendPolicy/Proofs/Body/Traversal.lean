import BackendPolicy.Proofs.Body.Conformity
import BackendPolicy.Proofs.Data.Places

/-!
This module contains the faults of a body by the places at which extraction meets them. `ReachedAt` says which
blocks extraction gets to, `FaultAt` what is wrong at them. The main statement is `faults_inOrder`: the faults
are met in the order of their places.
-/

namespace BackendPolicy

/--
Whether a schema matches a block of a body and all blocks around it. The place says in which structure of the
body the block is, then in which one of that structure, and so on. `entry` is the first entry of its kind.
-/
inductive ReachedAt : BodySchema → Body → List Nat → BlockSchema → Structure → Prop where
  | here {schema : BodySchema} {body inner : Body} {i : Nat} {kind : String} {kindSpan : Span}
      {labels : List Label} {entry : BlockSchema}
      (hs : body[i]? = some (.block kind kindSpan labels inner))
      (hentry : schema.blocks.find? (fun b => b.kind = kind) = some entry)
      : ReachedAt schema body [i] entry (.block kind kindSpan labels inner)
  | inside {schema innerSchema : BodySchema} {body inner : Body} {i : Nat} {kind : String} {kindSpan : Span}
      {labels : List Label} {entry found : BlockSchema} {place : List Nat} {s : Structure}
      (hs : body[i]? = some (.block kind kindSpan labels inner))
      (hentry : schema.blocks.find? (fun b => b.kind = kind) = some entry)
      (hbody : entry.body = some innerSchema)
      (hreached : ReachedAt innerSchema inner place found s)
      : ReachedAt schema body (i :: place) found s

/--
What is wrong at a place of a body. A wrong number of labels is met at the block itself, an attribute that is
missing in a block after all structures in it, at the number of the schema's entry.
-/
inductive FaultAt (index : LineIndex) (schema : BodySchema) (body : Body) : List Nat → RunError → Prop where
  | labelCount {place : List Nat} {entry : BlockSchema} {kind : String} {kindSpan : Span}
      {labels : List Label} {inner : Body}
      (hreached : ReachedAt schema body place entry (.block kind kindSpan labels inner))
      (hcount : labels.length ≠ entry.labelNames.length)
      : FaultAt index schema body place
          (.labelCount kind entry.labelNames labels.length (headOf index kindSpan labels))
  | missing {place : List Nat} {entry : BlockSchema} {kind : String} {kindSpan : Span}
      {labels : List Label} {inner : Body} {innerSchema : BodySchema} {j : Nat} {a : AttributeSchema}
      (hreached : ReachedAt schema body place entry (.block kind kindSpan labels inner))
      (hbody : entry.body = some innerSchema)
      (ha : innerSchema.attributes[j]? = some a)
      (hrequired : a.required)
      (habsent : ¬ Defines inner a.name)
      : FaultAt index schema body (place ++ [inner.length, j])
          (.missingAttribute a.name (headOf index kindSpan labels))

/--
What is wrong at a place of one structure. The empty place is that of the structure itself.
-/
def StructureFaultAt (index : LineIndex) (schema : BodySchema) : Structure → List Nat → RunError → Prop
  | .attribute _ _ _ _, _, _ => False
  | .block kind kindSpan labels inner, place, e =>
    ∃ entry,
      schema.blocks.find? (fun b => b.kind = kind) = some entry
        ∧ ((labels.length ≠ entry.labelNames.length
              ∧ place = []
              ∧ e = .labelCount kind entry.labelNames labels.length (headOf index kindSpan labels))
            ∨ ∃ innerSchema,
                entry.body = some innerSchema
                  ∧ (FaultAt index innerSchema inner place e
                      ∨ ∃ rest,
                          place = inner.length :: rest
                            ∧ ∃ j a,
                                innerSchema.attributes[j]? = some a
                                  ∧ rest = [j]
                                  ∧ (a.required ∧ ¬ Defines inner a.name)
                                  ∧ e = .missingAttribute a.name (headOf index kindSpan labels)))

variable {index : LineIndex} {schema : BodySchema} {body : Body} {place : List Nat} {e : RunError}

theorem StructureFaultAt.faultAt {i : Nat} {s : Structure} (hs : body[i]? = some s)
    (h : StructureFaultAt index schema s place e)
    : FaultAt index schema body (i :: place) e := by
  rcases s with _ | ⟨kind, kindSpan, labels, inner⟩
  . contradiction
  . obtain ⟨entry, hentry, ⟨hcount, rfl, rfl⟩ | ⟨innerSchema, hbody, hinner | hmissing⟩⟩ := h
    . exact .labelCount (.here hs hentry) hcount
    . cases hinner with
      | labelCount hreached hcount => exact .labelCount (.inside hs hentry hbody hreached) hcount
      | missing hreached hbody' ha hrequired habsent =>
        exact .missing (.inside hs hentry hbody hreached) hbody' ha hrequired habsent
    . obtain ⟨_, rfl, j, a, ha, rfl, ⟨hrequired, habsent⟩, rfl⟩ := hmissing
      exact .missing (.here hs hentry) hbody ha hrequired habsent

theorem faultAt_iff
    : FaultAt index schema body place e
        ↔
      ∃ i s rest, body[i]? = some s ∧ place = i :: rest ∧ StructureFaultAt index schema s rest e := by
  constructor
  . intro h
    cases h with
    | labelCount hreached hcount =>
      cases hreached with
      | here hs hentry => exact ⟨_, _, _, hs, rfl, _, hentry, .inl ⟨hcount, rfl, rfl⟩⟩
      | inside hs hentry hbody hreached =>
        exact ⟨_, _, _, hs, rfl, _, hentry, .inr ⟨_, hbody, .inl (.labelCount hreached hcount)⟩⟩
    | missing hreached hbody' ha hrequired habsent =>
      cases hreached with
      | here hs hentry =>
        refine ⟨_, _, _, hs, rfl, _, hentry, .inr ⟨_, hbody', .inr ⟨_, rfl, ?_⟩⟩⟩
        exact ⟨_, _, ha, rfl, ⟨hrequired, habsent⟩, rfl⟩
      | inside hs hentry hbody hreached =>
        refine ⟨_, _, _, hs, rfl, _, hentry, .inr ⟨_, hbody, .inl ?_⟩⟩
        exact .missing hreached hbody' ha hrequired habsent
  . rintro ⟨i, s, rest, hs, rfl, h⟩
    exact h.faultAt hs

theorem FaultAt.exists_lt_length (h : FaultAt index schema body place e)
    : ∃ i rest, place = i :: rest ∧ i < body.length := by
  obtain ⟨i, s, rest, hs, rfl, _⟩ := faultAt_iff.1 h
  exact ⟨i, rest, rfl, (List.getElem?_eq_some_iff.1 hs).1⟩

theorem contains_select_iff (index : LineIndex) (body : Body) {name : String}
    (hname : schema.NamesAttribute name)
    : (select index schema body).attributes.contains name ↔ Defines body name := by
  unfold Dict.contains
  rw [get?_select]
  rw [← BodySchema.isSome_attribute?_iff] at hname
  rw [if_pos hname]
  exact isSome_attributeOf?_iff index

theorem labelFaults_inOrder (index : LineIndex) (entry : BlockSchema) (kindSpan : Span) (labels : List Label)
    : InOrder
        (fun place e =>
          labels.length ≠ entry.labelNames.length
            ∧ place = []
            ∧ e = .labelCount entry.kind entry.labelNames labels.length (headOf index kindSpan labels))
        (labelFaults index entry kindSpan labels) := by
  unfold labelFaults
  split
  . next h => exact .nil (by simp [h])
  . next h => simpa [h] using InOrder.singleton [] _

theorem missingFaults_inOrder {content : BodyContent} (Present : String → Prop)
    (h : ∀ a ∈ schema.attributes, content.attributes.contains a.name ↔ Present a.name) (range : Range)
    : InOrder
        (fun place e =>
          ∃ j a,
            schema.attributes[j]? = some a
              ∧ place = [j]
              ∧ (a.required ∧ ¬ Present a.name)
              ∧ e = .missingAttribute a.name range)
        (missingFaults schema content range) := by
  unfold missingFaults
  apply (InOrder.filter_map _ _ _).congr
  intro place e
  apply exists_congr
  intro j
  apply exists_congr
  intro a
  apply and_congr_right
  intro ha
  rw [← h a (List.mem_of_getElem? ha)]
  simp

theorem structureFaults_inOrder (kind : String) (kindSpan : Span) (labels : List Label) {inner : Body}
    (hinner : ∀ innerSchema, InOrder (FaultAt index innerSchema inner) (faults index innerSchema inner))
    : InOrder (StructureFaultAt index schema (.block kind kindSpan labels inner))
        (structureFaults index schema (.block kind kindSpan labels inner)) := by
  rw [structureFaults_block]
  cases hentry : schema.block? kind with
  | none =>
    unfold BodySchema.block? at hentry
    exact .nil (by simp [StructureFaultAt, hentry])
  | some entry =>
    unfold BodySchema.block? at hentry
    have hkind : entry.kind = kind := by simpa using List.find?_some hentry
    have hlabels := labelFaults_inOrder index entry kindSpan labels
    rw [hkind] at hlabels
    dsimp only
    unfold innerFaults
    cases hbody : entry.body with
    | none =>
      dsimp only
      rw [List.append_nil]
      exact hlabels.congr (by simp [StructureFaultAt, hentry, hbody])
    | some innerSchema =>
      have hpresent (a : AttributeSchema) (ha : a ∈ innerSchema.attributes)
          : (select index innerSchema inner).attributes.contains a.name ↔ Defines inner a.name :=
        contains_select_iff index inner ⟨a, ha, rfl⟩
      have hmissing := missingFaults_inOrder (Defines inner) hpresent (headOf index kindSpan labels)
      have hinside := (hinner innerSchema).append (hmissing.cons inner.length) (by
        rintro place _ _ _ hplace ⟨_, rfl, _⟩
        obtain ⟨i, rest, rfl, hi⟩ := hplace.exists_lt_length
        exact List.cons_lt_cons_iff.2 (.inl hi))
      refine (hlabels.append hinside ?_).congr ?_
      . rintro _ _ _ _ ⟨_, rfl, _⟩ (hplace | ⟨_, rfl, _⟩)
        . obtain ⟨i, rest, rfl, _⟩ := hplace.exists_lt_length
          exact List.nil_lt_cons _ _
        . exact List.nil_lt_cons _ _
      . intro place e
        simp [StructureFaultAt, hentry, hbody]

theorem faults_inOrder (index : LineIndex) (schema : BodySchema) (body : Body)
    : InOrder (FaultAt index schema body) (faults index schema body) := by
  have hstructures (s : Structure) (hs : s ∈ body)
      : InOrder (StructureFaultAt index schema s) (structureFaults index schema s) := by
    rcases s with _ | ⟨kind, kindSpan, labels, inner⟩
    . exact .nil fun _ _ h => h
    . -- The body of the block is a part of the body, so the recursion ends.
      have := List.sizeOf_lt_of_mem hs
      apply structureFaults_inOrder
      intro innerSchema
      exact faults_inOrder index innerSchema inner
  rw [faults_eq_flatMap]
  exact (InOrder.flatMap body hstructures).congr fun _ _ => faultAt_iff.symm
termination_by sizeOf body
decreasing_by
  simp only [Structure.block.sizeOf_spec] at this
  omega

end BackendPolicy
