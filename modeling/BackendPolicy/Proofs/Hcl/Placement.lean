import BackendPolicy.Proofs.Body.Parts
import BackendPolicy.Proofs.Hcl.Grammar
import BackendPolicy.Proofs.Hcl.Structure

/-!
This module contains the places of what is parsed. The parts of a body that is parsed from a text are placed one
behind the other in it: this is `wellPlaced_of_parseFile`.
-/

namespace BackendPolicy.Hcl

open BackendPolicy.Hcl.Parser

namespace Cursor

/--
Whether a cursor is in a text, with some parts placed one behind the other before it.
-/
structure HasPlaced (c : Cursor) (text : List Char) (ps : List Part) : Prop extends ArePlaced text ps where
  isOn : ∃ before, text = before ++ c.rest ∧ byteLength before = c.offset
  stop_le : ∀ p ∈ ps, p.span.stop ≤ c.offset

variable {c next : Cursor} {text : List Char} {ps : List Part}

theorem hasPlaced_start (text : List Char) : (Cursor.start text).HasPlaced text [] where
  isIn := by simp
  ordered := .nil
  isOn := ⟨[], rfl, rfl⟩
  stop_le := by simp

namespace HasPlaced

theorem isBoundary (h : c.HasPlaced text ps) : IsBoundary text c.offset := by
  obtain ⟨before, rfl, hbefore⟩ := h.isOn
  exact ⟨before, List.prefix_append _ _, hbefore⟩

theorem of_reaches (h : c.HasPlaced text ps) (hnext : c.Reaches next) : next.HasPlaced text ps := by
  have hle := hnext.offset_le
  refine ⟨h.toArePlaced, ?_, ?_⟩
  . obtain ⟨before, rfl, hbefore⟩ := h.isOn
    obtain ⟨read, hrest, hoffset⟩ := hnext
    refine ⟨before ++ read, ?_, ?_⟩
    . rw [hrest]
      rw [List.append_assoc]
    . rw [byteLength_append]
      rw [hbefore]
      rw [hoffset]
  . intro p hp
    exact Nat.le_trans (h.stop_le p hp) hle

theorem append_singleton (h : c.HasPlaced text ps) (hnext : c.Reaches next) {p : Part} (hp : p.IsIn text)
    (hstart : c.offset ≤ p.span.start) (hstop : p.span.stop ≤ next.offset)
    : next.HasPlaced text (ps ++ [p]) := by
  have hlast := h.of_reaches hnext
  refine ⟨⟨?_, ?_⟩, hlast.isOn, ?_⟩
  . simp only [List.mem_append, List.mem_singleton]
    rintro q (hq | rfl)
    . exact h.isIn q hq
    . exact hp
  . rw [List.pairwise_append]
    refine ⟨h.ordered, List.pairwise_singleton _ _, ?_⟩
    intro q hq r hr
    rw [List.mem_singleton] at hr
    rw [hr]
    exact Nat.le_trans (h.stop_le q hq) hstart
  . simp only [List.mem_append, List.mem_singleton]
    rintro q (hq | rfl)
    . exact hlast.stop_le q hq
    . exact hstop

end HasPlaced

end Cursor

namespace Parser

variable {α β : Type} {p : Parser α} {c : Cursor} {text : List Char} {ps : List Part}

instance : Advances endOfText := by
  unfold endOfText
  refine .bind inferInstance fun cs => ?_
  split <;> infer_instance

/--
Whether the parts of what a parser finds are placed one behind the other, and behind all that is placed already.
-/
def Places (p : Parser α) (partsOf : α → List Part) : Prop :=
  ∀ text ps c, c.HasPlaced text ps → p.Ensures c fun a next => next.HasPlaced text (ps ++ partsOf a)

theorem ensures_bind_of_advances [Advances p] {f : α → Parser β} {post : β → Cursor → Prop}
    (h : c.HasPlaced text ps)
    (hf : ∀ a next, c.Reaches next → next.HasPlaced text ps → (f a).Ensures next post)
    : (p >>= f).Ensures c post := by
  rw [ensures_bind]
  intro a next hp
  have hreaches := Advances.reaches hp
  exact hf a next hreaches (h.of_reaches hreaches)

theorem Places.ensures_bind {partsOf : α → List Part} (hp : p.Places partsOf) {f : α → Parser β}
    {post : β → Cursor → Prop} (h : c.HasPlaced text ps)
    (hf : ∀ a next, next.HasPlaced text (ps ++ partsOf a) → (f a).Ensures next post)
    : (p >>= f).Ensures c post := by
  rw [Parser.ensures_bind]
  intro a next heq
  exact hf a next (hp text ps c h a next heq)

theorem Places.opt {partsOf : α → List Part} (hp : p.Places partsOf)
    : (opt p).Places fun found => found.toList.flatMap partsOf := by
  intro text ps c h
  apply ensures_opt
  . intro a next heq
    simpa using hp text ps c h a next heq
  . simpa using h

theorem Places.many {partsOf : α → List Part} (hp : p.Places partsOf) : Places (many p) (List.flatMap partsOf) := by
  intro text ps c h as last heq
  unfold Parser.many at heq
  split at heq
  . next a next hfound =>
    have hnext := hp text ps c h a next hfound
    split at heq
    . split at heq
      . next as' last' hmany =>
        cases heq
        rw [List.flatMap_cons]
        rw [← List.append_assoc]
        exact hp.many text _ next hnext as' _ hmany
      . contradiction
      . contradiction
    . cases heq
      simpa using h
  . cases heq
    simpa using h
  . contradiction
termination_by _ _ c => c.rest.length

theorem Places.spanned_word [Advances p] (hp : p.Consumes) : (spanned p).Places fun x => [.word x.2] := by
  intro text ps c h
  rw [ensures_spanned]
  intro a next heq
  have hreaches := Advances.reaches heq
  have hspan : Span.IsIn ⟨c.offset, next.offset⟩ text :=
    ⟨h.isBoundary, (h.of_reaches hreaches).isBoundary, hp c a next heq⟩
  exact h.append_singleton hreaches hspan (Nat.le_refl _) (Nat.le_refl _)

theorem places_label : label.Places fun found => [.word found.span] := by
  intro text ps c h
  unfold label
  refine (Places.spanned_word (consumes_ident.orElse consumes_quotedString)).ensures_bind h fun _ _ h => ?_
  refine ensures_bind_of_advances h fun _ _ _ h => ?_
  rw [ensures_pure]
  exact h

theorem attributeValue_ensures_hasPlaced (key : String) {first : Cursor} (h : first.HasPlaced text ps)
    (hreaches : first.Reaches c) (hlt : first.offset < c.offset)
    : (attributeValue key first.offset).Ensures c fun s next => next.HasPlaced text (ps ++ structureParts s) := by
  unfold attributeValue
  simp only [ensures_bind, ensures_spanned, ensures_pure]
  intro _ _ h₁ _ before h₂ value next h₃
  have hbefore := (Advances.reaches h₁).trans (Advances.reaches h₂)
  have hnext := Advances.reaches h₃
  have hle := hbefore.offset_le
  have hle' := hnext.offset_le
  have hstart := (h.of_reaches (hreaches.trans hbefore)).isBoundary
  have hstop := (h.of_reaches ((hreaches.trans hbefore).trans hnext)).isBoundary
  apply h.append_singleton ((hreaches.trans hbefore).trans hnext)
  . refine ⟨⟨h.isBoundary, hstop, ?_⟩, ⟨hstart, hstop, ?_, ?_, ?_⟩⟩ <;> dsimp only <;> omega
  . exact Nat.le_refl _
  . exact Nat.le_refl _

theorem places_lineAttribute : lineAttribute.Places structureParts := by
  intro text ps c h
  unfold lineAttribute
  rw [ensures_bind]
  rw [ensures_spanned]
  intro key next hkey
  have hlt := consumes_ident c key next hkey
  have hreaches := Advances.reaches hkey
  refine ensures_bind_of_advances (h.of_reaches hreaches) fun _ _ h₁ _ => ?_
  refine ensures_bind_of_advances (h.of_reaches (hreaches.trans h₁)) fun _ _ h₂ _ => ?_
  apply attributeValue_ensures_hasPlaced key h ((hreaches.trans h₁).trans h₂)
  have := (h₁.trans h₂).offset_le
  omega

theorem places_blockBody {body : Parser Body} (hbody : body.Places parts) : (blockBody body).Places parts := by
  intro text ps c h
  unfold blockBody
  refine ensures_bind_of_advances h fun _ _ _ h => ?_
  rw [ensures_bind]
  apply Ensures.orElse
  . refine ensures_bind_of_advances h fun _ _ _ h => ?_
    refine ensures_bind_of_advances h fun _ _ _ h => ?_
    refine ensures_bind_of_advances h fun _ _ _ h => ?_
    intro inner next hinner
    refine ensures_bind_of_advances (hbody _ _ _ h inner next hinner) fun _ _ _ h => ?_
    rw [ensures_pure]
    exact h
  . refine ensures_bind_of_advances h fun _ _ _ h => ?_
    have honly : Parser.Places (do
        let only ← lineAttribute
        blanks
        return only) structureParts := by
      intro text ps c h
      refine places_lineAttribute.ensures_bind h fun _ _ h => ?_
      refine ensures_bind_of_advances h fun _ _ _ h => ?_
      rw [ensures_pure]
      exact h
    refine honly.opt.ensures_bind h fun only _ h => ?_
    rw [ensures_pure]
    refine ensures_bind_of_advances h fun _ _ _ h => ?_
    rw [ensures_pure]
    rw [parts_eq_flatMap]
    exact h

theorem headParts_eq (kindSpan : Span) (labels : List Label)
    : headParts kindSpan labels = [.word kindSpan] ++ labels.flatMap fun found => [.word found.span] := by
  unfold headParts
  rw [List.map_eq_flatMap]
  rfl

theorem places_oneStructure (keys : List String) {body : Parser Body} (hbody : body.Places parts)
    : (oneStructure keys body).Places structureParts := by
  intro text ps c h
  unfold oneStructure
  rw [ensures_bind]
  rw [ensures_offset]
  rw [ensures_bind]
  rw [ensures_spanned]
  intro name next hname
  have hnext := Advances.reaches hname
  have hlt := consumes_ident c name next hname
  have hkind : Span.IsIn ⟨c.offset, next.offset⟩ text :=
    ⟨h.isBoundary, (h.of_reaches hnext).isBoundary, hlt⟩
  refine ensures_bind_of_advances (h.of_reaches hnext) fun _ place hplace _ => ?_
  have hle := hplace.offset_le
  have hword := h.append_singleton (hnext.trans hplace) (p := .word _) hkind (Nat.le_refl _) hle
  rw [ensures_bind]
  rw [ensures_rest]
  split
  . exact ensures_fail
  . split
    . intro s last heq
      -- One branch is a bare function of the cursor. `split` cannot abstract a condition over it.
      by_cases hkey : name ∈ keys
      . cases (congrFun (if_pos hkey) _).symm.trans heq
      . have heq := (congrFun (if_neg hkey) _).symm.trans heq
        have hlt := Nat.lt_of_lt_of_le hlt hle
        exact attributeValue_ensures_hasPlaced name h (hnext.trans hplace) hlt s last heq
    . split
      . refine (places_blockBody hbody).ensures_bind hword fun inner _ h => ?_
        rw [ensures_pure]
        rw [structureParts]
        rw [headParts_eq]
        simpa using h
      . split
        . refine places_label.many.ensures_bind (p := many label) hword fun labels _ h => ?_
          refine (places_blockBody hbody).ensures_bind h fun inner _ h => ?_
          rw [ensures_pure]
          rw [structureParts]
          rw [headParts_eq]
          simpa using h
        . exact ensures_complain

theorem parts_append (body rest : Body) : parts (body ++ rest) = parts body ++ parts rest := by
  simp [parts_eq_flatMap]

theorem places_bodyWith {body : Parser Body} (hbody : body.Places parts) : (bodyWith body).Places parts := by
  intro text ps c h
  unfold bodyWith
  refine (ensures_bind (p := iterate _ [])).2 ?_
  intro structures next hstructures
  have hinv : next.HasPlaced text (ps ++ parts structures) := by
    refine ensures_iterate (fun done c => c.HasPlaced text (ps ++ parts done)) ?_ [] c ?_ structures next hstructures
    . intro done c h
      refine ensures_bind_of_advances h fun _ c _ h => ?_
      rw [ensures_bind]
      apply ensures_opt
      . intro s c hs
        have h := places_oneStructure (keysOf done) hbody text _ _ h s c hs
        dsimp only
        refine ensures_bind_of_advances h fun _ _ _ h => ?_
        refine ensures_bind_of_advances h fun _ _ _ h => ?_
        refine ensures_bind_of_advances h fun _ _ _ h => ?_
        rw [ensures_pure]
        intro _ heq
        cases heq
        rw [parts_append]
        rw [← List.append_assoc]
        simpa [parts] using h
      . rw [ensures_pure]
        intro _ heq
        contradiction
    . simpa [parts] using h
  refine ensures_bind_of_advances hinv fun _ _ _ h => ?_
  rw [ensures_pure]
  exact h

theorem places_bodyWithin (depth : Nat) : (bodyWithin depth).Places parts := by
  induction depth with
  | zero => exact fun _ _ _ _ => ensures_fail
  | succ depth ih => exact places_bodyWith ih

end Parser

theorem wellPlaced_of_parseFile {text : List Char} {body : Body} (h : parseFile text = .ok body)
    : WellPlaced text body := by
  have hfile : file.Ensures (.start text) fun body _ => WellPlaced text body := by
    unfold file
    rw [ensures_bind]
    rw [ensures_rest]
    refine (places_bodyWithin _).ensures_bind (Cursor.hasPlaced_start text) fun inner _ h => ?_
    refine ensures_bind_of_advances h fun _ _ _ h => ?_
    rw [ensures_pure]
    exact h.toArePlaced
  unfold parseFile at h
  split at h
  . next found last heq =>
    cases h
    exact hfile _ last heq
  . contradiction
  . contradiction

end BackendPolicy.Hcl
