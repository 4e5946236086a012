import BackendPolicy.Hcl.Parser

/-!
This module contains postconditions of parsers: what holds of the result and of the cursor whenever a parser
succeeds.
-/

namespace BackendPolicy.Hcl.Parser

variable {α β : Type}

/--
Whether every success of a parser at a cursor satisfies a postcondition.
-/
def Ensures (p : Parser α) (c : Cursor) (post : α → Cursor → Prop) : Prop :=
  ∀ a next, p c = .ok a next → post a next

variable {p q : Parser α} {c : Cursor} {post : α → Cursor → Prop}

theorem ensures_pure {a : α} : (pure a : Parser α).Ensures c post ↔ post a c := by
  constructor
  . intro h
    exact h a c rfl
  . intro h _ _ heq
    cases heq
    exact h

theorem ensures_bind {f : α → Parser β} {post : β → Cursor → Prop}
    : (p >>= f).Ensures c post ↔ p.Ensures c fun a next => (f a).Ensures next post := by
  have hbind : (p >>= f) c = Parser.bind p f c := rfl
  unfold Ensures
  rw [hbind]
  unfold Parser.bind
  cases p c with
  | ok a next => simp
  | soft => simp
  | hard => simp

theorem ensures_rest {post : List Char → Cursor → Prop} : rest.Ensures c post ↔ post c.rest c := by
  constructor
  . intro h
    exact h _ _ rfl
  . intro h _ _ heq
    cases heq
    exact h

theorem ensures_offset {post : Nat → Cursor → Prop} : offset.Ensures c post ↔ post c.offset c := by
  constructor
  . intro h
    exact h _ _ rfl
  . intro h _ _ heq
    cases heq
    exact h

theorem ensures_spanned {post : α × Span → Cursor → Prop}
    : (spanned p).Ensures c post ↔ p.Ensures c fun a next => post (a, ⟨c.offset, next.offset⟩) next := by
  unfold spanned
  rw [ensures_bind]
  rw [ensures_offset]
  rw [ensures_bind]
  have hstop (a : α) (next : Cursor)
      : (offset >>= fun stop => pure (a, (⟨c.offset, stop⟩ : Span))).Ensures next post
          ↔
        post (a, ⟨c.offset, next.offset⟩) next := by
    rw [ensures_bind]
    rw [ensures_offset]
    rw [ensures_pure]
  exact forall₂_congr fun a next => imp_congr_right fun _ => hstop a next

theorem ensures_fail : (fail : Parser α).Ensures c post := by
  intro _ _ heq
  cases heq

theorem ensures_complain {fault : Fault} : (complain fault : Parser α).Ensures c post := by
  intro _ _ heq
  cases heq

theorem Ensures.expect {fault : Fault} (h : p.Ensures c post) : (p.expect fault).Ensures c post := by
  intro a next heq
  apply h
  unfold Parser.expect at heq
  split at heq
  . contradiction
  . exact heq

theorem Ensures.orElse (hp : p.Ensures c post) (hq : q.Ensures c post) : (p.orElse q).Ensures c post := by
  intro a next heq
  unfold Parser.orElse at heq
  split at heq
  . exact hq a next heq
  . exact hp a next heq

theorem ensures_opt {post : Option α → Cursor → Prop} (hsome : p.Ensures c fun a => post (some a))
    (hnone : post none c)
    : p.opt.Ensures c post := by
  intro found next heq
  unfold Parser.opt at heq
  split at heq
  . next a next' hp =>
    cases heq
    exact hsome _ _ hp
  . cases heq
    exact hnone
  . contradiction

theorem ensures_iterate {step : α → Parser (Option α)} (inv : α → Cursor → Prop)
    (hstep : ∀ a c, inv a c → (step a).Ensures c fun found next => ∀ b, found = some b → inv b next)
    (a : α) (c : Cursor) (h : inv a c)
    : Ensures (iterate step a) c inv := by
  intro b last heq
  unfold iterate at heq
  split at heq
  . next d next hfound =>
    have hinv := hstep a c h _ _ hfound d rfl
    split at heq
    . exact ensures_iterate inv hstep d next hinv b last heq
    . cases heq
      exact hinv
  . cases heq
    exact h
  . contradiction
  . contradiction
termination_by c.rest.length

end BackendPolicy.Hcl.Parser
