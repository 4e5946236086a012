import BackendPolicy.Proofs.Hcl.Parser
import BackendPolicy.Proofs.Text.Boundary

/-!
This module contains the parsers that only read on. Every combination of such parsers is one too, so this is found
by instances from the way that a parser is put together.
-/

namespace BackendPolicy.Hcl

namespace Cursor

/--
Whether a cursor is further on in the same text, or at the same place.
-/
def Reaches (c next : Cursor) : Prop :=
  ∃ read, c.rest = read ++ next.rest ∧ next.offset = c.offset + byteLength read

variable {c next last : Cursor}

theorem Reaches.refl (c : Cursor) : c.Reaches c := ⟨[], rfl, rfl⟩

theorem Reaches.trans (h : c.Reaches next) (hlast : next.Reaches last) : c.Reaches last := by
  obtain ⟨read, hrest, hoffset⟩ := h
  obtain ⟨more, hmore, hlast⟩ := hlast
  refine ⟨read ++ more, ?_, ?_⟩
  . rw [hrest]
    rw [hmore]
    rw [List.append_assoc]
  . rw [hlast]
    rw [hoffset]
    rw [byteLength_append]
    apply Nat.add_assoc

theorem Reaches.offset_le (h : c.Reaches next) : c.offset ≤ next.offset := by
  obtain ⟨_, _, hoffset⟩ := h
  omega

theorem reaches_advance (c : Cursor) (count : Nat) : c.Reaches (c.advance count) :=
  ⟨c.rest.take count, (List.take_append_drop count c.rest).symm, rfl⟩

theorem offset_lt_advance {x : Char} {cs : List Char} (h : c.rest = x :: cs) (count : Nat)
    : c.offset < (c.advance (count + 1)).offset := by
  have := x.utf8Size_pos
  simp only [advance, h, List.take_succ_cons, byteLength]
  omega

theorem reaches_substitute (c : Cursor) (span : Span) (text : List Char) : c.Reaches (c.substitute span text) :=
  ⟨[], rfl, rfl⟩

theorem Reaches.advanceTo (h : c.Reaches next) : c.Reaches (c.advanceTo next.offset) := by
  obtain ⟨read, hrest, hoffset⟩ := h
  refine ⟨read, ?_, ?_⟩
  . unfold Cursor.advanceTo
    rw [hoffset]
    rw [Nat.add_sub_cancel_left]
    rw [hrest]
    rw [dropBytes_append]
  . unfold Cursor.advanceTo
    dsimp only
    omega

end Cursor

def Reply.IsReached (c : Cursor) : Reply α → Prop
  | .ok _ next => c.Reaches next
  | .soft => True
  | .hard offset _ => ∃ place, c.Reaches place ∧ place.offset = offset

theorem Reply.IsReached.trans {c next : Cursor} {reply : Reply α} (hreply : reply.IsReached next)
    (h : c.Reaches next)
    : reply.IsReached c := by
  cases reply with
  | ok => exact h.trans hreply
  | soft => trivial
  | hard =>
    obtain ⟨place, hplace, heq⟩ := hreply
    exact ⟨place, h.trans hplace, heq⟩

namespace Parser

variable {α β : Type}

/--
A parser that only reads on, whether it succeeds or complains: it never goes back and never leaves the text.
-/
class Advances (p : Parser α) : Prop where
  isReached : ∀ c, (p c).IsReached c

theorem Advances.reaches {p : Parser α} [hp : Advances p] {c next : Cursor} {a : α} (h : p c = .ok a next)
    : c.Reaches next := by
  have hreached := hp.isReached c
  rw [h] at hreached
  exact hreached

instance (a : α) : Advances (pure a : Parser α) where
  isReached := .refl

instance : Advances (fail : Parser α) where
  isReached _ := trivial

instance (fault : Fault) : Advances (complain fault : Parser α) where
  isReached c := ⟨c, .refl c, rfl⟩

instance : Advances rest where
  isReached := .refl

instance : Advances offset where
  isReached := .refl

instance (count : Nat) : Advances (advance count) where
  isReached c := c.reaches_advance count

instance (span : Span) (text : List Char) : Advances (substitute span text) where
  isReached c := c.reaches_substitute span text

theorem Advances.bind {p : Parser α} {f : α → Parser β} (hp : Advances p) (hf : ∀ a, Advances (f a))
    : Advances (p >>= f) where
  isReached c := by
    have hreached := hp.isReached c
    change (Parser.bind p f c).IsReached c
    unfold Parser.bind
    cases h : p c with
    | ok a next =>
      rw [h] at hreached
      exact ((hf a).isReached next).trans hreached
    | soft => trivial
    | hard offset fault =>
      rw [h] at hreached
      exact hreached

variable {p q : Parser α}

theorem Advances.expect (hp : Advances p) (fault : Fault) : Advances (expect fault p) where
  isReached c := by
    have hreached := hp.isReached c
    unfold Parser.expect
    split
    . exact ⟨c, .refl c, rfl⟩
    . exact hreached

theorem Advances.orElse (hp : Advances p) (hq : Advances q) : Advances (orElse p q) where
  isReached c := by
    have hreached := hp.isReached c
    unfold Parser.orElse
    split
    . exact hq.isReached c
    . exact hreached

theorem Advances.opt (hp : Advances p) : Advances (opt p) where
  isReached c := by
    have hreached := hp.isReached c
    unfold Parser.opt
    cases h : p c with
    | soft => exact .refl c
    | _ =>
      rw [h] at hreached
      exact hreached

theorem Advances.restAfter (hp : Advances p) : Advances (restAfter p) where
  isReached c := by
    have hreached := hp.isReached c
    unfold Parser.restAfter
    cases h : p c with
    | ok => exact .refl c
    | soft => trivial
    | hard =>
      rw [h] at hreached
      exact hreached

theorem Advances.sliced (hp : Advances p) : Advances (sliced p) where
  isReached c := by
    have hreached := hp.isReached c
    unfold Parser.sliced
    cases h : p c with
    | soft => trivial
    | _ =>
      rw [h] at hreached
      exact hreached

theorem Advances.absorb (hp : Advances p) : Advances (absorb p) where
  isReached c := by
    have hreached := hp.isReached c
    unfold Parser.absorb
    cases h : p c with
    | ok =>
      rw [h] at hreached
      exact hreached
    | soft => exact .refl c
    | hard =>
      rw [h] at hreached
      obtain ⟨place, hplace, rfl⟩ := hreached
      exact hplace.advanceTo

theorem Advances.spanned (hp : Advances p) : Advances (spanned p) :=
  .bind inferInstance fun _ => .bind hp fun _ => .bind inferInstance inferInstance

theorem Advances.isReached_many (hp : Advances p) (c : Cursor) : (many p c).IsReached c := by
  have hreached := hp.isReached c
  unfold many
  split
  . next a next h =>
    rw [h] at hreached
    split
    . have hrest := (hp.isReached_many next).trans hreached
      cases hmany : many p next with
      | _ =>
        rw [hmany] at hrest
        exact hrest
    . exact .refl c
  . exact .refl c
  . next h =>
    rw [h] at hreached
    exact hreached
termination_by c.rest.length

theorem Advances.isReached_iterate {step : α → Parser (Option α)} (hstep : ∀ a, Advances (step a)) (a : α)
    (c : Cursor)
    : Reply.IsReached c (iterate step a c) := by
  have hreached := (hstep a).isReached c
  unfold iterate
  split
  . next b next h =>
    rw [h] at hreached
    split
    . exact (isReached_iterate hstep b next).trans hreached
    . exact hreached
  . exact .refl c
  . trivial
  . next h =>
    rw [h] at hreached
    exact hreached
termination_by c.rest.length

theorem Advances.many (hp : Advances p) : Advances (many p) where
  isReached := hp.isReached_many

theorem Advances.iterate {step : α → Parser (Option α)} (hstep : ∀ a, Advances (step a)) (a : α)
    : Advances (iterate step a) where
  isReached := isReached_iterate hstep a

section

variable [hp : Advances p] [hq : Advances q]

instance {f : α → Parser β} [hf : ∀ a, Advances (f a)] : Advances (p >>= f) := hp.bind hf

instance (f : α → β) : Advances (f <$> p) := hp.bind fun a => inferInstanceAs (Advances (pure (f a)))

instance (condition : Prop) [Decidable condition] : Advances (if condition then p else q) := by
  split <;> infer_instance

instance (fault : Fault) : Advances (expect fault p) := hp.expect fault

instance : Advances (orElse p q) := hp.orElse hq

instance : Advances (opt p) := hp.opt

instance : Advances (restAfter p) := hp.restAfter

instance : Advances (sliced p) := hp.sliced

instance : Advances (absorb p) := hp.absorb

instance : Advances (many p) := hp.many

-- `many` is a function of the cursor, and the instance for `>>=` does not take that for a parser.
instance (f : List α → Parser β) [hf : ∀ as, Advances (f as)] : Advances ((many p : Parser (List α)) >>= f) :=
  hp.many.bind hf

instance : Advances (spanned p) := hp.spanned

instance (text : α → List Char) : Advances (substituted p text) := by
  unfold substituted
  infer_instance

instance (separator : Parser β) [Advances separator] : Advances (sepBy1 p separator) := by
  unfold sepBy1
  infer_instance

instance (separator : Parser β) [Advances separator] : Advances (sepBy p separator) := by
  unfold sepBy
  infer_instance

end

theorem Advances.of_cursor {p : Cursor → Parser α} (h : ∀ c, Advances (p c))
    : Advances (fun c => p c c : Parser α) where
  isReached c := (h c).isReached c

instance : Advances anyChar := by
  unfold anyChar
  refine .bind inferInstance fun cs => ?_
  split <;> infer_instance

instance (s : String) : Advances (token s) := by
  unfold token
  infer_instance

instance (s : String) : Advances (need s) := by
  unfold need
  infer_instance

instance (p : Char → Bool) : Advances (takeWhile p) := by
  unfold takeWhile
  infer_instance

instance (p : Char → Bool) : Advances (takeWhile1 p) := by
  unfold takeWhile1
  refine .bind inferInstance fun cs => ?_
  split <;> infer_instance

instance (stops : List Char → Bool) : Advances (takeUntil1 stops) := by
  unfold takeUntil1
  refine .bind inferInstance fun cs => ?_
  split <;> infer_instance

def Consumes (p : Parser α) : Prop :=
  ∀ c, p.Ensures c fun _ next => c.offset < next.offset

theorem Consumes.bind {f : α → Parser β} (hp : p.Consumes) [∀ a, Advances (f a)] : (p >>= f).Consumes := by
  intro c
  rw [ensures_bind]
  intro a next h b last hlast
  have hle := (Advances.reaches hlast).offset_le
  have hlt := hp c a next h
  omega

theorem Consumes.orElse (hp : p.Consumes) (hq : q.Consumes) : (orElse p q).Consumes := fun c =>
  Ensures.orElse (hp c) (hq c)

theorem consumes_token {s : String} {x : Char} {cs : List Char} (hs : s.toList = x :: cs) : (token s).Consumes := by
  intro c
  unfold token
  rw [ensures_bind]
  rw [ensures_rest]
  split
  . next h =>
    rw [hs] at h ⊢
    obtain ⟨after, hafter⟩ := List.isPrefixOf_iff_prefix.1 h
    have hrest : c.rest = x :: (cs ++ after) := hafter.symm
    intro _ next heq
    cases heq
    exact Cursor.offset_lt_advance hrest _
  . exact ensures_fail

end Parser

end BackendPolicy.Hcl
