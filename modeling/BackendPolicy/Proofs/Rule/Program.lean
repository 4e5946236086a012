import BackendPolicy.Rule.Program

/-!
This module contains the runs of programs. `Program.run_bind` says that a program runs like its first part,
continued with the result if there is one, and `Program.run_congr` that a run depends on its host only by the
answers in it.
-/

namespace BackendPolicy

def Call.emitted? : Call → Option Issue
  | emit issue _ => some issue
  | _ => none

inductive Question where
  | content (schema : BodySchema)
  | evaluate (a : Attribute)
  | emit (issue : Issue)

def Call.question : Call → Question
  | content schema _ => .content schema
  | evaluate a _ => .evaluate a
  | emit issue _ => .emit issue

def Question.issue? : Question → Option Issue
  | emit issue => some issue
  | _ => none

/--
Whether a host gives the answer of a call.
-/
def Host.Answers (host : Host) : Call → Prop
  | .content schema answer => host.content schema = answer
  | .evaluate a answer => host.evaluate a = answer
  | .emit issue answer => host.accept issue = answer

variable {α β : Type}

namespace Run

/--
The issues that were reported, in order, whether the host accepted them or not.
-/
def emitted (r : Run α) : List Issue :=
  r.calls.filterMap Call.emitted?

def andThen (r : Run α) (next : α → Run β) : Run β :=
  match r.result with
  | .ok a => ⟨r.calls ++ (next a).calls, (next a).result⟩
  | .error e => ⟨r.calls, .error e⟩

theorem andThen_of_ok {r : Run α} {a : α} (h : r.result = .ok a) (next : α → Run β)
    : r.andThen next = ⟨r.calls ++ (next a).calls, (next a).result⟩ := by
  unfold andThen
  rw [h]

theorem andThen_of_error {r : Run α} {e : RunError} (h : r.result = .error e) (next : α → Run β)
    : r.andThen next = ⟨r.calls, .error e⟩ := by
  unfold andThen
  rw [h]

theorem emitted_append (r : Run α) (calls : List Call) (result : Except RunError β)
    : (⟨r.calls ++ calls, result⟩ : Run β).emitted = r.emitted ++ calls.filterMap Call.emitted? := by
  unfold emitted
  rw [List.filterMap_append]

theorem emitted_eq_filterMap (r : Run α)
    : r.emitted = (r.calls.map Call.question).filterMap Question.issue? := by
  unfold emitted
  rw [List.filterMap_map]
  congr 1
  funext call
  cases call <;> rfl

theorem andThen_after (call : Call) (r : Run α) (next : α → Run β)
    : (r.after call).andThen next = (r.andThen next).after call := by
  obtain ⟨calls, result⟩ := r
  cases result with
  | ok => rfl
  | error => rfl

end Run

namespace Dialogue

variable (host : Host)

theorem run_bind (d : Dialogue α) (f : α → Dialogue β)
    : (d >>= f).run host = (d.run host).andThen fun a => (f a).run host := by
  change (d.bind f).run host = _
  induction d with
  | done result =>
    cases result with
    | ok => rfl
    | error => rfl
  | content schema next ih =>
    simp only [Dialogue.bind, run]
    rw [Run.andThen_after]
    rw [ih]
  | evaluate a next ih =>
    simp only [Dialogue.bind, run]
    rw [Run.andThen_after]
    rw [ih]
  | emit reporter message range next ih =>
    simp only [Dialogue.bind, run]
    rw [Run.andThen_after]
    rw [ih]

theorem answers_run (d : Dialogue α) : ∀ call ∈ (d.run host).calls, host.Answers call := by
  induction d with
  | done result => exact fun _ h => nomatch h
  | content schema next ih => exact List.forall_mem_cons.2 ⟨rfl, ih _⟩
  | evaluate a next ih => exact List.forall_mem_cons.2 ⟨rfl, ih _⟩
  | emit reporter message range next ih => exact List.forall_mem_cons.2 ⟨rfl, ih _⟩

theorem run_congr {d : Dialogue α} {other : Host} (h : ∀ call ∈ (d.run host).calls, other.Answers call)
    : d.run other = d.run host := by
  induction d with
  | done result => rfl
  | content schema next ih =>
    unfold run at h ⊢
    dsimp only [Run.after] at h ⊢
    obtain ⟨hcall, hrest⟩ := List.forall_mem_cons.1 h
    have hcontent : other.content schema = host.content schema := hcall
    rw [hcontent]
    rw [ih _ hrest]
  | evaluate a next ih =>
    unfold run at h ⊢
    dsimp only [Run.after] at h ⊢
    obtain ⟨hcall, hrest⟩ := List.forall_mem_cons.1 h
    have hevaluate : other.evaluate a = host.evaluate a := hcall
    rw [hevaluate]
    rw [ih _ hrest]
  | emit reporter message range next ih =>
    unfold run at h ⊢
    dsimp only [Run.after] at h ⊢
    obtain ⟨hcall, hrest⟩ := List.forall_mem_cons.1 h
    have haccept : other.accept (reporter.issue message range) = host.accept (reporter.issue message range) :=
      hcall
    rw [haccept]
    rw [ih _ hrest]

end Dialogue

namespace Program

variable (host : Host) (info : RuleInfo)

theorem run_bind (p : Program α) (f : α → Program β)
    : (p >>= f).run host info = (p.run host info).andThen fun a => (f a).run host info :=
  Dialogue.run_bind host (p info) fun a => f a info

theorem run_getContent (schema : BodySchema)
    : (getContent schema).run host info = ⟨[.content schema (host.content schema)], host.content schema⟩ :=
  rfl

theorem run_getString (a : Attribute)
    : (getString a).run host info = ⟨[.evaluate a (host.evaluate a)], host.evaluate a⟩ :=
  rfl

theorem run_report (message : String) (range : Range)
    : (report message range).run host info
        =
      ⟨[.emit (info.issue message range) (host.accept (info.issue message range))],
        host.accept (info.issue message range)⟩ :=
  rfl

theorem answers_run (p : Program α) : ∀ call ∈ (p.run host info).calls, host.Answers call :=
  Dialogue.answers_run host (p info)

/--
Hosts that answer the calls of a run alike have the same run.
-/
theorem run_congr {p : Program α} {other : Host}
    (h : ∀ call ∈ (p.run host info).calls, other.Answers call)
    : p.run other info = p.run host info :=
  Dialogue.run_congr host h

end Program

end BackendPolicy
