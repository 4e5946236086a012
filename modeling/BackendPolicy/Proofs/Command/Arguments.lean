import BackendPolicy.Command.Arguments
import BackendPolicy.Proofs.Data.Faults

/-!
This module contains the variables that arguments give. The main statement is `reads_of_ofArguments`: whatever
else is given, the variables are the texts of the option for variables, read one by one and in order.
-/

namespace BackendPolicy.Command

theorem splitEquals_cons (c : Char) (s : List Char)
    : splitEquals (c :: s)
        =
      if c = '=' then some ([], s) else (splitEquals s).map fun parts => (c :: parts.1, parts.2) := by
  unfold splitEquals
  by_cases h : c = '='
  . simp [h]
  . simp only [h, ne_eq, not_false_eq_true, decide_true, List.dropWhile_cons_of_pos, List.takeWhile_cons_of_pos,
      if_false]
    cases List.dropWhile _ s <;> rfl

theorem splitEquals_append {name : List Char} (h : '=' ∉ name) (value : List Char)
    : splitEquals (name ++ '=' :: value) = some (name, value) := by
  induction name with
  | nil => rfl
  | cons c name ih =>
    obtain ⟨hc, hname⟩ := not_or.1 (List.mem_cons.not.1 h)
    rw [List.cons_append]
    rw [splitEquals_cons]
    rw [if_neg (Ne.symm hc)]
    rw [ih hname]
    rfl

theorem of_splitEquals_eq_some {s name value : List Char} (h : splitEquals s = some (name, value))
    : s = name ++ '=' :: value ∧ '=' ∉ name := by
  induction s generalizing name with
  | nil => simp [splitEquals] at h
  | cons c s ih =>
    rw [splitEquals_cons] at h
    split at h
    . next hc =>
      cases h
      simp [hc]
    . next hc =>
      obtain ⟨⟨name, _⟩, hs, heq⟩ := Option.map_eq_some_iff.1 h
      cases heq
      obtain ⟨rfl, hname⟩ := ih hs
      exact ⟨rfl, by simp [Ne.symm hc, hname]⟩

theorem splitEquals_eq_some_iff {s name value : List Char}
    : splitEquals s = some (name, value) ↔ s = name ++ '=' :: value ∧ '=' ∉ name := by
  constructor
  . exact of_splitEquals_eq_some
  . rintro ⟨rfl, hname⟩
    exact splitEquals_append hname value

theorem readVar_eq_ok_iff {text name value : String}
    : readVar text = .ok (name, value) ↔ text = name ++ "=" ++ value ∧ name ≠ "" ∧ '=' ∉ name.toList := by
  have hsplit : text = name ++ "=" ++ value ∧ '=' ∉ name.toList
      ↔ splitEquals text.toList = some (name.toList, value.toList) := by
    rw [splitEquals_eq_some_iff]
    rw [← String.toList_inj]
    simp
  have hname : name ≠ "" ↔ name.toList ≠ [] := by simp
  rw [and_left_comm]
  rw [and_comm]
  rw [hsplit]
  rw [hname]
  unfold readVar
  rcases splitEquals text.toList with _ | ⟨_ | ⟨c, before⟩, after⟩
  . simp
  . simp only [reduceCtorEq, Option.some.injEq, Prod.mk.injEq, false_iff]
    rintro ⟨⟨hnil, _⟩, hne⟩
    exact hne hnil.symm
  . simp only [Except.ok.injEq, Option.some.injEq, Prod.mk.injEq]
    rw [← String.toList_inj]
    rw [← String.toList_inj]
    rw [String.toList_ofList]
    rw [String.toList_ofList]
    constructor
    . rintro ⟨hbefore, hafter⟩
      exact ⟨⟨hbefore, hafter⟩, by simp [← hbefore]⟩
    . exact And.left

theorem exists_readVar_eq_ok_iff {text : String}
    : (∃ var, readVar text = .ok var) ↔ '=' ∈ text.toList ∧ text.toList.head? ≠ some '=' := by
  constructor
  . rintro ⟨⟨name, value⟩, hread⟩
    obtain ⟨rfl, hname, hequals⟩ := readVar_eq_ok_iff.1 hread
    obtain ⟨c, cs, hcs⟩ := List.exists_cons_of_ne_nil (by simpa using hname : name.toList ≠ [])
    have hc : c ≠ '=' := by
      rintro rfl
      exact hequals (by simp [hcs])
    simp [hcs, hc]
  . rintro ⟨hequals, hhead⟩
    obtain ⟨name, value, htext, hname⟩ := List.eq_append_cons_of_mem hequals
    refine ⟨(String.ofList name, String.ofList value), readVar_eq_ok_iff.2 ⟨?_, ?_, ?_⟩⟩
    . rw [← String.toList_inj]
      simp [htext]
    . intro hempty
      obtain rfl : name = [] := by simpa using hempty
      exact hhead (by simp [htext])
    . rw [String.toList_ofList]
      exact hname

def joinedText? (argument : String) : Option String :=
  match splitEquals argument.toList with
  | none => none
  | some (name, text) => if name = "--var".toList then some (String.ofList text) else none

/--
The texts behind the option for variables, in order. The first argument may be one if it is awaited.
-/
def varTexts (awaited : Bool) : List String → List String
  | [] => []
  | argument :: rest =>
    if argument = "--var" then varTexts true rest
    else if awaited then argument :: varTexts false rest
    else (joinedText? argument).toList ++ varTexts false rest

theorem joinedText?_eq_some_iff {argument text : String}
    : joinedText? argument = some text ↔ argument = "--var=" ++ text := by
  have hsplit : argument = "--var=" ++ text ↔ splitEquals argument.toList = some ("--var".toList, text.toList) := by
    rw [splitEquals_eq_some_iff]
    rw [← String.toList_inj]
    simp
  rw [hsplit]
  unfold joinedText?
  rcases splitEquals argument.toList with _ | ⟨name, value⟩
  . simp
  . dsimp only
    rw [Option.some.injEq]
    rw [Prod.mk.injEq]
    have hvalue : String.ofList value = text ↔ value = text.toList := by
      rw [← String.toList_inj]
      rw [String.toList_ofList]
    rw [← hvalue]
    split
    . next hname => simp [hname]
    . next hname => simp only [hname, false_and, reduceCtorEq]

theorem varTexts_cons_of_not_dashes {argument : String} (h : ∀ text, argument.toList ≠ '-' :: '-' :: text)
    (awaited : Bool) (rest : List String)
    : varTexts awaited (argument :: rest) = (if awaited then [argument] else []) ++ varTexts false rest := by
  have hvar : argument ≠ "--var" := by
    rintro rfl
    exact h _ rfl
  have hjoined : joinedText? argument = none := by
    rw [Option.eq_none_iff_forall_ne_some]
    intro text htext
    rw [joinedText?_eq_some_iff] at htext
    apply h ("var=" ++ text).toList
    simp [htext]
  rw [varTexts]
  rw [if_neg hvar]
  rw [hjoined]
  cases awaited <;> rfl

theorem varTexts_cons_dashes (text : List Char) (rest : List String)
    : varTexts false (String.ofList ('-' :: '-' :: text) :: rest)
        =
      match splitEquals text with
      | none => varTexts (String.ofList text = "var") rest
      | some (name, value) =>
        (if String.ofList name = "var" then [String.ofList value] else []) ++ varTexts false rest := by
  have hname (name : List Char) : '-' :: '-' :: name = "--var".toList ↔ String.ofList name = "var" := by
    rw [← String.toList_inj]
    simp
  have hwhole : String.ofList ('-' :: '-' :: text) = "--var" ↔ String.ofList text = "var" := by
    rw [← hname]
    rw [← String.toList_inj]
    rw [String.toList_ofList]
  have hsplit : splitEquals ('-' :: '-' :: text)
      = (splitEquals text).map fun parts => ('-' :: '-' :: parts.1, parts.2) := by
    rw [splitEquals_cons]
    rw [splitEquals_cons]
    simp [Function.comp_def]
  rw [varTexts]
  unfold joinedText?
  rw [String.toList_ofList]
  rw [hsplit]
  simp only [hwhole, Bool.false_eq_true, if_false]
  cases h : splitEquals text with
  | none =>
    by_cases hvar : String.ofList text = "var"
    . simp [hvar]
    . simp [hvar]
  | some parts =>
    have hvar : String.ofList text ≠ "var" := by
      intro hvar
      rw [← String.toList_inj] at hvar
      rw [String.toList_ofList] at hvar
      rw [hvar] at h
      contradiction
    simp only [hvar, if_false, Option.map_some, hname]
    split <;> rfl

theorem Opt.long_eq_var_iff {o : Opt} : o.long = "var" ↔ o = .var := by
  cases o <;> decide

theorem Level.long_of_long? {level : Level} {name : String} {o : Opt} (h : level.long? name = some o)
    : o.long = name := by
  simpa using List.find?_some h

theorem Level.long?_program_ne_var (name : String) : Level.program.long? name ≠ some .var := by
  intro h
  have hmem := List.mem_of_find?_eq_some h
  revert hmem
  decide

theorem Level.short?_ne_var (level : Level) (letter : Char) : level.short? letter ≠ some .var := by
  intro h
  simpa [Opt.short?] using List.find?_some h

def Given.Reads (given : Given) (texts : List String) : Prop :=
  List.Forall₂ (fun text var => readVar text = .ok var) texts given.vars

namespace Given

variable {given given' : Given} {texts : List String}

theorem Reads.of_vars_eq (h : given.Reads texts) (hvars : given'.vars = given.vars) : given'.Reads texts := by
  unfold Reads
  rw [hvars]
  exact h

theorem vars_once {α : Type} {o : Opt} {value : String} {before : Option α} {after : α → Given}
    {read : Except ArgumentError α} (h : once o value before after read = .ok given')
    (hafter : ∀ a, (after a).vars = given.vars)
    : given'.vars = given.vars := by
  unfold once at h
  split at h
  . contradiction
  . split at h
    . contradiction
    . cases read with
      | error => contradiction
      | ok a =>
        cases h
        exact hafter a

theorem Reads.setValue {o : Opt} {value : String} (h : given.Reads texts)
    (hset : given.setValue o value = .ok given')
    : given'.Reads (texts ++ if o = .var then [value] else []) := by
  unfold Given.setValue at hset
  split at hset
  . rw [if_neg (by decide)]
    rw [List.append_nil]
    exact h.of_vars_eq (vars_once hset fun _ => rfl)
  . rw [if_neg (by decide)]
    rw [List.append_nil]
    exact h.of_vars_eq (vars_once hset fun _ => rfl)
  . rw [if_neg (by decide)]
    rw [List.append_nil]
    exact h.of_vars_eq (vars_once hset fun _ => rfl)
  . rw [if_pos rfl]
    split at hset
    . next var hread =>
      cases hset
      exact List.rel_append h (.cons hread .nil)
    . contradiction
  . next hvar =>
    rw [if_neg hvar]
    rw [List.append_nil]
    cases hset
    exact h

theorem Reads.setFlag {o : Opt} (h : given.Reads texts) (hset : given.setFlag o = .ok given')
    : given'.Reads texts := by
  unfold Given.setFlag at hset
  split at hset
  . contradiction
  . contradiction
  . split at hset
    . contradiction
    . cases hset
      exact h
  . cases hset
    exact h

end Given

namespace State

def awaitsVar (s : State) : Bool :=
  s.waiting? = some .var

theorem awaitsVar_of_eq_none {s : State} (h : s.waiting? = none) : s.awaitsVar = false := by
  simp [awaitsVar, h]

theorem awaitsVar_of_eq_some {s : State} {o : Opt} (h : s.waiting? = some o) : s.awaitsVar = decide (o = .var) := by
  simp [awaitsVar, h]

def pendingText? (s : State) : Option String :=
  match s.pending with
  | some ⟨.var, text⟩ => text
  | _ => none

/--
Whether a state holds the texts of variables that were read so far.
-/
def Holds (s : State) (texts : List String) : Prop :=
  ∃ settled, s.given.Reads settled ∧ texts = settled ++ s.pendingText?.toList

variable {s s' : State} {texts : List String} {level : Level}

theorem holds_nil : ({} : State).Holds [] := ⟨[], .nil, rfl⟩

theorem waiting?_of_settle {given : Given} (h : s.settle = .ok given) : s.waiting? = none := by
  rcases s with ⟨_, _ | ⟨o, _ | value⟩⟩
  . rfl
  . contradiction
  . rfl

theorem Holds.settle {given : Given} (h : s.Holds texts) (hsettle : s.settle = .ok given) : given.Reads texts := by
  obtain ⟨settled, hsettled, rfl⟩ := h
  rcases s with ⟨g, _ | ⟨o, _ | value⟩⟩
  . cases hsettle
    simpa [pendingText?] using hsettled
  . contradiction
  . have hset : g.setValue o value = .ok given := mapError_eq_ok_iff.1 hsettle
    have hreads := hsettled.setValue hset
    cases o <;> exact hreads

def Adds (s s' : State) (added : List String) : Prop :=
  ∀ texts, s.Holds texts → s'.Holds (texts ++ added)

theorem Adds.of_settle {given : Given} (hsettle : s.settle = .ok given) (pending : Option Opt)
    : s.Adds ⟨given, pending.map fun o => ⟨o, none⟩⟩ [] := by
  intro texts h
  refine ⟨texts, h.settle hsettle, ?_⟩
  cases pending with
  | none => rfl
  | some o => cases o <;> rfl

theorem Adds.attached {o : Opt} {value : String} (h : s.attached o value = .ok s')
    : s.waiting? = none ∧ s'.waiting? = none ∧ s.Adds s' (if o = .var then [value] else []) := by
  unfold State.attached at h
  obtain ⟨given, hsettle, h⟩ := bind_eq_ok_iff.1 h
  obtain ⟨given', hset, h⟩ := bind_eq_ok_iff.1 h
  cases h
  refine ⟨waiting?_of_settle hsettle, rfl, ?_⟩
  intro texts hholds
  exact ⟨_, (hholds.settle hsettle).setValue (mapError_eq_ok_iff.1 hset), (List.append_nil _).symm⟩

theorem Adds.awaiting {o : Opt} (h : s.awaiting o = .ok s')
    : s.waiting? = none ∧ s'.waiting? = some o ∧ s.Adds s' [] := by
  unfold State.awaiting at h
  obtain ⟨given, hsettle, h⟩ := bind_eq_ok_iff.1 h
  cases h
  exact ⟨waiting?_of_settle hsettle, rfl, .of_settle hsettle (some o)⟩

theorem Adds.flag {o : Opt} (h : s.flag o = .ok s')
    : s.waiting? = none ∧ s'.waiting? = none ∧ s.Adds s' [] := by
  unfold State.flag at h
  obtain ⟨given, hsettle, h⟩ := bind_eq_ok_iff.1 h
  obtain ⟨given', hset, h⟩ := bind_eq_ok_iff.1 h
  cases h
  refine ⟨waiting?_of_settle hsettle, rfl, ?_⟩
  intro texts hholds
  refine ⟨texts, (hholds.settle hsettle).setFlag hset, ?_⟩
  simp [pendingText?]

theorem Adds.trans {s'' : State} {added : List String} (h : s.Adds s' []) (h' : s'.Adds s'' added)
    : s.Adds s'' added := by
  intro texts hholds
  simpa using h' _ (h texts hholds)

theorem Adds.readLong {text : List Char} (h : readLong level s text = .ok s')
    : s.waiting? = none
        ∧ ∃ added,
            s.Adds s' added
              ∧ (level = .program → added = [] ∧ s'.awaitsVar = false)
              ∧ ∀ rest,
                  varTexts false (String.ofList ('-' :: '-' :: text) :: rest)
                    =
                  added ++ varTexts s'.awaitsVar rest := by
  unfold State.readLong at h
  simp only [varTexts_cons_dashes]
  rcases hsplit : splitEquals text with _ | ⟨name, value⟩
  . rw [hsplit] at h
    dsimp only at h ⊢
    cases ho : level.long? (String.ofList text) with
    | none =>
      rw [ho] at h
      contradiction
    | some o =>
      rw [ho] at h
      have hprogram : level = .program → o ≠ .var := by
        rintro rfl rfl
        exact Level.long?_program_ne_var _ ho
      rw [← Level.long_of_long? ho]
      simp only [Opt.long_eq_var_iff]
      dsimp only at h
      split at h
      . obtain ⟨hwaiting, hwaiting', hadds⟩ := Adds.awaiting h
        rw [awaitsVar_of_eq_some hwaiting']
        exact ⟨hwaiting, [], hadds, fun hlevel => ⟨rfl, decide_eq_false (hprogram hlevel)⟩, fun _ => rfl⟩
      . next hvalue =>
        have hvar : o ≠ .var := by
          rintro rfl
          exact hvalue rfl
        obtain ⟨hwaiting, hwaiting', hadds⟩ := Adds.flag h
        rw [awaitsVar_of_eq_none hwaiting']
        rw [decide_eq_false hvar]
        exact ⟨hwaiting, [], hadds, fun _ => ⟨rfl, rfl⟩, fun _ => rfl⟩
  . rw [hsplit] at h
    dsimp only at h ⊢
    cases ho : level.long? (String.ofList name) with
    | none =>
      rw [ho] at h
      contradiction
    | some o =>
      rw [ho] at h
      have hprogram : level = .program → o ≠ .var := by
        rintro rfl rfl
        exact Level.long?_program_ne_var _ ho
      rw [← Level.long_of_long? ho]
      simp only [Opt.long_eq_var_iff]
      dsimp only at h
      split at h
      . obtain ⟨hwaiting, hwaiting', hadds⟩ := Adds.attached h
        rw [awaitsVar_of_eq_none hwaiting']
        exact ⟨hwaiting, _, hadds, fun hlevel => ⟨if_neg (hprogram hlevel), rfl⟩, fun _ => rfl⟩
      . contradiction

/--
What follows one dash adds no text of a variable. At least one letter settles what was pending.
-/
theorem Adds.readShort {letters : List Char} (h : readShort level s letters = .ok s')
    : (letters = [] ∨ s.waiting? = none)
        ∧ (s.waiting? = none → s'.awaitsVar = false)
        ∧ s.Adds s' [] := by
  induction letters generalizing s with
  | nil =>
    cases h
    refine ⟨.inl rfl, ?_, ?_⟩
    . exact awaitsVar_of_eq_none
    . intro texts hholds
      simpa using hholds
  | cons letter letters ih =>
    unfold State.readShort at h
    cases ho : level.short? letter with
    | none =>
      rw [ho] at h
      contradiction
    | some o =>
      have hvar : o ≠ .var := by
        rintro rfl
        exact level.short?_ne_var letter ho
      rw [ho] at h
      dsimp only at h
      split at h
      . split at h
        . obtain ⟨hwaiting, hwaiting', hadds⟩ := Adds.awaiting h
          exact ⟨.inr hwaiting, fun _ => by simp [awaitsVar_of_eq_some hwaiting', hvar], hadds⟩
        . obtain ⟨hwaiting, hwaiting', hadds⟩ := Adds.attached h
          rw [if_neg hvar] at hadds
          exact ⟨.inr hwaiting, fun _ => awaitsVar_of_eq_none hwaiting', hadds⟩
        . obtain ⟨hwaiting, hwaiting', hadds⟩ := Adds.attached h
          rw [if_neg hvar] at hadds
          exact ⟨.inr hwaiting, fun _ => awaitsVar_of_eq_none hwaiting', hadds⟩
      . obtain ⟨between, hflag, h⟩ := bind_eq_ok_iff.1 h
        obtain ⟨hwaiting, hwaiting', hadds⟩ := Adds.flag hflag
        obtain ⟨_, hawaits, hadds'⟩ := ih h
        exact ⟨.inr hwaiting, fun _ => hawaits hwaiting', hadds.trans hadds'⟩

theorem Adds.value {o : Opt} {argument : String} (h : s.waiting? = some o)
    : s.Adds { s with pending := some ⟨o, some argument⟩ } (if s.awaitsVar then [argument] else []) := by
  rintro _ ⟨settled, hsettled, rfl⟩
  refine ⟨settled, hsettled, ?_⟩
  rcases s with ⟨g, _ | ⟨o', _ | value⟩⟩
  . contradiction
  . obtain rfl : o' = o := Option.some.inj h
    cases o' <;> simp [pendingText?, awaitsVar, waiting?]
  . contradiction

end State

theorem of_command?_eq_some {level command : Level} {s : State} {argument : String}
    (h : command? level s argument = some command)
    : level = .program ∧ s.waiting? = none ∧ ∀ text, argument.toList ≠ '-' :: '-' :: text := by
  unfold command? at h
  split at h
  . next hlevel =>
    have hname : argument = "check" ∨ argument = "rules" := by
      by_contra hne
      rw [not_or] at hne
      simp [commands, List.lookup_cons, beq_eq_false_iff_ne.2 hne.1, beq_eq_false_iff_ne.2 hne.2] at h
    refine ⟨hlevel.1, hlevel.2, ?_⟩
    intro text htext
    obtain rfl | rfl := hname
    . simp at htext
    . simp at htext
  . contradiction

/--
The variables of a level: the texts that a state holds and those that follow, read one by one. A command starts
anew, and before it there is no option for variables.
-/
theorem reads_of_readArguments {level level' : Level} {s : State} {arguments before : List String} {given : Given}
    (h : readArguments level s arguments = .ok (level', given)) (hholds : s.Holds before)
    (hprogram : level = .program → before = [] ∧ s.awaitsVar = false)
    : given.Reads (before ++ varTexts s.awaitsVar arguments) := by
  induction arguments generalizing level s before given with
  | nil =>
    obtain ⟨_, hsettle, h⟩ := bind_eq_ok_iff.1 h
    cases h
    simpa [varTexts] using hholds.settle hsettle
  | cons argument rest ih =>
    unfold readArguments at h
    split at h
    . next command hcommand =>
      obtain ⟨hlevel, hwaiting, hdashes⟩ := of_command?_eq_some hcommand
      obtain ⟨⟨command', given'⟩, hrest, h⟩ := bind_eq_ok_iff.1 h
      obtain ⟨_, _, h⟩ := bind_eq_ok_iff.1 h
      cases h
      have hreads := ih hrest State.holds_nil fun _ => ⟨rfl, rfl⟩
      rw [varTexts_cons_of_not_dashes hdashes]
      rw [(hprogram hlevel).1]
      rw [(hprogram hlevel).2]
      exact hreads.of_vars_eq rfl
    . split at h
      . contradiction
      . split at h
        . next hargument =>
          split at h
          . obtain ⟨_, hsettle, h⟩ := bind_eq_ok_iff.1 h
            cases h
            obtain rfl := String.toList_inj.1 (hargument.trans (by rfl : _ = "--".toList))
            rw [State.awaitsVar_of_eq_none (State.waiting?_of_settle hsettle)]
            simpa [varTexts, joinedText?, splitEquals] using hholds.settle hsettle
          . contradiction
        . next text _ _ hargument =>
          obtain ⟨s', hread, h⟩ := bind_eq_ok_iff.1 h
          obtain ⟨hwaiting, added, hadds, hclear, htexts⟩ := State.Adds.readLong hread
          obtain rfl := String.toList_inj.1 (hargument.trans String.toList_ofList.symm)
          rw [State.awaitsVar_of_eq_none hwaiting]
          rw [htexts]
          rw [← List.append_assoc]
          apply ih h (hadds before hholds)
          intro hlevel
          obtain ⟨rfl, hawaits⟩ := hclear hlevel
          exact ⟨by simpa using (hprogram hlevel).1, hawaits⟩
        . next letter letters _ hletter hargument =>
          obtain ⟨s', hread, h⟩ := bind_eq_ok_iff.1 h
          obtain ⟨hletters, hawaits, hadds⟩ := State.Adds.readShort hread
          have hwaiting := hletters.resolve_left (List.cons_ne_nil _ _)
          have hdashes : ∀ text, argument.toList ≠ '-' :: '-' :: text := by
            intro text htext
            rw [hargument] at htext
            injection htext with _ htail
            injection htail with hdash
            exact hletter hdash
          have hbefore : s'.Holds before := by simpa using hadds before hholds
          rw [varTexts_cons_of_not_dashes hdashes]
          rw [State.awaitsVar_of_eq_none hwaiting]
          have hreads := ih h hbefore fun hlevel => ⟨(hprogram hlevel).1, hawaits hwaiting⟩
          rw [hawaits hwaiting] at hreads
          exact hreads
        . next o hwaiting _ hdashes _ =>
          rw [varTexts_cons_of_not_dashes hdashes]
          rw [← List.append_assoc]
          refine ih h (State.Adds.value hwaiting before hholds) ?_
          intro hlevel
          obtain ⟨rfl, hawaits⟩ := hprogram hlevel
          rw [hawaits]
          exact ⟨rfl, rfl⟩
        . contradiction

/--
Whether the arguments of a check are read to their end: an earlier stop only asks for an explanation or complains.
-/
def StopsWithoutCheck {α : Type} (outcome : Except Stop α) : Prop :=
  ∀ root given, outcome ≠ .error (.request (.check root given))

namespace StopsWithoutCheck

variable {α β : Type} {level : Level}

theorem ok (a : α) : StopsWithoutCheck (.ok a) := nofun

theorem error (e : ArgumentError) : StopsWithoutCheck (.error (.error e) : Except Stop α) := nofun

theorem mapError (outcome : Except ArgumentError α) : StopsWithoutCheck (outcome.mapError .error) := by
  cases outcome with
  | ok a => exact ok a
  | error e => exact error e

theorem bind {outcome : Except Stop α} {next : α → Except Stop β} (h : StopsWithoutCheck outcome)
    (hnext : ∀ a, StopsWithoutCheck (next a))
    : StopsWithoutCheck (outcome >>= next) := by
  cases outcome with
  | ok a => exact hnext a
  | error stop =>
    intro root given heq
    exact h root given (congrArg Except.error (Except.error.inj heq))

theorem settle (s : State) : StopsWithoutCheck s.settle := by
  rcases s with ⟨_, _ | ⟨o, _ | value⟩⟩
  . exact ok _
  . exact error _
  . exact mapError _

theorem setFlag (given : Given) (o : Opt) : StopsWithoutCheck (given.setFlag o) := by
  unfold Given.setFlag
  split
  . nofun
  . nofun
  . split
    . exact error _
    . exact ok _
  . exact ok _

theorem attached (s : State) (o : Opt) (value : String) : StopsWithoutCheck (s.attached o value) :=
  (settle s).bind fun _ => (mapError _).bind fun _ => ok _

theorem awaiting (s : State) (o : Opt) : StopsWithoutCheck (s.awaiting o) :=
  (settle s).bind fun _ => ok _

theorem flag (s : State) (o : Opt) : StopsWithoutCheck (s.flag o) :=
  (settle s).bind fun _ => (setFlag _ o).bind fun _ => ok _

theorem readLong (s : State) (text : List Char) : StopsWithoutCheck (s.readLong level text) := by
  unfold State.readLong
  dsimp only
  split
  . exact error _
  . split
    . exact attached s _ _
    . exact error _
  . split
    . exact awaiting s _
    . exact flag s _

theorem readShort (s : State) (letters : List Char) : StopsWithoutCheck (s.readShort level letters) := by
  induction letters generalizing s with
  | nil => exact ok s
  | cons letter letters ih =>
    unfold State.readShort
    split
    . exact error _
    . split
      . split
        . exact awaiting s _
        . exact attached s _ _
        . exact attached s _ _
      . exact (flag s _).bind ih

theorem misplaced (trailing : Bool) (argument : String)
    : StopsWithoutCheck (.error (Command.misplaced level trailing argument) : Except Stop α) := by
  unfold Command.misplaced
  dsimp only
  split
  . exact error _
  . exact error _

theorem readHelp (arguments : List String) : StopsWithoutCheck (.error (Command.readHelp arguments) : Except Stop α) := by
  unfold Command.readHelp
  split
  . nofun
  . split
    . nofun
    . exact error _
  . split
    . exact error _
    . exact error _

theorem readArguments (level : Level) (s : State) (arguments : List String)
    : StopsWithoutCheck (Command.readArguments level s arguments) := by
  induction arguments generalizing level s with
  | nil => exact (settle s).bind fun _ => ok _
  | cons argument rest ih =>
    unfold Command.readArguments
    split
    . exact (ih _ _).bind fun _ => (settle s).bind fun _ => ok _
    . split
      . exact readHelp rest
      . split
        . split
          . exact (settle s).bind fun _ => ok _
          . exact misplaced true _
        . exact (readLong s _).bind fun s' => ih level s'
        . exact (readShort s _).bind fun s' => ih level s'
        . exact ih level _
        . exact misplaced false argument

end StopsWithoutCheck

/--
The variables of a check are the texts of the option for variables, read one by one and in order, whatever else is
given.
-/
theorem reads_of_ofArguments {arguments : List String} {root : String} {given : Given}
    (h : Request.ofArguments arguments = .ok (.check root given))
    : given.Reads (varTexts false arguments) := by
  unfold Request.ofArguments at h
  split at h
  . next level given' hread =>
    have hreads := reads_of_readArguments hread State.holds_nil fun _ => ⟨rfl, rfl⟩
    cases level with
    | program =>
      cases h
      exact hreads
    | check =>
      cases h
      exact hreads
    | rules => cases h
  . next r hread =>
    obtain rfl := Except.ok.inj h
    exact absurd hread (StopsWithoutCheck.readArguments .program {} arguments root given)
  . contradiction

end BackendPolicy.Command
