import BackendPolicy.Proofs.Rule.Requirements

/-!
This module contains the calls that the rule on state backends makes. It asks for the content, evaluates
methods one after the other, each only if all before it are in order, and reports at most one issue at the
end. The main statement is `check_calls`.
-/

namespace BackendPolicy

namespace BackendType

structure Slot where
  backend : Block
  number : Nat
  key : String

namespace Slot

def attribute? (slot : Slot) : Option Attribute :=
  slot.backend.body.attributes.get? slot.key

def call? (host : Host) (slot : Slot) : Option Call :=
  slot.attribute?.map fun a => .evaluate a (host.evaluate a)

end Slot

def slots (backends : List (Block × Nat)) : List Slot :=
  backends.flatMap fun (backend, number) =>
    [⟨backend, number, "lock_method"⟩, ⟨backend, number, "unlock_method"⟩]

/--
Whether a method is due to be evaluated: all backends before are in order, the backend is of the right type
and has the method, and for the unlock method the lock method is in order.
-/
structure Slot.IsDue (evaluate : Attribute → Except RunError String) (backends : List (Block × Nat))
    (slot : Slot) : Prop where
  before : ∀ backend ∈ backends, backend.2 < slot.number
    → firstShortfall? evaluate backend.1 requirements = none
  http : slot.backend.labels = ["http"]
  present : ∃ a, slot.attribute? = some a
  locked : slot.key = "unlock_method"
    → ∃ a, slot.backend.body.attributes.get? "lock_method" = some a ∧ evaluate a = .ok "POST"

/--
Whether the calls of a run are those of a lazy check of a content: first the content, then the methods that
are visited, then at most one report. The visited methods are the first ones, and they are those that are due.
-/
structure IsLazyCheck (host : Host) (content : BodyContent) (calls : List Call) (visited : List Slot)
    (reported : List Issue) : Prop where
  calls_eq : calls = .content schema (.ok content) ::
    (visited.filterMap (Slot.call? host) ++ reported.map fun issue => .emit issue (host.accept issue))
  in_order : visited <+: slots (backends content).zipIdx
  once : (visited.map fun slot => (slot.number, slot.key)).Nodup
  no_address : ∀ slot ∈ visited, slot.key ≠ "address"
  due : ∀ slot ∈ slots (backends content).zipIdx,
    slot ∈ visited ↔ slot.IsDue host.evaluate (backends content).zipIdx
  reported_le_one : reported.length ≤ 1

/--
The methods of a backend that are evaluated: up to the first one that is absent or not as it has to be.
-/
def visitedMethods (evaluate : Attribute → Except RunError String) (backend : Block) :
    List MethodPolicy → List MethodPolicy
  | [] => []
  | policy :: policies =>
    match backend.body.attributes.get? policy.key with
    | none => []
    | some found =>
      match evaluate found with
      | .error _ => [policy]
      | .ok verb => policy :: if verb = policy.verb then visitedMethods evaluate backend policies else []

def visitedOf (evaluate : Attribute → Except RunError String) (backend : Block) (number : Nat) : List Slot :=
  if backend.labels = ["http"] then
    (visitedMethods evaluate backend policies).map fun policy => ⟨backend, number, policy.key⟩
  else
    []

/--
The methods of numbered backends that are evaluated. Nothing is evaluated behind a backend with a shortfall.
-/
def visited (evaluate : Attribute → Except RunError String) : List (Block × Nat) → List Slot
  | [] => []
  | (backend, number) :: backends =>
    visitedOf evaluate backend number ++
      match firstShortfall? evaluate backend requirements with
      | none => visited evaluate backends
      | some _ => []

def reportedFor : Option Shortfall → List Issue
  | some (.violation message range) => [⟨"terraform_backend_type", .error, message, range⟩]
  | _ => []

variable (host : Host)

theorem calls_firstMethodViolation (info : RuleInfo) (backend : Block) (number : Nat)
    (policies : List MethodPolicy)
    : ((firstMethodViolation backend policies).run host info).calls
        =
      ((visitedMethods host.evaluate backend policies).map fun policy =>
        (⟨backend, number, policy.key⟩ : Slot)).filterMap (Slot.call? host) := by
  induction policies with
  | nil => rfl
  | cons policy policies ih =>
    unfold firstMethodViolation visitedMethods
    cases hfound : backend.body.attributes.get? policy.key with
    | none => rfl
    | some found =>
      dsimp only
      have hcall : Slot.call? host ⟨backend, number, policy.key⟩
          = some (.evaluate found (host.evaluate found)) := by
        simp [Slot.call?, Slot.attribute?, hfound]
      rw [Program.run_bind]
      rw [Program.run_getString]
      unfold Run.andThen
      cases hverb : host.evaluate found with
      | error e => simp [hcall, hverb]
      | ok verb =>
        by_cases h : verb = policy.verb
        . simp [hcall, hverb, h, ih]
        . simp only [hcall, hverb, h, ↓reduceIte, List.map_cons, List.filterMap_cons]
          rfl

theorem calls_firstViolation (info : RuleInfo) {backend : Block} (hlabel : backend.labels.length = 1)
    (number : Nat)
    : ((firstViolation backend).run host info).calls
        =
      (visitedOf host.evaluate backend number).filterMap (Slot.call? host) := by
  obtain ⟨type, htype⟩ := List.length_eq_one_iff.1 hlabel
  unfold firstViolation visitedOf typeOf
  by_cases h : type = "http"
  . simp only [htype, h, List.headD_cons, requiredType, ↓reduceIte]
    apply calls_firstMethodViolation
  . simp only [htype, h, List.headD_cons, requiredType, List.cons.injEq, and_true, ↓reduceIte]
    rfl

theorem calls_checkAll (backends : List (Block × Nat))
    (hlabels : ∀ backend ∈ backends, backend.1.labels.length = 1)
    : ((checkAll (backends.map Prod.fst)).run host rule.info).calls
        =
      (visited host.evaluate backends).filterMap (Slot.call? host)
        ++ (reportedFor ((backends.map Prod.fst).findSome? fun backend =>
            firstShortfall? host.evaluate backend requirements)).map
              fun issue => .emit issue (host.accept issue) := by
  induction backends with
  | nil => rfl
  | cons backend backends ih =>
    obtain ⟨backend, number⟩ := backend
    have hlabel : backend.labels.length = 1 := hlabels _ (.head _)
    have hfinds := firstViolation_finds host rule.info hlabel
    have hcalls := calls_firstViolation host rule.info hlabel number
    specialize ih fun backend hmem => hlabels backend (.tail _ hmem)
    rw [List.map_cons]
    unfold checkAll visited
    rw [Program.run_bind]
    rw [List.findSome?_cons]
    rw [List.filterMap_append]
    rw [← hcalls]
    generalize (firstViolation backend).run host rule.info = r at hfinds
    cases hshortfall : firstShortfall? host.evaluate backend requirements with
    | none =>
      rw [hshortfall] at hfinds
      rw [Run.andThen_of_ok hfinds.2]
      dsimp only
      rw [ih]
      rw [List.append_assoc]
    | some shortfall =>
      rw [hshortfall] at hfinds
      cases shortfall with
      | failure e =>
        rw [Run.andThen_of_error hfinds.2]
        simp [reportedFor]
      | violation message range =>
        obtain ⟨_, violation, hresult, rfl⟩ := hfinds
        rw [Run.andThen_of_ok hresult]
        dsimp only
        rw [Program.run_report]
        simp [reportedFor, RuleInfo.issue, rule]

variable {evaluate : Attribute → Except RunError String}

theorem mem_slots_iff {backends : List (Block × Nat)} {slot : Slot}
    : slot ∈ slots backends
        ↔
      (slot.backend, slot.number) ∈ backends ∧ (slot.key = "lock_method" ∨ slot.key = "unlock_method") := by
  obtain ⟨backend, number, key⟩ := slot
  unfold slots
  rw [List.mem_flatMap]
  constructor
  . rintro ⟨⟨other, n⟩, hmem, hslot⟩
    simp only [List.mem_cons, Slot.mk.injEq, List.not_mem_nil, or_false] at hslot
    obtain ⟨rfl, rfl, rfl⟩ | ⟨rfl, rfl, rfl⟩ := hslot
    . exact ⟨hmem, .inl rfl⟩
    . exact ⟨hmem, .inr rfl⟩
  . rintro ⟨hmem, hkey⟩
    refine ⟨_, hmem, ?_⟩
    simpa using hkey

theorem visitedMethods_prefix_policies (evaluate : Attribute → Except RunError String) (backend : Block)
    (policies : List MethodPolicy)
    : visitedMethods evaluate backend policies <+: policies := by
  induction policies with
  | nil => exact List.nil_prefix
  | cons policy policies ih =>
    unfold visitedMethods
    split
    . exact List.nil_prefix
    . split
      . exact List.cons_prefix_cons.2 ⟨rfl, List.nil_prefix⟩
      . refine List.cons_prefix_cons.2 ⟨rfl, ?_⟩
        split
        . exact ih
        . exact List.nil_prefix

theorem visitedMethods_of_forall {backend : Block} {policies : List MethodPolicy}
    (h : ∀ policy ∈ policies, ∃ found,
      backend.body.attributes.get? policy.key = some found ∧ evaluate found = .ok policy.verb)
    : visitedMethods evaluate backend policies = policies := by
  induction policies with
  | nil => rfl
  | cons policy policies ih =>
    obtain ⟨⟨found, hfound, hverb⟩, hrest⟩ := List.forall_mem_cons.1 h
    unfold visitedMethods
    simp [hfound, hverb, ih hrest]

theorem mem_visitedMethods_iff {backend : Block} {before after : List MethodPolicy} {policy : MethodPolicy}
    (h : policy ∉ before)
    : policy ∈ visitedMethods evaluate backend (before ++ policy :: after)
        ↔
      (∃ a, backend.body.attributes.get? policy.key = some a)
        ∧ ∀ earlier ∈ before, ∃ a,
            backend.body.attributes.get? earlier.key = some a ∧ evaluate a = .ok earlier.verb := by
  induction before with
  | nil =>
    rw [List.nil_append]
    unfold visitedMethods
    cases hfound : backend.body.attributes.get? policy.key with
    | none => simp
    | some found =>
      dsimp only
      split <;> simp
  | cons earlier before ih =>
    obtain ⟨hne, hbefore⟩ := List.ne_and_not_mem_of_not_mem_cons h
    rw [List.cons_append]
    rw [List.forall_mem_cons]
    unfold visitedMethods
    cases hfound : backend.body.attributes.get? earlier.key with
    | none => simp
    | some found =>
      dsimp only
      cases hverb : evaluate found with
      | error e => simp [hne, hverb]
      | ok verb =>
        by_cases hsame : verb = earlier.verb
        . simp [hne, hsame, hverb, ih hbefore]
        . simp [hne, hsame, hverb]

theorem lock_mem_visitedMethods_iff {backend : Block}
    : lockPolicy ∈ visitedMethods evaluate backend policies
        ↔
      ∃ a, backend.body.attributes.get? "lock_method" = some a := by
  change lockPolicy ∈ visitedMethods evaluate backend ([] ++ lockPolicy :: [unlockPolicy]) ↔ _
  rw [mem_visitedMethods_iff (by simp)]
  simp [lockPolicy]

theorem unlock_mem_visitedMethods_iff {backend : Block}
    : unlockPolicy ∈ visitedMethods evaluate backend policies
        ↔
      (∃ a, backend.body.attributes.get? "unlock_method" = some a)
        ∧ ∃ a, backend.body.attributes.get? "lock_method" = some a ∧ evaluate a = .ok "POST" := by
  change unlockPolicy ∈ visitedMethods evaluate backend ([lockPolicy] ++ unlockPolicy :: []) ↔ _
  rw [mem_visitedMethods_iff (by decide)]
  simp [lockPolicy, unlockPolicy]

theorem key_mem_visitedOf_iff {backend : Block} {number : Nat} {policy : MethodPolicy} (h : policy ∈ policies)
    : (⟨backend, number, policy.key⟩ : Slot) ∈ visitedOf evaluate backend number
        ↔
      backend.labels = ["http"] ∧ policy ∈ visitedMethods evaluate backend policies := by
  have hinj (other : MethodPolicy) (hother : other ∈ policies) (hkey : other.key = policy.key)
      : other = policy := by
    revert other policy
    decide
  unfold visitedOf
  split
  . next hlabels =>
    simp only [hlabels, true_and, List.mem_map, Slot.mk.injEq]
    constructor
    . rintro ⟨other, hother, hkey⟩
      have hpolicies := (visitedMethods_prefix_policies evaluate backend policies).subset hother
      rwa [← hinj other hpolicies hkey]
    . intro hpolicy
      exact ⟨policy, hpolicy, rfl⟩
  . next hlabels => simp [hlabels]

theorem mem_visitedOf_iff {slot : Slot} (hkey : slot.key = "lock_method" ∨ slot.key = "unlock_method")
    : slot ∈ visitedOf evaluate slot.backend slot.number ↔ slot.IsDue evaluate [] := by
  obtain ⟨backend, number, key⟩ := slot
  dsimp only at hkey ⊢
  obtain rfl | rfl := hkey
  . change (⟨backend, number, lockPolicy.key⟩ : Slot) ∈ _ ↔ _
    rw [key_mem_visitedOf_iff (by decide)]
    rw [lock_mem_visitedMethods_iff]
    constructor
    . intro ⟨hhttp, hpresent⟩
      exact ⟨by simp, hhttp, hpresent, by simp⟩
    . intro h
      exact ⟨h.http, h.present⟩
  . change (⟨backend, number, unlockPolicy.key⟩ : Slot) ∈ _ ↔ _
    rw [key_mem_visitedOf_iff (by decide)]
    rw [unlock_mem_visitedMethods_iff]
    constructor
    . intro ⟨hhttp, hpresent, hlocked⟩
      exact ⟨by simp, hhttp, hpresent, fun _ => hlocked⟩
    . intro h
      exact ⟨h.http, h.present, h.locked rfl⟩

theorem eq_of_mem_visitedOf {backend : Block} {number : Nat} {slot : Slot}
    (h : slot ∈ visitedOf evaluate backend number)
    : slot.backend = backend ∧ slot.number = number := by
  unfold visitedOf at h
  split at h
  . obtain ⟨_, _, rfl⟩ := List.mem_map.1 h
    exact ⟨rfl, rfl⟩
  . cases h

theorem Slot.isDue_iff {backends : List (Block × Nat)} {slot : Slot}
    : slot.IsDue evaluate backends
        ↔
      (∀ backend ∈ backends, backend.2 < slot.number → firstShortfall? evaluate backend.1 requirements = none)
        ∧ slot.IsDue evaluate [] := by
  constructor
  . intro h
    exact ⟨h.before, by simp, h.http, h.present, h.locked⟩
  . intro ⟨hbefore, h⟩
    exact ⟨hbefore, h.http, h.present, h.locked⟩

theorem visited_prefix_slots (backends : List (Block × Nat))
    : visited evaluate backends <+: slots backends := by
  induction backends with
  | nil => exact List.nil_prefix
  | cons backend backends ih =>
    obtain ⟨backend, number⟩ := backend
    have hslots : slots ((backend, number) :: backends)
        = (policies.map fun policy => ⟨backend, number, policy.key⟩) ++ slots backends := rfl
    rw [hslots]
    unfold visited visitedOf
    cases hshortfall : firstShortfall? evaluate backend requirements with
    | none =>
      obtain ⟨hhttp, hmethods⟩ := firstShortfall?_eq_none_iff.1 hshortfall
      rw [if_pos hhttp]
      rw [visitedMethods_of_forall hmethods]
      exact (List.prefix_append_right_inj _).2 ih
    | some shortfall =>
      rw [List.append_nil]
      refine List.IsPrefix.trans ?_ (List.prefix_append _ _)
      split
      . exact (visitedMethods_prefix_policies evaluate backend policies).map _
      . exact List.nil_prefix

theorem mem_visited_iff {backends : List (Block × Nat)} (h : backends.Pairwise fun a b => a.2 < b.2)
    {slot : Slot} (hslot : slot ∈ slots backends)
    : slot ∈ visited evaluate backends ↔ slot.IsDue evaluate backends := by
  induction backends with
  | nil => cases hslot
  | cons backend backends ih =>
    obtain ⟨backend, number⟩ := backend
    obtain ⟨hlt, hrest⟩ := List.pairwise_cons.1 h
    obtain ⟨hmem, hkey⟩ := mem_slots_iff.1 hslot
    rw [Slot.isDue_iff]
    rw [List.forall_mem_cons]
    unfold visited
    rw [List.mem_append]
    obtain heq | hmem := List.mem_cons.1 hmem
    . -- A method of the first backend. All other backends come after it.
      obtain ⟨rfl, rfl⟩ := Prod.mk.inj heq
      have hfresh : slot ∉ visited evaluate backends := fun h =>
        Nat.lt_irrefl _ (hlt _ (mem_slots_iff.1 ((visited_prefix_slots backends).subset h)).1)
      have hbefore
          : (slot.number < slot.number → firstShortfall? evaluate slot.backend requirements = none)
              ∧ ∀ other ∈ backends, other.2 < slot.number
                  → firstShortfall? evaluate other.1 requirements = none := by
        constructor
        . exact fun h => absurd h (Nat.lt_irrefl _)
        . exact fun other hother h => absurd (hlt other hother) (Nat.lt_asymm h)
      rw [and_iff_right hbefore]
      rw [mem_visitedOf_iff hkey]
      cases firstShortfall? evaluate slot.backend requirements with
      | none => simp [hfresh]
      | some shortfall => simp
    . have hless : number < slot.number := hlt _ hmem
      have hother : slot ∉ visitedOf evaluate backend number := fun h =>
        absurd (eq_of_mem_visitedOf h).2 (Nat.ne_of_gt hless)
      specialize ih hrest (mem_slots_iff.2 ⟨hmem, hkey⟩)
      cases firstShortfall? evaluate backend requirements with
      | none =>
        rw [Slot.isDue_iff] at ih
        simp [hother, ih]
      | some shortfall => simp [hother, hless]

theorem nodup_slots {backends : List (Block × Nat)} (h : backends.Pairwise fun a b => a.2 < b.2)
    : ((slots backends).map fun slot => (slot.number, slot.key)).Nodup := by
  induction backends with
  | nil => exact .nil
  | cons backend backends ih =>
    obtain ⟨backend, number⟩ := backend
    obtain ⟨hlt, hrest⟩ := List.pairwise_cons.1 h
    have hfresh (key : String)
        : (number, key) ∉ (slots backends).map fun slot => (slot.number, slot.key) := by
      intro hmem
      obtain ⟨slot, hslot, heq⟩ := List.mem_map.1 hmem
      have hless : number < slot.number := hlt _ (mem_slots_iff.1 hslot).1
      exact absurd (Prod.mk.inj heq).1 (Nat.ne_of_gt hless)
    change ((number, "lock_method") :: (number, "unlock_method")
      :: (slots backends).map fun slot => (slot.number, slot.key)).Nodup
    rw [List.nodup_cons]
    rw [List.nodup_cons]
    refine ⟨?_, hfresh _, ih hrest⟩
    rw [List.mem_cons]
    simp [hfresh]

theorem pairwise_zipIdx (backends : List Block) : backends.zipIdx.Pairwise fun a b => a.2 < b.2 := by
  rw [← List.pairwise_map]
  rw [List.zipIdx_map_snd]
  exact List.pairwise_lt_range'

section

variable {host : Host} {content : BodyContent}

theorem Settles.result_eq {r : Run Unit} {shortfall : Option Shortfall} (h : Settles host r shortfall)
    {issue : Issue} (hissue : issue ∈ r.emitted)
    : r.result = host.accept issue := by
  rcases shortfall with _ | _ | ⟨message, range⟩
  . rw [h.1] at hissue
    cases hissue
  . rw [h.1] at hissue
    cases hissue
  . rw [h.1] at hissue
    rw [List.mem_singleton.1 hissue]
    exact h.2

theorem calls_rule (h : host.content schema = .ok content)
    (hlabels : ∀ backend ∈ backends content, backend.labels.length = 1)
    : (rule.run host).calls
        =
      .content schema (.ok content) ::
        ((visited host.evaluate (backends content).zipIdx).filterMap (Slot.call? host)
          ++ (reportedFor (contentShortfall? host.evaluate content)).map
              fun issue => .emit issue (host.accept issue)) := by
  have hfst : (backends content).zipIdx.map Prod.fst = backends content := List.zipIdx_map_fst _ _
  have hcalls := calls_checkAll host (backends content).zipIdx (by
    intro backend hmem
    apply hlabels
    rw [← hfst]
    exact List.mem_map_of_mem hmem)
  rw [hfst] at hcalls
  rw [run_rule_of_content host h]
  rw [contentShortfall?_eq_findSome?]
  rw [← hcalls]
  rfl

theorem isLazyCheck_rule (h : host.content schema = .ok content)
    (hlabels : ∀ backend ∈ backends content, backend.labels.length = 1)
    : IsLazyCheck host content (rule.run host).calls (visited host.evaluate (backends content).zipIdx)
        (reportedFor (contentShortfall? host.evaluate content)) where
  calls_eq := calls_rule h hlabels
  in_order := visited_prefix_slots _
  once := by
    have hvisited : visited host.evaluate (backends content).zipIdx <+: _ := visited_prefix_slots _
    exact (nodup_slots (pairwise_zipIdx _)).sublist (hvisited.sublist.map _)
  no_address := by
    intro slot hslot haddress
    obtain ⟨_, hkey⟩ := mem_slots_iff.1 ((visited_prefix_slots _).subset hslot)
    rw [haddress] at hkey
    revert hkey
    decide
  due := fun slot hslot => mem_visited_iff (pairwise_zipIdx _) hslot
  reported_le_one := by
    rcases contentShortfall? host.evaluate content with _ | _ | _ <;> simp [reportedFor]

theorem questions_rule (h : host.content schema = .ok content)
    (hlabels : ∀ backend ∈ backends content, backend.labels.length = 1)
    : (rule.run host).calls.map Call.question
        =
      .content schema ::
        ((visited host.evaluate (backends content).zipIdx).filterMap (fun slot =>
            slot.attribute?.map Question.evaluate)
          ++ (reportedFor (contentShortfall? host.evaluate content)).map Question.emit) := by
  rw [calls_rule h hlabels]
  rw [List.map_cons]
  rw [List.map_append]
  rw [List.map_filterMap]
  rw [List.map_map]
  congr 3
  funext slot
  unfold Slot.call?
  rw [Option.map_map]
  rfl

theorem run_rule_congr {other : Host} (h : host.content schema = .ok content)
    (hlabels : ∀ backend ∈ backends content, backend.labels.length = 1)
    (hcontent : other.content schema = .ok content)
    (hevaluate : ∀ a answer, .evaluate a answer ∈ (rule.run host).calls → other.evaluate a = answer)
    (haccept : ∀ issue ∈ (rule.run host).emitted, other.accept issue = host.accept issue)
    : rule.run other = rule.run host := by
  apply Program.run_congr
  intro call hcall
  have hanswers := Program.answers_run host rule.info rule.check call hcall
  have hcall : call ∈ (rule.run host).calls := hcall
  cases call with
  | content s answer =>
    rw [calls_rule h hlabels] at hcall
    obtain ⟨rfl, rfl⟩ : s = schema ∧ answer = .ok content := by simpa [Slot.call?] using hcall
    exact hcontent
  | evaluate a answer => exact hevaluate a answer hcall
  | emit issue answer =>
    have hissue : issue ∈ (rule.run host).emitted := List.mem_filterMap.2 ⟨_, hcall, rfl⟩
    exact (haccept issue hissue).trans hanswers

theorem questions_rule_congr {other : Host} (h : host.content schema = .ok content)
    (hlabels : ∀ backend ∈ backends content, backend.labels.length = 1)
    (hcontent : other.content schema = .ok content)
    (hevaluate : ∀ a answer, .evaluate a answer ∈ (rule.run host).calls → other.evaluate a = answer)
    : (rule.run other).calls.map Call.question = (rule.run host).calls.map Call.question := by
  -- What is asked does not depend on how reports are answered, so they may be answered as by the first host.
  let mixed : Host := ⟨other.content, other.evaluate, host.accept⟩
  have hmixed : rule.run mixed = rule.run host := run_rule_congr h hlabels hcontent hevaluate fun _ _ => rfl
  have hasked : (rule.run mixed).calls.map Call.question = _ := questions_rule hcontent hlabels
  rw [← hmixed]
  rw [hasked]
  exact questions_rule hcontent hlabels

/--
On every host whose content has the right shape the rule makes the calls of a lazy check. A second host with
the same content that answers the same to what was evaluated is asked the same. If it answers the report alike
too the runs are equal, and if not they differ only by that answer.
-/
theorem check_calls (h : host.content schema = .ok content) (hconforms : Conforms schema content)
    : (∃ visited reported, IsLazyCheck host content (rule.run host).calls visited reported)
        ∧ ∀ other : Host, other.content schema = .ok content
            → (∀ a answer, .evaluate a answer ∈ (rule.run host).calls → other.evaluate a = answer)
            → (rule.run other).calls.map Call.question = (rule.run host).calls.map Call.question
                ∧ ((∀ issue ∈ (rule.run host).emitted, other.accept issue = host.accept issue)
                    → rule.run other = rule.run host)
                ∧ ∀ issue ∈ (rule.run host).emitted,
                    (rule.run host).result = host.accept issue
                      ∧ (rule.run other).result = other.accept issue := by
  have hlabels := labels_of_blockConforms fun _ => hconforms.blockConforms
  refine ⟨⟨_, _, isLazyCheck_rule h hlabels⟩, ?_⟩
  intro other hcontent hevaluate
  have hquestions := questions_rule_congr h hlabels hcontent hevaluate
  refine ⟨hquestions, run_rule_congr h hlabels hcontent hevaluate, ?_⟩
  intro issue hissue
  refine ⟨(rule_settles host h hlabels).result_eq hissue, ?_⟩
  apply (rule_settles other hcontent hlabels).result_eq
  rw [Run.emitted_eq_filterMap] at hissue ⊢
  rw [hquestions]
  exact hissue

end

/--
A file with a backend that locks with the wrong verb, so that its unlock method does not matter.
-/
def wrongLock : SourceFile where
  index := .ofSource "main.tf" <|
    "terraform \x7b\n  backend \"http\" \x7b\n"
      ++ "    lock_method = \"PUT\"\n    unlock_method = var.missing\n  \x7d\n\x7d\n"
  body := [
    .block "terraform" ⟨0, 9⟩ [] [
      .block "backend" ⟨14, 21⟩ [⟨"http", ⟨22, 28⟩⟩] [
        .attribute "lock_method" (.string "PUT") ⟨35, 54⟩ ⟨49, 54⟩,
        .attribute "unlock_method" (.traversal (.variable "var") [.field "missing"]) ⟨59, 86⟩ ⟨75, 86⟩]]]

def generousHost (file : SourceFile) : Host where
  content schema := extract file.index schema file.body
  evaluate a :=
    match a.value with
    | .string text => .ok text
    | _ => .ok "DELETE"
  accept _ := .ok ()

set_option maxRecDepth 2000 in
theorem check_calls_wrong_lock
    : (rule.run (refusingHost wrongLock)).calls.length = 3
        ∧ (rule.run (generousHost wrongLock)).calls.map Call.question
            = (rule.run (refusingHost wrongLock)).calls.map Call.question
        ∧ (rule.run (generousHost wrongLock)).result = .ok () := by
  have hcontent : (refusingHost wrongLock).content schema
      = .ok (select wrongLock.index schema wrongLock.body) := by
    rfl
  have hconforms : Conforms schema (select wrongLock.index schema wrongLock.body) := by
    refine select_conforms ?_ (?_ : missingFaults _ _ .nowhere = [])
    . rfl
    . rfl
  let found : Attribute := {
    name := "lock_method"
    value := .string "PUT"
    range := wrongLock.index.range (some ⟨35, 54⟩)
    valueRange := wrongLock.index.range (some ⟨49, 54⟩) }
  let issue : Issue := ⟨"terraform_backend_type", .error, "\"lock_method\" must be \"POST\"", found.range⟩
  have hcalls : (rule.run (refusingHost wrongLock)).calls
      = [.content schema (.ok (select wrongLock.index schema wrongLock.body)),
          .evaluate found (.ok "PUT"),
          .emit issue ((refusingHost wrongLock).accept issue)] := by
    with_unfolding_all rfl
  obtain ⟨_, hother⟩ := check_calls hcontent hconforms
  obtain ⟨hquestions, _, hresult⟩ := hother (generousHost wrongLock) hcontent (by
    intro a answer hmem
    rw [hcalls] at hmem
    obtain ⟨rfl, rfl⟩ : a = found ∧ answer = .ok "PUT" := by simpa using hmem
    rfl)
  refine ⟨by rw [hcalls]; rfl, hquestions, ?_⟩
  exact (hresult issue (by rw [Run.emitted]; rw [hcalls]; exact .head _)).2

end BackendType

end BackendPolicy
