import Fgw.HealthCheckCore

/-!
The shared set of unhealthy addresses against the records of the targets.  A record is marked
and cleared by address, but an update replaces the records and leaves the set alone.
-/

namespace Fgw

/-! What an update pushes. -/

/-- The program pushes healthy targets: those of the addresses in `result`, or some before it
throws what `result` throws. -/
def Pushes (program : PushM PUnit) (result : Except Thrown (List String)) : Prop :=
  ∀ made, Ends program made
    (fun _ after => ∃ new : List TargetRecord, (∀ target ∈ new, target.isHealthy = true) ∧
      after = made ++ new ∧ result = .ok (new.map TargetRecord.address))
    fun thrown after => ∃ new : List TargetRecord, (∀ target ∈ new, target.isHealthy = true) ∧
      after = made ++ new ∧ result = .error thrown

section Updates

variable (engine : HealthEngine) (now : Nat)

theorem pushes_nothing : Pushes (pure ⟨⟩) (.ok []) := fun made =>
  (ends_pure _ _ _ _).mpr ⟨[], by simp, (List.append_nil made).symm, rfl⟩

theorem pushes_ofExcept_bind {α : Type} (first : Except Thrown α) {program : α → PushM PUnit}
    {result : α → Except Thrown (List String)}
    (pushes : ∀ value, Pushes (program value) (result value)) :
    Pushes (MonadExcept.ofExcept first >>= program) (first >>= result) := by
  intro made
  rw [ends_bind, ends_ofExcept]
  cases first with
  | error thrown => exact ⟨[], by simp, (List.append_nil made).symm, rfl⟩
  | ok value => exact pushes value made

theorem pushes_forM {α : Type} (items : List α) {body : α → PushM PUnit}
    {each : α → Except Thrown (List String)} (pushes : ∀ item, Pushes (body item) (each item)) :
    Pushes (forM items body) (List.flatten <$> items.mapM each) := by
  induction items with
  | nil => exact pushes_nothing
  | cons item rest ih =>
      intro made
      have stepped : (forM (item :: rest) body : PushM PUnit) = body item >>= fun _ => forM rest body :=
        rfl
      rw [stepped, ends_bind, List.mapM_cons]
      refine (pushes item made).mono ?_ ?_
      · rintro _ _ ⟨new, healthy, rfl, first⟩
        refine (ih (made ++ new)).mono ?_ ?_
        · rintro _ _ ⟨later, laterHealthy, rfl, ran⟩
          refine ⟨new ++ later, ?_, List.append_assoc made new later, ?_⟩
          · exact fun target member =>
              (List.mem_append.mp member).elim (healthy target) (laterHealthy target)
          · obtain ⟨found, mapped, flat⟩ := (map_eq_ok _ _ _).mp ran
            rw [first, mapped, List.map_append, ← flat]
            rfl
        · rintro thrown _ ⟨later, laterHealthy, rfl, ran⟩
          refine ⟨new ++ later, ?_, List.append_assoc made new later, ?_⟩
          · exact fun target member =>
              (List.mem_append.mp member).elim (healthy target) (laterHealthy target)
          · cases mapped : rest.mapM each with
            | ok found =>
                rw [mapped] at ran
                cases ran
            | error other =>
                rw [mapped] at ran
                cases ran
                rw [first]
                rfl
      · rintro thrown _ ⟨new, healthy, rfl, first⟩
        exact ⟨new, healthy, rfl, by rw [first]; rfl⟩

theorem pushes_pushTarget (checkPort healthCheck target : Value) :
    Pushes (pushTarget engine now checkPort healthCheck target)
      (Option.toList <$> findTarget engine.modules checkPort healthCheck target) := by
  intro made
  unfold pushTarget
  rw [ends_bind, ends_ofExcept]
  cases findTarget engine.modules checkPort healthCheck target with
  | error thrown => exact ⟨[], by simp, (List.append_nil made).symm, rfl⟩
  | ok found =>
      cases found with
      | none => exact ⟨[], by simp, (List.append_nil made).symm, rfl⟩
      | some address => exact ⟨[⟨address, healthCheck, true, 0, 0, now⟩], by simp, rfl, rfl⟩

theorem flatten_mapM_toList {α : Type} (items : List α) (each : α → Except Thrown (Option String)) :
    List.flatten <$> items.mapM (fun item => Option.toList <$> each item) =
      (fun found => found.filterMap id) <$> items.mapM each := by
  induction items with
  | nil => rfl
  | cons item rest ih =>
      rw [List.mapM_cons, List.mapM_cons]
      cases each item with
      | error thrown => rfl
      | ok found =>
          cases first : rest.mapM each with
          | error thrown =>
              rw [first] at ih
              cases lists : rest.mapM fun item => Option.toList <$> each item with
              | error other =>
                  rw [lists] at ih
                  cases ih
                  rfl
              | ok lists' =>
                  rw [lists] at ih
                  cases ih
          | ok others =>
              rw [first] at ih
              cases lists : rest.mapM fun item => Option.toList <$> each item with
              | error other =>
                  rw [lists] at ih
                  cases ih
              | ok lists' =>
                  rw [lists] at ih
                  have same : lists'.flatten = others.filterMap id := Except.ok.inj ih
                  change Except.ok (found.toList ++ lists'.flatten) =
                    Except.ok ((found :: others).filterMap id)
                  rw [same]
                  cases found <;> rfl

theorem pushes_pushTargets (policy : Option Resource) (backendResource : Resource) :
    Pushes (pushTargets engine now policy backendResource)
      (checkedTargets engine.modules policy backendResource) := by
  cases policy with
  | none => exact pushes_nothing
  | some policy =>
      unfold pushTargets checkedTargets findTargets
      refine pushes_ofExcept_bind _ fun spec => pushes_ofExcept_bind _ fun targets =>
        pushes_ofExcept_bind _ fun policySpec => pushes_ofExcept_bind _ fun ports =>
          pushes_ofExcept_bind _ fun entries => pushes_forM entries fun entry => ?_
      refine pushes_ofExcept_bind _ fun checkPort => pushes_ofExcept_bind _ fun items => ?_
      have pushed := pushes_forM items fun target =>
        pushes_pushTarget engine now checkPort (entry.opt "healthCheck") target
      rw [flatten_mapM_toList, map_eq_pure_bind] at pushed
      exact pushed

variable {engine now}

theorem updateResult_pushed {name : String} {store : Store} {resource : Resource}
    {policies : List Resource} (found : store.find "Backend" name = some resource)
    (read : findPolicies store "HealthCheckPolicy" (some resource) = .ok policies) :
    ∃ made, updateResult engine name store now = ⟨policies.head?, some made,
        (checkedTargets engine.modules policies.head? resource).isOk⟩ ∧
      (∀ target ∈ made, target.isHealthy = true) ∧
        ∀ addresses, checkedTargets engine.modules policies.head? resource = .ok addresses →
          made.map TargetRecord.address = addresses := by
  have pushes := pushes_pushTargets engine now policies.head? resource []
  unfold Ends at pushes
  unfold updateResult
  rw [found]
  dsimp only
  rw [read]
  dsimp only
  split at pushes
  · rename_i made ran
    obtain ⟨new, healthy, same, listed⟩ := pushes
    rw [List.nil_append] at same
    subst same
    rw [ran, listed]
    exact ⟨made, rfl, healthy, fun addresses same => Except.ok.inj same⟩
  · rename_i thrown made ran
    obtain ⟨new, healthy, same, listed⟩ := pushes
    rw [List.nil_append] at same
    subst same
    rw [ran, listed]
    exact ⟨made, rfl, healthy, fun addresses same => (nomatch same)⟩

theorem updateResult_cases (engine : HealthEngine) (name : String) (store : Store) (now : Nat) :
    (updateResult engine name store now).pushed = none ∨
      ∃ made, (updateResult engine name store now).pushed = some made ∧
        ∀ target ∈ made, target.isHealthy = true := by
  cases found : store.find "Backend" name with
  | none => exact Or.inl (by simp [updateResult, found])
  | some resource =>
      cases read : findPolicies store "HealthCheckPolicy" (some resource) with
      | error thrown => exact Or.inl (by simp [updateResult, found, read])
      | ok policies =>
          obtain ⟨made, result, healthy, _⟩ := updateResult_pushed found read
          exact Or.inr ⟨made, by rw [result], healthy⟩

end Updates

/-! The set and the records. -/

/-- The record counts the address as unhealthy. -/
def Down (state : HealthState) (ref : Nat) (address : String) : Prop :=
  ∃ target, state.records[ref]? = some target ∧ target.address = address ∧
    target.isHealthy = false

def Marked (state : HealthState) (address : String) : Prop :=
  (state.unhealthySet.get? address).isSome = true

/-- An address is in the set exactly if a record of the entry counts it as unhealthy. -/
def SetInStep (state : HealthState) : Prop :=
  ∀ address, Marked state address ↔ ∃ ref ∈ state.allTargets, Down state ref address

/-- The timer would reset the record. -/
def DueAt (engine : HealthEngine) (now : Nat) (state : HealthState) (ref : Nat)
    (address : String) : Prop :=
  ∃ target, state.records[ref]? = some target ∧ target.address = address ∧
    target.due engine now = true

/-- Some records are reset, and their addresses leave the set. -/
structure Clears (cleared : Nat → String → Prop) (before after : HealthState) : Prop where
  allTargets : after.allTargets = before.allTargets
  length : after.records.length = before.records.length
  down : ∀ ref address, Down after ref address ↔
    Down before ref address ∧ ¬ ∃ other, cleared ref other
  marked : ∀ address, Marked after address ↔
    Marked before address ∧ ¬ ∃ ref, cleared ref address
  addressed : ∀ ref address other, cleared ref address → Down before ref other → other = address

/-- The set stays in step if no other record of the entry still counts a cleared address. -/
theorem Clears.inStep_iff {cleared : Nat → String → Prop} {before after : HealthState}
    (clears : Clears cleared before after) (inStep : SetInStep before) :
    SetInStep after ↔ ∀ ref address, cleared ref address → ∀ other ∈ before.allTargets,
      Down before other address → ∃ own, cleared other own := by
  constructor
  · intro kept ref address now other member down
    by_contra stays
    have marked := (kept address).mpr
      ⟨other, clears.allTargets ▸ member, (clears.down other address).mpr ⟨down, stays⟩⟩
    exact ((clears.marked address).mp marked).2 ⟨ref, now⟩
  · intro covered address
    rw [clears.marked, inStep address, clears.allTargets]
    constructor
    · rintro ⟨⟨ref, member, down⟩, kept⟩
      refine ⟨ref, member, (clears.down ref address).mpr ⟨down, ?_⟩⟩
      rintro ⟨other, now⟩
      obtain rfl := clears.addressed ref other address now down
      exact kept ⟨ref, now⟩
    · rintro ⟨ref, member, after⟩
      obtain ⟨down, stays⟩ := (clears.down ref address).mp after
      exact ⟨⟨ref, member, down⟩, fun ⟨other, now⟩ =>
        stays (covered other address now ref member down)⟩

theorem getElem?_change (state : HealthState) (ref other : Nat) (f : TargetRecord → TargetRecord) :
    (state.change ref f).records[other]? =
      if ref = other then f <$> state.records[other]? else state.records[other]? := by
  rw [HealthState.change, List.getElem?_modify]
  by_cases same : ref = other
  · simp [same]
  · simp [same]

theorem clears_reset {state : HealthState} {ref : Nat} {target : TargetRecord}
    (here : state.records[ref]? = some target) :
    Clears (fun other address => other = ref ∧ address = target.address) state
      (state.reset ref target.address) where
  allTargets := rfl
  length := List.length_modify _ _ _
  down other address := by
    have at_ := getElem?_change state ref other TargetRecord.reset
    change (∃ record, (state.change ref TargetRecord.reset).records[other]? = some record ∧ _) ↔ _
    rw [at_]
    by_cases same : ref = other
    · subst other
      rw [if_pos rfl, here]
      constructor
      · rintro ⟨record, found, _, unhealthy⟩
        cases found
        cases unhealthy
      · rintro ⟨_, stays⟩
        exact (stays ⟨_, rfl, rfl⟩).elim
    · rw [if_neg same]
      exact ⟨fun down => ⟨down, fun ⟨_, now, _⟩ => same now.symm⟩, fun both => both.1⟩
  marked address := by
    simp only [Marked, HealthState.reset, Table.get?_erase]
    by_cases same : target.address = address
    · simp [same]
    · simp [same, Ne.symm same]
  addressed other address second := by
    rintro ⟨rfl, rfl⟩ ⟨record, found, rfl, _⟩
    rw [here] at found
    cases found
    rfl

theorem clears_change {state : HealthState} {ref : Nat} {f : TargetRecord → TargetRecord}
    (address : ∀ target, (f target).address = target.address)
    (health : ∀ target, (f target).isHealthy = target.isHealthy) :
    Clears (fun _ _ => False) state (state.change ref f) where
  allTargets := rfl
  length := List.length_modify _ _ _
  down other wanted := by
    unfold Down
    rw [getElem?_change]
    by_cases same : ref = other
    · rw [if_pos same]
      cases state.records[other]? with
      | none => simp
      | some target => simp [address, health]
    · simp [same]
  marked wanted := by simp [Marked, HealthState.change]
  addressed _ _ _ impossible := impossible.elim

theorem Clears.refl (state : HealthState) : Clears (fun _ _ => False) state state where
  allTargets := rfl
  length := rfl
  down _ _ := by simp
  marked _ := by simp
  addressed _ _ _ impossible := impossible.elim

theorem Clears.congr {cleared cleared' : Nat → String → Prop} {before after : HealthState}
    (clears : Clears cleared before after)
    (same : ∀ ref address, cleared' ref address ↔ cleared ref address) :
    Clears cleared' before after := by
  have equal : cleared' = cleared := funext fun ref => funext fun address => propext (same ref address)
  exact equal ▸ clears

section Timer

variable (engine : HealthEngine) (now : Nat)

variable {engine now} in
theorem dueAt_change {state : HealthState} {ref : Nat} {target : TargetRecord}
    {f : TargetRecord → TargetRecord} (here : state.records[ref]? = some target)
    (idle : (f target).due engine now = false) (other : Nat) (address : String) :
    DueAt engine now (state.change ref f) other address ↔
      DueAt engine now state other address ∧ other ≠ ref := by
  unfold DueAt
  rw [getElem?_change]
  by_cases same : ref = other
  · subst other
    rw [if_pos rfl, here]
    constructor
    · rintro ⟨record, found, _, due⟩
      cases found
      rw [idle] at due
      cases due
    · exact fun both => (both.2 rfl).elim
  · rw [if_neg same]
    exact ⟨fun due => ⟨due, Ne.symm same⟩, fun both => both.1⟩

variable {engine now} in
theorem dueAt_idle {state : HealthState} {ref : Nat}
    (idle : ∀ target, state.records[ref]? = some target → target.due engine now = false)
    (other : Nat) (address : String) :
    DueAt engine now state other address ↔
      DueAt engine now state other address ∧ other ≠ ref := by
  refine ⟨fun due => ⟨due, ?_⟩, fun both => both.1⟩
  rintro rfl
  obtain ⟨target, found, _, now_⟩ := due
  rw [idle target found] at now_
  cases now_

theorem check_cases (state : HealthState) (ref : Nat) :
    (state.check engine now ref = state ∧
        ∀ target, state.records[ref]? = some target → target.due engine now = false) ∨
      (∃ target, state.records[ref]? = some target ∧ target.due engine now = false ∧
        state.check engine now ref =
          state.change ref fun target => { target with lastCheckTime := now }) ∨
      ∃ target, state.records[ref]? = some target ∧ target.due engine now = true ∧
        state.check engine now ref = state.reset ref target.address := by
  unfold HealthState.check
  cases here : state.records[ref]? with
  | none => exact Or.inl ⟨rfl, by simp⟩
  | some target =>
      dsimp only
      by_cases probed : target.probeDue engine now = true
      · rw [if_pos probed]
        have timed : (target.healthCheck.opt "interval").truthy = true := by
          rw [TargetRecord.probeDue, Bool.and_eq_true] at probed
          exact probed.1
        exact Or.inr (Or.inl ⟨target, rfl, by simp [TargetRecord.due, timed], rfl⟩)
      · rw [if_neg probed]
        by_cases due : target.due engine now = true
        · rw [if_pos due]
          exact Or.inr (Or.inr ⟨target, rfl, due, rfl⟩)
        · rw [if_neg due]
          refine Or.inl ⟨rfl, fun record found => ?_⟩
          cases found
          exact Bool.eq_false_of_not_eq_true due

theorem check_clears (state : HealthState) (ref : Nat) :
    Clears (fun other address => other = ref ∧ DueAt engine now state other address) state
        (state.check engine now ref) ∧
      ∀ other address, DueAt engine now (state.check engine now ref) other address ↔
        DueAt engine now state other address ∧ other ≠ ref := by
  have none_due (idle : ∀ target, state.records[ref]? = some target →
      target.due engine now = false) (other : Nat) (address : String) :
      (other = ref ∧ DueAt engine now state other address) ↔ False := by
    rw [iff_false]
    rintro ⟨same, due⟩
    exact ((dueAt_idle idle other address).mp due).2 same
  rcases check_cases engine now state ref with
    ⟨same, idle⟩ | ⟨target, here, idle, probed⟩ | ⟨target, here, due, cleared⟩
  · rw [same]
    exact ⟨(Clears.refl state).congr (none_due idle), dueAt_idle idle⟩
  · rw [probed]
    refine ⟨(clears_change (f := fun target => { target with lastCheckTime := now })
      (fun _ => rfl) fun _ => rfl).congr (none_due fun record found => ?_),
      dueAt_change here idle⟩
    rw [here] at found
    cases found
    exact idle
  · rw [cleared]
    refine ⟨(clears_reset here).congr fun other address => and_congr_right ?_,
      dueAt_change here (by simp [TargetRecord.due, TargetRecord.reset])⟩
    rintro rfl
    unfold DueAt
    rw [here]
    constructor
    · rintro ⟨record, found, same, _⟩
      cases found
      exact same.symm
    · rintro rfl
      exact ⟨target, rfl, rfl, due⟩

theorem checkAll_clears (refs : List Nat) (state : HealthState) :
    Clears (fun ref address => ref ∈ refs ∧ DueAt engine now state ref address) state
      (state.checkAll engine now refs) := by
  induction refs generalizing state with
  | nil => exact (Clears.refl state).congr (by simp)
  | cons ref rest ih =>
      obtain ⟨first, due⟩ := check_clears engine now state ref
      have later := ih (state.check engine now ref)
      have split (other : Nat) (address : String) :
          (other ∈ ref :: rest ∧ DueAt engine now state other address) ↔
            (other = ref ∧ DueAt engine now state other address) ∨
              (other ∈ rest ∧ DueAt engine now (state.check engine now ref) other address) := by
        rw [due, List.mem_cons]
        by_cases same : other = ref
        · simp [same]
        · simp [same]
      refine ⟨later.allTargets.trans first.allTargets, later.length.trans first.length, ?_, ?_, ?_⟩
      · intro other address
        simp only [split]
        rw [HealthState.checkAll, List.foldl_cons]
        rw [show rest.foldl (HealthState.check engine now) (state.check engine now ref) =
          (state.check engine now ref).checkAll engine now rest from rfl, later.down, first.down]
        simp only [exists_or, not_or, and_assoc]
      · intro address
        simp only [split]
        rw [HealthState.checkAll, List.foldl_cons]
        rw [show rest.foldl (HealthState.check engine now) (state.check engine now ref) =
          (state.check engine now ref).checkAll engine now rest from rfl, later.marked,
          first.marked]
        simp only [exists_or, not_or, and_assoc]
      · intro other address second now_ down
        rcases (split other address).mp now_ with here | there
        · exact first.addressed other address second here down
        · obtain ⟨target, found, rfl, _⟩ := ((due other address).mp there.2).1
          obtain ⟨record, same, rfl, _⟩ := down
          rw [found] at same
          cases same
          rfl

end Timer

/-! Failures. -/

theorem answer_cases (engine : HealthEngine) (now ref : Nat) (res : HealthResponse)
    (state : HealthState) :
    state.answer engine now ref res = state ∨
      ∃ target, state.records[ref]? = some target ∧
        (responsePasses engine target.healthCheck res = .ok true ∧
            state.answer engine now ref res = state.reset ref target.address ∨
          responsePasses engine target.healthCheck res = .ok false ∧
            state.answer engine now ref res = state.fail engine now ref target) := by
  unfold HealthState.answer
  cases state.records[ref]? with
  | none => exact Or.inl rfl
  | some target =>
      dsimp only
      cases answered : responsePasses engine target.healthCheck res with
      | error thrown => exact Or.inl rfl
      | ok passed =>
          refine Or.inr ⟨target, rfl, ?_⟩
          cases passed
          · exact Or.inr ⟨answered, rfl⟩
          · exact Or.inl ⟨answered, rfl⟩

theorem down_fail {engine : HealthEngine} {now : Nat} {state : HealthState} {ref : Nat}
    {target : TargetRecord} (here : state.records[ref]? = some target) (other : Nat)
    (address : String) :
    Down (state.fail engine now ref target) other address ↔ Down state other address ∨
      (target.atLimit engine = true ∧ other = ref ∧ address = target.address) := by
  change (∃ record, (state.change ref (TargetRecord.fail engine now)).records[other]? =
    some record ∧ _) ↔ _
  rw [getElem?_change]
  unfold Down
  by_cases same : ref = other
  · subst other
    rw [if_pos rfl, here]
    simp only [Option.map_eq_map, Option.map_some, Option.some.injEq, exists_eq_left', true_and,
      TargetRecord.fail, TargetRecord.atLimit, Bool.and_eq_false_iff, Bool.not_eq_false']
    tauto
  · simp [same, Ne.symm same]

theorem marked_fail (engine : HealthEngine) (now : Nat) (state : HealthState) (ref : Nat)
    (target : TargetRecord) (address : String) :
    Marked (state.fail engine now ref target) address ↔
      Marked state address ∨ (target.atLimit engine = true ∧ address = target.address) := by
  unfold Marked HealthState.fail
  dsimp only
  by_cases limit : target.atLimit engine = true
  · rw [if_pos limit, Table.get?_set]
    by_cases same : target.address = address
    · simp [same, limit]
    · simp [same, Ne.symm same]
  · simp [limit]

theorem fail_inStep_iff {engine : HealthEngine} {now : Nat} {state : HealthState} {ref : Nat}
    {target : TargetRecord} (here : state.records[ref]? = some target) (inStep : SetInStep state) :
    SetInStep (state.fail engine now ref target) ↔
      (target.atLimit engine = true → ref ∈ state.allTargets ∨
        ∃ other ∈ state.allTargets, Down state other target.address) := by
  have down := @down_fail engine now _ _ _ here
  have marked := marked_fail engine now state ref target
  have targets : (state.fail engine now ref target).allTargets = state.allTargets := rfl
  constructor
  · intro kept limit
    obtain ⟨other, member, after⟩ := (kept target.address).mp
      ((marked target.address).mpr (Or.inr ⟨limit, rfl⟩))
    rcases (down other target.address).mp after with before | ⟨_, rfl, _⟩
    · exact Or.inr ⟨other, member, before⟩
    · exact Or.inl member
  · intro covered address
    rw [marked, inStep address, targets]
    constructor
    · rintro (⟨other, member, before⟩ | ⟨limit, rfl⟩)
      · exact ⟨other, member, (down other address).mpr (Or.inl before)⟩
      · rcases covered limit with member | ⟨other, member, before⟩
        · exact ⟨ref, member, (down ref _).mpr (Or.inr ⟨limit, rfl, rfl⟩)⟩
        · exact ⟨other, member, (down other _).mpr (Or.inl before)⟩
    · rintro ⟨other, member, after⟩
      rcases (down other address).mp after with before | ⟨limit, _, same⟩
      · exact Or.inl ⟨other, member, before⟩
      · exact Or.inr ⟨limit, same⟩

/-! Steps. -/

/-- The references of the entry lead to records. -/
def Placed (state : HealthState) : Prop := ∀ ref ∈ state.allTargets, ref < state.records.length

/-- Another record of the entry counts the address as unhealthy. -/
def DownElsewhere (state : HealthState) (ref : Nat) (address : String) : Prop :=
  ∃ other ∈ state.allTargets, other ≠ ref ∧ Down state other address

/-- A passed probe finds the address unhealthy in no other record of the entry; a failure that
marks the address comes from a record of the entry, or is already known there. -/
def AnswerKeeps (engine : HealthEngine) (state : HealthState) (ref : Nat) (res : HealthResponse) :
    Prop :=
  ∀ target, state.records[ref]? = some target →
    match responsePasses engine target.healthCheck res with
    | .ok true => ¬ DownElsewhere state ref target.address
    | .ok false => target.atLimit engine = true → ref ∈ state.allTargets ∨
        ∃ other ∈ state.allTargets, Down state other target.address
    | .error _ => True

/-- With each record that the timer resets it resets all of the entry that count the same
address as unhealthy. -/
def TimerKeeps (engine : HealthEngine) (state : HealthState) (refs : List Nat) (now : Nat) : Prop :=
  ∀ ref ∈ refs, ∀ address, DueAt engine now state ref address →
    ∀ other ∈ state.allTargets, Down state other address →
      other ∈ refs ∧ DueAt engine now state other address

/-- Where an update replaces the records, no address is in the set. -/
def UpdateKeeps (name : String) (store : Store) (state : HealthState) : Prop :=
  ∀ resource policies, store.find "Backend" name = some resource →
    findPolicies store "HealthCheckPolicy" (some resource) = .ok policies →
      ∀ address, ¬ Marked state address

def LifeKeeps (engine : HealthEngine) (name : String) (state : HealthState) : LifeEvent → Prop
  | .answered ref _ res => AnswerKeeps engine state ref res
  | .timer now => state.loops ≠ 0 → state.healthCheckPolicy ≠ none →
      TimerKeeps engine state state.allTargets now
  | .updated store _ => UpdateKeeps name store state
  | .formerUpdated _ _ => True
  | .formerTimer refs now =>
      TimerKeeps engine state (refs.filter fun ref => ref ∉ state.allTargets) now

def HealthKeeps (engine : HealthEngine) (name : String) (state : HealthState) : HealthEvent → Prop
  | .constructed _ _ => ∀ address, ¬ Marked state address
  | .life event => LifeKeeps engine name state event

section Steps

variable {engine : HealthEngine} {name : String} {state : HealthState}

theorem checkAll_inStep_iff (inStep : SetInStep state) (refs : List Nat) (now : Nat) :
    SetInStep (state.checkAll engine now refs) ↔ TimerKeeps engine state refs now := by
  rw [(checkAll_clears engine now refs state).inStep_iff inStep]
  constructor
  · intro covered ref member address due other inside down
    obtain ⟨own, listed, dueThere⟩ := covered ref address ⟨member, due⟩ other inside down
    obtain ⟨target, found, rfl, now_⟩ := dueThere
    obtain ⟨record, same, rfl, _⟩ := down
    rw [found] at same
    cases same
    exact ⟨listed, target, found, rfl, now_⟩
  · rintro covered ref address ⟨member, due⟩ other inside down
    exact ⟨address, covered ref member address due other inside down⟩

theorem answer_inStep_iff (inStep : SetInStep state) (ref now : Nat) (res : HealthResponse) :
    SetInStep (state.answer engine now ref res) ↔ AnswerKeeps engine state ref res := by
  unfold HealthState.answer AnswerKeeps
  cases here : state.records[ref]? with
  | none => simpa using inStep
  | some target =>
      simp only [Option.some.injEq, forall_eq']
      cases responsePasses engine target.healthCheck res with
      | error thrown => simpa using inStep
      | ok passed =>
          cases passed with
          | true =>
              dsimp only
              rw [(clears_reset here).inStep_iff inStep]
              unfold DownElsewhere
              constructor
              · rintro covered ⟨other, member, different, down⟩
                obtain ⟨_, same, _⟩ := covered ref target.address ⟨rfl, rfl⟩ other member down
                exact different same
              · rintro alone _ _ ⟨rfl, rfl⟩ other member down
                by_contra apart
                exact alone ⟨other, member, fun same => apart ⟨_, same, rfl⟩, down⟩
          | false => exact fail_inStep_iff here inStep

theorem down_append {records : List TargetRecord} {later : HealthState}
    (appended : later.records = state.records ++ records) {ref : Nat}
    (placed : ref < state.records.length) (address : String) :
    Down later ref address ↔ Down state ref address := by
  unfold Down
  rw [appended, List.getElem?_append_left placed]

theorem not_down_appended {records : List TargetRecord} {later : HealthState}
    (appended : later.records = state.records ++ records)
    (healthy : ∀ target ∈ records, target.isHealthy = true) {ref : Nat}
    (placed : ref ∈ List.range' state.records.length records.length) (address : String) :
    ¬ Down later ref address := by
  rintro ⟨target, found, _, unhealthy⟩
  rw [appended, List.getElem?_append_right (List.mem_range'_1.mp placed).1] at found
  rw [healthy target (List.mem_of_getElem? found)] at unhealthy
  cases unhealthy

theorem inStep_of_healthy (healthy : ∀ ref ∈ state.allTargets, ∀ address, ¬ Down state ref address) :
    SetInStep state ↔ ∀ address, ¬ Marked state address := by
  unfold SetInStep
  refine forall_congr' fun address => ?_
  have none : ¬ ∃ ref ∈ state.allTargets, Down state ref address :=
    fun ⟨ref, member, down⟩ => healthy ref member address down
  simp [none]

theorem update_healthy (store : Store) (now : Nat) {made : List TargetRecord}
    (pushed : (updateResult engine name store now).pushed = some made)
    (healthy : ∀ target ∈ made, target.isHealthy = true) :
    ∀ ref ∈ (state.update engine name store now).allTargets, ∀ address,
      ¬ Down (state.update engine name store now) ref address := by
  intro ref member address
  have appended : (state.update engine name store now).records = state.records ++ made := by
    simp [HealthState.update, pushed]
  have targets : (state.update engine name store now).allTargets =
      List.range' state.records.length made.length := by
    simp [HealthState.update, pushed]
  rw [targets] at member
  exact not_down_appended appended healthy member address

theorem update_unpushed (store : Store) (now : Nat)
    (unpushed : (updateResult engine name store now).pushed = none) :
    (state.update engine name store now).records = state.records ∧
      (state.update engine name store now).allTargets = state.allTargets := by
  simp [HealthState.update, unpushed]

theorem updateResult_unpushed_iff (store : Store) (now : Nat) :
    (updateResult engine name store now).pushed = none ↔
      ¬ ∃ resource policies, store.find "Backend" name = some resource ∧
        findPolicies store "HealthCheckPolicy" (some resource) = .ok policies := by
  cases found : store.find "Backend" name with
  | none => simp [updateResult, found]
  | some resource =>
      cases read : findPolicies store "HealthCheckPolicy" (some resource) with
      | error thrown => simp [updateResult, found, read]
      | ok policies =>
          obtain ⟨made, result, _⟩ := @updateResult_pushed engine now _ _ _ _ found read
          simp [result, read]

theorem update_inStep_iff (inStep : SetInStep state) (store : Store) (now : Nat) :
    SetInStep (state.update engine name store now) ↔ UpdateKeeps name store state := by
  have pushes := @updateResult_unpushed_iff engine name store now
  have marked (address : String) :
      Marked (state.update engine name store now) address ↔ Marked state address := Iff.rfl
  rcases updateResult_cases engine name store now with unpushed | ⟨made, pushed, healthy⟩
  · have vacuous : UpdateKeeps name store state := fun resource policies found read =>
      (pushes.mp unpushed ⟨resource, policies, found, read⟩).elim
    obtain ⟨records, targets⟩ := @update_unpushed engine name state store now unpushed
    have kept : SetInStep (state.update engine name store now) := by
      intro address
      unfold Down
      rw [marked, inStep address, records, targets]
      rfl
    exact ⟨fun _ => vacuous, fun _ => kept⟩
  · rw [inStep_of_healthy (update_healthy store now pushed healthy)]
    have reaches : ∃ resource policies, store.find "Backend" name = some resource ∧
        findPolicies store "HealthCheckPolicy" (some resource) = .ok policies := by
      by_contra none
      rw [pushes.mpr none] at pushed
      cases pushed
    obtain ⟨resource, policies, found, read⟩ := reaches
    exact ⟨fun empty _ _ _ _ => empty, fun keeps => keeps resource policies found read⟩

theorem down_of_dueAt {now ref : Nat} {address : String}
    (due : DueAt engine now state ref address) : Down state ref address := by
  obtain ⟨target, found, same, now_⟩ := due
  refine ⟨target, found, same, ?_⟩
  simp only [TargetRecord.due, Bool.and_eq_true, Bool.not_eq_true'] at now_
  exact now_.1.2

theorem healthCheckAll_inStep_iff (now : Nat)
    (healthy : ∀ ref ∈ state.allTargets, ∀ address, ¬ Down state ref address) :
    SetInStep (state.healthCheckAll engine now) ↔ ∀ address, ¬ Marked state address := by
  unfold HealthState.healthCheckAll
  cases state.healthCheckPolicy with
  | none => exact inStep_of_healthy healthy
  | some policy =>
      have clears := checkAll_clears engine now state.allTargets state
      have nothing (ref : Nat) (address : String) :
          ¬ (ref ∈ state.allTargets ∧ DueAt engine now state ref address) :=
        fun both => healthy ref both.1 address (down_of_dueAt both.2)
      dsimp only
      rw [inStep_of_healthy fun ref member address down => healthy ref (clears.allTargets ▸ member)
        address ((clears.down ref address).mp down).1]
      refine forall_congr' fun address => not_congr ((clears.marked address).trans ?_)
      exact ⟨fun both => both.1, fun marked => ⟨marked, fun ⟨ref, now_⟩ => nothing ref address now_⟩⟩

theorem construct_inStep_iff (store : Store) (now : Nat) :
    SetInStep (state.construct engine name store now) ↔ ∀ address, ¬ Marked state address := by
  have healthy : ∀ ref ∈ (({ state with allTargets := [] } : HealthState).update engine name store
      now).allTargets, ∀ address, ¬ Down (({ state with allTargets := [] } : HealthState).update
        engine name store now) ref address := by
    rcases updateResult_cases engine name store now with unpushed | ⟨made, pushed, healthy⟩
    · rw [(update_unpushed store now unpushed).2]
      exact fun ref member => (nomatch member)
    · exact update_healthy store now pushed healthy
  unfold HealthState.construct
  dsimp only
  by_cases completed : (updateResult engine name store now).completed = true
  · rw [if_pos completed]
    exact healthCheckAll_inStep_iff now healthy
  · rw [if_neg completed]
    exact inStep_of_healthy healthy

theorem life_inStep_iff (inStep : SetInStep state) (placed : Placed state) (event : LifeEvent) :
    SetInStep (lifeStep engine name state event) ↔ LifeKeeps engine name state event := by
  cases event with
  | answered ref now res => exact answer_inStep_iff inStep ref now res
  | updated store now => exact update_inStep_iff inStep store now
  | formerTimer refs now => exact checkAll_inStep_iff inStep _ now
  | timer now =>
      simp only [lifeStep, LifeKeeps]
      by_cases idle : state.loops = 0
      · simpa [idle] using inStep
      · rw [if_neg idle]
        unfold HealthState.healthCheckAll
        cases state.healthCheckPolicy with
        | none => simpa [SetInStep, Down, Marked] using inStep
        | some policy => simpa [idle] using checkAll_inStep_iff inStep state.allTargets now
  | formerUpdated store now =>
      simp only [LifeKeeps, iff_true]
      intro address
      have same (ref : Nat) (member : ref ∈ state.allTargets) :
          Down (lifeStep engine name state (.formerUpdated store now)) ref address ↔
            Down state ref address := down_append rfl (placed ref member) address
      rw [show Marked (lifeStep engine name state (.formerUpdated store now)) address ↔
        Marked state address from Iff.rfl, inStep address]
      exact exists_congr fun ref => and_congr_right fun member => (same ref member).symm

theorem step_inStep_iff (inStep : SetInStep state) (placed : Placed state) (event : HealthEvent) :
    SetInStep (healthStep engine name state event) ↔ HealthKeeps engine name state event := by
  cases event with
  | constructed store now => exact construct_inStep_iff store now
  | life event => exact life_inStep_iff inStep placed event

theorem placed_clears {cleared : Nat → String → Prop} {after : HealthState}
    (clears : Clears cleared state after) (placed : Placed state) : Placed after := by
  intro ref member
  rw [clears.length]
  exact placed ref (clears.allTargets ▸ member)

theorem placed_update (store : Store) (now : Nat) (placed : Placed state) :
    Placed (state.update engine name store now) := by
  intro ref member
  rcases updateResult_cases engine name store now with unpushed | ⟨made, pushed, _⟩
  · obtain ⟨records, targets⟩ := @update_unpushed engine name state store now unpushed
    rw [records]
    exact placed ref (targets ▸ member)
  · simp only [HealthState.update, pushed, Option.map_some, Option.getD_some] at member ⊢
    rw [List.length_append]
    exact (List.mem_range'_1.mp member).2

theorem placed_healthCheckAll (now : Nat) (placed : Placed state) :
    Placed (state.healthCheckAll engine now) := by
  unfold HealthState.healthCheckAll
  split
  · exact placed
  · exact placed_clears (checkAll_clears engine now _ state) placed

theorem placed_step (placed : Placed state) (event : HealthEvent) :
    Placed (healthStep engine name state event) := by
  rcases event with ⟨store, now⟩ | event
  · have updated := @placed_update engine name { state with allTargets := [] } store now
      fun ref member => (nomatch member)
    simp only [healthStep, HealthState.construct]
    split
    · exact placed_healthCheckAll now updated
    · exact updated
  · cases event with
    | answered ref now res =>
        simp only [healthStep, lifeStep, HealthState.answer]
        split
        · exact placed
        · rename_i target here
          split
          · exact placed_clears (clears_reset here) placed
          · intro other member
            have same : (state.fail engine now ref target).records.length = state.records.length :=
              List.length_modify _ _ _
            rw [same]
            exact placed other member
          · exact placed
    | timer now =>
        simp only [healthStep, lifeStep]
        split
        · exact placed
        · exact placed_healthCheckAll now placed
    | updated store now => exact placed_update store now placed
    | formerUpdated store now =>
        intro ref member
        have longer := placed ref member
        simp only [healthStep, lifeStep, List.length_append]
        omega
    | formerTimer refs now =>
        exact placed_clears (checkAll_clears engine now _ state) placed

end Steps

/-- Over every run the set stays in step exactly if every step keeps to its condition. -/
theorem healthSet_inStep_iff (engine : HealthEngine) (name : String) (events : List HealthEvent) :
    EveryStep (healthStep engine name) (fun state event =>
        SetInStep (healthStep engine name state event)) HealthState.empty events ↔
      EveryStep (healthStep engine name) (HealthKeeps engine name) HealthState.empty events := by
  refine @everyStep_congr _ _ (healthStep engine name) (fun state => SetInStep state ∧ Placed state)
    (fun _ _ => True) _ _ (fun state event holds _ => step_inStep_iff holds.1 holds.2 event)
    (fun state event holds _ kept => ⟨kept, placed_step holds.2 event⟩) _
    ⟨fun address => ?_, fun ref member => absurd member List.not_mem_nil⟩ events ?_
  · constructor
    · exact fun marked => absurd marked (by simp [Marked, HealthState.empty])
    · exact fun ⟨ref, member, _⟩ => absurd member List.not_mem_nil
  · exact (everyStep_iff_split _ _ _ _).mpr fun _ _ _ _ => trivial

/-! A target that fails before its policy changes. -/

/-- Whether a number printed like this is at most `count`, for whole numbers. -/
def printedUpTo (count : Nat) : Value → Bool
  | .num text => (List.range (count + 1)).any fun number => Nat.repr number = text
  | _ => false

def plainHealth : HealthEngine where
  modules := plainEngine
  lowerCase name := name
  atLeast := printedUpTo
  elapsed milliseconds := printedUpTo (milliseconds.toNat / 1000)

def healthBackend : Value :=
  .obj [("kind", .str "Backend"), ("metadata", .obj [("name", .str "b")]),
    ("spec", .obj [("targets", .arr [.obj [("address", .str "a"), ("port", .num "80")]])])]

def healthPolicy (interval : String) : Value :=
  .obj [("kind", .str "HealthCheckPolicy"), ("metadata", .obj [("name", .str "p")]),
    ("spec", .obj [
      ("targetRefs", .arr [.obj [("kind", .str "Backend"), ("name", .str "b")]]),
      ("ports", .arr [.obj [("port", .num "80"), ("healthCheck", .obj [
        ("path", .str "/"), ("interval", .num interval), ("maxFails", .num "1"),
        ("matches", .arr [.obj [("statusCodes", .arr [.num "200"])]])])]])])]

def healthStore (interval : String) : Store :=
  Store.init [("b.json", healthBackend), ("p.json", healthPolicy interval)]

def failedProbe : HealthResponse := ⟨.num "500", .str "", []⟩

def policyChanged : List HealthEvent :=
  [.constructed (healthStore "10") 0, .life (.answered 0 1000 failedProbe),
    .life (.updated (healthStore "20") 2000)]

/-- The new record of the address is healthy, but the set still has it. -/
theorem policyChange_leaves_mark :
    ¬ ∀ (engine : HealthEngine) (name : String) (events : List HealthEvent),
      EveryStep (healthStep engine name) (fun state event =>
        SetInStep (healthStep engine name state event)) HealthState.empty events := by
  intro claimed
  have inStep := (claimed plainHealth "b" policyChanged).2.2.1
  have marked : (((policyChanged.foldl (healthStep plainHealth "b")
      HealthState.empty).unhealthySet.get? "a:80")).isSome = true := by decide +kernel
  have healthy : ∀ ref ∈ (policyChanged.foldl (healthStep plainHealth "b")
      HealthState.empty).allTargets, (((policyChanged.foldl (healthStep plainHealth "b")
        HealthState.empty).records[ref]?).map TargetRecord.isHealthy) = some true := by
    decide +kernel
  obtain ⟨ref, member, target, found, _, unhealthy⟩ := (inStep "a:80").mp marked
  have state := healthy ref member
  rw [show (policyChanged.foldl (healthStep plainHealth "b") HealthState.empty).records[ref]? =
    some target from found, Option.map_some, unhealthy] at state
  cases state

end Fgw
