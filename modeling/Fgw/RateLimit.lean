import Fgw.Library.Quota
import Fgw.Library.Runs
import Fgw.ScriptValue

/-!
The backlog of a rate limit filter: each request that is passed takes a slot, and the head of
its response gives the slot back.
-/

namespace Fgw

/-- `backlog` is what `parseInt` returns, 0 for `NaN`; `response` is `config.rateLimit.response`. -/
structure RateLimitConfig where
  backlog : Nat
  response : Value

structure RateLimitReply where
  status : Value
  headers : Value
  body : Value

def RateLimitConfig.reply (config : RateLimitConfig) : RateLimitReply where
  status := (config.response.opt "status").or (.num "429")
  headers := config.response.opt "headers"
  body := (config.response.opt "body").or (.str "Too many requests")

inductive RateLimitChoice
  | pass
  | deny (response : RateLimitReply)

/-- What the filter does with the head of a request. -/
def rateLimitPipe (config : RateLimitConfig) (backlogQuota : Quota) : RateLimitChoice × Quota :=
  if config.backlog ≠ 0 then
    if backlogQuota.consume.1 = 0 then (.deny config.reply, backlogQuota.consume.2)
    else (.pass, backlogQuota.consume.2)
  else (.pass, backlogQuota)

/-- `handleMessageStart` on the way back. -/
def rateLimitRespond (config : RateLimitConfig) (backlogQuota : Quota) : Quota :=
  if config.backlog ≠ 0 then backlogQuota.produce else backlogQuota

structure RateLimiter where
  backlogQuota : Quota
  waiting : List Nat
  deriving DecidableEq

/-- Requests are numbered; a number may be used again once its request is over. -/
inductive RateLimitEvent
  | requested (request : Nat)
  | responded (request : Nat)
  | ended (request : Nat)

namespace RateLimiter

def start (config : RateLimitConfig) : RateLimiter := ⟨⟨config.backlog⟩, []⟩

def request (config : RateLimitConfig) (limiter : RateLimiter) (request : Nat) : RateLimiter :=
  let piped := rateLimitPipe config limiter.backlogQuota
  match piped.1 with
  | .pass => ⟨piped.2, limiter.waiting ++ [request]⟩
  | .deny _ => ⟨piped.2, limiter.waiting⟩

def step (config : RateLimitConfig) (limiter : RateLimiter) : RateLimitEvent → RateLimiter
  | .requested request => limiter.request config request
  | .responded request =>
      if request ∈ limiter.waiting then
        ⟨rateLimitRespond config limiter.backlogQuota, limiter.waiting.erase request⟩
      else limiter
  -- No handler runs when a request ends without a response.
  | .ended request => { limiter with waiting := limiter.waiting.erase request }

/-- The slots left and the waiting requests make up the backlog. -/
def SlotsKept (config : RateLimitConfig) (limiter : RateLimiter) : Prop :=
  Quota.Balanced config.backlog limiter.backlogQuota limiter.waiting.length

def Answered (limiter : RateLimiter) : RateLimitEvent → Prop
  | .ended request => request ∉ limiter.waiting
  | _ => True

theorem slotsKept_request (config : RateLimitConfig) (positive : 0 < config.backlog)
    (limiter : RateLimiter) (kept : SlotsKept config limiter) (number : Nat) :
    SlotsKept config (limiter.request config number) := by
  have limited : config.backlog ≠ 0 := Nat.ne_of_gt positive
  have consumed := Quota.Balanced.consume kept
  unfold SlotsKept request rateLimitPipe
  by_cases refused : limiter.backlogQuota.consume.1 = 0
  · rw [refused] at consumed
    simpa only [limited, refused, ne_eq, not_false_eq_true, if_true, Nat.add_zero] using consumed
  · have taken : limiter.backlogQuota.consume.1 = 1 := by
      have atMost := limiter.backlogQuota.consume_fst_le
      omega
    rw [taken] at consumed
    simpa only [limited, refused, ne_eq, not_false_eq_true, if_true, if_false,
      List.length_append, List.length_singleton] using consumed

theorem slotsKept_step_iff (config : RateLimitConfig) (positive : 0 < config.backlog)
    (limiter : RateLimiter) (kept : SlotsKept config limiter) (event : RateLimitEvent) :
    SlotsKept config (limiter.step config event) ↔ Answered limiter event := by
  have limited : config.backlog ≠ 0 := Nat.ne_of_gt positive
  cases event with
  | requested number =>
      exact iff_of_true (slotsKept_request config positive limiter kept number) trivial
  | responded number =>
      simp only [step, Answered, iff_true]
      by_cases waits : number ∈ limiter.waiting
      · have nonempty := List.length_pos_of_mem waits
        simp only [waits, if_true, SlotsKept, rateLimitRespond, limited, ne_eq,
          not_false_eq_true, List.length_erase_of_mem waits]
        apply (Quota.Balanced.produce_iff kept _).mpr
        omega
      · simpa only [waits, if_false] using kept
  | ended number =>
      simp only [step, Answered, SlotsKept]
      rw [Quota.Balanced.same_iff kept]
      by_cases waits : number ∈ limiter.waiting
      · have nonempty := List.length_pos_of_mem waits
        rw [List.length_erase_of_mem waits]
        simp only [waits, not_true_eq_false, iff_false]
        omega
      · rw [List.erase_of_not_mem waits]
        simp only [waits, not_false_eq_true]

theorem backlog_back {config : RateLimitConfig} {limiter : RateLimiter}
    (kept : SlotsKept config limiter) (idle : limiter.waiting = []) :
    limiter.backlogQuota = ⟨config.backlog⟩ := by
  have balanced : limiter.backlogQuota.tokens + limiter.waiting.length = config.backlog := kept
  rw [idle] at balanced
  cases same : limiter.backlogQuota with
  | mk tokens =>
      rw [same] at balanced
      exact congrArg Quota.mk balanced

theorem slotsKept_start (config : RateLimitConfig) : SlotsKept config (start config) :=
  Quota.balanced_new config.backlog

/-- Over every run the slots are kept, and come back when nothing waits, exactly if no waiting
request ends. -/
theorem slotsKept_iff (config : RateLimitConfig) (positive : 0 < config.backlog)
    (events : List RateLimitEvent) :
    (∀ before after, events = before ++ after →
        SlotsKept config (before.foldl (step config) (start config)) ∧
          ((before.foldl (step config) (start config)).waiting = [] →
            (before.foldl (step config) (start config)).backlogQuota = ⟨config.backlog⟩)) ↔
      EveryStep (step config) Answered (start config) events := by
  rw [← everyState_iff (fun limiter event kept =>
    slotsKept_step_iff config positive limiter kept event) (slotsKept_start config) events]
  constructor
  · intro all before after same
    exact (all before after same).1
  · intro all before after same
    have kept := all before after same
    exact ⟨kept, backlog_back kept⟩

end RateLimiter

/-! The configuration of the test, and a client that goes away. -/

def testRateLimit : RateLimitConfig := ⟨5, .undefined⟩

/-- The second request still waits when the first has been answered and has ended. -/
def oneWaits : List RateLimitEvent := [.requested 0, .requested 1, .responded 0, .ended 0]

theorem slotsKept_answered :
    let run (events : List RateLimitEvent) :=
      events.foldl (RateLimiter.step testRateLimit) (RateLimiter.start testRateLimit)
    RateLimiter.SlotsKept testRateLimit (run oneWaits) ∧ (run oneWaits).waiting = [1] ∧
      (run oneWaits).backlogQuota = ⟨4⟩ ∧ (run (oneWaits ++ [.responded 1])).backlogQuota = ⟨5⟩ := by
  have answered : EveryStep (RateLimiter.step testRateLimit) RateLimiter.Answered
      (RateLimiter.start testRateLimit)
      [.requested 0, .requested 1, .responded 0, .ended 0, .responded 1] :=
    ⟨trivial, trivial, trivial, (by decide : 0 ∉ [1]), trivial, trivial⟩
  have kept := (RateLimiter.slotsKept_iff testRateLimit (by decide)
    (oneWaits ++ [.responded 1])).mpr answered
  exact ⟨(kept oneWaits [.responded 1] rfl).1, by decide, by decide,
    (kept (oneWaits ++ [.responded 1]) [] (List.append_nil _).symm).2 (by decide)⟩

theorem endedRequest_loses_slot :
    ¬ ∀ (config : RateLimitConfig), 0 < config.backlog →
      ∀ (events before after : List RateLimitEvent), events = before ++ after →
        RateLimiter.SlotsKept config
          (before.foldl (RateLimiter.step config) (RateLimiter.start config)) := by
  intro claimed
  have kept := claimed testRateLimit (by decide) [.requested 0, .ended 0]
    [.requested 0, .ended 0] [] rfl
  unfold RateLimiter.SlotsKept Quota.Balanced at kept
  exact absurd kept (by decide)

end Fgw
