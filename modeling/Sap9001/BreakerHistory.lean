import Sap9001.CircuitBreaker
import Mathlib.Algebra.Ring.Int.Defs
import Mathlib.Data.List.DropRight
import Mathlib.Tactic.Common

/-! The circuit breaker by the history of its calls: what `allowRequest` answers depends on the
failures since the last success, and on the clock at the last of them. -/
namespace Sap9001
namespace CircuitBreaker

inductive Call
  | allowRequest | recordSuccess | recordFailure | reset
  deriving DecidableEq

/-- A call with the clock at which it is made. -/
structure Event where
  call : Call
  time : UInt64
  deriving DecidableEq

def perform (b : CircuitBreaker) (e : Event) : CircuitBreaker :=
  match e.call with
  | .allowRequest => (b.allowRequest e.time).2
  | .recordSuccess => b.recordSuccess
  | .recordFailure => b.recordFailure e.time
  | .reset => b.reset

/-- The breaker after a list of calls, the first call first. -/
def after (failureThreshold cooldownMs : Int) (calls : List Event) : CircuitBreaker :=
  calls.foldl perform (.new failureThreshold cooldownMs)

def Call.clears : Call → Bool
  | .recordSuccess | .reset => true
  | .allowRequest | .recordFailure => false

/-- The clock at each failure since the last success or reset, or since the construction. -/
def failures (calls : List Event) : List UInt64 :=
  ((calls.rtakeWhile fun e => !e.call.clears).filter (·.call = .recordFailure)).map (·.time)

/-- What the `allowRequest` calls among the calls answer. -/
def answers : CircuitBreaker → List Event → List Bool
  | _, [] => []
  | b, e::es =>
    if e.call = .allowRequest then (b.allowRequest e.time).1::answers (b.perform e) es
    else answers (b.perform e) es

variable {failureThreshold cooldownMs : Int} {calls : List Event} {now : UInt64}

theorem after_concat (calls : List Event) (e : Event) :
    after failureThreshold cooldownMs (calls ++ [e]) =
      (after failureThreshold cooldownMs calls).perform e := by
  simp [after]

theorem failures_concat (calls : List Event) (e : Event) : failures (calls ++ [e]) =
    match e.call with
    | .recordSuccess | .reset => []
    | .recordFailure => failures calls ++ [e.time]
    | .allowRequest => failures calls := by
  unfold failures
  rw [List.rtakeWhile_concat]
  cases hc : e.call <;> simp [Call.clears,hc]

/-- The fields of the breaker after a history with the failures `fs`. Without a failure it is
closed even if the threshold is below 1: the count is compared when it goes up. -/
structure Tracks (failureThreshold cooldownMs : Int) (fs : List UInt64) (b : CircuitBreaker) :
    Prop where
  threshold : b.threshold = failureThreshold
  cooldownMs : b.cooldownMs = cooldownMs
  failureCount : b.failureCount = fs.length
  lastFailureTime : ∀ t, fs.getLast? = some t → b.lastFailureTime = t
  closed : b.state = .closed ↔ fs = [] ∨ (fs.length : Int) < failureThreshold

theorem perform_tracks {b : CircuitBreaker} (e : Event)
    (h : Tracks failureThreshold cooldownMs (failures calls) b) :
    Tracks failureThreshold cooldownMs (failures (calls ++ [e])) (b.perform e) := by
  obtain ⟨hthreshold,hcooldown,hcount,hlast,hclosed⟩ := h
  rw [failures_concat,perform]
  cases hc : e.call with
  | allowRequest =>
    simp only [allowRequest]
    split
    · exact ⟨hthreshold,hcooldown,hcount,hlast,hclosed⟩
    · rename_i hstate
      split_ifs
      · refine ⟨hthreshold,hcooldown,hcount,hlast,?_⟩
        simpa [hstate] using hclosed
      · exact ⟨hthreshold,hcooldown,hcount,hlast,hclosed⟩
    · exact ⟨hthreshold,hcooldown,hcount,hlast,hclosed⟩
  | recordSuccess => exact ⟨hthreshold,hcooldown,rfl,by simp,by simp [recordSuccess]⟩
  | reset => exact ⟨hthreshold,hcooldown,rfl,by simp,by simp [reset]⟩
  | recordFailure =>
    simp only [recordFailure,hthreshold,hcount]
    split_ifs with hopen
    · refine ⟨rfl,hcooldown,by simp,by simp,?_⟩
      simp
      omega
    · refine ⟨rfl,hcooldown,by simp,by simp,?_⟩
      simp [hclosed]
      omega

theorem tracks_after (failureThreshold cooldownMs : Int) (calls : List Event) :
    Tracks failureThreshold cooldownMs (failures calls) (after failureThreshold cooldownMs calls) := by
  induction calls using List.reverseRecOn with
  | nil => exact ⟨rfl,rfl,rfl,by simp [failures],by simp [after,new,failures]⟩
  | append_singleton calls e ih =>
    rw [after_concat]
    exact perform_tracks e ih

/-- The cooldown is over at `now`: the code compares unsigned numbers. -/
def Cooled (cooldownMs : Int) (last now : UInt64) : Prop := now - last > UInt64.ofInt cooldownMs

instance (cooldownMs : Int) (last now : UInt64) : Decidable (Cooled cooldownMs last now) :=
  inferInstanceAs (Decidable (_ > _))

theorem refuses_iff (b : CircuitBreaker) (now : UInt64) : (b.allowRequest now).1 = false ↔
    b.state = .opened ∧ ¬ Cooled b.cooldownMs b.lastFailureTime now := by
  unfold allowRequest Cooled
  cases b.state with
  | closed => simp
  | halfOpen => simp
  | opened =>
    simp only [true_and]
    split_ifs with h <;> simp [h]

/-- On a clock that does not go back, the comparison is one of milliseconds. -/
theorem cooled_iff {last : UInt64} (hcooldown : 0 ≤ cooldownMs) (hint : cooldownMs < 2^31)
    (hle : last ≤ now) :
    Cooled cooldownMs last now ↔ cooldownMs < (now.toNat : Int) - last.toNat := by
  have hconst : (UInt64.ofInt cooldownMs).toNat = cooldownMs.toNat := by
    rw [UInt64.ofInt,UInt64.toNat_ofNat']
    omega
  have hsub := UInt64.toNat_sub_of_le now last hle
  have hle' := UInt64.le_iff_toNat_le.mp hle
  rw [Cooled,gt_iff_lt,UInt64.lt_iff_toNat_lt,hconst,hsub]
  omega

/-- The calls were made one after the other, and the last of them not after `now`. -/
def Ordered (calls : List Event) (now : UInt64) : Prop :=
  (calls.map (·.time) ++ [now]).Pairwise (· ≤ ·)

instance (calls : List Event) (now : UInt64) : Decidable (Ordered calls now) :=
  inferInstanceAs (Decidable (List.Pairwise _ _))

theorem Ordered.concat {e : Event} (h : Ordered (calls ++ [e]) now) :
    Ordered calls e.time ∧ e.time ≤ now := by
  rw [Ordered,List.map_append,List.pairwise_append] at h
  exact ⟨h.1,h.2.2 e.time (by simp) now (by simp)⟩

/-- The last failure lies in the past, and a breaker on trial has sat its cooldown out. -/
theorem last_failure_past (failureThreshold : Int) (hcooldown : 0 ≤ cooldownMs) (hint : cooldownMs < 2^31)
    (h : Ordered calls now) :
    (after failureThreshold cooldownMs calls).lastFailureTime ≤ now ∧
      ((after failureThreshold cooldownMs calls).state = .halfOpen →
        Cooled cooldownMs (after failureThreshold cooldownMs calls).lastFailureTime now) := by
  induction calls using List.reverseRecOn generalizing now with
  | nil => exact ⟨UInt64.zero_le,by simp [after,new]⟩
  | append_singleton calls e ih =>
    obtain ⟨hcalls,hnow⟩ := h.concat
    obtain ⟨hpast,htrial⟩ := ih hcalls
    have hfields := tracks_after failureThreshold cooldownMs calls
    rw [after_concat]
    set b := after failureThreshold cooldownMs calls
    -- The cooldown that was over at the clock of the last call is over now.
    have hstays (hc : Cooled cooldownMs b.lastFailureTime e.time) :
        Cooled cooldownMs b.lastFailureTime now := by
      have hnow' := UInt64.le_iff_toNat_le.mp hnow
      rw [cooled_iff hcooldown hint hpast] at hc
      rw [cooled_iff hcooldown hint (UInt64.le_trans hpast hnow)]
      omega
    have hpast' := UInt64.le_trans hpast hnow
    have htrial' (hs : b.state = .halfOpen) := hstays (htrial hs)
    rw [perform]
    cases hc : e.call with
    | allowRequest =>
      simp only [allowRequest]
      split
      · exact ⟨hpast',htrial'⟩
      · split_ifs with hover
        · rw [hfields.cooldownMs] at hover
          exact ⟨hpast',fun _ => hstays hover⟩
        · exact ⟨hpast',htrial'⟩
      · exact ⟨hpast',htrial'⟩
    | recordSuccess => exact ⟨hpast',by simp [recordSuccess]⟩
    | reset => exact ⟨UInt64.zero_le,by simp [reset]⟩
    | recordFailure =>
      simp only [recordFailure]
      split_ifs with hopen
      · exact ⟨hnow,by simp⟩
      · refine ⟨hnow,fun hs => ?_⟩
        -- A count that is still below the threshold belongs to a closed breaker.
        have hclosed := hfields.closed
        have hcount := hfields.failureCount
        have hthreshold := hfields.threshold
        have hs' : b.state = .halfOpen := hs
        simp only [hs',reduceCtorEq,false_iff] at hclosed
        omega

/-- A refused request is one within the cooldown of the last of enough failures; the state is
closed while the failures are fewer. The counter is their number, so it stays an `int` as long
as that does. -/
theorem refuses_iff_history (hthreshold : 1 ≤ failureThreshold) (hcooldown : 0 ≤ cooldownMs)
    (hint : cooldownMs < 2^31) (hclock : Ordered calls now) :
    (((after failureThreshold cooldownMs calls).allowRequest now).1 = false ↔
      failureThreshold ≤ (failures calls).length ∧ ∃ last, (failures calls).getLast? = some last ∧
        (now.toNat : Int) - last.toNat ≤ cooldownMs) ∧
    ((after failureThreshold cooldownMs calls).state = .closed ↔
      (failures calls).length < failureThreshold) ∧
    (after failureThreshold cooldownMs calls).failureCount = (failures calls).length := by
  obtain ⟨-,hcool,hcount,hlast,hclosed⟩ := tracks_after failureThreshold cooldownMs calls
  obtain ⟨hpast,htrial⟩ := last_failure_past failureThreshold hcooldown hint hclock
  have hover := cooled_iff hcooldown hint hpast
  have hfewer : (after failureThreshold cooldownMs calls).state = .closed ↔
      (failures calls).length < failureThreshold := by
    rw [hclosed]
    refine ⟨fun h => h.elim (fun hnil => ?_) id,.inr⟩
    rw [hnil]
    exact hthreshold
  refine ⟨?_,hfewer,hcount⟩
  set b := after failureThreshold cooldownMs calls
  have henough (hs : b.state ≠ .closed) : failureThreshold ≤ (failures calls).length ∧
      (failures calls).getLast? = some b.lastFailureTime := by
    obtain ⟨hne,hlen⟩ := not_or.mp (hclosed.not.mp hs)
    have hsome := List.getLast?_eq_some_getLast hne
    exact ⟨by omega,by rw [hsome,hlast _ hsome]⟩
  rw [refuses_iff,hcool]
  cases hs : b.state with
  | closed =>
    have := hfewer.mp hs
    simp only [reduceCtorEq,false_and,false_iff,not_and]
    omega
  | opened =>
    obtain ⟨hlen,hfailure⟩ := henough (by simp [hs])
    simp [hlen,hfailure,hover]
  | halfOpen =>
    obtain ⟨-,hfailure⟩ := henough (by simp [hs])
    have := hover.mp (htrial hs)
    simp only [reduceCtorEq,false_and,false_iff,not_and,hfailure,Option.some.injEq,
      exists_eq_left']
    omega

/-- Within the cooldown of the second of two failures. -/
theorem second_failure_refuses :
    ((after 2 100 [⟨.recordFailure,10⟩,⟨.recordFailure,20⟩]).allowRequest 50).1 = false :=
  (refuses_iff_history (by decide) (by decide) (by decide) (by decide)).1.mpr
    ⟨by decide,20,rfl,by decide⟩

/-- The documented trial: from the call that half-opens the breaker to the next record, at most
one request is let through. -/
def SingleProbe (failureThreshold cooldownMs : Int) (calls : List Event) : Prop :=
  ∀ pre probe mid, pre ++ probe::mid <+: calls →
    (after failureThreshold cooldownMs pre).state ≠ .halfOpen →
    (after failureThreshold cooldownMs (pre ++ [probe])).state = .halfOpen →
    (∀ e ∈ mid, e.call = .allowRequest) →
    (answers (after failureThreshold cooldownMs pre) (probe::mid)).count true ≤ 1

/-- A request follows directly on one that came after the cooldown of enough failures, with no
record between the two. -/
def Overlapping (failureThreshold cooldownMs : Int) (calls : List Event) : Prop :=
  ∃ pre t t' last, pre ++ [⟨.allowRequest,t⟩,⟨.allowRequest,t'⟩] <+: calls ∧
    failureThreshold ≤ (failures pre).length ∧ (failures pre).getLast? = some last ∧
    Cooled cooldownMs last t

/-- Only a request after the cooldown half-opens the breaker. -/
theorem halfOpened_iff {b : CircuitBreaker} {e : Event} (hs : b.state ≠ .halfOpen) :
    (b.perform e).state = .halfOpen ↔
      e.call = .allowRequest ∧ b.state = .opened ∧ Cooled b.cooldownMs b.lastFailureTime e.time := by
  rw [perform]
  cases hc : e.call with
  | recordSuccess => simp [recordSuccess]
  | reset => simp [reset]
  | recordFailure =>
    simp only [recordFailure]
    split_ifs <;> simp [hs]
  | allowRequest =>
    unfold allowRequest Cooled
    cases hstate : b.state with
    | closed => simp [hstate]
    | halfOpen => exact absurd hstate hs
    | opened =>
      simp only [true_and]
      split_ifs with h <;> simp [h,hstate]

/-- A record ends the trial. -/
theorem allowRequest_of_halfOpen {b : CircuitBreaker} {e : Event} {fs : List UInt64}
    (hb : Tracks failureThreshold cooldownMs fs b) (hs : b.state = .halfOpen)
    (hs' : (b.perform e).state = .halfOpen) : e.call = .allowRequest := by
  rw [perform] at hs'
  cases hc : e.call with
  | allowRequest => rfl
  | recordSuccess => simp [hc,recordSuccess] at hs'
  | reset => simp [hc,reset] at hs'
  | recordFailure =>
    -- The trial began with enough failures, so one more opens the breaker again.
    have hclosed := hb.closed
    have hcount := hb.failureCount
    have hthreshold := hb.threshold
    simp only [hs,reduceCtorEq,false_iff,not_or] at hclosed
    simp only [hc,recordFailure] at hs'
    split_ifs at hs'
    omega

theorem trial_begins (calls : List Event)
    (h : (after failureThreshold cooldownMs calls).state = .halfOpen) :
    ∃ pre probe mid, calls = pre ++ probe::mid ∧
      (after failureThreshold cooldownMs pre).state ≠ .halfOpen ∧
      (after failureThreshold cooldownMs (pre ++ [probe])).state = .halfOpen ∧
      ∀ e ∈ mid, e.call = .allowRequest := by
  induction calls using List.reverseRecOn with
  | nil => simp [after,new] at h
  | append_singleton calls e ih =>
    by_cases hs : (after failureThreshold cooldownMs calls).state = .halfOpen
    · obtain ⟨pre,probe,mid,rfl,hpre,hprobe,hmid⟩ := ih hs
      refine ⟨pre,probe,mid ++ [e],by simp,hpre,hprobe,fun e' he' => ?_⟩
      rcases List.mem_append.mp he' with he' | he'
      · exact hmid e' he'
      · obtain rfl := List.mem_singleton.mp he'
        rw [after_concat] at h
        exact allowRequest_of_halfOpen (tracks_after _ _ _) hs h
    · exact ⟨calls,e,[],rfl,hs,h,by simp⟩

/-- Every request during the trial is let through. -/
theorem answers_of_halfOpen {b : CircuitBreaker} {mid : List Event} (hs : b.state = .halfOpen)
    (hmid : ∀ e ∈ mid, e.call = .allowRequest) : answers b mid = List.replicate mid.length true := by
  induction mid with
  | nil => rfl
  | cons e mid ih =>
    have he := hmid e (by simp)
    have hb : b.perform e = b := by simp [perform,he,allowRequest,hs]
    have hallowed : (b.allowRequest e.time).1 = true := by simp [allowRequest,hs]
    rw [answers,if_pos he,hb,hallowed,ih fun e' he' => hmid e' (by simp [he'])]
    rfl

/-- The request that half-opens the breaker is let through, with all that follow it. -/
theorem count_answers {pre mid : List Event} {probe : Event}
    (hpre : (after failureThreshold cooldownMs pre).state ≠ .halfOpen)
    (hprobe : (after failureThreshold cooldownMs (pre ++ [probe])).state = .halfOpen)
    (hmid : ∀ e ∈ mid, e.call = .allowRequest) :
    (answers (after failureThreshold cooldownMs pre) (probe::mid)).count true = mid.length + 1 := by
  rw [after_concat] at hprobe
  obtain ⟨hcall,hopened,hcooled⟩ := (halfOpened_iff hpre).mp hprobe
  have hallowed : ((after failureThreshold cooldownMs pre).allowRequest probe.time).1 = true := by
    rw [← Bool.not_eq_false,refuses_iff]
    exact fun h => h.2 hcooled
  rw [answers,if_pos hcall,hallowed,answers_of_halfOpen hprobe hmid]
  simp

/-- A trial with a second request lets more than one through. -/
theorem not_singleProbe_of_trial {pre mid : List Event} {probe : Event}
    (hcalls : pre ++ probe::mid <+: calls)
    (hpre : (after failureThreshold cooldownMs pre).state ≠ .halfOpen)
    (hprobe : (after failureThreshold cooldownMs (pre ++ [probe])).state = .halfOpen)
    (hmid : ∀ e ∈ mid, e.call = .allowRequest) (hsecond : mid ≠ []) :
    ¬ SingleProbe failureThreshold cooldownMs calls := by
  intro hsingle
  have hone := hsingle pre probe mid hcalls hpre hprobe hmid
  rw [count_answers hpre hprobe hmid] at hone
  have hpos := List.length_pos_iff.mpr hsecond
  omega

theorem not_closed_of_failures {last : UInt64} (hlen : failureThreshold ≤ (failures calls).length)
    (hlast : (failures calls).getLast? = some last) :
    (after failureThreshold cooldownMs calls).state ≠ .closed := by
  have hclosed := (tracks_after failureThreshold cooldownMs calls).closed
  rw [ne_eq,hclosed,not_or]
  refine ⟨?_,by omega⟩
  intro hnil
  simp [hnil] at hlast

/-- A request after the cooldown that is followed by another makes a trial of two. -/
theorem not_singleProbe_of_overlapping (h : Overlapping failureThreshold cooldownMs calls) :
    ¬ SingleProbe failureThreshold cooldownMs calls := by
  obtain ⟨pre,t,t',last,hcalls,hlen,hlast,hcooled⟩ := h
  have hfields := tracks_after failureThreshold cooldownMs pre
  cases hs : (after failureThreshold cooldownMs pre).state with
  | closed => exact absurd hs (not_closed_of_failures hlen hlast)
  | opened =>
    have hpre : (after failureThreshold cooldownMs pre).state ≠ .halfOpen := by simp [hs]
    have hprobe : (after failureThreshold cooldownMs (pre ++ [⟨.allowRequest,t⟩])).state =
        .halfOpen := by
      rw [after_concat,halfOpened_iff hpre,hfields.cooldownMs,hfields.lastFailureTime last hlast]
      exact ⟨rfl,hs,hcooled⟩
    exact not_singleProbe_of_trial hcalls hpre hprobe (by simp) (by simp)
  | halfOpen =>
    -- The trial began earlier and goes on through both requests.
    obtain ⟨pre',probe,mid,rfl,hpre,hprobe,hmid⟩ := trial_begins pre hs
    have hmid' : ∀ e ∈ mid ++ [⟨.allowRequest,t⟩,⟨.allowRequest,t'⟩], e.call = .allowRequest := by
      intro e he
      rcases List.mem_append.mp he with he | he
      · exact hmid e he
      · simp only [List.mem_cons,List.not_mem_nil,or_false] at he
        rcases he with rfl | rfl <;> rfl
    exact not_singleProbe_of_trial (by simpa using hcalls) hpre hprobe hmid' (by simp)

/-- A trial with a second request begins with a request after the cooldown. -/
theorem overlapping_of_trial {pre mid : List Event} {probe e : Event}
    (hcalls : pre ++ probe::e::mid <+: calls)
    (hpre : (after failureThreshold cooldownMs pre).state ≠ .halfOpen)
    (hprobe : (after failureThreshold cooldownMs (pre ++ [probe])).state = .halfOpen)
    (hsecond : e.call = .allowRequest) : Overlapping failureThreshold cooldownMs calls := by
  rw [after_concat] at hprobe
  have hfields := tracks_after failureThreshold cooldownMs pre
  obtain ⟨hcall,hopened,hcooled⟩ := (halfOpened_iff hpre).mp hprobe
  obtain ⟨hne,hlen⟩ := not_or.mp (hfields.closed.not.mp (by simp [hopened]))
  have hlast := List.getLast?_eq_some_getLast hne
  rw [hfields.cooldownMs,hfields.lastFailureTime _ hlast] at hcooled
  obtain ⟨call,t⟩ := probe
  obtain ⟨call',t'⟩ := e
  subst hcall hsecond
  refine ⟨pre,t,t',_,?_,by omega,hlast,hcooled⟩
  have htwo : pre ++ [⟨.allowRequest,t⟩,⟨.allowRequest,t'⟩] <+:
      pre ++ ⟨.allowRequest,t⟩::⟨.allowRequest,t'⟩::mid :=
    (List.prefix_append_right_inj pre).mpr ⟨mid,rfl⟩
  exact htwo.trans hcalls

/-- One request is let through in each trial exactly when no request overlaps with a trial. -/
theorem single_probe_iff (failureThreshold cooldownMs : Int) (calls : List Event) :
    SingleProbe failureThreshold cooldownMs calls ↔
      ¬ Overlapping failureThreshold cooldownMs calls := by
  constructor
  · intro hsingle hoverlap
    exact not_singleProbe_of_overlapping hoverlap hsingle
  · intro hnone pre probe mid hcalls hpre hprobe hmid
    rw [count_answers hpre hprobe hmid]
    cases mid with
    | nil => rfl
    | cons e mid => exact absurd (overlapping_of_trial hcalls hpre hprobe (hmid e (by simp))) hnone

/-- Five failures, and two requests after the cooldown of the last of them. -/
def twoRequests : List Event :=
  [⟨.recordFailure,1000⟩,⟨.recordFailure,2000⟩,⟨.recordFailure,3000⟩,⟨.recordFailure,4000⟩,
    ⟨.recordFailure,5000⟩,⟨.allowRequest,35001⟩,⟨.allowRequest,35002⟩]

/-- Both are let through. -/
theorem second_request_allowed : ¬ ∀ (failureThreshold cooldownMs : Int) (calls : List Event)
    (now : UInt64), Ordered calls now → SingleProbe failureThreshold cooldownMs calls := by
  intro hall
  have hone := hall 5 30000 twoRequests 35002 (by decide) (twoRequests.take 5)
    ⟨.allowRequest,35001⟩ [⟨.allowRequest,35002⟩] (by decide) (by decide) (by decide) (by decide)
  exact absurd hone (by decide)

end CircuitBreaker
end Sap9001
