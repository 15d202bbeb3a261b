import Sap9001.HJ212Builder
import Sap9001.Library.StepSystem

/-! `get_cpuOccupy` (`infra/get.cpp`): the load of the system in four digits, and the cache that the
calls of the threads share. The quotients in floating point are a parameter. -/
namespace Sap9001
namespace SystemLoad

open HJ212PacketBuilder

/-- `MEM_OCCUPY`, where `unsigned long` has `w` bits. -/
structure MemOccupy (w : ℕ) where
  memTotal : BitVec w
  memFree : BitVec w

/-- `CPU_OCCUPY` -/
structure CpuOccupy where
  user : BitVec 32
  nice : BitVec 32
  system : BitVec 32
  idle : BitVec 32
  lowait : BitVec 32
  irq : BitVec 32
  softirq : BitVec 32

def CpuOccupy.sum (w : ℕ) (o : CpuOccupy) : BitVec w :=
  o.user.setWidth w + o.nice.setWidth w + o.system.setWidth w + o.idle.setWidth w +
    o.lowait.setWidth w + o.irq.setWidth w + o.softirq.setWidth w

/-- How both functions write a percentage. -/
def percentage (d : Int) : Str :=
  if 0 < d then
    if d < 10 then str "0" ++ toDecimal d
    else if d < 100 then toDecimal d
    else str "99"
  else str "01"

section Samples

-- `percent a b` is `(int)(a * 1.0 / b * 100)`.
variable (percent : ℕ → ℕ → Int) {w : ℕ}

def calMemoccupy (m : MemOccupy w) : Str :=
  if m.memTotal = 0 then str "01"
  else percentage (percent (m.memTotal - m.memFree).toNat m.memTotal.toNat)

variable (w) in
def calCpuoccupy (o n : CpuOccupy) : Str :=
  let sum := n.sum w - o.sum w
  if sum = 0 then str "01"
  else
    let busy := n.user + n.system + n.nice - o.user - o.system - o.nice
    percentage (percent busy.toNat sum.toNat)

/-- What a call reads without the lock; `/proc/stat` is read twice, if it can be. -/
structure Readings (w : ℕ) where
  memStat : MemOccupy w
  cpuStat1 : Option CpuOccupy
  cpuStat2 : Option CpuOccupy

def sample (r : Readings w) : Option Str :=
  match r.cpuStat1,r.cpuStat2 with
  | some o, some n => some (calCpuoccupy percent w o n ++ calMemoccupy percent r.memStat)
  | _, _ => none

end Samples

/-- How a call ended: with the cached result, found at `now`, with a sample that it stored at `time`,
or without one. -/
inductive Return
  | cached (value : Str) (now : Int)
  | sampled (value : Str) (time : Int)
  | unreadable

def Return.value : Return → Str
  | .cached value _ | .sampled value _ => value
  | .unreadable => str "0101"

def Return.stored : Return → Option (Str × Int)
  | .sampled value time => some (value,time)
  | _ => none

/-- The static variables, how many calls are between their two locks, and how the others ended, the
last one first. -/
structure State where
  cachedResult : Str
  lastSampleTime : Int
  sampling : ℕ
  returns : List Return

def start : State := ⟨[],0,0,[]⟩

/-- A thread calls `get_cpuOccupy`, or one of the calls that sample comes to its end. -/
inductive Event (w : ℕ)
  | call (now : Int)
  | finish (r : Readings w) (now : Int)

def Event.now {w : ℕ} : Event w → Int
  | .call now | .finish _ now => now

section Runs

variable {percent : ℕ → ℕ → Int} {w : ℕ} {s t : State}

variable (percent) in
def step (s : State) : Event w → Option State
  | .call now =>
    if s.cachedResult ≠ [] ∧ now - s.lastSampleTime < 30 then
      some { s with returns := .cached s.cachedResult now::s.returns }
    else some { s with sampling := s.sampling + 1 }
  | .finish r now =>
    if s.sampling = 0 then none
    else
      match sample percent r with
      | none => some { s with sampling := s.sampling - 1, returns := .unreadable::s.returns }
      | some cpuMem => some ⟨cpuMem,now,s.sampling - 1,.sampled cpuMem now::s.returns⟩

variable (percent) in
abbrev Run : State → List (Event w) → State → Prop :=
  StepSystem.Run fun s e t => step percent s e = some t

/-- Two percentages from 1 to 99, in two digits each. -/
def Load (value : Str) : Prop :=
  ∃ cpu mem : ℕ, (1 ≤ cpu ∧ cpu ≤ 99) ∧ (1 ≤ mem ∧ mem ≤ 99) ∧
    value = Numerals.padded 10 hexDigit 2 cpu ++ Numerals.padded 10 hexDigit 2 mem

theorem percentage_eq (d : Int) :
    ∃ n : ℕ, (1 ≤ n ∧ n ≤ 99) ∧ percentage d = Numerals.padded 10 hexDigit 2 n := by
  unfold percentage
  split_ifs with hpos hone htwo
  · obtain ⟨n,rfl⟩ := Int.eq_ofNat_of_zero_le hpos.le
    refine ⟨n,by omega,?_⟩
    rw [Numerals.padded_of_lt (d := 0) 10 hexDigit (by decide) (.inr rfl) (by omega),toDecimal,
      if_neg (by omega)]
    rfl
  · obtain ⟨n,rfl⟩ := Int.eq_ofNat_of_zero_le hpos.le
    refine ⟨n,by omega,?_⟩
    rw [Numerals.padded_of_lt (d := 1) 10 hexDigit (by decide) (.inl (by omega)) (by omega),toDecimal,
      if_neg (by omega)]
    rfl
  · exact ⟨99,by decide,by decide⟩
  · exact ⟨1,by decide,by decide⟩

variable (percent) in
theorem calMemoccupy_eq (m : MemOccupy w) : ∃ d, calMemoccupy percent m = percentage d := by
  unfold calMemoccupy
  split_ifs
  · exact ⟨0,rfl⟩
  · exact ⟨_,rfl⟩

variable (percent w) in
theorem calCpuoccupy_eq (o n : CpuOccupy) : ∃ d, calCpuoccupy percent w o n = percentage d := by
  unfold calCpuoccupy
  dsimp only
  split_ifs
  · exact ⟨0,rfl⟩
  · exact ⟨_,rfl⟩

theorem load_percentages (c d : Int) : Load (percentage c ++ percentage d) := by
  obtain ⟨cpu,hcpu,hc⟩ := percentage_eq c
  obtain ⟨mem,hmem,hd⟩ := percentage_eq d
  exact ⟨cpu,mem,hcpu,hmem,by rw [hc,hd]⟩

theorem load_unreadable : Load (str "0101") := load_percentages 0 0

theorem sample_load {r : Readings w} {value : Str} (h : sample percent r = some value) :
    Load value := by
  unfold sample at h
  split at h
  · rename_i o n _ _
    obtain ⟨c,hc⟩ := calCpuoccupy_eq percent w o n
    obtain ⟨d,hd⟩ := calMemoccupy_eq percent r.memStat
    obtain rfl := Option.some.inj h
    rw [hc,hd]
    exact load_percentages c d
  · cases h

/-- Four characters, as the headers of the packets need them. -/
theorem Load.field {value : Str} (h : Load value) : Field 4 value := by
  obtain ⟨cpu,mem,hcpu,hmem,rfl⟩ := h
  have hlength {n : ℕ} (hn : n ≤ 99) : (Numerals.padded 10 hexDigit 2 n).length = 2 :=
    Numerals.length_padded 10 hexDigit (by decide) (by decide) (by omega)
  have hnul (n : ℕ) : (0 : UInt8) ∉ Numerals.padded 10 hexDigit 2 n :=
    Numerals.not_mem_padded 10 hexDigit (by decide) (fun d hd => hexDigit_ne_zero d (by omega)) 2 n
  refine ⟨?_,fun hmem0 => ?_⟩
  · rw [List.length_append,hlength hcpu.2,hlength hmem.2]
  · exact (List.mem_append.mp hmem0).elim (hnul cpu) (hnul mem)

/-- The sample that was stored last. -/
def lastSample (returns : List Return) : Option (Str × Int) := returns.findSome? Return.stored

/-- `P` holds of every result from the cache, with what the calls before returned. -/
def AtCached (P : Str → Int → List Return → Prop) (returns : List Return) : Prop :=
  ∀ after value now before, returns = after ++ .cached value now::before → P value now before

theorem atCached_cons {P : Str → Int → List Return → Prop} {r : Return} {returns : List Return}
    (h : AtCached P returns) (hr : ∀ value now, r = .cached value now → P value now returns) :
    AtCached P (r::returns) := by
  intro after value now before hsplit
  cases after with
  | nil =>
    obtain ⟨hhead,rfl⟩ := List.cons.inj hsplit
    exact hr value now hhead
  | cons r' after =>
    obtain ⟨-,htail⟩ := List.cons.inj hsplit
    exact h after value now before htail

/-- The last sample, and less than 30 s old by the clock. -/
def Recent (value : Str) (now : Int) (before : List Return) : Prop :=
  ∃ time, lastSample before = some (value,time) ∧ now - time < 30

/-- Nothing was stored at a later time. -/
def InOrder (_ : Str) (now : Int) (before : List Return) : Prop :=
  ∀ value time, .sampled value time ∈ before → time ≤ now

structure Inv (s : State) : Prop where
  cache : s.cachedResult = [] ∨ lastSample s.returns = some (s.cachedResult,s.lastSampleTime)
  loads : ∀ r ∈ s.returns, Load r.value
  recent : AtCached Recent s.returns

theorem start_inv : Inv start := ⟨.inl rfl,by simp [start],fun after value now before h => by
  simp [start] at h⟩

theorem mem_of_lastSample {returns : List Return} {value : Str} {time : Int}
    (h : lastSample returns = some (value,time)) : .sampled value time ∈ returns := by
  obtain ⟨r,hr,hstored⟩ := List.exists_of_findSome?_eq_some h
  cases r with
  | sampled =>
    obtain ⟨rfl,rfl⟩ := Prod.mk.inj (Option.some.inj hstored)
    exact hr
  | cached | unreadable => cases hstored

/-- What a step can do. -/
inductive Steps (s : State) : Event w → State → Prop
  | cached {now} (hne : s.cachedResult ≠ []) (hage : now - s.lastSampleTime < 30) :
    Steps s (.call now) { s with returns := .cached s.cachedResult now::s.returns }
  | samples {now} : Steps s (.call now) { s with sampling := s.sampling + 1 }
  | unreadable {r now} : Steps s (.finish r now)
    { s with sampling := s.sampling - 1, returns := .unreadable::s.returns }
  | sampled {r now cpuMem} (hload : Load cpuMem) :
    Steps s (.finish r now) ⟨cpuMem,now,s.sampling - 1,.sampled cpuMem now::s.returns⟩

theorem step_steps {e : Event w} (hstep : step percent s e = some t) : Steps s e t := by
  cases e with
  | call now =>
    simp only [step] at hstep
    split_ifs at hstep with hcached
    · exact Option.some.inj hstep ▸ .cached hcached.1 hcached.2
    · exact Option.some.inj hstep ▸ .samples
  | finish r now =>
    simp only [step] at hstep
    split_ifs at hstep
    cases hsample : sample percent r with
    | none =>
      rw [hsample] at hstep
      exact Option.some.inj hstep ▸ .unreadable
    | some cpuMem =>
      rw [hsample] at hstep
      exact Option.some.inj hstep ▸ .sampled (sample_load hsample)

theorem step_inv {e : Event w} (h : Inv s) (hstep : step percent s e = some t) : Inv t := by
  cases step_steps hstep with
  | cached hne hage =>
    have hlast := h.cache.resolve_left hne
    have hload : Load s.cachedResult := h.loads _ (mem_of_lastSample hlast)
    refine ⟨.inr hlast,List.forall_mem_cons.mpr ⟨hload,h.loads⟩,atCached_cons h.recent ?_⟩
    rintro value now heq
    obtain ⟨rfl,rfl⟩ := Return.cached.inj heq
    exact ⟨_,hlast,hage⟩
  | samples => exact ⟨h.cache,h.loads,h.recent⟩
  | unreadable =>
    exact ⟨h.cache,List.forall_mem_cons.mpr ⟨load_unreadable,h.loads⟩,
      atCached_cons h.recent (by simp)⟩
  | sampled hload =>
    exact ⟨.inr rfl,List.forall_mem_cons.mpr ⟨hload,h.loads⟩,atCached_cons h.recent (by simp)⟩

/-- A step adds at most one return, whose time is that of the step. -/
theorem step_returns {e : Event w} (hstep : step percent s e = some t) :
    t.returns = s.returns ∨ ∃ r, t.returns = r::s.returns ∧
      (∀ value time, r = .sampled value time → time = e.now) ∧
      ∀ value now, r = .cached value now → now = e.now := by
  cases step_steps hstep with
  | cached => exact .inr ⟨_,rfl,by simp,fun value now heq => (Return.cached.inj heq).2.symm⟩
  | samples => exact .inl rfl
  | unreadable => exact .inr ⟨_,rfl,by simp,by simp⟩
  | sampled => exact .inr ⟨_,rfl,fun value time heq => (Return.sampled.inj heq).2.symm,by simp⟩

/-- While the clock is not set back, the samples are from the past. -/
theorem run_inOrder {es : List (Event w)} (hclock : (es.map Event.now).Pairwise (· ≤ ·))
    (hpast : ∀ e ∈ es, InOrder [] e.now s.returns) (h : AtCached InOrder s.returns)
    (hrun : Run percent s es t) : AtCached InOrder t.returns := by
  induction hrun with
  | refl => exact h
  | @cons s e u es t hstep _ ih =>
    rw [List.map_cons,List.pairwise_cons] at hclock
    have hnow := hpast e List.mem_cons_self
    rcases step_returns hstep with hsame | ⟨r,hnew,hsampled,hcached⟩
    · refine ih hclock.2 (fun e' he' => ?_) (hsame ▸ h)
      rw [hsame]
      exact hpast e' (List.mem_cons_of_mem _ he')
    · refine ih hclock.2 (fun e' he' => ?_) ?_
      · rw [hnew]
        intro value time hmem
        rcases List.mem_cons.mp hmem with heq | hold
        · rw [hsampled value time heq.symm]
          exact hclock.1 _ (List.mem_map_of_mem he')
        · exact hpast e' (List.mem_cons_of_mem _ he') value time hold
      · rw [hnew]
        refine atCached_cons h fun value now heq => ?_
        rw [hcached value now heq]
        exact hnow

/-- However the calls of the threads overlap, each returns two percentages in two digits each. What
comes from the cache is the last sample, less than 30 s old by the clock, and from the past as long
as the clock is not set back. -/
theorem loads_reported {es : List (Event w)} (hrun : Run percent start es t) :
    (∀ r ∈ t.returns, Load r.value) ∧
    ∀ after value now before, t.returns = after ++ .cached value now::before →
      ∃ time, lastSample before = some (value,time) ∧ now - time < 30 ∧
        ((es.map Event.now).Pairwise (· ≤ ·) → time ≤ now) := by
  have hinv := hrun.invariant (fun _ _ _ h hstep => step_inv h hstep) start_inv
  refine ⟨hinv.loads,fun after value now before hsplit => ?_⟩
  obtain ⟨time,hlast,hage⟩ := hinv.recent after value now before hsplit
  refine ⟨time,hlast,hage,fun hclock => ?_⟩
  have horder := run_inOrder hclock (by simp [InOrder,start]) (by simp [AtCached,start]) hrun
  exact horder after value now before hsplit value time (mem_of_lastSample hlast)

/-- Half of the memory is free, and of 400 ticks the processor was busy for `busy`. -/
def readings (busy : BitVec 32) : Readings 32 where
  memStat := ⟨512000,256000⟩
  cpuStat1 := some ⟨0,0,0,0,0,0,0⟩
  cpuStat2 := some ⟨busy,0,0,400 - busy,0,0,0⟩

/-- Two calls sample at the same time; the third finds the result of the second. -/
def overlapping : List (Event 32) :=
  [.call 0,.call 0,.finish (readings 100) 1,.finish (readings 300) 2,.call 31]

theorem overlapping_loads : ∃ t, Run (fun a b => (100 * a / b : ℕ)) start overlapping t ∧
    t.returns.map Return.value = [str "7550",str "7550",str "2550"] ∧
    (∀ r ∈ t.returns, Load r.value) ∧
    ∀ after value now before, t.returns = after ++ .cached value now::before →
      ∃ time, lastSample before = some (value,time) ∧ now - time < 30 ∧
        ((overlapping.map Event.now).Pairwise (· ≤ ·) → time ≤ now) := by
  have hends : (overlapping.foldlM (step fun a b => (100 * a / b : ℕ)) start).map
      (fun t => t.returns.map Return.value) = some [str "7550",str "7550",str "2550"] := by
    decide +kernel
  obtain ⟨t,hfold,hvalues⟩ := Option.map_eq_some_iff.mp hends
  have hrun := StepSystem.Run.foldlM hfold
  exact ⟨t,hrun,hvalues,loads_reported hrun⟩

end Runs

end SystemLoad
end Sap9001
