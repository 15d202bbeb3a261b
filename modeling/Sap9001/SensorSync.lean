import Sap9001.SensorDriver
import Sap9001.Library.CondVar

/-! The condition variable of the sensor threads (`core/device_context.h`), and the wait of `run`
on it (`sensor/sensor_driver.cpp`): sleeping, waking up and the late broadcast refine the single
step that `SensorDriver` takes. -/
namespace Sap9001
namespace SensorSync

open ReceiveBranch MessageTransmitter SensorDriver

/-- The two flags under the mutex. -/
structure Flags where
  shipDataReady : Bool
  gasDataReady : Bool

def Flags.ready (isShip : Bool) (f : Flags) : Bool :=
  if isShip then f.shipDataReady else f.gasDataReady

def Flags.set (isShip ready : Bool) (f : Flags) : Flags :=
  if isShip then { f with shipDataReady := ready } else { f with gasDataReady := ready }

/-- Up to the broadcast, which comes after the mutex has been released. -/
def notifySensorDataReady (isShip : Bool) (f : Flags) : Flags := f.set isShip true

/-- What a thread that waits does when it has the mutex. -/
def waitForSensorData (isShip : Bool) (f : Flags) : Option Flags :=
  if f.ready isShip then some (f.set isShip false) else none

/-- Threads of both kinds wait on the one condition variable. -/
def protocol : CondVar.Protocol Flags Bool Bool where
  test := waitForSensorData
  update := notifySensorDataReady
  notifies _ _ := 0
  broadcasts _ _ := 1
  wakesAs isShip isShip' := isShip = isShip'

@[simp] theorem ready_set (isShip isShip' ready : Bool) (f : Flags) :
    (f.set isShip ready).ready isShip' = if isShip' = isShip then ready else f.ready isShip' := by
  cases isShip <;> cases isShip' <;> rfl

theorem announces : CondVar.Announces protocol fun isShip f => f.ready isShip = true where
  sleeps := by
    intro isShip f htest
    simpa [protocol,waitForSensorData] using htest
  taken := by
    intro isShip isShip' f f' htest hdue
    simp only [protocol,waitForSensorData] at htest
    split_ifs at htest
    obtain rfl := Option.some.inj htest
    rw [ready_set] at hdue
    split_ifs at hdue
    exact hdue
  added := fun _ _ _ _ => .inr Nat.zero_lt_one

section Detail

variable {P : Type}

/-- Both threads, whether the sensor thread sleeps, and whether `send_mess` is between the release
of the mutex and the broadcast. -/
structure Detail (P : Type) where
  pipeline : Pipeline P
  asleep : Bool
  broadcast : Bool

def start (sensorCount : ℕ) (connected : Bool) (loaded : List P) : Detail P :=
  ⟨SensorDriver.start sensorCount connected loaded,false,false⟩

inductive Event (P : Type)
  | sensor (data06 : P)
  | wake
  | transmitter (i : Input)
  | broadcast

/-- Whether the step calls `notifySensorDataReady`. -/
def notifies : MessageTransmitter.Pc P → Bool
  | .notifyShip | .notifyGas => true
  | _ => false

/-- `none` for a thread that cannot go on: the sensor thread while it sleeps, `send_mess` before it
has broadcast. -/
def step (mac : Str) (sensorCount : ℕ) (d : Detail P) : Event P → Option (Detail P)
  | .sensor data06 =>
    if d.asleep then none
    else
      match d.pipeline.sensor with
      | .waiting _ =>
        if d.pipeline.transmitter.shipDataReady then
          some { d with pipeline := sensorStep mac sensorCount data06 d.pipeline }
        else some { d with asleep := true }
      | _ => some { d with pipeline := sensorStep mac sensorCount data06 d.pipeline }
  | .wake => if d.asleep then some { d with asleep := false } else none
  | .transmitter i =>
    if d.broadcast then none
    else some { d with
      pipeline := SensorDriver.step mac sensorCount d.pipeline (.transmitter i)
      broadcast := notifies d.pipeline.transmitter.pc }
  | .broadcast => if d.broadcast then some ⟨d.pipeline,false,false⟩ else none

/-- The step that the threads take for `SensorDriver`. -/
def Event.coarse : Event P → Option (SensorDriver.Event P)
  | .sensor data06 => some (.sensor data06)
  | .transmitter i => some (.transmitter i)
  | _ => none

variable {mac : Str} {n : ℕ} {d t : Detail P}

abbrev Run (mac : Str) (n : ℕ) : Detail P → List (Event P) → Detail P → Prop :=
  StepSystem.Run fun d e t => step mac n d e = some t

/-- What a step can do. -/
inductive Steps (mac : Str) (n : ℕ) (d : Detail P) : Event P → Detail P → Prop
  | sensor {data06} (hasleep : d.asleep = false)
    (hgoes : ∀ k, d.pipeline.sensor = .waiting k → d.pipeline.transmitter.shipDataReady = true) :
    Steps mac n d (.sensor data06) { d with pipeline := sensorStep mac n data06 d.pipeline }
  | sleeps {data06 k} (hasleep : d.asleep = false) (hwait : d.pipeline.sensor = .waiting k)
    (hready : d.pipeline.transmitter.shipDataReady = false) :
    Steps mac n d (.sensor data06) { d with asleep := true }
  | wake (hasleep : d.asleep = true) : Steps mac n d .wake { d with asleep := false }
  | transmitter {i} (hbroadcast : d.broadcast = false) : Steps mac n d (.transmitter i) { d with
      pipeline := SensorDriver.step mac n d.pipeline (.transmitter i)
      broadcast := notifies d.pipeline.transmitter.pc }
  | broadcast (hbroadcast : d.broadcast = true) : Steps mac n d .broadcast ⟨d.pipeline,false,false⟩

theorem step_steps {e : Event P} (h : step mac n d e = some t) : Steps mac n d e t := by
  cases e with
  | sensor data06 =>
    by_cases hasleep : d.asleep = true
    · simp [step,hasleep] at h
    · rw [step,if_neg hasleep] at h
      simp only [Bool.not_eq_true] at hasleep
      split at h <;> rename_i hwait
      · split_ifs at h with hready
        · exact Option.some.inj h ▸ .sensor hasleep fun _ _ => hready
        · exact Option.some.inj h ▸ .sleeps hasleep hwait (by simpa using hready)
      · exact Option.some.inj h ▸ .sensor hasleep fun k hk => absurd hk (hwait k)
  | wake =>
    simp only [step] at h
    split_ifs at h with hasleep
    exact Option.some.inj h ▸ .wake hasleep
  | transmitter i =>
    simp only [step] at h
    split_ifs at h with hbroadcast
    exact Option.some.inj h ▸ .transmitter (by simpa using hbroadcast)
  | broadcast =>
    simp only [step] at h
    split_ifs at h with hbroadcast
    exact Option.some.inj h ▸ .broadcast hbroadcast

def flags (s : State P) : Flags := ⟨s.shipDataReady,s.gasDataReady⟩

/-- The thread of the ship sensors when it is at its wait. -/
def atWait : SensorDriver.Pc → List Bool
  | .waiting _ => [true]
  | _ => []

/-- The condition variable in the detailed state. -/
def cond (d : Detail P) : CondVar.State Flags Bool where
  shared := flags d.pipeline.transmitter
  testing := if d.asleep then [] else atWait d.pipeline.sensor
  asleep := if d.asleep then [true] else []
  notifies := 0
  broadcasts := d.broadcast.toNat

variable (mac) in
/-- A step of `send_mess` sets a flag where it notifies. -/
theorem transmitterStep_flags (i : Input) (s : State P) :
    (notifies s.pc = false ∧ flags (transmitterStep mac i s) = flags s) ∨
      ∃ isShip, notifies s.pc = true ∧
        flags (transmitterStep mac i s) = notifySensorDataReady isShip (flags s) := by
  unfold transmitterStep
  split <;> rename_i hpc <;> rw [hpc]
  · left
    split_ifs <;> exact ⟨rfl,rfl⟩
  · exact .inr ⟨true,rfl,rfl⟩
  · exact .inr ⟨false,rfl,rfl⟩
  · left
    split <;> exact ⟨rfl,rfl⟩
  · left
    split_ifs <;> exact ⟨rfl,rfl⟩
  · exact .inl ⟨rfl,rfl⟩
  · left
    split_ifs <;> exact ⟨rfl,rfl⟩
  · left
    split <;> exact ⟨rfl,rfl⟩
  · left
    split_ifs <;> exact ⟨rfl,rfl⟩
  · exact .inl ⟨rfl,rfl⟩

/-- The sensor thread only sleeps at its wait. -/
def SleepsAtWait (d : Detail P) : Prop :=
  d.asleep = true → ∃ k, d.pipeline.sensor = .waiting k

theorem steps_sleepsAtWait {e : Event P} (h : SleepsAtWait d) (hstep : Steps mac n d e t) :
    SleepsAtWait t := by
  cases hstep with
  | sensor hasleep =>
    intro htrue
    rw [hasleep] at htrue
    cases htrue
  | sleeps _ hwait => exact fun _ => ⟨_,hwait⟩
  | transmitter => exact h
  | wake | broadcast =>
    intro htrue
    cases htrue

/-- Every detailed step is made of steps of the condition variable. -/
theorem steps_cond {e : Event P} (h : SleepsAtWait d) (hstep : Steps mac n d e t) :
    ∃ es, CondVar.Run protocol (cond d) es (cond t) := by
  cases hstep with
  | @sensor data06 hasleep hgoes =>
    cases hsensor : d.pipeline.sensor with
    | returned =>
      refine ⟨[],?_⟩
      simp only [sensorStep,hsensor]
      exact .refl _
    | waiting k =>
      refine ⟨[.test 0],.single ?_⟩
      have hready := hgoes k hsensor
      simp [CondVar.step,cond,hasleep,hsensor,atWait,protocol,waitForSensorData,Flags.ready,Flags.set,
        flags,hready,sensorStep]
    | reading k =>
      simp only [sensorStep,hsensor]
      split_ifs
      · refine ⟨[.enter true],.single ?_⟩
        simp [CondVar.step,cond,hasleep,hsensor,atWait,flags,next]
      · refine ⟨[],?_⟩
        have hsame : cond { d with
            pipeline := { d.pipeline with sensor := .reading ((k + 1) % n) } } = cond d := by
          simp [cond,hsensor,atWait]
        rw [hsame]
        exact .refl _
  | @sleeps data06 k hasleep hwait hready =>
    refine ⟨[.test 0],.single ?_⟩
    simp [CondVar.step,cond,hasleep,hwait,atWait,protocol,waitForSensorData,Flags.ready,flags,hready]
  | wake hasleep =>
    obtain ⟨k,hwait⟩ := h hasleep
    refine ⟨[.wake 0 true],.single ?_⟩
    simp [CondVar.step,cond,hasleep,hwait,atWait,protocol]
  | @transmitter i hbroadcast =>
    rcases transmitterStep_flags mac i d.pipeline.transmitter with
      ⟨hquiet,hflags⟩ | ⟨isShip,hnotifies,hflags⟩
    · refine ⟨[],?_⟩
      have hsame : cond { d with
          pipeline := SensorDriver.step mac n d.pipeline (.transmitter i)
          broadcast := notifies d.pipeline.transmitter.pc } = cond d := by
        simp only [cond,SensorDriver.step,next,hflags,hquiet,hbroadcast]
      rw [hsame]
      exact .refl _
    · refine ⟨[.update isShip],.single ?_⟩
      simp [CondVar.step,cond,SensorDriver.step,next,hflags,hnotifies,hbroadcast,protocol]
  | broadcast hbroadcast =>
    refine ⟨[.broadcast],.single ?_⟩
    cases hasleep : d.asleep with
    | false => simp [CondVar.step,cond,hasleep,hbroadcast]
    | true =>
      obtain ⟨k,hwait⟩ := h hasleep
      simp [CondVar.step,cond,hasleep,hbroadcast,hwait,atWait]

theorem steps_coarse {e : Event P} (hstep : Steps mac n d e t) :
    t.pipeline = e.coarse.toList.foldl (SensorDriver.step mac n) d.pipeline := by
  cases hstep with
  | sleeps _ hwait hready => simp [Event.coarse,SensorDriver.step,sensorStep,hwait,hready]
  | sensor | wake | transmitter | broadcast => rfl

theorem run_coarse {es : List (Event P)} (hrun : Run mac n d es t) :
    t.pipeline = (es.filterMap Event.coarse).foldl (SensorDriver.step mac n) d.pipeline := by
  induction hrun with
  | refl => rfl
  | @cons d e u es t hstep _ ih =>
    rw [ih,steps_coarse (step_steps hstep)]
    cases hcoarse : e.coarse <;> simp [hcoarse]

theorem run_cond {es : List (Event P)} {connected : Bool} {loaded : List P}
    (hrun : Run mac n (start n connected loaded) es d) : SleepsAtWait d ∧
      ∃ es', CondVar.Run protocol (CondVar.start ⟨false,false⟩) es' (cond d) := by
  refine hrun.invariant (I := fun d => SleepsAtWait d ∧
    ∃ es', CondVar.Run protocol (CondVar.start ⟨false,false⟩) es' (cond d)) ?_ ⟨?_,[],?_⟩
  · rintro d e t ⟨hsleeps,es',hcond⟩ hstep
    obtain ⟨es'',hcond'⟩ := steps_cond hsleeps (step_steps hstep)
    exact ⟨steps_sleepsAtWait hsleeps (step_steps hstep),_,hcond.append hcond'⟩
  · intro hasleep
    cases hasleep
  · have hatWait : atWait (SensorDriver.start n connected loaded).sensor = [] := by
      unfold SensorDriver.start
      dsimp only
      split_ifs <;> rfl
    have hstart : cond (start n connected loaded) = CondVar.start ⟨false,false⟩ := by
      simp only [cond,start,hatWait]
      rfl
    rw [hstart]
    exact .refl _

/-- However often the sensor thread wakes up for nothing and however late the broadcast comes: the
packets go as in `SensorDriver`, where `pthread_mutex_lock` does not fail, and the thread only
sleeps where the step of `SensorDriver` does nothing or the broadcast that wakes it is still to
come. -/
theorem wait_refines {es : List (Event P)} {connected : Bool} {loaded : List P}
    (hrun : Run mac n (start n connected loaded) es d) :
    d.pipeline = (es.filterMap Event.coarse).foldl (SensorDriver.step mac n)
        (SensorDriver.start n connected loaded) ∧
      ∀ data06, step mac n d (.sensor data06) = none →
        SensorDriver.sensorStep mac n data06 d.pipeline = d.pipeline ∨
          ∃ t, step mac n d .broadcast = some t ∧ (step mac n t (.sensor data06)).isSome = true := by
  obtain ⟨hsleeps,es',hcond⟩ := run_cond hrun
  refine ⟨run_coarse hrun,fun data06 hblocked => ?_⟩
  have hasleep : d.asleep = true := by
    by_contra hawake
    simp only [step,if_neg hawake] at hblocked
    split at hblocked
    · split_ifs at hblocked
    · cases hblocked
  obtain ⟨k,hwait⟩ := hsleeps hasleep
  cases hready : d.pipeline.transmitter.shipDataReady with
  | false => exact .inl (by simp [sensorStep,hwait,hready])
  | true =>
    have hpending := announces.announced hcond (k := true) (by simp [cond,hasleep]) hready
    have hbroadcast : d.broadcast = true := by
      cases hbroadcast : d.broadcast with
      | true => rfl
      | false => simp [cond,hbroadcast] at hpending
    refine .inr ⟨⟨d.pipeline,false,false⟩,by rw [step,if_pos hbroadcast],?_⟩
    simp [step,hwait,hready]

/-- The sensor thread has gone to sleep, and `send_mess` has set the flag for a request. -/
def lateBroadcast : List (Event ℕ) :=
  let frame : Event ℕ := .transmitter ⟨requestFrame.bytes,false,true⟩
  [.sensor 7,.sensor 8,frame,frame]

theorem lateBroadcast_wakes : ∃ d : Detail ℕ, Run (str "SAP2400000000000") 1 (start 1 true [])
    lateBroadcast d ∧ d.asleep = true ∧ d.pipeline.transmitter.shipDataReady = true ∧
      ∃ t, step (str "SAP2400000000000") 1 d .broadcast = some t ∧
        (step (str "SAP2400000000000") 1 t (.sensor 8)).isSome = true := by
  have hrun : Run (str "SAP2400000000000") 1 (start 1 true []) lateBroadcast _ :=
    StepSystem.Run.foldlM rfl
  obtain hnothing | hwakes := (wait_refines hrun).2 8 rfl
  · exact absurd (congrArg (fun p => p.transmitter.shipDataReady) hnothing) (by decide)
  · exact ⟨_,hrun,rfl,rfl,hwakes⟩

end Detail

end SensorSync
end Sap9001
