import Sap9001.MessageTransmitter

/-! The thread of the ship sensors (`sensor/sensor_driver.cpp`) against `send_mess`: a round of
readings ends with a packet in `transmit` and waits for the flag that a 03 request sets. -/
namespace Sap9001
namespace SensorDriver

open ReceiveBranch MessageTransmitter

/-- The point that `run` has reached: reading a sensor, waiting for the next request with the
index of the last sensor, or returned. -/
inductive Pc
  | reading (indexFlag : ℕ)
  | waiting (indexFlag : ℕ)
  | returned

/-- Both threads, with a count of the 03 requests, of those that found `offline_cache` not empty
or whose live write failed, and of the rounds. -/
structure Pipeline (P : Type) where
  transmitter : State P
  sensor : Pc
  requests : ℕ
  backlog : ℕ
  rounds : ℕ

/-- `run` returns when there is nothing to read or the connection fails. -/
def start {P : Type} (sensorCount : ℕ) (connected : Bool) (loaded : List P) : Pipeline P where
  transmitter := MessageTransmitter.start loaded
  sensor := if sensorCount = 0 || !connected then .returned else .reading 0
  requests := 0
  backlog := 0
  rounds := 0

/-- One step of `run` on the port of the ship sensors: a sensor is read, and after the last one
the packet is pushed; the wait tests and clears the flag under the mutex, whose
`pthread_mutex_lock` does not fail here. -/
def sensorStep {P : Type} (mac : Str) (sensorCount : ℕ) (data06 : P) (s : Pipeline P) : Pipeline P :=
  match s.sensor with
  | .reading indexFlag =>
    if indexFlag = sensorCount - 1 then
      { s with
        transmitter := next mac s.transmitter (.push data06)
        sensor := .waiting indexFlag
        rounds := s.rounds + 1 }
    else { s with sensor := .reading ((indexFlag + 1) % sensorCount) }
  | .waiting indexFlag =>
    if s.transmitter.shipDataReady then
      { s with
        transmitter := { s.transmitter with shipDataReady := false }
        sensor := .reading ((indexFlag + 1) % sensorCount) }
    else s
  | .returned => s

/-- Whether this step takes a 03 request up. -/
def takesRequest {P : Type} (mac : Str) (i : Input) (s : State P) : ℕ :=
  match s.pc with
  | .waiting => if receive mac i.recvMessage = some .dataRequest then 1 else 0
  | _ => 0

/-- Whether the request turns out, in this step, to leave the live packets where they are. -/
def retains {P : Type} (i : Input) (s : State P) : ℕ :=
  match s.pc with
  | .takeOffline => if s.offlineCache = [] then 0 else 1
  | .sendLive _ => if i.written then 0 else 1
  | _ => 0

inductive Event (P : Type)
  | sensor (data06 : P)
  | transmitter (i : Input)

def step {P : Type} (mac : Str) (sensorCount : ℕ) (s : Pipeline P) : Event P → Pipeline P
  | .sensor data06 => sensorStep mac sensorCount data06 s
  | .transmitter i =>
    { s with
      transmitter := next mac s.transmitter (.transmitter i)
      requests := s.requests + takesRequest mac i s.transmitter
      backlog := s.backlog + retains i s.transmitter }

variable {P : Type} {mac : Str} {sensorCount : ℕ}

/-- Packets in the queue and rounds that may start. -/
def tokens (s : State P) : ℕ := s.transmit.queue.length + s.shipDataReady.toNat

/-- Packets that may come without a further request. -/
def inProgress : Pc → ℕ
  | .reading _ => 1
  | .waiting _ | .returned => 0

/-- The greatest potential at each point of a request: a notification adds one, and the pop or
the count of the backlog takes it back. -/
@[simp] def allowance (flag : Bool) : MessageTransmitter.Pc P → ℕ
  | .notifyGas | .takeOffline | .tryLive => 3
  | .checkFlag => if flag then 3 else 2
  | .pushBack _ => 1
  | _ => 2

/-- Whether a request that was taken up has yet to set the flag. -/
def unnotified (s : State P) : ℕ :=
  match s.pc with
  | .notifyShip => 1
  | _ => 0

theorem transmitterStep_tokens (i : Input) {s : State P} (hflag : s.pc.FlagAgrees s.flag s.found)
    {round backlog : ℕ} (hround : round ≤ 1)
    (h : tokens s + round ≤ allowance s.flag s.pc + backlog) :
    tokens (transmitterStep mac i s) + round ≤
      allowance (transmitterStep mac i s).flag (transmitterStep mac i s).pc +
        (backlog + retains i s) := by
  have hready := Bool.toNat_le s.shipDataReady
  unfold transmitterStep
  split <;> rename_i hpc <;> simp only [tokens,retains,hpc,allowance] at h ⊢ <;>
    simp only [hpc,Pc.FlagAgrees] at hflag
  · split_ifs <;> simp only [hpc] <;> omega
  · -- The notification.
    split_ifs <;> simp <;> omega
  · exact h
  · split <;> rename_i hcache
    · simpa [hflag,hcache] using h
    · simp [hcache]
      omega
  · split_ifs <;> simp <;> omega
  · simpa [hflag.1] using h
  · split_ifs <;> simp_all
  · split <;> rename_i hpop
    · have hq := MessageQueue.tryPop_some (congrArg Prod.fst hpop)
      rw [hpop] at hq
      simp only [hq,List.length_cons] at h
      simp only
      omega
    · -- Nothing to pop: the queue is empty.
      have hq := MessageQueue.tryPop_none (congrArg Prod.fst hpop)
      simp [hq]
      omega
  · split_ifs <;> simp <;> omega
  · simp
    omega

variable (mac) in
/-- A request sets the flag once. -/
theorem transmitterStep_ready (i : Input) (s : State P) :
    (transmitterStep mac i s).shipDataReady.toNat + unnotified (transmitterStep mac i s) ≤
      s.shipDataReady.toNat + unnotified s + takesRequest mac i s := by
  unfold transmitterStep
  split <;> rename_i hpc <;> simp only [unnotified,takesRequest,hpc]
  · split_ifs <;> simp [hpc]
  · split_ifs <;> simp
  · simp
  · split <;> simp
  · split_ifs <;> simp
  · simp
  · split_ifs <;> simp
  · split <;> simp
  · split_ifs <;> simp
  · simp

structure Inv (s : Pipeline P) : Prop where
  flagAgrees : s.transmitter.pc.FlagAgrees s.transmitter.flag s.transmitter.found
  tokens : tokens s.transmitter + inProgress s.sensor ≤
    allowance s.transmitter.flag s.transmitter.pc + s.backlog
  rounds : s.rounds + inProgress s.sensor + s.transmitter.shipDataReady.toNat +
    unnotified s.transmitter ≤ 1 + s.requests

variable {s : Pipeline P}

theorem inProgress_le (sensor : Pc) : inProgress sensor ≤ 1 := by
  cases sensor <;> simp [inProgress]

theorem start_inv (sensorCount : ℕ) (connected : Bool) (loaded : List P) :
    Inv (start sensorCount connected loaded) := by
  have hround := inProgress_le (start sensorCount connected loaded).sensor
  refine ⟨rfl,?_,?_⟩
  · show 0 + _ ≤ 2 + 0
    omega
  · show 0 + _ + 0 + 0 ≤ 1 + 0
    omega

/-- A round in progress becomes a packet, the flag becomes a round. -/
theorem sensorStep_inv (data06 : P) (h : Inv s) : Inv (sensorStep mac sensorCount data06 s) := by
  have htokens := h.tokens
  have hrounds := h.rounds
  simp only [tokens] at htokens
  unfold sensorStep
  split <;> rename_i hsensor <;> simp only [hsensor,inProgress] at htokens hrounds
  · split_ifs
    · refine ⟨h.flagAgrees,?_,?_⟩ <;>
        simp only [next,tokens,inProgress,unnotified,MessageQueue.push_queue,List.length_append,
          List.length_singleton] at hrounds ⊢ <;> omega
    · exact ⟨h.flagAgrees,htokens,hrounds⟩
  · split_ifs with hready
    · rw [hready] at htokens hrounds
      refine ⟨h.flagAgrees,?_,?_⟩ <;>
        simp only [tokens,inProgress,unnotified,Bool.toNat_true,Bool.toNat_false] at htokens hrounds ⊢ <;>
        omega
    · exact h
  · exact h

theorem step_inv (e : Event P) (h : Inv s) : Inv (step mac sensorCount s e) := by
  cases e with
  | sensor data06 => exact sensorStep_inv data06 h
  | transmitter i =>
    have hready := transmitterStep_ready mac i s.transmitter
    have hrounds := h.rounds
    refine ⟨transmitterStep_flagAgrees i h.flagAgrees,?_,?_⟩
    · exact transmitterStep_tokens i h.flagAgrees (inProgress_le s.sensor) h.tokens
    · simp only [step,next]
      omega

theorem run_inv (mac : Str) (sensorCount : ℕ) (connected : Bool) (loaded : List P) (events : List (Event P)) :
    Inv (events.foldl (step mac sensorCount) (start sensorCount connected loaded)) := by
  have hrun := StepSystem.Run.foldl (step mac sensorCount) (start sensorCount connected loaded) events
  refine hrun.invariant ?_ (start_inv sensorCount connected loaded)
  rintro s e t hs rfl
  exact step_inv e hs

theorem allowance_le (flag : Bool) (pc : MessageTransmitter.Pc P) : allowance flag pc ≤ 3 := by
  cases pc <;> cases flag <;> simp

/-- The queue of a pipeline that only requests drive is bounded by what requests left behind, and
there is at most one round more than there are requests. -/
theorem backlog_bounded (mac : Str) (sensorCount : ℕ) (connected : Bool) (loaded : List P)
    (events : List (Event P)) : ∃ s,
    s = events.foldl (step mac sensorCount) (start sensorCount connected loaded) ∧
    s.transmitter.transmit.queue.length ≤ 3 + s.backlog ∧ s.rounds ≤ 1 + s.requests := by
  obtain ⟨-,htokens,hrounds⟩ := run_inv mac sensorCount connected loaded events
  set s := events.foldl (step mac sensorCount) (start sensorCount connected loaded)
  have hallowance := allowance_le s.transmitter.flag s.transmitter.pc
  simp only [tokens] at htokens
  exact ⟨s,rfl,by omega,by omega⟩

end SensorDriver
end Sap9001
