import Sap9001.ControlPackets
import Sap9001.Reconnect
import Sap9001.RetryPolicy
import Sap9001.SensorDriver
import Sap9001.SoftwareWdt

/-! The whole loop of `send_mess` (`app/message_transmitter.cpp`): the choice of the descriptor,
the wait for the gateway, heartbeats and reconnects around the 03 requests. It runs beside the
thread of the ship sensors, the monitor of the watchdog and a registration. -/
namespace Sap9001
namespace SendLoop

open ReceiveBranch MessageTransmitter SensorDriver Reconnect

/-- What `select` answers, and then `read`. -/
inductive Answer
  | timeout
  | selectFailed
  | notSet
  | readFailed
  | endOfFile (a : Attempt)
  | message (recvMessage : Str)

/-- What a step of `send_mess` takes from outside: the answer, two readings of `time`, what
`buildHeartbeat` asks for, whether `write_full` returns 0, and whether the thread of the gas
sensors runs. -/
structure Input where
  answer : Answer
  now₁ : Int
  now₂ : Int
  cpuMem : Str
  gpsFailed : Bool
  written : Bool
  getSensor : Bool

/-- What `send_mess` does that others can see. -/
inductive Action
  | usleep (usec : Int)
  | sleep (seconds : ℕ)
  | write (fd : Int) (packet : Str) (written : Bool)
  | heartbeat (fd now₁ now₂ : Int) (packet : Str)
  | reinit (ok : Bool)
  | settimeofday (tv : TimeVal)

/-- The milliseconds that go by at least. -/
def Action.duration : Action → ℕ
  | .usleep usec => usec.toNat / 1000
  | .sleep seconds => 1000*seconds
  | _ => 0

/-- The point of the loop: its top, `select` on a descriptor, or a 03 request that came in on
one. -/
inductive Pc
  | top
  | selecting (deviceFd : Int)
  | serving (deviceFd : Int)

/-- What does not change in a run. The slots of the watchdog are those that the threads got. -/
structure Setup where
  mktime : Tm → Option Int
  sensorCount : ℕ
  wdtId : Int
  gasWdtId : Int
  shipWdtId : Int

/-- The shared state and the local variables of the loop. `clock` is what the steady clock shows
at least; `actions` and `ops` record what `send_mess` did and what was done to the watchdog. -/
structure Gateway where
  sys : Sys
  wdt : CSoftwareWdt
  pipeline : Pipeline Str
  fdBackoff : ExponentialBackoff
  lastHeartbeat : Int
  count : Int
  pc : Pc
  clock : ℕ
  exited : Bool
  actions : List Action
  ops : List CSoftwareWdt.Op

namespace Gateway

def mac (g : Gateway) : Str := g.sys.world.identity.mac

def goto (pc : Pc) (g : Gateway) : Gateway := { g with pc := pc }

def act (a : Action) (g : Gateway) : Gateway :=
  { g with clock := g.clock + a.duration, actions := g.actions ++ [a] }

def perform (op : CSoftwareWdt.Op) (g : Gateway) : Gateway :=
  { g with wdt := CSoftwareWdt.perform op g.wdt, ops := g.ops ++ [op] }

def feed (wWdtId : Int) (g : Gateway) : Gateway := g.perform (.keepAlive wWdtId)

/-- Feeding where the source first looks whether there is a slot. -/
def feedIfAny (wWdtId : Int) (g : Gateway) : Gateway := if 0 ≤ wWdtId then g.feed wWdtId else g

/-- The top of the loop: without a descriptor it backs off. -/
def chooseFd (g : Gateway) : Gateway :=
  let deviceFd := g.sys.manager.getSuccessFd
  if deviceFd < 0 then
    { g with fdBackoff := g.fdBackoff.nextDelay.2 }.act (.usleep (g.fdBackoff.nextDelay.1*1000))
  else { g with fdBackoff := g.fdBackoff.reset, pc := .selecting deviceFd }

def onTimeout (th : Setup) (deviceFd : Int) (i : Input) (g : Gateway) : Gateway :=
  let g := (g.feed th.wdtId).goto .top
  if i.now₁ - g.lastHeartbeat ≥ 60 then
    let heartbeat := ControlPackets.buildHeartbeat g.sys.world.identity i.cpuMem
      g.sys.manager.getSuccessId g.pipeline.transmitter.transmit.queue.length i.gpsFailed
    { g with lastHeartbeat := i.now₂ }.act (.heartbeat deviceFd i.now₁ i.now₂ heartbeat)
  else g

/-- After an attempt that failed the loop sleeps for 30 s, and for 2 s in any case. -/
def afterReinit (g : Gateway) (a : Attempt) (r : Bool × Sys) : Gateway :=
  let g := { g with sys := r.2, pc := .top, clock := max g.clock a.t₂.toNat }.act (.reinit r.1)
  if r.1 then g.act (.sleep 2) else (g.act (.sleep 30)).act (.sleep 2)

def onEndOfFile (a : Attempt) (g : Gateway) : Option Gateway :=
  if 0 ≤ g.sys.manager.getSuccessId then (endOfFile a g.sys).map (g.afterReinit a)
  else some ((g.goto .top).act (.sleep 2))

/-- The step of the request's handling that is next. -/
def request (th : Setup) (recvMessage : Str) (i : Input) (g : Gateway) : Gateway :=
  { g with
    pipeline := SensorDriver.step g.mac th.sensorCount g.pipeline
      (.transmitter ⟨recvMessage,i.getSensor,i.written⟩) }

def onMessage (th : Setup) (deviceFd : Int) (recvMessage : Str) (i : Input) (g : Gateway) : Gateway :=
  match receive g.mac recvMessage with
  | none => g.goto .top
  | some .dataRequest =>
    ({ g.request th recvMessage i with count := g.count + 1 }.feed th.wdtId).goto (.serving deviceFd)
  | some (.timeFrame _) =>
    let r := packet20 th.mktime g.sys.world.identity recvMessage
    let g := ({ g with
      count := 0
      sys := { g.sys with world := { g.sys.world with identity := r.1 } } }.feed th.wdtId).goto .top
    match r.2 with
    | some tv => g.act (.settimeofday tv)
    | none => g

/-- What a step of the request's handling does besides moving packets: a packet is written; in a
flush the slots are fed after it. -/
def onServe (th : Setup) (deviceFd : Int) (i : Input) (g : Gateway) : Gateway :=
  match g.pipeline.transmitter.pc with
  | .sendOffline (p::_) _ =>
    let g := g.act (.write deviceFd p i.written)
    let g := if i.written then (g.act (.sleep 2)).feed th.wdtId else g
    (g.feedIfAny th.gasWdtId).feedIfAny th.shipWdtId
  | .sendLive p => g.act (.write deviceFd p i.written)
  | _ => g

/-- The request is done when the transmitter waits again. -/
def serve (th : Setup) (deviceFd : Int) (i : Input) (g : Gateway) : Gateway :=
  let g := (g.onServe th deviceFd i).request th [] i
  match g.pipeline.transmitter.pc with
  | .waiting => g.goto .top
  | _ => g

/-- One step of `send_mess`. The descriptor is checked again after `select`. -/
def transmitterStep (th : Setup) (i : Input) (g : Gateway) : Option Gateway :=
  match g.pc with
  | .top => some g.chooseFd
  | .selecting deviceFd =>
    if g.sys.manager.getSuccessFd ≠ deviceFd then some (g.goto .top)
    else
      match i.answer with
      | .timeout => some (g.onTimeout th deviceFd i)
      | .selectFailed => some ((g.goto .top).act (.sleep 1))
      | .notSet | .readFailed => some (g.goto .top)
      | .endOfFile a => g.onEndOfFile a
      | .message recvMessage => some (g.onMessage th deviceFd recvMessage i)
  | .serving deviceFd => some (g.serve th deviceFd i)

/-- A step of the sensor thread feeds its slot when it has read a sensor. -/
def sensorStep (th : Setup) (data06 : Str) (g : Gateway) : Gateway :=
  let g' : Gateway :=
    { g with pipeline := SensorDriver.sensorStep g.mac th.sensorCount data06 g.pipeline }
  match g.pipeline.sensor with
  | .reading _ => g'.feed th.shipWdtId
  | _ => g'

/-- A pass of the monitor; when it detects a hang, SIGUSR1 ends the process. -/
def montior (g : Gateway) : Gateway :=
  { g.perform (.montior (some true)) with
    exited := (g.wdt.montiorWdtRunState (some true)).1 = -1 }

end Gateway

inductive Event
  | transmitter (i : Input)
  | sensor (data06 : Str)
  | montior
  | setEnable (id : Int)

/-- `none` stands for an access through a null pointer. -/
def step (th : Setup) (g : Gateway) (e : Event) : Option Gateway :=
  if g.exited then some g
  else
    match e with
    | .transmitter i => g.transmitterStep th i
    | .sensor data06 => some (g.sensorStep th data06)
    | .montior => some g.montior
    | .setEnable id =>
      some { g with sys := { g.sys with manager := (g.sys.manager.setEnable id).2 } }

variable {th : Setup} {g t : Gateway}

namespace Gateway

/-- The ways in which one step of `send_mess` goes. -/
inductive Turn (th : Setup) (i : Input) (g : Gateway) : Gateway → Prop
  | choose (hpc : g.pc = .top) : Turn th i g g.chooseFd
  | changed {fd} (hpc : g.pc = .selecting fd) (hfd : g.sys.manager.getSuccessFd ≠ fd) :
    Turn th i g (g.goto .top)
  | timeout {fd} (hpc : g.pc = .selecting fd) (hfd : g.sys.manager.getSuccessFd = fd)
    (ha : i.answer = .timeout) : Turn th i g (g.onTimeout th fd i)
  | selectFailed {fd} (hpc : g.pc = .selecting fd) : Turn th i g ((g.goto .top).act (.sleep 1))
  | nothing {fd} (hpc : g.pc = .selecting fd) : Turn th i g (g.goto .top)
  | endOfFile {fd a t} (hpc : g.pc = .selecting fd) (hfd : g.sys.manager.getSuccessFd = fd)
    (ha : i.answer = .endOfFile a) (h : g.onEndOfFile a = some t) : Turn th i g t
  | message {fd m} (hpc : g.pc = .selecting fd) (hfd : g.sys.manager.getSuccessFd = fd)
    (ha : i.answer = .message m) : Turn th i g (g.onMessage th fd m i)
  | serve {fd} (hpc : g.pc = .serving fd) : Turn th i g (g.serve th fd i)

theorem transmitterStep_turn {i : Input} (h : g.transmitterStep th i = some t) : Turn th i g t := by
  unfold transmitterStep at h
  cases hpc : g.pc with
  | top =>
    simp only [hpc,Option.some.injEq] at h
    exact h ▸ .choose hpc
  | serving fd =>
    simp only [hpc,Option.some.injEq] at h
    exact h ▸ .serve hpc
  | selecting fd =>
    simp only [hpc] at h
    by_cases hfd : g.sys.manager.getSuccessFd = fd
    · rw [if_neg (not_not.mpr hfd)] at h
      cases ha : i.answer with
      | timeout =>
        simp only [ha,Option.some.injEq] at h
        exact h ▸ .timeout hpc hfd ha
      | selectFailed =>
        simp only [ha,Option.some.injEq] at h
        exact h ▸ .selectFailed hpc
      | notSet =>
        simp only [ha,Option.some.injEq] at h
        exact h ▸ .nothing hpc
      | readFailed =>
        simp only [ha,Option.some.injEq] at h
        exact h ▸ .nothing hpc
      | endOfFile a =>
        simp only [ha] at h
        exact .endOfFile hpc hfd ha h
      | message m =>
        simp only [ha,Option.some.injEq] at h
        exact h ▸ .message hpc hfd ha
    · rw [if_pos hfd,Option.some.injEq] at h
      exact h ▸ .changed hpc hfd

/-- Feeding slots and what is seen from outside leave the rest alone. -/
structure Frame (g t : Gateway) : Prop where
  sys : t.sys = g.sys
  pipeline : t.pipeline = g.pipeline
  pc : t.pc = g.pc
  fdBackoff : t.fdBackoff = g.fdBackoff
  lastHeartbeat : t.lastHeartbeat = g.lastHeartbeat

theorem Frame.trans {t u : Gateway} (h : Frame g t) (h' : Frame t u) : Frame g u :=
  ⟨h'.sys.trans h.sys,h'.pipeline.trans h.pipeline,h'.pc.trans h.pc,
    h'.fdBackoff.trans h.fdBackoff,h'.lastHeartbeat.trans h.lastHeartbeat⟩

theorem Frame.refl (g : Gateway) : Frame g g := ⟨rfl,rfl,rfl,rfl,rfl⟩

theorem frame_act (a : Action) (g : Gateway) : Frame g (g.act a) := ⟨rfl,rfl,rfl,rfl,rfl⟩

theorem frame_feed (wWdtId : Int) (g : Gateway) : Frame g (g.feed wWdtId) := ⟨rfl,rfl,rfl,rfl,rfl⟩

theorem frame_feedIfAny (wWdtId : Int) (g : Gateway) : Frame g (g.feedIfAny wWdtId) := by
  unfold feedIfAny
  split_ifs
  · exact frame_feed wWdtId g
  · exact .refl g

theorem frame_onServe (th : Setup) (fd : Int) (i : Input) (g : Gateway) :
    Frame g (g.onServe th fd i) := by
  unfold onServe
  split
  · split_ifs
    · exact (frame_act _ g).trans ((frame_act _ _).trans ((frame_feed _ _).trans
        ((frame_feedIfAny _ _).trans (frame_feedIfAny _ _))))
    · exact (frame_act _ g).trans ((frame_feedIfAny _ _).trans (frame_feedIfAny _ _))
  · exact frame_act _ g
  · exact .refl g

end Gateway

abbrev Run (th : Setup) : Gateway → List Event → Gateway → Prop :=
  StepSystem.Run fun g e t => step th g e = some t

/-- The packets that were written whole. -/
def sent (actions : List Action) : List Str :=
  actions.filterMap fun
    | .write _ packet true => some packet
    | _ => none

@[simp] theorem sent_act (a : Action) (g : Gateway) :
    sent (g.act a).actions = sent g.actions ++ sent [a] := List.filterMap_append

theorem sent_act_other {a : Action} (h : sent [a] = []) (g : Gateway) :
    sent (g.act a).actions = sent g.actions := by
  rw [sent_act,h,List.append_nil]

/-- The state in which `send_mess` starts. -/
structure Starts (th : Setup) (g : Gateway) : Prop where
  pc : g.pc = .top
  backoff : g.fdBackoff = .new 1000 30000
  pipeline : ∃ connected loaded, g.pipeline = SensorDriver.start th.sensorCount connected loaded
  running : g.exited = false
  actions : g.actions = []
  ops : g.ops = []

/-- What holds at every point of the loop: no packet is lost, a request is only handled while the
loop serves it, and the packets that count as delivered are those that were written whole. -/
structure Inv (g : Gateway) : Prop where
  packets : MessageTransmitter.Inv g.pipeline.transmitter
  rounds : SensorDriver.Inv g.pipeline
  serving : g.pipeline.transmitter.pc = .waiting ∨ ∃ fd, g.pc = .serving fd
  delivered : (sent g.actions).Perm g.pipeline.transmitter.delivered

theorem starts_inv (h : Starts th g) : Inv g := by
  obtain ⟨connected,loaded,hp⟩ := h.pipeline
  refine ⟨?_,?_,?_,?_⟩
  · rw [hp]
    exact start_inv loaded
  · rw [hp]
    exact SensorDriver.start_inv th.sensorCount connected loaded
  · rw [hp]
    exact .inl rfl
  · rw [hp,h.actions]
    exact List.Perm.nil

section Pipeline

variable {P : Type} {mac : Str} {n : ℕ} {s : Pipeline P}

variable (mac n) in
/-- A step of either thread loses no packet. -/
theorem step_packets (e : SensorDriver.Event P) (h : MessageTransmitter.Inv s.transmitter) :
    MessageTransmitter.Inv (SensorDriver.step mac n s e).transmitter := by
  cases e with
  | transmitter i => exact next_inv (.transmitter i) h
  | sensor data06 =>
    simp only [SensorDriver.step,SensorDriver.sensorStep]
    split
    · split_ifs
      · have hpush := @next_inv P mac s.transmitter (.push data06) h
        exact ⟨hpush.conserved,hpush.flagAgrees⟩
      · exact h
    · split_ifs
      · exact ⟨h.conserved,h.flagAgrees⟩
      · exact h
    · exact h

variable (mac n s) in
/-- The sensor thread leaves the requests alone. -/
theorem sensorStep_request (data06 : P) :
    (SensorDriver.sensorStep mac n data06 s).transmitter.pc = s.transmitter.pc ∧
      (SensorDriver.sensorStep mac n data06 s).transmitter.delivered = s.transmitter.delivered := by
  unfold SensorDriver.sensorStep
  split
  · split_ifs <;> exact ⟨rfl,rfl⟩
  · split_ifs <;> exact ⟨rfl,rfl⟩
  · exact ⟨rfl,rfl⟩

/-- What a step of the request's handling writes whole. -/
def wrote (i : MessageTransmitter.Input) (s : State P) : List P :=
  match s.pc with
  | .sendOffline (p::_) _ | .sendLive p => if i.written then [p] else []
  | _ => []

theorem transmitterStep_delivered (i : MessageTransmitter.Input) (s : State P) :
    (MessageTransmitter.transmitterStep mac i s).delivered.Perm (s.delivered ++ wrote i s) := by
  unfold MessageTransmitter.transmitterStep
  split <;> rename_i hpc <;> simp only [wrote,hpc,State.delivered,List.append_nil]
  · split_ifs <;> rfl
  · rfl
  · rfl
  · split <;> rfl
  · split_ifs
    · simp only [List.append_assoc]
      exact (List.perm_append_comm).append_left _
    · simp
  · rfl
  · split_ifs <;> rfl
  · split <;> rfl
  · split_ifs <;> simp
  · rfl

end Pipeline

theorem sent_onServe (fd : Int) (i : Input) (g : Gateway) (m : Str) :
    sent (g.onServe th fd i).actions =
      sent g.actions ++ wrote ⟨m,i.getSensor,i.written⟩ g.pipeline.transmitter := by
  have hfeed (wWdtId : Int) (u : Gateway) : (u.feedIfAny wWdtId).actions = u.actions := by
    unfold Gateway.feedIfAny
    split_ifs <;> rfl
  unfold Gateway.onServe
  split <;> rename_i hpc
  · cases i.written <;> simp [hfeed,wrote,hpc,Gateway.feed,Gateway.perform] <;> simp [sent]
  · cases i.written <;> simp [wrote,hpc] <;> simp [sent]
  · rename_i hoffline
    unfold wrote
    split <;> rename_i hwrote
    · exact absurd hwrote (hoffline _ _ _)
    · exact absurd hwrote (hpc _)
    · simp

theorem setEnable_inv (h : Inv g) (sys : Sys) : Inv { g with sys := sys } :=
  ⟨h.packets,h.rounds,h.serving,h.delivered⟩

theorem montior_inv (h : Inv g) : Inv g.montior := ⟨h.packets,h.rounds,h.serving,h.delivered⟩

variable (th) in
theorem gateway_sensorStep (data06 : Str) (g : Gateway) :
    (g.sensorStep th data06).pipeline =
      SensorDriver.sensorStep g.mac th.sensorCount data06 g.pipeline ∧
    (g.sensorStep th data06).sys = g.sys ∧ (g.sensorStep th data06).pc = g.pc ∧
    (g.sensorStep th data06).actions = g.actions := by
  unfold Gateway.sensorStep
  split <;> exact ⟨rfl,rfl,rfl,rfl⟩

theorem sensorStep_inv (data06 : Str) (h : Inv g) : Inv (g.sensorStep th data06) := by
  obtain ⟨hpipeline,-,hgpc,hactions⟩ := gateway_sensorStep th data06 g
  obtain ⟨hpc,hdelivered⟩ :=
    sensorStep_request g.mac th.sensorCount g.pipeline data06
  refine ⟨?_,?_,?_,?_⟩
  · rw [hpipeline]
    exact step_packets g.mac th.sensorCount (.sensor data06) h.packets
  · rw [hpipeline]
    exact SensorDriver.sensorStep_inv data06 h.rounds
  · rw [hpipeline,hpc,hgpc]
    exact h.serving
  · rw [hpipeline,hdelivered,hactions]
    exact h.delivered

theorem afterReinit_pc (a : Attempt) (r : Bool × Sys) (g : Gateway) :
    (g.afterReinit a r).pc = .top ∧ (g.afterReinit a r).sys = r.2 ∧
      (g.afterReinit a r).fdBackoff = g.fdBackoff ∧
      (g.afterReinit a r).lastHeartbeat = g.lastHeartbeat ∧
      (g.afterReinit a r).pipeline = g.pipeline := by
  unfold Gateway.afterReinit
  dsimp only
  split_ifs <;> exact ⟨rfl,rfl,rfl,rfl,rfl⟩

theorem afterReinit_spec (a : Attempt) (r : Bool × Sys) (g : Gateway) :
    (g.afterReinit a r).pipeline = g.pipeline ∧ sent (g.afterReinit a r).actions = sent g.actions := by
  unfold Gateway.afterReinit
  cases r.1
  · exact ⟨rfl,(sent_act_other rfl _).trans ((sent_act_other rfl _).trans (sent_act_other rfl _))⟩
  · exact ⟨rfl,(sent_act_other rfl _).trans (sent_act_other rfl _)⟩

/-- What a step of `send_mess` does to the packets: nothing, or a step of the request's handling
with what is written in it. -/
inductive Moves (n : ℕ) (i : Input) (g t : Gateway) : Prop
  | quiet (hpc : ∀ fd, g.pc ≠ .serving fd) (hp : t.pipeline = g.pipeline)
    (hs : sent t.actions = sent g.actions) : Moves n i g t
  | request (m : Str)
    (hp : t.pipeline = SensorDriver.step g.mac n g.pipeline (.transmitter ⟨m,i.getSensor,i.written⟩))
    (hs : sent t.actions = sent g.actions ++ wrote ⟨m,i.getSensor,i.written⟩ g.pipeline.transmitter)
    (hserving : t.pipeline.transmitter.pc = .waiting ∨ ∃ fd, t.pc = .serving fd) : Moves n i g t

theorem turn_moves {i : Input} (h : g.pipeline.transmitter.pc = .waiting ∨ ∃ fd, g.pc = .serving fd)
    (hturn : g.Turn th i t) : Moves th.sensorCount i g t := by
  cases hturn with
  | choose hpc =>
    have hfd : ∀ fd, g.pc ≠ .serving fd := by simp [hpc]
    unfold Gateway.chooseFd
    dsimp only
    split_ifs
    · exact .quiet hfd rfl (sent_act_other rfl _)
    · exact .quiet hfd rfl rfl
  | changed hpc => exact .quiet (by simp [hpc]) rfl rfl
  | nothing hpc => exact .quiet (by simp [hpc]) rfl rfl
  | selectFailed hpc => exact .quiet (by simp [hpc]) rfl (sent_act_other rfl _)
  | timeout hpc =>
    have hfd : ∀ fd, g.pc ≠ .serving fd := by simp [hpc]
    unfold Gateway.onTimeout
    dsimp only
    split_ifs
    · exact .quiet hfd rfl (sent_act_other rfl _)
    · exact .quiet hfd rfl rfl
  | @endOfFile fd a t hpc hfd ha hend =>
    unfold Gateway.onEndOfFile at hend
    split_ifs at hend
    · obtain ⟨r,-,rfl⟩ := Option.map_eq_some_iff.mp hend
      obtain ⟨hp,hs⟩ := afterReinit_spec a r g
      exact .quiet (by simp [hpc]) hp hs
    · obtain rfl := Option.some.inj hend
      exact .quiet (by simp [hpc]) rfl (sent_act_other rfl _)
  | @message fd m hpc =>
    have hwaiting := h.resolve_right (by simp [hpc])
    unfold Gateway.onMessage
    split
    · exact .quiet (by simp [hpc]) rfl rfl
    · refine .request m rfl ?_ (.inr ⟨fd,rfl⟩)
      rw [wrote,hwaiting,List.append_nil]
      rfl
    · dsimp only
      split
      · exact .quiet (by simp [hpc]) rfl (sent_act_other rfl _)
      · exact .quiet (by simp [hpc]) rfl rfl
  | @serve fd hpc =>
    have hframe := Gateway.frame_onServe th fd i g
    have hp : ((g.onServe th fd i).request th [] i).pipeline = SensorDriver.step g.mac th.sensorCount
        g.pipeline (.transmitter ⟨[],i.getSensor,i.written⟩) := by
      simp only [Gateway.request,Gateway.mac,hframe.pipeline,hframe.sys]
    unfold Gateway.serve
    dsimp only
    split
    · rename_i hdone
      exact .request [] hp (sent_onServe fd i g []) (.inl hdone)
    · exact .request [] hp (sent_onServe fd i g []) (.inr ⟨fd,hframe.pc.trans hpc⟩)

theorem turn_inv {i : Input} (h : Inv g) (hturn : g.Turn th i t) : Inv t := by
  cases turn_moves h.serving hturn with
  | quiet hpc hp hs =>
    refine ⟨hp ▸ h.packets,hp ▸ h.rounds,.inl ?_,?_⟩
    · rw [hp]
      exact h.serving.resolve_right (not_exists.mpr hpc)
    · rw [hp,hs]
      exact h.delivered
  | request m hp hs hserving =>
    have hpackets := step_packets g.mac th.sensorCount (.transmitter ⟨m,i.getSensor,i.written⟩) h.packets
    have hrounds : SensorDriver.Inv (SensorDriver.step g.mac th.sensorCount g.pipeline
        (.transmitter ⟨m,i.getSensor,i.written⟩)) := SensorDriver.step_inv _ h.rounds
    refine ⟨hp ▸ hpackets,hp ▸ hrounds,hserving,?_⟩
    rw [hs,hp]
    exact (h.delivered.append_right _).trans (transmitterStep_delivered _ _).symm

theorem step_inv {e : Event} (h : Inv g) (hstep : step th g e = some t) : Inv t := by
  unfold step at hstep
  split_ifs at hstep
  · obtain rfl := Option.some.inj hstep
    exact h
  · cases e with
    | transmitter i => exact turn_inv h (Gateway.transmitterStep_turn hstep)
    | sensor data06 => exact Option.some.inj hstep ▸ sensorStep_inv data06 h
    | montior => exact Option.some.inj hstep ▸ montior_inv h
    | setEnable id => exact Option.some.inj hstep ▸ setEnable_inv h _

theorem run_inv {es : List Event} (hg : Starts th g) (hrun : Run th g es t) : Inv t :=
  hrun.invariant (fun _ _ _ hs hstep => step_inv hs hstep) (starts_inv hg)

/-- Whatever the connection does, the packets loaded and pushed are those in the two queues, those
that the request being served holds, and those written whole, each as often as it was loaded or
pushed. The transmit queue is bounded by what requests left behind, as long as the sensor thread
can lock its mutex. -/
theorem loop_conserves {es : List Event} (hg : Starts th g) (hrun : Run th g es t) :
    (t.pipeline.transmitter.offlineCache ++ (t.pipeline.transmitter.transmit.queue ++
      (t.pipeline.transmitter.pc.hands ++ sent t.actions))).Perm
        (t.pipeline.transmitter.loaded ++ t.pipeline.transmitter.pushed) ∧
    ((∀ fd, t.pc ≠ .serving fd) → t.pipeline.transmitter.pc.hands = []) ∧
    t.pipeline.transmitter.transmit.queue.length ≤ 3 + t.pipeline.backlog ∧
    t.pipeline.rounds ≤ 1 + t.pipeline.requests := by
  have hinv := run_inv hg hrun
  have hconserved := hinv.packets.conserved
  have htokens := hinv.rounds.tokens
  have hrounds := hinv.rounds.rounds
  have hallowance := allowance_le t.pipeline.transmitter.flag t.pipeline.transmitter.pc
  simp only [tokens] at htokens
  refine ⟨?_,?_,by omega,by omega⟩
  · have hsent := hinv.delivered.append_left t.pipeline.transmitter.held
    have hall := hsent.trans hconserved
    simpa [State.held] using hall
  · intro hpc
    have hwaiting := hinv.serving.resolve_right (not_exists.mpr hpc)
    rw [hwaiting]
    rfl

/-- One sensor, and the slots of the ship sensors and of the transmitter. -/
def lanSetup : Setup := ⟨fun _ => none,1,1,-1,0⟩

/-- A LAN device with id 4 on descriptor 6, registered and enabled. -/
def lanGateway : Gateway where
  sys := ⟨(((CommunicaManage.new.addCommunicateNode 4 6).2.callbackRgist 4 0
    (some DeviceInit.ReinitFn.lan)).map fun r => (r.2.setEnable 4).2).getD .new,
    ⟨stdFiles,{},{ mac := str "SAP2400000000000" }⟩⟩
  wdt := .new
  pipeline := SensorDriver.start 1 true []
  fdBackoff := .new 1000 30000
  lastHeartbeat := 0
  count := 0
  pc := .top
  clock := 0
  exited := false
  actions := []
  ops := []

theorem lanGateway_starts : Starts lanSetup lanGateway :=
  ⟨rfl,rfl,⟨true,[],rfl⟩,rfl,rfl,rfl⟩

def answered (answer : Answer) (now : Int) : Event :=
  .transmitter ⟨answer,now,now,[],false,true,false⟩

/-- A packet, and a 03 request that is served. -/
def oneRequest : List Event :=
  .sensor (str "06")::List.replicate 7 (answered (.message requestFrame.bytes) 0)

/-- The state after a run that does not get stuck. -/
def stateAfter (th : Setup) (es : List Event) (g : Gateway) : Gateway :=
  (es.foldlM (step th) g).getD g

theorem run_stateAfter {th : Setup} {es : List Event} {g : Gateway}
    (h : (es.foldlM (step th) g).isSome = true) : Run th g es (stateAfter th es g) := by
  obtain ⟨t,ht⟩ := Option.isSome_iff_exists.mp h
  have hafter : stateAfter th es g = t := by rw [stateAfter,ht,Option.getD_some]
  exact hafter ▸ StepSystem.Run.foldlM ht

abbrev lanAfter : List Event → Gateway → Gateway := stateAfter lanSetup

theorem oneRequest_conserves :
    let t := lanAfter oneRequest lanGateway
    sent t.actions = [str "06"] ∧
      (t.pipeline.transmitter.offlineCache ++ (t.pipeline.transmitter.transmit.queue ++
        (t.pipeline.transmitter.pc.hands ++ sent t.actions))).Perm
          (t.pipeline.transmitter.loaded ++ t.pipeline.transmitter.pushed) :=
  ⟨by decide,(loop_conserves lanGateway_starts (run_stateAfter (by decide))).1⟩

end SendLoop
end Sap9001
