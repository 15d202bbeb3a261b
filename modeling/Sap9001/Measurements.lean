import Sap9001.SendLoop
import Sap9001.SensorReadings
import Sap9001.FixedLayout
import Sap9001.PoolHistory
import Sap9001.SystemLoad
import Sap9001.TimeStamp

/-! From the sensors to the server: the loop of `SensorDriver::run` with the values it reads, beside
`send_mess` and what happens to the connection. -/
namespace Sap9001
namespace Measurements

open SensorDriver HJ212 HJ212PacketBuilder SendLoop

/-- What a step of the sensor thread finds: the answers of the bus, the position and the time, and for
the header of a packet the load and the position at that time. -/
structure Reading where
  poll : PollInput
  cpuOccupy : Str
  location : Str

/-- The gateway with the thread of its sensors. -/
structure Device where
  gateway : Gateway
  polling : Polling
  pool : MemoryPool 8

inductive Event
  | transmitter (i : SendLoop.Input)
  | sensor (i : Reading)
  | montior

/-- The step of the sensor thread's loop; its `pthread_mutex_lock` does not fail here (what happens
if it does is in `SensorReadings`), and it tests the flag that `send_mess` sets. -/
def poll (driver : Driver) (mn : Str) (i : Reading) (d : Device) : Polling :=
  pollStep driver mn d.polling
    { i.poll with locked := true, ready := d.gateway.pipeline.transmitter.shipDataReady }

/-- The 06 packet of a report. -/
def packetOf (driver : Driver) (i : Reading) (d : Device) (r : Report) : Str × MemoryPool 8 :=
  packet06 d.gateway.sys.world.identity i.cpuOccupy i.location d.gateway.sys.manager.getSuccessId
    d.pool (hj212Packet (r.dataSegment.getD [])) driver.portInfo

def sensorStep (driver : Driver) (mn : Str) (th : Setup) (i : Reading) (d : Device) : Device :=
  let polling := poll driver mn i d
  match d.polling.pc with
  | .locking => { d with polling := polling }
  | _ =>
    -- A packet is printed when the step has read the last sensor of a pass.
    let printed := if polling.reports.length = d.polling.reports.length then none
      else polling.reports.head?
    match printed with
    | none => { d with gateway := d.gateway.sensorStep th [], polling := polling }
    | some r =>
      let packet := packetOf driver i d r
      { gateway := d.gateway.sensorStep th packet.1, polling := polling, pool := packet.2 }

def step (driver : Driver) (mn : Str) (th : Setup) (d : Device) (e : Event) : Option Device :=
  if d.gateway.exited then some d
  else
    match e with
    | .transmitter i =>
      (SendLoop.step th d.gateway (.transmitter i)).map fun g => { d with gateway := g }
    | .montior => (SendLoop.step th d.gateway .montior).map fun g => { d with gateway := g }
    | .sensor i => some (sensorStep driver mn th i d)

abbrev Run (driver : Driver) (mn : Str) (th : Setup) : Device → List Event → Device → Prop :=
  StepSystem.Run fun d e t => step driver mn th d e = some t

/-- The packet has the segment of the report: its values as they were read in one pass, with -999 for
the reads that failed, printed whole, with their length and checksum. -/
def Carries (driver : Driver) (mn : Str) (r : Report) (packet : Str) : Prop :=
  r.values = r.reads.map (·.getD unread) ∧ r.reads.length = driver.getSensorConfigs.length ∧
    ∃ D pre : Str, r.dataSegment = some D ∧ ItemsWhole driver mn r.values D ∧
      pre.length = 61 ∧ pre.take 3 = str "$06" ∧
      packet = pre ++ (str "##" ++ (lenDigits D.length ++
        (D ++ crcDigits (crc16Checkout D D.length))) ++ str "@")

variable {driver : Driver} {mn : Str} {th : Setup} {loaded : List Str}
  {d t : Device}

/-- What holds of the device at every time. -/
structure Inv (driver : Driver) (mn : Str) (loaded : List Str) (d : Device) : Prop where
  poll : PollInv driver mn d.polling
  size : SizeInv driver mn d.polling
  carried : d.polling.carried = false ∧ ∀ r ∈ d.polling.reports, r.carried = false
  sensor : d.gateway.pipeline.sensor = phase d.polling
  layout : FixedLayout.Inv d.gateway.sys
  pool : d.pool = .new 8
  loaded : d.gateway.pipeline.transmitter.loaded = loaded
  pushed : ∀ packet ∈ d.gateway.pipeline.transmitter.pushed,
    ∃ r ∈ d.polling.reports, Carries driver mn r packet

section Transmitter

variable {g u : Gateway}

/-- `send_mess` and the monitor push nothing and leave the sensor thread where it is. -/
structure Leaves (g u : Gateway) : Prop where
  sensor : u.pipeline.sensor = g.pipeline.sensor
  pushed : u.pipeline.transmitter.pushed = g.pipeline.transmitter.pushed
  loaded : u.pipeline.transmitter.loaded = g.pipeline.transmitter.loaded
  layout : FixedLayout.Inv g.sys → FixedLayout.Inv u.sys

theorem Leaves.same (hp : u.pipeline = g.pipeline) (hs : u.sys = g.sys) : Leaves g u :=
  ⟨by rw [hp],by rw [hp],by rw [hp],fun h => hs ▸ h⟩

theorem Leaves.request {n : ℕ} {i : MessageTransmitter.Input}
    (hp : u.pipeline = SensorDriver.step g.mac n g.pipeline (.transmitter i)) (hs : u.sys = g.sys) :
    Leaves g u := by
  refine ⟨by rw [hp]; rfl,?_,?_,fun h => hs ▸ h⟩
  · rw [hp]
    exact MessageTransmitter.transmitterStep_pushed i g.pipeline.transmitter
  · rw [hp]
    exact MessageTransmitter.transmitterStep_loaded i g.pipeline.transmitter

theorem turn_leaves {i : SendLoop.Input} (h : g.Turn th i u) : Leaves g u := by
  cases h with
  | choose =>
    unfold Gateway.chooseFd
    dsimp only
    split_ifs <;> exact .same rfl rfl
  | changed | nothing | selectFailed => exact .same rfl rfl
  | timeout =>
    unfold Gateway.onTimeout
    dsimp only
    split_ifs <;> exact .same rfl rfl
  | endOfFile hpc hfd ha hend =>
    unfold Gateway.onEndOfFile at hend
    split_ifs at hend
    · obtain ⟨r,hr,rfl⟩ := Option.map_eq_some_iff.mp hend
      obtain ⟨hpipeline,-⟩ := afterReinit_spec _ r g
      refine ⟨by rw [hpipeline],by rw [hpipeline],by rw [hpipeline],fun h => ?_⟩
      obtain ⟨r',hr',hdevices,hregistered⟩ := h.devices.endOfFile h.registered _
      obtain rfl := Option.some.inj (hr'.symm.trans hr)
      rw [(afterReinit_pc _ _ g).2.1]
      exact ⟨hregistered,hdevices⟩
    · obtain rfl := Option.some.inj hend
      exact .same rfl rfl
  | @message _ m =>
    unfold Gateway.onMessage
    split
    · exact .same rfl rfl
    · exact .request (n := th.sensorCount) rfl rfl
    · dsimp only
      split <;> exact ⟨rfl,rfl,rfl,fun h => ⟨h.registered.packet20 _ _,h.devices⟩⟩
  | @serve fd =>
    have hframe := Gateway.frame_onServe th fd i g
    have hpipeline : ((g.onServe th fd i).request th [] i).pipeline =
        SensorDriver.step g.mac th.sensorCount g.pipeline (.transmitter ⟨[],i.getSensor,i.written⟩) := by
      rw [Gateway.request,Gateway.mac,hframe.sys,hframe.pipeline]
      rfl
    unfold Gateway.serve
    dsimp only
    split <;> exact .request hpipeline hframe.sys

theorem step_leaves {e : SendLoop.Event} (he : ∀ data06, e ≠ .sensor data06)
    (hstep : SendLoop.step th g e = some u) : Leaves g u := by
  unfold SendLoop.step at hstep
  split_ifs at hstep
  · obtain rfl := Option.some.inj hstep
    exact .same rfl rfl
  · cases e with
    | transmitter i => exact turn_leaves (Gateway.transmitterStep_turn hstep)
    | sensor data06 => exact absurd rfl (he data06)
    | montior => exact Option.some.inj hstep ▸ .same rfl rfl
    | setEnable id =>
      obtain rfl := Option.some.inj hstep
      exact ⟨rfl,rfl,rfl,fun h => ⟨h.registered,h.devices.setEnable rfl⟩⟩

end Transmitter

section Sensor

/-- A step of the loop reports at the end of a pass only, with what it read in that pass. -/
theorem poll_reports (i : Reading) (h : Inv driver mn loaded d) :
    ((poll driver mn i d).carried = false ∧
      ∀ r ∈ (poll driver mn i d).reports, r.carried = false) ∧
    ((poll driver mn i d).reports = d.polling.reports ∧
        phase d.polling ≠ .reading (driver.getSensorConfigs.length - 1) ∨
      (∃ r, (poll driver mn i d).reports = r::d.polling.reports) ∧
        phase d.polling = .reading (driver.getSensorConfigs.length - 1)) := by
  obtain ⟨hcarried,hreports⟩ := h.carried
  have hat := h.poll.passAt
  unfold poll pollStep
  cases hpc : d.polling.pc with
  | polling =>
    simp only [PassAt,hpc] at hat
    simp only [pollSensor,List.getElem?_eq_getElem hat.2.1,phase,hpc]
    split_ifs with hlast
    · refine ⟨⟨hcarried,?_⟩,.inr ⟨⟨_,rfl⟩,by rw [hlast]⟩⟩
      rw [List.forall_mem_cons]
      exact ⟨hcarried,hreports⟩
    · exact ⟨⟨hcarried,hreports⟩,.inl ⟨rfl,fun heq => hlast (Pc.reading.inj heq)⟩⟩
  | locking => exact ⟨⟨hcarried,hreports⟩,.inl ⟨rfl,by simp [phase,hpc]⟩⟩
  | waiting =>
    dsimp only
    split_ifs
    · exact ⟨⟨rfl,hreports⟩,.inl ⟨rfl,by simp [phase,hpc]⟩⟩
    · exact ⟨⟨hcarried,hreports⟩,.inl ⟨rfl,by simp [phase,hpc]⟩⟩
  | returned => exact ⟨⟨hcarried,hreports⟩,.inl ⟨rfl,by simp [phase,hpc]⟩⟩

theorem sensorStep_pushed {P : Type} (mac : Str) (n : ℕ) (data06 : P) (p : Pipeline P) :
    (SensorDriver.sensorStep mac n data06 p).transmitter.loaded = p.transmitter.loaded ∧
    ((SensorDriver.sensorStep mac n data06 p).transmitter.pushed = p.transmitter.pushed ∨
      p.sensor = .reading (n - 1) ∧ (SensorDriver.sensorStep mac n data06 p).transmitter.pushed =
        p.transmitter.pushed ++ [data06]) := by
  unfold SensorDriver.sensorStep
  split <;> rename_i hsensor
  · split_ifs with hlast
    · exact ⟨rfl,.inr ⟨hlast ▸ hsensor,rfl⟩⟩
    · exact ⟨rfl,.inl rfl⟩
  · split_ifs <;> exact ⟨rfl,.inl rfl⟩
  · exact ⟨rfl,.inl rfl⟩

/-- The packet that is printed carries its report; building it leaves the pool as it was. -/
theorem packetOf_carries {width precision : ℕ} (hdriver : driver.Shipped width precision)
    {i : Reading} (hcpu : Field 4 i.cpuOccupy) (hlayout : FixedLayout.Inv d.gateway.sys)
    (hpool : d.pool = .new 8) {r : Report} {rs : List Report} {s : Polling}
    (hpoll : PollInv driver mn s) (hsize : SizeInv driver mn s) (hreports : s.reports = r::rs)
    (hcarried : r.carried = false) :
    Carries driver mn r (packetOf driver i d r).1 ∧ (packetOf driver i d r).2 = .new 8 := by
  have hlinked := hpoll.linked
  rw [hreports] at hlinked
  obtain ⟨hlength,hvalues,-⟩ := hlinked
  rw [hcarried,passBase_reset,← hlength,overlay_replicate] at hvalues
  obtain ⟨D,hsegment,hitems,hnul,hshort⟩ := hsize.reports r (by simp [hreports])
  have hfree : d.pool.freeList ≠ [] := by
    rw [hpool]
    decide
  obtain ⟨pre,hpre,hcommand,hpacket⟩ := packet06_hj212Packet hnul hshort hdriver.portInfo
    (hlayout.contextWidths hcpu) hfree i.location
  refine ⟨⟨hvalues,hlength,D,pre,hsegment,hitems,hpre,hcommand,?_⟩,?_⟩
  · rw [packetOf,hsegment,Option.getD_some,hpacket,hj212Packet_of_fits hnul (by omega)]
  · rw [packetOf,packet06_eq,build_pool,hpool]
    rw [hpool]
    decide

theorem Carries.mono {packet : Str} {rs rs' : List Report} (hsub : rs ⊆ rs')
    (h : ∃ r ∈ rs, Carries driver mn r packet) : ∃ r ∈ rs', Carries driver mn r packet := by
  obtain ⟨r,hr,hc⟩ := h
  exact ⟨r,hsub hr,hc⟩

variable (mn th) in
/-- The gateway after a step that is one of the pipeline, with or without a packet. -/
theorem sensorStep_eq (i : Reading) (hpc : d.polling.pc ≠ .locking) :
    ((poll driver mn i d).reports = d.polling.reports → sensorStep driver mn th i d =
      ⟨d.gateway.sensorStep th [],poll driver mn i d,d.pool⟩) ∧
    ∀ r, (poll driver mn i d).reports = r::d.polling.reports → sensorStep driver mn th i d =
      ⟨d.gateway.sensorStep th (packetOf driver i d r).1,poll driver mn i d,
        (packetOf driver i d r).2⟩ := by
  unfold sensorStep
  constructor
  · intro hreports
    dsimp only
    rw [hreports,if_pos rfl]
    split
    · exact absurd ‹_› hpc
    · rfl
  · intro r hreports
    have hlength : (r::d.polling.reports).length ≠ d.polling.reports.length := by simp
    dsimp only
    rw [hreports,if_neg hlength]
    split
    · exact absurd ‹_› hpc
    · rfl

variable {width precision : ℕ}

theorem sensorStep_inv (hdriver : driver.Shipped width precision)
    (hcount : th.sensorCount = driver.getSensorConfigs.length) (hmn : mn.length ≤ 99)
    (hmnNul : (0 : UInt8) ∉ mn) {i : Reading} (hi : i.poll.Admissible) (hcpu : Field 4 i.cpuOccupy)
    (h : Inv driver mn loaded d) : Inv driver mn loaded (sensorStep driver mn th i d) := by
  have hadmissible : ({ i.poll with
      locked := true, ready := d.gateway.pipeline.transmitter.shipDataReady } : PollInput).Admissible :=
    ⟨hi.length_now,hi.now_no_nul,hi.location⟩
  have hpoll : PollInv driver mn (poll driver mn i d) := pollStep_pollInv _ h.poll
  have hsize : SizeInv driver mn (poll driver mn i d) :=
    pollStep_sizeInv hdriver hmn hmnNul hadmissible h.size
  obtain ⟨hcarried,hreports⟩ := poll_reports i h
  by_cases hpc : d.polling.pc = .locking
  · have hstep : sensorStep driver mn th i d = { d with polling := poll driver mn i d } := by
      simp only [sensorStep,hpc]
    have hlocked : poll driver mn i d = { d.polling with pc := .waiting } := by
      simp only [poll,pollStep,hpc,if_true]
    rw [hstep]
    refine ⟨hpoll,hsize,hcarried,?_,h.layout,h.pool,h.loaded,?_⟩
    · rw [h.sensor,hlocked,phase,hpc]
      rfl
    · rw [hlocked]
      exact h.pushed
  · obtain ⟨hquiet,hprinted⟩ := sensorStep_eq mn th i hpc
    have hphase (data06 : Str) : (d.gateway.sensorStep th data06).pipeline.sensor =
        phase (poll driver mn i d) := by
      rw [(gateway_sensorStep th data06 d.gateway).1,hcount]
      have hrefines := pollStep_refines d.gateway.mac mn data06 (i := { i.poll with
        locked := true, ready := d.gateway.pipeline.transmitter.shipDataReady }) h.poll h.sensor rfl rfl
      rcases hrefines with hlock | hstep
      · exact absurd hlock.1 hpc
      · exact hstep.1.symm
    have hlayout (data06 : Str) : FixedLayout.Inv (d.gateway.sensorStep th data06).sys := by
      rw [(gateway_sensorStep th data06 d.gateway).2.1]
      exact h.layout
    have hloaded (data06 : Str) :
        (d.gateway.sensorStep th data06).pipeline.transmitter.loaded = loaded := by
      rw [(gateway_sensorStep th data06 d.gateway).1,(sensorStep_pushed _ _ _ _).1,h.loaded]
    rcases hreports with ⟨hsame,hnot⟩ | ⟨⟨r,hnew⟩,_⟩
    · rw [hquiet hsame]
      refine ⟨hpoll,hsize,hcarried,hphase [],hlayout [],h.pool,hloaded [],?_⟩
      rw [hsame,(gateway_sensorStep th [] d.gateway).1,hcount]
      rcases (sensorStep_pushed d.gateway.mac driver.getSensorConfigs.length []
        d.gateway.pipeline).2 with hpushed | ⟨hlast,-⟩
      · rw [hpushed]
        exact h.pushed
      · exact absurd (h.sensor ▸ hlast) hnot
    · obtain ⟨hcarries,hpool⟩ := packetOf_carries hdriver hcpu h.layout h.pool hpoll hsize hnew
        (hcarried.2 r (by simp [hnew]))
      rw [hprinted r hnew]
      refine ⟨hpoll,hsize,hcarried,hphase _,hlayout _,hpool,hloaded _,?_⟩
      rw [(gateway_sensorStep th _ d.gateway).1,hnew]
      have hold : ∀ packet ∈ d.gateway.pipeline.transmitter.pushed,
          ∃ r' ∈ r::d.polling.reports, Carries driver mn r' packet := fun packet hmem =>
        Carries.mono (List.subset_cons_self r _) (h.pushed packet hmem)
      rcases (sensorStep_pushed d.gateway.mac th.sensorCount (packetOf driver i d r).1
        d.gateway.pipeline).2 with hpushed | ⟨-,hpushed⟩
      · rw [hpushed]
        exact hold
      · intro packet hmem
        rw [hpushed,List.mem_append,List.mem_singleton] at hmem
        rcases hmem with hmem | rfl
        · exact hold packet hmem
        · exact ⟨r,List.mem_cons_self,hcarries⟩

end Sensor

/-- The time comes from `time_now_to_string`, the position from `GET_GPS`, the load from
`get_cpuOccupy`. -/
structure Reading.Admissible (i : Reading) : Prop where
  now : ∃ localtime tv, i.poll.now = TimeStamp.timeNowToString localtime tv
  location : Gps.Storable i.poll.location
  cpuOccupy : SystemLoad.Load i.cpuOccupy

theorem Reading.Admissible.poll {i : Reading} (h : i.Admissible) : i.poll.Admissible := by
  obtain ⟨localtime,tv,hnow⟩ := h.now
  obtain ⟨hlength,hnul⟩ := TimeStamp.timeNowToString_short localtime tv
  exact ⟨hnow ▸ hlength,hnow ▸ hnul,h.location⟩

def Event.Admissible : Event → Prop
  | .sensor i => i.Admissible
  | _ => True

/-- The device when `send_mess` and the sensor thread start; the identity has the widths of the
protocol. -/
structure Begins (driver : Driver) (th : Setup) (loaded : List Str) (d : Device) : Prop where
  gateway : Starts th d.gateway
  threads : ∃ connected, d.gateway.pipeline = SensorDriver.start th.sensorCount connected loaded ∧
    d.polling = startPolling driver connected
  sensorCount : th.sensorCount = driver.getSensorConfigs.length
  registered : FixedLayout.Inv d.gateway.sys
  pool : d.pool = .new 8

theorem begins_inv (mn : Str) (h : Begins driver th loaded d) : Inv driver mn loaded d := by
  obtain ⟨connected,hpipeline,hpolling⟩ := h.threads
  refine ⟨?_,?_,?_,?_,h.registered,h.pool,?_,?_⟩
  · rw [hpolling]
    exact start_pollInv driver mn connected
  · rw [hpolling]
    exact ⟨unread_values _,by simp [startPolling]⟩
  · simp [hpolling,startPolling]
  · rw [hpipeline,hpolling,h.sensorCount]
    unfold SensorDriver.start startPolling phase
    cases connected <;> cases driver.getSensorConfigs <;> simp
  · rw [hpipeline]
    rfl
  · rw [hpipeline]
    simp [SensorDriver.start,MessageTransmitter.start]

section Steps

variable {width precision : ℕ} (hdriver : driver.Shipped width precision)
  (hcount : th.sensorCount = driver.getSensorConfigs.length) (hmn : mn.length ≤ 99)
  (hmnNul : (0 : UInt8) ∉ mn)
include hdriver hcount hmn hmnNul

theorem step_inv {e : Event} (he : e.Admissible) (h : Inv driver mn loaded d)
    (hstep : step driver mn th d e = some t) : Inv driver mn loaded t := by
  have hleaves {e' : SendLoop.Event} (he' : ∀ data06, e' ≠ .sensor data06)
      (hmap : (SendLoop.step th d.gateway e').map (fun g => { d with gateway := g }) = some t) :
      Inv driver mn loaded t := by
    obtain ⟨g,hg,rfl⟩ := Option.map_eq_some_iff.mp hmap
    have hl := step_leaves he' hg
    refine ⟨h.poll,h.size,h.carried,hl.sensor.trans h.sensor,hl.layout h.layout,h.pool,
      hl.loaded.trans h.loaded,?_⟩
    rw [hl.pushed]
    exact h.pushed
  unfold step at hstep
  split_ifs at hstep
  · exact Option.some.inj hstep ▸ h
  · cases e with
    | transmitter i => exact hleaves (by simp) hstep
    | montior => exact hleaves (by simp) hstep
    | sensor i =>
      obtain rfl := Option.some.inj hstep
      exact sensorStep_inv hdriver hcount hmn hmnNul he.poll he.cpuOccupy.field h

theorem run_inv {es : List Event} (hes : ∀ e ∈ es, e.Admissible) (h : Inv driver mn loaded d)
    (hrun : Run driver mn th d es t) : Inv driver mn loaded t := by
  induction hrun with
  | refl => exact h
  | cons hstep _ ih =>
    exact ih (fun e he => hes e (by simp [he]))
      (step_inv hdriver hcount hmn hmnNul (hes _ (by simp)) h hstep)

end Steps

/-- To the gateway a step is one of its own, or none. -/
theorem step_projects {e : Event} (hstep : step driver mn th d e = some t) :
    t.gateway = d.gateway ∨ ∃ e', SendLoop.step th d.gateway e' = some t.gateway := by
  unfold step at hstep
  split_ifs at hstep with hexited
  · exact .inl (Option.some.inj hstep ▸ rfl)
  · cases e with
    | transmitter i =>
      obtain ⟨g,hg,rfl⟩ := Option.map_eq_some_iff.mp hstep
      exact .inr ⟨_,hg⟩
    | montior =>
      obtain ⟨g,hg,rfl⟩ := Option.map_eq_some_iff.mp hstep
      exact .inr ⟨_,hg⟩
    | sensor i =>
      obtain rfl := Option.some.inj hstep
      have hsensor (data06 : Str) : SendLoop.step th d.gateway (.sensor data06) =
          some (d.gateway.sensorStep th data06) := by
        rw [SendLoop.step,if_neg hexited]
      unfold sensorStep
      dsimp only
      split
      · exact .inl rfl
      · split <;> exact .inr ⟨_,hsensor _⟩

theorem run_projects {es : List Event} (hrun : Run driver mn th d es t) :
    ∃ es', SendLoop.Run th d.gateway es' t.gateway := by
  induction hrun with
  | refl => exact ⟨[],.refl _⟩
  | cons hstep _ ih =>
    obtain ⟨es',hes'⟩ := ih
    rcases step_projects hstep with hsame | ⟨e',he'⟩
    · exact ⟨es',hsame ▸ hes'⟩
    · exact ⟨e'::es',.cons he' hes'⟩

/-- What the server gets: every data packet that is written whole was loaded from the store file, or
it carries what the ship sensors said in one pass, as it was read, whole and with its checksum, if
the sensor thread can always lock its mutex. -/
theorem written_readings (mnFile : Option Str) (h : Begins shipSensorDriver th loaded d)
    {es : List Event} (hes : ∀ e ∈ es, e.Admissible)
    (hrun : Run shipSensorDriver (getMN mnFile) th d es t) :
    ∀ packet ∈ sent t.gateway.actions, packet ∈ loaded ∨
      ∃ r ∈ t.polling.reports, Carries shipSensorDriver (getMN mnFile) r packet := by
  intro packet hpacket
  have hinv := run_inv ship_shipped h.sensorCount (length_getMN mnFile) (getMN_no_nul mnFile) hes
    (begins_inv _ h) hrun
  obtain ⟨es',hprojected⟩ := run_projects hrun
  have hloop := SendLoop.run_inv h.gateway hprojected
  have hdelivered := hloop.delivered.subset hpacket
  have hmem := hloop.packets.conserved.subset (List.mem_append_right _ hdelivered)
  rw [hinv.loaded] at hmem
  exact (List.mem_append.mp hmem).imp_right (hinv.pushed packet)

def shipSetup : Setup := { lanSetup with sensorCount := shipSensorDriver.getSensorConfigs.length }

/-- The LAN device of the log with the ship sensors. -/
def shipDevice : Device where
  gateway := { lanGateway with
    sys := ⟨(FixedLayout.lanDevice.setEnable 4).2,
      { lanGateway.sys.world with identity := loggedIdentity }⟩
    pipeline := SensorDriver.start shipSetup.sensorCount true [] }
  polling := startPolling shipSensorDriver true
  pool := .new 8

def noonReading : Reading where
  poll := { polled (constantBus 73) true with
    now := TimeStamp.timeNowToString TimeStamp.noonLocaltime ⟨1767268800,250750⟩ }
  cpuOccupy := str "0914"
  location := str "NFFFFEFFFFF"

/-- One pass of the sensors, and a 03 request that is served. -/
def onePass : List Event :=
  List.replicate 23 (.sensor noonReading) ++ List.replicate 7 (.transmitter
    ⟨.message ReceiveBranch.requestFrame.bytes,0,0,[],false,true,false⟩)

theorem onePass_readings : ∃ t, Run shipSensorDriver (getMN none) shipSetup shipDevice onePass t ∧
    ∃ packet, sent t.gateway.actions = [packet] ∧
      ∃ r ∈ t.polling.reports, Carries shipSensorDriver (getMN none) r packet := by
  have hends : (onePass.foldlM (step shipSensorDriver (getMN none) shipSetup) shipDevice).map
      (fun t => (sent t.gateway.actions).length) = some 1 := by
    decide +kernel
  obtain ⟨t,hfold,hsent⟩ := Option.map_eq_some_iff.mp hends
  obtain ⟨packet,hpacket⟩ := List.length_eq_one_iff.mp hsent
  have hrun := StepSystem.Run.foldlM hfold
  have hdevice : FixedLayout.OneDigit FixedLayout.lanDevice :=
    ⟨Reinit.reachable_represents FixedLayout.lanDevice_reachable,by decide⟩
  have hdevices := hdevice.setEnable (show FixedLayout.lanDevice.setEnable 4 = (true,_) from rfl)
  have hidentity : FixedLayout.Registered loggedIdentity := by constructor <;> decide
  have hbegins : Begins shipSensorDriver shipSetup [] shipDevice :=
    ⟨⟨rfl,rfl,⟨true,[],rfl⟩,rfl,rfl,rfl⟩,⟨true,rfl,rfl⟩,rfl,⟨hidentity,hdevices⟩,rfl⟩
  have hadmissible : ∀ e ∈ onePass, e.Admissible := by
    intro e he
    rcases List.mem_append.mp he with he | he
    · rw [List.eq_of_mem_replicate he]
      exact ⟨⟨TimeStamp.noonLocaltime,⟨1767268800,250750⟩,rfl⟩,⟨[],rfl⟩,9,14,by decide,by decide,
        by decide⟩
    · rw [List.eq_of_mem_replicate he]
      trivial
  have hcarried := written_readings none hbegins hadmissible hrun packet (by simp [hpacket])
  exact ⟨t,hrun,packet,hpacket,hcarried.resolve_left List.not_mem_nil⟩

end Measurements
end Sap9001
