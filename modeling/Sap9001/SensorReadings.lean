import Sap9001.SensorPacket
import Sap9001.SensorDriver
import Sap9001.Gps

/-! The polling loop of `SensorDriver::run` with the values it carries from step to step: which
readings a packet reports, and that the packets of the shipped tables are whole. -/
namespace Sap9001
namespace SensorDriver

/-- Readings over the values that stand where nothing was read. -/
def overlay {α : Type} : List (Option α) → List α → List α
  | read::reads, value::values => read.getD value::overlay reads values
  | _, values => values

section Overlay

variable {α : Type}

@[simp] theorem overlay_nil (values : List α) : overlay [] values = values := by
  cases values <;> rfl

/-- The next read, if it fails, leaves the value that is there. -/
theorem overlay_concat_none (reads : List (Option α)) (values : List α) :
    overlay (reads ++ [none]) values = overlay reads values := by
  induction reads generalizing values with
  | nil => cases values <;> simp [overlay]
  | cons read reads ih =>
    cases values with
    | nil => rfl
    | cons value values => simp [overlay,ih]

theorem overlay_concat_some (reads : List (Option α)) (v : α) (values : List α) :
    overlay (reads ++ [some v]) values = (overlay reads values).set reads.length v := by
  induction reads generalizing values with
  | nil => cases values <;> simp [overlay]
  | cons read reads ih =>
    cases values with
    | nil => rfl
    | cons value values => simp [overlay,ih]

/-- What is read over fresh entries. -/
theorem overlay_replicate (reads : List (Option α)) (v : α) :
    overlay reads (List.replicate reads.length v) = reads.map (·.getD v) := by
  induction reads with
  | nil => rfl
  | cons read reads ih => simp [List.replicate_succ,overlay,ih]

/-- Over the entries of an earlier pass the failed reads show what was read then. -/
theorem overlay_map_iff [DecidableEq α] (v : α) {reads earlier : List (Option α)}
    (hlen : reads.length = earlier.length) :
    overlay reads (earlier.map (·.getD v)) = reads.map (·.getD v) ↔
      ∀ p ∈ reads.zip earlier, p.1 = none → p.2 = none ∨ p.2 = some v := by
  induction reads generalizing earlier with
  | nil =>
    cases earlier with
    | nil => simp
    | cons q earlier => simp at hlen
  | cons r reads ih =>
    cases earlier with
    | nil => simp at hlen
    | cons q earlier =>
      have hrest := ih (Nat.succ.inj hlen)
      have hhead : r.getD (q.getD v) = r.getD v ↔ (r = none → q = none ∨ q = some v) := by
        cases r with
        | none => cases q <;> simp
        | some r => simp
      simp [overlay,hhead,hrest]

end Overlay

/-- The point in the loop of `run`. -/
inductive PollPc
  | polling
  | locking
  | waiting
  | returned
  deriving DecidableEq

/-- A packet that was queued, with the values it was printed from; a record of what each read of
its pass gave and of whether the lock had failed after the pass before. -/
structure Report where
  dataSegment : Option Str
  values : List BinaryFloat
  reads : List (Option BinaryFloat)
  carried : Bool

/-- The loop, with the reads of the current pass and the reports, the newest first. -/
structure Polling where
  pc : PollPc
  indexFlag : ℕ
  sensorValues : List BinaryFloat
  reads : List (Option BinaryFloat)
  carried : Bool
  reports : List Report

/-- What a step may find: the answers of the bus, the location and the time, the results of
`pthread_mutex_lock` and of the test of the flag. -/
structure PollInput where
  bus : Modbus
  location : Str
  now : Str
  locked : Bool
  ready : Bool

def startPolling (driver : Driver) (connected : Bool) : Polling where
  pc := if driver.getSensorConfigs = [] || !connected then .returned else .polling
  indexFlag := 0
  sensorValues := List.replicate driver.getSensorConfigs.length unread
  reads := []
  carried := false
  reports := []

/-- The entry of a sensor after its read, which stays when the read fails. -/
def storeValue (sensorValues : List BinaryFloat) (indexFlag : ℕ) :
    Option BinaryFloat → List BinaryFloat
  | some value => sensorValues.set indexFlag value
  | none => sensorValues

/-- One round of the loop: a sensor is read, and after the last one the packet is queued. -/
def pollSensor (driver : Driver) (mn : Str) (i : PollInput) (s : Polling) : Polling :=
  match driver.getSensorConfigs[s.indexFlag]? with
  | none => s
  | some config =>
    let read := readSensorValue i.bus config
    let sensorValues := storeValue s.sensorValues s.indexFlag read
    let reads := s.reads ++ [read]
    if s.indexFlag = driver.getSensorConfigs.length - 1 then
      { s with
        pc := .locking
        sensorValues := sensorValues
        reads := reads
        reports := ⟨dataSegment driver i.now mn i.location sensorValues,sensorValues,reads,
          s.carried⟩::s.reports }
    else
      { s with
        indexFlag := (s.indexFlag + 1) % driver.getSensorConfigs.length
        sensorValues := sensorValues
        reads := reads }

/-- The loop goes on with the next sensor and a new pass. -/
def nextPass (driver : Driver) (carried : Bool) (s : Polling) : Polling :=
  { s with
    pc := .polling
    indexFlag := (s.indexFlag + 1) % driver.getSensorConfigs.length
    reads := []
    carried := carried }

def pollStep (driver : Driver) (mn : Str) (s : Polling) (i : PollInput) : Polling :=
  match s.pc with
  | .polling => pollSensor driver mn i s
  | .locking =>
    if i.locked then { s with pc := .waiting }
    -- The error path goes on with the values as they are.
    else nextPass driver true s
  | .waiting =>
    if i.ready then
      nextPass driver false
        { s with sensorValues := List.replicate driver.getSensorConfigs.length unread }
    else s
  | .returned => s

/-- `run` with the inputs that its steps find. -/
def runPolling (driver : Driver) (mn : Str) (connected : Bool) (inputs : List PollInput) : Polling :=
  inputs.foldl (pollStep driver mn) (startPolling driver connected)

/-- The packet is made from the values of the report. -/
def Report.Printed (driver : Driver) (mn : Str) (r : Report) : Prop :=
  ∃ now location, r.dataSegment = SensorDriver.dataSegment driver now mn location r.values

/-- The packet reports what was read in its own pass, and -999 for the reads that failed. -/
def Report.Fresh (r : Report) : Prop := r.values = r.reads.map (·.getD unread)

instance (r : Report) : Decidable r.Fresh := inferInstanceAs (Decidable (_ = _))

/-- After a failed lock, a sensor whose read fails had none before, or -999. -/
def Refreshed (r q : Report) : Prop :=
  r.carried = true → ∀ p ∈ r.reads.zip q.reads, p.1 = none → p.2 = none ∨ p.2 = some unread

/-- The values at the beginning of a pass, behind the reports so far. -/
def passBase (n : ℕ) (carried : Bool) : List Report → List BinaryFloat
  | [] => List.replicate n unread
  | q::_ => if carried then q.values else List.replicate n unread

/-- Each report is its reads over the values at the beginning of its pass. -/
def Linked (n : ℕ) : List Report → Prop
  | [] => True
  | r::rs => r.reads.length = n ∧ r.values = overlay r.reads (passBase n r.carried rs) ∧ Linked n rs

/-- In the middle of a pass the values are the reads so far over its beginning; between passes
they are those of the last report. -/
def PassAt (n : ℕ) (s : Polling) : Prop :=
  match s.pc with
  | .polling => s.reads.length = s.indexFlag ∧ s.indexFlag < n ∧
    s.sensorValues = overlay s.reads (passBase n s.carried s.reports)
  | .locking | .waiting => s.indexFlag + 1 = n ∧ ∃ r rs, s.reports = r::rs ∧ s.sensorValues = r.values
  | .returned => True

theorem passBase_reset (n : ℕ) (rs : List Report) : passBase n false rs = List.replicate n unread := by
  cases rs <;> rfl

section Invariant

variable {driver : Driver} {mn : Str} {s : Polling}

structure PollInv (driver : Driver) (mn : Str) (s : Polling) : Prop where
  passAt : PassAt driver.getSensorConfigs.length s
  linked : Linked driver.getSensorConfigs.length s.reports
  printed : ∀ r ∈ s.reports, r.Printed driver mn

theorem start_pollInv (driver : Driver) (mn : Str) (connected : Bool) :
    PollInv driver mn (startPolling driver connected) := by
  refine ⟨?_,trivial,by simp [startPolling]⟩
  by_cases h : driver.getSensorConfigs = [] || !connected
  · simp [PassAt,startPolling,h]
  · have hne : driver.getSensorConfigs ≠ [] := by simp_all
    simp [PassAt,startPolling,h,passBase,List.length_pos_iff.mpr hne]

theorem storeValue_overlay {reads : List (Option BinaryFloat)} {indexFlag : ℕ}
    (h : reads.length = indexFlag) (read : Option BinaryFloat) (values : List BinaryFloat) :
    storeValue (overlay reads values) indexFlag read = overlay (reads ++ [read]) values := by
  cases read with
  | none => exact (overlay_concat_none reads values).symm
  | some value =>
    rw [overlay_concat_some,h]
    rfl

/-- A read extends the reads of the pass, and the last one makes the report. -/
theorem pollSensor_pollInv (i : PollInput) (hpc : s.pc = .polling)
    (h : PollInv driver mn s) : PollInv driver mn (pollSensor driver mn i s) := by
  have hat := h.passAt
  simp only [PassAt,hpc] at hat
  obtain ⟨hreads,hindex,hvalues⟩ := hat
  unfold pollSensor
  rw [List.getElem?_eq_getElem hindex]
  dsimp only
  generalize readSensorValue i.bus driver.getSensorConfigs[s.indexFlag] = read
  have hlen : (s.reads ++ [read]).length = s.indexFlag + 1 := by simp [hreads]
  have hnew : storeValue s.sensorValues s.indexFlag read = overlay (s.reads ++ [read])
      (passBase driver.getSensorConfigs.length s.carried s.reports) := by
    rw [hvalues,storeValue_overlay hreads]
  split_ifs with hlast
  · have hend : s.indexFlag + 1 = driver.getSensorConfigs.length := by omega
    refine ⟨⟨hend,_,_,rfl,rfl⟩,⟨hlen.trans hend,hnew,h.linked⟩,?_⟩
    rw [List.forall_mem_cons]
    exact ⟨⟨i.now,i.location,rfl⟩,h.printed⟩
  · refine ⟨?_,h.linked,h.printed⟩
    have hnext : (s.indexFlag + 1) % driver.getSensorConfigs.length = s.indexFlag + 1 :=
      Nat.mod_eq_of_lt (by omega)
    simp only [PassAt,hpc,hnext]
    exact ⟨hlen,by omega,hnew⟩

/-- After the last sensor the loop begins a pass. -/
theorem nextPass_pollInv {carried : Bool} (hindex : s.indexFlag + 1 = driver.getSensorConfigs.length)
    (hvalues : s.sensorValues = passBase driver.getSensorConfigs.length carried s.reports)
    (hlinked : Linked driver.getSensorConfigs.length s.reports)
    (hprinted : ∀ r ∈ s.reports, r.Printed driver mn) :
    PollInv driver mn (nextPass driver carried s) := by
  have hfirst : (s.indexFlag + 1) % driver.getSensorConfigs.length = 0 := by
    rw [hindex,Nat.mod_self]
  refine ⟨?_,hlinked,hprinted⟩
  simp only [PassAt,nextPass,hfirst,overlay_nil]
  exact ⟨rfl,by omega,hvalues⟩

theorem pollStep_pollInv (i : PollInput) (h : PollInv driver mn s) :
    PollInv driver mn (pollStep driver mn s i) := by
  have hat := h.passAt
  unfold pollStep
  split <;> rename_i hpc <;> simp only [PassAt,hpc] at hat
  · exact pollSensor_pollInv i hpc h
  · obtain ⟨hindex,r,rs,hreports,hvalues⟩ := hat
    split_ifs
    · exact ⟨⟨hindex,r,rs,hreports,hvalues⟩,h.linked,h.printed⟩
    · refine nextPass_pollInv hindex ?_ h.linked h.printed
      rw [hreports,hvalues]
      rfl
  · obtain ⟨hindex,-⟩ := hat
    split_ifs
    · exact nextPass_pollInv hindex (passBase_reset _ _).symm h.linked h.printed
    · exact h
  · exact h

theorem runPolling_pollInv (driver : Driver) (mn : Str) (connected : Bool) (inputs : List PollInput) :
    PollInv driver mn (runPolling driver mn connected inputs) := by
  have hrun := StepSystem.Run.foldl (pollStep driver mn) (startPolling driver connected) inputs
  refine hrun.invariant ?_ (start_pollInv driver mn connected)
  rintro s i t hs rfl
  exact pollStep_pollInv i hs

end Invariant

/-- A report behind fresh ones is fresh when its failed reads were failed or -999 before. -/
theorem fresh_cons_iff {n : ℕ} {r : Report} {rs : List Report} (hlinked : Linked n (r::rs))
    (hfresh : ∀ q ∈ rs, q.Fresh) : r.Fresh ↔ ∀ q ∈ rs.head?, Refreshed r q := by
  obtain ⟨hlen,hvalues,hrest⟩ := hlinked
  have hreset : overlay r.reads (List.replicate n unread) = r.reads.map (·.getD unread) := by
    rw [← hlen,overlay_replicate]
  rw [Report.Fresh,hvalues]
  cases rs with
  | nil => simp [passBase,hreset]
  | cons q rs =>
    cases hcarried : r.carried with
    | false => simp [passBase_reset,hreset,Refreshed,hcarried]
    | true =>
      have hq : q.values = q.reads.map (·.getD unread) := hfresh q (by simp)
      have hlens : r.reads.length = q.reads.length := hlen.trans hrest.1.symm
      simp only [passBase,if_true,hq,overlay_map_iff unread hlens]
      simp [Refreshed,hcarried]

theorem linked_fresh_iff {n : ℕ} {rs : List Report} (h : Linked n rs) :
    (∀ r ∈ rs, r.Fresh) ↔ rs.IsChain Refreshed := by
  induction rs with
  | nil => simp
  | cons r rs ih =>
    have hrest := ih h.2.2
    rw [List.forall_mem_cons,List.isChain_cons,hrest]
    constructor
    · rintro ⟨hr,hchain⟩
      exact ⟨(fresh_cons_iff h (hrest.mpr hchain)).mp hr,hchain⟩
    · rintro ⟨hr,hchain⟩
      exact ⟨(fresh_cons_iff h (hrest.mpr hchain)).mpr hr,hchain⟩

/-- Every pass that ended with a packet read each sensor of the table. -/
theorem linked_length {n : ℕ} {rs : List Report} (h : Linked n rs) :
    ∀ r ∈ rs, r.reads.length = n := by
  induction rs with
  | nil => simp
  | cons r rs ih =>
    rw [List.forall_mem_cons]
    exact ⟨h.1,ih h.2.2⟩

/-- In every run the packets report their own passes exactly when, after each failed lock, a
sensor whose read fails had given no other value than -999 in the pass before. -/
theorem fresh_iff (driver : Driver) (mn : Str) (connected : Bool) (inputs : List PollInput) :
    (∀ r ∈ (runPolling driver mn connected inputs).reports,
      r.reads.length = driver.getSensorConfigs.length ∧ r.Printed driver mn) ∧
    ((∀ r ∈ (runPolling driver mn connected inputs).reports, r.Fresh) ↔
      (runPolling driver mn connected inputs).reports.IsChain Refreshed) := by
  have hinv := runPolling_pollInv driver mn connected inputs
  exact ⟨fun r hr => ⟨linked_length hinv.linked r hr,hinv.printed r hr⟩,linked_fresh_iff hinv.linked⟩

/-- A bus on which every register holds `r`. -/
def constantBus (r : UInt16) : Modbus where
  readRegisters _ _ count := some (List.replicate count r)
  readInputRegisters _ _ count := some (List.replicate count r)

def silentBus : Modbus := ⟨fun _ _ _ => none,fun _ _ _ => none⟩

def polled (bus : Modbus) (locked : Bool) : PollInput :=
  ⟨bus,str "NFFFFEFFFFF",str "20240508083559000",locked,true⟩

/-- The gas sensors answer in the first pass, the lock fails, and they are silent in the second. -/
theorem old_readings_reported : ¬ ∀ (driver : Driver) (mn : Str) (connected : Bool)
    (inputs : List PollInput), driver.getSensorConfigs ≠ [] →
    ∀ r ∈ (runPolling driver mn connected inputs).reports, r.Fresh := by
  intro hall
  have hfresh := hall gasSensorDriver (HJ212.getMN none) true
    (List.replicate 16 (polled (constantBus 73) false) ++ List.replicate 15 (polled silentBus false))
    (by decide)
  revert hfresh
  decide +kernel

section Refinement

open MessageTransmitter

variable {P : Type} {driver : Driver} {s : Polling}

/-- The loop as the pipeline with `send_mess` sees it. -/
def phase (s : Polling) : Pc :=
  match s.pc with
  | .polling => .reading s.indexFlag
  | .locking | .waiting => .waiting s.indexFlag
  | .returned => .returned

/-- A step of the loop whose lock succeeds is a step of the pipeline, which has a round for each
report; taking the lock is no step there. -/
theorem pollStep_refines (mac mn : Str) (data06 : P) {i : PollInput} (h : PollInv driver mn s)
    {p : Pipeline P} (hp : p.sensor = phase s) (hlocked : i.locked = true)
    (hready : i.ready = p.transmitter.shipDataReady) :
    let t := pollStep driver mn s i
    let q := sensorStep mac driver.getSensorConfigs.length data06 p
    (s.pc = .locking ∧ phase t = phase s ∧ t.reports = s.reports) ∨
      (phase t = q.sensor ∧ q.rounds + s.reports.length = p.rounds + t.reports.length) := by
  have hat := h.passAt
  intro t q
  cases hpc : s.pc with
  | polling =>
    simp only [PassAt,hpc] at hat
    have hconfig := List.getElem?_eq_getElem hat.2.1
    simp only [phase,hpc] at hp
    refine .inr ?_
    simp only [t,q,pollStep,pollSensor,sensorStep,hpc,hp,hconfig]
    split_ifs <;> simp [phase]
    omega
  | locking => simp [t,pollStep,hpc,hlocked,phase]
  | waiting =>
    simp only [phase,hpc] at hp
    refine .inr ?_
    simp only [t,q,pollStep,sensorStep,hpc,hp,hready]
    split_ifs <;> simp [phase,hpc,hp,nextPass]
  | returned =>
    simp only [phase,hpc] at hp
    simp [t,q,pollStep,sensorStep,hpc,hp,phase]

end Refinement

section Size

open HJ212 HJ212PacketBuilder

/-- The time has at most 20 characters and comes from `time_now_to_string` as a C string; the
location is one that `GET_GPS` stores. -/
structure PollInput.Admissible (i : PollInput) : Prop where
  length_now : i.now.length ≤ 20
  now_no_nul : (0 : UInt8) ∉ i.now
  location : Gps.Storable i.location

/-- The segment is made from the values, every item as its format asks for it. -/
def ItemsWhole (driver : Driver) (mn : Str) (values : List BinaryFloat) (D : Str) : Prop :=
  ∃ (width precision : ℕ) (qn gps : Str), (∀ c ∈ driver.getSensorConfigs, c.Prints width precision) ∧
    dataSegment driver qn mn gps values = some D ∧
    D = segmentText width precision driver qn mn gps values

/-- The segment of a report is whole and short. -/
def Report.Whole (driver : Driver) (mn : Str) (r : Report) : Prop :=
  ∃ D, r.dataSegment = some D ∧ ItemsWhole driver mn r.values D ∧ (0 : UInt8) ∉ D ∧ D.length ≤ 1975

/-- What the derived classes have in common: a table of at most 23 sensors, two characters for
the medium, three for the port. -/
structure Driver.Shipped (width precision : ℕ) (driver : Driver) : Prop where
  prints : ∀ c ∈ driver.getSensorConfigs, c.Prints width precision
  length_configs : driver.getSensorConfigs.length ≤ 23
  st : Field 2 driver.getHJ212ST
  portInfo : Field 3 driver.portInfo

theorem ship_shipped : shipSensorDriver.Shipped 10 3 :=
  ⟨ship_prints,by decide,by decide,by decide⟩

theorem gas_shipped : gasSensorDriver.Shipped 8 2 :=
  ⟨gas_prints,by decide,by decide,by decide⟩

variable {width precision : ℕ} {driver : Driver} (hdriver : driver.Shipped width precision) {mn : Str}
include hdriver

/-- Numbers below `2^128` make a segment that fits, with any time, location and MN. -/
theorem segment_whole (hmn : mn.length ≤ 99) (hmnNul : (0 : UInt8) ∉ mn) {i : PollInput}
    (hi : i.Admissible) {values : List BinaryFloat} (hvalues : ∀ v ∈ values, v.Below 128) :
    ∃ D, dataSegment driver i.now mn i.location values = some D ∧ ItemsWhole driver mn values D ∧
      (0 : UInt8) ∉ D ∧ D.length ≤ 1975 := by
  obtain ⟨hgps,hgpsNul⟩ := Gps.storable_bounded hi.location
  have hnow := hi.length_now
  obtain ⟨hst,hstNul⟩ := hdriver.st
  have hconfigs := hdriver.length_configs
  have hsegment : dataSegment driver i.now mn i.location values =
      some (segmentText width precision driver i.now mn i.location values) := by
    rw [dataSegment,rtdItems_eq hdriver.prints hvalues]
    rfl
  refine ⟨_,hsegment,?_,?_,?_⟩
  · exact ⟨width,precision,i.now,i.location,hdriver.prints,hsegment,rfl⟩
  · have hhead := segmentHead_no_nul hi.now_no_nul hstNul hmnNul hgpsNul
    have hitems : (0 : UInt8) ∉ (List.zipWith (rtdText width precision) driver.getSensorConfigs
        values).flatten := items_no_nul hdriver.prints
    have hend : (0 : UInt8) ∉ str "&&" := by decide
    simp only [segmentText,List.mem_append,not_or]
    exact ⟨hhead,hitems,hend⟩
  · have hitems := length_items hdriver.prints hvalues
    have hend : (str "&&").length = 2 := rfl
    simp only [segmentText,List.length_append,length_segmentHead,hend]
    omega

/-- The values of the loop are numbers below `2^128`, the reports are whole. -/
structure SizeInv (driver : Driver) (mn : Str) (s : Polling) : Prop where
  values : ∀ v ∈ s.sensorValues, v.Below 128
  reports : ∀ r ∈ s.reports, r.Whole driver mn

omit hdriver in
theorem unread_values (n : ℕ) : ∀ v ∈ List.replicate n unread, v.Below 128 := by
  intro v hv
  rw [List.eq_of_mem_replicate hv]
  exact unread_below

theorem storeValue_below (bus : Modbus) {config : SensorConfig}
    (hconfig : config ∈ driver.getSensorConfigs) {values : List BinaryFloat}
    (hvalues : ∀ v ∈ values, v.Below 128) (indexFlag : ℕ) :
    ∀ v ∈ storeValue values indexFlag (readSensorValue bus config), v.Below 128 := by
  have hprints := hdriver.prints config hconfig
  cases hread : readSensorValue bus config with
  | none => exact hvalues
  | some value =>
    intro v hv
    rcases List.mem_or_eq_of_mem_set hv with hmem | rfl
    · exact hvalues v hmem
    · exact readSensorValue_below hprints.significand hprints.exponent hread

theorem pollStep_sizeInv (hmn : mn.length ≤ 99) (hmnNul : (0 : UInt8) ∉ mn) {i : PollInput}
    (hi : i.Admissible) {s : Polling} (h : SizeInv driver mn s) :
    SizeInv driver mn (pollStep driver mn s i) := by
  unfold pollStep
  split
  · unfold pollSensor
    split <;> rename_i hconfig
    · exact h
    · have hvalues := storeValue_below hdriver i.bus (List.mem_of_getElem? hconfig) h.values
        s.indexFlag
      dsimp only
      split_ifs
      · refine ⟨hvalues,?_⟩
        rw [List.forall_mem_cons]
        exact ⟨segment_whole hdriver hmn hmnNul hi hvalues,h.reports⟩
      · exact ⟨hvalues,h.reports⟩
  · split_ifs <;> exact ⟨h.values,h.reports⟩
  · split_ifs
    · exact ⟨unread_values _,h.reports⟩
    · exact h
  · exact h

theorem runPolling_sizeInv (hmn : mn.length ≤ 99) (hmnNul : (0 : UInt8) ∉ mn) (connected : Bool)
    {inputs : List PollInput} (hinputs : ∀ i ∈ inputs, i.Admissible) :
    SizeInv driver mn (runPolling driver mn connected inputs) := by
  apply List.foldlRecOn inputs (pollStep driver mn)
  · exact ⟨unread_values _,by simp [startPolling]⟩
  · intro s hs i hi
    exact pollStep_sizeInv hdriver hmn hmnNul (hinputs i hi) hs

end Size

section Packets

open HJ212 HJ212PacketBuilder

/-- The buffers of the packets cut nothing off a short segment; without a free block there is no
packet at all. -/
theorem packet_whole {D portInfo cpuOccupy : Str} {identity : DeviceIdentity} {activeId : Int}
    (hD : (0 : UInt8) ∉ D) (hlen : D.length ≤ 1975) (hport : Field 3 portInfo)
    (hw : ContextWidths identity cpuOccupy activeId) (pool : MemoryPool 8) (location : Str) :
    let data06 := (packet06 identity cpuOccupy location activeId pool (hj212Packet D) portInfo).1
    (pool.freeList = [] ∧ data06 = []) ∨
      ∃ pre : Str, pre.length = 61 ∧ data06 = pre ++ (hj212Packet D ++ str "@") := by
  by_cases hpool : pool.freeList = []
  · refine .inl ⟨hpool,?_⟩
    rw [packet06_eq]
    exact (build_eq_nil_iff (hw.protocolWidths hport location (hj212Packet D)) pool).mpr (.inl hpool)
  · obtain ⟨pre,hpre,-,hpacket⟩ := packet06_hj212Packet hD hlen hport hw hpool location
    exact .inr ⟨pre,hpre,hpacket⟩

/-- No buffer truncates a packet of the shipped tables, whatever the registers hold, the line of
MN, the time and the location are. -/
theorem packets_whole {driver : Driver} (hdriver : driver = shipSensorDriver ∨ driver = gasSensorDriver)
    (mnFile : Option Str) (connected : Bool) {inputs : List PollInput}
    (hinputs : ∀ i ∈ inputs, i.Admissible) {r : Report}
    (hr : r ∈ (runPolling driver (getMN mnFile) connected inputs).reports)
    {identity : DeviceIdentity} {cpuOccupy : Str} {activeId : Int}
    (hw : ContextWidths identity cpuOccupy activeId) (pool : MemoryPool 8) (location : Str) :
    ∃ D data06, r.dataSegment = some D ∧
      data06 = (packet06 identity cpuOccupy location activeId pool (hj212Packet D) driver.portInfo).1 ∧
      ItemsWhole driver (getMN mnFile) r.values D ∧ D.length ≤ 1975 ∧
      (lenDigits D.length).length = 4 ∧
      hj212Packet D = str "##" ++ (lenDigits D.length ++
        (D ++ crcDigits (crc16Checkout D D.length))) ∧
      ((pool.freeList = [] ∧ data06 = []) ∨
        ∃ pre : Str, pre.length = 61 ∧ data06 = pre ++ (hj212Packet D ++ str "@")) := by
  have hshipped : ∃ width precision, driver.Shipped width precision := by
    rcases hdriver with rfl | rfl
    · exact ⟨10,3,ship_shipped⟩
    · exact ⟨8,2,gas_shipped⟩
  obtain ⟨width,precision,hshipped⟩ := hshipped
  have hrun := runPolling_sizeInv hshipped (length_getMN mnFile) (getMN_no_nul mnFile) connected hinputs
  obtain ⟨D,hsegment,hitems,hD,hlen⟩ := hrun.reports r hr
  refine ⟨D,_,hsegment,rfl,hitems,hlen,length_lenDigits (by omega),hj212Packet_of_fits hD (by omega),?_⟩
  exact packet_whole hD hlen hshipped.portInfo hw pool location

/-- A pass over the gas sensors with full registers. -/
theorem full_registers_whole : ∃ r ∈ (runPolling gasSensorDriver (getMN none) true
    (List.replicate 15 (polled (constantBus 65535) true))).reports,
    ∃ D, r.dataSegment = some D ∧ D.length ≤ 1975 := by
  have hinputs : ∀ i ∈ List.replicate 15 (polled (constantBus 65535) true), i.Admissible := by
    intro i hi
    rw [List.eq_of_mem_replicate hi]
    exact ⟨by decide,by decide,[],rfl⟩
  have hne : (runPolling gasSensorDriver (getMN none) true
      (List.replicate 15 (polled (constantBus 65535) true))).reports ≠ [] := by decide +kernel
  obtain ⟨r,hr⟩ := List.exists_mem_of_ne_nil _ hne
  obtain ⟨D,-,hsegment,-,-,hlen,-⟩ := packets_whole (.inr rfl) none true hinputs hr
    loggedIdentity_widths (.new 8) (str "NFFFFEFFFFF")
  exact ⟨r,hr,D,hsegment,hlen⟩

end Packets

end SensorDriver
end Sap9001
