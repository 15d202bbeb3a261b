import Sap9001.CommunicaManage
import Sap9001.ProtocolProcess

/-! The registration thread `device_regist` (`app/regist_manage.cpp`). A step is one visit of
a state or, in the three states that listen, one round of the receive loop. -/
namespace Sap9001
namespace RegistManage

/-- `RegistState`; the counter of `waitFor17` is the local `retry`. -/
inductive RegistState
  | selectChannel
  | waitForIdle
  | sendRegister
  | waitFor17 (retry : ℕ)
  | sendConfirm
  | waitForTimestamp
  | success
  | failed
  deriving DecidableEq

/-- A row `{id, fd}` of the vector that `getALLIfd` returns. -/
abbrev Channel := Int × Int

/-- What the thread has done: the entries of the vector it has selected, the messages read
while it waited for an idle channel, for the 17 and for the 20 packet, the packets it tried
to write, the clock settings and the device it enabled. -/
inductive Event
  | select (index : ℕ)
  | heard (channel : Channel) (message : Str)
  | regist (index : ℕ) (channel : Channel) (message : Str)
  | answer (channel : Channel) (message : Str)
  | confirm (channel : Channel) (message : Str)
  | stamp (channel : Channel) (message : Str)
  | settimeofday (time : TimeVal)
  | enable (id : Int)

/-- What one step takes from outside. `read` is `none` for an error. -/
structure Input where
  select : Int
  isset : Bool
  read : Option Str
  written : Bool
  location : Str

/-- The bytes of a `read` that returned a positive number. -/
def Input.received (i : Input) : Option Str := i.read.filter (fun m => !m.isEmpty)

variable {F : Type}

structure State (F : Type) where
  state : RegistState
  size : Int
  registNum : ℕ
  selectNum : ℕ
  myCount : ℕ
  listenNum : ℕ
  fd : Int
  deviceId : Int
  identity : DeviceIdentity
  commManager : CommunicaManage F
  trace : List Event

def start (vec : List Channel) (identity : DeviceIdentity) (commManager : CommunicaManage F) :
    State F where
  state := if vec.isEmpty then .failed else .selectChannel
  size := vec.length - 1
  registNum := 1
  selectNum := 1
  myCount := 0
  listenNum := 8
  fd := -1
  deviceId := -1
  identity := identity
  commManager := commManager
  trace := []

namespace State

/-- The return value of the thread, once it has ended. -/
def returned (s : State F) : Option Int :=
  match s.state with
  | .success => some 0
  | .failed => some (-1)
  | _ => none

theorem success_of_returned {s : State F} (h : s.returned = some 0) : s.state = .success := by
  unfold returned at h
  split at h
  · assumption
  · simp at h
  · contradiction

theorem failed_of_returned {s : State F} (h : s.returned = some (-1)) : s.state = .failed := by
  unfold returned at h
  split at h
  · simp at h
  · assumption
  · contradiction

/-- The row in use, as the locals `device_id` and `fd` hold it. -/
@[simp] def channel (s : State F) : Channel := (s.deviceId,s.fd)

@[simp] def log (s : State F) (e : Event) : State F := { s with trace := s.trace ++ [e] }

/-- The failed attempt on a device: back to the selection with one more try counted. -/
def retryDevice (s : State F) : State F :=
  { s with
    selectNum := 1
    registNum := s.registNum + 1
    state := .selectChannel }

end State

/-- `%04X`. -/
def hex04 (n : ℕ) : Str :=
  let digits := Numerals.numeral 16 hexDigit n
  List.replicate (4 - digits.length) (byte '0') ++ digits

/-- The 01 packet; its length field goes through a buffer of 5 bytes. -/
def registMessage (deviceId : Int) (identity : DeviceIdentity) (location : Str) : Str :=
  let dataPart := identity.mac ++ identity.getCommunicateStatus ++ str "010" ++ location ++
    identity.cpuOccupy ++ str "@"
  let lenBuf := snprintf 5 [hex04 ((dataPart.length + 14) % 4294967296)]
  str "$" ++ reqRegister ++ toDecimal deviceId ++ identity.id ++ identity.netId ++ str "00" ++
    lenBuf ++ dataPart

/-- The 02 packet. -/
def confirmMessage (deviceId : Int) (identity : DeviceIdentity) : Str :=
  str "$" ++ reqRegConfirm ++ toDecimal deviceId ++ identity.id ++ identity.netId ++ str "00" ++
    str "0012" ++ identity.mac ++ identity.id ++ str "@"

/-- The last packet of a transmission that began before the read. -/
def lastPacket (m : Str) : Bool :=
  decide (2 ≤ m.length ∧ m.length < 58 ∧ m.head? ≠ some (byte '$') ∧ m.getLast? = some (byte '@'))

def completePacket (m : Str) : Bool :=
  decide (m.head? = some (byte '$') ∧ m.getLast? = some (byte '@'))

/-- The tests of `WaitFor17` on a message. -/
def accepts17 (mac m : Str) : Bool :=
  decide (54 ≤ m.length ∧ substr m 1 2 = reqSendInfo ∧ substr m 16 16 = mac)

/-- The tests of `WaitForTimestamp` on a message. -/
def accepts20 (mac m : Str) : Bool :=
  decide (49 ≤ m.length ∧ substr m 1 2 = timeSend ∧ substr m 16 16 = mac)

/-- The identity after a 17 packet. -/
def assign (identity : DeviceIdentity) (m : Str) : DeviceIdentity :=
  { identity with
    isrMac := substr m 32 16
    id := substr m 48 2
    netId := substr m 50 4 }

/-- `none` is an access outside the vector. -/
def selectChannel (vec : List Channel) (s : State F) : Option (State F) :=
  let s := if s.registNum = 5 then { s with size := s.size - 1, registNum := 1 } else s
  if s.size < 0 then some { s with state := .failed }
  else (vec[s.size.toNat]?).map fun c =>
    { s with
      fd := c.2
      deviceId := c.1
      selectNum := 1
      myCount := 0
      state := .waitForIdle
      trace := s.trace ++ [.select s.size.toNat] }

def waitForIdle (i : Input) (s : State F) : State F :=
  let s := { s with myCount := s.myCount + 1 }
  if 100 ≤ s.myCount then { s with state := .failed }
  else if 0 < i.select then
    if i.isset then
      match i.received with
      | none => s
      | some m =>
        let s := s.log (.heard s.channel m)
        if lastPacket m then { s with state := .sendRegister }
        else if completePacket m ∧ s.selectNum = 5 then { s with state := .sendRegister }
        else { s with selectNum := s.selectNum + 1 }
    else s
  else if i.select = 0 then { s with state := .sendRegister }
  else { s with state := .failed }

def sendRegister (i : Input) (s : State F) : State F :=
  let s := s.log (.regist s.size.toNat s.channel (registMessage s.deviceId s.identity i.location))
  if i.written then { s with state := .waitFor17 5 } else s.retryDevice

/-- Whether no packet came or the assigned id is "FF", the next try is the same. -/
def waitFor17 (i : Input) (s : State F) : ℕ → State F
  | 0 => s.retryDevice
  | retry+1 =>
    if 0 < i.select then
      match i.received with
      | none => { s with state := .waitFor17 retry }
      | some m =>
        let s := s.log (.answer s.channel m)
        if accepts17 s.identity.mac m then
          let s := { s with identity := assign s.identity m }
          if s.identity.id = str "FF" then s.retryDevice else { s with state := .sendConfirm }
        else { s with state := .waitFor17 retry }
    else { s with state := .waitFor17 retry }

/-- A failed write is only logged. -/
def sendConfirm (s : State F) : State F :=
  let s := s.log (.confirm s.channel (confirmMessage s.deviceId s.identity))
  { s with listenNum := 8, state := .waitForTimestamp }

/-- The clock is set and the device enabled, when `mktime` accepts the time. -/
def acceptTimestamp (mktime : Tm → Option Int) (m : Str) (s : State F) : State F :=
  let s := { s with identity := { s.identity with currentTime := substr m 32 17 } }
  match tvSet mktime s.identity.currentTime with
  | none => s
  | some tv =>
    let s := s.log (.settimeofday tv)
    let enabled := s.commManager.setEnable s.deviceId
    let s := { s with commManager := enabled.2 }
    if enabled.1 then { s.log (.enable s.deviceId) with state := .success } else s

def waitForTimestamp (mktime : Tm → Option Int) (i : Input) (s : State F) : State F :=
  match s.listenNum with
  | 0 =>
    let s := { s with registNum := s.registNum + 1 }
    if 5 ≤ s.registNum then { s with state := .failed }
    else { s with listenNum := 8, state := .sendConfirm }
  | n+1 =>
    let s := { s with listenNum := n }
    if 0 < i.select then
      match i.received with
      | none => s
      | some m =>
        let s := s.log (.stamp s.channel m)
        if accepts20 s.identity.mac m then acceptTimestamp mktime m s else s
    else s

def step (mktime : Tm → Option Int) (vec : List Channel) (i : Input) (s : State F) :
    Option (State F) :=
  match s.state with
  | .selectChannel => selectChannel vec s
  | .waitForIdle => some (waitForIdle i s)
  | .sendRegister => some (sendRegister i s)
  | .waitFor17 retry => some (waitFor17 i s retry)
  | .sendConfirm => some (sendConfirm s)
  | .waitForTimestamp => some (waitForTimestamp mktime i s)
  | .success | .failed => some s

/-- What a step can do, with the tests that decide it. -/
inductive Transition (mktime : Tm → Option Int) (vec : List Channel) : State F → State F → Prop
  | select {s : State F} {size : Int} {registNum k : ℕ} {c : Channel}
      (hstate : s.state = .selectChannel)
      (hnext : (s.registNum = 5 ∧ size = s.size - 1 ∧ registNum = 1) ∨
        (s.registNum ≠ 5 ∧ size = s.size ∧ registNum = s.registNum))
      (hk : size = k) (hc : vec[k]? = some c) :
      Transition mktime vec s
        { s with
          size := size
          registNum := registNum
          fd := c.2
          deviceId := c.1
          selectNum := 1
          myCount := 0
          state := .waitForIdle
          trace := s.trace ++ [.select k] }
  | exhausted {s : State F} {size : Int} {registNum : ℕ} (hstate : s.state = .selectChannel) :
      Transition mktime vec s
        { s with size := size, registNum := registNum, state := .failed }
  | listen {s : State F} (n : ℕ) (m : Option Str) (hstate : s.state = .waitForIdle)
      (hcount : s.myCount + 1 < 100) :
      Transition mktime vec s
        { s with
          myCount := s.myCount + 1
          selectNum := n
          trace := s.trace ++ (m.map (.heard s.channel)).toList }
  | idle {s : State F} (m : Option Str) (hstate : s.state = .waitForIdle) :
      Transition mktime vec s
        { s with
          myCount := s.myCount + 1
          state := .sendRegister
          trace := s.trace ++ (m.map (.heard s.channel)).toList }
  | giveUp {s : State F} (hstate : s.state = .waitForIdle) :
      Transition mktime vec s { s with myCount := s.myCount + 1, state := .failed }
  | sent {s : State F} (location : Str) (hstate : s.state = .sendRegister) :
      Transition mktime vec s
        { s.log (.regist s.size.toNat s.channel (registMessage s.deviceId s.identity location)) with
          state := .waitFor17 5 }
  | unsent {s : State F} (location : Str) (hstate : s.state = .sendRegister) :
      Transition mktime vec s
        (s.log (.regist s.size.toNat s.channel
          (registMessage s.deviceId s.identity location))).retryDevice
  | unanswered {s : State F} {retry : ℕ} (m : Option Str) (hstate : s.state = .waitFor17 (retry+1)) :
      Transition mktime vec s
        { s with
          state := .waitFor17 retry
          trace := s.trace ++ (m.map (.answer s.channel)).toList }
  | silent {s : State F} (hstate : s.state = .waitFor17 0) : Transition mktime vec s s.retryDevice
  | refused {s : State F} {retry : ℕ} (m : Str) (hstate : s.state = .waitFor17 (retry+1)) :
      Transition mktime vec s
        { s.log (.answer s.channel m) with identity := assign s.identity m }.retryDevice
  | assigned {s : State F} {retry : ℕ} {m : Str} (hstate : s.state = .waitFor17 (retry+1))
      (hm : accepts17 s.identity.mac m = true) (hid : substr m 48 2 ≠ str "FF") :
      Transition mktime vec s
        { s.log (.answer s.channel m) with
          identity := assign s.identity m
          state := .sendConfirm }
  | confirm {s : State F} (hstate : s.state = .sendConfirm) : Transition mktime vec s (sendConfirm s)
  | unstamped {s : State F} {n : ℕ} (time : Str) (m : Option Str) (tv : Option TimeVal)
      (hstate : s.state = .waitForTimestamp) (hn : s.listenNum = n+1) :
      Transition mktime vec s
        { s with
          listenNum := n
          identity := { s.identity with currentTime := time }
          trace := s.trace ++ ((m.map (.stamp s.channel)).toList ++ (tv.map .settimeofday).toList) }
  | registered {s : State F} {m : Str} {manager : CommunicaManage F} (n : ℕ) (tv : TimeVal)
      (hstate : s.state = .waitForTimestamp) (hm : accepts20 s.identity.mac m = true)
      (hen : s.commManager.setEnable s.deviceId = (true,manager)) :
      Transition mktime vec s
        { s with
          listenNum := n
          identity := { s.identity with currentTime := substr m 32 17 }
          commManager := manager
          state := .success
          trace := s.trace ++ [.stamp s.channel m,.settimeofday tv,.enable s.deviceId] }
  | again {s : State F} (hstate : s.state = .waitForTimestamp) (hn : s.listenNum = 0)
      (hnum : s.registNum + 1 < 5) :
      Transition mktime vec s
        { s with registNum := s.registNum + 1, listenNum := 8, state := .sendConfirm }
  | unconfirmed {s : State F} (hstate : s.state = .waitForTimestamp) :
      Transition mktime vec s { s with registNum := s.registNum + 1, state := .failed }
  | ended {s : State F} (hstate : s.state = .success ∨ s.state = .failed) : Transition mktime vec s s

section Transitions

variable {mktime : Tm → Option Int} {vec : List Channel} {i : Input} {s t : State F}

theorem selectChannel_transition (hstate : s.state = .selectChannel)
    (h : selectChannel vec s = some t) : Transition mktime vec s t := by
  simp only [selectChannel] at h
  by_cases h5 : s.registNum = 5
  · simp only [h5,if_true] at h
    split_ifs at h with hsize
    · obtain rfl := Option.some.inj h
      exact .exhausted hstate
    · obtain ⟨c,hc,rfl⟩ := Option.map_eq_some_iff.mp h
      exact .select hstate (.inl ⟨h5,rfl,rfl⟩) (by omega) hc
  · simp only [h5,if_false] at h
    split_ifs at h with hsize
    · obtain rfl := Option.some.inj h
      exact .exhausted hstate
    · obtain ⟨c,hc,rfl⟩ := Option.map_eq_some_iff.mp h
      exact .select hstate (.inr ⟨h5,rfl,rfl⟩) (by omega) hc

theorem waitForIdle_transition (hstate : s.state = .waitForIdle) :
    Transition mktime vec s (waitForIdle i s) := by
  have hquiet (hcount : s.myCount + 1 < 100) :
      Transition mktime vec s { s with myCount := s.myCount + 1 } := by
    have h : Transition mktime vec s _ := .listen s.selectNum none hstate hcount
    simpa using h
  simp only [waitForIdle]
  split_ifs with hcount hsel hset
  · exact .giveUp hstate
  · cases i.received with
    | none => exact hquiet (by omega)
    | some m =>
      simp only
      split_ifs
      · exact .idle (some m) hstate
      · exact .idle (some m) hstate
      · exact .listen (s.selectNum + 1) (some m) hstate (by omega)
  · exact hquiet (by omega)
  · have h : Transition mktime vec s _ := .idle none hstate
    simpa using h
  · exact .giveUp hstate

theorem waitFor17_transition {retry : ℕ} (hstate : s.state = .waitFor17 retry) :
    Transition mktime vec s (waitFor17 i s retry) := by
  cases retry with
  | zero => exact .silent hstate
  | succ retry =>
    have hnone : Transition mktime vec s { s with state := .waitFor17 retry } := by
      have h : Transition mktime vec s _ := .unanswered none hstate
      simpa using h
    simp only [waitFor17]
    split_ifs with hsel
    · cases i.received with
      | none => exact hnone
      | some m =>
        simp only
        split_ifs with hm hid
        · exact .refused m hstate
        · exact .assigned hstate hm hid
        · exact .unanswered (some m) hstate
    · exact hnone

theorem setEnable_false {m : CommunicaManage F} {id : Int} (h : (m.setEnable id).1 = false) :
    (m.setEnable id).2 = m := by
  unfold CommunicaManage.setEnable at h ⊢
  cases hfind : m.findcommunicate id with
  | none => rfl
  | some n => simp [hfind] at h

theorem acceptTimestamp_transition {n : ℕ} {m : Str} (hstate : s.state = .waitForTimestamp)
    (hn : s.listenNum = n+1) (hm : accepts20 s.identity.mac m = true) :
    Transition mktime vec s
      (acceptTimestamp mktime m ({ s with listenNum := n }.log (.stamp s.channel m))) := by
  unfold acceptTimestamp
  cases htv : tvSet mktime (substr m 32 17) with
  | none =>
    have h : Transition mktime vec s _ := .unstamped (substr m 32 17) (some m) none hstate hn
    simpa [htv] using h
  | some tv =>
    obtain ⟨enabled,manager,hen⟩ : ∃ b m', s.commManager.setEnable s.deviceId = (b,m') :=
      ⟨_,_,rfl⟩
    simp only [State.log,htv,hen]
    cases enabled
    · have hsame : manager = s.commManager := by
        simpa [hen] using setEnable_false (congrArg Prod.fst hen)
      have h : Transition mktime vec s _ := .unstamped (substr m 32 17) (some m) (some tv) hstate hn
      simpa [hsame] using h
    · have h : Transition mktime vec s _ := .registered n tv hstate hm hen
      simpa using h

theorem waitForTimestamp_transition (hstate : s.state = .waitForTimestamp) :
    Transition mktime vec s (waitForTimestamp mktime i s) := by
  unfold waitForTimestamp
  split <;> rename_i hn
  · simp only
    split_ifs with hnum
    · exact .unconfirmed hstate
    · exact .again hstate hn (by omega)
  · rename_i n
    have hnone : Transition mktime vec s { s with listenNum := n } := by
      have h : Transition mktime vec s _ := .unstamped s.identity.currentTime none none hstate hn
      simpa using h
    simp only
    split_ifs with hsel
    · cases i.received with
      | none => exact hnone
      | some m =>
        simp only
        split_ifs with hm
        · exact acceptTimestamp_transition hstate hn hm
        · have h : Transition mktime vec s _ :=
            .unstamped s.identity.currentTime (some m) none hstate hn
          simpa using h
    · exact hnone

/-- Every step that is not an error is one of the transitions. -/
theorem step_transition (h : step mktime vec i s = some t) : Transition mktime vec s t := by
  unfold step at h
  split at h <;> rename_i hstate
  · exact selectChannel_transition hstate h
  · obtain rfl := Option.some.inj h
    exact waitForIdle_transition hstate
  · obtain rfl := Option.some.inj h
    unfold sendRegister
    split_ifs
    · exact .sent i.location hstate
    · exact .unsent i.location hstate
  · obtain rfl := Option.some.inj h
    exact waitFor17_transition hstate
  · obtain rfl := Option.some.inj h
    exact .confirm hstate
  · obtain rfl := Option.some.inj h
    exact waitForTimestamp_transition hstate
  · obtain rfl := Option.some.inj h
    exact .ended (.inl hstate)
  · obtain rfl := Option.some.inj h
    exact .ended (.inr hstate)

/-- An answer in the trace is a message that was read. -/
theorem step_answer {i : Input} (h : step mktime vec i s = some t) {c : Channel} {m : Str}
    (hm : Event.answer c m ∈ t.trace) : Event.answer c m ∈ s.trace ∨ i.read = some m := by
  by_cases hstate : ∃ retry, s.state = .waitFor17 retry
  · obtain ⟨retry,hstate⟩ := hstate
    simp only [step,hstate,Option.some.injEq] at h
    subst h
    cases retry with
    | zero => exact .inl hm
    | succ retry =>
      simp only [waitFor17] at hm
      split_ifs at hm with hselect
      · cases hr : i.received with
        | none =>
          simp only [hr] at hm
          exact .inl hm
        | some m' =>
          have hread : i.read = some m' := (Option.filter_eq_some_iff.mp hr).1
          have hlast : Event.answer c m ∈ s.trace ++ [.answer s.channel m'] := by
            simp only [hr] at hm
            split_ifs at hm <;> simpa [State.retryDevice] using hm
          rcases List.mem_append.mp hlast with hmem | hmem
          · exact .inl hmem
          · obtain ⟨-,rfl⟩ := Event.answer.inj (List.mem_singleton.mp hmem)
            exact .inr hread
      · exact .inl hm
  · push Not at hstate
    left
    cases step_transition h with
    | unanswered m' hs => exact absurd hs (hstate _)
    | refused m' hs => exact absurd hs (hstate _)
    | assigned hs => exact absurd hs (hstate _)
    | silent hs => exact absurd hs (hstate _)
    | _ => simpa [State.retryDevice,sendConfirm] using hm

theorem transition_communicateStatus (h : Transition mktime vec s t) :
    t.identity.communicateStatus = s.identity.communicateStatus := by
  cases h <;> rfl

end Transitions

end RegistManage
end Sap9001
