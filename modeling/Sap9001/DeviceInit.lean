import Sap9001.CommunicaManage
import Sap9001.DeviceContext
import Sap9001.Library.Handles

/-! Initialisation and re-initialisation of the communication devices
(`app/device_init.cpp`, `hal/*_strategy.h`, `hal/lora.cpp`, `hal/bluetooth.cpp`). What the
system calls answer is an argument; what is computed is the table of open descriptors, the
stored descriptors and the status characters. -/
namespace Sap9001

structure CommFds where
  lora : Int := -1
  wifi : Int := -1
  bt : Int := -1
  lan : Int := -1
  lanServer : Int := -1
  flagWifi : Int := 0
  deviceId : List Int := []

structure World where
  files : Handles.Table
  fds : CommFds
  identity : DeviceIdentity

namespace DeviceInit

open Handles

inductive ConnectResult
  | done
  | inProgress
  | failed
  deriving DecidableEq

inductive SelectResult
  | timeout
  | error
  | ready
  deriving DecidableEq

/-- The answers of the system inside `connect_nonb`. The last `fcntl` is left out: its
failure is only logged. -/
structure ConnectOutcome where
  getFlags : Bool
  setNonblock : Bool
  connect : ConnectResult
  select : SelectResult
  isSet : Bool
  getsockopt : Bool
  soError : Bool

/-- What `connect_nonb` does to the socket. -/
inductive SockCall
  | setNonblock
  | restoreFlags
  | close
  deriving DecidableEq

def connectNonb (o : ConnectOutcome) : Int × List SockCall :=
  let failed := (-1,[.setNonblock,.restoreFlags,.close])
  let done := (0,[.setNonblock,.restoreFlags])
  if !o.getFlags then (-1,[.close])
  else if !o.setNonblock then (-1,[.setNonblock,.close])
  else
    match o.connect with
    | .failed => failed
    | .done => done
    | .inProgress =>
      match o.select with
      | .timeout | .error => failed
      | .ready =>
        if !o.isSet then failed
        else if !o.getsockopt then failed
        else if o.soError then failed
        else done

def applyCalls (sockfd : Int) (calls : List SockCall) (files : Table) : Table :=
  calls.foldl (fun t c => if c = .close then t.release sockfd else t) files

/-- The answers to `open` and `fcntl` in one `open_port`. -/
structure PortOutcome where
  opened : Bool
  blocking : Bool

def openPort (o : PortOutcome) (files : Table) : Int × Table :=
  if !o.opened then (-1,files)
  else if !o.blocking then (-1,files.acquire.2.release files.acquire.1)
  else files.acquire

/-- The answers of the system to one attempt to open a device: the attempts at the serial
port, its configuration, the Bluetooth device found by the scan, and the socket calls;
`socketReady` stands for `bind` and `listen` of the server and for connection and login
over 4G. -/
structure Outcome where
  ports : ℕ → PortOutcome
  setOpt : Bool
  btMac : Option Str
  socket : Bool
  connect : ConnectOutcome
  socketReady : Bool
  dialled : Bool

def loraOpen (o : Outcome) (files : Table) : Int × Table :=
  let r := openPort (o.ports 0) files
  if r.1 = -1 then (-1,r.2)
  else if !o.setOpt then (-1,r.2.release r.1)
  else r

/-- The loop of `bluetooth_open` over its attempts at the port. -/
def openPortRetry (ports : ℕ → PortOutcome) : ℕ → Table → Int × Table
  | 0, files => (-1,files)
  | i+1, files =>
    let r := openPort (ports i) files
    if r.1 = -1 then openPortRetry ports i r.2 else r

/-- Every way out of the scan but the one that found a device closes the port. -/
def bluetoothOpen (o : Outcome) (files : Table) : Int × Table :=
  let r := openPortRetry o.ports 5 files
  if r.1 = -1 then (-1,r.2)
  else if !o.setOpt then (-1,r.2.release r.1)
  else if o.btMac.isNone then (-1,r.2.release r.1)
  else r

/-- The callbacks that `dev_init` registers. -/
inductive ReinitFn
  | lora
  | wifi
  | bt
  | lan
  deriving DecidableEq

def loraReinit (o : Outcome) (oldFd : Int) (w : World) : Int × World :=
  let r := loraOpen o w.files
  if r.1 = -1 then (-1,{ w with files := r.2 })
  else (r.1,{
    files := r.2.release oldFd
    fds := { w.fds with lora := r.1 }
    identity := w.identity.setCommunicateStatus 0 (byte '1') })

def wifiReinit (o : Outcome) (oldFd : Int) (w : World) : Int × World :=
  if !o.socket then (-1,w)
  else
    let r := w.files.acquire
    let c := connectNonb o.connect
    let files := (applyCalls r.1 c.2 r.2).release oldFd
    if c.1 < 0 then (-1,{ w with files := files, fds := { w.fds with wifi := -1 } })
    else (r.1,{
      files := files
      fds := { w.fds with wifi := r.1 }
      identity := w.identity.setCommunicateStatus 1 (byte '1') })

def btReinit (o : Outcome) (oldFd : Int) (w : World) : Int × World :=
  let r := bluetoothOpen o w.files
  let files := r.2.release oldFd
  if r.1 = -1 then (-1,{ w with files := files, identity := { w.identity with btMac := [] } })
  else (r.1,{
    files := files
    fds := { w.fds with bt := r.1 }
    identity := w.identity.setCommunicateStatus 2 (byte '1') })

def lanReinit (o : Outcome) (oldFd : Int) (w : World) : Int × World :=
  let files := w.files.release oldFd
  if !o.socket then (-1,{ w with files := files, fds := { w.fds with lan := -1 } })
  else
    let r := files.acquire
    let c := connectNonb o.connect
    let files := applyCalls r.1 c.2 r.2
    if c.1 < 0 then
      (-1,{ w with files := files.release r.1, fds := { w.fds with lan := -1 } })
    else (r.1,{
      files := files
      fds := { w.fds with lan := r.1 }
      identity := w.identity.setCommunicateStatus 3 (byte '1') })

def call (o : Outcome) : ReinitFn → Int → World → Int × World
  | .lora => loraReinit o
  | .wifi => wifiReinit o
  | .bt => btReinit o
  | .lan => lanReinit o

/-- The strategies that `createAll` can make. -/
inductive Strategy
  | lora
  | wifi
  | bluetooth
  | lan
  | lanServer
  | cell4g
  deriving DecidableEq

namespace Strategy

def deviceId : Strategy → Int
  | .lora => 1
  | .wifi => 2
  | .bluetooth => 3
  | .lan => 4
  | .lanServer => 5
  | .cell4g => 6

def isClient (s : Strategy) : Bool := s ≠ .lanServer

/-- The callback that `dev_init` registers for the device. -/
def reinitFn : Strategy → Option ReinitFn
  | .lora => some .lora
  | .wifi => some .wifi
  | .bluetooth => some .bt
  | .lan => some .lan
  | .lanServer | .cell4g => none

/-- The socket part that the LAN and WiFi strategies share. -/
def connectSocket (o : Outcome) (files : Table) : Int × Table :=
  if !o.socket then (-1,files)
  else
    let r := files.acquire
    let c := connectNonb o.connect
    let files := applyCalls r.1 c.2 r.2
    if c.1 < 0 then (-1,files.release r.1) else (r.1,files)

/-- `initialize`. The sockets that the 4G dial-up tries are closed again at once; the 4G
and server sockets are closed when a call on them fails. -/
def init (o : Outcome) : Strategy → Table → Int × Table
  | .lora, files => loraOpen o files
  | .wifi, files | .lan, files => connectSocket o files
  | .bluetooth, files => bluetoothOpen o files
  | .lanServer, files =>
    if !o.socket then (-1,files)
    else if !o.socketReady then (-1,files.acquire.2.release files.acquire.1)
    else files.acquire
  | .cell4g, files =>
    if !o.dialled then (-1,files)
    else if !o.socket then (-1,files)
    else if !o.socketReady then (-1,files.acquire.2.release files.acquire.1)
    else files.acquire

def createAll (enabled : Strategy → Bool) : List Strategy :=
  [.lora,.wifi,.bluetooth,.lan,.lanServer,.cell4g].filter enabled

end Strategy

def storeFd (s : Strategy) (fd : Int) (fds : CommFds) : CommFds :=
  match s with
  | .lora => { fds with lora := fd }
  | .wifi => { fds with wifi := fd, flagWifi := 1 }
  | .bluetooth => { fds with bt := fd }
  | .lan => { fds with lan := fd }
  | .lanServer => { fds with lanServer := fd }
  | .cell4g => fds

/-- What `dev_init` records of a client device on descriptor `r.1`. -/
def recordClient (s : Strategy) (r : Int × Table) (w : World) : World where
  files := r.2
  fds := storeFd s r.1 { w.fds with deviceId := w.fds.deviceId ++ [r.1] }
  identity := w.identity.setCommunicateStatus (s.deviceId - 1) (byte '1')

/-- One round of the loop of `dev_init`. -/
def initOne (o : Outcome) (s : Strategy) (m : CommunicaManage ReinitFn) (w : World) :
    Option (CommunicaManage ReinitFn × World) :=
  let r := s.init o w.files
  if r.1 < 0 then some (m,{ w with files := r.2 })
  else if s.isClient then
    let added := (m.addCommunicateNode s.deviceId r.1).2
    let registered := match s.reinitFn with
      | some f => (added.callbackRgist s.deviceId 0 (some f)).map Prod.snd
      | none => some added
    registered.map fun m => (m,recordClient s r w)
  else some (m,{ w with files := r.2, fds := storeFd s r.1 w.fds })

def initAll (o : Strategy → Outcome) : List Strategy → CommunicaManage ReinitFn → World →
    Option (CommunicaManage ReinitFn × World)
  | [], m, w => some (m,w)
  | s::ss, m, w => (initOne (o s) s m w).bind fun r => initAll o ss r.1 r.2

/-- The MAC of the Bluetooth device is stored when that strategy is connected. -/
def storeBtMac (o : Outcome) (w : World) : World :=
  if 0 ≤ w.fds.bt then { w with identity := { w.identity with btMac := o.btMac.getD [] } } else w

/-- The number of client devices, or -1, with the manager and the world it leaves. -/
def devInit (o : Strategy → Outcome) (enabled : Strategy → Bool) (files : Table)
    (identity : DeviceIdentity) : Option (Int × CommunicaManage ReinitFn × World) :=
  (initAll o (Strategy.createAll enabled) .new ⟨files,{},identity⟩).map fun r =>
    (if r.2.fds.deviceId = [] then -1 else r.2.fds.deviceId.length,r.1,storeBtMac (o .bluetooth) r.2)

/-- One line, or as much of it as fits the buffer with its NUL. -/
def fgets (size : ℕ) (file : Str) : Str :=
  let buf := file.take (size - 1)
  buf.take (buf.findIdx (· = byte '\n') + 1)

/-- The MAC is the first line of the file, if there is one. -/
def getMac (macFile : Option Str) (identity : DeviceIdentity) : DeviceIdentity :=
  match macFile with
  | none => identity
  | some file =>
    if file = [] then identity
    else
      let macAddr := cstr (fgets 256 file)
      { identity with
        mac := if macAddr.getLast? = some (byte '\n') then macAddr.dropLast else macAddr }

theorem getMac_communicateStatus (macFile : Option Str) (identity : DeviceIdentity) :
    (getMac macFile identity).communicateStatus = identity.communicateStatus := by
  unfold getMac
  split
  · rfl
  · split_ifs <;> rfl

/-- The net effect on the table of an attempt to open a device that fails. -/
structure OpenFailed (t : Table) (r : Int × Table) : Prop where
  fd : r.1 = -1
  next : t.next ≤ r.2.next
  same : ∀ g, r.2.object g = t.object g

/-- The net effect of one that succeeds: a new open file under a free number. -/
structure Opened (t : Table) (r : Int × Table) : Prop where
  fd : 0 ≤ r.1
  next : t.next ≤ r.2.next
  free : t.object r.1 = none
  new : ∃ k, t.next ≤ k ∧ ∀ g, r.2.object g = if g = r.1 then some k else t.object g

def Opens (t : Table) : Bool → Int × Table → Prop
  | false => OpenFailed t
  | true => Opened t

section Opens

variable {t : Table}

theorem OpenFailed.refl (t : Table) : OpenFailed t (-1,t) := ⟨rfl,Nat.le_refl _,fun _ => rfl⟩

/-- Another attempt after one that failed. -/
theorem Opens.retry {ok : Bool} {r r' : Int × Table} (h : OpenFailed t r) (h' : Opens r.2 ok r') :
    Opens t ok r' := by
  have heq : r.2.object = t.object := funext h.same
  cases ok with
  | false => exact ⟨h'.fd,h.next.trans h'.next,heq ▸ h'.same⟩
  | true =>
    obtain ⟨k,hk,hopen⟩ := h'.new
    exact ⟨h'.fd,h.next.trans h'.next,heq ▸ h'.free,k,h.next.trans hk,heq ▸ hopen⟩

/-- The new file is closed again. -/
theorem Opened.closed {r : Int × Table} (h : Opened t r) : OpenFailed t (-1,r.2.release r.1) := by
  obtain ⟨k,-,hopen⟩ := h.new
  refine ⟨rfl,h.next,fun g => ?_⟩
  rw [Table.object_release,hopen g]
  split_ifs with heq
  · rw [heq,h.free]
  · rfl

/-- Closing a number that was free finds nothing to close. -/
theorem OpenFailed.release {r : Int × Table} (h : OpenFailed t r) {fd : Int}
    (hfree : t.object fd = none) : OpenFailed t (-1,r.2.release fd) := by
  refine ⟨rfl,h.next,fun g => ?_⟩
  rw [Table.object_release,h.same]
  split_ifs with heq
  · rw [heq,hfree]
  · rfl

theorem Opens.eq_neg_one {ok : Bool} {r : Int × Table} (h : Opens t ok r) :
    r.1 = -1 ↔ ok = false := by
  cases ok with
  | false => exact ⟨fun _ => rfl,fun _ => h.fd⟩
  | true =>
    have hfd : 0 ≤ r.1 := h.fd
    simp
    omega

theorem Opens.nonneg {ok : Bool} {r : Int × Table} (h : Opens t ok r) : 0 ≤ r.1 ↔ ok = true := by
  cases ok with
  | false => simp [h.fd]
  | true => exact ⟨fun _ => rfl,fun _ => h.fd⟩

theorem acquire_opened (t : Table) : Opened t t.acquire :=
  ⟨Table.acquire_nonneg,Nat.le_succ _,Table.object_acquire_free,t.next,Nat.le_refl _,
    Table.object_acquire⟩

def PortOutcome.ok (o : PortOutcome) : Bool := o.opened && o.blocking

theorem openPort_opens (o : PortOutcome) (t : Table) : Opens t o.ok (openPort o t) := by
  obtain ⟨opened,blocking⟩ := o
  cases opened with
  | false => exact .refl t
  | true => cases blocking with
    | false => exact (acquire_opened t).closed
    | true => exact acquire_opened t

theorem openPortRetry_opens (ports : ℕ → PortOutcome) (i : ℕ) (t : Table) :
    Opens t ((List.range i).any fun j => (ports j).ok) (openPortRetry ports i t) := by
  induction i generalizing t with
  | zero => exact .refl t
  | succ i ih =>
    have hport := openPort_opens (ports i) t
    rw [List.range_succ,List.any_append,openPortRetry]
    cases hok : (ports i).ok with
    | true =>
      rw [hok] at hport
      rw [if_neg (by simp [hport.eq_neg_one])]
      simpa [hok] using hport
    | false =>
      rw [hok] at hport
      rw [if_pos hport.fd]
      simpa [hok] using Opens.retry hport (ih _)

/-- A port that is opened and then configured. -/
theorem configured_opens {ok : Bool} {r : Int × Table} (h : Opens t ok r) (setOpt : Bool) :
    Opens t (ok && setOpt)
      (if r.1 = -1 then (-1,r.2) else if !setOpt then (-1,r.2.release r.1) else r) := by
  cases ok with
  | false =>
    rw [if_pos h.fd]
    exact ⟨rfl,h.next,h.same⟩
  | true =>
    rw [if_neg (by simp [h.eq_neg_one])]
    cases setOpt with
    | false => exact h.closed
    | true => exact h

def Outcome.loraOk (o : Outcome) : Bool := (o.ports 0).ok && o.setOpt

theorem loraOpen_opens (o : Outcome) (t : Table) : Opens t o.loraOk (loraOpen o t) :=
  configured_opens (openPort_opens (o.ports 0) t) o.setOpt

def Outcome.bluetoothOk (o : Outcome) : Bool :=
  ((List.range 5).any fun j => (o.ports j).ok) && (o.setOpt && o.btMac.isSome)

theorem bluetoothOpen_opens (o : Outcome) (t : Table) :
    Opens t o.bluetoothOk (bluetoothOpen o t) := by
  have h := configured_opens (openPortRetry_opens o.ports 5 t) (o.setOpt && o.btMac.isSome)
  unfold bluetoothOpen
  cases h₁ : o.setOpt <;> cases h₂ : o.btMac <;> simpa [Outcome.bluetoothOk,h₁,h₂] using h

theorem object_applyCalls (sockfd : Int) (calls : List SockCall) (g : Int) :
    (applyCalls sockfd calls t).object g =
      if .close ∈ calls ∧ g = sockfd then none else t.object g := by
  induction calls generalizing t with
  | nil => simp [applyCalls]
  | cons c calls ih =>
    have hcons : applyCalls sockfd (c::calls) t =
        applyCalls sockfd calls (if c = .close then t.release sockfd else t) := rfl
    rw [hcons,ih]
    by_cases hc : c = .close
    · rw [if_pos hc,Table.object_release]
      by_cases hg : g = sockfd <;> simp [hc,hg]
    · simp [hc,Ne.symm hc]

theorem next_applyCalls (sockfd : Int) (calls : List SockCall) :
    (applyCalls sockfd calls t).next = t.next := by
  induction calls generalizing t with
  | nil => rfl
  | cons c calls ih =>
    have hcons : applyCalls sockfd (c::calls) t =
        applyCalls sockfd calls (if c = .close then t.release sockfd else t) := rfl
    rw [hcons,ih]
    split_ifs <;> rfl

/-- Success leaves the socket open after the request to restore its flags, failure comes with one
`close`. -/
theorem connectNonb_calls (o : ConnectOutcome) :
    (connectNonb o).1 = 0 ∧ (connectNonb o).2 = [.setNonblock,.restoreFlags] ∨
      (connectNonb o).1 = -1 ∧ (connectNonb o).2.filter (· = .close) = [.close] := by
  obtain ⟨getFlags,setNonblock,connect,select,isSet,getsockopt,soError⟩ := o
  cases getFlags with
  | false => exact .inr ⟨rfl,rfl⟩
  | true => cases setNonblock with
    | false => exact .inr ⟨rfl,rfl⟩
    | true => cases connect with
      | done => exact .inl ⟨rfl,rfl⟩
      | failed => exact .inr ⟨rfl,rfl⟩
      | inProgress => cases select with
        | timeout => exact .inr ⟨rfl,rfl⟩
        | error => exact .inr ⟨rfl,rfl⟩
        | ready => cases isSet <;> cases getsockopt <;> cases soError <;> decide

/-- `connect_nonb` closes the socket exactly when it fails. -/
theorem connectNonb_closes (o : ConnectOutcome) :
    (connectNonb o).1 = 0 ∧ .close ∉ (connectNonb o).2 ∨
      (connectNonb o).1 = -1 ∧ .close ∈ (connectNonb o).2 := by
  rcases connectNonb_calls o with ⟨hret,hcalls⟩ | ⟨hret,hcalls⟩
  · exact .inl ⟨hret,by simp [hcalls]⟩
  · have hmem : .close ∈ (connectNonb o).2.filter (· = .close) := by simp [hcalls]
    exact .inr ⟨hret,(List.mem_filter.mp hmem).1⟩

def ConnectOutcome.ok (o : ConnectOutcome) : Bool := (connectNonb o).1 = 0

theorem connectNonb_neg (o : ConnectOutcome) : (connectNonb o).1 < 0 ↔ o.ok = false := by
  rcases connectNonb_closes o with ⟨hret,-⟩ | ⟨hret,-⟩ <;> simp [ConnectOutcome.ok,hret]

/-- A socket that is connected, or closed by `connect_nonb`. -/
theorem connected_opens (o : ConnectOutcome) (t : Table) :
    Opens t o.ok (if (connectNonb o).1 < 0 then -1 else t.acquire.1,
      applyCalls t.acquire.1 (connectNonb o).2 t.acquire.2) := by
  have hcalls := object_applyCalls (t := t.acquire.2) t.acquire.1 (connectNonb o).2
  have hnext : t.next ≤ (applyCalls t.acquire.1 (connectNonb o).2 t.acquire.2).next := by
    rw [next_applyCalls]
    exact (acquire_opened t).next
  rcases connectNonb_closes o with ⟨hret,hclose⟩ | ⟨hret,hclose⟩
  · have hok : o.ok = true := by simp [ConnectOutcome.ok,hret]
    obtain ⟨k,hk,hopen⟩ := (acquire_opened t).new
    rw [hok,if_neg (by omega)]
    refine ⟨Table.acquire_nonneg,hnext,Table.object_acquire_free,k,hk,fun g => ?_⟩
    rw [hcalls g,if_neg (fun h => hclose h.1),hopen g]
  · have hok : o.ok = false := by simp [ConnectOutcome.ok,hret]
    rw [hok,if_pos (by omega)]
    refine ⟨rfl,hnext,fun g => ?_⟩
    have hback := Table.object_acquire_release (t := t) g
    rw [Table.object_release] at hback
    rw [hcalls g,← hback]
    simp [hclose]

def Outcome.socketOk (o : Outcome) : Bool := o.socket && o.connect.ok

theorem connectSocket_opens (o : Outcome) (t : Table) :
    Opens t o.socketOk (Strategy.connectSocket o t) := by
  have h := connected_opens o.connect t
  unfold Strategy.connectSocket Outcome.socketOk
  cases o.socket with
  | false => exact .refl t
  | true =>
    simp only [Bool.not_true,Bool.false_eq_true,if_false,Bool.true_and]
    split_ifs at h ⊢ with hneg
    · have hok : o.connect.ok = false := h.eq_neg_one.mp rfl
      rw [hok] at h ⊢
      exact h.release Table.object_acquire_free
    · exact h

def Strategy.ok (o : Outcome) : Strategy → Bool
  | .lora => o.loraOk
  | .wifi | .lan => o.socketOk
  | .bluetooth => o.bluetoothOk
  | .lanServer => o.socket && o.socketReady
  | .cell4g => o.dialled && (o.socket && o.socketReady)

/-- A socket that is closed again when a call on it fails. -/
theorem socketReady_opens (o : Outcome) (t : Table) : Opens t (o.socket && o.socketReady)
    (if !o.socket then (-1,t)
      else if !o.socketReady then (-1,t.acquire.2.release t.acquire.1) else t.acquire) := by
  cases o.socket with
  | false => exact .refl t
  | true => cases o.socketReady with
    | false => exact (acquire_opened t).closed
    | true => exact acquire_opened t

theorem Strategy.init_opens (o : Outcome) (s : Strategy) (t : Table) :
    Opens t (s.ok o) (s.init o t) := by
  cases s with
  | lora => exact loraOpen_opens o t
  | wifi => exact connectSocket_opens o t
  | bluetooth => exact bluetoothOpen_opens o t
  | lan => exact connectSocket_opens o t
  | lanServer => exact socketReady_opens o t
  | cell4g =>
    have h := socketReady_opens o t
    simp only [Strategy.ok,Strategy.init]
    cases o.dialled with
    | false => exact .refl t
    | true => simpa using h

end Opens

/-- The device that a callback opens. -/
def ReinitFn.deviceId : ReinitFn → Int
  | .lora => 1
  | .wifi => 2
  | .bt => 3
  | .lan => 4

/-- Whether the re-initialisation succeeds. -/
def ReinitFn.ok (o : Outcome) : ReinitFn → Bool
  | .lora => o.loraOk
  | .wifi | .lan => o.socketOk
  | .bt => o.bluetoothOk

/-- Whether a re-initialisation that fails closes the descriptor it is given. -/
def ReinitFn.closesOnFailure (o : Outcome) : ReinitFn → Bool
  | .lora => false
  | .wifi => o.socket
  | .bt | .lan => true

/-- The effect of a re-initialisation that is given `oldFd` to replace: a new file is opened
before `oldFd` is closed, or after that. -/
structure Reopens (ok closes : Bool) (oldFd : Int) (t : Table) (fd : Int) (t' : Table) : Prop where
  result : 0 ≤ fd ↔ ok = true
  failed : ok = false → ∀ g, t'.object g = if closes = true ∧ g = oldFd then none else t.object g
  opened : ok = true → ∃ k, t.next ≤ k ∧
    ((t.object fd = none ∧
        ∀ g, t'.object g = if g = oldFd then none else if g = fd then some k else t.object g) ∨
      ((t.object fd = none ∨ fd = oldFd) ∧
        ∀ g, t'.object g = if g = fd then some k else if g = oldFd then none else t.object g))

section Reopens

variable {t : Table} {ok : Bool} {r : Int × Table}

theorem Opens.thenClose (h : Opens t ok r) (closes : Bool) (oldFd : Int) :
    Reopens ok closes oldFd t r.1 (if ok || closes then r.2.release oldFd else r.2) where
  result := h.nonneg
  failed hok g := by
    subst hok
    cases closes with
    | false => simpa using h.same g
    | true => simp [Table.object_release,h.same g]
  opened hok := by
    subst hok
    obtain ⟨k,hk,hopen⟩ := h.new
    exact ⟨k,hk,.inl ⟨h.free,fun g => by simp [Table.object_release,hopen g]⟩⟩

theorem Opens.afterClose {oldFd : Int} (h : Opens (t.release oldFd) ok r) :
    Reopens ok true oldFd t r.1 r.2 where
  result := h.nonneg
  failed hok g := by
    subst hok
    simp [h.same g,Table.object_release]
  opened hok := by
    subst hok
    obtain ⟨k,hk,hopen⟩ := h.new
    refine ⟨k,hk,.inr ⟨?_,fun g => by simp [hopen g,Table.object_release]⟩⟩
    have hfree := h.free
    rw [Table.object_release] at hfree
    split_ifs at hfree with heq
    · exact .inr heq
    · exact .inl hfree

end Reopens

theorem loraReinit_reopens (o : Outcome) (oldFd : Int) (w : World) :
    Reopens o.loraOk false oldFd w.files (loraReinit o oldFd w).1 (loraReinit o oldFd w).2.files := by
  have hopens := loraOpen_opens o w.files
  have h := hopens.thenClose false oldFd
  unfold loraReinit
  by_cases hfd : (loraOpen o w.files).1 = -1
  · simpa [hfd,hopens.eq_neg_one.mp hfd] using h
  · have hok : o.loraOk = true := by simpa using hopens.eq_neg_one.not.mp hfd
    simpa [hfd,hok] using h

theorem wifiReinit_reopens (o : Outcome) (oldFd : Int) (w : World) :
    Reopens o.socketOk o.socket oldFd w.files (wifiReinit o oldFd w).1
      (wifiReinit o oldFd w).2.files := by
  unfold wifiReinit Outcome.socketOk
  cases o.socket with
  | false => exact (show Opens w.files false (-1,w.files) from .refl _).thenClose false oldFd
  | true =>
    have h := (connected_opens o.connect w.files).thenClose true oldFd
    by_cases hneg : (connectNonb o.connect).1 < 0 <;> simpa [hneg] using h

theorem btReinit_reopens (o : Outcome) (oldFd : Int) (w : World) :
    Reopens o.bluetoothOk true oldFd w.files (btReinit o oldFd w).1
      (btReinit o oldFd w).2.files := by
  have h := (bluetoothOpen_opens o w.files).thenClose true oldFd
  unfold btReinit
  by_cases hfd : (bluetoothOpen o w.files).1 = -1 <;> simpa [hfd] using h

theorem lanReinit_reopens (o : Outcome) (oldFd : Int) (w : World) :
    Reopens o.socketOk true oldFd w.files (lanReinit o oldFd w).1
      (lanReinit o oldFd w).2.files := by
  have h := (connectSocket_opens o (w.files.release oldFd)).afterClose
  unfold lanReinit
  unfold Strategy.connectSocket at h
  cases hs : o.socket with
  | false => simpa [hs] using h
  | true => by_cases hneg : (connectNonb o.connect).1 < 0 <;> simpa [hs,hneg] using h

theorem call_reopens (f : ReinitFn) (o : Outcome) (oldFd : Int) (w : World) :
    Reopens (f.ok o) (f.closesOnFailure o) oldFd w.files (call o f oldFd w).1
      (call o f oldFd w).2.files := by
  cases f with
  | lora => exact loraReinit_reopens o oldFd w
  | wifi => exact wifiReinit_reopens o oldFd w
  | bt => exact btReinit_reopens o oldFd w
  | lan => exact lanReinit_reopens o oldFd w

/-- Success sets the status character of the device to '1'; failure clears at most the Bluetooth
MAC. -/
theorem call_identity (f : ReinitFn) (o : Outcome) (oldFd : Int) (w : World) :
    (call o f oldFd w).2.identity =
      if f.ok o then w.identity.setCommunicateStatus (f.deviceId - 1) (byte '1')
      else if f = .bt then { w.identity with btMac := [] }
      else w.identity := by
  cases f with
  | lora =>
    have hopens := loraOpen_opens o w.files
    simp only [call,loraReinit,ReinitFn.ok]
    by_cases hfd : (loraOpen o w.files).1 = -1
    · simp [hfd,hopens.eq_neg_one.mp hfd]
    · have hok : o.loraOk = true := by simpa using hopens.eq_neg_one.not.mp hfd
      simp [hfd,hok,ReinitFn.deviceId]
  | wifi =>
    simp only [call,wifiReinit,ReinitFn.ok,Outcome.socketOk]
    cases o.socket with
    | false => simp
    | true => cases hok : o.connect.ok <;> simp [connectNonb_neg,hok,ReinitFn.deviceId]
  | bt =>
    have hopens := bluetoothOpen_opens o w.files
    simp only [call,btReinit,ReinitFn.ok]
    by_cases hfd : (bluetoothOpen o w.files).1 = -1
    · simp [hfd,hopens.eq_neg_one.mp hfd]
    · have hok : o.bluetoothOk = true := by simpa using hopens.eq_neg_one.not.mp hfd
      simp [hfd,hok,ReinitFn.deviceId]
  | lan =>
    simp only [call,lanReinit,ReinitFn.ok,Outcome.socketOk]
    cases o.socket with
    | false => simp
    | true => cases hok : o.connect.ok <;> simp [connectNonb_neg,hok,ReinitFn.deviceId]

end DeviceInit
end Sap9001
