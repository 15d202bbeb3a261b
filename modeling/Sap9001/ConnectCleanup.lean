import Sap9001.DeviceInit

/-! Who closes a socket whose connection fails: the calls of `close` between the creation of the
socket and the return of each caller of `connect_nonb`. -/
namespace Sap9001
namespace ConnectCleanup

open DeviceInit Handles

/-- The callers of `connect_nonb`. -/
inductive Caller
  | lanInitialize | wifiInitialize | lanReinit | wifiReinit
  deriving DecidableEq

/-- The descriptors that `connect_nonb` passes to `close`. -/
def closes (sockfd : Int) (calls : List SockCall) : List Int :=
  (calls.filter (· = .close)).map fun _ => sockfd

/-- A failed connection is followed by a `close` of the socket. -/
def connectOrClose (sockfd : Int) (o : ConnectOutcome) : Int × List Int :=
  let c := connectNonb o
  if c.1 < 0 then (-1,closes sockfd c.2 ++ [sockfd]) else (sockfd,closes sockfd c.2)

/-- The result of an attempt with a socket, and the descriptors it closes from then on. The
old descriptor of `lan_reinit` was closed before. -/
def attempt (oldFd sockfd : Int) (o : ConnectOutcome) : Caller → Int × List Int
  | .lanInitialize => connectOrClose sockfd o
  | .wifiInitialize => connectOrClose sockfd o
  | .lanReinit => connectOrClose sockfd o
  | .wifiReinit =>
    let c := connectNonb o
    if c.1 < 0 then (-1,closes sockfd c.2 ++ [oldFd]) else (sockfd,closes sockfd c.2 ++ [oldFd])

theorem applyCalls_eq (sockfd : Int) (calls : List SockCall) (files : Table) :
    applyCalls sockfd calls files = (closes sockfd calls).foldl Table.release files := by
  induction calls generalizing files with
  | nil => rfl
  | cons c calls ih =>
    have hcons : applyCalls sockfd (c::calls) files =
        applyCalls sockfd calls (if c = .close then files.release sockfd else files) := rfl
    rw [hcons,ih]
    by_cases hc : c = .close <;> simp [closes,hc]

section Attempts

variable (o : Outcome) (oldFd : Int) (files : Table) (w : World)

theorem connectOrClose_eq (files : Table) :
    (if (connectNonb o.connect).1 < 0 then (-1,(applyCalls files.acquire.1
        (connectNonb o.connect).2 files.acquire.2).release files.acquire.1)
      else (files.acquire.1,applyCalls files.acquire.1 (connectNonb o.connect).2 files.acquire.2)) =
    ((connectOrClose files.acquire.1 o.connect).1,
      (connectOrClose files.acquire.1 o.connect).2.foldl Table.release files.acquire.2) := by
  by_cases hneg : (connectNonb o.connect).1 < 0 <;> simp [connectOrClose,hneg,applyCalls_eq]

/-- The strategies open a socket and make one attempt with it. -/
theorem connectSocket_eq (hs : o.socket = true) (caller : Caller)
    (hcaller : caller = .lanInitialize ∨ caller = .wifiInitialize) :
    Strategy.connectSocket o files = ((attempt oldFd files.acquire.1 o.connect caller).1,
      (attempt oldFd files.acquire.1 o.connect caller).2.foldl Table.release files.acquire.2) := by
  have hattempt : attempt oldFd files.acquire.1 o.connect caller =
      connectOrClose files.acquire.1 o.connect := by
    rcases hcaller with rfl | rfl <;> rfl
  rw [hattempt,← connectOrClose_eq]
  simp [Strategy.connectSocket,hs]

theorem lanReinit_eq (hs : o.socket = true) :
    ((lanReinit o oldFd w).1,(lanReinit o oldFd w).2.files) =
      ((attempt oldFd (w.files.release oldFd).acquire.1 o.connect .lanReinit).1,
        (attempt oldFd (w.files.release oldFd).acquire.1 o.connect .lanReinit).2.foldl Table.release
          (w.files.release oldFd).acquire.2) := by
  rw [attempt,← connectOrClose_eq]
  simp only [lanReinit,hs]
  split_ifs <;> simp_all

theorem wifiReinit_eq (hs : o.socket = true) :
    ((wifiReinit o oldFd w).1,(wifiReinit o oldFd w).2.files) =
      ((attempt oldFd w.files.acquire.1 o.connect .wifiReinit).1,
        (attempt oldFd w.files.acquire.1 o.connect .wifiReinit).2.foldl Table.release
          w.files.acquire.2) := by
  simp only [wifiReinit,hs,attempt]
  split_ifs <;> simp_all [applyCalls_eq]

end Attempts

/-- The ownership rule: a failed attempt closes its socket once, and `connect_nonb` returns 0
with the socket open and its flags requested back. -/
def ClosedOnce (caller : Caller) (oldFd sockfd : Int) (o : ConnectOutcome) : Prop :=
  ((attempt oldFd sockfd o caller).1 = -1 →
    (attempt oldFd sockfd o caller).2.count sockfd = 1) ∧
  ((connectNonb o).1 = 0 →
    .close ∉ (connectNonb o).2 ∧ (connectNonb o).2.getLast? = some .restoreFlags)

/-- The answers with which a connection comes about, at once or when `select` reports it. -/
def Connects (o : ConnectOutcome) : Prop :=
  o.getFlags = true ∧ o.setNonblock = true ∧ (o.connect = .done ∨
    o.connect = .inProgress ∧ o.select = .ready ∧ o.isSet = true ∧ o.getsockopt = true ∧
      o.soError = false)

theorem connects_iff (o : ConnectOutcome) : Connects o ↔ (connectNonb o).1 = 0 := by
  obtain ⟨getFlags,setNonblock,connect,select,isSet,getsockopt,soError⟩ := o
  unfold Connects connectNonb
  cases getFlags with
  | false => simp
  | true => cases setNonblock with
    | false => simp
    | true => cases connect with
      | done => simp
      | failed => simp
      | inProgress => cases select with
        | timeout => simp
        | error => simp
        | ready => cases isSet <;> cases getsockopt <;> cases soError <;> simp

/-- Three of the callers close a socket again that `connect_nonb` has closed; `wifi_reinit` does
so when the old descriptor has the number of the new socket. -/
theorem closed_once_iff (caller : Caller) (oldFd : Int) {sockfd : Int} (o : ConnectOutcome)
    (hsock : 0 ≤ sockfd) : ClosedOnce caller oldFd sockfd o ↔
      Connects o ∨ caller = .wifiReinit ∧ oldFd ≠ sockfd := by
  rw [connects_iff]
  rcases connectNonb_calls o with ⟨hret,hcalls⟩ | ⟨hret,hcalls⟩
  · have hreturns : (attempt oldFd sockfd o caller).1 = sockfd := by
      cases caller <;> simp [attempt,connectOrClose,hret]
    have hne : sockfd ≠ -1 := by omega
    simp [ClosedOnce,hreturns,hne,hcalls,hret]
  · have hone : closes sockfd (connectNonb o).2 = [sockfd] := by simp [closes,hcalls]
    have hreturns : (attempt oldFd sockfd o caller).1 = -1 := by
      cases caller <;> simp [attempt,connectOrClose,hret]
    have hagain : (attempt oldFd sockfd o caller).2 =
        [sockfd,if caller = .wifiReinit then oldFd else sockfd] := by
      cases caller <;> simp [attempt,connectOrClose,hret,hone]
    simp only [ClosedOnce,hreturns,hagain,hret]
    by_cases hcaller : caller = .wifiReinit
    · by_cases hold : oldFd = sockfd <;> simp [hcaller,hold]
    · simp [hcaller]

/-- The answers of the system when nothing listens on the other side. -/
def refused : ConnectOutcome := ⟨true,true,.failed,.ready,true,true,false⟩

/-- The LAN strategy closes its socket 7 twice. -/
theorem lan_socket_closed_twice : ¬ ∀ (caller : Caller) (oldFd sockfd : Int) (o : ConnectOutcome),
    0 ≤ sockfd → ClosedOnce caller oldFd sockfd o := by
  intro hall
  have h := (hall .lanInitialize (-1) 7 refused (by decide)).1 (by decide)
  exact absurd h (by decide)

/-- The reconnect over WiFi from descriptor 6 to socket 7 closes each of them once. -/
theorem wifi_socket_closed_once : ClosedOnce .wifiReinit 6 7 refused :=
  (closed_once_iff .wifiReinit 6 refused (by decide)).mpr (.inr (by decide))

end ConnectCleanup
end Sap9001
