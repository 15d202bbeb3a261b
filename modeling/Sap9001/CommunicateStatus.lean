import Sap9001.Reconnect

/-! The status characters of the devices against the attempts to open them
(`app/device_init.cpp`, `core/device_context.h`). -/
namespace Sap9001
namespace CommunicateStatus

open CommunicaManage DeviceMap DeviceInit Reinit Reconnect

/-- The attempts to open the client devices, in order: the device and whether it succeeded. -/
abbrev Log := List (Int × Bool)

/-- A callback that also writes down what it did. -/
def loggedCall (o : Outcome) (f : ReinitFn) (oldFd : Int) (w : World × Log) :
    Int × (World × Log) :=
  let r := call o f oldFd w.1
  (r.1,r.2,w.2 ++ [(f.deviceId,f.ok o)])

/-- The attempts of `dev_init`. -/
def initLog (o : Strategy → Outcome) (ss : List Strategy) : Log :=
  (ss.filter (·.isClient)).map fun s => (s.deviceId,s.ok (o s))

structure Sys where
  manager : CommunicaManage ReinitFn
  world : World
  log : Log

/-- A device is enabled, or reinitialised; `send_mess` does that to the active device. -/
inductive Event
  | setEnable (id : ℕ)
  | reconnect (activeId : Int) (a : Attempt)

def step (s : Sys) : Event → Option Sys
  | .setEnable id => some { s with manager := (s.manager.setEnable id).2 }
  | .reconnect activeId a =>
    if 0 ≤ activeId then
      (s.manager.reinit (loggedCall a.outcome) a.t₁ a.t₂ activeId 0 (s.world,s.log)).map fun r =>
        ⟨r.2.1,r.2.2.1,r.2.2.2⟩
    else some s

def run : Sys → List Event → Option Sys
  | s, [] => some s
  | s, e::es => (step s e).bind fun t => run t es

/-- The result of the most recent attempt on a device. -/
def lastOf (log : Log) (id : Int) : Option Bool := (log.reverse.find? (·.1 = id)).map (·.2)

/-- The status character of each client device tells how its most recent attempt went. -/
def Truthful (s : Sys) : Prop := ∀ id : Int, 1 ≤ id → id ≤ 4 →
  (s.world.identity.communicateStatus[(id - 1).toNat]? = some (byte '1') ↔
    lastOf s.log id = some true)

theorem mem_of_lastOf {log : Log} {id : Int} (h : lastOf log id = some true) : (id,true) ∈ log := by
  obtain ⟨⟨k,b⟩,hfind,rfl⟩ := Option.map_eq_some_iff.mp h
  obtain rfl : k = id := by simpa using List.find?_some hfind
  exact List.mem_reverse.mp (List.mem_of_find?_eq_some hfind)

/-- A status character is '1' as soon as the device has come up once. -/
structure Recorded (status : Str) (log : Log) : Prop where
  length : status.length = 6
  ever : ∀ id : Int, 1 ≤ id → id ≤ 4 →
    (status[(id - 1).toNat]? = some (byte '1') ↔ (id,true) ∈ log)

theorem Recorded.failed {status : Str} {log : Log} (h : Recorded status log) (k : Int) :
    Recorded status (log ++ [(k,false)]) where
  length := h.length
  ever id h₁ h₄ := by
    rw [h.ever id h₁ h₄]
    simp

theorem Recorded.succeeded {i : DeviceIdentity} {log : Log} (h : Recorded i.communicateStatus log)
    {k : Int} (hk : 1 ≤ k) :
    Recorded (i.setCommunicateStatus (k - 1) (byte '1')).communicateStatus (log ++ [(k,true)]) := by
  have hlen := h.length
  by_cases hin : 0 ≤ k - 1 ∧ k - 1 < 6
  · rw [DeviceIdentity.setCommunicateStatus,if_pos hin]
    refine ⟨by simp [hlen],fun id h₁ h₄ => ?_⟩
    by_cases hid : id = k
    · subst hid
      simp only [List.getElem?_set_self (show (id - 1).toNat < i.communicateStatus.length by omega)]
      simp
    · have hne : (k - 1).toNat ≠ (id - 1).toNat := by omega
      simp only [List.getElem?_set_ne hne,h.ever id h₁ h₄]
      simp [hid]
  · rw [DeviceIdentity.setCommunicateStatus,if_neg hin]
    refine ⟨hlen,fun id h₁ h₄ => ?_⟩
    have hne : id ≠ k := by omega
    rw [h.ever id h₁ h₄]
    simp [hne]

theorem initLog_append (o : Strategy → Outcome) (ss ts : List Strategy) :
    initLog o (ss ++ ts) = initLog o ss ++ initLog o ts := by
  simp [initLog]

/-- One strategy of `dev_init` records its attempt. -/
theorem initOne_recorded (o : Strategy → Outcome) (st : Strategy) {m m' : CommunicaManage ReinitFn}
    {w w' : World} {log : Log} (hstep : initOne (o st) st m w = some (m',w'))
    (h : Recorded w.identity.communicateStatus log) :
    Recorded w'.identity.communicateStatus (log ++ initLog o [st]) := by
  have hopens := st.init_opens (o st) w.files
  unfold initOne at hstep
  by_cases hneg : (st.init (o st) w.files).1 < 0
  · have hok : st.ok (o st) = false := by
      by_contra hne
      have := hopens.nonneg.mpr (by simpa using hne)
      omega
    simp only [hneg,if_true,Option.some.injEq,Prod.mk.injEq] at hstep
    obtain ⟨-,rfl⟩ := hstep
    cases hclient : st.isClient with
    | false => simpa [initLog,hclient] using h
    | true => simpa [initLog,hclient,hok] using h.failed st.deviceId
  · have hok : st.ok (o st) = true := hopens.nonneg.mp (by omega)
    simp only [hneg,if_false] at hstep
    cases hclient : st.isClient with
    | false =>
      simp only [hclient,Bool.false_eq_true,if_false,Option.some.injEq,Prod.mk.injEq] at hstep
      obtain ⟨-,rfl⟩ := hstep
      simpa [initLog,hclient] using h
    | true =>
      simp only [hclient,if_true] at hstep
      obtain ⟨added,-,heq⟩ := Option.map_eq_some_iff.mp hstep
      obtain ⟨-,rfl⟩ := Prod.mk.inj heq
      have hid : 1 ≤ st.deviceId := by cases st <;> decide
      simpa [initLog,hclient,hok,recordClient] using h.succeeded hid

theorem initAll_recorded (o : Strategy → Outcome) (ss : List Strategy)
    {m m' : CommunicaManage ReinitFn} {w w' : World} {log : Log}
    (hrun : initAll o ss m w = some (m',w')) (h : Recorded w.identity.communicateStatus log) :
    Recorded w'.identity.communicateStatus (log ++ initLog o ss) := by
  induction ss generalizing m w log with
  | nil =>
    obtain ⟨rfl,rfl⟩ : m = m' ∧ w = w' := by simpa [initAll] using hrun
    simpa [initLog] using h
  | cons st ss ih =>
    obtain ⟨⟨m₁,w₁⟩,hone,hrest⟩ := Option.bind_eq_some_iff.mp hrun
    have hall := ih hrest (initOne_recorded o st hone h)
    rwa [List.append_assoc,← initLog_append] at hall

theorem call_recorded (o : Outcome) (f : ReinitFn) (oldFd : Int) {w : World} {log : Log}
    (h : Recorded w.identity.communicateStatus log) :
    Recorded (loggedCall o f oldFd (w,log)).2.1.identity.communicateStatus
      (loggedCall o f oldFd (w,log)).2.2 := by
  have hid : 1 ≤ f.deviceId := by cases f <;> decide
  simp only [loggedCall,call_identity]
  cases f.ok o with
  | true => exact h.succeeded hid
  | false =>
    have hfailed := h.failed f.deviceId
    by_cases hbt : f = .bt <;> simpa [hbt] using hfailed

/-- The state of the manager and the record of the attempts. -/
structure Inv (s : Sys) : Prop where
  represented : ∃ x, Represents true s.manager x
  recorded : Recorded s.world.identity.communicateStatus s.log

theorem step_inv {s : Sys} (h : Inv s) (e : Event) : ∃ t, step s e = some t ∧ Inv t := by
  obtain ⟨⟨x,hx⟩,hrec⟩ := h
  cases e with
  | setEnable id =>
    exact ⟨_,rfl,⟨_,(setEnable_represents hx id (by omega)).2⟩,hrec⟩
  | reconnect activeId a =>
    by_cases hactive : 0 ≤ activeId
    · obtain ⟨b,m',w',x',hr,hx',-,hw⟩ := reinit_keeps (loggedCall a.outcome) a.t₁ a.t₂ activeId 0
        (s.world,s.log) hx (by omega)
      refine ⟨⟨m',w'.1,w'.2⟩,by simp only [step,hactive,if_true,hr,Option.map_some],⟨x',hx'⟩,?_⟩
      rcases hw with rfl | ⟨f,rfl⟩
      · exact hrec
      · exact call_recorded a.outcome f 0 hrec
    · exact ⟨s,by simp [step,hactive],⟨x,hx⟩,hrec⟩


theorem run_inv {s : Sys} (h : Inv s) (es : List Event) : ∃ t, run s es = some t ∧ Inv t := by
  induction es generalizing s with
  | nil => exact ⟨s,rfl,h⟩
  | cons e es ih =>
    obtain ⟨t,ht,hinv⟩ := step_inv h e
    obtain ⟨u,hu,hinv'⟩ := ih hinv
    exact ⟨u,by simp [run,ht,hu],hinv'⟩

/-- What the callback writes down changes nothing. -/
theorem reinit_logged (o : Outcome) (t₁ t₂ : UInt64) (m : CommunicaManage ReinitFn) (id para : Int)
    (w : World) (log : Log) :
    (m.reinit (loggedCall o) t₁ t₂ id para (w,log)).map (fun r => (r.1,r.2.1,r.2.2.1)) =
      m.reinit (call o) t₁ t₂ id para w := by
  unfold reinit
  cases m.findcommunicate id with
  | none => rfl
  | some temp =>
    obtain ⟨com,tempId,enabled⟩ := temp
    cases com with
    | none => rfl
    | some com =>
      cases hallow : (com.breaker.allowRequest t₁).1 with
      | false => simp [hallow]
      | true =>
        simp only [hallow,Bool.not_true,Bool.false_eq_true,if_false]
        generalize com.initCallback = callback
        cases callback with
        | none => rfl
        | some init =>
          have hlogged : loggedCall o init para (w,log) =
              ((call o init para w).1,(call o init para w).2,log ++ [(init.deviceId,init.ok o)]) := rfl
          dsimp only
          rw [hlogged]
          by_cases hfd : (call o init para w).1 < 0
          · simp [hfd]
          · simp only [hfd,if_false]
            generalize addCommunicateNode _ id (call o init para w).1 = added
            cases added.1 with
            | false => rfl
            | true => simp [Function.comp_def]

/-- The attempts of `send_mess` are among the steps. -/
theorem reconnect_eq_endOfFile (s : Sys) (a : Attempt) :
    (step s (.reconnect s.manager.getSuccessId a)).map (fun t => (t.manager,t.world)) =
      (endOfFile a ⟨s.manager,s.world⟩).map fun r => (r.2.manager,r.2.world) := by
  simp only [step,endOfFile]
  split_ifs
  · rw [← reinit_logged a.outcome a.t₁ a.t₂ s.manager _ 0 s.world s.log]
    simp only [Option.map_map]
    rfl
  · rfl

/-- Before `dev_init` no device is up. -/
def initialStatus (identity : DeviceIdentity) : DeviceIdentity :=
  { identity with communicateStatus := str "000000" }

theorem recorded_initial : Recorded (str "000000") [] where
  length := rfl
  ever id h₁ h₄ := by
    have hcases : id = 1 ∨ id = 2 ∨ id = 3 ∨ id = 4 := by omega
    rcases hcases with rfl | rfl | rfl | rfl <;> decide

theorem devInit_inv (o : Strategy → Outcome) (enabled : Strategy → Bool) (files : Handles.Table)
    (identity : DeviceIdentity) :
    ∃ n m w, devInit o enabled files (initialStatus identity) = some (n,m,w) ∧
      Inv ⟨m,w,initLog o (Strategy.createAll enabled)⟩ := by
  obtain ⟨n,m,w,h,x,hx,-⟩ := devInit_good o enabled files (initialStatus identity)
  refine ⟨n,m,w,h,⟨x,hx⟩,?_⟩
  obtain ⟨⟨m',w'⟩,hall,heq⟩ := Option.map_eq_some_iff.mp h
  simp only [Prod.mk.injEq] at heq
  obtain ⟨-,-,rfl⟩ := heq
  have hrec := initAll_recorded o _ hall recorded_initial
  have hbt : (storeBtMac (o .bluetooth) w').identity.communicateStatus =
      w'.identity.communicateStatus := by
    unfold storeBtMac
    split_ifs <;> rfl
  simpa [hbt] using hrec

/-- The status characters are truthful exactly when every device that ever came up did so in its
most recent attempt. -/
theorem truthful_iff (o : Strategy → Outcome) (enabled : Strategy → Bool) (files : Handles.Table)
    (identity : DeviceIdentity) (es : List Event) :
    ∃ n m w s, devInit o enabled files (initialStatus identity) = some (n,m,w) ∧
      run ⟨m,w,initLog o (Strategy.createAll enabled)⟩ es = some s ∧
      (Truthful s ↔ ∀ id : Int, 1 ≤ id → id ≤ 4 → (id,true) ∈ s.log → lastOf s.log id = some true) := by
  obtain ⟨n,m,w,hinit,hinv⟩ := devInit_inv o enabled files identity
  obtain ⟨s,hrun,-,hrec⟩ := run_inv hinv es
  refine ⟨n,m,w,s,hinit,hrun,?_⟩
  constructor
  · intro h id h₁ h₄ hever
    exact (h id h₁ h₄).mp ((hrec.ever id h₁ h₄).mpr hever)
  · intro h id h₁ h₄
    rw [hrec.ever id h₁ h₄]
    exact ⟨h id h₁ h₄,mem_of_lastOf⟩

/-- The reconnect of the WiFi device fails, and its character stays '1'. -/
theorem failed_reconnect_reported_up : ¬ ∀ (o : Strategy → Outcome) (enabled : Strategy → Bool)
    (files : Handles.Table) (identity : DeviceIdentity) (es : List Event) (n : Int)
    (m : CommunicaManage ReinitFn) (w : World) (s : Sys),
    devInit o enabled files (initialStatus identity) = some (n,m,w) →
    run ⟨m,w,initLog o (Strategy.createAll enabled)⟩ es = some s → Truthful s := by
  intro hall
  have h := hall (fun _ => answers true) (· = .wifi) stdFiles {}
    [.setEnable 2,.reconnect 2 ⟨answers false,0,0⟩] _ _ _ _ rfl rfl 2 (by decide) (by decide)
  exact absurd (h.mp (by decide)) (by decide)

end CommunicateStatus
end Sap9001
