import Sap9001.DeviceInit

/-! How the 4G connection is made (`hal/de_cell4g.cpp`, `hal/cell4g_strategy.h`): PPP is dialled until
its interface has an address, and then the server is called. -/
namespace Sap9001
namespace Cell4g

open DeviceInit Handles

/-- What the system answers to `socket` and to `ioctl` in one `cell4g_detect`. -/
structure Detect where
  socket : Bool
  address : Option Str

inductive Action
  | system (command : Str)
  | sleep (sec : ℕ)

/-- Letters, digits and the dot. -/
def allowed (c : UInt8) : Bool :=
  (byte 'a' ≤ c && c ≤ byte 'z') || (byte 'A' ≤ c && c ≤ byte 'Z') || isDigit c || c = byte '.'

def routeCmd (netName : Str) : Str :=
  snprintf 256 [str "route add -net 0.0.0.0 netmask 0.0.0.0 dev ",netName]

def pppdCmd (pppdScript : Str) : Str := pppdScript ++ str " /dev/ttyUSB5 \"\" \"\" vnet.mobi &"

def cell4gDetect (netName : Str) (d : Detect) (files : Table) : (Int × Table) × List Action :=
  if !(cstr netName).all allowed then ((-1,files),[])
  else
    let actions := [.system (routeCmd netName)]
    if !d.socket then ((-1,files),actions)
    else
      let r := files.acquire
      match d.address with
      | none => ((-1,r.2.release r.1),actions)
      | some address =>
        let ipaddr := (cstr address).take 19
        if ipaddr = [] ∨ ipaddr = str "0.0.0.0" then ((-1,r.2.release r.1),actions)
        else ((0,r.2.release r.1),actions)

/-- The loop of `hard4g_init`, with whether it got an address. -/
def dialLoop (netName pppdScript : Str) :
    ℕ → ℕ → (ℕ → Detect) → Table → (Bool × Table) × List Action
  | 0, _, _, files => ((false,files),[])
  | retryCount+1, sleepSec, answers, files =>
    let r := cell4gDetect netName (answers 0) files
    let actions := .system (pppdCmd pppdScript)::.sleep sleepSec::r.2
    if r.1.1 = 0 then ((true,r.1.2),actions)
    else
      let rest := dialLoop netName pppdScript retryCount (min (sleepSec * 2) 32)
        (fun i => answers (i + 1)) r.1.2
      (rest.1,actions ++ rest.2)

def hard4gInit (netName pppdScript pppdKill : Str) (answers : ℕ → Detect) (files : Table) :
    (Int × Table) × List Action :=
  let r := dialLoop netName pppdScript 5 8 answers files
  if r.1.1 then ((0,r.1.2),r.2) else ((-1,r.1.2),r.2 ++ [.system pppdKill])

/-- The answers to the calls of `cell4g_ip_port_check`. -/
structure Server where
  socket : Bool
  inetPton : Bool
  connect : Bool
  write : Bool

def cell4gIpPortCheck (s : Server) (files : Table) : Int × Table :=
  if !s.socket then (-1,files)
  else
    let r := files.acquire
    if !s.inetPton then (-1,r.2.release r.1)
    else if !s.connect then (-1,r.2.release r.1)
    else if !s.write then (-1,r.2.release r.1)
    else r

/-- `Cell4GStrategy::initialize` -/
def init (pppdScript pppdKill : Str) (answers : ℕ → Detect) (s : Server) (files : Table) :
    (Int × Table) × List Action :=
  let r := hard4gInit (str "ppp0") pppdScript pppdKill answers files
  if r.1.1 ≠ 0 then ((-1,r.1.2),r.2) else (cell4gIpPortCheck s r.1.2,r.2)

/-- The interface exists and its address is not the zero one. -/
def Detect.valid (d : Detect) : Bool :=
  d.socket && d.address.any fun address =>
    (cstr address).take 19 ≠ [] && (cstr address).take 19 ≠ str "0.0.0.0"

def up (netName : Str) (d : Detect) : Bool := (cstr netName).all allowed && d.valid

def Server.ok (s : Server) : Bool := s.socket && (s.inetPton && (s.connect && s.write))

/-- The commands of one dial, with the wait that starts at `sleepSec` and doubles up to 32 s. -/
def attempt (netName pppdScript : Str) (sleepSec i : ℕ) : List Action :=
  .system (pppdCmd pppdScript)::.sleep (min (sleepSec * 2^i) 32)::
    if (cstr netName).all allowed then [.system (routeCmd netName)] else []

variable {netName pppdScript pppdKill : Str} {answers : ℕ → Detect} {files : Table}

/-- The detection leaves no file open. -/
theorem cell4gDetect_spec (netName : Str) (d : Detect) (files : Table) :
    ((cell4gDetect netName d files).1.1 = 0 ↔ up netName d = true) ∧
    OpenFailed files (-1,(cell4gDetect netName d files).1.2) ∧
    (cell4gDetect netName d files).2 =
      if (cstr netName).all allowed then [.system (routeCmd netName)] else [] := by
  have hclosed := (acquire_opened files).closed
  unfold cell4gDetect up Detect.valid
  cases hname : (cstr netName).all allowed with
  | false => exact ⟨by simp,.refl files,rfl⟩
  | true =>
    cases d.socket with
    | false => exact ⟨by simp,.refl files,rfl⟩
    | true =>
      cases d.address with
      | none => exact ⟨by simp,hclosed,rfl⟩
      | some address =>
        dsimp only [Option.any_some]
        generalize (cstr address).take 19 = ipaddr
        by_cases hip : ipaddr = [] ∨ ipaddr = str "0.0.0.0"
        · simp only [Bool.not_true,Bool.false_eq_true,if_false,if_pos hip]
          refine ⟨?_,hclosed,rfl⟩
          rcases hip with rfl | rfl <;> simp
        · simp only [Bool.not_true,Bool.false_eq_true,if_false,if_neg hip]
          exact ⟨by simpa [not_or] using hip,hclosed,rfl⟩

theorem min_doubled (sec i : ℕ) : min (min (sec * 2) 32 * 2^i) 32 = min (sec * 2^(i+1)) 32 := by
  have hpow : 0 < 2^i := Nat.two_pow_pos i
  rw [Nat.pow_succ']
  by_cases h : sec * 2 ≤ 32
  · rw [Nat.min_eq_left h,Nat.mul_assoc]
  · have hle : 32 ≤ 32 * 2^i := Nat.le_mul_of_pos_right 32 hpow
    have hmul : 32 * 2^i ≤ sec * (2 * 2^i) := by
      rw [← Nat.mul_assoc]
      exact Nat.mul_le_mul_right _ (by omega)
    rw [Nat.min_eq_right (by omega : 32 ≤ sec * 2),Nat.min_eq_right hle,
      Nat.min_eq_right (hle.trans hmul)]

theorem attempt_succ (sleepSec i : ℕ) : attempt netName pppdScript (min (sleepSec * 2) 32) i =
    attempt netName pppdScript sleepSec (i+1) := by
  rw [attempt,attempt,min_doubled]

/-- The first dial that brings the interface up ends the loop. -/
theorem dialLoop_spec (netName pppdScript : Str) (answers : ℕ → Detect) (files : Table)
    {sleepSec : ℕ} (hsec : sleepSec ≤ 32) (retryCount : ℕ) :
    let r := dialLoop netName pppdScript retryCount sleepSec answers files
    OpenFailed files (-1,r.1.2) ∧
    ((∃ k < retryCount, (up netName (answers k) = true ∧ ∀ j < k, up netName (answers j) = false) ∧
        r.1.1 = true ∧ r.2 = (List.range (k + 1)).flatMap (attempt netName pppdScript sleepSec)) ∨
      (∀ k < retryCount, up netName (answers k) = false) ∧
        r.1.1 = false ∧ r.2 = (List.range retryCount).flatMap (attempt netName pppdScript sleepSec)) := by
  induction retryCount generalizing sleepSec answers files with
  | zero => exact ⟨.refl files,.inr ⟨by simp,rfl,rfl⟩⟩
  | succ n ih =>
    obtain ⟨hup,hclosed,hactions⟩ := cell4gDetect_spec netName (answers 0) files
    have hfirst : attempt netName pppdScript sleepSec 0 = .system (pppdCmd pppdScript)::
        .sleep sleepSec::(cell4gDetect netName (answers 0) files).2 := by
      rw [hactions,attempt,Nat.pow_zero,Nat.mul_one,Nat.min_eq_left hsec]
    have hrange (m : ℕ) : (List.range (m + 1)).flatMap (attempt netName pppdScript sleepSec) =
        attempt netName pppdScript sleepSec 0 ++
          (List.range m).flatMap (attempt netName pppdScript (min (sleepSec * 2) 32)) := by
      rw [List.range_succ_eq_map,List.flatMap_cons,List.flatMap_map]
      exact congrArg _ (List.flatMap_congr fun i _ => (attempt_succ sleepSec i).symm)
    cases hu : up netName (answers 0) with
    | true =>
      simp only [dialLoop,if_pos (hup.mpr hu)]
      refine ⟨hclosed,.inl ⟨0,Nat.succ_pos n,⟨hu,by simp⟩,trivial,?_⟩⟩
      rw [hrange 0,hfirst]
      simp
    | false =>
      have hne : ¬ (cell4gDetect netName (answers 0) files).1.1 = 0 := by simp [hup,hu]
      simp only [dialLoop,if_neg hne]
      obtain ⟨hrest,hcases⟩ := ih (fun i => answers (i + 1))
        (cell4gDetect netName (answers 0) files).1.2 (Nat.min_le_right _ _)
      have hagain : Opens _ false _ := hrest
      refine ⟨Opens.retry hclosed hagain,?_⟩
      rcases hcases with ⟨k,hk,⟨hkup,hbefore⟩,hdone,htrace⟩ | ⟨hnone,hdone,htrace⟩
      · refine .inl ⟨k+1,by omega,⟨hkup,fun j hj => ?_⟩,hdone,?_⟩
        · cases j with
          | zero => exact hu
          | succ j => exact hbefore j (by omega)
        · rw [htrace,hrange (k+1),hfirst]
      · refine .inr ⟨fun j hj => ?_,hdone,?_⟩
        · cases j with
          | zero => exact hu
          | succ j => exact hnone j (by omega)
        · rw [htrace,hrange n,hfirst]

theorem cell4gIpPortCheck_opens (s : Server) (files : Table) :
    Opens files s.ok (cell4gIpPortCheck s files) := by
  have hclosed := (acquire_opened files).closed
  unfold cell4gIpPortCheck Server.ok
  cases s.socket <;> cases s.inetPton <;> cases s.connect <;> cases s.write <;>
    first | exact acquire_opened files | exact hclosed | exact .refl files

/-- What every dial runs in a shell, whatever the interface is called. -/
def Expected (netName pppdScript pppdKill command : Str) : Prop :=
  command = pppdCmd pppdScript ∨ command = pppdKill ∨
    command = routeCmd netName ∧ ∀ c ∈ cstr netName, allowed c = true

theorem attempt_expected {sleepSec i : ℕ} {command : Str}
    (h : .system command ∈ attempt netName pppdScript sleepSec i) :
    Expected netName pppdScript pppdKill command := by
  unfold attempt at h
  rcases List.mem_cons.mp h with heq | h
  · exact .inl (Action.system.inj heq)
  · rcases List.mem_cons.mp h with heq | h
    · cases heq
    · split_ifs at h with hname
      · obtain rfl := Action.system.inj (List.mem_singleton.mp h)
        exact .inr (.inr ⟨rfl,List.all_eq_true.mp hname⟩)
      · cases h

/-- `hard4g_init` for any interface: it is up exactly if one of five dials brings it up, and the
dials end there. All it waits for are 8 s, 16 s and then 32 s; it kills the dial-up if none did; it
leaves no file open; and the name of the interface never reaches a shell with any other character
than letters, digits and dots. -/
theorem dialled (netName pppdScript pppdKill : Str) (answers : ℕ → Detect) (files : Table) :
    let r := hard4gInit netName pppdScript pppdKill answers files
    let trace (n : ℕ) := (List.range n).flatMap (attempt netName pppdScript 8)
    ((∃ k < 5, (up netName (answers k) = true ∧ ∀ j < k, up netName (answers j) = false) ∧
        r.1.1 = 0 ∧ r.2 = trace (k + 1)) ∨
      (∀ k < 5, up netName (answers k) = false) ∧
        r.1.1 = -1 ∧ r.2 = trace 5 ++ [.system pppdKill]) ∧
    OpenFailed files (-1,r.1.2) ∧
    ∀ command, .system command ∈ r.2 → Expected netName pppdScript pppdKill command := by
  intro r trace
  have hsec : 8 ≤ 32 := by decide
  obtain ⟨hclosed,hcases⟩ := dialLoop_spec netName pppdScript answers files hsec 5
  have htrace {n : ℕ} {command : Str} (h : .system command ∈ trace n) :
      Expected netName pppdScript pppdKill command := by
    obtain ⟨i,-,hi⟩ := List.mem_flatMap.mp h
    exact attempt_expected hi
  rcases hcases with ⟨k,hk,hfirst,hdone,hrun⟩ | ⟨hnone,hdone,hrun⟩
  · have hr : r = ((0,(dialLoop netName pppdScript 5 8 answers files).1.2),trace (k+1)) := by
      simp only [r,hard4gInit,hdone,if_true,hrun]
      rfl
    rw [hr]
    exact ⟨.inl ⟨k,hk,hfirst,rfl,rfl⟩,hclosed,fun command h => htrace h⟩
  · have hr : r = ((-1,(dialLoop netName pppdScript 5 8 answers files).1.2),
        trace 5 ++ [.system pppdKill]) := by
      simp only [r,hard4gInit,hdone,Bool.false_eq_true,if_false,hrun]
      rfl
    rw [hr]
    refine ⟨.inr ⟨hnone,rfl,rfl⟩,hclosed,fun command h => ?_⟩
    rcases List.mem_append.mp h with h | h
    · exact htrace h
    · exact .inr (.inl (Action.system.inj (List.mem_singleton.mp h)))

/-- To `dev_init` the strategy is what its model makes of two answers: whether the dial-up and the
calls on the socket succeed. -/
theorem init_opens (pppdScript pppdKill : Str) (answers : ℕ → Detect) (s : Server)
    (files : Table) (o : Outcome)
    (hdialled : o.dialled = (List.range 5).any fun k => (answers k).valid)
    (hsocket : o.socket = s.socket)
    (hready : o.socketReady = (s.inetPton && (s.connect && s.write))) :
    Opens files (Strategy.ok o .cell4g) (init pppdScript pppdKill answers s files).1 := by
  have hname : (cstr (str "ppp0")).all allowed = true := by decide
  have hsec : 8 ≤ 32 := by decide
  obtain ⟨hclosed,hcases⟩ := dialLoop_spec (str "ppp0") pppdScript answers files hsec 5
  rcases hcases with ⟨k,hk,⟨hup,-⟩,hdone,-⟩ | ⟨hnone,hdone,-⟩
  · have hvalid : (answers k).valid = true := by simpa [up,hname] using hup
    have hany : o.dialled = true := by
      rw [hdialled,List.any_eq_true]
      exact ⟨k,List.mem_range.mpr hk,hvalid⟩
    have hok : Strategy.ok o .cell4g = s.ok := by
      rw [Strategy.ok,hany,Bool.true_and,hsocket,hready,Server.ok]
    rw [hok]
    simp only [init,hard4gInit,hdone,if_true,ne_eq,not_true_eq_false,if_false]
    exact Opens.retry hclosed (cell4gIpPortCheck_opens s _)
  · have hany : o.dialled = false := by
      rw [hdialled,List.any_eq_false]
      intro k hk
      simpa [up,hname] using hnone k (List.mem_range.mp hk)
    rw [Strategy.ok,hany,Bool.false_and]
    simp only [init,hard4gInit,hdone]
    exact hclosed

end Cell4g
end Sap9001
