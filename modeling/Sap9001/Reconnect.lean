import Sap9001.DeviceInit
import Sap9001.Reinit

/-! Who owns the open descriptors: `dev_init` registers the devices, and `send_mess` reinits
the active device when its connection ends (`app/message_transmitter.cpp`). -/
namespace Sap9001

namespace DeviceInit

section Reopens

variable {ok closes : Bool} {oldFd fd g : Int} {t t' : Handles.Table}
  (h : Reopens ok closes oldFd t fd t')
include h

theorem Reopens.fd_ne (hok : ok = true) (hg : g ≠ oldFd) (hopen : t.object g ≠ none) : g ≠ fd := by
  rintro rfl
  obtain ⟨k,hk,⟨hfree,-⟩ | ⟨hfree | heq,-⟩⟩ := h.opened hok
  · exact hopen hfree
  · exact hopen hfree
  · exact hg heq

/-- Open files other than the one to replace stay open. -/
theorem Reopens.untouched (hg : g ≠ oldFd) (hopen : t.object g ≠ none) :
    t'.object g = t.object g := by
  cases hok : ok with
  | false => simp [h.failed hok g,hg]
  | true =>
    have hne := h.fd_ne hok hg hopen
    obtain ⟨k,hk,⟨-,hobj⟩ | ⟨-,hobj⟩⟩ := h.opened hok <;> simp [hobj g,hg,hne]

theorem Reopens.old_closed (hok : ok = true) {f : ℕ} (hf : t.object oldFd = some f) :
    t'.object oldFd ≠ some f := by
  have hlt := Handles.Table.object_lt_next hf
  obtain ⟨k,hk,⟨-,hobj⟩ | ⟨-,hobj⟩⟩ := h.opened hok
  · simp [hobj oldFd]
  · rw [hobj oldFd]
    by_cases hfd : oldFd = fd
    · rw [if_pos hfd]
      intro heq
      have := Option.some.inj heq
      omega
    · simp [hfd]

theorem Reopens.fd_open (hok : ok = true) (hold : t.object oldFd ≠ none) :
    (t'.object fd).isSome := by
  obtain ⟨k,hk,⟨hfree,hobj⟩ | ⟨-,hobj⟩⟩ := h.opened hok
  · have hne : fd ≠ oldFd := by
      rintro rfl
      exact hold hfree
    simp [hobj fd,hne]
  · simp [hobj fd]

end Reopens

end DeviceInit

namespace Reconnect

open CommunicaManage DeviceMap DeviceInit Reinit

structure Sys where
  manager : CommunicaManage ReinitFn
  world : World

/-- What one attempt takes from outside: the answers of the system and the two readings of
the clock. -/
structure Attempt where
  outcome : Outcome
  t₁ : UInt64
  t₂ : UInt64

/-- The branch of `send_mess` at end-of-file; the flag is the result of `reinit`. -/
def endOfFile (a : Attempt) (s : Sys) : Option (Bool × Sys) :=
  let activeId := s.manager.getSuccessId
  if 0 ≤ activeId then
    (s.manager.reinit (call a.outcome) a.t₁ a.t₂ activeId 0 s.world).map fun r =>
      (r.1,⟨r.2.1,r.2.2⟩)
  else some (false,s)

/-- A registration may enable a device between two attempts. -/
inductive Event
  | setEnable (id : Int)
  | endOfFile (a : Attempt)

def step (s : Sys) : Event → Option (Bool × Sys)
  | .setEnable id => some (false,{ s with manager := (s.manager.setEnable id).2 })
  | .endOfFile a => endOfFile a s

/-- What is expected of an attempt: it closes no descriptor but the one held for the device;
if it succeeds it closes that one; and every stored descriptor is open afterwards. -/
structure Owned (held : Option Int) (ok : Bool) (files files' : Handles.Table) (stored : List Int) :
    Prop where
  closesOnlyHeld : ∀ fd f, files.object fd = some f → files'.object fd ≠ some f → held = some fd
  heldClosed : ok = true → ∀ fd f, held = some fd → files.object fd = some f →
    files'.object fd ≠ some f
  storedOpen : ∀ fd ∈ stored, files'.object fd ≠ none

def OwnedStep (s : Sys) (ok : Bool) (s' : Sys) : Prop :=
  Owned (s.manager.getSingleFd s.manager.getSuccessId) ok s.world.files s'.world.files
    s'.manager.getAllFd

/-- The callback fails before it closes descriptor 0, or it replaces a device that is held
there. -/
def Spares (a : Attempt) (files : Handles.Table) (held : Int) (f : ReinitFn) : Prop :=
  if f.ok a.outcome then held = 0
  else f.closesOnFailure a.outcome = false ∨ files.object 0 = none

/-- No callback is called, or the one that is spares descriptor 0. -/
def Harmless (s : Sys) (a : Attempt) : Prop :=
  0 ≤ s.manager.getSuccessId → ∀ n c f, s.manager.findcommunicate s.manager.getSuccessId = some n →
    n.com = some c → (c.breaker.allowRequest a.t₁).1 = true → c.initCallback = some f →
    Spares a s.world.files c.fd f

def storedFds (x : DeviceMap ReinitFn) : List Int := x.entries.map fun e => e.2.com.fd

/-- The stored descriptors are open, each for one device. -/
structure Good (x : DeviceMap ReinitFn) (files : Handles.Table) : Prop where
  isOpen : ∀ fd ∈ storedFds x, files.object fd ≠ none
  distinct : (storedFds x).Nodup

theorem storedFds_modify (x : DeviceMap ReinitFn) (id : Int)
    {f : DeviceEntry ReinitFn → DeviceEntry ReinitFn} (hf : ∀ d, (f d).com.fd = d.com.fd) :
    storedFds (x.modify id f).2 = storedFds x := by
  simp only [storedFds,OrderedMap.modify,List.map_map]
  refine List.map_congr_left fun e _ => ?_
  simp only [Function.comp_apply]
  split_ifs
  · exact hf e.2
  · rfl

theorem storedFds_reconnected (x : DeviceMap ReinitFn) (id fd : Int) (d : DeviceEntry ReinitFn) :
    storedFds (reconnected x id fd d) = storedFds (x.erase id).2 ++ [fd] := by
  rw [storedFds,reconnected,(OrderedMap.append_of_not_mem (x.not_mem_keys_erase id) _).2]
  simp [storedFds,replacement,createComnode]

/-- The other devices are not held on the descriptor of this one. -/
theorem held_not_mem_erase {x : DeviceMap ReinitFn} {files : Handles.Table} (hg : Good x files)
    {id : Int} {d : DeviceEntry ReinitFn} (hd : x.lookup id = some d) :
    d.com.fd ∉ storedFds (x.erase id).2 := by
  intro hmem
  obtain ⟨e,he,hfd⟩ := List.mem_map.mp hmem
  simp only [OrderedMap.erase,List.mem_filter,decide_eq_true_eq] at he
  have heq := List.inj_on_of_nodup_map hg.distinct he.1 (OrderedMap.lookup_eq_some.mp hd) hfd
  exact he.2 (congrArg Prod.fst heq)

theorem mem_storedFds {x : DeviceMap ReinitFn} {id : Int} {d : DeviceEntry ReinitFn}
    (hd : x.lookup id = some d) : d.com.fd ∈ storedFds x :=
  List.mem_map.mpr ⟨(id,d),OrderedMap.lookup_eq_some.mp hd,rfl⟩

theorem mem_storedFds_of_erase {x : DeviceMap ReinitFn} {id fd : Int}
    (h : fd ∈ storedFds (x.erase id).2) : fd ∈ storedFds x := by
  obtain ⟨e,he,rfl⟩ := List.mem_map.mp h
  exact List.mem_map.mpr ⟨e,(List.mem_filter.mp he).1,rfl⟩

section Attempts

variable {x : DeviceMap ReinitFn} {files files' : Handles.Table} {id fd : Int}
  {d : DeviceEntry ReinitFn} (hg : Good x files) (hd : x.lookup id = some d)

include hg in
/-- An attempt that does not reach the callback closes nothing. -/
theorem owned_unchanged (held : Option Int) : Owned held false files files (storedFds x) where
  closesOnlyHeld fd f hf hne := absurd hf hne
  heldClosed h := absurd h (by decide)
  storedOpen := hg.isOpen

include hg hd in
/-- A failed attempt is harmless exactly when it leaves descriptor 0 alone. -/
theorem owned_failed_iff {closes : Bool} (h : Reopens false closes 0 files fd files') :
    Owned (some d.com.fd) false files files' (storedFds x) ↔
      closes = false ∨ files.object 0 = none := by
  have hobj := h.failed rfl
  constructor
  · intro hown
    by_contra hno
    push Not at hno
    obtain ⟨hcl,hopen⟩ := hno
    obtain ⟨f,hf⟩ := Option.ne_none_iff_exists'.mp hopen
    have hclosed : files'.object 0 = none := by simp [hobj 0,hcl]
    -- Only the held descriptor may be closed, but it stays registered.
    have hheld : d.com.fd = 0 :=
      Option.some.inj (hown.closesOnlyHeld 0 f hf (by simp [hclosed]))
    exact hown.storedOpen 0 (hheld ▸ mem_storedFds hd) hclosed
  · intro hor
    have hsame (g : Int) : files'.object g = files.object g := by
      rw [hobj g]
      rcases hor with hcl | hnone
      · simp [hcl]
      · split_ifs with hc
        · rw [hc.2,hnone]
        · rfl
    refine ⟨fun g f hf hne => absurd ((hsame g).trans hf) hne,fun hok => absurd hok (by decide),?_⟩
    intro g hmem
    rw [hsame g]
    exact hg.isOpen g hmem

include hg hd in
/-- A successful attempt closes descriptor 0, which is right only if the device was held
there. -/
theorem owned_opened_iff {closes : Bool} (h : Reopens true closes 0 files fd files') :
    Owned (some d.com.fd) true files files' (storedFds (x.erase id).2 ++ [fd]) ↔
      d.com.fd = 0 := by
  have hopen := hg.isOpen _ (mem_storedFds hd)
  obtain ⟨f,hf⟩ := Option.ne_none_iff_exists'.mp hopen
  constructor
  · intro hown
    by_contra hne
    have hsame := h.untouched hne hopen
    exact hown.heldClosed rfl _ f rfl hf (hsame.trans hf)
  · intro hzero
    rw [hzero] at hf hopen ⊢
    refine ⟨fun g k hk hne => ?_,?_,?_⟩
    · by_contra hg0
      have hg0' : g ≠ 0 := fun h0 => hg0 (by rw [h0])
      exact hne ((h.untouched hg0' (by simp [hk])).trans hk)
    · rintro - g k hgk hk
      obtain rfl := Option.some.inj hgk
      exact h.old_closed rfl hk
    · intro g hmem
      rw [List.mem_append,List.mem_singleton] at hmem
      rcases hmem with hmem | rfl
      · have hne : g ≠ 0 := by
          rintro rfl
          exact held_not_mem_erase hg hd (hzero ▸ hmem)
        have hopen' := hg.isOpen g (mem_storedFds_of_erase hmem)
        rw [h.untouched hne hopen']
        exact hopen'
      · exact Option.isSome_iff_ne_none.mp (h.fd_open rfl hopen)

include hg hd in
/-- After a successful attempt that closed the held descriptor the new one is the device's
own. -/
theorem good_reconnected {closes : Bool} (h : Reopens true closes 0 files fd files')
    (hzero : d.com.fd = 0) : (storedFds (x.erase id).2 ++ [fd]).Nodup := by
  have hsub : (storedFds (x.erase id).2).Sublist (storedFds x) :=
    (List.filter_sublist (l := x.entries)).map _
  rw [List.nodup_append]
  refine ⟨hsub.nodup hg.distinct,List.nodup_singleton fd,?_⟩
  intro g hmem k hk
  obtain rfl := List.mem_singleton.mp hk
  have hne : g ≠ 0 := by
    rintro rfl
    exact held_not_mem_erase hg hd (hzero ▸ hmem)
  exact h.fd_ne rfl hne (hg.isOpen g (mem_storedFds_of_erase hmem))

end Attempts

/-- The manager represents a map whose descriptors are open and distinct. -/
def GoodSys (s : Sys) : Prop := ∃ x, Represents true s.manager x ∧ Good x s.world.files

theorem harmless_iff {s : Sys} {x : DeviceMap ReinitFn} (hx : Represents true s.manager x)
    (a : Attempt) : Harmless s a ↔ (0 ≤ s.manager.getSuccessId →
      ∀ d f, x.lookup s.manager.getSuccessId = some d →
        (d.com.breaker.allowRequest a.t₁).1 = true → d.com.reback 0 = some f →
        Spares a s.world.files d.com.fd f) := by
  refine imp_congr_right fun hid => ?_
  have hfind := findcommunicate_represents hx s.manager.getSuccessId (by omega)
  constructor
  · intro h d f hd
    refine h (nodeOf (s.manager.getSuccessId,d)) d.com f ?_ rfl
    rw [hfind,hd]
    rfl
  · intro h n c f hn hc
    rw [hfind,Option.map_eq_some_iff] at hn
    obtain ⟨d,hd,rfl⟩ := hn
    obtain rfl := Option.some.inj hc
    exact h d f hd

/-- An attempt that leaves the descriptors alone and stores the same ones. -/
theorem quiet_attempt (s s' : Sys) {x x' : DeviceMap ReinitFn} (hg : Good x s.world.files)
    (hx' : Represents true s'.manager x') (hfds : storedFds x' = storedFds x)
    (hw : s'.world.files = s.world.files) : OwnedStep s false s' ∧ GoodSys s' := by
  have hall : s'.manager.getAllFd = storedFds x := (getAllFd_represents hx').trans hfds
  constructor
  · rw [OwnedStep,hall,hw]
    exact owned_unchanged hg _
  · exact ⟨x',hx',hw ▸ hfds ▸ hg.isOpen,hfds ▸ hg.distinct⟩

section Called

variable {s : Sys} (s' : Sys) {x : DeviceMap ReinitFn} {d : DeviceEntry ReinitFn} {closes : Bool}
  {fd : Int} (hg : Good x s.world.files) (hd : x.lookup s.manager.getSuccessId = some d)
  (hheld : s.manager.getSingleFd s.manager.getSuccessId = some d.com.fd)
include hg hd hheld

/-- An attempt whose callback fails keeps the stored descriptors. -/
theorem failed_attempt {x' : DeviceMap ReinitFn} (hx' : Represents true s'.manager x')
    (hfds : storedFds x' = storedFds x)
    (hre : Reopens false closes 0 s.world.files fd s'.world.files) :
    (OwnedStep s false s' ↔ closes = false ∨ s.world.files.object 0 = none) ∧
      (OwnedStep s false s' → GoodSys s') := by
  have hall : s'.manager.getAllFd = storedFds x := (getAllFd_represents hx').trans hfds
  constructor
  · rw [OwnedStep,hheld,hall]
    exact owned_failed_iff hg hd hre
  · intro hstep
    have hopen := hstep.storedOpen
    rw [hall] at hopen
    exact ⟨x',hx',hfds ▸ hopen,hfds ▸ hg.distinct⟩

/-- An attempt that succeeds stores the new descriptor. -/
theorem replaced_attempt
    (hx' : Represents true s'.manager (reconnected x s.manager.getSuccessId fd d))
    (hre : Reopens true closes 0 s.world.files fd s'.world.files) :
    (OwnedStep s true s' ↔ d.com.fd = 0) ∧ (OwnedStep s true s' → GoodSys s') := by
  have hfds := storedFds_reconnected x s.manager.getSuccessId fd d
  have hall := (getAllFd_represents hx').trans hfds
  have hown : OwnedStep s true s' ↔ d.com.fd = 0 := by
    rw [OwnedStep,hheld,hall]
    exact owned_opened_iff hg hd hre
  refine ⟨hown,fun hstep => ?_⟩
  have hopen := hstep.storedOpen
  rw [hall] at hopen
  exact ⟨_,hx',hfds ▸ hopen,hfds ▸ good_reconnected hg hd hre (hown.mp hstep)⟩

end Called

/-- The condition speaks of the one device and callback that the attempt is about. -/
theorem spares_of_known {a : Attempt} {x : DeviceMap ReinitFn} {files : Handles.Table} {id : Int}
    {d : DeviceEntry ReinitFn} {f : ReinitFn} (hd : x.lookup id = some d)
    (ha : (d.com.breaker.allowRequest a.t₁).1 = true) (hc : d.com.reback 0 = some f) :
    (∀ d f, x.lookup id = some d → (d.com.breaker.allowRequest a.t₁).1 = true →
      d.com.reback 0 = some f → Spares a files d.com.fd f) ↔ Spares a files d.com.fd f := by
  constructor
  · intro h
    exact h d f hd ha hc
  · intro h d' f' hd' _ hc'
    obtain rfl := Option.some.inj (hd.symm.trans hd')
    obtain rfl := Option.some.inj (hc.symm.trans hc')
    exact h

/-- One attempt from a good state: it goes as expected exactly when it is harmless, and then
it leaves a good state. -/
theorem endOfFile_owned {s : Sys} (hs : GoodSys s) (a : Attempt) :
    ∃ ok s', endOfFile a s = some (ok,s') ∧ (OwnedStep s ok s' ↔ Harmless s a) ∧
      (OwnedStep s ok s' → GoodSys s') := by
  obtain ⟨x,hx,hg⟩ := hs
  rw [harmless_iff hx]
  unfold endOfFile
  by_cases hid : 0 ≤ s.manager.getSuccessId
  · have hne : x.entries = [] → s.manager.getSuccessId ≠ -1 := by omega
    have hheld := getSingleFd_represents hx _ hne
    have hout := reinit_outcome (call a.outcome) a.t₁ a.t₂ s.manager.getSuccessId 0 s.world hx hne
    simp only [hid,if_true,forall_const]
    generalize s.manager.reinit (call a.outcome) a.t₁ a.t₂ s.manager.getSuccessId 0 s.world = r
      at hout
    have hquiet {m' : CommunicaManage ReinitFn} {g : CircuitBreaker → CircuitBreaker}
        (hr : Represents true m' (x.modify s.manager.getSuccessId (.withBreaker g)).2) :=
      quiet_attempt s ⟨m',s.world⟩ hg hr (storedFds_modify x _ fun _ => rfl) rfl
    cases hout with
    | unknown hd =>
      obtain ⟨hown,hgood⟩ := quiet_attempt s s hg hx rfl rfl
      exact ⟨false,s,rfl,iff_of_true hown fun d f hd' => by simp [hd] at hd',fun _ => hgood⟩
    | @refused d m' hd ha hr =>
      obtain ⟨hown,hgood⟩ := hquiet hr
      refine ⟨false,⟨m',s.world⟩,rfl,iff_of_true hown ?_,fun _ => hgood⟩
      intro d' f hd' ha'
      obtain rfl := Option.some.inj (hd.symm.trans hd')
      simp [ha] at ha'
    | @noCallback d m' hd ha hc hr =>
      obtain ⟨hown,hgood⟩ := hquiet hr
      refine ⟨false,⟨m',s.world⟩,rfl,iff_of_true hown ?_,fun _ => hgood⟩
      intro d' f hd' _ hc'
      obtain rfl := Option.some.inj (hd.symm.trans hd')
      simp [hc] at hc'
    | @failed d m' f hd ha hc hfd hr =>
      have hre := call_reopens f a.outcome 0 s.world
      have hok : f.ok a.outcome = false := by
        by_contra hne
        have := hre.result.mpr (by simpa using hne)
        omega
      rw [hok] at hre
      rw [hd] at hheld
      obtain ⟨hown,hgood⟩ := failed_attempt ⟨m',(call a.outcome f 0 s.world).2⟩ hg hd hheld hr
        (storedFds_modify x _ fun _ => rfl) hre
      refine ⟨false,_,rfl,?_,hgood⟩
      rw [spares_of_known hd ha hc,hown]
      simp [Spares,hok]
    | @replaced d m' f hd ha hc hfd hr =>
      have hre := call_reopens f a.outcome 0 s.world
      have hok : f.ok a.outcome = true := hre.result.mp hfd
      rw [hok] at hre
      rw [hd] at hheld
      obtain ⟨hown,hgood⟩ := replaced_attempt ⟨m',(call a.outcome f 0 s.world).2⟩ hg hd hheld hr hre
      refine ⟨true,_,rfl,?_,hgood⟩
      rw [spares_of_known hd ha hc,hown]
      simp [Spares,hok]
  · obtain ⟨hown,hgood⟩ := quiet_attempt s s hg hx rfl rfl
    exact ⟨false,s,by simp [hid],iff_of_true hown fun h => absurd h hid,fun _ => hgood⟩

/-- Every attempt of a run goes as expected. -/
def AllOwned (s : Sys) : List Event → Prop
  | [] => True
  | .setEnable id::es => ∀ ok s', step s (.setEnable id) = some (ok,s') → AllOwned s' es
  | .endOfFile a::es => ∀ ok s', step s (.endOfFile a) = some (ok,s') →
    OwnedStep s ok s' ∧ AllOwned s' es

/-- Every attempt of a run is harmless. -/
def AllHarmless (s : Sys) : List Event → Prop
  | [] => True
  | .setEnable id::es => ∀ ok s', step s (.setEnable id) = some (ok,s') → AllHarmless s' es
  | .endOfFile a::es => Harmless s a ∧
    ∀ ok s', step s (.endOfFile a) = some (ok,s') → AllHarmless s' es

theorem setEnable_good {s : Sys} (hs : GoodSys s) {id : Int} (hid : 0 ≤ id) :
    GoodSys { s with manager := (s.manager.setEnable id).2 } := by
  obtain ⟨x,hx,hg⟩ := hs
  have hfds : storedFds (x.modify id fun d => { d with enabled := true }).2 = storedFds x :=
    storedFds_modify x id fun _ => rfl
  exact ⟨_,(setEnable_represents hx id (by omega)).2,hfds ▸ hg.isOpen,hfds ▸ hg.distinct⟩

/-- In a run from a good state every attempt goes as expected exactly when every attempt is
harmless. -/
theorem allOwned_iff {s : Sys} (hs : GoodSys s) (es : List Event)
    (hids : ∀ id, .setEnable id ∈ es → 0 ≤ id) : AllOwned s es ↔ AllHarmless s es := by
  induction es generalizing s with
  | nil => rfl
  | cons e es ih =>
    have hrest : ∀ id, .setEnable id ∈ es → 0 ≤ id := fun id h => hids id (by simp [h])
    cases e with
    | setEnable id =>
      have hgood := setEnable_good hs (hids id (by simp))
      simp only [AllOwned,AllHarmless,step,Option.some.injEq,Prod.mk.injEq,and_imp]
      constructor
      · rintro h ok s' rfl rfl
        exact (ih hgood hrest).mp (h _ _ rfl rfl)
      · rintro h ok s' rfl rfl
        exact (ih hgood hrest).mpr (h _ _ rfl rfl)
    | endOfFile a =>
      obtain ⟨ok,s',hstep,hiff,hgood⟩ := endOfFile_owned hs a
      have hone {Q : Bool → Sys → Prop} :
          (∀ ok s', step s (.endOfFile a) = some (ok,s') → Q ok s') ↔ Q ok s' := by
        simp only [step,hstep,Option.some.injEq,Prod.mk.injEq,and_imp]
        exact ⟨fun h => h _ _ rfl rfl,by rintro h _ _ rfl rfl; exact h⟩
      simp only [AllOwned,AllHarmless,hone]
      constructor
      · rintro ⟨hown,hall⟩
        exact ⟨hiff.mp hown,(ih (hgood hown) hrest).mp hall⟩
      · rintro ⟨hharm,hall⟩
        have hown := hiff.mpr hharm
        exact ⟨hown,(ih (hgood hown) hrest).mpr hall⟩

section Start

variable {x : DeviceMap ReinitFn} {files files' : Handles.Table}

theorem Good.of_same (hg : Good x files) (hsame : ∀ g, files'.object g = files.object g) :
    Good x files' :=
  ⟨fun fd hfd => by rw [hsame]; exact hg.isOpen fd hfd,hg.distinct⟩

/-- A newly opened file leaves the stored descriptors open and has a number of its own. -/
theorem Good.opened (hg : Good x files) {r : Int × Handles.Table} (h : Opened files r) :
    Good x r.2 ∧ r.1 ∉ storedFds x ∧ r.2.object r.1 ≠ none := by
  obtain ⟨k,-,hobj⟩ := h.new
  have hnew : r.1 ∉ storedFds x := fun hmem => hg.isOpen _ hmem h.free
  refine ⟨⟨fun fd hfd => ?_,hg.distinct⟩,hnew,by simp [hobj r.1]⟩
  have hne : fd ≠ r.1 := by
    rintro rfl
    exact hnew hfd
  rw [hobj fd,if_neg hne]
  exact hg.isOpen fd hfd

theorem Good.append (hg : Good x files) {fd : Int} (hopen : files.object fd ≠ none)
    (hnew : fd ∉ storedFds x) (id : Int) {d : DeviceEntry ReinitFn} (hd : d.com.fd = fd) :
    Good (x.append id d).2 files := by
  by_cases hid : id ∈ x.keys
  · have hx : (x.append id d).2 = x := by simp [OrderedMap.append,hid]
    rwa [hx]
  · have hfds : storedFds (x.append id d).2 = storedFds x ++ [fd] := by
      rw [storedFds,(OrderedMap.append_of_not_mem hid d).2]
      simp [storedFds,hd]
    refine ⟨fun g hmem => ?_,?_⟩
    · rw [hfds,List.mem_append,List.mem_singleton] at hmem
      rcases hmem with hmem | rfl
      · exact hg.isOpen g hmem
      · exact hopen
    · rw [hfds,List.nodup_append]
      refine ⟨hg.distinct,List.nodup_singleton fd,?_⟩
      intro g hmem k hk heq
      exact hnew (List.mem_singleton.mp hk ▸ heq ▸ hmem)

end Start

/-- One strategy of `dev_init` keeps the stored descriptors open and distinct. -/
theorem initOne_good (o : Outcome) (st : Strategy) {m : CommunicaManage ReinitFn} {w : World}
    (hs : GoodSys ⟨m,w⟩) : ∃ m' w', initOne o st m w = some (m',w') ∧ GoodSys ⟨m',w'⟩ := by
  obtain ⟨x,hx,hg⟩ := hs
  have hopens := st.init_opens o w.files
  unfold initOne
  by_cases hneg : (st.init o w.files).1 < 0
  · have hok : st.ok o = false := by
      by_contra hne
      have := hopens.nonneg.mpr (by simpa using hne)
      omega
    rw [hok] at hopens
    simp only [hneg,if_true]
    exact ⟨_,_,rfl,x,hx,hg.of_same hopens.same⟩
  · have hok : st.ok o = true := hopens.nonneg.mp (by omega)
    rw [hok] at hopens
    obtain ⟨hg',hnew,hopen⟩ := hg.opened hopens
    simp only [hneg,if_false]
    cases hclient : st.isClient with
    | false => exact ⟨_,_,rfl,x,hx,hg'⟩
    | true =>
      have hadd := (insertNode_represents hx st.deviceId
        (createComnode (st.init o w.files).1 (-1))).2
      have hgood := hg'.append hopen hnew st.deviceId
        (d := ⟨createComnode (st.init o w.files).1 (-1),false⟩) rfl
      have hid : st.deviceId ≠ -1 := by cases st <;> decide
      simp only [if_true]
      cases hf : st.reinitFn with
      | none => exact ⟨_,_,rfl,_,hadd,hgood⟩
      | some f =>
        obtain ⟨m',hm',hr⟩ := callbackRgist_represents hadd st.deviceId 0 (some f) fun _ => hid
        have hfds : storedFds (rgist (x.append st.deviceId
            ⟨createComnode (st.init o w.files).1 (-1),false⟩).2 st.deviceId 0 (some f)).2 = _ :=
          storedFds_modify _ _ fun _ => rfl
        refine ⟨m',recordClient st (st.init o w.files) w,?_,_,hr,hfds ▸ hgood.isOpen,
          hfds ▸ hgood.distinct⟩
        simp only [addCommunicateNode,hm',Option.map_some]

theorem initAll_good (o : Strategy → Outcome) (ss : List Strategy) {m : CommunicaManage ReinitFn}
    {w : World} (hs : GoodSys ⟨m,w⟩) :
    ∃ m' w', initAll o ss m w = some (m',w') ∧ GoodSys ⟨m',w'⟩ := by
  induction ss generalizing m w with
  | nil => exact ⟨m,w,rfl,hs⟩
  | cons st ss ih =>
    obtain ⟨m₁,w₁,h₁,hs₁⟩ := initOne_good (o st) st hs
    obtain ⟨m₂,w₂,h₂,hs₂⟩ := ih hs₁
    exact ⟨m₂,w₂,by simp [initAll,h₁,h₂],hs₂⟩

/-- `dev_init` gives a good state, whatever the system answers. -/
theorem devInit_good (o : Strategy → Outcome) (enabled : Strategy → Bool) (files : Handles.Table)
    (identity : DeviceIdentity) :
    ∃ n m w, devInit o enabled files identity = some (n,m,w) ∧ GoodSys ⟨m,w⟩ := by
  have hstart : GoodSys ⟨.new,⟨files,{},identity⟩⟩ :=
    ⟨.empty,represents_new,by simp [storedFds],by simp [storedFds]⟩
  obtain ⟨m,w,h,x,hx,hg⟩ := initAll_good o (Strategy.createAll enabled) hstart
  refine ⟨_,m,storeBtMac (o .bluetooth) w,by rw [devInit,h]; rfl,x,hx,?_⟩
  unfold storeBtMac
  split_ifs <;> exact hg

/-- After `dev_init`, with devices enabled in any order, the attempts of `send_mess` go as
expected exactly when every one of them is harmless. -/
theorem ownership_iff {o : Strategy → Outcome} {enabled : Strategy → Bool} {files : Handles.Table}
    {identity : DeviceIdentity} {n : Int} {m : CommunicaManage ReinitFn} {w : World}
    (h : devInit o enabled files identity = some (n,m,w)) (es : List Event)
    (hids : ∀ id, .setEnable id ∈ es → 0 ≤ id) :
    (∀ fd ∈ m.getAllFd, w.files.object fd ≠ none) ∧
      (AllOwned ⟨m,w⟩ es ↔ AllHarmless ⟨m,w⟩ es) := by
  obtain ⟨n',m',w',h',hgood⟩ := devInit_good o enabled files identity
  obtain ⟨rfl,rfl,rfl⟩ : n' = n ∧ m' = m ∧ w' = w := by simpa [h'] using h
  refine ⟨?_,allOwned_iff hgood es hids⟩
  obtain ⟨x,hx,hg⟩ := hgood
  rw [getAllFd_represents hx]
  exact hg.isOpen

/-- Standard input, output and error. -/
def stdFiles : Handles.Table where
  slots := [some 0,some 1,some 2]
  next := 3
  fresh := by
    intro f hf
    simp at hf
    omega

/-- Every call on the device succeeds, but for the one that `socket` names. -/
def answers (socket : Bool) : Outcome where
  ports := fun _ => ⟨true,true⟩
  setOpt := true
  btMac := none
  socket := socket
  connect := ⟨true,true,.done,.ready,true,true,false⟩
  socketReady := true
  dialled := true

/-- A WiFi device whose reconnect fails before a socket is created keeps its descriptor. -/
theorem wifi_attempt_owned : ∃ n m w,
    devInit (fun _ => answers true) (· = .wifi) stdFiles {} = some (n,m,w) ∧
      AllOwned ⟨m,w⟩ [.setEnable 2,.endOfFile ⟨answers false,0,0⟩] := by
  obtain ⟨n,m,w,h,hharm⟩ : ∃ n m w,
      devInit (fun _ => answers true) (· = .wifi) stdFiles {} = some (n,m,w) ∧
        AllHarmless ⟨m,w⟩ [.setEnable 2,.endOfFile ⟨answers false,0,0⟩] := by
    refine ⟨_,_,_,rfl,?_⟩
    intro ok s hs
    obtain ⟨rfl,rfl⟩ := Prod.mk.inj (Option.some.inj hs)
    refine ⟨?_,fun _ _ _ => trivial⟩
    intro _ n c f hn hc _ hf
    cases hn
    cases hc
    cases hf
    exact .inl rfl
  exact ⟨n,m,w,h,(ownership_iff h _ (by simp)).2.mpr hharm⟩

/-- The reconnect of the LAN device closes standard input and leaves the old socket open. -/
theorem lan_reconnect_closes_stdin : ¬ ∀ (o : Strategy → Outcome) (enabled : Strategy → Bool)
    (files : Handles.Table) (identity : DeviceIdentity) (n : Int) (m : CommunicaManage ReinitFn)
    (w : World) (es : List Event), devInit o enabled files identity = some (n,m,w) →
    (∀ id, .setEnable id ∈ es → 0 ≤ id) → AllOwned ⟨m,w⟩ es := by
  intro hall
  have h := hall (fun _ => answers true) (· = .lan) stdFiles {} _ _ _
    [.setEnable 4,.endOfFile ⟨answers true,0,0⟩] rfl (by simp)
  have hstep := (h _ _ rfl _ _ rfl).1
  exact hstep.heldClosed rfl 3 3 rfl rfl rfl

end Reconnect
end Sap9001
