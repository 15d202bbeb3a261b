import Sap9001.DeviceMap
import Mathlib.Tactic.FinCases

/-! Re-initialisation of a device on the map of registered devices: the five ways an
attempt ends, and the states of the manager that any sequence of operations reaches. -/
namespace Sap9001
namespace Reinit

open CommunicaManage DeviceMap

variable {F W : Type} {marked : Bool}

/-- The entry that a successful attempt registers: everything but the descriptor and the
callbacks is what `createComnode` and `insertNode` put there. -/
def replacement (fd : Int) (d : DeviceEntry F) : DeviceEntry F :=
  ⟨{ (createComnode fd (-1) : Communicate F) with reback := d.com.reback },false⟩

/-- The map after a successful attempt: the device moves to the end of the list. -/
def reconnected (x : DeviceMap F) (id fd : Int) (d : DeviceEntry F) : DeviceMap F :=
  ((x.erase id).2.append id (replacement fd d)).2

theorem updateCom_represents {m : CommunicaManage F} {x : DeviceMap F}
    (h : Represents marked m x) (hx : x.entries ≠ []) (id : Int)
    (f : CircuitBreaker → CircuitBreaker) :
    Represents marked (m.updateCom id fun c => { c with breaker := f c.breaker })
      (x.modify id (.withBreaker f)).2 := by
  cases h with
  | sentinel b hb => exact absurd rfl hx
  | live h => exact live_updateNode h id (fun _ _ => rfl)

/-- What one slot of the saved callbacks does to the new entry. -/
def restoreSlot (callbacks : Fin 3 → Option F) (d : DeviceEntry F) (i : Fin 3) : DeviceEntry F :=
  match callbacks i with
  | some f => d.withCallback i (some f)
  | none => d

theorem restoreCallbacks_represents {y : DeviceMap F} {id : Int} (hid : id ∉ y.keys)
    (callbacks : Fin 3 → Option F) (slots : List (Fin 3)) {m : CommunicaManage F}
    {d : DeviceEntry F} (h : Represents marked m (y.append id d).2) :
    ∃ m', restoreCallbacks id callbacks slots m = some m' ∧
      Represents marked m' (y.append id (slots.foldl (restoreSlot callbacks) d)).2 := by
  induction slots generalizing m d with
  | nil => exact ⟨m,rfl,h⟩
  | cons i slots ih =>
    have hentries := (OrderedMap.append_of_not_mem hid d).2
    have hne : (y.append id d).2.entries = [] → id ≠ -1 := by simp [hentries]
    cases hc : callbacks i with
    | none =>
      have hslot : restoreSlot callbacks d i = d := by simp [restoreSlot,hc]
      obtain ⟨m',hm',hr⟩ := ih h
      exact ⟨m',by simp only [restoreCallbacks,hc,hm'],by rwa [List.foldl_cons,hslot]⟩
    | some f =>
      have hslot : restoreSlot callbacks d i = d.withCallback i (some f) := by
        simp [restoreSlot,hc]
      obtain ⟨m₁,hm₁,hr₁⟩ := callbackRgist_represents h id i (some f) hne
      have hrange : ¬ ((i : ℕ) < (0 : Int) ∨ ((i : ℕ) : Int) > 2) := by omega
      have hpos : slot ((i : ℕ) : Int) hrange = i := rfl
      have hx : (rgist (y.append id d).2 id ((i : ℕ) : Int) (some f)).2 =
          (y.append id (d.withCallback i (some f))).2 := by
        rw [rgist,dif_neg hrange,hpos,OrderedMap.modify_append hid]
      rw [hx] at hr₁
      obtain ⟨m',hm',hr⟩ := ih hr₁
      refine ⟨m',?_,by rwa [List.foldl_cons,hslot]⟩
      simp only [restoreCallbacks,hc]
      rw [hm₁]
      exact hm'

theorem foldl_restoreSlot (callbacks : Fin 3 → Option F) (slots : List (Fin 3))
    (d : DeviceEntry F) : slots.foldl (restoreSlot callbacks) d =
      { d with com := { d.com with reback := fun i =>
          if i ∈ slots then (callbacks i).or (d.com.reback i) else d.com.reback i } } := by
  induction slots generalizing d with
  | nil => simp
  | cons i slots ih =>
    rw [List.foldl_cons,ih]
    cases hc : callbacks i with
    | none =>
      simp only [restoreSlot,hc]
      congr 2
      funext j
      by_cases hj : j = i <;> by_cases hs : j ∈ slots <;> simp_all
    | some f =>
      simp only [restoreSlot,hc,DeviceEntry.withCallback]
      congr 2
      funext j
      by_cases hj : j = i <;> by_cases hs : j ∈ slots <;> simp_all [Function.update]

/-- All three slots hold again what they held before. -/
theorem restored_slots (fd : Int) (d : DeviceEntry F) :
    [0,1,2].foldl (restoreSlot d.com.reback) ⟨createComnode fd (-1),false⟩ = replacement fd d := by
  rw [foldl_restoreSlot]
  simp only [replacement,createComnode,Option.or_none]
  congr 2
  funext i
  fin_cases i <;> rfl

section Outcomes

variable (call : F → Int → W → Int × W) (t₁ t₂ : UInt64) {m : CommunicaManage F}
  {x : DeviceMap F} (id para : Int) (w : W)

/-- The five ends of an attempt: the device is unknown, the breaker refuses, no callback is
registered, the callback fails, or the device is replaced. -/
inductive Outcome (marked : Bool) (x : DeviceMap F) (m : CommunicaManage F) :
    Option (Bool × CommunicaManage F × W) → Prop
  | unknown (hd : x.lookup id = none) : Outcome marked x m (some (false,m,w))
  | refused {d m'} (hd : x.lookup id = some d) (ha : (d.com.breaker.allowRequest t₁).1 = false)
      (hr : Represents marked m' (x.modify id (.withBreaker fun _ => (d.com.breaker.allowRequest t₁).2)).2) :
      Outcome marked x m (some (false,m',w))
  | noCallback {d m'} (hd : x.lookup id = some d) (ha : (d.com.breaker.allowRequest t₁).1 = true)
      (hc : d.com.reback 0 = none)
      (hr : Represents marked m' (x.modify id (.withBreaker fun _ => (d.com.breaker.allowRequest t₁).2)).2) :
      Outcome marked x m (some (false,m',w))
  | failed {d m' init} (hd : x.lookup id = some d)
      (ha : (d.com.breaker.allowRequest t₁).1 = true) (hc : d.com.reback 0 = some init)
      (hfd : (call init para w).1 < 0)
      (hr : Represents marked m'
        (x.modify id (.withBreaker fun _ => (d.com.breaker.allowRequest t₁).2.recordFailure t₂)).2) :
      Outcome marked x m (some (false,m',(call init para w).2))
  | replaced {d m' init} (hd : x.lookup id = some d)
      (ha : (d.com.breaker.allowRequest t₁).1 = true) (hc : d.com.reback 0 = some init)
      (hfd : 0 ≤ (call init para w).1)
      (hr : Represents marked m' (reconnected x id (call init para w).1 d)) :
      Outcome marked x m (some (true,m',(call init para w).2))

theorem reinit_outcome (h : Represents marked m x) (hid : x.entries = [] → id ≠ -1) :
    Outcome call t₁ t₂ id para w marked x m (m.reinit call t₁ t₂ id para w) := by
  have hfind := findcommunicate_represents h id hid
  unfold reinit
  cases hd : x.lookup id with
  | none =>
    rw [hfind,hd]
    exact .unknown hd
  | some d =>
    rw [hfind,hd]
    have hx := OrderedMap.entries_ne_nil hd
    have h₁ := updateCom_represents h hx id (fun _ => (d.com.breaker.allowRequest t₁).2)
    simp only [Option.map_some,nodeOf_com]
    cases ha : (d.com.breaker.allowRequest t₁).1 with
    | false => exact .refused hd ha h₁
    | true =>
      simp only [Bool.not_true,Bool.false_eq_true,if_false]
      cases hc : d.com.initCallback with
      | none => exact .noCallback hd ha hc h₁
      | some init =>
        simp only
        by_cases hfd : (call init para w).1 < 0
        · have h₂ := updateCom_represents h₁ (OrderedMap.modify_ne_nil hx id _) id
            (fun b => b.recordFailure t₂)
          rw [OrderedMap.modify_modify] at h₂
          rw [if_pos hfd]
          exact .failed hd ha hc hfd h₂
        · have h₂ := updateCom_represents h₁ (OrderedMap.modify_ne_nil hx id _) id
            (fun b => b.recordSuccess)
          have hx₂ := OrderedMap.modify_ne_nil (OrderedMap.modify_ne_nil hx id
            (.withBreaker fun _ => (d.com.breaker.allowRequest t₁).2)) id
            (.withBreaker fun b => b.recordSuccess)
          have h₃ := (deletecommunicateNode_represents h₂ id (fun he => absurd he hx₂)).2
          rw [OrderedMap.erase_modify,OrderedMap.erase_modify] at h₃
          have hkey := x.not_mem_keys_erase id
          have h₄ := insertNode_represents h₃ id (createComnode (call init para w).1 (-1))
          rw [(OrderedMap.append_of_not_mem hkey _).1] at h₄
          obtain ⟨m',hm',h₅⟩ := restoreCallbacks_represents hkey d.com.reback [0,1,2] h₄.2
          rw [restored_slots] at h₅
          rw [if_neg hfd]
          simp only [addCommunicateNode,h₄.1,Bool.not_true,Bool.false_eq_true,if_false,hm',
            Option.map_some]
          exact .replaced hd ha hc (by omega) h₅

/-- Whatever an attempt comes to, the devices stay those there were, and the environment is what it
was or what one callback made of it. -/
theorem reinit_keeps (h : Represents marked m x) (hid : x.entries = [] → id ≠ -1) :
    ∃ b m' w' x', m.reinit call t₁ t₂ id para w = some (b,m',w') ∧ Represents marked m' x' ∧
      (∀ k ∈ x'.keys, k ∈ x.keys) ∧ (w' = w ∨ ∃ f, w' = (call f para w).2) := by
  have hout := reinit_outcome call t₁ t₂ id para w h hid
  have hmodify (g : CircuitBreaker → CircuitBreaker) :
      ∀ k ∈ (x.modify id (.withBreaker g)).2.keys, k ∈ x.keys := by
    rw [OrderedMap.keys_modify]
    exact fun _ hk => hk
  generalize m.reinit call t₁ t₂ id para w = r at hout
  cases hout with
  | unknown hd => exact ⟨_,_,_,_,rfl,h,fun _ hk => hk,.inl rfl⟩
  | refused hd ha hr => exact ⟨_,_,_,_,rfl,hr,hmodify _,.inl rfl⟩
  | noCallback hd ha hc hr => exact ⟨_,_,_,_,rfl,hr,hmodify _,.inl rfl⟩
  | failed hd ha hc hfd hr => exact ⟨_,_,_,_,rfl,hr,hmodify _,.inr ⟨_,rfl⟩⟩
  | @replaced d m' f hd ha hc hfd hr =>
    refine ⟨_,_,_,_,rfl,hr,fun k hk => ?_,.inr ⟨_,rfl⟩⟩
    have hentries := (OrderedMap.append_of_not_mem (x.not_mem_keys_erase id)
      (replacement (call f para w).1 d)).2
    rw [OrderedMap.keys,reconnected,hentries,List.map_append,List.mem_append] at hk
    rcases hk with hk | hk
    · exact OrderedMap.mem_keys_erase hk
    · obtain rfl := List.mem_singleton.mp hk
      exact OrderedMap.mem_keys.mpr ⟨d,OrderedMap.lookup_eq_some.mp hd⟩

end Outcomes

/-- Everything that can happen to a manager; `reinit` runs with any callbacks. -/
inductive Op (F : Type)
  | call (c : Call F)
  | reinit (id para : Int)

inductive Step : CommunicaManage F → Op F → CommunicaManage F → Prop
  | call {m m' c b} (h : perform c m = some (b,m')) : Step m (.call c) m'
  | reinit {m m' : CommunicaManage F} {id para b} {W : Type} {call : F → Int → W → Int × W}
      {t₁ t₂ : UInt64} {w w' : W} (h : m.reinit call t₁ t₂ id para w = some (b,m',w')) :
      Step m (.reinit id para) m'

def Reachable (m : CommunicaManage F) : Prop := StepSystem.Reachable (· = .new) Step m

/-- Only the marked empty list meets an id of -1; the calls that survive it keep the
representation. -/
theorem perform_sentinel (b : Bool) {c : Call F} (hc : c.id = -1) {r : Bool}
    {m' : CommunicaManage F} (h : perform c ⟨⟨none,-1,b⟩,[]⟩ = some (r,m')) :
    ∃ x, Represents true m' x := by
  have hs : Represents true (⟨⟨none,-1,b⟩,[]⟩ : CommunicaManage F) .empty := .sentinel b (by simp)
  have hm {p : Bool × CommunicaManage F} (hp : some p = some (r,m')) : p.2 = m' :=
    congrArg Prod.snd (Option.some.inj hp)
  cases c with
  | addEmpty id => exact ⟨_,hm h ▸ (insertNode_represents hs id (createComnode (-1) (-1))).2⟩
  | add id fd => exact ⟨_,hm h ▸ (insertNode_represents hs id (createComnode fd (-1))).2⟩
  | addTimeout id fd timeout =>
    exact ⟨_,hm h ▸ (insertNode_represents hs id (createComnode fd timeout)).2⟩
  | delete id =>
    have hid : id = -1 := hc
    subst hid
    have h' := hm h
    simp only [deletecommunicateNode,if_true] at h'
    exact ⟨_,h' ▸ represents_new⟩
  | callbackRgist id pos function =>
    have hid : id = -1 := hc
    by_cases hpos : pos < 0 ∨ pos > 2
    · simp only [perform,callbackRgist,hpos,dif_pos] at h
      have h' : (⟨⟨none,-1,b⟩,[]⟩ : CommunicaManage F) = m' := hm h
      exact ⟨_,h' ▸ hs⟩
    · simp [perform,callbackRgist,hpos,findcommunicate,nodes,hid] at h
  | setEnable id =>
    have hid : id = -1 := hc
    subst hid
    have h' : (⟨⟨none,-1,true⟩,[]⟩ : CommunicaManage F) = m' := hm h
    exact ⟨.empty,h' ▸ Represents.sentinel true (by simp)⟩

theorem step_represents {m m' : CommunicaManage F} {x : DeviceMap F} {op : Op F}
    (h : Represents true m x) (hstep : Step m op m') : ∃ x', Represents true m' x' := by
  cases hstep with
  | @call _ c b hc =>
    by_cases hid : x.entries = [] → c.id ≠ -1
    · obtain ⟨m₁,hm₁,hr⟩ := perform_represents h c hid
      rw [hm₁] at hc
      exact ⟨_,(Prod.mk.inj (Option.some.inj hc)).2 ▸ hr⟩
    · push Not at hid
      cases h with
      | sentinel b' hb => exact perform_sentinel b' hid.2 hc
      | live h => simp [nodes,hid.1] at h
  | @reinit _ id para b W call t₁ t₂ w w' hr =>
    by_cases hid : x.entries = [] → id ≠ -1
    · have ho := reinit_outcome call t₁ t₂ id para w h hid
      rw [hr] at ho
      cases ho with
      | unknown => exact ⟨_,h⟩
      | refused _ _ h' => exact ⟨_,h'⟩
      | noCallback _ _ _ h' => exact ⟨_,h'⟩
      | failed _ _ _ _ h' => exact ⟨_,h'⟩
      | replaced _ _ _ _ h' => exact ⟨_,h'⟩
    · push Not at hid
      cases h with
      | sentinel b' hb => simp [CommunicaManage.reinit,findcommunicate,nodes,hid.2] at hr
      | live h => simp [nodes,hid.1] at h

theorem reachable_represents {m : CommunicaManage F} (h : Reachable m) :
    ∃ x, Represents true m x := by
  refine StepSystem.Reachable.invariant (I := fun m => ∃ x, Represents true m x) ?_ ?_ h
  · rintro m rfl
    exact ⟨_,represents_new⟩
  · rintro m op m' ⟨x,hx⟩ hstep
    exact step_represents hx hstep

/-- What a reconnect is expected to keep of the registered channel `id`. -/
def KeepsChannel (m m' : CommunicaManage F) (id : Int) : Prop :=
  ∃ n n' c c', m.findcommunicate id = some n ∧ m'.findcommunicate id = some n' ∧
    n.com = some c ∧ n'.com = some c' ∧ n'.enabled = true ∧ c'.timeout = c.timeout

theorem lookup_reconnected {x : DeviceMap F} (id fd : Int) (d : DeviceEntry F) :
    (reconnected x id fd d).lookup id = some (replacement fd d) := by
  rw [OrderedMap.lookup_eq_some,reconnected,
    (OrderedMap.append_of_not_mem (x.not_mem_keys_erase id) _).2]
  simp

theorem first_reconnected {x : DeviceMap F} {id : Int} (fd : Int) (d : DeviceEntry F)
    (h : ∀ e ∈ x.entries, e.1 ≠ id → e.2.enabled = false) :
    (reconnected x id fd d).first (·.enabled) = none := by
  rw [OrderedMap.first,reconnected,(OrderedMap.append_of_not_mem (x.not_mem_keys_erase id) _).2,
    List.find?_eq_none]
  intro e he
  rw [List.mem_append,List.mem_singleton] at he
  rcases he with he | rfl
  · simp only [OrderedMap.erase,List.mem_filter,decide_eq_true_eq] at he
    simp [h e he.1 he.2]
  · simp [replacement]

/-- A successful attempt on an id other than the empty list's -1, as a whole. -/
theorem reinit_succeeded {m m' : CommunicaManage F} {x : DeviceMap F}
    {call : F → Int → W → Int × W} {t₁ t₂ : UInt64} {id para : Int} {w w' : W}
    (h : Represents marked m x) (hid : x.entries = [] → id ≠ -1)
    (hr : m.reinit call t₁ t₂ id para w = some (true,m',w')) :
    ∃ d init, x.lookup id = some d ∧ d.com.reback 0 = some init ∧ 0 ≤ (call init para w).1 ∧
      w' = (call init para w).2 ∧
      Represents marked m' (reconnected x id (call init para w).1 d) := by
  have ho := reinit_outcome call t₁ t₂ id para w h hid
  rw [hr] at ho
  cases ho with
  | @replaced d _ init hd ha hc hfd hr' => exact ⟨d,init,hd,hc,hfd,rfl,hr'⟩

/-- The expectation as a statement about every reachable manager and every init callback
that leaves the manager alone. -/
def ReconnectKeepsChannel (F W : Type) : Prop :=
  ∀ (call : F → Int → W → Int × W) (t₁ t₂ : UInt64) (m m' : CommunicaManage F) (id para : Int)
    (w w' : W) (n : CommunicateNode F), Reachable m → 0 ≤ id → m.findcommunicate id = some n →
    n.enabled = true → m.reinit call t₁ t₂ id para w = some (true,m',w') →
    KeepsChannel m m' id ∧
      ((∀ k ∈ m.nodes, k.enabled = true → k.id = id) →
        m'.getSuccessId = id ∧ some m'.getSuccessFd = m'.getSingleFd id)

/-- Every successful reconnect leaves the device disabled and without its timeout;
if it was the only enabled device, none is left. -/
theorem reinit_disables_channel {call : F → Int → W → Int × W} {t₁ t₂ : UInt64}
    {m m' : CommunicaManage F} (id para : Int) {w w' : W} (hm : Reachable m) (hid : 0 ≤ id)
    (hr : m.reinit call t₁ t₂ id para w = some (true,m',w')) :
    ¬ KeepsChannel m m' id ∧
      (∃ n' c', m'.findcommunicate id = some n' ∧ n'.enabled = false ∧ n'.com = some c' ∧
        c'.timeout = -1) ∧
      ((∀ k ∈ m.nodes, k.enabled = true → k.id = id) →
        m'.getSuccessId = -1 ∧ m'.getSuccessFd = -1) := by
  obtain ⟨x,hx⟩ := reachable_represents hm
  obtain ⟨d,init,hd,hc,hfd,-,hx'⟩ := reinit_succeeded hx (by omega) hr
  have hfind := findcommunicate_represents hx' id (by omega)
  rw [lookup_reconnected,Option.map_some] at hfind
  refine ⟨?_,⟨_,_,hfind,rfl,rfl,rfl⟩,?_⟩
  · rintro ⟨n₁,n₂,c₁,c₂,h₁,h₂,-,-,hen,-⟩
    rw [hfind] at h₂
    obtain rfl := Option.some.inj h₂
    exact Bool.false_ne_true hen
  · intro honly
    have hothers : ∀ e ∈ x.entries, e.1 ≠ id → e.2.enabled = false := by
      intro e hmem hne
      by_contra hen
      have hnode : nodeOf e ∈ m.nodes := by
        cases hx with
        | sentinel b hb => simp at hmem
        | live h => exact h ▸ List.mem_map_of_mem hmem
      exact hne (honly (nodeOf e) hnode (by simpa using hen))
    have hnone := first_reconnected (call init para w).1 d hothers
    rw [getSuccessId_represents hx',getSuccessFd_represents hx',hnone]
    exact ⟨rfl,rfl⟩

/-- A LAN device with id 4 on descriptor 6, registered and enabled, whose init callback
gives descriptor 9. -/
def lanManager : CommunicaManage Unit :=
  (((CommunicaManage.new.addCommunicateNode 4 6).2.callbackRgist 4 0 (some ())).map
    fun r => (r.2.setEnable 4).2).getD .new

def lanInit : Unit → Int → Unit → Int × Unit := fun _ _ w => (9,w)

theorem lanManager_reachable : Reachable lanManager := by
  refine ⟨.new,[.call (.add 4 6),.call (.callbackRgist 4 0 (some ())),.call (.setEnable 4)],rfl,?_⟩
  exact .cons (.call (b := true) rfl) (.cons (.call (b := true) rfl)
    (.single (.call (b := true) rfl)))

/-- The reconnect of the LAN device succeeds and leaves no enabled device. -/
theorem lan_reconnect_lost : ¬ ReconnectKeepsChannel Unit Unit := by
  intro hkeep
  have h := (hkeep lanInit 0 0 lanManager _ 4 0 () () lanManager.head lanManager_reachable
    (by decide) rfl rfl rfl).2 (by decide)
  exact absurd h.1 (by decide)

/-- On that reconnect the device ends up disabled. -/
theorem lan_reconnect_disabled : ∃ m', lanManager.reinit lanInit 0 0 4 0 () = some (true,m',()) ∧
    m'.getSuccessId = -1 ∧ m'.getSuccessFd = -1 := by
  obtain ⟨m',h⟩ : ∃ m', lanManager.reinit lanInit 0 0 4 0 () = some (true,m',()) := ⟨_,rfl⟩
  exact ⟨m',h,(reinit_disables_channel 4 0 lanManager_reachable (by decide) h).2.2 (by decide)⟩

end Reinit
end Sap9001
