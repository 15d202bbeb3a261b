import Sap9001.BreakerHistory
import Sap9001.Silence

/-! How `send_mess` paces its reconnects: after an attempt that failed it sleeps longer than the
cooldown of the breaker, so that the breaker never holds it up. -/
namespace Sap9001

namespace CommunicaManage

variable {F : Type} {m : CommunicaManage F} {p : CircuitBreaker → Prop}

/-- Every breaker of the manager has the property. -/
def Breakers (p : CircuitBreaker → Prop) (m : CommunicaManage F) : Prop :=
  ∀ n ∈ m.nodes, ∀ c, n.com = some c → p c.breaker

theorem breakers_represents {marked : Bool} {x : DeviceMap F} (h : DeviceMap.Represents marked m x) :
    m.Breakers p ↔ ∀ e ∈ x.entries, p e.2.com.breaker := by
  cases h with
  | sentinel b hb => simp [Breakers,nodes]
  | live h =>
    simp only [Breakers,h,List.forall_mem_map,DeviceMap.nodeOf_com,Option.some.injEq,forall_eq']

theorem insertNode_breakers (h : m.Breakers p) {com : Communicate F} (hcom : p com.breaker)
    (id : Int) : (m.insertNode id com).2.Breakers p := by
  have hnew : ∀ c, some com = some c → p c.breaker := by
    rintro c hc
    exact Option.some.inj hc ▸ hcom
  unfold insertNode
  split_ifs
  · intro n hn
    rcases List.mem_cons.mp hn with rfl | hn
    · exact hnew
    · exact h n (List.mem_cons_of_mem _ hn)
  · exact h
  · intro n hn
    have hn' : n ∈ m.nodes ++ [⟨some com,id,false⟩] := hn
    rcases List.mem_append.mp hn' with hn' | hn'
    · exact h n hn'
    · exact List.mem_singleton.mp hn' ▸ hnew

theorem updateNode_breakers (h : m.Breakers p) (id : Int)
    {f : CommunicateNode F → CommunicateNode F}
    (hf : ∀ n, (f n).com.map (·.breaker) = n.com.map (·.breaker)) : (m.updateNode id f).Breakers p := by
  intro n hn c hc
  rw [DeviceMap.nodes_updateNode] at hn
  rcases OrderedMap.of_mem_updateFirst hn with hn | ⟨n',hn',rfl⟩
  · exact h n hn c hc
  · have hbreaker := hf n'
    rw [hc,Option.map_some] at hbreaker
    obtain ⟨c',hc',heq⟩ := Option.map_eq_some_iff.mp hbreaker.symm
    exact heq ▸ h n' hn' c' hc'

theorem callbackRgist_breakers (h : m.Breakers p) {id pos : Int} {function : Option F}
    {r : Bool × CommunicaManage F} (hr : m.callbackRgist id pos function = some r) :
    r.2.Breakers p := by
  unfold callbackRgist at hr
  split_ifs at hr
  · exact Option.some.inj hr ▸ h
  · split at hr
    · exact Option.some.inj hr ▸ h
    · split_ifs at hr
      refine Option.some.inj hr ▸ updateNode_breakers h id fun n => ?_
      rw [Option.map_map]
      rfl

theorem setEnable_breakers (h : m.Breakers p) (id : Int) : (m.setEnable id).2.Breakers p := by
  unfold setEnable
  split
  · exact updateNode_breakers h id fun _ => rfl
  · exact h

end CommunicaManage

namespace SendLoop

open CommunicaManage CircuitBreaker DeviceMap DeviceInit Reinit Reconnect

section Breaker

variable {clock clock' : ℕ} {b : CircuitBreaker} {now : UInt64}

/-- From `clock` on the breaker admits every attempt. -/
structure Rested (clock : ℕ) (b : CircuitBreaker) : Prop where
  cooldown : b.cooldownMs = 30000
  past : b.state = .opened → b.lastFailureTime.toNat + 30000 < clock

theorem rested_new : Rested clock (.new) := ⟨rfl,by simp [CircuitBreaker.new]⟩

theorem Rested.mono (h : Rested clock b) (hle : clock ≤ clock') : Rested clock' b :=
  ⟨h.cooldown,fun hopened => (h.past hopened).trans_le hle⟩

theorem Rested.allows (h : Rested clock b) (hnow : clock ≤ now.toNat) :
    (b.allowRequest now).1 = true := by
  by_contra hrefused
  obtain ⟨hopened,hcooled⟩ := (refuses_iff b now).mp (by simpa using hrefused)
  have hpast := h.past hopened
  have hle : b.lastFailureTime ≤ now := UInt64.le_iff_toNat_le.mpr (by omega)
  rw [cooled_iff (by simp [h.cooldown]) (by simp [h.cooldown]) hle,h.cooldown] at hcooled
  omega

/-- After it has admitted an attempt the breaker is not open. -/
theorem Rested.allowed (h : Rested clock b) (hnow : clock ≤ now.toNat) :
    Rested clock' (b.allowRequest now).2 := by
  have hallows := h.allows hnow
  unfold allowRequest at hallows ⊢
  cases hs : b.state with
  | closed => exact ⟨h.cooldown,by simp [hs]⟩
  | halfOpen => exact ⟨h.cooldown,by simp [hs]⟩
  | opened =>
    simp only [hs] at hallows ⊢
    split_ifs at hallows ⊢
    · exact ⟨h.cooldown,by simp⟩

theorem recordFailure_rested (h : b.cooldownMs = 30000) (hnow : now.toNat + 30000 < clock) :
    Rested clock (b.recordFailure now) := by
  unfold recordFailure
  dsimp only
  split_ifs
  · exact ⟨h,fun _ => hnow⟩
  · exact ⟨h,fun _ => hnow⟩

end Breaker

section Attempts

variable {x : DeviceMap ReinitFn} {clock clock' : ℕ}

theorem rested_modify (h : ∀ e ∈ x.entries, Rested clock e.2.com.breaker) (hle : clock ≤ clock')
    {id : Int} {d : DeviceEntry ReinitFn} (hd : x.lookup id = some d)
    {f : CircuitBreaker → CircuitBreaker} (hf : Rested clock' (f d.com.breaker)) :
    ∀ e ∈ (x.modify id (.withBreaker f)).2.entries, Rested clock' e.2.com.breaker := by
  obtain ⟨before,rest,hentries,-,hmodify⟩ := OrderedMap.split_of_lookup hd
  intro e he
  rw [hmodify,List.mem_append,List.mem_cons] at he
  have hother (he : e ∈ before ∨ e ∈ rest) : Rested clock' e.2.com.breaker := by
    refine (h e ?_).mono hle
    rw [hentries]
    rcases he with he | he <;> simp [he]
  rcases he with he | rfl | he
  · exact hother (.inl he)
  · exact hf
  · exact hother (.inr he)

/-- An attempt that is not too early leaves every breaker at rest, if the loop then waits out the
cooldown of a failure. -/
theorem endOfFile_rested {a : Attempt} {s : Sys} {r : Bool × Sys}
    (hx : Represents true s.manager x) (h : s.manager.Breakers (Rested clock))
    (ht₁ : clock ≤ a.t₁.toNat) (hle : clock ≤ clock')
    (hwaits : r.1 = false → a.t₂.toNat + 30000 < clock') (hr : endOfFile a s = some r) :
    r.2.manager.Breakers (Rested clock') := by
  have hall := (breakers_represents hx).mp h
  have hsame : s.manager.Breakers (Rested clock') := fun n hn c hc => (h n hn c hc).mono hle
  have hlookup {id : Int} {d : DeviceEntry ReinitFn} (hd : x.lookup id = some d) :
      Rested clock d.com.breaker := hall _ (OrderedMap.lookup_eq_some.mp hd)
  unfold endOfFile at hr
  dsimp only at hr
  split_ifs at hr with hid
  · have hout := reinit_outcome (call a.outcome) a.t₁ a.t₂ s.manager.getSuccessId 0 s.world hx
      (by omega)
    generalize s.manager.reinit (call a.outcome) a.t₁ a.t₂ s.manager.getSuccessId 0 s.world = o
      at hr hout
    cases hout with
    | unknown hd =>
      obtain rfl := Option.some.inj hr
      exact hsame
    | refused hd ha hm =>
      exact absurd ((hlookup hd).allows ht₁) (by simp [ha])
    | noCallback hd ha hc hm =>
      obtain rfl := Option.some.inj hr
      exact (breakers_represents hm).mpr (rested_modify hall hle hd ((hlookup hd).allowed ht₁))
    | failed hd ha hc hfd hm =>
      obtain rfl := Option.some.inj hr
      have hallowed : Rested clock' _ := (hlookup hd).allowed ht₁
      exact (breakers_represents hm).mpr
        (rested_modify hall hle hd (recordFailure_rested hallowed.cooldown (hwaits rfl)))
    | @replaced d m' init hd ha hc hfd hm =>
      obtain rfl := Option.some.inj hr
      refine (breakers_represents hm).mpr fun e he => ?_
      have happend := (OrderedMap.append_of_not_mem (x.not_mem_keys_erase s.manager.getSuccessId)
        (replacement (call a.outcome init 0 s.world).1 d)).2
      rw [reconnected,happend,List.mem_append,List.mem_singleton] at he
      rcases he with he | rfl
      · exact (hall e (List.mem_of_mem_filter he)).mono hle
      · exact rested_new
  · obtain rfl := Option.some.inj hr
    exact hsame

end Attempts

variable {th : Setup} {g t : Gateway}

section Clock

theorem act_clock (a : Action) (g : Gateway) : g.clock ≤ (g.act a).clock := Nat.le_add_right _ _

theorem feedIfAny_clock (wWdtId : Int) (g : Gateway) : (g.feedIfAny wWdtId).clock = g.clock := by
  unfold Gateway.feedIfAny
  split_ifs <;> rfl

variable (th) in
theorem onServe_clock (fd : Int) (i : Input) (g : Gateway) : g.clock ≤ (g.onServe th fd i).clock := by
  unfold Gateway.onServe
  split
  · dsimp only
    rw [feedIfAny_clock,feedIfAny_clock]
    split_ifs
    · exact (act_clock _ g).trans (act_clock _ _)
    · exact act_clock _ g
  · exact act_clock _ g
  · exact Nat.le_refl _

theorem afterReinit_clock (a : Attempt) (r : Bool × Sys) (g : Gateway) :
    (g.afterReinit a r).clock = max g.clock a.t₂.toNat + if r.1 then 2000 else 32000 := by
  obtain ⟨ok,sys⟩ := r
  -- The kernel must not add the sleeps up to a variable by computation.
  have hfailed (c : ℕ) : c + 0 + 1000*30 + 1000*2 = c + 32000 := by omega
  have hdone (c : ℕ) : c + 0 + 1000*2 = c + 2000 := by omega
  cases ok with
  | false =>
    rw [if_neg Bool.false_ne_true,← hfailed]
    rfl
  | true =>
    rw [if_pos rfl,← hdone]
    rfl

theorem turn_clock {i : Input} (hturn : g.Turn th i t) : g.clock ≤ t.clock := by
  cases hturn with
  | choose =>
    unfold Gateway.chooseFd
    dsimp only
    split_ifs
    · exact act_clock _ _
    · exact Nat.le_refl _
  | changed => exact Nat.le_refl _
  | nothing => exact Nat.le_refl _
  | selectFailed => exact act_clock _ _
  | timeout =>
    unfold Gateway.onTimeout
    dsimp only
    split_ifs
    · exact act_clock _ _
    · exact Nat.le_refl _
  | endOfFile _ _ _ hend =>
    unfold Gateway.onEndOfFile at hend
    split_ifs at hend
    · obtain ⟨r,-,rfl⟩ := Option.map_eq_some_iff.mp hend
      rw [afterReinit_clock]
      omega
    · obtain rfl := Option.some.inj hend
      exact act_clock _ _
  | message =>
    unfold Gateway.onMessage
    split
    · exact Nat.le_refl _
    · exact Nat.le_refl _
    · dsimp only
      split
      · exact act_clock _ _
      · exact Nat.le_refl _
  | @serve fd =>
    have hclock := onServe_clock th fd i g
    unfold Gateway.serve
    dsimp only
    split <;> exact hclock

end Clock

/-- An attempt at the end of the connection reads the clock when it starts, and a clock that does
not go back. -/
def Event.timely (g : Gateway) : Event → Bool
  | .transmitter i =>
    match i.answer with
    | .endOfFile a => g.clock ≤ a.t₁.toNat && a.t₁ ≤ a.t₂
    | _ => true
  | _ => true

def timelyStep (th : Setup) (g : Gateway) (e : Event) : Option Gateway :=
  if e.timely g then step th g e else none

abbrev TimelyRun (th : Setup) : Gateway → List Event → Gateway → Prop :=
  StepSystem.Run fun g e t => timelyStep th g e = some t

theorem timelyStep_eq {e : Event} (h : timelyStep th g e = some t) :
    step th g e = some t ∧ e.timely g = true := by
  unfold timelyStep at h
  split_ifs at h with htimely
  exact ⟨h,htimely⟩

theorem step_clock {e : Event} (hstep : step th g e = some t) : g.clock ≤ t.clock := by
  unfold step at hstep
  split_ifs at hstep
  · exact Option.some.inj hstep ▸ Nat.le_refl _
  · cases e with
    | transmitter i => exact turn_clock (Gateway.transmitterStep_turn hstep)
    | sensor data06 =>
      obtain rfl := Option.some.inj hstep
      unfold Gateway.sensorStep
      split <;> exact Nat.le_refl _
    | montior => exact Option.some.inj hstep ▸ Nat.le_refl _
    | setEnable id => exact Option.some.inj hstep ▸ Nat.le_refl _

theorem step_rested {e : Event} (hm : ∃ x, Represents true g.sys.manager x)
    (h : g.sys.manager.Breakers (Rested g.clock)) (htimely : e.timely g = true)
    (hstep : step th g e = some t) : t.sys.manager.Breakers (Rested t.clock) := by
  have hclock := step_clock hstep
  have hsame : g.sys.manager.Breakers (Rested t.clock) := fun n hn c hc => (h n hn c hc).mono hclock
  rcases step_passes hstep with ⟨-,rfl⟩ | ⟨-,hpasses⟩
  · exact h
  cases hpasses with
  | ordinary ho => exact ho.manager ▸ hsame
  | @reinit i a r ha hr =>
    obtain ⟨x,hx⟩ := hm
    have ht₁ : g.clock ≤ a.t₁.toNat := by
      simp only [Event.timely,ha,Bool.and_eq_true,decide_eq_true_eq] at htimely
      exact htimely.1
    rw [(afterReinit_pc a r g).2.1]
    refine endOfFile_rested hx h ht₁ hclock (fun hfailed => ?_) hr
    rw [afterReinit_clock,hfailed]
    simp only [Bool.false_eq_true,if_false]
    omega
  | other _ hm' => exact hm' ▸ hsame
  | enabled hm' => exact hm' ▸ setEnable_breakers hsame _

theorem initOne_breakers {p : CircuitBreaker → Prop} (hp : p .new) (o : Outcome) (st : Strategy)
    {m m' : CommunicaManage ReinitFn} {w w' : World} (h : m.Breakers p)
    (hinit : initOne o st m w = some (m',w')) : m'.Breakers p := by
  unfold initOne at hinit
  dsimp only at hinit
  split_ifs at hinit
  · exact (Prod.mk.inj (Option.some.inj hinit)).1 ▸ h
  · obtain ⟨m₁,hm₁,hpair⟩ := Option.map_eq_some_iff.mp hinit
    obtain ⟨rfl,-⟩ := Prod.mk.inj hpair
    have hadded : (m.addCommunicateNode st.deviceId (st.init o w.files).1).2.Breakers p :=
      insertNode_breakers h hp st.deviceId
    split at hm₁
    · obtain ⟨r,hr,rfl⟩ := Option.map_eq_some_iff.mp hm₁
      exact callbackRgist_breakers hadded hr
    · exact Option.some.inj hm₁ ▸ hadded
  · exact (Prod.mk.inj (Option.some.inj hinit)).1 ▸ h

theorem initAll_breakers {p : CircuitBreaker → Prop} (hp : p .new) (o : Strategy → Outcome)
    (ss : List Strategy) {m m' : CommunicaManage ReinitFn} {w w' : World} (h : m.Breakers p)
    (hinit : initAll o ss m w = some (m',w')) : m'.Breakers p := by
  induction ss generalizing m w with
  | nil => exact (Prod.mk.inj (Option.some.inj hinit)).1 ▸ h
  | cons st ss ih =>
    obtain ⟨r,hr,hrest⟩ := Option.bind_eq_some_iff.mp hinit
    exact ih (initOne_breakers hp (o st) st h hr) hrest

/-- The breaker never holds up `send_mess`: with the devices of `dev_init`, whenever an attempt is
made, the breaker of every device admits it. -/
theorem breakers_admit {o : Strategy → Outcome} {enabled : Strategy → Bool} {files : Handles.Table}
    {identity : DeviceIdentity} {n : Int} {m : CommunicaManage ReinitFn} {w : World}
    (hinit : devInit o enabled files identity = some (n,m,w)) (hg : g.sys.manager = m)
    {es : List Event} (hrun : TimelyRun th g es t) {now : UInt64} (hnow : t.clock ≤ now.toNat) :
    ∀ n ∈ t.sys.manager.nodes, ∀ c, n.com = some c → (c.breaker.allowRequest now).1 = true := by
  obtain ⟨n',m',w',hinit',x,hx,-⟩ := devInit_good o enabled files identity
  obtain ⟨rfl,rfl,rfl⟩ : n' = n ∧ m' = m ∧ w' = w := by simpa [hinit'] using hinit
  have hstart : g.sys.manager.Breakers (Rested g.clock) := by
    obtain ⟨r,hr,hpair⟩ := Option.map_eq_some_iff.mp hinit
    have hm : r.1 = m' := congrArg (fun r => r.2.1) hpair
    rw [hg,← hm]
    exact initAll_breakers rested_new o _ (fun n hn c hc => by
      rw [List.mem_singleton.mp hn] at hc
      cases hc) hr
  have hinv := hrun.invariant (I := fun g => (∃ x, Represents true g.sys.manager x) ∧
    g.sys.manager.Breakers (Rested g.clock)) (fun s e u hs hstep => by
      obtain ⟨hstep,htimely⟩ := timelyStep_eq hstep
      exact ⟨(step_reconnects hs.1 hstep).1,step_rested hs.1 hs.2 htimely hstep⟩)
      ⟨⟨x,hg ▸ hx⟩,hstart⟩
  exact fun n hn c hc => (hinv.2 n hn c hc).allows hnow

/-- The LAN device of `dev_init` is enabled, and five reconnects fail. -/
def fiveFailures : List Event :=
  .setEnable 4::[0,32000,64000,96000,128000].flatMap fun now =>
    [answered .timeout 0,answered (.endOfFile ⟨answers false,now,now⟩) 0]

/-- The breaker is open then, but not when the next attempt comes. -/
theorem opened_admits : ∃ n m w t,
    devInit (fun _ => answers true) (· = .lan) stdFiles {} = some (n,m,w) ∧
      fiveFailures.foldlM (timelyStep lanSetup) { lanGateway with sys := ⟨m,w⟩ } = some t ∧
      (t.sys.manager.nodes.map fun n => n.com.map (·.breaker.state)) = [some .opened] ∧
      ∀ n ∈ t.sys.manager.nodes, ∀ c, n.com = some c → (c.breaker.allowRequest 160000).1 = true := by
  obtain ⟨n,m,w,t,hinit,hrun,hopened,hclock⟩ : ∃ n m w t,
      devInit (fun _ => answers true) (· = .lan) stdFiles {} = some (n,m,w) ∧
        fiveFailures.foldlM (timelyStep lanSetup) { lanGateway with sys := ⟨m,w⟩ } = some t ∧
        (t.sys.manager.nodes.map fun n => n.com.map (·.breaker.state)) = [some .opened] ∧
        t.clock ≤ 160000 := by
    refine ⟨_,_,_,_,rfl,rfl,?_,?_⟩ <;> decide
  have hnow : t.clock ≤ (160000 : UInt64).toNat := hclock
  exact ⟨n,m,w,t,hinit,hrun,hopened,
    breakers_admit hinit rfl (StepSystem.Run.foldlM hrun) hnow⟩

end SendLoop
end Sap9001
