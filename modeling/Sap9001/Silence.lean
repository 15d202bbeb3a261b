import Sap9001.SendActions

/-! What a reconnect costs `send_mess`: every one that succeeds takes an enabled device away, and
when none is left the loop does nothing but back off. -/
namespace Sap9001

namespace CommunicaManage

/-- The devices that are enabled. -/
def enabledDevices {F : Type} (m : CommunicaManage F) : ℕ :=
  m.nodes.countP fun n => n.enabled && n.com.isSome

end CommunicaManage

namespace SendLoop

open CommunicaManage DeviceMap DeviceInit Reinit Reconnect SensorDriver

section Manager

variable {F W : Type} {m : CommunicaManage F} {x : DeviceMap F}

/-- The enabled entries of the map. -/
def enabledEntries (x : DeviceMap F) : ℕ := x.entries.countP fun e => e.2.enabled

theorem enabledDevices_represents {marked : Bool} (h : Represents marked m x) :
    m.enabledDevices = enabledEntries x := by
  cases h with
  | sentinel b hb => simp [enabledDevices,nodes,enabledEntries]
  | live h =>
    rw [enabledDevices,h,List.countP_map,enabledEntries]
    refine List.countP_congr fun e _ => ?_
    simp

theorem enabledEntries_withBreaker (x : DeviceMap F) (id : Int)
    (f : CircuitBreaker → CircuitBreaker) :
    enabledEntries (x.modify id (.withBreaker f)).2 = enabledEntries x := by
  simp only [enabledEntries,OrderedMap.modify,List.countP_map]
  refine List.countP_congr fun e _ => ?_
  simp only [Function.comp_apply]
  split_ifs <;> rfl

/-- A replaced device is not enabled. -/
theorem enabledEntries_reconnected {id : Int} {d : DeviceEntry F} (hd : x.lookup id = some d)
    (hen : d.enabled = true) (fd : Int) :
    enabledEntries (reconnected x id fd d) + 1 = enabledEntries x := by
  obtain ⟨before,rest,hentries,herase,-⟩ := OrderedMap.split_of_lookup hd
  have happend := (OrderedMap.append_of_not_mem (x.not_mem_keys_erase id) (replacement fd d)).2
  have hafter : (reconnected x id fd d).entries = before ++ rest ++ [(id,replacement fd d)] := by
    rw [reconnected,happend,herase]
  have hnew : (replacement fd d).enabled = false := rfl
  simp only [enabledEntries,hafter,hentries,List.countP_append,List.countP_cons,List.countP_nil,hen,
    hnew,if_true,Bool.false_eq_true,if_false]
  omega

theorem enabledEntries_setEnable (x : DeviceMap F) (id : Int) :
    enabledEntries (x.modify id fun d => { d with enabled := true }).2 ≤ enabledEntries x + 1 := by
  cases hd : x.lookup id with
  | none =>
    have habsent : x.contains id = false := by rw [contains_eq_isSome,hd]; rfl
    rw [OrderedMap.modify_absent habsent]
    omega
  | some d =>
    obtain ⟨before,rest,hentries,-,hmodify⟩ := OrderedMap.split_of_lookup hd
    simp only [enabledEntries,hmodify,hentries,List.countP_append,List.countP_cons]
    split_ifs <;> omega

/-- A registration enables one device at most. -/
theorem enabledDevices_setEnable (h : Represents true m x) (id : Int) :
    (m.setEnable id).2.enabledDevices ≤ m.enabledDevices + 1 := by
  by_cases hid : x.entries = [] → id ≠ -1
  · have hr := (setEnable_represents h id hid).2
    rw [enabledDevices_represents hr,enabledDevices_represents h]
    exact enabledEntries_setEnable x id
  · push Not at hid
    obtain ⟨hx,rfl⟩ := hid
    cases h with
    | sentinel b hb => exact Nat.zero_le _
    | live h => simp [nodes,hx] at h

/-- The device that `getSuccessId` names is enabled. -/
theorem lookup_getSuccessId {marked : Bool} (h : Represents marked m x) (hid : 0 ≤ m.getSuccessId)
    {d : DeviceEntry F} (hd : x.lookup m.getSuccessId = some d) : d.enabled = true := by
  have hfirst := getSuccessId_represents h
  cases hf : x.first (·.enabled) with
  | none =>
    rw [hf] at hfirst
    simp only [Option.map_none,Option.getD_none] at hfirst
    omega
  | some e =>
    rw [hf] at hfirst
    have hmem : (m.getSuccessId,e.2) ∈ x.entries := by
      have h : (e.1,e.2) ∈ x.entries := List.mem_of_find?_eq_some hf
      rwa [hfirst]
    rw [OrderedMap.lookup_eq_some.mpr hmem] at hd
    obtain rfl := Option.some.inj hd
    simpa using List.find?_some hf

theorem getSuccessFd_none {marked : Bool} (h : Represents marked m x)
    (hnone : m.enabledDevices = 0) : m.getSuccessFd = -1 := by
  have hall : ∀ e ∈ x.entries, ¬ e.2.enabled = true := by
    rw [enabledDevices_represents h] at hnone
    exact List.countP_eq_zero.mp hnone
  have hfirst : x.first (·.enabled) = none := List.find?_eq_none.mpr hall
  rw [getSuccessFd_represents h,hfirst]
  rfl

end Manager

/-- An attempt that succeeds costs one enabled device, any other one none. -/
theorem endOfFile_enabled {a : Attempt} {s : Sys} {r : Bool × Sys} {x : DeviceMap ReinitFn}
    (hx : Represents true s.manager x) (h : endOfFile a s = some r) :
    ∃ x', Represents true r.2.manager x' ∧
      r.1.toNat + r.2.manager.enabledDevices = s.manager.enabledDevices := by
  unfold endOfFile at h
  dsimp only at h
  split_ifs at h with hid
  · have hout := reinit_outcome (call a.outcome) a.t₁ a.t₂ s.manager.getSuccessId 0 s.world hx
      (by omega)
    generalize s.manager.reinit (call a.outcome) a.t₁ a.t₂ s.manager.getSuccessId 0 s.world = o
      at h hout
    have hsame {m' : CommunicaManage ReinitFn} {f : CircuitBreaker → CircuitBreaker}
        (hr : Represents true m' (x.modify s.manager.getSuccessId (.withBreaker f)).2) :
        m'.enabledDevices = s.manager.enabledDevices := by
      rw [enabledDevices_represents hr,enabledEntries_withBreaker,enabledDevices_represents hx]
    cases hout with
    | unknown hd =>
      obtain rfl := Option.some.inj h
      exact ⟨x,hx,Nat.zero_add _⟩
    | refused hd ha hr =>
      obtain rfl := Option.some.inj h
      exact ⟨_,hr,(Nat.zero_add _).trans (hsame hr)⟩
    | noCallback hd ha hc hr =>
      obtain rfl := Option.some.inj h
      exact ⟨_,hr,(Nat.zero_add _).trans (hsame hr)⟩
    | failed hd ha hc hfd hr =>
      obtain rfl := Option.some.inj h
      exact ⟨_,hr,(Nat.zero_add _).trans (hsame hr)⟩
    | replaced hd ha hc hfd hr =>
      obtain rfl := Option.some.inj h
      refine ⟨_,hr,?_⟩
      have hcount := enabledEntries_reconnected hd (lookup_getSuccessId hx hid hd)
      rw [enabledDevices_represents hr,enabledDevices_represents hx,← hcount]
      exact Nat.add_comm _ _
  · obtain rfl := Option.some.inj h
    exact ⟨x,hx,Nat.zero_add _⟩

variable {th : Setup} {g t u : Gateway}

/-- The successful reconnects. -/
def reconnects (actions : List Action) : ℕ :=
  actions.countP fun
    | .reinit ok => ok
    | _ => false

theorem reconnects_acts (h : Acts (fun a => reconnects [a] = 0) g t) :
    reconnects t.actions = reconnects g.actions := by
  obtain ⟨new,hnew,hall⟩ := h
  have hnone : reconnects new = 0 := by
    refine List.countP_eq_zero.mpr fun a ha => ?_
    exact List.countP_eq_zero.mp (hall a ha) a (List.mem_singleton_self a)
  have happend : reconnects (g.actions ++ new) = reconnects g.actions + reconnects new :=
    List.countP_append
  rw [hnew,happend,hnone,Nat.add_zero]

theorem reconnects_afterReinit (a : Attempt) (r : Bool × Sys) (g : Gateway) :
    reconnects (g.afterReinit a r).actions = reconnects g.actions + r.1.toNat := by
  unfold Gateway.afterReinit
  obtain ⟨ok,sys⟩ := r
  cases ok <;> simp [Gateway.act,reconnects]

/-- One step: the reconnects and the enabled devices keep their sum, but for a registration. -/
theorem step_reconnects {e : Event} (hm : ∃ x, Represents true g.sys.manager x)
    (hstep : step th g e = some t) : (∃ x, Represents true t.sys.manager x) ∧
      reconnects t.actions + t.sys.manager.enabledDevices ≤
        reconnects g.actions + g.sys.manager.enabledDevices + e.enables.toNat ∧
      (e.enables = false → reconnects t.actions + t.sys.manager.enabledDevices =
        reconnects g.actions + g.sys.manager.enabledDevices) := by
  rcases step_passes hstep with ⟨-,rfl⟩ | ⟨-,hpasses⟩
  · exact ⟨hm,by omega,fun _ => rfl⟩
  obtain ⟨x,hx⟩ := hm
  cases hpasses with
  | ordinary ho =>
    have hsame : reconnects t.actions = reconnects g.actions := by
      refine reconnects_acts (ho.acts.imp fun a ha => ?_)
      cases ha <;> rfl
    rw [hsame,ho.manager]
    exact ⟨⟨x,hx⟩,by omega,fun _ => rfl⟩
  | @reinit i a r ha h =>
    obtain ⟨x',hx',hsum⟩ := endOfFile_enabled hx h
    rw [reconnects_afterReinit,(afterReinit_pc a r g).2.1]
    exact ⟨⟨x',hx'⟩,by omega,fun _ => by omega⟩
  | other he hm' _ ha =>
    rw [ha,hm']
    exact ⟨⟨x,hx⟩,by omega,fun _ => rfl⟩
  | @enabled id _ hm' _ ha =>
    have hstep' : Reinit.Step g.sys.manager (.call (.setEnable id))
        (g.sys.manager.setEnable id).2 := .call (b := (g.sys.manager.setEnable id).1) rfl
    have hcount := enabledDevices_setEnable hx id
    rw [ha,hm']
    refine ⟨step_represents hx hstep',?_,by simp [Event.enables]⟩
    simp only [Event.enables,Bool.toNat_true]
    omega

/-- The sum over a whole run. -/
theorem run_reconnects {es : List Event} (hm : ∃ x, Represents true g.sys.manager x)
    (hrun : Run th g es t) : reconnects t.actions + t.sys.manager.enabledDevices ≤
      reconnects g.actions + g.sys.manager.enabledDevices + es.countP (·.enables) ∧
    ((∀ e ∈ es, e.enables = false) → reconnects t.actions + t.sys.manager.enabledDevices =
      reconnects g.actions + g.sys.manager.enabledDevices) := by
  induction hrun with
  | refl => exact ⟨Nat.le_add_right _ _,fun _ => rfl⟩
  | @cons g e u es t hstep hrest ih =>
    obtain ⟨hm',hle,heq⟩ := step_reconnects hm hstep
    obtain ⟨hle',heq'⟩ := ih hm'
    refine ⟨?_,fun hes => ?_⟩
    · rw [List.countP_cons]
      cases he : e.enables <;> simp [he] at hle ⊢ <;> omega
    · rw [heq' fun e he => hes e (by simp [he]),heq (hes e (by simp))]

theorem starts_reconnects (hg : Starts th g) : reconnects g.actions = 0 := by
  rw [hg.actions]
  rfl

/-- Every successful reconnect costs an enabled device: without registrations the reconnects and
the devices still enabled are together as many as were enabled at the start, and a registration
adds one at most. -/
theorem reconnects_cost_devices {es : List Event} (hg : Starts th g)
    (hm : Reinit.Reachable g.sys.manager) (hrun : Run th g es t) :
    reconnects t.actions + t.sys.manager.enabledDevices ≤
      g.sys.manager.enabledDevices + es.countP (·.enables) ∧
    ((∀ e ∈ es, e.enables = false) → reconnects t.actions + t.sys.manager.enabledDevices =
      g.sys.manager.enabledDevices) := by
  have hsum := run_reconnects (reachable_represents hm) hrun
  rwa [starts_reconnects hg,Nat.zero_add] at hsum

/-- The delays of `send_mess` are from one second to thirty. -/
theorem nextDelay_bounds {b : ExponentialBackoff} (hbase : b.baseMs = 1000) (hmax : b.maxMs = 30000) :
    1000 ≤ b.nextDelay.1 ∧ b.nextDelay.1 ≤ 30000 := by
  have hbase' : (0 : Int) ≤ 1000 := by decide
  obtain ⟨-,hproduct⟩ := ExponentialBackoff.product_fits hbase' (by decide)
    (Nat.min_le_right b.retryCount 20)
  have hle := ExponentialBackoff.product_le hbase' (Nat.zero_le (min b.retryCount 20))
  rw [pow_zero] at hle
  have hdelay : b.nextDelay.1 = min (1000*2^(min b.retryCount 20)) 30000 := by
    simp only [ExponentialBackoff.nextDelay,hbase,hmax,hproduct]
    apply Int.bmod_eq_of_le_mul_two <;> omega
  omega

/-- The rounds that the sensor thread can still finish without a request. -/
def toCome {P : Type} (s : Pipeline P) : ℕ :=
  inProgress s.sensor + s.transmitter.shipDataReady.toNat

/-- No device is enabled, and the loop is at its top. -/
structure Mute (g : Gateway) : Prop where
  pc : g.pc = .top
  noFd : g.sys.manager.getSuccessFd < 0
  waiting : g.pipeline.transmitter.pc = .waiting
  base : g.fdBackoff.baseMs = 1000
  max : g.fdBackoff.maxMs = 30000

/-- Between the two states `send_mess` only slept, from one second to thirty each time, the sensor
thread pushed the packets of the rounds that were to come, and nobody but that thread and the
monitor was at the watchdog. -/
structure OnlySleeps (th : Setup) (g t : Gateway) : Prop where
  acts : Acts (fun a => ∃ usec, a = .usleep usec ∧ 1000000 ≤ usec ∧ usec ≤ 30000000) g t
  manager : t.sys.manager = g.sys.manager
  offlineCache : t.pipeline.transmitter.offlineCache = g.pipeline.transmitter.offlineCache
  pushed : ∃ packets, t.pipeline.transmitter.transmit.queue =
    g.pipeline.transmitter.transmit.queue ++ packets ∧
      packets.length + toCome t.pipeline ≤ toCome g.pipeline
  ops : ∃ ops, t.ops = g.ops ++ ops ∧
    ∀ op ∈ ops, op = .montior (some true) ∨ op = .keepAlive th.shipWdtId

theorem Acts.trans {p : Action → Prop} (h : Acts p g t) (h' : Acts p t u) : Acts p g u := by
  obtain ⟨new,hnew,hall⟩ := h
  obtain ⟨new',hnew',hall'⟩ := h'
  refine ⟨new ++ new',by rw [hnew',hnew,List.append_assoc],fun a ha => ?_⟩
  exact (List.mem_append.mp ha).elim (hall a) (hall' a)

theorem OnlySleeps.refl (g : Gateway) : OnlySleeps th g g :=
  ⟨.none rfl,rfl,rfl,⟨[],by simp⟩,[],by simp⟩

theorem OnlySleeps.trans (h : OnlySleeps th g t) (h' : OnlySleeps th t u) : OnlySleeps th g u := by
  obtain ⟨packets,hq,hle⟩ := h.pushed
  obtain ⟨packets',hq',hle'⟩ := h'.pushed
  obtain ⟨ops,hops,hall⟩ := h.ops
  obtain ⟨ops',hops',hall'⟩ := h'.ops
  refine ⟨h.acts.trans h'.acts,h'.manager.trans h.manager,h'.offlineCache.trans h.offlineCache,
    ⟨packets ++ packets',by rw [hq',hq,List.append_assoc],?_⟩,
    ops ++ ops',by rw [hops',hops,List.append_assoc],fun op hop => ?_⟩
  · rw [List.length_append]
    omega
  · exact (List.mem_append.mp hop).elim (hall op) (hall' op)

/-- A round that ends becomes a packet, and the flag becomes a round. -/
theorem sensorStep_pushes {P : Type} (mac : Str) (n : ℕ) (data06 : P) (s : Pipeline P) :
    (SensorDriver.sensorStep mac n data06 s).transmitter.offlineCache = s.transmitter.offlineCache ∧
    (SensorDriver.sensorStep mac n data06 s).transmitter.pc = s.transmitter.pc ∧
    ∃ packets, (SensorDriver.sensorStep mac n data06 s).transmitter.transmit.queue =
      s.transmitter.transmit.queue ++ packets ∧
        packets.length + toCome (SensorDriver.sensorStep mac n data06 s) ≤ toCome s := by
  unfold SensorDriver.sensorStep
  split <;> rename_i hpc
  · split_ifs
    · refine ⟨rfl,rfl,[data06],rfl,?_⟩
      simp [toCome,hpc,inProgress,MessageTransmitter.next]
    · exact ⟨rfl,rfl,[],by simp,by simp [toCome,hpc,inProgress]⟩
  · split_ifs with hready
    · exact ⟨rfl,rfl,[],by simp,by simp [toCome,hpc,inProgress,hready]⟩
    · exact ⟨rfl,rfl,[],by simp,by simp⟩
  · exact ⟨rfl,rfl,[],by simp,by simp⟩

/-- A step of the sensor thread feeds its slot or none. -/
theorem sensorStep_feeds (th : Setup) (data06 : Str) (g : Gateway) :
    ∃ ops, (g.sensorStep th data06).ops = g.ops ++ ops ∧
      ∀ op ∈ ops, op = .montior (some true) ∨ op = .keepAlive th.shipWdtId := by
  unfold Gateway.sensorStep
  split
  · exact ⟨[.keepAlive th.shipWdtId],rfl,by simp⟩
  · exact ⟨[],by simp,by simp⟩

theorem step_mute {e : Event} (he : e.enables = false) (h : Mute g) (hstep : step th g e = some t) :
    Mute t ∧ OnlySleeps th g t := by
  unfold step at hstep
  split_ifs at hstep
  · obtain rfl := Option.some.inj hstep
    exact ⟨h,.refl g⟩
  · cases e with
    | transmitter i =>
      obtain ⟨hlo,hhi⟩ := nextDelay_bounds h.base h.max
      have hchoose : t = g.chooseFd := by
        simp only [Gateway.transmitterStep,h.pc,Option.some.injEq] at hstep
        exact hstep.symm
      subst hchoose
      unfold Gateway.chooseFd
      rw [if_pos h.noFd]
      refine ⟨⟨h.pc,h.noFd,h.waiting,h.base,h.max⟩,?_,rfl,rfl,⟨[],by simp [Gateway.act],
        by simp [Gateway.act]⟩,[],by simp [Gateway.act],by simp⟩
      exact (Acts.none rfl).act ⟨_,rfl,by omega,by omega⟩
    | sensor data06 =>
      obtain rfl := Option.some.inj hstep
      have hpipeline : (g.sensorStep th data06).pipeline =
          SensorDriver.sensorStep g.mac th.sensorCount data06 g.pipeline := by
        unfold Gateway.sensorStep
        split <;> rfl
      obtain ⟨hs,hb,ha,-,hpc⟩ := sensorStep_ordinary th data06 g
      obtain ⟨hcache,hwaiting,hpushed⟩ := sensorStep_pushes g.mac th.sensorCount data06 g.pipeline
      rw [← hpipeline] at hcache hwaiting hpushed
      exact ⟨⟨hpc.trans h.pc,hs ▸ h.noFd,hwaiting.trans h.waiting,hb ▸ h.base,hb ▸ h.max⟩,
        .none ha,congrArg Sys.manager hs,hcache,hpushed,sensorStep_feeds th data06 g⟩
    | montior =>
      obtain rfl := Option.some.inj hstep
      exact ⟨⟨h.pc,h.noFd,h.waiting,h.base,h.max⟩,.none rfl,rfl,rfl,⟨[],by simp [Gateway.montior,
        Gateway.perform],by simp [Gateway.montior,Gateway.perform]⟩,[.montior (some true)],rfl,by simp⟩
    | setEnable id => cases he

theorem run_mute {es : List Event} (hes : ∀ e ∈ es, e.enables = false) (h : Mute g)
    (hrun : Run th g es t) : Mute t ∧ OnlySleeps th g t := by
  induction hrun with
  | refl g => exact ⟨h,.refl g⟩
  | cons hstep hrest ih =>
    obtain ⟨hmute,hsleeps⟩ := step_mute (hes _ (by simp)) h hstep
    obtain ⟨hmute',hsleeps'⟩ := ih (fun e he => hes e (by simp [he])) hmute
    exact ⟨hmute',hsleeps.trans hsleeps'⟩

/-- The bounds of the backoff stay. -/
theorem run_bounds {es : List Event} (hrun : Run th g es t) :
    t.fdBackoff.baseMs = g.fdBackoff.baseMs ∧ t.fdBackoff.maxMs = g.fdBackoff.maxMs := by
  refine hrun.invariant (I := fun t => t.fdBackoff.baseMs = g.fdBackoff.baseMs ∧
    t.fdBackoff.maxMs = g.fdBackoff.maxMs) ?_ ⟨rfl,rfl⟩
  rintro s e u ⟨hbase,hmax⟩ hstep
  rcases step_passes hstep with ⟨-,rfl⟩ | ⟨-,hpasses⟩
  · exact ⟨hbase,hmax⟩
  cases hpasses with
  | ordinary ho => exact ⟨ho.bounds.1.trans hbase,ho.bounds.2.trans hmax⟩
  | @reinit i a r ha h =>
    rw [(afterReinit_pc a r s).2.2.1]
    exact ⟨hbase,hmax⟩
  | other _ _ hb => exact ⟨hb ▸ hbase,hb ▸ hmax⟩
  | enabled _ hb => exact ⟨hb ▸ hbase,hb ▸ hmax⟩

/-- When no device is left, the loop is at its top. -/
theorem mute_of_none {es : List Event} (hg : Starts th g) (hm : Reinit.Reachable g.sys.manager)
    (hes : ∀ e ∈ es, e.enables = false) (hrun : Run th g es t)
    (hnone : t.sys.manager.enabledDevices = 0) : Mute t := by
  obtain ⟨hbase,hmax⟩ := run_bounds hrun
  have hrep : ∃ x, Represents true t.sys.manager x :=
    hrun.invariant (I := fun t => ∃ x, Represents true t.sys.manager x)
      (fun _ _ _ hs hstep => (step_reconnects hs hstep).1) (reachable_represents hm)
  obtain ⟨x,hx⟩ := hrep
  have hfd := getSuccessFd_none hx hnone
  have hhold := run_holdsFd hes (holdsFd_top hg.pc) hrun
  have htop : t.pc = .top := by
    cases hpc : t.pc with
    | top => rfl
    | selecting fd =>
      obtain ⟨heq,hpos⟩ := hhold fd (.inl hpc)
      omega
    | serving fd =>
      obtain ⟨heq,hpos⟩ := hhold fd (.inr hpc)
      omega
  have hwaiting := (run_inv hg hrun).serving.resolve_right (by simp [htop])
  rw [hg.backoff] at hbase hmax
  exact ⟨htop,by omega,hwaiting,hbase,hmax⟩

/-- No device is left after as many reconnects as devices were enabled. -/
theorem mute_of_reconnects {es : List Event} (hg : Starts th g)
    (hm : Reinit.Reachable g.sys.manager) (hes : ∀ e ∈ es, e.enables = false)
    (hrun : Run th g es t) (hall : g.sys.manager.enabledDevices ≤ reconnects t.actions) : Mute t := by
  have hsum := (run_reconnects (reachable_represents hm) hrun).2 hes
  have hzero := starts_reconnects hg
  exact mute_of_none hg hm hes hrun (by omega)

/-- Once as many reconnects have succeeded as devices were enabled, in a run without a further
registration, `send_mess` only sleeps: it writes nothing and takes no packet. All that is done to
the watchdog are passes of the monitor and feeds of the sensor thread's slot. That thread, where
its `pthread_mutex_lock` succeeds, pushes two packets more at most. -/
theorem silent_after_reconnects {es es' : List Event} (hg : Starts th g)
    (hm : Reinit.Reachable g.sys.manager) (hes : ∀ e ∈ es ++ es', e.enables = false)
    (hrun : Run th g es t) (hall : g.sys.manager.enabledDevices ≤ reconnects t.actions)
    (hrun' : Run th t es' u) :
    Acts (fun a => ∃ usec, a = .usleep usec ∧ 1000000 ≤ usec ∧ usec ≤ 30000000) t u ∧
    u.sys.manager = t.sys.manager ∧
    u.pipeline.transmitter.offlineCache = t.pipeline.transmitter.offlineCache ∧
    (∃ packets, packets.length ≤ 2 ∧ u.pipeline.transmitter.transmit.queue =
      t.pipeline.transmitter.transmit.queue ++ packets) ∧
    ∃ ops, u.ops = t.ops ++ ops ∧
      ∀ op ∈ ops, op = .montior (some true) ∨ op = .keepAlive th.shipWdtId := by
  have hbefore : ∀ e ∈ es, e.enables = false := fun e he => hes e (by simp [he])
  have hmute := mute_of_reconnects hg hm hbefore hrun hall
  obtain ⟨-,hsleeps⟩ := run_mute (fun e he => hes e (by simp [he])) hmute hrun'
  obtain ⟨packets,hq,hle⟩ := hsleeps.pushed
  have hround := inProgress_le t.pipeline.sensor
  have hready := Bool.toNat_le t.pipeline.transmitter.shipDataReady
  refine ⟨hsleeps.acts,hsleeps.manager,hsleeps.offlineCache,⟨packets,?_,hq⟩,hsleeps.ops⟩
  simp only [toCome] at hle
  omega

/-- The end of the connection, and the reconnect that `dev_init`'s callback makes. -/
def reconnect : List Event := List.replicate 2 (answered (.endOfFile ⟨answers true,0,0⟩) 0)

theorem lanGateway_reachable : Reinit.Reachable lanGateway.sys.manager := by
  refine ⟨.new,[.call (.add 4 6),.call (.callbackRgist 4 0 (some .lan)),.call (.setEnable 4)],
    rfl,?_⟩
  exact .cons (.call (b := true) rfl) (.cons (.call (b := true) rfl)
    (.single (.call (b := true) rfl)))

/-- The one device is used up. -/
theorem reconnect_consumes :
    reconnects (lanAfter reconnect lanGateway).actions = 1 ∧
      (lanAfter reconnect lanGateway).sys.manager.enabledDevices = 0 := by
  have hes : ∀ e ∈ reconnect, e.enables = false := by
    intro e he
    rw [List.eq_of_mem_replicate he]
    rfl
  have hrun : Run lanSetup lanGateway reconnect (lanAfter reconnect lanGateway) :=
    run_stateAfter (by decide)
  have hsum := (reconnects_cost_devices lanGateway_starts lanGateway_reachable hrun).2 hes
  have hone : reconnects (lanAfter reconnect lanGateway).actions = 1 := by decide
  have hdevices : lanGateway.sys.manager.enabledDevices = 1 := by decide
  exact ⟨hone,by omega⟩

/-- The LAN device reconnects; after that a 03 request is not even read. -/
theorem reconnect_silences :
    let t := lanAfter reconnect lanGateway
    let u := lanAfter oneRequest t
    reconnects t.actions = 1 ∧
      Acts (fun a => ∃ usec, a = .usleep usec ∧ 1000000 ≤ usec ∧ usec ≤ 30000000) t u := by
  have hes : ∀ e ∈ reconnect ++ oneRequest, e.enables = false := by
    intro e he
    have hall : (reconnect ++ oneRequest).all (fun e => !e.enables) = true := by decide
    simpa using List.all_eq_true.mp hall e he
  refine ⟨by decide,?_⟩
  exact (silent_after_reconnects lanGateway_starts lanGateway_reachable hes
    (run_stateAfter (by decide)) (by decide) (run_stateAfter (by decide))).1

end SendLoop
end Sap9001
