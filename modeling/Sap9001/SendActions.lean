import Sap9001.SendLoop
import Mathlib.Data.List.Chain

/-! What `send_mess` does that others see: the descriptors that it writes to, and the times of its
heartbeats. -/
namespace Sap9001
namespace SendLoop

open ReceiveBranch Reconnect

/-- The descriptor that is written to. -/
def Action.target : Action → Option Int
  | .write fd _ _ | .heartbeat fd _ _ _ => some fd
  | _ => none

/-- Whether a registration enables a device. -/
def Event.enables : Event → Bool
  | .setEnable _ => true
  | _ => false

variable {th : Setup} {g t : Gateway}

/-- What is done between two states has the property. -/
def Acts (p : Action → Prop) (g t : Gateway) : Prop :=
  ∃ new, t.actions = g.actions ++ new ∧ ∀ a ∈ new, p a

section Acts

variable {p : Action → Prop}

theorem Acts.none (h : t.actions = g.actions) : Acts p g t := ⟨[],by simp [h],by simp⟩

theorem Acts.act (h : Acts p g t) {a : Action} (ha : p a) : Acts p g (t.act a) := by
  obtain ⟨new,hnew,hall⟩ := h
  refine ⟨new ++ [a],?_,?_⟩
  · rw [← List.append_assoc,← hnew]
    rfl
  · intro b hb
    rcases List.mem_append.mp hb with hb | hb
    · exact hall b hb
    · exact List.mem_singleton.mp hb ▸ ha

theorem Acts.same {u : Gateway} (h : Acts p g t) (hu : u.actions = t.actions) : Acts p g u := by
  obtain ⟨new,hnew,hall⟩ := h
  exact ⟨new,hu.trans hnew,hall⟩

theorem Acts.imp {q : Action → Prop} (h : Acts p g t) (hpq : ∀ a, p a → q a) : Acts q g t := by
  obtain ⟨new,hnew,hall⟩ := h
  exact ⟨new,hnew,fun a ha => hpq a (hall a ha)⟩

theorem feedIfAny_actions (wWdtId : Int) (g : Gateway) :
    (g.feedIfAny wWdtId).actions = g.actions := by
  unfold Gateway.feedIfAny
  split_ifs <;> rfl

variable (th) in
theorem onServe_acts (fd : Int) (i : Input) (g : Gateway) (hsleep : ∀ n, p (.sleep n))
    (hwrite : ∀ packet, p (.write fd packet i.written)) : Acts p g (g.onServe th fd i) := by
  unfold Gateway.onServe
  split
  · rename_i packet _ _ _
    have hwrote : Acts p g (g.act (.write fd packet i.written)) := (Acts.none rfl).act (hwrite packet)
    dsimp only
    split_ifs
    · refine Acts.same (hwrote.act (hsleep 2)) ?_
      rw [feedIfAny_actions,feedIfAny_actions]
      rfl
    · refine hwrote.same ?_
      rw [feedIfAny_actions,feedIfAny_actions]
  · exact (Acts.none rfl).act (hwrite _)
  · exact .none rfl

theorem afterReinit_acts (a : Attempt) (r : Bool × Sys) (hreinit : p (.reinit r.1))
    (hsleep : ∀ n, p (.sleep n)) : Acts p g (g.afterReinit a r) := by
  have hfirst : Acts p g _ := (Acts.none rfl).act hreinit
  unfold Gateway.afterReinit
  dsimp only
  split_ifs
  · exact hfirst.act (hsleep 2)
  · exact (hfirst.act (hsleep 30)).act (hsleep 2)

end Acts

/-- The readings of the clock at the heartbeats: the one that was compared and the one that was
kept. -/
def beats (actions : List Action) : List (Int × Int) :=
  actions.filterMap fun
    | .heartbeat _ now₁ now₂ _ => some (now₁,now₂)
    | _ => none

theorem beats_act (a : Action) (g : Gateway) :
    beats (g.act a).actions = beats g.actions ++ beats [a] := List.filterMap_append

theorem beats_acts (h : Acts (fun a => beats [a] = []) g t) : beats t.actions = beats g.actions := by
  obtain ⟨new,hnew,hall⟩ := h
  have hnone : beats new = [] := by
    refine List.filterMap_eq_nil_iff.mpr fun a ha => ?_
    exact List.filterMap_eq_nil_iff.mp (hall a ha) a (List.mem_singleton_self a)
  have happend : beats (g.actions ++ new) = beats g.actions ++ beats new := List.filterMap_append
  rw [hnew,happend,hnone,List.append_nil]

/-- What a step does when no callback is called: it backs off, sleeps, sets the clock, sends a
heartbeat, or writes a packet. -/
inductive Permitted (i : Input) (g : Gateway) : Action → Prop
  | usleep (hpc : g.pc = .top) : Permitted i g (.usleep (g.fdBackoff.nextDelay.1*1000))
  | sleep (n : ℕ) : Permitted i g (.sleep n)
  | settimeofday (tv : TimeVal) : Permitted i g (.settimeofday tv)
  | heartbeat {fd : Int} (hpc : g.pc = .selecting fd) (packet : Str) :
    Permitted i g (.heartbeat fd i.now₁ i.now₂ packet)
  | write {fd : Int} (hpc : g.pc = .serving fd) (packet : Str) :
    Permitted i g (.write fd packet i.written)

/-- Where a step of the loop leads: to its top, to `select` on the descriptor that was chosen, or
on with a request. -/
inductive Leads (g : Gateway) : Pc → Prop
  | top : Leads g .top
  | selecting (h : 0 ≤ g.sys.manager.getSuccessFd) : Leads g (.selecting g.sys.manager.getSuccessFd)
  | serving {fd : Int} (h : g.pc = .selecting fd ∨ g.pc = .serving fd) : Leads g (.serving fd)

/-- A step in which no callback is called. -/
structure Ordinary (i : Input) (g t : Gateway) : Prop where
  manager : t.sys.manager = g.sys.manager
  bounds : t.fdBackoff.baseMs = g.fdBackoff.baseMs ∧ t.fdBackoff.maxMs = g.fdBackoff.maxMs
  acts : Acts (Permitted i g) g t
  beats : (beats t.actions = beats g.actions ∧ t.lastHeartbeat = g.lastHeartbeat) ∨
    beats t.actions = beats g.actions ++ [(i.now₁,i.now₂)] ∧ g.lastHeartbeat + 60 ≤ i.now₁ ∧
      t.lastHeartbeat = i.now₂
  leads : Leads g t.pc

theorem Ordinary.quiet {i : Input} (hm : t.sys.manager = g.sys.manager)
    (hb : t.fdBackoff = g.fdBackoff) (hacts : t.actions = g.actions)
    (hlast : t.lastHeartbeat = g.lastHeartbeat) (hleads : Leads g t.pc) : Ordinary i g t :=
  ⟨hm,hb ▸ ⟨rfl,rfl⟩,.none hacts,.inl ⟨by rw [hacts],hlast⟩,hleads⟩

/-- A step of `send_mess` calls a callback at the end of the connection, or it is ordinary. -/
theorem turn_ordinary {i : Input} (hturn : g.Turn th i t) : Ordinary i g t ∨
    ∃ a r, i.answer = .endOfFile a ∧ endOfFile a g.sys = some r ∧ t = g.afterReinit a r := by
  cases hturn with
  | choose hpc =>
    left
    unfold Gateway.chooseFd
    dsimp only
    split_ifs with hneg
    · exact ⟨rfl,⟨rfl,rfl⟩,(Acts.none rfl).act (.usleep hpc),
        .inl ⟨beats_acts ((Acts.none rfl).act rfl),rfl⟩,by rw [Gateway.act,hpc]; exact .top⟩
    · exact ⟨rfl,⟨rfl,rfl⟩,.none rfl,.inl ⟨rfl,rfl⟩,.selecting (not_lt.mp hneg)⟩
  | changed => exact .inl (.quiet rfl rfl rfl rfl .top)
  | nothing => exact .inl (.quiet rfl rfl rfl rfl .top)
  | selectFailed =>
    exact .inl ⟨rfl,⟨rfl,rfl⟩,(Acts.none rfl).act (.sleep 1),
      .inl ⟨beats_acts ((Acts.none rfl).act rfl),rfl⟩,.top⟩
  | timeout hpc =>
    left
    unfold Gateway.onTimeout
    dsimp only
    split_ifs with hdue
    · exact ⟨rfl,⟨rfl,rfl⟩,(Acts.none rfl).act (.heartbeat hpc _),
        .inr ⟨beats_act _ _,Int.add_le_of_le_sub_left hdue,rfl⟩,.top⟩
    · exact .quiet rfl rfl rfl rfl .top
  | endOfFile hpc hfd ha hend =>
    unfold Gateway.onEndOfFile at hend
    split_ifs at hend
    · obtain ⟨r,hr,rfl⟩ := Option.map_eq_some_iff.mp hend
      exact .inr ⟨_,r,ha,hr,rfl⟩
    · obtain rfl := Option.some.inj hend
      exact .inl ⟨rfl,⟨rfl,rfl⟩,(Acts.none rfl).act (.sleep 2),
        .inl ⟨beats_acts ((Acts.none rfl).act rfl),rfl⟩,.top⟩
  | message hpc =>
    left
    unfold Gateway.onMessage
    split
    · exact .quiet rfl rfl rfl rfl .top
    · exact .quiet rfl rfl rfl rfl (.serving (.inl hpc))
    · dsimp only
      split
      · exact ⟨rfl,⟨rfl,rfl⟩,(Acts.none rfl).act (.settimeofday _),
          .inl ⟨beats_acts ((Acts.none rfl).act rfl),rfl⟩,.top⟩
      · exact .quiet rfl rfl rfl rfl .top
  | @serve fd hpc =>
    left
    have hframe := Gateway.frame_onServe th fd i g
    have hacts := onServe_acts (p := Permitted i g) th fd i g .sleep (.write hpc)
    have hbeats := beats_acts (onServe_acts (p := fun a => beats [a] = []) th fd i g
      (fun _ => rfl) (fun _ => rfl))
    have hserving : Leads g (g.onServe th fd i).pc := by
      rw [hframe.pc,hpc]
      exact .serving (.inr hpc)
    have hserved : Ordinary i g ((g.onServe th fd i).request th [] i) :=
      ⟨congrArg Sys.manager hframe.sys,hframe.fdBackoff ▸ ⟨rfl,rfl⟩,hacts.same rfl,
        .inl ⟨hbeats,hframe.lastHeartbeat⟩,hserving⟩
    unfold Gateway.serve
    dsimp only
    split
    · exact ⟨hserved.manager,hserved.bounds,hserved.acts.same rfl,hserved.beats,.top⟩
    · exact hserved

variable (th) in
/-- The sensor thread and the monitor do nothing that is recorded. -/
theorem sensorStep_ordinary (data06 : Str) (g : Gateway) :
    (g.sensorStep th data06).sys = g.sys ∧ (g.sensorStep th data06).fdBackoff = g.fdBackoff ∧
      (g.sensorStep th data06).actions = g.actions ∧
      (g.sensorStep th data06).lastHeartbeat = g.lastHeartbeat ∧
      (g.sensorStep th data06).pc = g.pc := by
  unfold Gateway.sensorStep
  split <;> exact ⟨rfl,rfl,rfl,rfl,rfl⟩

/-- The ways in which any step goes, as far as the connection is concerned. -/
inductive Passes (th : Setup) (g : Gateway) : Event → Gateway → Prop
  | ordinary {i t} (h : Ordinary i g t) : Passes th g (.transmitter i) t
  | reinit {i a r} (ha : i.answer = .endOfFile a) (h : endOfFile a g.sys = some r) :
    Passes th g (.transmitter i) (g.afterReinit a r)
  | other {e t} (he : e.enables = false) (hm : t.sys.manager = g.sys.manager)
    (hb : t.fdBackoff = g.fdBackoff) (ha : t.actions = g.actions)
    (hl : t.lastHeartbeat = g.lastHeartbeat) (hpc : t.pc = g.pc) : Passes th g e t
  | enabled {id t} (hm : t.sys.manager = (g.sys.manager.setEnable id).2)
    (hb : t.fdBackoff = g.fdBackoff) (ha : t.actions = g.actions)
    (hl : t.lastHeartbeat = g.lastHeartbeat) (hpc : t.pc = g.pc) : Passes th g (.setEnable id) t

theorem step_passes {e : Event} (hstep : step th g e = some t) :
    (g.exited = true ∧ t = g) ∨ g.exited = false ∧ Passes th g e t := by
  unfold step at hstep
  split_ifs at hstep with hexited
  · exact .inl ⟨hexited,(Option.some.inj hstep).symm⟩
  · refine .inr ⟨by simpa using hexited,?_⟩
    cases e with
    | transmitter i =>
      rcases turn_ordinary (Gateway.transmitterStep_turn hstep) with h | ⟨a,r,ha,h,rfl⟩
      · exact .ordinary h
      · exact .reinit ha h
    | sensor data06 =>
      obtain rfl := Option.some.inj hstep
      obtain ⟨hs,hb,ha,hl,hpc⟩ := sensorStep_ordinary th data06 g
      exact .other rfl (congrArg Sys.manager hs) hb ha hl hpc
    | montior =>
      obtain rfl := Option.some.inj hstep
      exact .other rfl rfl rfl rfl rfl rfl
    | setEnable id =>
      obtain rfl := Option.some.inj hstep
      exact .enabled rfl rfl rfl rfl rfl

/-- The descriptor in hand is the one of the first enabled device. -/
def HoldsFd (g : Gateway) : Prop :=
  ∀ fd, g.pc = .selecting fd ∨ g.pc = .serving fd → g.sys.manager.getSuccessFd = fd ∧ 0 ≤ fd

theorem holdsFd_top (h : g.pc = .top) : HoldsFd g := by
  rintro fd (hfd | hfd) <;> simp [h] at hfd

theorem step_holdsFd {e : Event} (he : e.enables = false) (h : HoldsFd g)
    (hstep : step th g e = some t) : HoldsFd t := by
  rcases step_passes hstep with ⟨-,rfl⟩ | ⟨-,hpasses⟩
  · exact h
  cases hpasses with
  | ordinary ho =>
    have hleads := ho.leads
    intro fd hfd
    rw [ho.manager]
    generalize t.pc = pc at hleads hfd
    cases hleads with
    | top => simp at hfd
    | selecting hpos =>
      obtain rfl : g.sys.manager.getSuccessFd = fd := by simpa using hfd
      exact ⟨rfl,hpos⟩
    | serving hpc =>
      obtain rfl := by simpa using hfd
      exact h _ hpc
  | reinit => exact holdsFd_top (afterReinit_pc _ _ g).1
  | other _ hm _ _ _ hpc =>
    intro fd hfd
    rw [hpc] at hfd
    rw [hm]
    exact h fd hfd
  | enabled => cases he

theorem run_holdsFd {es : List Event} (hes : ∀ e ∈ es, e.enables = false) (h : HoldsFd g)
    (hrun : Run th g es t) : HoldsFd t := by
  induction hrun with
  | refl => exact h
  | cons hstep hrest ih =>
    exact ih (fun e he => hes e (by simp [he])) (step_holdsFd (hes _ (by simp)) h hstep)

/-- While no registration runs, all that is written goes to the descriptor of the device that is
the first enabled one at that time, and the descriptor never changes during `select`. -/
theorem writes_to_enabled {es : List Event} {e : Event} {u : Gateway} (hg : Starts th g)
    (hes : ∀ e ∈ es, e.enables = false) (hrun : Run th g es t) (hstep : step th t e = some u) :
    (∀ fd, t.pc = .selecting fd → t.sys.manager.getSuccessFd = fd) ∧
    Acts (fun a => ∀ fd, a.target = some fd → t.sys.manager.getSuccessFd = fd ∧ 0 ≤ fd) t u := by
  have hhold := run_holdsFd hes (holdsFd_top hg.pc) hrun
  refine ⟨fun fd hfd => (hhold fd (.inl hfd)).1,?_⟩
  rcases step_passes hstep with ⟨-,rfl⟩ | ⟨-,hpasses⟩
  · exact .none rfl
  cases hpasses with
  | ordinary ho =>
    refine ho.acts.imp fun a ha fd hfd => hhold fd ?_
    cases ha with
    | usleep | sleep | settimeofday => cases hfd
    | heartbeat hpc => exact .inl (Option.some.inj hfd ▸ hpc)
    | write hpc => exact .inr (Option.some.inj hfd ▸ hpc)
  | reinit => exact afterReinit_acts _ _ (by simp [Action.target]) (by simp [Action.target])
  | other _ _ _ ha => exact .none ha
  | enabled _ _ ha => exact .none ha

/-- The packet of `oneRequest` is written to descriptor 6. -/
theorem oneRequest_written :
    let t := lanAfter oneRequest.dropLast lanGateway
    let u := lanAfter oneRequest lanGateway
    sent u.actions = [str "06"] ∧
      Acts (fun a => ∀ fd, a.target = some fd → t.sys.manager.getSuccessFd = fd ∧ 0 ≤ fd) t u := by
  have hes : ∀ e ∈ oneRequest.dropLast, e.enables = false := by
    intro e he
    have hall : oneRequest.dropLast.all (fun e => !e.enables) = true := by decide
    simpa using List.all_eq_true.mp hall e he
  exact ⟨by decide,(writes_to_enabled (e := answered (.message requestFrame.bytes) 0)
    lanGateway_starts hes (run_stateAfter (by decide)) rfl).2⟩

/-- The heartbeats so far are spaced, and the last one was at the time that is kept. -/
structure Spaced (start : Int) (g : Gateway) : Prop where
  chain : List.IsChain (fun a b : Int × Int => a.2 + 60 ≤ b.1) ((start,start)::beats g.actions)
  last : ((start,start)::beats g.actions).getLast?.map Prod.snd = some g.lastHeartbeat

theorem Spaced.same {start : Int} (h : Spaced start g) (hb : beats t.actions = beats g.actions)
    (hl : t.lastHeartbeat = g.lastHeartbeat) : Spaced start t := by
  obtain ⟨hchain,hlast⟩ := h
  exact ⟨hb ▸ hchain,by rw [hb,hl]; exact hlast⟩

theorem step_spaced {start : Int} {e : Event} (h : Spaced start g) (hstep : step th g e = some t) :
    Spaced start t := by
  rcases step_passes hstep with ⟨-,rfl⟩ | ⟨-,hpasses⟩
  · exact h
  cases hpasses with
  | @ordinary i t ho =>
    rcases ho.beats with ⟨hb,hl⟩ | ⟨hb,hle,hl⟩
    · exact h.same hb hl
    · have hconcat : (start,start)::beats t.actions =
          ((start,start)::beats g.actions) ++ [(i.now₁,i.now₂)] := by
        rw [hb,List.cons_append]
      refine ⟨?_,by rw [hconcat,List.getLast?_concat,hl]; rfl⟩
      rw [hconcat]
      refine h.chain.append (.singleton _) fun a ha b hb' => ?_
      obtain rfl : (i.now₁,i.now₂) = b := by simpa using hb'
      have hlast := h.last
      rw [Option.mem_def.mp ha] at hlast
      have hkept : a.2 = g.lastHeartbeat := Option.some.inj hlast
      exact hkept ▸ hle
  | reinit =>
    exact h.same (beats_acts (afterReinit_acts _ _ rfl fun _ => rfl)) (afterReinit_pc _ _ g).2.2.2.1
  | other _ _ _ ha hl => exact h.same (by rw [ha]) hl
  | enabled _ _ ha hl => exact h.same (by rw [ha]) hl

/-- At every heartbeat at least 60 s have gone by since the time that the one before it kept, or
since `send_mess` started. -/
theorem heartbeats_spaced {es : List Event} (hg : Starts th g) (hrun : Run th g es t) :
    List.IsChain (fun a b : Int × Int => a.2 + 60 ≤ b.1)
      ((g.lastHeartbeat,g.lastHeartbeat)::beats t.actions) := by
  have hstart : Spaced g.lastHeartbeat g := by
    have hnone : beats g.actions = [] := by rw [hg.actions]; rfl
    exact ⟨by rw [hnone]; exact .singleton _,by rw [hnone]; rfl⟩
  exact (hrun.invariant (fun _ _ _ hs hstep => step_spaced hs hstep) hstart).chain

/-- Nothing arrives for two minutes: `select` times out every 30 s. -/
def quietMinutes : List Event :=
  [30,60,90,120].flatMap fun now => [answered .timeout now,answered .timeout now]

theorem quietMinutes_beats :
    let t := lanAfter quietMinutes lanGateway
    beats t.actions = [(60,60),(120,120)] ∧
      List.IsChain (fun a b : Int × Int => a.2 + 60 ≤ b.1) ((0,0)::beats t.actions) :=
  ⟨by decide,heartbeats_spaced lanGateway_starts (run_stateAfter (by decide))⟩

end SendLoop
end Sap9001
