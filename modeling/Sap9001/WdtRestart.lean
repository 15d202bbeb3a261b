import Sap9001.Silence
import Sap9001.WdtHistory

/-! Whether the watchdog ends a silent process. With the transmitter and the ship sensors in the
table, what counts is whose slot comes first and whose is nearer to its timeout. -/
namespace Sap9001
namespace CSoftwareWdt

/-- A slot after a pass over it that stays within its timeout. -/
def counted (s : WdtSlot) : WdtSlot :=
  if s.reqWdtFlg then { s with wdtCount := s.wdtCount + 1 } else s

/-- The passes that a slot has left. -/
def remaining (s : WdtSlot) : ℕ := (s.wdtTimeout - s.wdtCount).toNat

variable {t : CSoftwareWdt} {k s : Fin 20}

theorem pass_eq (t : CSoftwareWdt) (b : Fin 20) : pass t b = Function.update t b (counted (t b)) := by
  unfold pass counted
  split_ifs
  · rfl
  · simp

/-- What a scan counts before it comes to `rest`. -/
theorem scan_counts (transThread : Option Bool) (pre rest : List (Fin 20))
    (hnd : (pre ++ rest).Nodup) (hpre : ∀ b ∈ pre, ¬ (t b).AtLimit) :
    scan transThread (pre ++ rest) t =
      scan transThread rest fun b => if b ∈ pre then counted (t b) else t b := by
  induction pre generalizing t with
  | nil => simp
  | cons c pre ih =>
    rw [List.cons_append,List.nodup_cons] at hnd
    have hc : c ∉ pre := fun hmem => hnd.1 (by simp [hmem])
    have hother : ∀ b ∈ pre, pass t c b = t b := by
      intro b hb
      refine pass_of_ne t ?_
      rintro rfl
      exact hc hb
    rw [List.cons_append,scan_within (hpre c (by simp)),ih hnd.2 fun b hb => by
      rw [hother b hb]
      exact hpre b (by simp [hb])]
    congr 1
    funext b
    by_cases hbc : b = c
    · subst hbc
      simp [hc,pass_eq]
    · simp [hbc,pass_of_ne t hbc]

/-- A pass that finds no slot at its limit counts every slot. -/
theorem montior_counts (transThread : Option Bool) (h : ∀ b, ¬ (t b).AtLimit) :
    t.montiorWdtRunState transThread = (0,fun b => counted (t b)) := by
  have hscan := scan_counts transThread (List.finRange 20) []
    (by simpa using List.nodup_finRange 20) fun b _ => h b
  rw [List.append_nil] at hscan
  rw [montiorWdtRunState,hscan]
  simp [scan]

/-- A pass that ends at a slot of another thread counts the slots up to that one. -/
theorem montior_ends (transThread : Option Bool) (hs : (t s).AtLimit)
    (hname : (t s).wdtName ≠ transMessage) (hfirst : ∀ b < s, ¬ (t b).AtLimit) :
    t.montiorWdtRunState transThread =
      (0,fun b => if b ≤ s then counted (t b) else t b) := by
  obtain ⟨pre,post,hsplit,hpre⟩ := finRange_split s
  have hnd := List.nodup_finRange 20
  have hmem : ∀ b, b ∈ pre ↔ b < s := by
    intro b
    refine ⟨hpre b,fun hlt => ?_⟩
    have hall := List.mem_finRange b
    have hsorted := List.pairwise_lt_finRange 20
    rw [hsplit,List.pairwise_append,List.pairwise_cons] at hsorted
    rw [hsplit,List.mem_append,List.mem_cons] at hall
    rcases hall with h | rfl | h
    · exact h
    · exact absurd hlt (lt_irrefl _)
    · exact absurd (hsorted.2.1.1 b h) (lt_asymm hlt)
  rw [hsplit] at hnd
  have hscan := scan_counts transThread pre (s::post) hnd fun b hb => hfirst b (hpre b hb)
  have hself : s ∉ pre := fun h => lt_irrefl s (hpre s h)
  set t' : CSoftwareWdt := fun b => if b ∈ pre then counted (t b) else t b with ht'
  have hts : t' s = t s := by simp [ht',hself]
  rw [montiorWdtRunState,hsplit,hscan,scan_other (hts ▸ hs) (hts ▸ hname)]
  refine Prod.ext rfl (funext fun b => ?_)
  have hcount : countUp t' s s = counted (t s) := by
    rw [countUp_self,hts,counted,if_pos hs.1]
  by_cases hbs : b = s
  · subst hbs
    simpa using hcount
  · simp only
    rw [countUp_of_ne t' hbs,ht']
    by_cases hlt : b < s
    · simp [hmem,hlt,hlt.le]
    · have hnle : ¬ b ≤ s := fun hle => hlt (lt_of_le_of_ne hle hbs)
      simp [hmem,hlt,hnle]

/-- Feeding registers and releases nothing. -/
theorem keepAlive_registered (t : CSoftwareWdt) (wWdtId : Int) (b : Fin 20) :
    ((t.keepSoftwareWdtAlive wWdtId).2 b).reqWdtFlg = (t b).reqWdtFlg := by
  unfold keepSoftwareWdtAlive resetCount
  split_ifs with hrange
  · rfl
  · by_cases hb : b = ⟨wWdtId.toNat,by omega⟩
    · subst hb
      simp
    · simp [Function.update_of_ne hb]

/-- A pass registers nothing. -/
theorem montior_registered (transThread : Option Bool) {b : Fin 20}
    (h : (t b).reqWdtFlg = false) : ((t.montiorWdtRunState transThread).2 b).reqWdtFlg = false := by
  have hcounted : CountedBy _ b t (perform (.montior transThread) t) := perform_countedBy rfl
  by_contra hreg
  rw [Bool.not_eq_false] at hreg
  exact Bool.false_ne_true (h.symm.trans (hcounted hreg).1)

/-- The slots of the transmitter and of one other thread are the only ones in use. -/
structure TwoSlots (t : CSoftwareWdt) (k s : Fin 20) : Prop where
  ne : k ≠ s
  trans : (t k).reqWdtFlg = true
  other : (t s).reqWdtFlg = true
  transName : (t k).wdtName = transMessage
  otherName : (t s).wdtName ≠ transMessage
  free : ∀ b, b ≠ k → b ≠ s → (t b).reqWdtFlg = false

theorem atLimit_iff {slot : WdtSlot} (h : slot.reqWdtFlg = true) :
    slot.AtLimit ↔ remaining slot = 0 := by
  simp only [WdtSlot.AtLimit,remaining,h,true_and]
  omega

theorem remaining_counted {slot : WdtSlot} (h : slot.reqWdtFlg = true) :
    remaining (counted slot) = remaining slot - 1 := by
  simp only [counted,h,if_true,remaining]
  omega

theorem TwoSlots.counted_some {t' : CSoftwareWdt} (h : TwoSlots t k s)
    (ht : ∀ b, t' b = t b ∨ t' b = counted (t b)) : TwoSlots t' k s := by
  have hreg : ∀ b, (t' b).reqWdtFlg = (t b).reqWdtFlg ∧ (t' b).wdtName = (t b).wdtName := by
    intro b
    rcases ht b with hb | hb
    · rw [hb]
      exact ⟨rfl,rfl⟩
    · rw [hb,counted]
      split_ifs <;> exact ⟨rfl,rfl⟩
  refine ⟨h.ne,(hreg k).1 ▸ h.trans,(hreg s).1 ▸ h.other,(hreg k).2 ▸ h.transName,?_,?_⟩
  · rw [(hreg s).2]
    exact h.otherName
  · intro b hk hs
    rw [(hreg b).1]
    exact h.free b hk hs

theorem TwoSlots.not_atLimit (h : TwoSlots t k s) {b : Fin 20} (hk : b ≠ k) (hs : b ≠ s) :
    ¬ (t b).AtLimit := by
  intro hb
  exact Bool.false_ne_true ((h.free b hk hs).symm.trans hb.1)

/-- One pass over the two slots: it detects the hang, or it counts down what the slots have left;
a slot at its limit keeps those behind it from being counted. -/
theorem TwoSlots.pass (h : TwoSlots t k s) :
    (t.montiorWdtRunState (some true)).1 = -1 ∧ remaining (t k) = 0 ∧
      (k < s ∨ 0 < remaining (t s)) ∨
    ∃ t', t.montiorWdtRunState (some true) = (0,t') ∧ TwoSlots t' k s ∧
      remaining (t' s) = remaining (t s) - 1 ∧
      (0 < remaining (t k) ∨ s < k ∧ remaining (t s) = 0) ∧
      remaining (t' k) =
        if s < k ∧ remaining (t s) = 0 then remaining (t k) else remaining (t k) - 1 := by
  have hklimit := atLimit_iff h.trans
  have hslimit := atLimit_iff h.other
  have hkcounted := remaining_counted h.trans
  have hscounted := remaining_counted h.other
  by_cases hs : remaining (t s) = 0
  · rcases lt_or_gt_of_ne h.ne with hlt | hlt
    · by_cases hk : remaining (t k) = 0
      · -- The slot of the transmitter comes first.
        refine .inl ⟨montior_detects_iff.mpr ⟨k,hklimit.mpr hk,h.transName,fun c hc => ?_⟩,hk,.inl hlt⟩
        exact h.not_atLimit hc.ne (hc.trans hlt).ne
      · have hends := montior_ends (some true) (hslimit.mpr hs) h.otherName fun b hb => by
          by_cases hbk : b = k
          · subst hbk
            exact hklimit.not.mpr hk
          · exact h.not_atLimit hbk hb.ne
        refine .inr ⟨_,hends,h.counted_some fun b => ?_,?_,.inl (by omega),?_⟩
        · by_cases hb : b ≤ s <;> simp [hb]
        · simpa using hscounted
        · rw [if_neg (c := s < k ∧ _) fun hand => lt_asymm hlt hand.1,if_pos hlt.le]
          exact hkcounted
    · -- The other slot comes first and hides the one of the transmitter.
      have hends := montior_ends (some true) (hslimit.mpr hs) h.otherName fun b hb =>
        h.not_atLimit (hb.trans hlt).ne hb.ne
      refine .inr ⟨_,hends,h.counted_some fun b => ?_,?_,.inr ⟨hlt,hs⟩,?_⟩
      · by_cases hb : b ≤ s <;> simp [hb]
      · simpa using hscounted
      · rw [if_pos (c := s < k ∧ _) ⟨hlt,hs⟩,if_neg (not_le.mpr hlt)]
  · have hsnot := hslimit.not.mpr hs
    by_cases hk : remaining (t k) = 0
    · refine .inl ⟨montior_detects_iff.mpr ⟨k,hklimit.mpr hk,h.transName,fun c hc => ?_⟩,hk,
        .inr (by omega)⟩
      by_cases hcs : c = s
      · exact hcs ▸ hsnot
      · exact h.not_atLimit hc.ne hcs
    · have hcounts := montior_counts (some true) (t := t) fun b => by
        by_cases hbk : b = k
        · exact hbk ▸ hklimit.not.mpr hk
        · by_cases hbs : b = s
          · exact hbs ▸ hsnot
          · exact h.not_atLimit hbk hbs
      refine .inr ⟨_,hcounts,h.counted_some fun b => .inr rfl,hscounted,.inl (by omega),?_⟩
      rw [if_neg fun hand => hs hand.2]
      exact hkcounted

/-- A number of passes detects the hang when the slot of the transmitter runs out within them, and
comes first or runs out before the other one. -/
theorem TwoSlots.detected_iff (h : TwoSlots t k s) (n : ℕ) :
    -1 ∈ montiorResults t (List.replicate n (.montior (some true))) ↔
      remaining (t k) < n ∧ (k < s ∨ remaining (t k) < remaining (t s)) := by
  induction n generalizing t with
  | zero => simp [montiorResults]
  | succ n ih =>
    rw [List.replicate_succ,montiorResults,List.mem_cons]
    rcases h.pass with ⟨hdetected,hk,hfirst⟩ | ⟨t',hpass,h',hs,hnot,hk⟩
    · rw [hdetected,hk]
      simpa using hfirst
    · have hperform : perform (.montior (some true)) t = t' := congrArg Prod.snd hpass
      have hzero : ¬ (-1 : Int) = (t.montiorWdtRunState (some true)).1 := by
        rw [hpass]
        simp
      rw [hperform,or_iff_right hzero,ih h',hk,hs]
      have hne := h.ne
      by_cases hblocked : s < k ∧ remaining (t s) = 0
      · rw [if_pos hblocked,hblocked.2]
        have hks : ¬ k < s := lt_asymm hblocked.1
        simp [hks]
      · rw [if_neg hblocked]
        by_cases hks : k < s
        · simp only [hks,true_or,and_true]
          have hsk : ¬ s < k := lt_asymm hks
          have hpos := hnot.resolve_right fun hand => hsk hand.1
          omega
        · have hpos := hnot.resolve_right hblocked
          simp only [hks,false_or]
          omega

end CSoftwareWdt

namespace SendLoop

open CSoftwareWdt ReceiveBranch Reconnect SensorDriver

variable {th : Setup} {g t u : Gateway} {k s : Fin 20}

/-- Whether the event is a pass of the monitor. -/
def Event.isPass : Event → Bool
  | .montior => true
  | _ => false

theorem run_exited {es : List Event} (h : g.exited = true) (hrun : Run th g es t) :
    t.exited = true := by
  refine hrun.invariant (I := fun g => g.exited = true) ?_ h
  intro g e t hg hstep
  simp only [step,hg,if_true,Option.some.injEq] at hstep
  exact hstep ▸ hg

/-- No device is enabled, and the sensor thread waits for a request. -/
structure Settled (g : Gateway) : Prop where
  mute : Mute g
  sensor : ∃ indexFlag, g.pipeline.sensor = .waiting indexFlag
  ready : g.pipeline.transmitter.shipDataReady = false

/-- In a settled state only the monitor changes the table of the watchdog. -/
theorem step_settled {e : Event} (he : e.enables = false) (h : Settled g) (hg : g.exited = false)
    (hstep : step th g e = some t) : Settled t ∧
      (e.isPass = false → t.wdt = g.wdt ∧ t.exited = false) ∧
      (e.isPass = true → t = g.montior) := by
  obtain ⟨hmute,-⟩ := step_mute he h.mute hstep
  obtain ⟨indexFlag,hsensor⟩ := h.sensor
  simp only [step,hg,Bool.false_eq_true,if_false] at hstep
  cases e with
  | transmitter i =>
    simp only [Gateway.transmitterStep,h.mute.pc,Option.some.injEq] at hstep
    subst hstep
    unfold Gateway.chooseFd at hmute ⊢
    rw [if_pos h.mute.noFd] at hmute ⊢
    exact ⟨⟨hmute,⟨indexFlag,hsensor⟩,h.ready⟩,fun _ => ⟨rfl,hg⟩,fun hpass => by cases hpass⟩
  | sensor data06 =>
    obtain rfl := Option.some.inj hstep
    have hsame : g.sensorStep th data06 = g := by
      simp [Gateway.sensorStep,SensorDriver.sensorStep,hsensor,h.ready]
    rw [hsame]
    exact ⟨h,fun _ => ⟨rfl,hg⟩,fun hpass => by cases hpass⟩
  | montior =>
    obtain rfl := Option.some.inj hstep
    exact ⟨⟨hmute,⟨indexFlag,hsensor⟩,h.ready⟩,(by intro hpass; cases hpass),fun _ => rfl⟩
  | setEnable id => cases he

/-- The process ends just when the passes of the monitor alone detect the hang. -/
theorem run_settled {es : List Event} (hes : ∀ e ∈ es, e.enables = false) (h : Settled g)
    (hg : g.exited = false) (hrun : Run th g es t) : t.exited = true ↔
      -1 ∈ montiorResults g.wdt (List.replicate (es.countP (·.isPass)) (.montior (some true))) := by
  induction hrun with
  | refl => simp [montiorResults,hg]
  | @cons g e u es t hstep hrest ih =>
    obtain ⟨hu,hother,hpass⟩ := step_settled (hes _ (by simp)) h hg hstep
    have hrest' : ∀ e ∈ es, e.enables = false := fun e he => hes e (by simp [he])
    rw [List.countP_cons]
    cases he : e.isPass with
    | false =>
      obtain ⟨hwdt,hexited⟩ := hother he
      simp only [Bool.false_eq_true,if_false,Nat.add_zero]
      rw [ih hrest' hu hexited,hwdt]
    | true =>
      obtain rfl := hpass he
      simp only [if_true,List.replicate_succ,montiorResults,List.mem_cons]
      by_cases hdetected : (g.wdt.montiorWdtRunState (some true)).1 = -1
      · have hexited : g.montior.exited = true := decide_eq_true hdetected
        exact iff_of_true (run_exited hexited hrest) (.inl hdetected.symm)
      · have hexited : g.montior.exited = false := decide_eq_false hdetected
        rw [ih hrest' hu hexited,or_iff_right (Ne.symm hdetected)]
        rfl

/-- When the last enabled device has been used up while the sensor thread waits, the process is
ended by the watchdog just when the slot of the transmitter stands before the one of the sensors or
has fewer passes left; otherwise it stays silent for ever. -/
theorem restart_iff {es es' : List Event} (hg : Starts th g) (hm : Reinit.Reachable g.sys.manager)
    (hes : ∀ e ∈ es ++ es', e.enables = false) (hrun : Run th g es t)
    (hall : g.sys.manager.enabledDevices ≤ reconnects t.actions)
    {indexFlag : ℕ} (hsensor : t.pipeline.sensor = .waiting indexFlag)
    (hready : t.pipeline.transmitter.shipDataReady = false) (hslots : TwoSlots t.wdt k s)
    (hrunning : t.exited = false) (hrun' : Run th t es' u) :
    u.exited = true ↔ remaining (t.wdt k) < es'.countP (·.isPass) ∧
      (k < s ∨ remaining (t.wdt k) < remaining (t.wdt s)) := by
  have hbefore : ∀ e ∈ es, e.enables = false := fun e he => hes e (by simp [he])
  have hmute := mute_of_reconnects hg hm hbefore hrun hall
  rw [run_settled (fun e he => hes e (by simp [he])) ⟨hmute,⟨indexFlag,hsensor⟩,hready⟩ hrunning hrun']
  exact hslots.detected_iff _

/-- The slots of `lanGateway` as the threads got them, the ship sensors first. -/
def watched : Gateway :=
  { lanGateway with
    wdt := CSoftwareWdt.perform (.request transMessage 1)
      (CSoftwareWdt.perform (.request (str "get_ship_data") 1) .new) }

/-- The sensors push a packet and wait, and the connection is replaced. -/
def replacedRun : List Event := .sensor (str "06")::reconnect

def fivePasses : List Event := List.replicate 5 .montior

/-- Five passes after that the process still runs, though both slots had one pass left. -/
theorem hidden_hang : (lanAfter fivePasses (lanAfter replacedRun watched)).exited = false := by
  have hstarts : Starts lanSetup watched := ⟨rfl,rfl,⟨true,[],rfl⟩,rfl,rfl,rfl⟩
  have hes : ∀ e ∈ replacedRun ++ fivePasses, e.enables = false := by
    intro e he
    have hall : (replacedRun ++ fivePasses).all (fun e => !e.enables) = true := by decide
    simpa using List.all_eq_true.mp hall e he
  have hrun : Run lanSetup watched replacedRun (lanAfter replacedRun watched) :=
    run_stateAfter (by decide)
  have hsensor : (lanAfter replacedRun watched).pipeline.sensor = .waiting 0 := rfl
  have hslots : TwoSlots (lanAfter replacedRun watched).wdt 1 0 :=
    ⟨by decide,rfl,rfl,rfl,by decide,by decide⟩
  have hiff := restart_iff hstarts lanGateway_reachable hes hrun (by decide) hsensor rfl hslots rfl
    (run_stateAfter (by decide))
  have hnot : ¬ (remaining ((lanAfter replacedRun watched).wdt 1) < fivePasses.countP (·.isPass) ∧
      ((1 : Fin 20) < 0 ∨ remaining ((lanAfter replacedRun watched).wdt 1) <
        remaining ((lanAfter replacedRun watched).wdt 0))) := by decide
  simpa using hiff.not.mpr hnot

/-- The gateway is heard of, but never with a request for this device and never with a time frame,
whoever that one is for: it feeds the slot before its MAC is looked at. -/
def Event.Ignored (mac : Str) : Event → Prop
  | .transmitter i => i.answer ≠ .timeout ∧ ∀ m, i.answer = .message m → receive mac m = none
  | _ => True

theorem endOfFile_mac {a : Attempt} {s : Sys} {r : Bool × Sys} {x : DeviceMap DeviceInit.ReinitFn}
    (hx : DeviceMap.Represents true s.manager x) (h : endOfFile a s = some r) :
    r.2.world.identity.mac = s.world.identity.mac := by
  unfold endOfFile at h
  dsimp only at h
  split_ifs at h
  · obtain ⟨b,m',w',x',hr,-,-,hw⟩ := Reinit.reinit_keeps (DeviceInit.call a.outcome) a.t₁ a.t₂
      s.manager.getSuccessId 0 s.world hx (by omega)
    rw [hr,Option.map_some,Option.some.injEq] at h
    subst h
    rcases hw with rfl | ⟨f,rfl⟩
    · rfl
    · simp only [DeviceInit.call_identity,DeviceIdentity.setCommunicateStatus]
      split_ifs <;> rfl
  · obtain rfl := Option.some.inj h
    rfl

/-- An ignored step of `send_mess` feeds no slot. -/
theorem turn_ignored {i : Input} (hm : ∃ x, DeviceMap.Represents true g.sys.manager x)
    (hi : (Event.transmitter i).Ignored g.mac) (hpc : ∀ fd, g.pc ≠ .serving fd)
    (hturn : g.Turn th i t) : t.wdt = g.wdt ∧ t.mac = g.mac ∧ t.exited = g.exited ∧
      ∀ fd, t.pc ≠ .serving fd := by
  cases hturn with
  | choose htop =>
    unfold Gateway.chooseFd
    dsimp only
    split_ifs
    · exact ⟨rfl,rfl,rfl,by simp [Gateway.act,htop]⟩
    · exact ⟨rfl,rfl,rfl,by simp⟩
  | changed => exact ⟨rfl,rfl,rfl,by simp [Gateway.goto]⟩
  | nothing => exact ⟨rfl,rfl,rfl,by simp [Gateway.goto]⟩
  | selectFailed => exact ⟨rfl,rfl,rfl,by simp [Gateway.goto,Gateway.act]⟩
  | timeout _ _ ha => exact absurd ha hi.1
  | @endOfFile fd a t _ hfd ha hend =>
    unfold Gateway.onEndOfFile at hend
    split_ifs at hend
    · obtain ⟨r,hr,rfl⟩ := Option.map_eq_some_iff.mp hend
      obtain ⟨x,hx⟩ := hm
      obtain ⟨htop,hsys,-⟩ := afterReinit_pc a r g
      refine ⟨?_,?_,?_,by simp [htop]⟩
      · unfold Gateway.afterReinit
        dsimp only
        split_ifs <;> rfl
      · rw [Gateway.mac,hsys]
        exact endOfFile_mac hx hr
      · unfold Gateway.afterReinit
        dsimp only
        split_ifs <;> rfl
    · obtain rfl := Option.some.inj hend
      exact ⟨rfl,rfl,rfl,by simp [Gateway.goto,Gateway.act]⟩
  | message _ _ ha =>
    unfold Gateway.onMessage
    rw [hi.2 _ ha]
    exact ⟨rfl,rfl,rfl,by simp [Gateway.goto]⟩
  | serve hserving => exact absurd hserving (hpc _)

/-- The slot of the transmitter is the first in use, and no request is being served. -/
structure Unfed (k : Fin 20) (mac : Str) (g : Gateway) : Prop where
  devices : ∃ x, DeviceMap.Represents true g.sys.manager x
  mac : g.mac = mac
  notServing : ∀ fd, g.pc ≠ .serving fd
  running : g.exited = false
  registered : (g.wdt k).reqWdtFlg = true
  name : (g.wdt k).wdtName = transMessage
  first : ∀ b < k, (g.wdt b).reqWdtFlg = false

theorem Unfed.same {mac : Str} (h : Unfed k mac g)
    (hm : ∃ x, DeviceMap.Represents true t.sys.manager x) (hmac : t.mac = g.mac)
    (hpc : ∀ fd, t.pc ≠ .serving fd) (hexited : t.exited = g.exited) (hk : t.wdt k = g.wdt k)
    (hreg : ∀ b, (t.wdt b).reqWdtFlg = (g.wdt b).reqWdtFlg) : Unfed k mac t := by
  refine ⟨hm,hmac.trans h.mac,hpc,hexited.trans h.running,?_,?_,fun b hb => ?_⟩
  · rw [hk]
    exact h.registered
  · rw [hk]
    exact h.name
  · rw [hreg]
    exact h.first b hb

/-- Only the monitor changes the slot; a pass ends the process or counts the slot up, within its
timeout. -/
theorem step_unfed {mac : Str} {e : Event} (hship : th.shipWdtId ≠ (k : ℕ)) (he : e.Ignored mac)
    (h : Unfed k mac g) (hstep : step th g e = some t) :
    (e.isPass = false → Unfed k mac t ∧ t.wdt k = g.wdt k) ∧
    (e.isPass = true → t.exited = true ∨ Unfed k mac t ∧
      t.wdt k = { g.wdt k with wdtCount := (g.wdt k).wdtCount + 1 } ∧
        (g.wdt k).wdtCount < (g.wdt k).wdtTimeout) := by
  have hdevices := (step_reconnects h.devices hstep).1
  simp only [step,h.running,Bool.false_eq_true,if_false] at hstep
  cases e with
  | transmitter i =>
    obtain ⟨hwdt,hmac,hexited,hpc⟩ := turn_ignored h.devices (h.mac ▸ he) h.notServing
      (Gateway.transmitterStep_turn hstep)
    exact ⟨fun _ => ⟨h.same hdevices hmac hpc hexited (by rw [hwdt]) fun b => by rw [hwdt],
      by rw [hwdt]⟩,by simp [Event.isPass]⟩
  | sensor data06 =>
    refine ⟨fun _ => ?_,by simp [Event.isPass]⟩
    obtain rfl := Option.some.inj hstep
    obtain ⟨hs,-,-,-,hpc⟩ := sensorStep_ordinary th data06 g
    have hmac : (g.sensorStep th data06).mac = g.mac := by rw [Gateway.mac,hs]; rfl
    have hpc' : ∀ fd, (g.sensorStep th data06).pc ≠ .serving fd := by
      rw [hpc]
      exact h.notServing
    have hwdt : (g.sensorStep th data06).wdt = g.wdt ∨
        (g.sensorStep th data06).wdt = (g.wdt.keepSoftwareWdtAlive th.shipWdtId).2 := by
      unfold Gateway.sensorStep
      split
      · exact .inr rfl
      · exact .inl rfl
    have hexited : (g.sensorStep th data06).exited = g.exited := by
      unfold Gateway.sensorStep
      split <;> rfl
    rcases hwdt with hwdt | hwdt
    · exact ⟨h.same hdevices hmac hpc' hexited (by rw [hwdt]) fun b => by rw [hwdt],by rw [hwdt]⟩
    · have hk := hwdt ▸ keepAlive_frame hship
      exact ⟨h.same hdevices hmac hpc' hexited hk fun b => hwdt ▸ keepAlive_registered _ _ b,hk⟩
  | montior =>
    refine ⟨by simp [Event.isPass],fun _ => ?_⟩
    obtain rfl := Option.some.inj hstep
    have hfree : ¬ g.wdt.Blocked k := by
      rintro ⟨b,hb,hlimit,-⟩
      exact Bool.false_ne_true ((h.first b hb).symm.trans hlimit.1)
    rcases montior_unblocked true h.registered h.name hfree with hdetected | ⟨hcount,hlt⟩
    · exact .inl (decide_eq_true hdetected)
    · by_cases hdetected : (g.wdt.montiorWdtRunState (some true)).1 = -1
      · exact .inl (decide_eq_true hdetected)
      · have hk : g.montior.wdt k = { g.wdt k with wdtCount := (g.wdt k).wdtCount + 1 } := hcount
        refine .inr ⟨⟨hdevices,h.mac,h.notServing,decide_eq_false hdetected,?_,?_,?_⟩,hk,hlt⟩
        · rw [hk]
          exact h.registered
        · rw [hk]
          exact h.name
        · exact fun b hb => montior_registered _ (h.first b hb)
  | setEnable id =>
    refine ⟨fun _ => ?_,by simp [Event.isPass]⟩
    obtain rfl := Option.some.inj hstep
    exact ⟨h.same hdevices rfl h.notServing h.running.symm rfl fun _ => rfl,rfl⟩

/-- More passes than the slot has left end the process. -/
theorem run_unfed {mac : Str} {es : List Event} (hship : th.shipWdtId ≠ (k : ℕ))
    (hes : ∀ e ∈ es, e.Ignored mac) (h : Unfed k mac g) (hrun : Run th g es t)
    (hpos : 0 < es.countP (·.isPass))
    (hpasses : (g.wdt k).wdtTimeout < (g.wdt k).wdtCount + es.countP (·.isPass)) :
    t.exited = true := by
  induction hrun with
  | refl => simp at hpos
  | @cons g e u es t hstep hrest ih =>
    have hrest' : ∀ e ∈ es, e.Ignored mac := fun e he => hes e (by simp [he])
    obtain ⟨hother,hpass⟩ := step_unfed hship (hes e (by simp)) h hstep
    rw [List.countP_cons] at hpos hpasses
    cases he : e.isPass with
    | false =>
      obtain ⟨hu,hk⟩ := hother he
      simp only [he,Bool.false_eq_true,if_false,Nat.add_zero] at hpos hpasses
      exact ih hrest' hu hpos (by rwa [hk])
    | true =>
      simp only [he,if_true] at hpasses
      rcases hpass he with hexited | ⟨hu,hk,hlt⟩
      · exact run_exited hexited hrest
      · push_cast at hpasses
        exact ih hrest' hu (by omega) (by rw [hk]; dsimp only; omega)

/-- Frames that are no time frames and no requests for this device keep nobody alive: when the slot
of the transmitter is the first in use and no `select` times out, more passes than its timeout end
the process, although the gateway is heard of all the time. -/
theorem ignored_restarts {es : List Event} (hm : Reinit.Reachable g.sys.manager)
    (hpc : ∀ fd, g.pc ≠ .serving fd) (hship : th.shipWdtId ≠ (k : ℕ))
    (hreg : (g.wdt k).reqWdtFlg = true) (hname : (g.wdt k).wdtName = transMessage)
    (hfirst : ∀ b < k, (g.wdt b).reqWdtFlg = false) (hes : ∀ e ∈ es, e.Ignored g.mac)
    (hrun : Run th g es t) (hpos : 0 < es.countP (·.isPass))
    (hpasses : (g.wdt k).wdtTimeout < (g.wdt k).wdtCount + es.countP (·.isPass)) :
    t.exited = true := by
  cases hg : g.exited with
  | true => exact run_exited hg hrun
  | false =>
    have hdevices := Reinit.reachable_represents hm
    exact run_unfed hship hes ⟨hdevices,rfl,hpc,hg,hreg,hname,hfirst⟩ hrun hpos hpasses

/-- The transmitter got the first slot. -/
def transFirst : Gateway :=
  { lanGateway with wdt := CSoftwareWdt.perform (.request transMessage 1) .new }

def transFirstSetup : Setup := { lanSetup with wdtId := 0, shipWdtId := 1 }

/-- A request for another device is read, and a pass follows. -/
def foreignRequest : List Event :=
  [answered .notSet 0,
    answered (.message (str "$03100000100001A010001SAP24000000000010001@")) 0,.montior]

/-- Two such requests end the process. -/
theorem foreignRequests_restart :
    (stateAfter transFirstSetup (foreignRequest ++ foreignRequest) transFirst).exited = true := by
  have hm : Reinit.Reachable transFirst.sys.manager := lanGateway_reachable
  have hpc : ∀ fd, transFirst.pc ≠ .serving fd := by
    intro fd h
    cases h
  have hforeign : ∀ e ∈ foreignRequest, Event.Ignored transFirst.mac e := by
    intro e he
    simp only [foreignRequest,List.mem_cons,List.not_mem_nil,or_false] at he
    rcases he with rfl | rfl | rfl
    · exact ⟨by simp,by simp⟩
    · exact ⟨by simp,fun m hm => Answer.message.inj hm ▸ (by decide)⟩
    · trivial
  have hes : ∀ e ∈ foreignRequest ++ foreignRequest, Event.Ignored transFirst.mac e := by
    intro e he
    exact (List.mem_append.mp he).elim (hforeign e) (hforeign e)
  have hship : transFirstSetup.shipWdtId ≠ ((0 : Fin 20) : ℕ) := by decide
  exact ignored_restarts hm hpc hship rfl rfl (by decide) hes (run_stateAfter (by decide)) (by decide)
    (by decide)

end SendLoop
end Sap9001
