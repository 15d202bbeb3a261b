import Sap9001.SendLoop

/-! What `send_mess` delivers while its writes succeed: first what `offline_cache` holds, then one
packet of the queue for each request, in order; and every request comes to its end. -/
namespace Sap9001
namespace SendLoop

open ReceiveBranch MessageTransmitter SensorDriver

section Pipeline

variable {P : Type} {mac : Str} {n : ℕ} {p₀ p p' : Pipeline P} {packets out : List P}

/-- Whether a request is being handled. -/
def busy : MessageTransmitter.Pc P → ℕ
  | .waiting => 0
  | _ => 1

/-- The points of a request before it has looked into `offline_cache`. -/
def Early : MessageTransmitter.Pc P → Prop
  | .waiting | .notifyShip | .notifyGas | .takeOffline => True
  | _ => False

/-- The points of a request that finds `offline_cache` empty and whose write succeeds. -/
def Live : MessageTransmitter.Pc P → Prop
  | .sendOffline _ _ | .pushBack _ => False
  | _ => True

/-- The requests that deliver no live packet because they find `offline_cache` filled. -/
def flushes (offlineCache : List P) : ℕ := if offlineCache = [] then 0 else 1

/-- The pipeline once `offline_cache` is empty, after a time in which every write succeeded that
began at `p₀`: `packets` were pushed, and the live ones of `done` delivered, one for each request
that did not flush the cache or find the queue empty. -/
structure Drained (p₀ : Pipeline P) (packets done : List P) (p : Pipeline P) : Prop where
  pc : Live p.transmitter.pc
  flag : p.transmitter.flag = true
  cache : p.transmitter.offlineCache = []
  live : done ++ p.transmitter.live = p₀.transmitter.transmit.queue ++ packets
  most : p₀.requests + flushes p₀.transmitter.offlineCache + done.length +
    busy p.transmitter.pc ≤ p.requests
  least : p.requests ≤ p₀.requests + flushes p₀.transmitter.offlineCache + done.length +
    busy p.transmitter.pc ∨ p₀.transmitter.transmit.queue.length ≤ done.length

/-- The pipeline after a time in which every write succeeded, which began at `p₀` between two
requests: `packets` were pushed and `out` was delivered. -/
inductive Flow (p₀ : Pipeline P) (packets : List P) : List P → Pipeline P → Prop
  | before {p : Pipeline P} (hpc : Early p.transmitter.pc) (hflag : p.transmitter.flag = true)
    (hcache : p.transmitter.offlineCache = p₀.transmitter.offlineCache)
    (hqueue : p.transmitter.transmit.queue = p₀.transmitter.transmit.queue ++ packets)
    (hrequests : p.requests = p₀.requests + busy p.transmitter.pc) : Flow p₀ packets [] p
  | flushing {p : Pipeline P} {out pending : List P} (hpc : p.transmitter.pc = .sendOffline pending [])
    (hflag : p.transmitter.flag = false) (hne : p₀.transmitter.offlineCache ≠ [])
    (hout : out ++ pending = p₀.transmitter.offlineCache) (hcache : p.transmitter.offlineCache = [])
    (hqueue : p.transmitter.transmit.queue = p₀.transmitter.transmit.queue ++ packets)
    (hrequests : p.requests = p₀.requests + 1) : Flow p₀ packets out p
  | flushed {p : Pipeline P} (hpc : p.transmitter.pc = .checkFlag) (hflag : p.transmitter.flag = false)
    (hne : p₀.transmitter.offlineCache ≠ []) (hcache : p.transmitter.offlineCache = [])
    (hqueue : p.transmitter.transmit.queue = p₀.transmitter.transmit.queue ++ packets)
    (hrequests : p.requests = p₀.requests + 1) : Flow p₀ packets p₀.transmitter.offlineCache p
  | drained {p : Pipeline P} {done out : List P} (h : Drained p₀ packets done p)
    (hout : out = p₀.transmitter.offlineCache ++ done) : Flow p₀ packets out p

/-- No live packet is delivered yet. -/
theorem Drained.first (hpc : Live p.transmitter.pc) (hflag : p.transmitter.flag = true)
    (hcache : p.transmitter.offlineCache = [])
    (hlive : p.transmitter.live = p₀.transmitter.transmit.queue ++ packets)
    (hrequests : p.requests = p₀.requests + flushes p₀.transmitter.offlineCache +
      busy p.transmitter.pc) : Drained p₀ packets [] p :=
  ⟨hpc,hflag,hcache,hlive,hrequests.ge,.inl hrequests.le⟩

/-- A request goes on without delivering anything. -/
theorem Drained.goes {done : List P} (h : Drained p₀ packets done p) (hpc : Live p'.transmitter.pc)
    (hflag : p'.transmitter.flag = true) (hcache : p'.transmitter.offlineCache = [])
    (hlive : p'.transmitter.live = p.transmitter.live)
    (hrequests : p'.requests + busy p.transmitter.pc = p.requests + busy p'.transmitter.pc) :
    Drained p₀ packets done p' := by
  refine ⟨hpc,hflag,hcache,by rw [hlive,h.live],?_,h.least.imp_left fun hleast => ?_⟩
  · have hmost := h.most
    omega
  · omega

/-- A push, as the requests see it. -/
theorem Flow.push (h : Flow p₀ packets out p) (hpc : p'.transmitter.pc = p.transmitter.pc)
    (hflag : p'.transmitter.flag = p.transmitter.flag)
    (hcache : p'.transmitter.offlineCache = p.transmitter.offlineCache) {new : List P}
    (hqueue : p'.transmitter.transmit.queue = p.transmitter.transmit.queue ++ new)
    (hrequests : p'.requests = p.requests) : Flow p₀ (packets ++ new) out p' := by
  cases h with
  | before hearly hf hc hq hr =>
    exact .before (hpc ▸ hearly) (hflag.trans hf) (hcache.trans hc)
      (by rw [hqueue,hq,List.append_assoc]) (by rw [hrequests,hpc,hr])
  | flushing hp hf hne hout hc hq hr =>
    exact .flushing (hpc.trans hp) (hflag.trans hf) hne hout (hcache.trans hc)
      (by rw [hqueue,hq,List.append_assoc]) (hrequests.trans hr)
  | flushed hp hf hne hc hq hr =>
    exact .flushed (hpc.trans hp) (hflag.trans hf) hne (hcache.trans hc)
      (by rw [hqueue,hq,List.append_assoc]) (hrequests.trans hr)
  | drained h hout =>
    refine .drained ⟨hpc ▸ h.pc,hflag.trans h.flag,hcache.trans h.cache,?_,?_,?_⟩ hout
    · rw [← List.append_assoc,← h.live,State.live,State.live,hpc,hqueue,List.append_assoc,
        List.append_assoc]
    · rw [hrequests,hpc]
      exact h.most
    · rw [hrequests,hpc]
      exact h.least

variable (mac n) in
/-- The sensor thread only adds packets to the queue. -/
theorem sensorStep_flow (data06 : P) (h : Flow p₀ packets out p) : ∃ new,
    (SensorDriver.sensorStep mac n data06 p).transmitter.pushed = p.transmitter.pushed ++ new ∧
      Flow p₀ (packets ++ new) out (SensorDriver.sensorStep mac n data06 p) := by
  have hsame (p' : Pipeline P) (hpc : p'.transmitter.pc = p.transmitter.pc)
      (hflag : p'.transmitter.flag = p.transmitter.flag)
      (hcache : p'.transmitter.offlineCache = p.transmitter.offlineCache)
      (hqueue : p'.transmitter.transmit = p.transmitter.transmit)
      (hrequests : p'.requests = p.requests) : Flow p₀ (packets ++ []) out p' :=
    h.push hpc hflag hcache (by rw [hqueue,List.append_nil]) hrequests
  unfold SensorDriver.sensorStep
  split
  · split_ifs
    · refine ⟨[data06],rfl,?_⟩
      apply h.push <;> rfl
    · exact ⟨[],(List.append_nil _).symm,hsame _ rfl rfl rfl rfl rfl⟩
  · split_ifs
    · exact ⟨[],(List.append_nil _).symm,hsame _ rfl rfl rfl rfl rfl⟩
    · exact ⟨[],(List.append_nil _).symm,hsame _ rfl rfl rfl rfl rfl⟩
  · exact ⟨[],(List.append_nil _).symm,hsame _ rfl rfl rfl rfl rfl⟩

variable (mac n) in
/-- A request that finds `offline_cache` empty. -/
theorem transmitterStep_drained {i : MessageTransmitter.Input} (hi : i.written = true)
    {done : List P} (h : Drained p₀ packets done p) :
    Drained p₀ packets (done ++ wrote i p.transmitter)
      (SensorDriver.step mac n p (.transmitter i)) := by
  have hpc := h.pc
  have hlive := h.live
  cases hat : p.transmitter.pc with
  | sendOffline | pushBack => simp [hat,Live] at hpc
  | waiting =>
    simp only [SensorDriver.step,next,transmitterStep,takesRequest,wrote,hat,List.append_nil]
    split_ifs
    · exact h.goes trivial h.flag h.cache (by simp [State.live,hat]) (by rw [hat]; rfl)
    · exact h.goes (hat ▸ trivial) h.flag h.cache rfl rfl
  | notifyShip =>
    simp only [SensorDriver.step,next,transmitterStep,takesRequest,wrote,hat,List.append_nil]
    cases i.getSensor <;>
      exact h.goes trivial h.flag h.cache (by simp [State.live,hat]) (by rw [hat]; rfl)
  | notifyGas =>
    simp only [SensorDriver.step,next,transmitterStep,takesRequest,wrote,hat,List.append_nil]
    exact h.goes trivial h.flag h.cache (by simp [State.live,hat]) (by rw [hat]; rfl)
  | takeOffline =>
    simp only [SensorDriver.step,next,transmitterStep,takesRequest,wrote,hat,h.cache,List.append_nil]
    exact h.goes trivial h.flag rfl (by simp [State.live,hat]) (by rw [hat]; rfl)
  | checkFlag =>
    simp only [SensorDriver.step,next,transmitterStep,takesRequest,wrote,hat,h.flag,List.append_nil]
    exact h.goes trivial rfl h.cache (by simp [State.live,hat]) (by rw [hat]; rfl)
  | tryLive =>
    simp only [SensorDriver.step,next,transmitterStep,takesRequest,wrote,hat,List.append_nil]
    split <;> rename_i hpop
    · have hq := MessageQueue.tryPop_some (congrArg Prod.fst hpop)
      rw [hpop] at hq
      exact h.goes trivial h.flag h.cache (by simp [State.live,hat,hq]) (by rw [hat]; rfl)
    · -- Everything that was pushed is delivered.
      have hq := MessageQueue.tryPop_none (congrArg Prod.fst hpop)
      rw [State.live,hat,hq] at hlive
      have hall : done = p₀.transmitter.transmit.queue ++ packets := by simpa using hlive
      have hmost := h.most
      refine ⟨trivial,h.flag,h.cache,?_,?_,.inr ?_⟩
      · simpa [State.live,hq] using hall
      · simp only [busy]
        omega
      · rw [hall,List.length_append]
        omega
  | sendLive q =>
    simp only [SensorDriver.step,next,transmitterStep,takesRequest,wrote,hat,hi,if_true]
    have hmost := h.most
    have hleast := h.least
    rw [hat] at hmost hleast
    refine ⟨trivial,h.flag,h.cache,?_,?_,?_⟩
    · rw [← hlive,List.append_assoc]
      simp [State.live,hat]
    · simp only [busy,List.length_append,List.length_singleton] at hmost ⊢
      omega
    · simp only [busy,List.length_append,List.length_singleton] at hleast ⊢
      omega

variable (mac n) in
/-- A step of `send_mess` whose write succeeds. -/
theorem transmitterStep_flow {i : MessageTransmitter.Input} (hi : i.written = true)
    (h : Flow p₀ packets out p) :
    Flow p₀ packets (out ++ wrote i p.transmitter) (SensorDriver.step mac n p (.transmitter i)) := by
  cases h with
  | before hpc hflag hcache hqueue hrequests =>
    cases hat : p.transmitter.pc with
    | waiting =>
      simp only [SensorDriver.step,next,transmitterStep,takesRequest,wrote,hat,List.append_nil]
      rw [hat] at hrequests
      split_ifs with hreceive
      · exact .before trivial hflag hcache hqueue (by rw [hrequests]; rfl)
      · exact .before (hat ▸ trivial) hflag hcache hqueue (by simp [hrequests,hat])
    | notifyShip =>
      simp only [SensorDriver.step,next,transmitterStep,takesRequest,wrote,hat,List.append_nil]
      rw [hat] at hrequests
      cases i.getSensor <;> exact .before trivial hflag hcache hqueue hrequests
    | notifyGas =>
      simp only [SensorDriver.step,next,transmitterStep,takesRequest,wrote,hat,List.append_nil]
      rw [hat] at hrequests
      exact .before trivial hflag hcache hqueue hrequests
    | takeOffline =>
      rw [hat] at hrequests
      cases hoffline : p.transmitter.offlineCache with
      | nil =>
        -- Nothing to flush: this is already a request for a live packet.
        have hnone : p₀.transmitter.offlineCache = [] := hcache.symm.trans hoffline
        have hfirst : Drained p₀ packets [] (SensorDriver.step mac n p (.transmitter i)) := by
          simp only [SensorDriver.step,next,transmitterStep,takesRequest,hat,hoffline]
          exact .first trivial hflag rfl hqueue (by rw [hrequests,hnone]; rfl)
        exact .drained hfirst (by simp [wrote,hat,hnone])
      | cons q qs =>
        simp only [SensorDriver.step,next,transmitterStep,takesRequest,wrote,hat,hoffline,List.append_nil]
        rw [hoffline] at hcache
        exact .flushing rfl rfl (by simp [← hcache]) (by simp [← hcache]) rfl hqueue hrequests
    | _ => simp [hat,Early] at hpc
  | @flushing _ out pending hpc hflag hne hout hcache hqueue hrequests =>
    cases pending with
    | nil =>
      simp only [SensorDriver.step,next,transmitterStep,takesRequest,wrote,hpc,List.append_nil]
      rw [List.append_nil] at hout
      rw [hout]
      exact .flushed rfl hflag hne hcache hqueue hrequests
    | cons q pending =>
      simp only [SensorDriver.step,next,transmitterStep,takesRequest,wrote,hpc,hi,if_true]
      exact .flushing rfl hflag hne (by rw [← hout,List.append_assoc]; rfl) hcache hqueue hrequests
  | flushed hpc hflag hne hcache hqueue hrequests =>
    have hflush : flushes p₀.transmitter.offlineCache = 1 := if_neg hne
    simp only [SensorDriver.step,next,transmitterStep,takesRequest,wrote,hpc,hflag,List.append_nil]
    exact .drained (.first trivial rfl hcache hqueue (by rw [hrequests,hflush]; rfl))
      (List.append_nil _).symm
  | drained h hout =>
    exact .drained (transmitterStep_drained mac n hi h) (by rw [hout,List.append_assoc])

end Pipeline

variable {th : Setup} {g₀ g t : Gateway}

/-- No write of the step fails. -/
def Event.Written : Event → Prop
  | .transmitter i => i.written = true
  | _ => True

/-- What the time since `g₀` has pushed and delivered, while every write succeeded. -/
def Delivers (g₀ g : Gateway) : Prop :=
  ∃ packets out, g.pipeline.transmitter.pushed = g₀.pipeline.transmitter.pushed ++ packets ∧
    sent g.actions = sent g₀.actions ++ out ∧ Flow g₀.pipeline packets out g.pipeline

theorem Delivers.quiet (h : Delivers g₀ g) (hp : t.pipeline = g.pipeline)
    (hs : sent t.actions = sent g.actions) : Delivers g₀ t := by
  obtain ⟨packets,out,hpushed,hsent,hflow⟩ := h
  exact ⟨packets,out,by rw [hp,hpushed],hs.trans hsent,hp ▸ hflow⟩

theorem step_delivers {e : Event} (hinv : Inv g) (he : e.Written) (h : Delivers g₀ g)
    (hstep : step th g e = some t) : Delivers g₀ t := by
  unfold step at hstep
  split_ifs at hstep
  · obtain rfl := Option.some.inj hstep
    exact h
  · cases e with
    | montior => exact Option.some.inj hstep ▸ h
    | setEnable id => exact Option.some.inj hstep ▸ h
    | transmitter i =>
      cases turn_moves hinv.serving (Gateway.transmitterStep_turn hstep) with
      | quiet hpc hp hs => exact h.quiet hp hs
      | request m hp hs =>
        obtain ⟨packets,out,hpushed,hsent,hflow⟩ := h
        have hnext := transmitterStep_flow g.mac th.sensorCount
          (i := ⟨m,i.getSensor,i.written⟩) he hflow
        refine ⟨packets,_,?_,by rw [hs,hsent,List.append_assoc],hp ▸ hnext⟩
        rw [hp,← hpushed]
        exact transmitterStep_pushed _ _
    | sensor data06 =>
      obtain rfl := Option.some.inj hstep
      obtain ⟨hp,-,-,hactions⟩ := gateway_sensorStep th data06 g
      obtain ⟨packets,out,hpushed,hsent,hflow⟩ := h
      obtain ⟨new,hnew,hnext⟩ := sensorStep_flow g.mac th.sensorCount data06 hflow
      refine ⟨packets ++ new,out,?_,by rw [hactions,hsent],hp ▸ hnext⟩
      rw [hp,hnew,hpushed,List.append_assoc]

theorem run_delivers {es : List Event} (hinv : Inv g) (hrun : Run th g es t)
    (hwritten : ∀ e ∈ es, e.Written) (h : Delivers g₀ g) : Delivers g₀ t := by
  induction hrun with
  | refl => exact h
  | cons hstep _ ih =>
    obtain ⟨hfirst,hrest⟩ := List.forall_mem_cons.mp hwritten
    exact ih (step_inv hinv hstep) hrest (step_delivers hinv hfirst h hstep)

/-- Between two requests nothing has been delivered yet. -/
theorem Delivers.refl (hinv : Inv g) (hwaiting : g.pipeline.transmitter.pc = .waiting) :
    Delivers g g := by
  have hflag := hinv.packets.flagAgrees
  rw [hwaiting] at hflag
  exact ⟨[],[],(List.append_nil _).symm,(List.append_nil _).symm,
    .before (hwaiting ▸ trivial) hflag rfl (List.append_nil _).symm (by rw [hwaiting]; rfl)⟩

/-- What was delivered when no request is being handled. -/
theorem Flow.between {P : Type} {p₀ p : Pipeline P} {packets out : List P}
    (h : Flow p₀ packets out p) (hwaiting : p.transmitter.pc = .waiting) :
    ∃ k m, p.requests = p₀.requests + k ∧
      out = (if k = 0 then [] else p₀.transmitter.offlineCache) ++
        (p₀.transmitter.transmit.queue ++ packets).take m ∧
      p.transmitter.offlineCache = (if k = 0 then p₀.transmitter.offlineCache else []) ∧
      p.transmitter.transmit.queue = (p₀.transmitter.transmit.queue ++ packets).drop m ∧
      m ≤ k - flushes p₀.transmitter.offlineCache ∧
      min (k - flushes p₀.transmitter.offlineCache) p₀.transmitter.transmit.queue.length ≤ m := by
  cases h with
  | flushing hpc => simp [hwaiting] at hpc
  | flushed hpc => simp [hwaiting] at hpc
  | before _ _ hcache hqueue hrequests =>
    refine ⟨0,0,?_,rfl,hcache,hqueue,Nat.zero_le _,?_⟩
    · rw [hrequests,hwaiting]
      rfl
    · rw [Nat.zero_sub,Nat.zero_min]
  | @drained _ done _ h hout =>
    have hlive := h.live
    have hmost := h.most
    have hleast := h.least
    simp only [State.live,hwaiting,Pc.liveHand,List.nil_append] at hlive
    simp only [hwaiting,busy] at hmost hleast
    -- Without a request there was nothing to flush.
    have hnone (hk : p.requests - p₀.requests = 0) : p₀.transmitter.offlineCache = [] := by
      have hflush : flushes p₀.transmitter.offlineCache = 0 := by omega
      simpa [flushes] using hflush
    refine ⟨p.requests - p₀.requests,done.length,by omega,?_,?_,?_,by omega,by omega⟩
    · rw [← hlive,List.take_left,hout]
      split_ifs with hk
      · rw [hnone hk]
      · rfl
    · rw [h.cache]
      split_ifs with hk
      · exact (hnone hk).symm
      · rfl
    · rw [← hlive,List.drop_left]

/-- While the writes succeed, requests first deliver what `offline_cache` holds, and then one
packet of the queue each, in order, as long as there is one. -/
theorem delivered_in_turn {es₀ es : List Event} (hg : Starts th g₀) (hbefore : Run th g₀ es₀ g)
    (hidle : ∀ fd, g.pc ≠ .serving fd) (hrun : Run th g es t) (hwritten : ∀ e ∈ es, e.Written)
    (hdone : ∀ fd, t.pc ≠ .serving fd) :
    ∃ packets k m, t.pipeline.transmitter.pushed = g.pipeline.transmitter.pushed ++ packets ∧
      t.pipeline.requests = g.pipeline.requests + k ∧
      sent t.actions = sent g.actions ++ ((if k = 0 then [] else g.pipeline.transmitter.offlineCache) ++
        (g.pipeline.transmitter.transmit.queue ++ packets).take m) ∧
      t.pipeline.transmitter.offlineCache =
        (if k = 0 then g.pipeline.transmitter.offlineCache else []) ∧
      t.pipeline.transmitter.transmit.queue =
        (g.pipeline.transmitter.transmit.queue ++ packets).drop m ∧
      m ≤ k - flushes g.pipeline.transmitter.offlineCache ∧
      min (k - flushes g.pipeline.transmitter.offlineCache)
        g.pipeline.transmitter.transmit.queue.length ≤ m := by
  have hinv := run_inv hg hbefore
  have hwaiting := hinv.serving.resolve_right (not_exists.mpr hidle)
  have hafter := hrun.invariant (fun _ _ _ hs hstep => step_inv hs hstep) hinv
  obtain ⟨packets,out,hpushed,hsent,hflow⟩ := run_delivers hinv hrun hwritten (.refl hinv hwaiting)
  obtain ⟨k,m,hrequests,rfl,hrest⟩ :=
    hflow.between (hafter.serving.resolve_right (not_exists.mpr hdone))
  exact ⟨packets,k,m,hpushed,hrequests,hsent,hrest⟩

/-- The LAN device with a packet in the store file. -/
def storedGateway : Gateway := { lanGateway with pipeline := SensorDriver.start 1 true [str "05"] }

/-- A packet, and two 03 requests that are served. -/
def twoRequests : List Event :=
  .sensor (str "06")::List.replicate 14 (answered (.message requestFrame.bytes) 0)

theorem twoRequests_delivered :
    let t := lanAfter twoRequests storedGateway
    t.pipeline.requests = 2 ∧ sent t.actions = [str "05",str "06"] ∧
      ∃ packets k m, t.pipeline.requests = storedGateway.pipeline.requests + k ∧
        sent t.actions = sent storedGateway.actions ++
          ((if k = 0 then [] else storedGateway.pipeline.transmitter.offlineCache) ++
            (storedGateway.pipeline.transmitter.transmit.queue ++ packets).take m) := by
  have hstarts : Starts lanSetup storedGateway := ⟨rfl,rfl,⟨true,[str "05"],rfl⟩,rfl,rfl,rfl⟩
  have hwritten : ∀ e ∈ twoRequests, e.Written := by simp [twoRequests,answered,Event.Written]
  have htop : (lanAfter twoRequests storedGateway).pc = .top := by rfl
  obtain ⟨packets,k,m,-,hrequests,hsent,-⟩ := delivered_in_turn hstarts (.refl _)
    (by simp [storedGateway,lanGateway]) (run_stateAfter (by decide)) hwritten (by simp [htop])
  exact ⟨by decide,by decide,packets,k,m,hrequests,hsent⟩

/-- Whether the event is a step of `send_mess`. -/
def Event.isTransmitter : Event → Bool
  | .transmitter _ => true
  | _ => false

section Rank

variable {P : Type} {mac : Str} {n : ℕ}

/-- The steps that a request takes at most until it is done, with so many packets in
`offline_cache`. -/
@[simp] def stepsLeft (cached : ℕ) : MessageTransmitter.Pc P → ℕ
  | .waiting => 0
  | .pushBack _ => 1
  | .sendLive _ => 2
  | .tryLive => 3
  | .checkFlag => 4
  | .sendOffline pending _ => pending.length + 5
  | .takeOffline => cached + 6
  | .notifyGas => cached + 7
  | .notifyShip => cached + 8

variable (mac) in
theorem transmitterStep_stepsLeft (i : MessageTransmitter.Input) {s : State P} (hpc : s.pc ≠ .waiting) :
    stepsLeft (MessageTransmitter.transmitterStep mac i s).offlineCache.length
      (MessageTransmitter.transmitterStep mac i s).pc < stepsLeft s.offlineCache.length s.pc := by
  unfold MessageTransmitter.transmitterStep
  split <;> rename_i hat <;> rw [hat]
  · exact absurd hat hpc
  · split_ifs <;> simp
  · simp
  · split <;> rename_i hcache <;> simp [hcache]
  · split_ifs <;> simp
  · simp
  · split_ifs <;> simp
  · split <;> simp
  · split_ifs <;> simp
  · simp

variable (mac n) in
theorem sensorStep_cache (data06 : P) (p : Pipeline P) :
    (SensorDriver.sensorStep mac n data06 p).transmitter.offlineCache = p.transmitter.offlineCache := by
  unfold SensorDriver.sensorStep
  split
  · split_ifs <;> rfl
  · split_ifs <;> rfl
  · rfl

theorem stepsLeft_le (cached : ℕ) (pc : MessageTransmitter.Pc P) :
    stepsLeft cached pc ≤ cached + pc.hands.length + 8 := by
  cases pc <;> simp
  all_goals omega

theorem one_le_stepsLeft {cached : ℕ} {pc : MessageTransmitter.Pc P} (h : pc ≠ .waiting) :
    1 ≤ stepsLeft cached pc := by
  cases pc with
  | waiting => exact absurd rfl h
  | _ => simp

end Rank

namespace Gateway

/-- The steps of `send_mess` that the request being served takes at most. -/
def stepsLeft (g : Gateway) : ℕ :=
  match g.pc with
  | .serving _ =>
    max 1 (SendLoop.stepsLeft g.pipeline.transmitter.offlineCache.length g.pipeline.transmitter.pc)
  | _ => 0

end Gateway

theorem stepsLeft_serving {fd : Int} (h : g.pc = .serving fd) : g.stepsLeft = max 1
    (stepsLeft g.pipeline.transmitter.offlineCache.length g.pipeline.transmitter.pc) := by
  rw [Gateway.stepsLeft,h]

theorem stepsLeft_pos (h : 0 < g.stepsLeft) : ∃ fd, g.pc = .serving fd := by
  unfold Gateway.stepsLeft at h
  split at h
  · exact ⟨_,‹_›⟩
  · omega

theorem serve_stepsLeft (i : Input) {fd : Int} (hpc : g.pc = .serving fd) :
    (g.serve th fd i).stepsLeft < g.stepsLeft := by
  have hframe := Gateway.frame_onServe th fd i g
  rw [stepsLeft_serving hpc]
  unfold Gateway.serve
  dsimp only
  split
  · exact Nat.lt_of_lt_of_le Nat.zero_lt_one (Nat.le_max_left _ _)
  · rename_i hnot
    have hserved : ((g.onServe th fd i).request th [] i).pc = .serving fd := hframe.pc.trans hpc
    have hp : ((g.onServe th fd i).request th [] i).pipeline.transmitter =
        MessageTransmitter.transmitterStep g.mac ⟨[],i.getSensor,i.written⟩ g.pipeline.transmitter := by
      simp only [Gateway.request,Gateway.mac,hframe.pipeline,hframe.sys]
      rfl
    rw [stepsLeft_serving hserved]
    rw [hp] at hnot ⊢
    have hpending : g.pipeline.transmitter.pc ≠ .waiting := by
      intro hwaiting
      have hstays : receive g.mac [] ≠ some .dataRequest := by simp [receive]
      refine hnot ?_
      rw [MessageTransmitter.transmitterStep,hwaiting]
      simp only [hstays,if_false]
      exact hwaiting
    have hfall := transmitterStep_stepsLeft g.mac ⟨[],i.getSensor,i.written⟩ hpending
    rw [max_eq_right (one_le_stepsLeft hnot)]
    exact Nat.lt_of_lt_of_le hfall (Nat.le_max_right _ _)

theorem step_stepsLeft {e : Event} (hg : g.exited = false) (hpos : 0 < g.stepsLeft)
    (hstep : step th g e = some t) :
    t.stepsLeft + (if e.isTransmitter then 1 else 0) ≤ g.stepsLeft := by
  obtain ⟨fd,hpc⟩ := stepsLeft_pos hpos
  simp only [step,hg,Bool.false_eq_true,if_false] at hstep
  cases e with
  | transmitter i =>
    simp only [Gateway.transmitterStep,hpc,Option.some.injEq] at hstep
    exact hstep ▸ serve_stepsLeft i hpc
  | sensor data06 =>
    obtain rfl := Option.some.inj hstep
    obtain ⟨hp,-,hgpc,-⟩ := gateway_sensorStep th data06 g
    rw [stepsLeft_serving hpc,stepsLeft_serving (hgpc.trans hpc),hp,sensorStep_cache,
      (sensorStep_request g.mac th.sensorCount g.pipeline data06).1]
    exact Nat.le_refl _
  | montior => exact Option.some.inj hstep ▸ Nat.le_refl _
  | setEnable id => exact Option.some.inj hstep ▸ Nat.le_refl _

/-- Whatever its writes and the other threads do: with enough steps of `send_mess` the request
that is being handled comes to its end. -/
theorem request_ends {es : List Event} (hrun : Run th g es t) (hrunning : t.exited = false)
    (hsteps : g.pipeline.transmitter.offlineCache.length + g.pipeline.transmitter.pc.hands.length + 8 ≤
      es.countP (·.isTransmitter)) :
    ∃ es₁ es₂ u, es = es₁ ++ es₂ ∧ Run th g es₁ u ∧ Run th u es₂ t ∧ ∀ fd, u.pc ≠ .serving fd := by
  have hrank : g.stepsLeft ≤ es.countP (·.isTransmitter) := by
    have hle := stepsLeft_le g.pipeline.transmitter.offlineCache.length g.pipeline.transmitter.pc
    unfold Gateway.stepsLeft
    split <;> omega
  have hback (s : Gateway) (e : Event) (u : Gateway) (hstep : step th s e = some u)
      (hu : u.exited = false) : s.exited = false := by
    unfold step at hstep
    split_ifs at hstep with hs
    · exact Option.some.inj hstep ▸ hu
    · simpa using hs
  obtain ⟨es₁,es₂,u,hes,hfirst,hsecond,hzero⟩ := hrun.progress (I := fun g => g.exited = false) hback
    (fun _ _ _ => step_stepsLeft) hrunning hrank
  refine ⟨es₁,es₂,u,hes,hfirst,hsecond,fun fd hpc => ?_⟩
  rw [stepsLeft_serving hpc] at hzero
  omega

/-- The device in a flush. -/
def flushing : Gateway :=
  lanAfter (List.replicate 4 (answered (.message requestFrame.bytes) 0)) storedGateway

def failedWrites : List Event := List.replicate 9 (.transmitter ⟨.timeout,0,0,[],false,false,false⟩)

theorem failing_flush_ends : flushing.pipeline.transmitter.pc.hands = [str "05"] ∧
    ∃ es₁ es₂ u, failedWrites = es₁ ++ es₂ ∧ Run lanSetup flushing es₁ u ∧
      Run lanSetup u es₂ (lanAfter failedWrites flushing) ∧ ∀ fd, u.pc ≠ .serving fd :=
  ⟨by decide,request_ends (run_stateAfter (by decide)) (by decide) (by decide)⟩

end SendLoop
end Sap9001
