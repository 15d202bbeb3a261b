import Sap9001.MessageTransmitter
import Sap9001.Library.Overtaking

/-! The order in which `send_mess` delivers (`app/message_transmitter.cpp`). Packets get the
number of their push, or of their place in the store file, so that equal packets are told apart. -/
namespace Sap9001
namespace MessageTransmitter

open ReceiveBranch

variable {P Q : Type} {mac : Str}

@[simp] def Pc.map (f : P → Q) : Pc P → Pc Q
  | .waiting => .waiting
  | .notifyShip => .notifyShip
  | .notifyGas => .notifyGas
  | .takeOffline => .takeOffline
  | .sendOffline pending failed => .sendOffline (pending.map f) (failed.map f)
  | .checkFlag => .checkFlag
  | .tryLive => .tryLive
  | .sendLive p => .sendLive (f p)
  | .pushBack p => .pushBack (f p)

def State.map (f : P → Q) (s : State P) : State Q where
  offlineCache := s.offlineCache.map f
  transmit := ⟨s.transmit.queue.map f,s.transmit.closed⟩
  shipDataReady := s.shipDataReady
  gasDataReady := s.gasDataReady
  flag := s.flag
  pc := s.pc.map f
  loaded := s.loaded.map f
  pushed := s.pushed.map f
  deliveredOffline := s.deliveredOffline.map f
  deliveredLive := s.deliveredLive.map f
  found := s.found.map f

/-- `send_mess` does not look into the packets. -/
theorem map_transmitterStep (f : P → Q) (i : Input) (s : State P) :
    (transmitterStep mac i s).map f = transmitterStep mac i (s.map f) := by
  obtain ⟨offlineCache,⟨queue,closed⟩,ship,gas,flag,pc,loaded,pushed,dOffline,dLive,found⟩ := s
  cases pc with
  | waiting =>
    by_cases h : receive mac i.recvMessage = some .dataRequest <;> simp [transmitterStep,State.map,h]
  | notifyShip => cases h : i.getSensor <;> simp [transmitterStep,State.map,h]
  | notifyGas => rfl
  | takeOffline => cases offlineCache <;> simp [transmitterStep,State.map]
  | sendOffline pending failed =>
    cases pending with
    | nil => simp [transmitterStep,State.map]
    | cons p pending => cases h : i.written <;> simp [transmitterStep,State.map,h]
  | checkFlag => cases flag <;> rfl
  | tryLive => cases queue <;> simp [transmitterStep,State.map,MessageQueue.tryPop]
  | sendLive p => cases h : i.written <;> simp [transmitterStep,State.map,h]
  | pushBack p => simp [transmitterStep,State.map,MessageQueue.push]

@[simp] def Event.map (f : P → Q) : Event P → Event Q
  | .push p => .push (f p)
  | .transmitter i => .transmitter i

theorem map_next (f : P → Q) (e : Event P) (s : State P) :
    (next mac s e).map f = next mac (s.map f) (e.map f) := by
  cases e with
  | push p => simp [next,State.map,MessageQueue.push]
  | transmitter i => exact map_transmitterStep f i s

/-- The packets with their places, counted from `k`. -/
def number (k : ℕ) : List P → List (ℕ × P)
  | [] => []
  | p::ps => (k,p)::number (k+1) ps

/-- A run on numbered packets, with a record of the live packets that were put back behind
others, and of the offline packets that failed before others of their flush. -/
structure Trace (P : Type) where
  state : State (ℕ × P)
  displacedLive : List (ℕ × P)
  displacedOffline : List (ℕ × P)

/-- The live packet that the next step of the transmitter puts behind others. -/
def State.putBehind (s : State P) : List P :=
  match s.pc with
  | .pushBack p => if s.transmit.queue = [] then [] else [p]
  | _ => []

/-- The offline packet whose write fails in the next step while others are still to be sent. -/
def State.passedOver (i : Input) (s : State P) : List P :=
  match s.pc with
  | .sendOffline (p::pending) _ => if i.written ∨ pending = [] then [] else [p]
  | _ => []

namespace Trace

def start (loaded : List P) : Trace P := ⟨MessageTransmitter.start (number 0 loaded),[],[]⟩

def next (mac : Str) (t : Trace P) : Event P → Trace P
  | .push p =>
    { t with state := MessageTransmitter.next mac t.state (.push (t.state.pushed.length,p)) }
  | .transmitter i =>
    { state := MessageTransmitter.next mac t.state (.transmitter i)
      displacedLive := t.displacedLive ++ t.state.putBehind
      displacedOffline := t.displacedOffline ++ t.state.passedOver i }

structure Inv (t : Trace P) : Prop where
  numbered : ∀ q ∈ t.state.pushed, q.1 < t.state.pushed.length
  live : Overtaking.Ordered Prod.fst t.state.pushed t.state.live t.state.deliveredLive
    t.displacedLive
  offline : Overtaking.Ordered Prod.fst t.state.loaded t.state.offline t.state.deliveredOffline
    t.displacedOffline
  cacheTaken : t.state.CacheTaken
  skipped : ∀ pending failed, t.state.pc = .sendOffline pending failed → pending ≠ [] →
    ∀ q ∈ failed, q ∈ t.displacedOffline

variable {t : Trace P}

theorem le_of_mem_number {k : ℕ} {ps : List P} {q : ℕ × P} (h : q ∈ number k ps) : k ≤ q.1 := by
  induction ps generalizing k with
  | nil => simp [number] at h
  | cons p ps ih =>
    rcases List.mem_cons.mp h with rfl | h
    · exact Nat.le_refl k
    · have := ih h
      omega

theorem number_increasing (k : ℕ) (ps : List P) :
    (number k ps).Pairwise fun a b => a.1 < b.1 := by
  induction ps generalizing k with
  | nil => exact .nil
  | cons p ps ih => exact .cons (fun q hq => le_of_mem_number hq) (ih (k+1))

theorem map_snd_number (k : ℕ) (ps : List P) : (number k ps).map Prod.snd = ps := by
  induction ps generalizing k with
  | nil => rfl
  | cons p ps ih => simp [number,ih]

theorem start_inv (loaded : List P) : Inv (start loaded) where
  numbered := by simp [start,MessageTransmitter.start]
  live := by
    have hempty : Overtaking.Ordered (Prod.fst : ℕ × P → ℕ) [] [] [] [] := .start List.Pairwise.nil
    simpa [start,MessageTransmitter.start,State.live] using hempty
  offline := by simpa [start,MessageTransmitter.start,State.offline] using
    Overtaking.Ordered.start (number_increasing 0 loaded)
  cacheTaken := by simp [start,MessageTransmitter.start,State.CacheTaken]
  skipped := by simp [start,MessageTransmitter.start]

theorem push_inv (h : Inv t) (p : P) : Inv (next mac t (.push p)) where
  numbered := by
    intro q hq
    simp only [next,MessageTransmitter.next,List.mem_append,List.mem_singleton,
      List.length_append,List.length_singleton] at hq ⊢
    rcases hq with hq | rfl
    · have := h.numbered q hq
      omega
    · exact Nat.lt_succ_self _
  live := by
    have harrive := h.live.arrive (p := (t.state.pushed.length,p)) h.numbered
    simpa [next,MessageTransmitter.next,State.live] using harrive
  offline := h.offline
  cacheTaken := h.cacheTaken
  skipped := h.skipped

theorem transmitter_live (h : Inv t) (i : Input) :
    Overtaking.Ordered Prod.fst t.state.pushed (transmitterStep mac i t.state).live
      (transmitterStep mac i t.state).deliveredLive (t.displacedLive ++ t.state.putBehind) := by
  rcases transmitterStep_live mac i t.state with
    ⟨hlive,hdone⟩ | ⟨p,-,hlive,hdone⟩ | ⟨p,hpc,hlive,hdone⟩
  · rw [hlive,hdone]
    exact h.live.mono _
  · have hserve : Overtaking.Ordered Prod.fst t.state.pushed
        ([] ++ p::(transmitterStep mac i t.state).live) t.state.deliveredLive t.displacedLive := by
      rw [List.nil_append,← hlive]
      exact h.live
    rw [hdone]
    exact (hserve.serve (by simp)).mono _
  · have hback := h.live
    simp only [State.live,hpc,Pc.liveHand,List.singleton_append] at hback
    rw [hlive,hdone]
    simpa [State.putBehind,hpc] using hback.sendBack

theorem transmitter_offline (h : Inv t) (i : Input) :
    Overtaking.Ordered Prod.fst t.state.loaded (transmitterStep mac i t.state).offline
      (transmitterStep mac i t.state).deliveredOffline
      (t.displacedOffline ++ t.state.passedOver i) := by
  rcases transmitterStep_offline mac i h.cacheTaken with
    ⟨hoffline,hdone⟩ | ⟨p,pending,failed,hpc,hnow,hoffline,hdone⟩
  · rw [hoffline,hdone]
    exact h.offline.mono _
  · have hserve := h.offline
    rw [hnow] at hserve
    rw [hoffline,hdone]
    exact (hserve.serve (h.skipped _ _ hpc (by simp))).mono _

/-- How a flush comes to its next packet. -/
theorem transmitterStep_sendOffline {s : State P} {i : Input} {pending failed : List P}
    (h : (transmitterStep mac i s).pc = .sendOffline pending failed) : failed = [] ∨
      ∃ p, (s.pc = .sendOffline (p::pending) failed ∧ i.written = true) ∨
        ∃ failed', s.pc = .sendOffline (p::pending) failed' ∧ i.written = false ∧
          failed = failed' ++ [p] := by
  unfold transmitterStep at h
  split at h <;> rename_i hpc
  · split_ifs at h
    simp [hpc] at h
  · split_ifs at h
  · simp at h
  · split at h <;> simp_all
  · rename_i p pending' failed'
    cases hw : i.written <;> simp [hw] at h <;> obtain ⟨rfl,rfl⟩ := h
    · exact .inr ⟨p,.inr ⟨failed',hpc,rfl,rfl⟩⟩
    · exact .inr ⟨p,.inl ⟨hpc,rfl⟩⟩
  · simp at h
  · split_ifs at h
  · split at h <;> simp at h
  · split_ifs at h
  · simp at h

/-- Whoever failed in a flush that goes on has been passed over. -/
theorem transmitter_skipped (h : Inv t) (i : Input) (pending failed : List (ℕ × P))
    (hpc : (transmitterStep mac i t.state).pc = .sendOffline pending failed) (hne : pending ≠ []) :
    ∀ q ∈ failed, q ∈ t.displacedOffline ++ t.state.passedOver i := by
  intro q hq
  rcases transmitterStep_sendOffline hpc with rfl | ⟨p,⟨hbefore,-⟩ | ⟨failed',hbefore,hw,rfl⟩⟩
  · simp at hq
  · exact List.mem_append_left _ (h.skipped _ _ hbefore (by simp) q hq)
  · rcases List.mem_append.mp hq with hq | hq
    · exact List.mem_append_left _ (h.skipped _ _ hbefore (by simp) q hq)
    · refine List.mem_append_right _ ?_
      simpa [State.passedOver,hbefore,hw,hne] using hq

theorem next_inv (e : Event P) (h : Inv t) : Inv (next mac t e) := by
  cases e with
  | push p => exact push_inv h p
  | transmitter i =>
    refine ⟨?_,?_,?_,transmitterStep_cacheTaken i h.cacheTaken,transmitter_skipped h i⟩
    · simpa [next,MessageTransmitter.next] using h.numbered
    · simpa [next,MessageTransmitter.next] using transmitter_live h i
    · simpa [next,MessageTransmitter.next] using transmitter_offline h i

theorem run_inv (mac : Str) (loaded : List P) (events : List (Event P)) :
    Inv (events.foldl (next mac) (start loaded)) := by
  have hrun := StepSystem.Run.foldl (next mac) (start loaded) events
  refine hrun.invariant ?_ (start_inv loaded)
  rintro t e u ht rfl
  exact next_inv e ht

/-- The numbers change nothing: without them the run is that of `send_mess`. -/
theorem run_map (loaded : List P) (events : List (Event P)) :
    (events.foldl (next mac) (start loaded)).state.map Prod.snd =
      events.foldl (MessageTransmitter.next mac) (MessageTransmitter.start loaded) := by
  have hsteps (t : Trace P) : (events.foldl (next mac) t).state.map Prod.snd =
      events.foldl (MessageTransmitter.next mac) (t.state.map Prod.snd) := by
    induction events generalizing t with
    | nil => rfl
    | cons e events ih =>
      have hstep : (next mac t e).state.map Prod.snd =
          MessageTransmitter.next mac (t.state.map Prod.snd) e := by
        cases e <;> exact map_next Prod.snd _ t.state
      rw [List.foldl_cons,ih,hstep]
      rfl
  have hstart : (start loaded).state.map Prod.snd = MessageTransmitter.start loaded := by
    simp [start,MessageTransmitter.start,State.map,map_snd_number]
  rw [hsteps,hstart]

/-- A packet is delivered before an earlier one only when that one was put back behind others,
or failed in a flush that went on; without such packets delivery follows the order of the
pushes and of the store file. -/
theorem delivery_order (mac : Str) (loaded : List P) (events : List (Event P)) :
    ∃ t, t = events.foldl (next mac) (start loaded) ∧
    t.state.map Prod.snd =
      events.foldl (MessageTransmitter.next mac) (MessageTransmitter.start loaded) ∧
    (∀ p ∈ t.state.deliveredLive, ∀ q ∈ t.state.pushed, q.1 < p.1 →
      q ∈ t.state.deliveredLive ∨ q ∈ t.displacedLive) ∧
    (t.displacedLive = [] → t.state.deliveredLive <+: t.state.pushed) ∧
    (∀ p ∈ t.state.deliveredOffline, ∀ q ∈ t.state.loaded, q.1 < p.1 →
      q ∈ t.state.deliveredOffline ∨ q ∈ t.displacedOffline) ∧
    (t.displacedOffline = [] → t.state.deliveredOffline <+: t.state.loaded) := by
  have hinv := run_inv mac loaded events
  refine ⟨_,rfl,run_map loaded events,hinv.live.earlier,?_,hinv.offline.earlier,?_⟩
  · intro hnone
    exact ⟨_,hinv.live.undisturbed hnone⟩
  · intro hnone
    exact ⟨_,hinv.offline.undisturbed hnone⟩

end Trace

/-- Two packets, pushed or loaded, of which the first write of the first one fails: the second one
is delivered before it. -/
theorem packet_overtaken : (¬ ∀ (mac : Str) (loaded : List Str) (events : List (Event Str)) s,
      s = events.foldl (next mac) (start loaded) → s.deliveredLive <+: s.pushed) ∧
    ¬ ∀ (mac : Str) (loaded : List Str) (events : List (Event Str)) s,
      s = events.foldl (next mac) (start loaded) → s.deliveredOffline <+: s.loaded := by
  let frame (written : Bool) : Event Str := .transmitter ⟨requestFrame.bytes,false,written⟩
  constructor
  · intro hall
    have h := hall (str "SAP2400000000000") [] ([.push (str "$06A@"),.push (str "$06B@")] ++
      (List.replicate 7 (frame false) ++ List.replicate 6 (frame true))) _ rfl
    exact absurd h (by decide)
  · intro hall
    have h := hall (str "SAP2400000000000") [str "$21A",str "$21B"]
      (List.replicate 4 (frame false) ++ List.replicate 3 (frame true)) _ rfl
    exact absurd h (by decide)

end MessageTransmitter
end Sap9001
