import Sap9001.MessageQueue
import Sap9001.ReceiveBranch
import Sap9001.Library.StepSystem
import Mathlib.Data.List.Perm.Basic
import Mathlib.Data.List.Count

/-! The 03 request of `send_mess` (`app/message_transmitter.cpp`) against the sensor thread
that pushes packets. A step of the transmitter is one access to something shared or one
`write_full`; pushes may come between any two of them. -/
namespace Sap9001
namespace MessageTransmitter

open ReceiveBranch

/-- The point `send_mess` has reached, with what its local variables hold there. The
packets themselves are only handed to `write_full`, so their type `P` is a parameter. -/
inductive Pc (P : Type)
  | waiting
  | notifyShip
  | notifyGas
  | takeOffline
  | sendOffline (pendingPackets failedPackets : List P)
  | checkFlag
  | tryLive
  | sendLive (str : P)
  | pushBack (str : P)

/-- The packets that only local variables hold. -/
@[simp] def Pc.hands {P : Type} : Pc P → List P
  | .sendOffline pending failed => pending ++ failed
  | .sendLive p | .pushBack p => [p]
  | _ => []

/-- The queues, the flags and the local state, with a record of the run: what was loaded at
the start, pushed by the sensor thread and delivered, and what the request being handled
found in `offline_cache`. -/
structure State (P : Type) where
  offlineCache : List P
  transmit : MessageQueue P
  shipDataReady : Bool
  gasDataReady : Bool
  flag : Bool
  pc : Pc P
  loaded : List P
  pushed : List P
  deliveredOffline : List P
  deliveredLive : List P
  found : List P

/-- The state when `send_mess` starts, after `readFromFile` has filled `offline_cache`. -/
def start {P : Type} (loaded : List P) : State P where
  offlineCache := loaded
  transmit := {}
  shipDataReady := false
  gasDataReady := false
  flag := true
  pc := .waiting
  loaded := loaded
  pushed := []
  deliveredOffline := []
  deliveredLive := []
  found := []

/-- What a step of the transmitter takes from outside: the message read, whether the thread
of the gas sensors runs, and whether `write_full` returns 0. -/
structure Input where
  recvMessage : Str
  getSensor : Bool
  written : Bool

/-- One step of `send_mess` on a device with this MAC. -/
def transmitterStep {P : Type} (mac : Str) (i : Input) (s : State P) : State P :=
  match s.pc with
  | .waiting =>
    if receive mac i.recvMessage = some .dataRequest then { s with pc := .notifyShip } else s
  | .notifyShip =>
    { s with shipDataReady := true, pc := if i.getSensor then .notifyGas else .takeOffline }
  | .notifyGas => { s with gasDataReady := true, pc := .takeOffline }
  | .takeOffline =>
    -- The whole cache is taken under one lock; the flag suppresses the live send.
    match s.offlineCache with
    | [] => { s with found := [], pc := .checkFlag }
    | p::ps =>
      { s with
        offlineCache := []
        found := p::ps
        flag := false
        pc := .sendOffline (p::ps) [] }
  | .sendOffline (p::pending) failed =>
    if i.written then
      { s with deliveredOffline := s.deliveredOffline ++ [p], pc := .sendOffline pending failed }
    else { s with pc := .sendOffline pending (failed ++ [p]) }
  | .sendOffline [] failed =>
    -- The failures go back under a second lock.
    { s with offlineCache := s.offlineCache ++ failed, pc := .checkFlag }
  | .checkFlag => if s.flag then { s with pc := .tryLive } else { s with flag := true, pc := .waiting }
  | .tryLive =>
    match s.transmit.tryPop with
    | (some p,q) => { s with transmit := q, pc := .sendLive p }
    | (none,_) => { s with pc := .waiting }
  | .sendLive p =>
    if i.written then { s with deliveredLive := s.deliveredLive ++ [p], pc := .waiting }
    else { s with pc := .pushBack p }
  | .pushBack p => { s with transmit := s.transmit.push p, pc := .waiting }

inductive Event (P : Type)
  | push (packet : P)
  | transmitter (i : Input)

def next {P : Type} (mac : Str) (s : State P) : Event P → State P
  | .push p => { s with transmit := s.transmit.push p, pushed := s.pushed ++ [p] }
  | .transmitter i => transmitterStep mac i s

def Reachable {P : Type} (mac : Str) (s : State P) : Prop :=
  StepSystem.Reachable (fun s => ∃ loaded, s = start loaded) (fun s e t => next mac s e = t) s

variable {P : Type} {mac : Str} {s : State P}

/-- The packets for which `write_full` returned 0. -/
def State.delivered (s : State P) : List P := s.deliveredOffline ++ s.deliveredLive

/-- Every place where a packet can be. -/
def State.held (s : State P) : List P := s.offlineCache ++ (s.transmit.queue ++ s.pc.hands)

/-- Whether the flag is set and what the request found, at each point of the request. -/
@[simp] def Pc.FlagAgrees (flag : Bool) (found : List P) : Pc P → Prop
  | .sendOffline _ _ => flag = false ∧ found ≠ []
  | .checkFlag => flag = true → found = []
  | .tryLive | .sendLive _ | .pushBack _ => flag = true ∧ found = []
  | _ => flag = true

structure Inv (s : State P) : Prop where
  conserved : (s.held ++ s.delivered).Perm (s.loaded ++ s.pushed)
  flagAgrees : s.pc.FlagAgrees s.flag s.found

theorem start_inv (loaded : List P) : Inv (start loaded) where
  conserved := by simp [start,State.held,State.delivered]
  flagAgrees := rfl

/-- A step only moves packets between the places that hold them and the delivered ones. -/
theorem transmitterStep_moves (i : Input) (s : State P) :
    ((transmitterStep mac i s).held ++ (transmitterStep mac i s).delivered).Perm
      (s.held ++ s.delivered) := by
  classical
  refine List.perm_iff_count.mpr fun p => ?_
  unfold transmitterStep
  split <;> rename_i hpc <;> simp only [State.held,State.delivered,hpc]
  · split_ifs <;> simp [hpc]
  · split_ifs <;> simp
  · simp
  · split <;> rename_i hcache
    · simp
    · simp only [hcache,Pc.hands,List.count_append,List.count_nil]
      omega
  · split_ifs <;> simp [List.count_cons] <;> omega
  · simp
    omega
  · split_ifs <;> simp
  · split <;> rename_i hpop
    · have hq := MessageQueue.tryPop_some (congrArg Prod.fst hpop)
      rw [hpop] at hq
      simp only [hq,Pc.hands,List.count_append,List.count_cons,List.count_nil]
      omega
    · simp
  · split_ifs
    · simp only [Pc.hands,List.count_append,List.count_nil]
      omega
    · simp
  · simp

@[simp] theorem transmitterStep_loaded (i : Input) (s : State P) :
    (transmitterStep mac i s).loaded = s.loaded := by
  unfold transmitterStep
  split <;> (try split_ifs) <;> (try split) <;> rfl

@[simp] theorem transmitterStep_pushed (i : Input) (s : State P) :
    (transmitterStep mac i s).pushed = s.pushed := by
  unfold transmitterStep
  split <;> (try split_ifs) <;> (try split) <;> rfl

theorem transmitterStep_flagAgrees (i : Input) (h : s.pc.FlagAgrees s.flag s.found) :
    (transmitterStep mac i s).pc.FlagAgrees (transmitterStep mac i s).flag
      (transmitterStep mac i s).found := by
  unfold transmitterStep
  split <;> rename_i hpc <;> rw [hpc] at h
  · split_ifs <;> simp_all
  · split_ifs <;> simp_all
  · simp_all
  · split <;> simp_all
  · split_ifs <;> simp_all
  · simp_all
  · split_ifs <;> simp_all
  · split <;> simp_all
  · split_ifs <;> simp_all
  · simp_all

theorem next_conserves (e : Event P) (h : (s.held ++ s.delivered).Perm (s.loaded ++ s.pushed)) :
    ((next mac s e).held ++ (next mac s e).delivered).Perm
      ((next mac s e).loaded ++ (next mac s e).pushed) := by
  cases e with
  | push p =>
    classical
    have hc := List.perm_iff_count.mp h
    refine List.perm_iff_count.mpr fun q => ?_
    have hq := hc q
    simp only [State.held,State.delivered,next,MessageQueue.push_queue,List.count_append] at hq ⊢
    omega
  | transmitter i => simpa [next] using (transmitterStep_moves i s).trans h

theorem next_inv (e : Event P) (h : Inv s) : Inv (next mac s e) where
  conserved := next_conserves e h.conserved
  flagAgrees := by
    cases e with
    | push p => exact h.flagAgrees
    | transmitter i => exact transmitterStep_flagAgrees i h.flagAgrees

theorem reachable_inv (h : Reachable mac s) : Inv s := by
  refine StepSystem.Reachable.invariant ?_ ?_ h
  · rintro s ⟨loaded,rfl⟩
    exact start_inv loaded
  · rintro s e t hs rfl
    exact next_inv e hs

/-- Between requests every packet loaded or pushed is in exactly one place, as often as it
was loaded or pushed; a live packet is only written by a request that found
`offline_cache` empty. -/
theorem store_and_forward (h : Reachable mac s) :
    (s.pc = .waiting → (s.offlineCache ++ (s.transmit.queue ++ s.delivered)).Perm
      (s.loaded ++ s.pushed)) ∧
      ∀ p, s.pc = .sendLive p → s.found = [] := by
  have hinv := reachable_inv h
  constructor
  · intro hpc
    have hc := hinv.conserved
    simpa [State.held,hpc] using hc
  · intro p hpc
    have hf := hinv.flagAgrees
    rw [hpc] at hf
    exact hf.2

/-- The live packet that has been taken from the queue and is not delivered. -/
@[simp] def Pc.liveHand {P : Type} : Pc P → List P
  | .sendLive p | .pushBack p => [p]
  | _ => []

/-- The packets of a flush that are not delivered, in the order in which the flush met them. -/
@[simp] def Pc.offlineHand {P : Type} : Pc P → List P
  | .sendOffline pending failed => failed ++ pending
  | _ => []

/-- The live packets that are not delivered, in the order in which they will be tried. -/
def State.live (s : State P) : List P := s.pc.liveHand ++ s.transmit.queue

def State.offline (s : State P) : List P := s.pc.offlineHand ++ s.offlineCache

variable (mac) in
/-- All that a step does to the live packets: nothing, a delivery, or the return of a packet to
the end of the queue. -/
theorem transmitterStep_live (i : Input) (s : State P) :
    ((transmitterStep mac i s).live = s.live ∧
      (transmitterStep mac i s).deliveredLive = s.deliveredLive) ∨
    (∃ p, s.pc = .sendLive p ∧ s.live = p::(transmitterStep mac i s).live ∧
      (transmitterStep mac i s).deliveredLive = s.deliveredLive ++ [p]) ∨
    (∃ p, s.pc = .pushBack p ∧ (transmitterStep mac i s).live = s.transmit.queue ++ [p] ∧
      (transmitterStep mac i s).deliveredLive = s.deliveredLive) := by
  unfold transmitterStep
  split <;> rename_i hpc <;> simp only [State.live,hpc]
  · split_ifs <;> simp [hpc]
  · split_ifs <;> simp
  · simp
  · split <;> simp
  · split_ifs <;> simp
  · simp
  · split_ifs <;> simp
  · split <;> rename_i hpop
    · have hq := MessageQueue.tryPop_some (congrArg Prod.fst hpop)
      rw [hpop] at hq
      simp [hq]
    · simp
  · split_ifs <;> simp
  · simp

/-- During a flush `offline_cache` is empty: nothing else fills it. -/
def State.CacheTaken (s : State P) : Prop :=
  ∀ pending failed, s.pc = .sendOffline pending failed → s.offlineCache = []

theorem transmitterStep_cacheTaken (i : Input) (h : s.CacheTaken) :
    (transmitterStep mac i s).CacheTaken := by
  unfold transmitterStep
  split <;> rename_i hpc <;> intro pending failed hnext
  · split_ifs at hnext
    simp_all
  · split_ifs at hnext
  · simp_all
  · split at hnext <;> simp_all
  · split_ifs at hnext ⊢ <;> exact h _ _ hpc
  · simp_all
  · split_ifs at hnext
  · split at hnext <;> simp_all
  · split_ifs at hnext
  · simp_all

variable (mac) in
/-- All that a step does to the offline packets: nothing, or a delivery. -/
theorem transmitterStep_offline (i : Input) (h : s.CacheTaken) :
    ((transmitterStep mac i s).offline = s.offline ∧
      (transmitterStep mac i s).deliveredOffline = s.deliveredOffline) ∨
    (∃ p pending failed, s.pc = .sendOffline (p::pending) failed ∧
      s.offline = failed ++ p::pending ∧
      (transmitterStep mac i s).offline = failed ++ pending ∧
      (transmitterStep mac i s).deliveredOffline = s.deliveredOffline ++ [p]) := by
  unfold transmitterStep
  split <;> rename_i hpc <;> simp only [State.offline,hpc]
  · split_ifs <;> simp [hpc]
  · split_ifs <;> simp
  · simp
  · split <;> rename_i hcache <;> simp [hcache]
  · split_ifs <;> simp [h _ _ hpc]
  · simp [h _ _ hpc]
  · split_ifs <;> simp
  · split <;> simp
  · split_ifs <;> simp
  · simp

/-- Live packets stay accounted for, with those that someone else has taken from the queue. -/
theorem next_live (e : Event P) (taken : List P)
    (h : (taken ++ (s.live ++ s.deliveredLive)).Perm s.pushed) :
    (taken ++ ((next mac s e).live ++ (next mac s e).deliveredLive)).Perm (next mac s e).pushed := by
  classical
  have hc := List.perm_iff_count.mp h
  refine List.perm_iff_count.mpr fun q => ?_
  have hq := hc q
  cases e with
  | push p =>
    simp only [State.live,next,MessageQueue.push_queue,List.count_append] at hq ⊢
    omega
  | transmitter i =>
    simp only [next,transmitterStep_pushed]
    rcases transmitterStep_live mac i s with ⟨hl,hd⟩ | ⟨p,-,hl,hd⟩ | ⟨p,hpc,hl,hd⟩
    · rwa [hl,hd]
    · rw [hl] at hq
      simp only [hd,List.count_append,List.count_cons,List.count_nil] at hq ⊢
      omega
    · rw [State.live,hpc] at hq
      simp only [hl,hd,Pc.liveHand,List.count_append] at hq ⊢
      omega

theorem next_offline (e : Event P) (hc : s.CacheTaken)
    (h : (s.offline ++ s.deliveredOffline).Perm s.loaded) : (next mac s e).CacheTaken ∧
      ((next mac s e).offline ++ (next mac s e).deliveredOffline).Perm (next mac s e).loaded := by
  cases e with
  | push p => exact ⟨hc,h⟩
  | transmitter i =>
    refine ⟨transmitterStep_cacheTaken i hc,?_⟩
    simp only [next,transmitterStep_loaded]
    refine List.Perm.trans ?_ h
    rcases transmitterStep_offline mac i hc with ⟨ho,hd⟩ | ⟨p,pending,failed,-,ho,ho',hd⟩
    · rw [ho,hd]
    · rw [ho,ho',hd]
      simp only [List.append_assoc,List.cons_append]
      refine List.Perm.append_left failed ?_
      rw [← List.append_assoc]
      exact List.perm_append_singleton p _

/-- One stored packet, one pushed packet: a request whose write fails, one that delivers the
stored packet, and one whose live write fails. -/
def retries : State ℕ :=
  let frame (written : Bool) : Event ℕ := .transmitter ⟨requestFrame.bytes,false,written⟩
  (Event.push 3::(List.replicate 6 (frame false) ++ (List.replicate 6 (frame true) ++
    List.replicate 7 (frame false)))).foldl (next (str "SAP2400000000000")) (start [7])

theorem retries_conserve : retries.deliveredOffline = [7] ∧
    (retries.offlineCache ++ (retries.transmit.queue ++ retries.delivered)).Perm [7,3] := by
  have hr : Reachable (str "SAP2400000000000") retries := ⟨_,_,⟨[7],rfl⟩,StepSystem.Run.foldl _ _ _⟩
  exact ⟨by decide,(store_and_forward hr).1 rfl⟩

end MessageTransmitter
end Sap9001
