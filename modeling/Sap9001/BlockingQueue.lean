import Sap9001.MessageQueue
import Sap9001.Library.CondVar

/-! The message queue under any number of threads (`infra/message_queue.h`): `pop` waits on the
condition variable, `push` and `close` notify it after they have released the mutex. -/
namespace Sap9001
namespace MessageQueue

variable {T : Type}

/-- How a thread waits in `pop`: with a negative `timeout_ms`, until its time is up, or for one
last test after that. -/
inductive Wait
  | forever
  | timed
  | expired
  deriving DecidableEq

/-- How a call ended, with what it took from the queue. -/
inductive Return (T : Type)
  | popped (item : T)
  | empty
  | closed
  | timedOut
  | drained (items : List T)
  | cleared (items : List T)

def Return.items : Return T → List T
  | .popped item => [item]
  | .drained items | .cleared items => items
  | _ => []

/-- The queue, what was pushed, and how calls ended, in the order in which they held the mutex. -/
structure Log (T : Type) where
  queue : MessageQueue T
  pushed : List T
  returns : List (Return T)

def Log.ends (r : Return T) (q : MessageQueue T) (s : Log T) : Log T :=
  { s with queue := q, returns := s.returns ++ [r] }

/-- `pop` when it has the mutex: it comes to its end, or sleeps. -/
def pop (w : Wait) (s : Log T) : Option (Log T) :=
  if s.queue.queue.isEmpty && !s.queue.closed then
    if w = .expired then some (s.ends .timedOut s.queue) else none
  else
    match s.queue.tryPop with
    | (some item,q) => some (s.ends (.popped item) q)
    | (none,q) => some (s.ends .closed q)

inductive Op (T : Type)
  | push (item : T)
  | tryPop
  | popAll
  | clear
  | close

def perform (s : Log T) : Op T → Log T
  | .push item => { s with queue := s.queue.push item, pushed := s.pushed ++ [item] }
  | .tryPop =>
    match s.queue.tryPop with
    | (some item,q) => s.ends (.popped item) q
    | (none,q) => s.ends .empty q
  | .popAll => s.ends (.drained s.queue.popAll.1) s.queue.popAll.2
  | .clear => s.ends (.cleared s.queue.queue) s.queue.clear
  | .close => { s with queue := s.queue.close }

/-- `push` wakes one thread, `close` all of them. A wait that is bounded may end by its time. -/
def protocol (T : Type) : CondVar.Protocol (Log T) Wait (Op T) where
  test := pop
  update op s := perform s op
  notifies op _ :=
    match op with
    | .push _ => 1
    | _ => 0
  broadcasts op _ :=
    match op with
    | .close => 1
    | _ => 0
  wakesAs w w' := w' = w || (w = .timed && w' = .expired)

def start : CondVar.State (Log T) Wait := CondVar.start ⟨{},[],[]⟩

variable {w : Wait} {s t : Log T}

/-- The ways in which `pop` goes. -/
inductive Pops (w : Wait) (s : Log T) : Option (Log T) → Prop
  | sleeps (hempty : s.queue.queue = []) (hopen : s.queue.closed = false) (hw : w ≠ .expired) :
    Pops w s none
  | timedOut (hempty : s.queue.queue = []) : Pops w s (some (s.ends .timedOut s.queue))
  | popped {item q} (hq : s.queue.queue = item::q.queue) (hclosed : q.closed = s.queue.closed) :
    Pops w s (some (s.ends (.popped item) q))
  | closed (hempty : s.queue.queue = []) (hclosed : s.queue.closed = true) :
    Pops w s (some (s.ends .closed s.queue))

/-- The two ways of `tryPop`. -/
theorem tryPop_cases (q : MessageQueue T) :
    (∃ item q', q.tryPop = (some item,q') ∧ q.queue = item::q'.queue ∧ q'.closed = q.closed) ∨
      q.tryPop = (none,q) ∧ q.queue = [] := by
  cases hq : q.queue with
  | nil => exact .inr ⟨by rw [tryPop,hq],rfl⟩
  | cons item rest => exact .inl ⟨item,⟨rest,q.closed⟩,by rw [tryPop,hq],rfl,rfl⟩

variable (w s) in
theorem pop_pops : Pops w s (pop w s) := by
  unfold pop
  split_ifs with hwait hw
  · simp only [Bool.and_eq_true,List.isEmpty_iff] at hwait
    exact .timedOut hwait.1
  · simp only [Bool.and_eq_true,List.isEmpty_iff,Bool.not_eq_true'] at hwait
    exact .sleeps hwait.1 hwait.2 hw
  · rcases tryPop_cases s.queue with ⟨item,q,hpop,hq,hclosed⟩ | ⟨hpop,hempty⟩ <;> simp only [hpop]
    · exact .popped hq hclosed
    · exact .closed hempty (by simpa [hempty] using hwait)

variable (T) in
/-- Every packet in the queue was announced to one thread. -/
theorem counts : CondVar.Counts (protocol T) fun s => s.queue.queue.length where
  taken := by
    intro w s t htest
    have hpops : Pops w s (some t) := htest ▸ pop_pops w s
    cases hpops with
    | timedOut hempty => simp [Log.ends,hempty]
    | closed hempty => simp [Log.ends,hempty]
    | popped hq => simp [Log.ends,hq]
  sleeps := by
    intro w s htest
    have hpops : Pops w s none := htest ▸ pop_pops w s
    cases hpops with
    | sleeps hempty => simp [hempty]
  added := by
    intro op s
    cases op with
    | push item => simp [protocol,perform]
    | tryPop =>
      rcases tryPop_cases s.queue with ⟨item,q,hpop,hq,-⟩ | ⟨hpop,hempty⟩
      · simp [protocol,perform,hpop,Log.ends,hq]
      · simp [protocol,perform,hpop,Log.ends]
    | popAll => simp [protocol,perform,Log.ends,popAll]
    | clear => simp [protocol,perform,Log.ends,clear]
    | close => simp [protocol,perform,close]

variable (T) in
/-- That the queue is closed was announced to all. -/
theorem announces : CondVar.Announces (protocol T) fun _ s => s.queue.closed = true where
  sleeps := by
    intro w s htest
    have hpops : Pops w s none := htest ▸ pop_pops w s
    cases hpops with
    | sleeps _ hopen => simp [hopen]
  taken := by
    intro w _ s t htest hclosed
    have hpops : Pops w s (some t) := htest ▸ pop_pops w s
    cases hpops with
    | timedOut => exact hclosed
    | closed => exact hclosed
    | popped _ hsame => exact hsame ▸ hclosed
  added := by
    intro op w s hclosed
    cases op with
    | push item => exact .inl hclosed
    | tryPop =>
      rcases tryPop_cases s.queue with ⟨item,q,hpop,-,hsame⟩ | ⟨hpop,-⟩ <;>
        simp only [protocol,perform,hpop] at hclosed
      · exact .inl (hsame ▸ hclosed)
      · exact .inl hclosed
    | popAll => exact .inl hclosed
    | clear => exact .inl hclosed
    | close => exact .inr Nat.zero_lt_one

/-- Everything that was pushed was taken by one call, in order, or is in the queue; `pop` only
finds the queue closed when it is. -/
structure Inv (s : Log T) : Prop where
  fifo : s.returns.flatMap Return.items ++ s.queue.queue = s.pushed
  closed : .closed ∈ s.returns → s.queue.closed = true

/-- A call that takes the front of the queue. -/
theorem Inv.ends (h : Inv s) {r : Return T} {q : MessageQueue T}
    (hitems : r.items ++ q.queue = s.queue.queue) (hclosed : q.closed = s.queue.closed)
    (hr : r = .closed → s.queue.closed = true) : Inv (s.ends r q) where
  fifo := by
    have hfifo := h.fifo
    simp only [Log.ends,List.flatMap_append,List.flatMap_singleton,List.append_assoc]
    rw [hitems,hfifo]
  closed := by
    intro hmem
    simp only [Log.ends,List.mem_append,List.mem_singleton] at hmem ⊢
    rw [hclosed]
    rcases hmem with hmem | hmem
    · exact h.closed hmem
    · exact hr hmem.symm

theorem pop_inv (h : Inv s) (hpop : pop w s = some t) : Inv t := by
  have hpops : Pops w s (some t) := hpop ▸ pop_pops w s
  cases hpops with
  | timedOut => exact h.ends rfl rfl (by simp)
  | closed _ hclosed => exact h.ends rfl rfl fun _ => hclosed
  | popped hq hclosed => exact h.ends hq.symm hclosed (by simp)

theorem perform_inv (op : Op T) (h : Inv s) : Inv (perform s op) := by
  cases op with
  | push item => exact ⟨by simp [perform,← h.fifo],h.closed⟩
  | close => exact ⟨h.fifo,fun _ => rfl⟩
  | popAll => exact h.ends (List.append_nil _) rfl (by simp)
  | clear => exact h.ends (List.append_nil _) rfl (by simp)
  | tryPop =>
    rcases tryPop_cases s.queue with ⟨item,q,hpop,hq,hclosed⟩ | ⟨hpop,-⟩ <;> simp only [perform,hpop]
    · exact h.ends hq.symm hclosed (by simp)
    · exact h.ends rfl rfl (by simp)

variable {c d : CondVar.State (Log T) Wait}

/-- However threads push, pop with and without a limit, drain, clear and close, and however late
they notify: everything pushed is taken once and in order; threads left alone come to rest in a
bounded number of steps; and none of them then sleeps in `pop` beside a packet or after `close`. -/
theorem no_lost_wakeup {es es' : List (CondVar.Event Wait (Op T))}
    (hrun : CondVar.Run (protocol T) start es c) (hleft : ∀ e ∈ es', e.settles = true)
    (hrun' : CondVar.Run (protocol T) c es' d) :
    d.shared.returns.flatMap Return.items ++ d.shared.queue.queue = d.shared.pushed ∧
      (.closed ∈ d.shared.returns → d.shared.queue.closed = true) ∧
      es'.length ≤ CondVar.stepsLeft c ∧
      (CondVar.Settled d ∨ ∃ e : CondVar.Event Wait (Op T), e.settles = true ∧
        (CondVar.step (protocol T) d e).isSome = true) ∧
      (d.asleep ≠ [] → d.shared.queue.queue.length ≤ d.notifies + d.testing.length ∧
        (d.shared.queue.closed = true → 0 < d.broadcasts)) ∧
      (CondVar.Settled d → d.asleep ≠ [] →
        d.shared.queue.queue = [] ∧ d.shared.queue.closed = false) := by
  have hreach := hrun.append hrun'
  have hinv : Inv d.shared := CondVar.shared_invariant (fun w s t h htest => pop_inv h htest)
    (fun op s h => perform_inv op h) ⟨rfl,by simp⟩ hreach
  have hawake (hsleep : d.asleep ≠ []) :
      d.shared.queue.queue.length ≤ d.notifies + d.testing.length ∧
        (d.shared.queue.closed = true → 0 < d.broadcasts) := by
    obtain ⟨w,hw⟩ := List.exists_mem_of_ne_nil _ hsleep
    exact ⟨(counts T).notified hreach hsleep,fun hclosed => (announces T).announced hreach hw hclosed⟩
  refine ⟨hinv.fifo,hinv.closed,?_,CondVar.settled_or_step _ _,hawake,fun hsettled hsleep => ?_⟩
  · have hlength := CondVar.settling_length hleft hrun'
    omega
  · obtain ⟨hcount,hclosed⟩ := hawake hsleep
    rw [hsettled.notifies,hsettled.testing] at hcount
    rw [hsettled.broadcasts] at hclosed
    exact ⟨List.eq_nil_of_length_eq_zero (Nat.le_zero.mp hcount),by simpa using hclosed⟩

/-- Two threads sleep in `pop`; a packet has been pushed and its notification is still to come. -/
def onePushed : CondVar.State (Log ℕ) Wait := ⟨⟨⟨[7],false⟩,[7],[]⟩,[],[.forever,.forever],1,0⟩

def onePopped : CondVar.State (Log ℕ) Wait := ⟨⟨⟨[],false⟩,[7],[.popped 7]⟩,[],[.forever],0,0⟩

theorem onePopped_sleeps : onePopped.asleep = [.forever] ∧ CondVar.stepsLeft onePushed = 2 ∧
    onePopped.shared.queue.queue = [] ∧ onePopped.shared.queue.closed = false := by
  have hrun : CondVar.Run (protocol ℕ) start
      [.enter .forever,.test 0,.enter .forever,.test 0,.update (.push 7)] onePushed :=
    StepSystem.Run.foldlM rfl
  have hrun' : CondVar.Run (protocol ℕ) onePushed [.notify 0,.test 0] onePopped :=
    StepSystem.Run.foldlM rfl
  obtain ⟨-,-,-,-,-,hsettled⟩ := no_lost_wakeup hrun (by simp [CondVar.Event.settles]) hrun'
  exact ⟨rfl,rfl,hsettled ⟨rfl,rfl,rfl⟩ (by simp [onePopped])⟩

end MessageQueue
end Sap9001
