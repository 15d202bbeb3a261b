import Sap9001.Library.StepSystem

/-! Condition variables: threads that wait under a mutex until a condition holds for them. A
critical section is one step; the notification of a change is a step of its own, after the mutex
has been released. -/
namespace CondVar

variable {σ κ α : Type*}

/-- What the threads do under the mutex. In `test` a thread that waits in one way or another goes
on and changes the state, or has to sleep; `update` is a critical section of the others, with the
numbers of `notify_one` and `notify_all` that follow it. A sleeper may wake up by itself, and then
perhaps waits in another way. -/
structure Protocol (σ κ α : Type*) where
  test : κ → σ → Option σ
  update : α → σ → σ
  notifies : α → σ → ℕ
  broadcasts : α → σ → ℕ
  wakesAs : κ → κ → Bool

/-- The state under the mutex, the threads that are about to test it and those that sleep, and the
notifications that are still to come. -/
structure State (σ κ : Type*) where
  shared : σ
  testing : List κ
  asleep : List κ
  notifies : ℕ
  broadcasts : ℕ

def start (s : σ) : State σ κ := ⟨s,[],[],0,0⟩

inductive Event (κ α : Type*)
  | update (a : α)
  | enter (k : κ)
  | test (i : ℕ)
  | notify (i : ℕ)
  | broadcast
  | wake (i : ℕ) (k : κ)

/-- `none` where the event is not possible. A `notify_one` wakes a thread that sleeps, if there is
one. -/
def step (p : Protocol σ κ α) (s : State σ κ) : Event κ α → Option (State σ κ)
  | .update a =>
    some { s with
      shared := p.update a s.shared
      notifies := s.notifies + p.notifies a s.shared
      broadcasts := s.broadcasts + p.broadcasts a s.shared }
  | .enter k => some { s with testing := k::s.testing }
  | .test i =>
    match s.testing[i]? with
    | none => none
    | some k =>
      match p.test k s.shared with
      | some t => some { s with shared := t, testing := s.testing.eraseIdx i }
      | none => some { s with testing := s.testing.eraseIdx i, asleep := k::s.asleep }
  | .notify i =>
    if s.notifies = 0 then none
    else
      match s.asleep[i]? with
      | some k =>
        some { s with
          testing := k::s.testing
          asleep := s.asleep.eraseIdx i
          notifies := s.notifies - 1 }
      | none => if s.asleep = [] then some { s with notifies := s.notifies - 1 } else none
  | .broadcast =>
    if s.broadcasts = 0 then none
    else some { s with
      testing := s.testing ++ s.asleep
      asleep := []
      broadcasts := s.broadcasts - 1 }
  | .wake i k =>
    match s.asleep[i]? with
    | none => none
    | some k' =>
      if p.wakesAs k' k then
        some { s with testing := k::s.testing, asleep := s.asleep.eraseIdx i }
      else none

abbrev Run (p : Protocol σ κ α) : State σ κ → List (Event κ α) → State σ κ → Prop :=
  StepSystem.Run fun s e t => step p s e = some t

variable {p : Protocol σ κ α} {s t : State σ κ} {e : Event κ α}

/-- What a step can do. -/
inductive Steps (p : Protocol σ κ α) (s : State σ κ) : Event κ α → State σ κ → Prop
  | update (a : α) : Steps p s (.update a) { s with
      shared := p.update a s.shared
      notifies := s.notifies + p.notifies a s.shared
      broadcasts := s.broadcasts + p.broadcasts a s.shared }
  | enter (k : κ) : Steps p s (.enter k) { s with testing := k::s.testing }
  | goesOn {i k u} (hi : s.testing[i]? = some k) (htest : p.test k s.shared = some u) :
    Steps p s (.test i) { s with shared := u, testing := s.testing.eraseIdx i }
  | sleeps {i k} (hi : s.testing[i]? = some k) (htest : p.test k s.shared = none) :
    Steps p s (.test i) { s with testing := s.testing.eraseIdx i, asleep := k::s.asleep }
  | notify {i k} (hn : 0 < s.notifies) (hi : s.asleep[i]? = some k) : Steps p s (.notify i) { s with
      testing := k::s.testing
      asleep := s.asleep.eraseIdx i
      notifies := s.notifies - 1 }
  | nobody {i} (hn : 0 < s.notifies) (hnone : s.asleep = []) :
    Steps p s (.notify i) { s with notifies := s.notifies - 1 }
  | broadcast (hb : 0 < s.broadcasts) : Steps p s .broadcast { s with
      testing := s.testing ++ s.asleep
      asleep := []
      broadcasts := s.broadcasts - 1 }
  | wake {i k k'} (hi : s.asleep[i]? = some k') :
    Steps p s (.wake i k) { s with testing := k::s.testing, asleep := s.asleep.eraseIdx i }

theorem step_steps (h : step p s e = some t) : Steps p s e t := by
  cases e with
  | update a => exact Option.some.inj h ▸ .update a
  | enter k => exact Option.some.inj h ▸ .enter k
  | test i =>
    simp only [step] at h
    cases hi : s.testing[i]? with
    | none => simp [hi] at h
    | some k =>
      cases htest : p.test k s.shared with
      | some u =>
        simp only [hi,htest,Option.some.injEq] at h
        exact h ▸ .goesOn hi htest
      | none =>
        simp only [hi,htest,Option.some.injEq] at h
        exact h ▸ .sleeps hi htest
  | notify i =>
    by_cases hzero : s.notifies = 0
    · rw [step,if_pos hzero] at h
      cases h
    · have hn : 0 < s.notifies := Nat.pos_of_ne_zero hzero
      rw [step,if_neg hzero] at h
      cases hi : s.asleep[i]? with
      | some k =>
        simp only [hi,Option.some.injEq] at h
        exact h ▸ .notify hn hi
      | none =>
        simp only [hi] at h
        split_ifs at h with hnone
        exact Option.some.inj h ▸ .nobody hn hnone
  | broadcast =>
    simp only [step] at h
    split_ifs at h with hzero
    exact Option.some.inj h ▸ .broadcast (Nat.pos_of_ne_zero hzero)
  | wake i k =>
    simp only [step] at h
    cases hi : s.asleep[i]? with
    | none => simp [hi] at h
    | some k' =>
      simp only [hi] at h
      split_ifs at h
      exact Option.some.inj h ▸ .wake hi

theorem length_eraseIdx_of_getElem? {l : List κ} {i : ℕ} {k : κ} (h : l[i]? = some k) :
    (l.eraseIdx i).length + 1 = l.length := by
  obtain ⟨hi,-⟩ := List.getElem?_eq_some_iff.mp h
  rw [List.length_eraseIdx_of_lt hi]
  omega

/-- What holds of the state and is kept under the mutex holds in every run. -/
theorem shared_invariant {I : σ → Prop} {s₀ : σ} {es : List (Event κ α)}
    (htest : ∀ k s t, I s → p.test k s = some t → I t) (hupdate : ∀ a s, I s → I (p.update a s))
    (hs : I s₀) (hrun : Run p (start s₀) es s) : I s.shared := by
  refine hrun.invariant (I := fun s => I s.shared) (fun s e t h hstep => ?_) hs
  cases step_steps hstep with
  | update a => exact hupdate a _ h
  | goesOn hi hgoes => exact htest _ _ _ h hgoes
  | _ => exact h

/-- What `avail` counts lets as many threads go on, and is announced one by one. -/
structure Counts (p : Protocol σ κ α) (avail : σ → ℕ) : Prop where
  taken : ∀ k s t, p.test k s = some t → avail t ≤ avail s - 1
  sleeps : ∀ k s, p.test k s = none → avail s = 0
  added : ∀ a s, avail (p.update a s) ≤ avail s + p.notifies a s

/-- The rule for `notify_one`: while a thread sleeps, everything that is there has its notification
still to come, or its thread awake. -/
theorem Counts.notified {avail : σ → ℕ} (h : Counts p avail) {s₀ : σ} {es : List (Event κ α)}
    (hrun : Run p (start s₀) es s) (hsleep : s.asleep ≠ []) :
    avail s.shared ≤ s.notifies + s.testing.length := by
  refine hrun.invariant (I := fun s => s.asleep ≠ [] → avail s.shared ≤ s.notifies + s.testing.length)
    (fun s e t hs hstep hasleep => ?_) (fun hnot => absurd rfl hnot) hsleep
  cases step_steps hstep with
  | update a =>
    have hadded := h.added a s.shared
    have hbefore := hs hasleep
    simp only
    omega
  | enter k =>
    have hbefore := hs hasleep
    simp only [List.length_cons]
    omega
  | goesOn hi htest =>
    have htaken := h.taken _ _ _ htest
    have hlength := length_eraseIdx_of_getElem? hi
    have hbefore := hs hasleep
    simp only
    omega
  | sleeps hi htest =>
    simp only [h.sleeps _ _ htest]
    exact Nat.zero_le _
  | notify hn hi =>
    have hbefore := hs (by rintro hnone; simp [hnone] at hi)
    simp only [List.length_cons]
    omega
  | nobody hn hnone => exact absurd hnone hasleep
  | broadcast => exact absurd rfl hasleep
  | wake hi =>
    have hbefore := hs (by rintro hnone; simp [hnone] at hi)
    simp only [List.length_cons]
    omega

/-- What is `due` lets the threads of a kind go on, and is announced to all. -/
structure Announces (p : Protocol σ κ α) (due : κ → σ → Prop) : Prop where
  sleeps : ∀ k s, p.test k s = none → ¬ due k s
  taken : ∀ k k' s t, p.test k s = some t → due k' t → due k' s
  added : ∀ a k s, due k (p.update a s) → due k s ∨ 0 < p.broadcasts a s

/-- The rule for `notify_all`: a thread only sleeps through what is due to it while the
notification is still to come. -/
theorem Announces.announced {due : κ → σ → Prop} (h : Announces p due) {s₀ : σ}
    {es : List (Event κ α)} (hrun : Run p (start s₀) es s) {k : κ} (hk : k ∈ s.asleep)
    (hdue : due k s.shared) : 0 < s.broadcasts := by
  refine hrun.invariant (I := fun s => ∀ k ∈ s.asleep, due k s.shared → 0 < s.broadcasts)
    (fun s e t hs hstep k hk hdue => ?_) (fun k hk => absurd hk List.not_mem_nil) k hk hdue
  cases step_steps hstep with
  | update a =>
    rcases h.added a k s.shared hdue with hbefore | hnew
    · exact Nat.add_pos_left (hs k hk hbefore) _
    · exact Nat.add_pos_right _ hnew
  | enter => exact hs k hk hdue
  | goesOn hi htest => exact hs k hk (h.taken _ _ _ _ htest hdue)
  | sleeps hi htest =>
    rcases List.mem_cons.mp hk with rfl | hk
    · exact absurd hdue (h.sleeps _ _ htest)
    · exact hs k hk hdue
  | notify hn hi => exact hs k (List.mem_of_mem_eraseIdx hk) hdue
  | nobody => exact hs k hk hdue
  | broadcast => exact absurd hk List.not_mem_nil
  | wake hi => exact hs k (List.mem_of_mem_eraseIdx hk) hdue

/-- Whether the event only brings a thread on that is in the middle of something. -/
def Event.settles : Event κ α → Bool
  | .test _ | .notify _ | .broadcast => true
  | _ => false

/-- The steps that the threads have left at most if nothing new happens. -/
def stepsLeft (s : State σ κ) : ℕ :=
  s.testing.length + 2*s.notifies + (s.testing.length + s.asleep.length + 1)*s.broadcasts

theorem step_stepsLeft (he : e.settles = true) (h : step p s e = some t) : stepsLeft t < stepsLeft s := by
  unfold stepsLeft
  cases step_steps h with
  | update | enter | wake => cases he
  | @goesOn i k u hi =>
    have hlength := length_eraseIdx_of_getElem? hi
    have hwaiters : (s.testing.eraseIdx i).length + s.asleep.length + 1 ≤
        s.testing.length + s.asleep.length + 1 := by omega
    have hrounds := Nat.mul_le_mul_right s.broadcasts hwaiters
    simp only
    omega
  | @sleeps i k hi =>
    have hlength := length_eraseIdx_of_getElem? hi
    have hwaiters : (s.testing.eraseIdx i).length + (k::s.asleep).length + 1 =
        s.testing.length + s.asleep.length + 1 := by
      rw [List.length_cons]
      omega
    simp only [hwaiters]
    omega
  | @notify i k hn hi =>
    have hlength := length_eraseIdx_of_getElem? hi
    have hwaiters : (k::s.testing).length + (s.asleep.eraseIdx i).length + 1 =
        s.testing.length + s.asleep.length + 1 := by
      rw [List.length_cons]
      omega
    simp only [hwaiters]
    rw [List.length_cons]
    omega
  | nobody hn =>
    simp only
    omega
  | broadcast hb =>
    obtain ⟨b,hb'⟩ := Nat.exists_eq_succ_of_ne_zero (Nat.ne_of_gt hb)
    simp only [hb',List.length_append,List.length_nil,Nat.mul_succ,Nat.succ_sub_one,Nat.add_zero]
    omega

/-- Threads that are only brought on come to rest. -/
theorem settling_length {es : List (Event κ α)} (hes : ∀ e ∈ es, e.settles = true) (hrun : Run p s es t) :
    es.length + stepsLeft t ≤ stepsLeft s := by
  induction hrun with
  | refl => simp
  | cons hstep _ ih =>
    obtain ⟨hfirst,hrest⟩ := List.forall_mem_cons.mp hes
    have hfall := step_stepsLeft hfirst hstep
    have hleft := ih hrest
    simp only [List.length_cons]
    omega

/-- No thread is in the middle of anything. -/
structure Settled (s : State σ κ) : Prop where
  testing : s.testing = []
  notifies : s.notifies = 0
  broadcasts : s.broadcasts = 0

/-- A state that is not at rest can be brought on. -/
theorem settled_or_step (p : Protocol σ κ α) (s : State σ κ) :
    Settled s ∨ ∃ e : Event κ α, e.settles = true ∧ (step p s e).isSome = true := by
  by_cases htesting : s.testing = []
  · by_cases hnotifies : s.notifies = 0
    · by_cases hbroadcasts : s.broadcasts = 0
      · exact .inl ⟨htesting,hnotifies,hbroadcasts⟩
      · exact .inr ⟨.broadcast,rfl,by rw [step,if_neg hbroadcasts]; rfl⟩
    · refine .inr ⟨.notify 0,rfl,?_⟩
      rw [step,if_neg hnotifies]
      cases hasleep : s.asleep with
      | nil => rfl
      | cons k ks => rfl
  · refine .inr ⟨.test 0,rfl,?_⟩
    obtain ⟨k,ks,htest⟩ := List.exists_cons_of_ne_nil htesting
    rw [step,htest]
    simp only [List.getElem?_cons_zero]
    cases p.test k s.shared <;> rfl

end CondVar
