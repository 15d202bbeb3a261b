import Sap9001.DeviceMap
import Sap9001.RegistManage
import Sap9001.Library.StepSystem

/-! Runs of `device_regist` on any sequence of results of `select`, `read` and `write`: every
run ends within a bounded number of attempts, and a run that returns success has gone
through the handshake with the gateway. -/
namespace Sap9001
namespace RegistManage

variable {F : Type} {mktime : Tm → Option Int} {vec : List Channel} {s t : State F}

@[simp] def Event.index : Event → Option ℕ
  | .select k | .regist k _ _ => some k
  | _ => none

@[simp] def Event.isRegist : Event → Bool
  | .regist _ _ _ => true
  | _ => false

@[simp] def Event.registers (k : ℕ) : Event → Bool
  | .regist j _ _ => j == k
  | _ => false

@[simp] def Event.isConfirm : Event → Bool
  | .confirm _ _ => true
  | _ => false

/-- Events that neither select a device nor write a packet. -/
@[simp] def Event.Passive (e : Event) : Prop :=
  e.index = none ∧ e.isConfirm = false

/-- The entries of the vector in the order in which they are selected and written to. -/
def tried (trace : List Event) : List ℕ := trace.filterMap Event.index

/-- The number of registration packets written to the device of entry `k`. -/
def sent (k : ℕ) (trace : List Event) : ℕ := trace.countP (Event.registers k)

def registrations (trace : List Event) : ℕ := trace.countP Event.isRegist

def confirmations (trace : List Event) : ℕ := trace.countP Event.isConfirm

/-- The bounds on what a run does: at most four registration packets for a device, each on
the descriptor of its entry, at most four confirmations, and devices tried from the last
entry down, none skipped and none tried again. -/
structure Bounded (vec : List Channel) (trace : List Event) : Prop where
  perDevice : ∀ k, sent k trace ≤ 4
  total : registrations trace ≤ 4*vec.length
  confirmed : confirmations trace ≤ 4
  fromLast : ∀ k ∈ (tried trace).head?, k + 1 = vec.length
  descending : (tried trace).IsChain (fun j k => k = j ∨ k + 1 = j)
  addressed : ∀ k c m, Event.regist k c m ∈ trace → vec[k]? = some c

section Passive

variable {trace evs : List Event} (h : ∀ e ∈ evs, e.Passive)
include h

theorem tried_passive : tried (trace ++ evs) = tried trace := by
  have hnil : evs.filterMap Event.index = [] :=
    List.filterMap_eq_nil_iff.mpr fun e he => (h e he).1
  rw [tried,List.filterMap_append,hnil,List.append_nil]
  rfl

theorem countP_passive {p : Event → Bool} (hp : ∀ e, e.Passive → p e = false) :
    (trace ++ evs).countP p = trace.countP p := by
  have hzero : evs.countP p = 0 := List.countP_eq_zero.mpr fun e he => by rw [hp e (h e he)]; simp
  rw [List.countP_append,hzero,Nat.add_zero]

theorem sent_passive (k : ℕ) : sent k (trace ++ evs) = sent k trace :=
  countP_passive h fun e he => by cases e <;> simp_all

theorem registrations_passive : registrations (trace ++ evs) = registrations trace :=
  countP_passive h fun e he => by cases e <;> simp_all

theorem confirmations_passive : confirmations (trace ++ evs) = confirmations trace :=
  countP_passive h fun _ he => he.2

theorem Bounded.passive (hb : Bounded vec trace) : Bounded vec (trace ++ evs) where
  perDevice k := by rw [sent_passive h]; exact hb.perDevice k
  total := by rw [registrations_passive h]; exact hb.total
  confirmed := by rw [confirmations_passive h]; exact hb.confirmed
  fromLast := by rw [tried_passive h]; exact hb.fromLast
  descending := by rw [tried_passive h]; exact hb.descending
  addressed k c m hm := by
    rcases List.mem_append.mp hm with hm | hm
    · exact hb.addressed k c m hm
    · exact absurd (h _ hm).1 (by simp)

end Passive

section Active

variable {trace : List Event} (hb : Bounded vec trace)
include hb

/-- One more entry keeps the order when it is the last one again or the one below it. -/
theorem Bounded.descending_append {k : ℕ}
    (hlast : (tried trace).getLast? = some k ∨ (tried trace).getLast? = some (k+1) ∨
      tried trace = [] ∧ k + 1 = vec.length) :
    (∀ j ∈ (tried trace ++ [k]).head?, j + 1 = vec.length) ∧
      (tried trace ++ [k]).IsChain (fun j k => k = j ∨ k + 1 = j) := by
  constructor
  · intro j hj
    cases htried : tried trace with
    | nil =>
      simp only [htried,List.getLast?_nil,reduceCtorEq,false_or,true_and] at hlast
      simp only [htried,List.nil_append,List.head?_cons,Option.mem_some_iff] at hj
      omega
    | cons x xs =>
      rw [htried] at hj
      exact hb.fromLast j (by simpa [htried] using hj)
  · refine List.isChain_append.mpr ⟨hb.descending,by simp,?_⟩
    intro x hx y hy
    simp only [List.head?_cons,Option.mem_some_iff] at hy
    subst hy
    rcases hlast with hlast | hlast | ⟨hnil,-⟩
    · rw [hlast,Option.mem_some_iff] at hx
      exact .inl hx
    · rw [hlast,Option.mem_some_iff] at hx
      exact .inr hx
    · simp [hnil] at hx

theorem Bounded.select {k : ℕ}
    (hlast : (tried trace).getLast? = some k ∨ (tried trace).getLast? = some (k+1) ∨
      tried trace = [] ∧ k + 1 = vec.length) :
    Bounded vec (trace ++ [.select k]) := by
  have htried : tried (trace ++ [.select k]) = tried trace ++ [k] := by simp [tried]
  have horder := hb.descending_append hlast
  refine ⟨?_,?_,?_,?_,?_,?_⟩
  · simpa [sent] using hb.perDevice
  · simpa [registrations] using hb.total
  · simpa [confirmations] using hb.confirmed
  · rw [htried]
    exact horder.1
  · rw [htried]
    exact horder.2
  · simpa using hb.addressed

theorem Bounded.regist {k : ℕ} {c : Channel} (m : Str)
    (hlast : (tried trace).getLast? = some k) (hsent : sent k trace < 4)
    (htotal : registrations trace < 4*vec.length) (hc : vec[k]? = some c) :
    Bounded vec (trace ++ [.regist k c m]) := by
  have htried : tried (trace ++ [.regist k c m]) = tried trace ++ [k] := by simp [tried]
  have horder := hb.descending_append (.inl hlast)
  refine ⟨?_,?_,?_,?_,?_,?_⟩
  · intro j
    have hj := hb.perDevice j
    by_cases hjk : k = j
    · subst hjk
      simp [sent] at hsent ⊢
      omega
    · simpa [sent,hjk] using hj
  · simp [registrations] at htotal ⊢
    omega
  · simpa [confirmations] using hb.confirmed
  · rw [htried]
    exact horder.1
  · rw [htried]
    exact horder.2
  · intro j c' m' hm
    rcases List.mem_append.mp hm with hm | hm
    · exact hb.addressed j c' m' hm
    · simp only [List.mem_singleton,Event.regist.injEq] at hm
      obtain ⟨rfl,rfl,rfl⟩ := hm
      exact hc

theorem Bounded.confirm (c : Channel) (m : Str) (hconf : confirmations trace < 4) :
    Bounded vec (trace ++ [.confirm c m]) := by
  have htried : tried (trace ++ [.confirm c m]) = tried trace := by simp [tried]
  refine ⟨?_,?_,?_,?_,?_,?_⟩
  · simpa [sent] using hb.perDevice
  · simpa [registrations] using hb.total
  · simp [confirmations] at hconf ⊢
    omega
  · rw [htried]
    exact hb.fromLast
  · rw [htried]
    exact hb.descending
  · simpa using hb.addressed

end Active

/-- The thread is at entry `size` with `budget` registration packets written there, and has
written to none of the entries below. -/
structure Trying (vec : List Channel) (size : Int) (budget : ℕ) (trace : List Event) : Prop where
  nonneg : 0 ≤ size
  lt : size < vec.length
  below : ∀ k : ℕ, (k : Int) < size → sent k trace = 0
  current : sent size.toNat trace ≤ budget
  total : (registrations trace : Int) ≤ 4*(vec.length - 1 - size) + budget
  confirmed : confirmations trace = 0

namespace Trying

variable {size : Int} {budget : ℕ} {trace evs : List Event}

theorem passive (h : Trying vec size budget trace) (hp : ∀ e ∈ evs, e.Passive) :
    Trying vec size budget (trace ++ evs) where
  nonneg := h.nonneg
  lt := h.lt
  below k hk := by rw [sent_passive hp]; exact h.below k hk
  current := by rw [sent_passive hp]; exact h.current
  total := by rw [registrations_passive hp]; exact h.total
  confirmed := by rw [confirmations_passive hp]; exact h.confirmed

theorem select (h : Trying vec size budget trace) (k : ℕ) :
    Trying vec size budget (trace ++ [.select k]) where
  nonneg := h.nonneg
  lt := h.lt
  below := by simpa [sent] using h.below
  current := by simpa [sent] using h.current
  total := by simpa [registrations] using h.total
  confirmed := by simpa [confirmations] using h.confirmed

theorem regist (h : Trying vec size budget trace) (c : Channel) (m : Str) :
    Trying vec size (budget+1) (trace ++ [.regist size.toNat c m]) where
  nonneg := h.nonneg
  lt := h.lt
  below k hk := by
    have hne : size.toNat ≠ k := by omega
    simpa [sent,hne] using h.below k hk
  current := by
    have := h.current
    simp [sent] at this ⊢
    omega
  total := by
    have := h.total
    simp [registrations] at this ⊢
    omega
  confirmed := by simpa [confirmations] using h.confirmed

/-- After four packets the entry below starts with none. -/
theorem next (h : Trying vec size 4 trace) (hsize : 0 ≤ size - 1) :
    Trying vec (size - 1) 0 trace where
  nonneg := hsize
  lt := by have := h.lt; omega
  below k hk := h.below k (by omega)
  current := Nat.le_of_eq (h.below _ (by omega))
  total := by have := h.total; omega
  confirmed := h.confirmed

end Trying

/-- The entry the thread works on is the last one it has selected. -/
structure Selected (vec : List Channel) (s : State F) : Prop where
  row : vec[s.size.toNat]? = some s.channel
  last : (tried s.trace).getLast? = some s.size.toNat

/-- What the counters mean in each state. -/
def Phase (vec : List Channel) (s : State F) : Prop :=
  match s.state with
  | .selectChannel => ∃ b, s.registNum = b+1 ∧ b ≤ 4 ∧ Trying vec s.size b s.trace ∧
      ((tried s.trace).getLast? = some s.size.toNat ∨
        b = 0 ∧ tried s.trace = [] ∧ s.size + 1 = vec.length)
  | .waitForIdle => ∃ b, s.registNum = b+1 ∧ b ≤ 3 ∧ Trying vec s.size b s.trace ∧
      Selected vec s ∧ s.myCount < 100
  | .sendRegister => ∃ b, s.registNum = b+1 ∧ b ≤ 3 ∧ Trying vec s.size b s.trace ∧
      Selected vec s
  | .waitFor17 retry => ∃ b, s.registNum = b+1 ∧ b ≤ 3 ∧ Trying vec s.size (b+1) s.trace ∧
      Selected vec s ∧ retry ≤ 5
  | .sendConfirm => s.registNum ≤ 4 ∧ confirmations s.trace < s.registNum ∧ Selected vec s
  | .waitForTimestamp => s.registNum ≤ 4 ∧ confirmations s.trace ≤ s.registNum ∧
      1 ≤ s.registNum ∧ s.listenNum ≤ 8 ∧ Selected vec s
  | .success => Selected vec s
  | .failed => True

structure Inv (vec : List Channel) (s : State F) : Prop where
  bounded : Bounded vec s.trace
  phase : Phase vec s

theorem start_inv (vec : List Channel) (identity : DeviceIdentity)
    (commManager : CommunicaManage F) : Inv vec (start vec identity commManager) where
  bounded := ⟨by simp [start,sent],by simp [start,registrations],by simp [start,confirmations],
    by simp [start,tried],by simp [start,tried],by simp [start]⟩
  phase := by
    cases vec with
    | nil => simp [Phase,start]
    | cons c cs =>
      refine ⟨0,rfl,by omega,⟨?_,?_,?_,?_,?_,?_⟩,.inr ⟨rfl,rfl,?_⟩⟩ <;>
        simp [start,sent,registrations,confirmations]

/-- A message that is only read, if there is one, is a passive event. -/
theorem read_passive {f : Str → Event} (hf : ∀ m, (f m).Passive) (m : Option Str) :
    ∀ e ∈ (m.map f).toList, e.Passive := by
  intro e he
  cases m with
  | none => simp at he
  | some m =>
    obtain rfl : e = f m := by simpa using he
    exact hf m

theorem heard_passive (c : Channel) (m : Str) : (Event.heard c m).Passive := ⟨rfl,rfl⟩

theorem answer_passive (c : Channel) (m : Str) : (Event.answer c m).Passive := ⟨rfl,rfl⟩

theorem stamp_passive (c : Channel) (m : Option Str) (tv : Option TimeVal) :
    ∀ e ∈ (m.map (Event.stamp c)).toList ++ (tv.map Event.settimeofday).toList, e.Passive := by
  cases m <;> cases tv <;> simp

/-- Passive events on the same entry keep the selection. -/
theorem Selected.passive (h : Selected vec s) {evs : List Event} (hp : ∀ e ∈ evs, e.Passive)
    (htrace : t.trace = s.trace ++ evs) (hsize : t.size = s.size) (hfd : t.channel = s.channel) :
    Selected vec t where
  row := by rw [hsize,hfd]; exact h.row
  last := by rw [htrace,hsize,tried_passive hp]; exact h.last

/-- One more registration packet on the selected entry. -/
theorem regist_keeps {b : ℕ} (location : Str) (hb : Bounded vec s.trace) (hle : b ≤ 3)
    (htry : Trying vec s.size b s.trace) (hsel : Selected vec s) :
    let u := s.log (.regist s.size.toNat s.channel (registMessage s.deviceId s.identity location))
    Bounded vec u.trace ∧ Trying vec u.size (b+1) u.trace ∧ Selected vec u := by
  have hcur := htry.current
  have htotal := htry.total
  have hlt := htry.lt
  have hnonneg := htry.nonneg
  refine ⟨hb.regist _ hsel.last (by omega) (by omega) hsel.row,htry.regist _ _,hsel.row,?_⟩
  simp [tried]

/-- A failed attempt leads back to the selection with its packet counted. -/
theorem retry_inv {b : ℕ} (hb : Bounded vec s.trace) (hnum : s.registNum = b+1) (hle : b ≤ 3)
    (htry : Trying vec s.size (b+1) s.trace) (hsel : Selected vec s) :
    Inv vec s.retryDevice where
  bounded := hb
  phase := ⟨b+1,congrArg (· + 1) hnum,by omega,htry,.inl hsel.last⟩

/-- The selection goes on with the same entry, or after four packets with the one below. -/
theorem select_keeps {b k registNum : ℕ} (hb : Bounded vec s.trace) (hnum : s.registNum = b+1)
    (hle : b ≤ 4) (htry : Trying vec s.size b s.trace)
    (hlast : (tried s.trace).getLast? = some s.size.toNat ∨
      b = 0 ∧ tried s.trace = [] ∧ s.size + 1 = vec.length)
    (hnext : (s.registNum = 5 ∧ (k : Int) = s.size - 1 ∧ registNum = 1) ∨
      (s.registNum ≠ 5 ∧ (k : Int) = s.size ∧ registNum = s.registNum)) :
    Bounded vec (s.trace ++ [.select k]) ∧
      ∃ b', registNum = b'+1 ∧ b' ≤ 3 ∧ Trying vec k b' (s.trace ++ [.select k]) := by
  have hnonneg := htry.nonneg
  rcases hnext with ⟨h5,hsize,rfl⟩ | ⟨h5,hsize,rfl⟩
  · -- Four packets went to the entry above.
    obtain rfl : b = 4 := by omega
    have hlast' : (tried s.trace).getLast? = some (k+1) := by
      rcases hlast with hlast | ⟨hzero,-⟩
      · rw [hlast]
        congr 1
        omega
      · omega
    refine ⟨hb.select (.inr (.inl hlast')),0,rfl,by omega,?_⟩
    rw [hsize]
    exact (htry.next (by omega)).select k
  · have hlast' : (tried s.trace).getLast? = some k ∨ tried s.trace = [] ∧ k + 1 = vec.length := by
      rcases hlast with hlast | ⟨-,hnil,hlen⟩
      · left
        rw [hlast]
        congr 1
        omega
      · right
        exact ⟨hnil,by omega⟩
    refine ⟨hb.select (hlast'.imp_right .inr),b,hnum,by omega,?_⟩
    rw [hsize]
    exact htry.select k

/-- One more confirmation on the selected entry. -/
theorem confirm_keeps (hb : Bounded vec s.trace) (hle : s.registNum ≤ 4)
    (hconf : confirmations s.trace < s.registNum) (hsel : Selected vec s) :
    Bounded vec (sendConfirm s).trace ∧ confirmations (sendConfirm s).trace ≤ s.registNum ∧
      Selected vec (sendConfirm s) := by
  have htrace : (sendConfirm s).trace =
      s.trace ++ [.confirm s.channel (confirmMessage s.deviceId s.identity)] := rfl
  have hcount : confirmations (sendConfirm s).trace ≤ s.registNum := by
    simp [htrace,confirmations] at hconf ⊢
    exact hconf
  have hlast : (tried (sendConfirm s).trace).getLast? = some s.size.toNat := by
    rw [← hsel.last]
    simp [htrace,tried]
  exact ⟨hb.confirm _ _ (by omega),hcount,hsel.row,hlast⟩

theorem transition_inv (ht : Transition mktime vec s t) (h : Inv vec s) : Inv vec t := by
  have hphase := h.phase
  cases ht with
  | @select size registNum k c hstate hnext hk hc =>
    simp only [Phase,hstate] at hphase
    obtain ⟨b,hnum,hle,htry,hlast⟩ := hphase
    subst hk
    obtain ⟨hb,b',hnum',hle',htry'⟩ := select_keeps h.bounded hnum hle htry hlast hnext
    have hsel : (tried (s.trace ++ [.select k])).getLast? = some k := by simp [tried]
    exact ⟨hb,b',hnum',hle',htry',⟨hc,hsel⟩,Nat.zero_lt_succ 99⟩
  | exhausted hstate => exact ⟨h.bounded,trivial⟩
  | listen n m hstate hcount =>
    simp only [Phase,hstate] at hphase
    obtain ⟨b,hnum,hle,htry,hsel,-⟩ := hphase
    have hp := read_passive (heard_passive s.channel) m
    refine ⟨h.bounded.passive hp,?_⟩
    simp only [Phase,hstate]
    exact ⟨b,hnum,hle,htry.passive hp,hsel.passive hp rfl rfl rfl,hcount⟩
  | idle m hstate =>
    simp only [Phase,hstate] at hphase
    obtain ⟨b,hnum,hle,htry,hsel,-⟩ := hphase
    have hp := read_passive (heard_passive s.channel) m
    exact ⟨h.bounded.passive hp,b,hnum,hle,htry.passive hp,hsel.passive hp rfl rfl rfl⟩
  | giveUp hstate => exact ⟨h.bounded,trivial⟩
  | sent location hstate =>
    simp only [Phase,hstate] at hphase
    obtain ⟨b,hnum,hle,htry,hsel⟩ := hphase
    obtain ⟨hb,htry',hsel'⟩ := regist_keeps location h.bounded hle htry hsel
    exact ⟨hb,b,hnum,hle,htry',⟨hsel'.row,hsel'.last⟩,Nat.le_refl 5⟩
  | unsent location hstate =>
    simp only [Phase,hstate] at hphase
    obtain ⟨b,hnum,hle,htry,hsel⟩ := hphase
    obtain ⟨hb,htry',hsel'⟩ := regist_keeps location h.bounded hle htry hsel
    exact retry_inv hb hnum hle htry' hsel'
  | unanswered m hstate =>
    simp only [Phase,hstate] at hphase
    obtain ⟨b,hnum,hle,htry,hsel,hretry⟩ := hphase
    have hp := read_passive (answer_passive s.channel) m
    exact ⟨h.bounded.passive hp,b,hnum,hle,htry.passive hp,hsel.passive hp rfl rfl rfl,by omega⟩
  | silent hstate =>
    simp only [Phase,hstate] at hphase
    obtain ⟨b,hnum,hle,htry,hsel,-⟩ := hphase
    exact retry_inv h.bounded hnum hle htry hsel
  | refused m hstate =>
    simp only [Phase,hstate] at hphase
    obtain ⟨b,hnum,hle,htry,hsel,-⟩ := hphase
    have hp := read_passive (answer_passive s.channel) (some m)
    exact retry_inv (h.bounded.passive hp) hnum hle (htry.passive hp) (hsel.passive hp rfl rfl rfl)
  | @assigned retry m hstate hm hid =>
    simp only [Phase,hstate] at hphase
    obtain ⟨b,hnum,hle,htry,hsel,-⟩ := hphase
    have hp := read_passive (answer_passive s.channel) (some m)
    have hzero := (htry.passive hp).confirmed
    refine ⟨h.bounded.passive hp,?_,?_,hsel.passive hp rfl rfl rfl⟩
    · show s.registNum ≤ 4
      omega
    · show confirmations (s.trace ++ [.answer s.channel m]) < s.registNum
      simp only [Option.map_some,Option.toList_some] at hzero
      omega
  | confirm hstate =>
    simp only [Phase,hstate] at hphase
    obtain ⟨hle,hconf,hsel⟩ := hphase
    obtain ⟨hb,hcount,hsel'⟩ := confirm_keeps h.bounded hle hconf hsel
    exact ⟨hb,hle,hcount,Nat.zero_lt_of_lt hconf,Nat.le_refl 8,⟨hsel'.row,hsel'.last⟩⟩
  | unstamped time m tv hstate hn =>
    simp only [Phase,hstate] at hphase
    obtain ⟨hle,hconf,hpos,hlisten,hsel⟩ := hphase
    have hp := stamp_passive s.channel m tv
    refine ⟨h.bounded.passive hp,?_⟩
    simp only [Phase,hstate]
    rw [confirmations_passive hp]
    exact ⟨hle,hconf,hpos,by omega,hsel.passive hp rfl rfl rfl⟩
  | @registered m manager n tv hstate hm hen =>
    simp only [Phase,hstate] at hphase
    obtain ⟨-,-,-,-,hsel⟩ := hphase
    have hp : ∀ e ∈ [Event.stamp s.channel m,.settimeofday tv,.enable s.deviceId], e.Passive := by
      simp
    exact ⟨h.bounded.passive hp,hsel.passive hp rfl rfl rfl⟩
  | again hstate hn hnum =>
    simp only [Phase,hstate] at hphase
    obtain ⟨-,hconf,-,-,hsel⟩ := hphase
    exact ⟨h.bounded,Nat.le_of_lt_succ hnum,Nat.lt_succ_of_le hconf,hsel.row,hsel.last⟩
  | unconfirmed hstate => exact ⟨h.bounded,trivial⟩
  | ended hstate => exact h

/-- The selection never reads outside the vector. -/
theorem selectChannel_inRange (h : Inv vec s) (hstate : s.state = .selectChannel) :
    (selectChannel vec s).isSome := by
  have hphase := h.phase
  simp only [Phase,hstate] at hphase
  obtain ⟨b,-,-,htry,-⟩ := hphase
  have hlt := htry.lt
  simp only [selectChannel]
  split_ifs with h5 hsize hsize
  · rfl
  · have hrange : (s.size - 1).toNat < vec.length := by
      simp only at hsize
      omega
    simpa using hrange
  · rfl
  · have hrange : s.size.toNat < vec.length := by omega
    simpa using hrange

theorem step_inv (mktime : Tm → Option Int) (i : Input) (h : Inv vec s) :
    ∃ t, step mktime vec i s = some t ∧ Inv vec t := by
  obtain ⟨t,ht⟩ : ∃ t, step mktime vec i s = some t := by
    unfold step
    split <;> rename_i hstate
    · exact Option.isSome_iff_exists.mp (selectChannel_inRange h hstate)
    all_goals exact ⟨_,rfl⟩
  exact ⟨t,ht,transition_inv (step_transition ht) h⟩

/-- The attempts that are left: four for each entry down to the first. -/
def attempts (s : State F) : ℕ := (4*(s.size+1) + 1 - s.registNum).toNat

/-- An upper bound on the steps that are left. An attempt takes at most 109 steps, a round
of the confirmation 10. -/
def rank (s : State F) : ℕ :=
  match s.state with
  | .selectChannel => 41 + 109*attempts s + 108
  | .waitForIdle => 41 + 109*attempts s + (107 - s.myCount)
  | .sendRegister => 41 + 109*attempts s + 7
  | .waitFor17 retry => 41 + 109*attempts s + (retry+1)
  | .sendConfirm => 10*(4 - s.registNum) + 10
  | .waitForTimestamp => 10*(4 - s.registNum) + s.listenNum + 1
  | .success | .failed => 0

/-- A failed attempt uses up an attempt. -/
theorem rank_retryDevice {b : ℕ} (hnum : s.registNum = b+1) (hle : b ≤ 3) (hsize : 0 ≤ s.size) :
    rank s.retryDevice < 41 + 109*attempts s := by
  simp only [rank,attempts,State.retryDevice]
  omega

theorem attempts_le_rank
    (hstate : s.state = .sendRegister ∨ ∃ retry, s.state = .waitFor17 retry) :
    41 + 109*attempts s ≤ rank s := by
  rcases hstate with hstate | ⟨retry,hstate⟩
  · simp only [rank,hstate]
    omega
  · simp only [rank,hstate]
    omega

theorem transition_rank (ht : Transition mktime vec s t) (h : Inv vec s)
    (hrun : ¬ (s.state = .success ∨ s.state = .failed)) : rank t < rank s := by
  have hphase := h.phase
  cases ht with
  | select hstate hnext hk hc =>
    simp only [Phase,hstate] at hphase
    obtain ⟨b,hnum,hle,htry,-⟩ := hphase
    simp only [rank,hstate,attempts]
    omega
  | exhausted hstate =>
    simp only [rank,hstate]
    omega
  | listen n m hstate hcount =>
    simp only [rank,hstate,attempts]
    omega
  | idle m hstate =>
    simp only [Phase,hstate] at hphase
    obtain ⟨-,-,-,-,-,hcount⟩ := hphase
    simp only [rank,hstate,attempts]
    omega
  | giveUp hstate =>
    simp only [rank,hstate]
    omega
  | sent location hstate =>
    simp only [rank,hstate,attempts,State.log]
    omega
  | unsent location hstate =>
    simp only [Phase,hstate] at hphase
    obtain ⟨b,hnum,hle,htry,-⟩ := hphase
    have hretry := rank_retryDevice (s := s) hnum hle htry.nonneg
    exact Nat.lt_of_lt_of_le hretry (attempts_le_rank (.inl hstate))
  | unanswered m hstate =>
    simp only [rank,hstate,attempts]
    omega
  | silent hstate =>
    simp only [Phase,hstate] at hphase
    obtain ⟨b,hnum,hle,htry,-⟩ := hphase
    have hretry := rank_retryDevice (s := s) hnum hle htry.nonneg
    exact Nat.lt_of_lt_of_le hretry (attempts_le_rank (.inr ⟨_,hstate⟩))
  | refused m hstate =>
    simp only [Phase,hstate] at hphase
    obtain ⟨b,hnum,hle,htry,-⟩ := hphase
    have hretry := rank_retryDevice (s := s) hnum hle htry.nonneg
    exact Nat.lt_of_lt_of_le hretry (attempts_le_rank (.inr ⟨_,hstate⟩))
  | assigned hstate hm hid =>
    simp only [Phase,hstate] at hphase
    obtain ⟨b,hnum,-⟩ := hphase
    simp only [rank,hstate,State.log]
    omega
  | confirm hstate =>
    simp only [rank,hstate,sendConfirm,State.log]
    omega
  | unstamped time m tv hstate hn =>
    simp only [rank,hstate]
    omega
  | registered n tv hstate hm hen =>
    simp only [rank,hstate]
    omega
  | again hstate hn hnum =>
    simp only [rank,hstate]
    omega
  | unconfirmed hstate =>
    simp only [rank,hstate]
    omega
  | ended hstate => exact absurd hstate hrun

/-- Whatever `select`, `read` and `write` return, the thread reaches success or failure
after at most this many steps, never reads outside the vector, and stays within its bounds
on the way. -/
theorem registration_bounded (mktime : Tm → Option Int) (vec : List Channel)
    (identity : DeviceIdentity) (commManager : CommunicaManage F) (input : ℕ → Input) :
    (∃ n s, n ≤ 436*vec.length + 149 ∧
      StepSystem.drive (step mktime vec) input (start vec identity commManager) n = some s ∧
      (s.state = .success ∨ s.state = .failed)) ∧
    ∀ n, ∃ s, StepSystem.drive (step mktime vec) input (start vec identity commManager) n =
      some s ∧ Bounded vec s.trace := by
  have hinv := start_inv vec identity commManager
  constructor
  · obtain ⟨n,s,hn,hs,hfinal⟩ := StepSystem.drive_terminates rank
      (fun i _ hI => step_inv mktime i hI)
      (fun i s t hI hrun ht => transition_rank (step_transition ht) hI hrun) input hinv
    refine ⟨n,s,hn.trans ?_,hs,hfinal⟩
    cases vec with
    | nil => simp [rank,start]
    | cons c cs =>
      simp [rank,start,attempts]
      omega
  · intro n
    obtain ⟨s,hs,hI⟩ := StepSystem.drive_invariant
      (fun i _ hI => step_inv mktime i hI) input hinv n
    exact ⟨s,hs,hI.bounded⟩

/-- The ids of the enabled devices, in the order of the list. -/
def enabledIds (m : CommunicaManage F) : List Int := (m.nodes.filter (·.enabled)).map (·.id)

theorem enabledIds_updateFirst {id : Int} {nodes : List (CommunicateNode F)}
    (hoff : ∀ n ∈ nodes, n.enabled = false) (hid : ∃ n ∈ nodes, n.id = id) :
    ((OrderedMap.updateFirst (fun n : CommunicateNode F => n.id = id)
      (fun n => { n with enabled := true }) nodes).filter (·.enabled)).map (·.id) = [id] := by
  induction nodes with
  | nil => simp at hid
  | cons n ns ih =>
    have hn : n.enabled = false := hoff n List.mem_cons_self
    have hns : ∀ k ∈ ns, k.enabled = false := fun k hk => hoff k (List.mem_cons_of_mem n hk)
    by_cases h : n.id = id
    · have hrest : ns.filter (·.enabled) = [] := List.filter_eq_nil_iff.mpr fun k hk => by simp [hns k hk]
      simp [OrderedMap.updateFirst,h,hrest]
    · have hid' : ∃ k ∈ ns, k.id = id := by simpa [h] using hid
      simpa [OrderedMap.updateFirst,h,hn] using ih hns hid'

theorem enabledIds_setEnable {m m' : CommunicaManage F} {id : Int}
    (hoff : ∀ n ∈ m.nodes, n.enabled = false) (h : m.setEnable id = (true,m')) :
    enabledIds m' = [id] := by
  unfold CommunicaManage.setEnable at h
  cases hfind : m.findcommunicate id with
  | none => simp [hfind] at h
  | some n =>
    rw [hfind] at h
    obtain rfl := congrArg Prod.snd h
    have hid : ∃ n ∈ m.nodes, n.id = id :=
      ⟨n,List.mem_of_find?_eq_some hfind,by simpa using List.find?_some hfind⟩
    unfold enabledIds
    rw [DeviceMap.nodes_updateNode]
    exact enabledIds_updateFirst hoff hid

/-- Events that may follow the 17 packet of a device that is being confirmed. -/
@[simp] def Event.Confirming (c : Channel) : Event → Prop
  | .confirm c' _ | .stamp c' _ => c' = c
  | .settimeofday _ => True
  | _ => False

/-- A 17 packet for this device with an id, which the identity now holds. -/
structure Assigned (mac : Str) (identity : DeviceIdentity) (m : Str) : Prop where
  length : 54 ≤ m.length
  protocol : substr m 1 2 = reqSendInfo
  addressed : substr m 16 16 = mac
  accepted : substr m 48 2 ≠ str "FF"
  id : identity.id = substr m 48 2
  netId : identity.netId = substr m 50 4
  isrMac : identity.isrMac = substr m 32 16

/-- A 20 packet for this device. -/
structure Stamped (mac m : Str) : Prop where
  length : 49 ≤ m.length
  protocol : substr m 1 2 = timeSend
  addressed : substr m 16 16 = mac

/-- The exchange that ends in success: on one channel the 17 packet `m17`, later the 02
packet built from it, later the 20 packet `m20`. From `m17` on no other answer to a
registration packet is read. -/
def Handshake (mac : Str) (s : State F) : Prop :=
  ∃ before m17 between after m20 tv,
    s.trace = before ++ .answer s.channel m17::
      (between ++ .confirm s.channel (confirmMessage s.deviceId s.identity)::
        (after ++ [.stamp s.channel m20,.settimeofday tv,.enable s.deviceId])) ∧
    (∀ e ∈ between ++ after, e.Confirming s.channel) ∧ Assigned mac s.identity m17 ∧
    Stamped mac m20

/-- How far the exchange has come in each state. -/
def Progress (mac : Str) (s : State F) : Prop :=
  match s.state with
  | .sendConfirm => ∃ before m17 between, s.trace = before ++ .answer s.channel m17::between ∧
      (∀ e ∈ between, e.Confirming s.channel) ∧ Assigned mac s.identity m17
  | .waitForTimestamp => ∃ before m17 between after,
      s.trace = before ++ .answer s.channel m17::
        (between ++ .confirm s.channel (confirmMessage s.deviceId s.identity)::after) ∧
      (∀ e ∈ between ++ after, e.Confirming s.channel) ∧ Assigned mac s.identity m17
  | .success => Handshake mac s
  | _ => True

structure Safe (mac : Str) (commManager : CommunicaManage F) (s : State F) : Prop where
  ownMac : s.identity.mac = mac
  unchanged : s.state ≠ .success → s.commManager = commManager
  enabled : s.state = .success → commManager.setEnable s.deviceId = (true,s.commManager)
  progress : Progress mac s

theorem start_safe (vec : List Channel) (identity : DeviceIdentity)
    (commManager : CommunicaManage F) :
    Safe identity.mac commManager (start vec identity commManager) := by
  refine ⟨rfl,fun _ => rfl,?_,?_⟩ <;> cases vec <;> simp [start,Progress]

theorem stamp_confirming (c : Channel) (m : Option Str) (tv : Option TimeVal) :
    ∀ e ∈ (m.map (Event.stamp c)).toList ++ (tv.map Event.settimeofday).toList, e.Confirming c := by
  cases m <;> cases tv <;> simp

variable {mac : Str} {commManager : CommunicaManage F}

/-- States without progress to record keep the manager and the MAC. -/
theorem Safe.idle (h : Safe mac commManager s) (hmac : t.identity.mac = s.identity.mac)
    (hs : s.state ≠ .success) (ht : t.state ≠ .success) (hman : t.commManager = s.commManager)
    (hprogress : Progress mac t) : Safe mac commManager t where
  ownMac := hmac.trans h.ownMac
  unchanged _ := hman.trans (h.unchanged hs)
  enabled hsuc := absurd hsuc ht
  progress := hprogress

theorem transition_safe (ht : Transition mktime vec s t) (h : Safe mac commManager s) :
    Safe mac commManager t := by
  have hprogress := h.progress
  cases ht with
  | select hstate hnext hk hc => exact h.idle rfl (by simp [hstate]) (by simp) rfl trivial
  | exhausted hstate => exact h.idle rfl (by simp [hstate]) (by simp) rfl trivial
  | listen n m hstate hcount =>
    refine h.idle rfl (by simp [hstate]) (by simp [hstate]) rfl ?_
    simp [Progress,hstate]
  | idle m hstate => exact h.idle rfl (by simp [hstate]) (by simp) rfl trivial
  | giveUp hstate => exact h.idle rfl (by simp [hstate]) (by simp) rfl trivial
  | sent location hstate => exact h.idle rfl (by simp [hstate]) (by simp) rfl trivial
  | unsent location hstate =>
    exact h.idle rfl (by simp [hstate]) (by simp [State.retryDevice]) rfl trivial
  | unanswered m hstate => exact h.idle rfl (by simp [hstate]) (by simp) rfl trivial
  | silent hstate => exact h.idle rfl (by simp [hstate]) (by simp [State.retryDevice]) rfl trivial
  | refused m hstate =>
    exact h.idle rfl (by simp [hstate]) (by simp [State.retryDevice]) rfl trivial
  | @assigned retry m hstate hm hid =>
    obtain ⟨hlen,hprot,haddr⟩ := of_decide_eq_true hm
    rw [h.ownMac] at haddr
    refine h.idle rfl (by simp [hstate]) (by simp) rfl ?_
    exact ⟨s.trace,m,[],rfl,by simp,hlen,hprot,haddr,hid,rfl,rfl,rfl⟩
  | confirm hstate =>
    simp only [Progress,hstate] at hprogress
    obtain ⟨before,m17,between,htrace,hev,hass⟩ := hprogress
    refine h.idle rfl (by simp [hstate]) (by simp [sendConfirm]) rfl ?_
    refine ⟨before,m17,between,[],?_,?_,hass⟩
    · simp [sendConfirm,htrace]
    · rw [List.append_nil]
      exact hev
  | unstamped time m tv hstate hn =>
    simp only [Progress,hstate] at hprogress
    obtain ⟨before,m17,between,after,htrace,hev,hass⟩ := hprogress
    refine h.idle rfl (by simp [hstate]) (by simp [hstate]) rfl ?_
    simp only [Progress,hstate]
    have hstamp := stamp_confirming s.channel m tv
    refine ⟨before,m17,between,
      after ++ ((m.map (.stamp s.channel)).toList ++ (tv.map .settimeofday).toList),?_,?_,
      ⟨hass.length,hass.protocol,hass.addressed,hass.accepted,hass.id,hass.netId,hass.isrMac⟩⟩
    · simp [htrace,confirmMessage]
    · intro e he
      rw [← List.append_assoc] at he
      rcases List.mem_append.mp he with he | he
      · exact hev e he
      · exact hstamp e he
  | @registered m manager n tv hstate hm hen =>
    simp only [Progress,hstate] at hprogress
    obtain ⟨before,m17,between,after,htrace,hev,hass⟩ := hprogress
    obtain ⟨hlen,hprot,haddr⟩ := of_decide_eq_true hm
    rw [h.ownMac] at haddr
    have hman := h.unchanged (by simp [hstate])
    refine ⟨h.ownMac,by simp,fun _ => by rw [← hman]; exact hen,before,m17,between,after,m,tv,?_,hev,
      ⟨hass.length,hass.protocol,hass.addressed,hass.accepted,hass.id,hass.netId,hass.isrMac⟩,
      ⟨hlen,hprot,haddr⟩⟩
    simp [htrace,confirmMessage]
  | again hstate hn hnum =>
    simp only [Progress,hstate] at hprogress
    obtain ⟨before,m17,between,after,htrace,hev,hass⟩ := hprogress
    refine h.idle rfl (by simp [hstate]) (by simp) rfl ?_
    refine ⟨before,m17,between ++ .confirm s.channel (confirmMessage s.deviceId s.identity)::after,
      htrace,?_,hass⟩
    intro e he
    simp only [List.mem_append,List.mem_cons] at he
    rcases he with he | rfl | he
    · exact hev e (List.mem_append_left _ he)
    · rfl
    · exact hev e (List.mem_append_right _ he)
  | unconfirmed hstate => exact h.idle rfl (by simp [hstate]) (by simp) rfl trivial
  | ended hstate => exact h

theorem step_safe (mktime : Tm → Option Int) (i : Input) (h : Inv vec s ∧ Safe mac commManager s) :
    ∃ t, step mktime vec i s = some t ∧ Inv vec t ∧ Safe mac commManager t := by
  obtain ⟨t,ht,hinv⟩ := step_inv mktime i h.1
  exact ⟨t,ht,hinv,transition_safe (step_transition ht) h.2⟩

/-- When no device is enabled at the start, a run that returns success has gone through the
handshake on the channel of a listed device, which is then the only enabled one; a run that
returns failure enables none. -/
theorem registration_safe {identity : DeviceIdentity} {input : ℕ → Input} {n : ℕ}
    (hoff : ∀ k ∈ commManager.nodes, k.enabled = false)
    (hs : StepSystem.drive (step mktime vec) input (start vec identity commManager) n = some s) :
    (s.returned = some 0 → s.channel ∈ vec ∧ Handshake identity.mac s ∧
      enabledIds s.commManager = [s.deviceId]) ∧
    (s.returned = some (-1) → enabledIds s.commManager = []) := by
  obtain ⟨s',hs',hinv,hsafe⟩ := StepSystem.drive_invariant
    (fun i _ hI => step_safe mktime i hI) input
    ⟨start_inv vec identity commManager,start_safe vec identity commManager⟩ n
  obtain rfl := Option.some.inj (hs.symm.trans hs')
  constructor
  · intro hret
    have hstate := State.success_of_returned hret
    have hphase := hinv.phase
    have hprogress := hsafe.progress
    simp only [Phase,hstate] at hphase
    simp only [Progress,hstate] at hprogress
    exact ⟨List.mem_of_getElem? hphase.row,hprogress,enabledIds_setEnable hoff (hsafe.enabled hstate)⟩
  · intro hret
    have hstate := State.failed_of_returned hret
    rw [hsafe.unchanged (by simp [hstate])]
    have hnone : commManager.nodes.filter (·.enabled) = [] :=
      List.filter_eq_nil_iff.mpr fun k hk => by simp [hoff k hk]
    rw [enabledIds,hnone]
    rfl

/-- LoRa on descriptor 7 and LAN on 6, which is tried first. -/
def twoDevices : CommunicaManage Unit :=
  ((CommunicaManage.new.addCommunicateNode 1 7).2.addCommunicateNode 4 6).2

def twoRows : List Channel := [(1,7),(4,6)]

def ownIdentity : DeviceIdentity := { mac := str "SAP2400000000000" }

/-- `mktime` in UTC at the time of the 20 packet. -/
def utcNoon (tm : Tm) : Option Int := if tm = ⟨126,0,1,12,0,0⟩ then some 1767268800 else none

/-- The channel is idle, the gateway answers the registration and then the confirmation. -/
def gateway (n : ℕ) : Input where
  select := if n = 1 then 0 else 1
  isset := true
  read := some (if n = 3 then str "$174FF0000000026SAP2400000000000ISR240000000000101ABCD@"
    else str "$20401ABCD000031SAP240000000000020260101120000000@")
  written := true
  location := str "NFFFFEFFFFF"

theorem gateway_registers : ∃ s,
    StepSystem.drive (step utcNoon twoRows) gateway (start twoRows ownIdentity twoDevices) 6 = some s ∧
      s.returned = some 0 ∧ s.channel ∈ twoRows ∧ Handshake ownIdentity.mac s ∧
      enabledIds s.commManager = [4] ∧ s.identity.id = str "01" := by
  have hrun : (StepSystem.drive (step utcNoon twoRows) gateway
      (start twoRows ownIdentity twoDevices) 6).map
        (fun s => (s.returned,s.deviceId,s.identity.id)) = some (some 0,4,str "01") := by
    decide
  obtain ⟨s,hs,hfields⟩ := Option.map_eq_some_iff.mp hrun
  simp only [Prod.mk.injEq] at hfields
  obtain ⟨hret,hdevice,hid⟩ := hfields
  obtain ⟨hmem,hhand,hen⟩ := (registration_safe (by decide) hs).1 hret
  exact ⟨s,hs,hret,hmem,hhand,by rw [hen,hdevice],hid⟩

end RegistManage
end Sap9001
