import Sap9001.MessageTransmitter

/-! The loop of `write_full` (`infra/io_utils.h`) over what the descriptor answers, and the
packets that `send_mess` counts as sent. -/
namespace Sap9001
namespace WriteFull

/-- What `write` returns for a request of `count` bytes. -/
inductive Answer (count : ℕ)
  | failed
  | zero
  | accepted (n : ℕ) (pos : 0 < n) (le : n ≤ count)

/-- One call of `write`, which is handed the bytes it is asked to write. -/
abbrev Write := (request : Str) → Answer request.length

/-- The loop at an offset, or the value returned, with the bytes that the descriptor has
accepted so far. -/
inductive State
  | loop (total : ℕ) (accepted : Str)
  | returned (ret : Int) (accepted : Str)

def start : State := .loop 0 []

/-- One turn of the loop. -/
def step (buf : Str) (write : Write) : State → Option State
  | .loop total accepted =>
    if total < buf.length then
      match write (buf.drop total) with
      | .zero => some (.returned (-2) accepted)
      | .failed => some (.returned (-1) accepted)
      | .accepted n _ _ => some (.loop (total+n) (accepted ++ (buf.drop total).take n))
    else some (.returned 0 accepted)
  | .returned ret accepted => some (.returned ret accepted)

/-- The turns left at most. -/
def rank (buf : Str) : State → ℕ
  | .loop total _ => buf.length - total + 1
  | .returned _ _ => 0

/-- The offset is the number of bytes accepted, and 0 is returned at the end of the buffer
only. -/
def Inv (buf : Str) : State → Prop
  | .loop total accepted => total ≤ buf.length ∧ accepted = buf.take total
  | .returned ret accepted =>
    accepted <+: buf ∧ (ret = 0 ↔ accepted = buf) ∧ (ret ≠ 0 → ret < 0)

variable {buf : Str}

theorem start_inv : Inv buf start := ⟨Nat.zero_le _,rfl⟩

/-- Before the end of the buffer a negative result is right. -/
theorem returned_inv {total : ℕ} {ret : Int} (h : total < buf.length) (hret : ret < 0) :
    Inv buf (.returned ret (buf.take total)) := by
  have hne : buf.take total ≠ buf := by
    intro heq
    have hlen := congrArg List.length heq
    rw [List.length_take] at hlen
    omega
  refine ⟨List.take_prefix _ _,?_,fun _ => hret⟩
  constructor
  · intro h0
    omega
  · exact fun heq => absurd heq hne

/-- Every turn keeps the invariant, and takes the loop nearer to its end. -/
theorem step_inv (write : Write) (s : State) (h : Inv buf s) :
    ∃ t, step buf write s = some t ∧ Inv buf t ∧
      ((∀ ret accepted, s ≠ .returned ret accepted) → rank buf t < rank buf s) := by
  cases s with
  | returned ret accepted => exact ⟨_,rfl,h,fun hs => absurd rfl (hs ret accepted)⟩
  | loop total accepted =>
    obtain ⟨hle,rfl⟩ := h
    by_cases hlt : total < buf.length
    · cases hw : write (buf.drop total) with
      | zero =>
        refine ⟨.returned (-2) (buf.take total),by simp [step,hlt,hw],?_,fun _ => ?_⟩
        · exact returned_inv hlt (by decide)
        · exact Nat.succ_pos _
      | failed =>
        refine ⟨.returned (-1) (buf.take total),by simp [step,hlt,hw],?_,fun _ => ?_⟩
        · exact returned_inv hlt (by decide)
        · exact Nat.succ_pos _
      | accepted n hpos hn =>
        rw [List.length_drop] at hn
        refine ⟨.loop (total+n) (buf.take (total+n)),?_,⟨by omega,rfl⟩,fun _ => ?_⟩
        · simp [step,hlt,hw,List.take_add]
        · simp only [rank]
          omega
    · have hend : buf.take total = buf := List.take_of_length_le (by omega)
      refine ⟨.returned 0 (buf.take total),by simp [step,hlt],?_,fun _ => Nat.succ_pos _⟩
      rw [hend]
      exact ⟨List.prefix_rfl,by simp,fun h0 => absurd rfl h0⟩

/-- Whatever `write` does in each call, the loop returns after one turn for each byte and one
more at most. -/
theorem returns (buf : Str) (write : ℕ → Write) :
    ∃ n ret accepted, n ≤ buf.length + 1 ∧
      StepSystem.drive (step buf) write start n = some (.returned ret accepted) := by
  have hstep : ∀ w s, Inv buf s → ∃ t, step buf w s = some t ∧ Inv buf t := by
    intro w s h
    obtain ⟨t,ht,hinv,-⟩ := step_inv w s h
    exact ⟨t,ht,hinv⟩
  have hrank : ∀ w s t, Inv buf s → ¬ (∃ ret accepted, s = .returned ret accepted) →
      step buf w s = some t → rank buf t < rank buf s := by
    intro w s t h hs hst
    obtain ⟨t',ht,-,hlt⟩ := step_inv w s h
    obtain rfl : t' = t := Option.some.inj (ht.symm.trans hst)
    exact hlt fun ret accepted heq => hs ⟨ret,accepted,heq⟩
  obtain ⟨n,t,hn,hdrive,ret,accepted,rfl⟩ :=
    StepSystem.drive_terminates (rank buf) hstep hrank write start_inv
  exact ⟨n,ret,accepted,hn,hdrive⟩

theorem reached_inv {write : ℕ → Write} {n : ℕ} {s : State}
    (h : StepSystem.drive (step buf) write start n = some s) : Inv buf s := by
  refine StepSystem.drive_preserves (I := Inv buf) ?_ start_inv h
  intro k s t hs hst
  obtain ⟨t',ht,hinv,-⟩ := step_inv (write k) s hs
  obtain rfl : t' = t := Option.some.inj (ht.symm.trans hst)
  exact hinv

/-- What the descriptor has accepted when the loop returns. -/
theorem returned_spec {write : ℕ → Write} {n : ℕ} {ret : Int} {accepted : Str}
    (h : StepSystem.drive (step buf) write start n = some (.returned ret accepted)) :
    accepted <+: buf ∧ (ret = 0 ↔ accepted = buf) ∧ (ret ≠ 0 → ret < 0) := reached_inv h

/-- `write_full` returns. On the way its offset is the number of bytes accepted so far, and it
returns 0 just when the descriptor has accepted the whole buffer; what the descriptor has accepted
is a prefix of the buffer in any case. -/
theorem writes_prefix (buf : Str) (write : ℕ → Write) :
    (∃ n ret accepted, n ≤ buf.length + 1 ∧
      StepSystem.drive (step buf) write start n = some (.returned ret accepted)) ∧
    (∀ n total accepted, StepSystem.drive (step buf) write start n = some (.loop total accepted) →
      total ≤ buf.length ∧ accepted = buf.take total) ∧
    ∀ n ret accepted,
      StepSystem.drive (step buf) write start n = some (.returned ret accepted) →
      accepted <+: buf ∧ (ret = 0 ↔ accepted = buf) ∧ (ret ≠ 0 → ret < 0) := by
  refine ⟨returns buf write,?_,?_⟩
  · intro n total accepted h
    exact reached_inv h
  · intro n ret accepted h
    exact returned_spec h

section Transmitter

open MessageTransmitter

variable {mac : Str} {i : Input} {s : MessageTransmitter.State Str} {packet accepted : Str}
  {write : ℕ → Write} {n : ℕ} {ret : Int}
  (hret : StepSystem.drive (step packet) write start n = some (.returned ret accepted))
  (hwritten : i.written = !decide (ret < 0))
include hret hwritten

/-- The test of `ret` in `send_mess` is a test of whether the whole packet was accepted. -/
theorem written_iff : i.written = true ↔ accepted = packet := by
  obtain ⟨-,hzero,hneg⟩ := returned_spec hret
  rw [hwritten,Bool.not_eq_true',decide_eq_false_iff_not,← hzero]
  constructor
  · intro hnot
    by_contra hne
    exact hnot (hneg hne)
  · omega

theorem written_cases : accepted = packet ∧ i.written = true ∨ accepted ≠ packet ∧ i.written = false := by
  have hiff := written_iff hret hwritten
  cases hw : i.written with
  | true => exact .inl ⟨hiff.mp hw,rfl⟩
  | false =>
    refine .inr ⟨fun hall => ?_,rfl⟩
    rw [hiff.mpr hall] at hw
    contradiction

/-- A live packet is either accepted to its last byte and counted as delivered, or it is put
back and the device has got less than the packet. -/
theorem transmitterStep_sendLive (hpc : s.pc = .sendLive packet) :
    (accepted = packet ∧
      (transmitterStep mac i s).deliveredLive = s.deliveredLive ++ [packet]) ∨
    (accepted ≠ packet ∧ (transmitterStep mac i s).pc = .pushBack packet ∧
      (transmitterStep mac i s).deliveredLive = s.deliveredLive) := by
  rcases written_cases hret hwritten with ⟨hall,hw⟩ | ⟨hpart,hw⟩
  · exact .inl ⟨hall,by simp [transmitterStep,hpc,hw]⟩
  · exact .inr ⟨hpart,by simp [transmitterStep,hpc,hw],by simp [transmitterStep,hpc,hw]⟩

/-- The same for a packet of the offline cache. -/
theorem transmitterStep_sendOffline {pending failed : List Str}
    (hpc : s.pc = .sendOffline (packet::pending) failed) :
    (accepted = packet ∧
      (transmitterStep mac i s).deliveredOffline = s.deliveredOffline ++ [packet]) ∨
    (accepted ≠ packet ∧
      (transmitterStep mac i s).pc = .sendOffline pending (failed ++ [packet]) ∧
      (transmitterStep mac i s).deliveredOffline = s.deliveredOffline) := by
  rcases written_cases hret hwritten with ⟨hall,hw⟩ | ⟨hpart,hw⟩
  · exact .inl ⟨hall,by simp [transmitterStep,hpc,hw]⟩
  · exact .inr ⟨hpart,by simp [transmitterStep,hpc,hw],by simp [transmitterStep,hpc,hw]⟩

end Transmitter

end WriteFull
end Sap9001
