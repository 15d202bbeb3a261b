import Sap9001.SoftwareWdt

/-! The watchdog's counts by the history of its operations: how many passes of the monitor a slot
has seen since its owner was last heard of. Histories have their last operation first. -/
namespace Sap9001
namespace CSoftwareWdt

def tableAfter (history : List Op) : CSoftwareWdt := history.foldr perform new

/-- The operation registers slot `k`, or feeds it. -/
def Op.refreshes (k : Fin 20) (t : CSoftwareWdt) : Op → Bool
  | .request cThreadName wTimeout => (t.requestSoftwareWdtID cThreadName wTimeout).1 = (k : ℕ)
  | .keepAlive wWdtId => wWdtId = (k : ℕ)
  | .release _ | .montior _ => false

/-- The passes of the monitor since slot `k` was registered or fed, whichever came later. -/
def passes (k : Fin 20) : List Op → ℕ
  | [] => 0
  | op::earlier =>
    if op.refreshes k (tableAfter earlier) then 0 else passes k earlier + montiorCalls [op]

variable {t : CSoftwareWdt} {k : Fin 20}

/-- A registration takes the first free slot, if there is one. -/
theorem request_spec (t : CSoftwareWdt) (cThreadName : Str) (wTimeout : Int) :
    (∃ b : Fin 20, (t b).reqWdtFlg = false ∧ t.requestSoftwareWdtID cThreadName wTimeout =
        (((b : ℕ) : Int),(Function.update t b ⟨true,wTimeout,0,cThreadName⟩ : CSoftwareWdt))) ∨
      (∀ b, (t b).reqWdtFlg = true) ∧ t.requestSoftwareWdtID cThreadName wTimeout = (-1,t) := by
  unfold requestSoftwareWdtID
  split
  · rename_i b hfind
    exact .inl ⟨b,by simpa using List.find?_some hfind,rfl⟩
  · rename_i hfind
    exact .inr ⟨fun b => by simpa using List.find?_eq_none.mp hfind b (List.mem_finRange b),rfl⟩

/-- A call returns the number of a slot that was free, or -1 when none was. -/
theorem request_result (t : CSoftwareWdt) (cThreadName : Str) (wTimeout : Int) :
    ((∃ b : Fin 20, (t.requestSoftwareWdtID cThreadName wTimeout).1 = (b : ℕ) ∧
        (t b).reqWdtFlg = false) ∨ (t.requestSoftwareWdtID cThreadName wTimeout).1 = -1) ∧
      ((t.requestSoftwareWdtID cThreadName wTimeout).1 = -1 ↔ ∀ b, (t b).reqWdtFlg = true) := by
  rcases request_spec t cThreadName wTimeout with ⟨b,hfree,heq⟩ | ⟨hall,heq⟩
  · rw [heq]
    refine ⟨.inl ⟨b,rfl,hfree⟩,fun h => ?_,fun hall => ?_⟩
    · simp only at h
      omega
    · simp [hall b] at hfree
  · rw [heq]
    exact ⟨.inr rfl,fun _ => hall,fun _ => rfl⟩

theorem releaseAll_unregistered (t : CSoftwareWdt) (k : Fin 20) :
    (releaseAll t k).reqWdtFlg = false := by
  unfold releaseAll
  split_ifs with h
  · rfl
  · simpa using h

theorem scan_trans_eq {transThread : Option Bool} {b : Fin 20} {bs : List (Fin 20)}
    (h : (t b).AtLimit) (hname : (t b).wdtName = transMessage) : scan transThread (b::bs) t =
      match transThread with
      | none => scan none bs (countUp t b)
      | some alive => (true,if alive then releaseAll (countUp t b) else countUp t b) := by
  have hlimit : (t b).wdtTimeout < (t b).wdtCount + 1 := Int.lt_add_one_of_le h.2
  cases transThread <;> simp [scan,h.1,hlimit,hname]

/-- A slot that is registered in `t'` was so in `t`, with a count of at least `n` less. -/
def CountedBy (n : ℕ) (k : Fin 20) (t t' : CSoftwareWdt) : Prop :=
  (t' k).reqWdtFlg = true → (t k).reqWdtFlg = true ∧ (t' k).wdtCount ≤ (t k).wdtCount + n

theorem CountedBy.refl (n : ℕ) (k : Fin 20) (t : CSoftwareWdt) : CountedBy n k t t :=
  fun h => ⟨h,by omega⟩

theorem CountedBy.of_eq {n : ℕ} {t' : CSoftwareWdt} (h : t' k = t k) : CountedBy n k t t' := by
  intro hreg
  rw [h] at hreg ⊢
  exact ⟨hreg,by omega⟩

theorem CountedBy.trans {n n' : ℕ} {t' t'' : CSoftwareWdt} (h : CountedBy n k t t')
    (h' : CountedBy n' k t' t'') : CountedBy (n' + n) k t t'' := by
  intro hreg
  obtain ⟨hreg',hle'⟩ := h' hreg
  obtain ⟨hreg'',hle⟩ := h hreg'
  exact ⟨hreg'',by push_cast; omega⟩

theorem countUp_countedBy (t : CSoftwareWdt) (b k : Fin 20) :
    CountedBy (if b = k then 1 else 0) k t (countUp t b) := by
  by_cases h : b = k
  · subst h
    intro hreg
    simp only [countUp_self] at hreg ⊢
    exact ⟨hreg,by simp⟩
  · exact .of_eq (countUp_of_ne t (Ne.symm h))

/-- A pass registers no slot and counts each slot up at most as often as it meets it. -/
theorem scan_countedBy (transThread : Option Bool) (bs : List (Fin 20)) (t : CSoftwareWdt)
    (k : Fin 20) : CountedBy (bs.count k) k t (scan transThread bs t).2 := by
  induction bs generalizing t with
  | nil => exact .refl _ k t
  | cons b bs ih =>
    have hcount : (b::bs).count k = bs.count k + if b = k then 1 else 0 := by
      simp [List.count_cons]
    have hup := countUp_countedBy t b k
    have hstop : CountedBy ((b::bs).count k) k t (countUp t b) := by
      rw [hcount]
      exact hup.trans (.refl _ k _)
    by_cases hlimit : (t b).AtLimit
    · by_cases hname : (t b).wdtName = transMessage
      · rw [scan_trans_eq hlimit hname]
        cases transThread with
        | none =>
          rw [hcount]
          exact hup.trans (ih _)
        | some alive => cases alive with
          | true => exact fun hreg => absurd hreg (by simp [releaseAll_unregistered])
          | false => exact hstop
      · rw [scan_other hlimit hname]
        exact hstop
    · rw [scan_within hlimit,hcount]
      have hpass : CountedBy (if b = k then 1 else 0) k t (pass t b) := by
        by_cases hreg : (t b).reqWdtFlg = true
        · rw [pass,if_pos hreg]
          exact hup
        · rw [pass,if_neg hreg]
          exact .refl _ k t
      exact hpass.trans (ih _)

/-- The number of a slot is an id in range. -/
theorem slot_id (k : Fin 20) : ¬ (((k : ℕ) : Int) < 0 ∨ 20 ≤ ((k : ℕ) : Int)) := by
  omega

theorem keepAlive_self (t : CSoftwareWdt) (k : Fin 20) :
    ((t.keepSoftwareWdtAlive (k : ℕ)).2 k).wdtCount = 0 := by
  simp only [keepSoftwareWdtAlive,dif_neg (slot_id k),Int.toNat_natCast,Fin.eta,resetCount,
    Function.update_self]

/-- A slot that is released is not registered. -/
theorem release_self (t : CSoftwareWdt) (k : Fin 20) :
    ((t.releaseSoftwareWdtID (k : ℕ)).2 k).reqWdtFlg = false := by
  simp only [releaseSoftwareWdtID,dif_neg (slot_id k),Int.toNat_natCast,Fin.eta,releaseSlot]
  split_ifs with hold
  · simp [WdtSlot.release]
  · simpa using hold

/-- Registration and feeding start the count again. -/
theorem count_of_refreshes {op : Op} (h : op.refreshes k t = true) :
    (perform op t k).wdtCount = 0 := by
  cases op with
  | release wWdtId => contradiction
  | montior transThread => contradiction
  | request cThreadName wTimeout =>
    rcases request_spec t cThreadName wTimeout with ⟨b,-,heq⟩ | ⟨-,heq⟩
    · have hk : k = b := by
        simp only [Op.refreshes,heq,decide_eq_true_eq] at h
        exact Fin.ext (by omega)
      subst hk
      simp [perform,heq]
    · simp only [Op.refreshes,heq,decide_eq_true_eq] at h
      omega
  | keepAlive wWdtId =>
    have hk : wWdtId = (k : ℕ) := by simpa [Op.refreshes] using h
    subst hk
    exact keepAlive_self t k

/-- Every other operation counts at most what the monitor's passes count. -/
theorem perform_countedBy {op : Op} (h : op.refreshes k t = false) :
    CountedBy (montiorCalls [op]) k t (perform op t) := by
  cases op with
  | montior transThread =>
    have hcount : (List.finRange 20).count k = 1 :=
      List.count_eq_one_of_mem (List.nodup_finRange 20) (List.mem_finRange k)
    have hscan := scan_countedBy transThread (List.finRange 20) t k
    rw [hcount] at hscan
    exact hscan
  | request cThreadName wTimeout =>
    refine .of_eq ?_
    rcases request_spec t cThreadName wTimeout with ⟨b,-,heq⟩ | ⟨-,heq⟩
    · have hk : k ≠ b := by
        rintro rfl
        simp [Op.refreshes,heq] at h
      simp only [perform,heq]
      exact Function.update_of_ne hk ..
    · simp only [perform,heq]
  | keepAlive wWdtId => exact .of_eq (keepAlive_frame (by simpa [Op.refreshes] using h))
  | release wWdtId =>
    by_cases hk : wWdtId = (k : ℕ)
    · subst hk
      intro hreg
      exact absurd hreg (by simp [perform,release_self])
    · exact .of_eq (release_frame hk)

/-- The count of a registered slot is at most the number of passes since its owner was heard of. -/
theorem count_le_passes (history : List Op) (k : Fin 20)
    (h : (tableAfter history k).reqWdtFlg = true) :
    (tableAfter history k).wdtCount ≤ passes k history := by
  induction history with
  | nil => simp [tableAfter,new] at h
  | cons op earlier ih =>
    have htable : tableAfter (op::earlier) = perform op (tableAfter earlier) := rfl
    rw [htable] at h ⊢
    rw [passes]
    split_ifs with href
    · exact (count_of_refreshes href).le
    · obtain ⟨hreg,hle⟩ := perform_countedBy (by simpa using href) h
      have hcount := ih hreg
      push_cast
      omega

theorem scan_none (bs : List (Fin 20)) (t : CSoftwareWdt) : (scan none bs t).1 = false := by
  induction bs generalizing t with
  | nil => rfl
  | cons b bs ih =>
    unfold scan
    split_ifs <;> first | exact ih _ | rfl

/-- The monitor asks for a restart only over a slot of the transmitter that has seen more passes
than its timeout; a registration gets a slot that was free, and -1 when all are taken. -/
theorem restart_justified (history : List Op) (transThread : Option Bool) :
    (((tableAfter history).montiorWdtRunState transThread).1 = -1 →
      ∃ k, (tableAfter history k).reqWdtFlg = true ∧ (tableAfter history k).wdtName = transMessage ∧
        (tableAfter history k).wdtTimeout < passes k (.montior transThread::history)) ∧
    ∀ cThreadName wTimeout,
      ((∃ b : Fin 20, ((tableAfter history).requestSoftwareWdtID cThreadName wTimeout).1 = (b : ℕ) ∧
          (tableAfter history b).reqWdtFlg = false) ∨
        ((tableAfter history).requestSoftwareWdtID cThreadName wTimeout).1 = -1) ∧
      (((tableAfter history).requestSoftwareWdtID cThreadName wTimeout).1 = -1 ↔
        ∀ b, (tableAfter history b).reqWdtFlg = true) := by
  refine ⟨fun h => ?_,request_result (tableAfter history)⟩
  cases transThread with
  | none => simp [montiorWdtRunState,scan_none] at h
  | some alive =>
    obtain ⟨k,⟨hreg,hlimit⟩,hname,-⟩ := montior_detects_iff.mp h
    have hcount := count_le_passes history k hreg
    refine ⟨k,hreg,hname,?_⟩
    simp only [passes,Op.refreshes,Bool.false_eq_true,if_false,montiorCalls]
    push_cast
    omega

/-- The transmitter, registered with timeout 1, has seen a pass and meets the second. -/
theorem second_pass_restarts : ∃ k,
    (tableAfter [.montior (some true),.request transMessage 1] k).wdtTimeout <
      passes k [.montior (some true),.montior (some true),.request transMessage 1] := by
  obtain ⟨k,-,-,h⟩ := (restart_justified [.montior (some true),.request transMessage 1]
    (some true)).1 (by decide)
  exact ⟨k,h⟩

end CSoftwareWdt
end Sap9001
