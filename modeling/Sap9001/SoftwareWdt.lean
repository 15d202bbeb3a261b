import Sap9001.Bytes
import Sap9001.Library.StepSystem
import Mathlib.Data.List.FinRange
import Mathlib.Order.WellFounded
import Mathlib.Data.Fintype.Basic

/-! The software watchdog (`infra/software_wdt.cpp`): a table of slots that the watchdog
thread scans. Every operation holds the table's mutex. -/
namespace Sap9001

/-- Overflow of the `int` count is not modelled. -/
structure WdtSlot where
  reqWdtFlg : Bool
  wdtTimeout : Int
  wdtCount : Int
  wdtName : Str

def WdtSlot.release (s : WdtSlot) : WdtSlot :=
  { s with reqWdtFlg := false, wdtTimeout := 0, wdtCount := 0 }

/-- One more pass over the slot exceeds its timeout. -/
def WdtSlot.AtLimit (s : WdtSlot) : Prop := s.reqWdtFlg = true ∧ s.wdtTimeout ≤ s.wdtCount

abbrev CSoftwareWdt := Fin 20 → WdtSlot

namespace CSoftwareWdt

def transMessage : Str := str "trans_message"

def new : CSoftwareWdt := fun _ => ⟨false,0,0,[]⟩

/-- The first free slot, or -1. -/
def requestSoftwareWdtID (t : CSoftwareWdt) (cThreadName : Str) (wTimeout : Int) :
    Int × CSoftwareWdt :=
  match (List.finRange 20).find? (fun b => !(t b).reqWdtFlg) with
  | some b => ((b : ℕ),Function.update t b ⟨true,wTimeout,0,cThreadName⟩)
  | none => (-1,t)

def releaseSlot (t : CSoftwareWdt) (b : Fin 20) : Bool × CSoftwareWdt :=
  if (t b).reqWdtFlg then (true,Function.update t b (t b).release) else (false,t)

def releaseSoftwareWdtID (t : CSoftwareWdt) (wWdtId : Int) : Bool × CSoftwareWdt :=
  if h : wWdtId < 0 ∨ 20 ≤ wWdtId then (false,t) else t.releaseSlot ⟨wWdtId.toNat,by omega⟩

def resetCount (t : CSoftwareWdt) (b : Fin 20) : CSoftwareWdt :=
  Function.update t b { t b with wdtCount := 0 }

def keepSoftwareWdtAlive (t : CSoftwareWdt) (wWdtId : Int) : Bool × CSoftwareWdt :=
  if h : wWdtId < 0 ∨ 20 ≤ wWdtId then (false,t)
  else (true,t.resetCount ⟨wWdtId.toNat,by omega⟩)

def releaseAll (t : CSoftwareWdt) : CSoftwareWdt :=
  fun b => if (t b).reqWdtFlg then (t b).release else t b

def countUp (t : CSoftwareWdt) (b : Fin 20) : CSoftwareWdt :=
  Function.update t b { t b with wdtCount := (t b).wdtCount + 1 }

/-- The loop of `MontiorWdtRunState`: whether a timeout was detected, and the table.
`transThread` is `none` when the thread id of the transmitter is 0, and otherwise says
whether `pthread_kill` finds the thread alive. -/
def scan (transThread : Option Bool) : List (Fin 20) → CSoftwareWdt → Bool × CSoftwareWdt
  | [], t => (false,t)
  | b::bs, t =>
    if (t b).reqWdtFlg then
      if (countUp t b b).wdtTimeout < (countUp t b b).wdtCount then
        if (countUp t b b).wdtName = transMessage then
          match transThread with
          | none => scan none bs (countUp t b)
          | some alive => (true,if alive then releaseAll (countUp t b) else countUp t b)
        else (false,countUp t b)
      else scan transThread bs (countUp t b)
    else scan transThread bs t

def montiorWdtRunState (transThread : Option Bool) (t : CSoftwareWdt) : Int × CSoftwareWdt :=
  let r := scan transThread (List.finRange 20) t
  (if r.1 then -1 else 0,r.2)

/-- Everything that the threads do with the table. -/
inductive Op
  | request (cThreadName : Str) (wTimeout : Int)
  | release (wWdtId : Int)
  | keepAlive (wWdtId : Int)
  | montior (transThread : Option Bool)

def perform (op : Op) (t : CSoftwareWdt) : CSoftwareWdt :=
  match op with
  | .request cThreadName wTimeout => (t.requestSoftwareWdtID cThreadName wTimeout).2
  | .release wWdtId => (t.releaseSoftwareWdtID wWdtId).2
  | .keepAlive wWdtId => (t.keepSoftwareWdtAlive wWdtId).2
  | .montior transThread => (t.montiorWdtRunState transThread).2

def Reachable (t : CSoftwareWdt) : Prop :=
  StepSystem.Reachable (· = new) (fun t op t' => perform op t = t') t

/-- What the monitor calls among the operations return. -/
def montiorResults : CSoftwareWdt → List Op → List Int
  | _, [] => []
  | t, .montior transThread::ops =>
    (t.montiorWdtRunState transThread).1::montiorResults (perform (.montior transThread) t) ops
  | t, op::ops => montiorResults (perform op t) ops

/-- A slot before `k` ends the scan without a detection. -/
def Blocked (t : CSoftwareWdt) (k : Fin 20) : Prop :=
  ∃ b < k, (t b).AtLimit ∧ (t b).wdtName ≠ transMessage

/-- The owner of slot `k` hangs: the slot is not fed or released, and the transmitter has a
thread id. -/
def Op.Hangs (k : Fin 20) : Op → Prop
  | .request _ _ => True
  | .release wWdtId | .keepAlive wWdtId => wWdtId ≠ (k : ℕ)
  | .montior transThread => transThread.isSome

/-- No monitor call of the run finds slot `k` blocked. -/
def NeverBlocked (k : Fin 20) : CSoftwareWdt → List Op → Prop
  | _, [] => True
  | t, .montior transThread::ops =>
    ¬ t.Blocked k ∧ NeverBlocked k (perform (.montior transThread) t) ops
  | t, op::ops => NeverBlocked k (perform op t) ops

variable {t : CSoftwareWdt} {k : Fin 20} {transThread : Option Bool}

@[simp] theorem countUp_self (t : CSoftwareWdt) (b : Fin 20) :
    countUp t b b = { t b with wdtCount := (t b).wdtCount + 1 } := Function.update_self ..

theorem countUp_of_ne (t : CSoftwareWdt) {b c : Fin 20} (h : c ≠ b) : countUp t b c = t c :=
  Function.update_of_ne h ..

/-- The table after the loop has gone past a slot. -/
def pass (t : CSoftwareWdt) (b : Fin 20) : CSoftwareWdt :=
  if (t b).reqWdtFlg then countUp t b else t

theorem pass_of_ne (t : CSoftwareWdt) {b c : Fin 20} (h : c ≠ b) : pass t b c = t c := by
  unfold pass
  split_ifs
  · exact countUp_of_ne t h
  · rfl

theorem scan_within {b : Fin 20} {bs : List (Fin 20)} (h : ¬ (t b).AtLimit) :
    scan transThread (b::bs) t = scan transThread bs (pass t b) := by
  by_cases hreg : (t b).reqWdtFlg
  · have hlimit : ¬ (t b).wdtTimeout < (t b).wdtCount + 1 := by
      intro hlt
      exact h ⟨hreg,by omega⟩
    simp [scan,pass,hreg,hlimit]
  · simp [scan,pass,hreg]

theorem scan_trans {b : Fin 20} {bs : List (Fin 20)} {alive : Bool} (h : (t b).AtLimit)
    (hname : (t b).wdtName = transMessage) : (scan (some alive) (b::bs) t).1 = true := by
  have hlimit : (t b).wdtTimeout < (t b).wdtCount + 1 := Int.lt_add_one_of_le h.2
  simp [scan,h.1,hlimit,hname]

theorem scan_other {b : Fin 20} {bs : List (Fin 20)} (h : (t b).AtLimit)
    (hname : (t b).wdtName ≠ transMessage) :
    scan transThread (b::bs) t = (false,countUp t b) := by
  have hlimit : (t b).wdtTimeout < (t b).wdtCount + 1 := Int.lt_add_one_of_le h.2
  simp [scan,h.1,hlimit,hname]

/-- Slots that stay within their timeout are gone past. -/
theorem scan_skip (transThread : Option Bool) (pre rest : List (Fin 20)) (hnd : (pre ++ rest).Nodup)
    (hpre : ∀ b ∈ pre, ¬ (t b).AtLimit) :
    ∃ t', scan transThread (pre ++ rest) t = scan transThread rest t' ∧ ∀ b ∈ rest, t' b = t b := by
  induction pre generalizing t with
  | nil => exact ⟨t,rfl,fun _ _ => rfl⟩
  | cons b pre ih =>
    rw [List.cons_append,List.nodup_cons] at hnd
    have hother : ∀ c ∈ pre ++ rest, pass t b c = t c := by
      intro c hc
      refine pass_of_ne t ?_
      rintro rfl
      exact hnd.1 hc
    obtain ⟨t',hscan,hsame⟩ := ih (t := pass t b) hnd.2 fun c hc => by
      rw [hother c (by simp [hc])]
      exact hpre c (by simp [hc])
    rw [List.cons_append,scan_within (hpre b (by simp)),hscan]
    exact ⟨t',rfl,fun c hc => (hsame c hc).trans (hother c (by simp [hc]))⟩

/-- A scan that detects nothing leaves the slots outside its range alone. -/
theorem scan_frame {alive : Bool} (bs : List (Fin 20)) (hk : k ∉ bs)
    (h : (scan (some alive) bs t).1 = false) : (scan (some alive) bs t).2 k = t k := by
  induction bs generalizing t with
  | nil => rfl
  | cons b bs ih =>
    rw [List.mem_cons,not_or] at hk
    by_cases hb : (t b).AtLimit
    · by_cases hname : (t b).wdtName = transMessage
      · rw [scan_trans hb hname] at h
        contradiction
      · rw [scan_other hb hname]
        exact countUp_of_ne t hk.1
    · rw [scan_within hb] at h ⊢
      exact (ih hk.2 h).trans (pass_of_ne t hk.1)

/-- The slots before and after `b` in the order of the scan. -/
theorem finRange_split (b : Fin 20) : ∃ pre post : List (Fin 20),
    List.finRange 20 = pre ++ b::post ∧ ∀ c ∈ pre, c < b := by
  obtain ⟨pre,post,h⟩ := List.append_of_mem (List.mem_finRange b)
  have hlt := List.pairwise_lt_finRange 20
  rw [h,List.pairwise_append] at hlt
  exact ⟨pre,post,h,fun c hc => hlt.2.2 c hc b (by simp)⟩

/-- The scan reaches slot `b` when no slot before it is at its limit. -/
theorem scan_reaches (transThread : Option Bool) {b : Fin 20} (h : ∀ c < b, ¬ (t c).AtLimit) : ∃ t' post,
    scan transThread (List.finRange 20) t = scan transThread (b::post) t' ∧ t' b = t b ∧
      b ∉ post := by
  obtain ⟨pre,post,hsplit,hpre⟩ := finRange_split b
  have hnd := List.nodup_finRange 20
  rw [hsplit] at hnd
  obtain ⟨t',hscan,hsame⟩ := scan_skip transThread pre (b::post) hnd
    fun c hc => h c (hpre c hc)
  refine ⟨t',post,?_,hsame b (by simp),?_⟩
  · rw [hsplit,hscan]
  · exact (List.nodup_cons.mp (List.nodup_append.mp hnd).2.1).1

/-- While the transmitter has a thread id, a call detects a hang exactly when the first slot
at its limit is one of the transmitter. -/
theorem montior_detects_iff {alive : Bool} : (t.montiorWdtRunState (some alive)).1 = -1 ↔
    ∃ b, (t b).AtLimit ∧ (t b).wdtName = transMessage ∧ ∀ c < b, ¬ (t c).AtLimit := by
  have hresult : (t.montiorWdtRunState (some alive)).1 = -1 ↔
      (scan (some alive) (List.finRange 20) t).1 = true := by
    cases h : (scan (some alive) (List.finRange 20) t).1 <;> simp [montiorWdtRunState,h]
  rw [hresult]
  constructor
  · intro hscan
    by_cases hany : ∃ b, (t b).AtLimit
    · obtain ⟨b,hb,hmin⟩ := WellFounded.has_min (wellFounded_lt (α := Fin 20))
        {b | (t b).AtLimit} hany
      have hfirst : ∀ c < b, ¬ (t c).AtLimit := fun c hc hlimit => hmin c hlimit hc
      refine ⟨b,hb,?_,hfirst⟩
      by_contra hname
      obtain ⟨t',post,heq,hsame,-⟩ := scan_reaches (some alive) hfirst
      rw [heq,scan_other (hsame ▸ hb) (hsame ▸ hname)] at hscan
      contradiction
    · push Not at hany
      obtain ⟨t',heq,-⟩ := scan_skip (some alive) (List.finRange 20) []
        (by simpa using List.nodup_finRange 20) fun b _ => hany b
      rw [List.append_nil] at heq
      rw [heq] at hscan
      contradiction
  · rintro ⟨b,hb,hname,hfirst⟩
    obtain ⟨t',post,heq,hsame,-⟩ := scan_reaches (some alive) hfirst
    rw [heq]
    exact scan_trans (hsame ▸ hb) (hsame ▸ hname)

/-- A call that is not blocked detects the hang or counts the slot up, within its timeout. -/
theorem montior_unblocked (alive : Bool) (hreg : (t k).reqWdtFlg = true)
    (hname : (t k).wdtName = transMessage) (hfree : ¬ t.Blocked k) :
    (t.montiorWdtRunState (some alive)).1 = -1 ∨
      (t.montiorWdtRunState (some alive)).2 k = { t k with wdtCount := (t k).wdtCount + 1 } ∧
        (t k).wdtCount < (t k).wdtTimeout := by
  by_cases hdetected : (t.montiorWdtRunState (some alive)).1 = -1
  · exact .inl hdetected
  right
  have hnone := montior_detects_iff.not.mp hdetected
  push Not at hnone
  -- The first slot at its limit, if it is not after k, would have been detected.
  have hbefore : ∀ c < k, ¬ (t c).AtLimit := by
    intro c
    induction c using WellFoundedLT.induction with
    | _ c ih =>
      intro hck hc
      obtain ⟨d,hdc,hd⟩ := hnone c hc (by_contra fun hne => hfree ⟨c,hck,hc,hne⟩)
      exact ih d hdc (hdc.trans hck) hd
  have hk : ¬ (t k).AtLimit := by
    intro hlimit
    obtain ⟨d,hdk,hd⟩ := hnone k hlimit hname
    exact hbefore d hdk hd
  obtain ⟨t',post,heq,hsame,hpost⟩ := scan_reaches (some alive) hbefore
  have hk' : ¬ (t' k).AtLimit := hsame ▸ hk
  have hscan : (scan (some alive) post (pass t' k)).1 = false := by
    rw [← scan_within hk',← heq]
    by_contra htrue
    exact hdetected (by simp [montiorWdtRunState,htrue])
  refine ⟨?_,?_⟩
  · simp only [montiorWdtRunState]
    rw [heq,scan_within hk',scan_frame post hpost hscan,pass,hsame,if_pos hreg,countUp_self,hsame]
  · by_contra hle
    exact hk ⟨hreg,by omega⟩

theorem request_frame (cThreadName : Str) (wTimeout : Int) (hreg : (t k).reqWdtFlg = true) :
    (t.requestSoftwareWdtID cThreadName wTimeout).2 k = t k := by
  unfold requestSoftwareWdtID
  split
  · rename_i b hfind
    have hb := List.find?_some hfind
    have hne : k ≠ b := by
      rintro rfl
      simp [hreg] at hb
    exact Function.update_of_ne hne ..
  · rfl

/-- Another id in range is the number of another slot. -/
theorem ne_slot {wWdtId : Int} (h : wWdtId ≠ (k : ℕ)) (hrange : ¬ (wWdtId < 0 ∨ 20 ≤ wWdtId)) :
    k ≠ ⟨wWdtId.toNat,by omega⟩ := by
  rintro rfl
  exact h (Int.toNat_of_nonneg (by omega)).symm

theorem release_frame {wWdtId : Int} (h : wWdtId ≠ (k : ℕ)) :
    (t.releaseSoftwareWdtID wWdtId).2 k = t k := by
  unfold releaseSoftwareWdtID releaseSlot
  split_ifs with hrange hreg
  · rfl
  · exact Function.update_of_ne (ne_slot h hrange) ..
  · rfl

theorem keepAlive_frame {wWdtId : Int} (h : wWdtId ≠ (k : ℕ)) :
    (t.keepSoftwareWdtAlive wWdtId).2 k = t k := by
  unfold keepSoftwareWdtAlive
  split_ifs with hrange
  · rfl
  · exact Function.update_of_ne (ne_slot h hrange) ..

def montiorCalls : List Op → ℕ
  | [] => 0
  | .montior _::ops => montiorCalls ops + 1
  | _::ops => montiorCalls ops

/-- A slot that starts with some count needs only the rest of its timeout. -/
theorem detects_of_count (ops : List Op) (hreg : (t k).reqWdtFlg = true)
    (hname : (t k).wdtName = transMessage) (hops : ∀ op ∈ ops, op.Hangs k)
    (hfree : NeverBlocked k t ops) (hpos : 0 < montiorCalls ops)
    (hcalls : (t k).wdtTimeout < (t k).wdtCount + montiorCalls ops) :
    -1 ∈ montiorResults t ops := by
  induction ops generalizing t with
  | nil => simp [montiorCalls] at hpos
  | cons op ops ih =>
    have hrest : ∀ op ∈ ops, op.Hangs k := fun o ho => hops o (by simp [ho])
    have hthis := hops op (by simp)
    -- Other operations leave slot k alone.
    have hother {t' : CSoftwareWdt} (hk : t' k = t k) (hfree' : NeverBlocked k t' ops)
        (hpos' : 0 < montiorCalls ops)
        (hcalls' : (t k).wdtTimeout < (t k).wdtCount + montiorCalls ops) :
        -1 ∈ montiorResults t' ops :=
      ih (hk ▸ hreg) (hk ▸ hname) hrest hfree' hpos' (hk ▸ hcalls')
    cases op with
    | request cThreadName wTimeout =>
      exact hother (request_frame cThreadName wTimeout hreg) hfree hpos hcalls
    | release wWdtId => exact hother (release_frame hthis) hfree hpos hcalls
    | keepAlive wWdtId => exact hother (keepAlive_frame hthis) hfree hpos hcalls
    | montior transThread =>
      obtain ⟨alive,rfl⟩ := Option.isSome_iff_exists.mp hthis
      rcases montior_unblocked alive hreg hname hfree.1 with hdetected | ⟨hk,hlt⟩
      · simp [montiorResults,hdetected]
      · have hk' : (perform (.montior (some alive)) t) k =
            { t k with wdtCount := (t k).wdtCount + 1 } := hk
        simp only [montiorCalls] at hcalls
        have hmore : 0 < montiorCalls ops := by omega
        refine List.mem_cons_of_mem _ (ih (hk' ▸ hreg) (hk' ▸ hname) hrest hfree.2 hmore ?_)
        rw [hk']
        simp only
        omega

/-- Counts start at 0 and only go up or back to 0. -/
def CountsNonneg (t : CSoftwareWdt) : Prop := ∀ b, 0 ≤ (t b).wdtCount

theorem CountsNonneg.update (h : CountsNonneg t) (b : Fin 20) {s : WdtSlot}
    (hs : 0 ≤ s.wdtCount) : CountsNonneg (Function.update t b s) := by
  intro c
  by_cases hc : c = b
  · subst hc
    rwa [Function.update_self]
  · rw [Function.update_of_ne hc]
    exact h c

theorem CountsNonneg.countUp (h : CountsNonneg t) (b : Fin 20) : CountsNonneg (countUp t b) :=
  h.update b (Int.le_add_one (h b))

theorem CountsNonneg.releaseAll (h : CountsNonneg t) : CountsNonneg (releaseAll t) := by
  intro b
  unfold CSoftwareWdt.releaseAll
  split_ifs
  · exact Int.le_refl 0
  · exact h b

theorem CountsNonneg.scan (transThread : Option Bool) (bs : List (Fin 20)) (h : CountsNonneg t) :
    CountsNonneg (scan transThread bs t).2 := by
  induction bs generalizing t with
  | nil => exact h
  | cons b bs ih =>
    unfold CSoftwareWdt.scan
    split_ifs
    · cases transThread with
      | none => exact ih (h.countUp b)
      | some alive => cases alive with
        | true => exact (h.countUp b).releaseAll
        | false => exact h.countUp b
    · exact h.countUp b
    · exact ih (h.countUp b)
    · exact ih h

theorem perform_countsNonneg (op : Op) (h : CountsNonneg t) : CountsNonneg (perform op t) := by
  cases op with
  | montior transThread => exact h.scan transThread _
  | request cThreadName wTimeout =>
    simp only [perform,requestSoftwareWdtID]
    split
    · exact h.update _ (Int.le_refl 0)
    · exact h
  | release wWdtId =>
    simp only [perform,releaseSoftwareWdtID,releaseSlot]
    split_ifs
    · exact h
    · exact h.update _ (Int.le_refl 0)
    · exact h
  | keepAlive wWdtId =>
    simp only [perform,keepSoftwareWdtAlive]
    split_ifs
    · exact h
    · exact h.update _ (Int.le_refl 0)

theorem reachable_countsNonneg (h : Reachable t) : CountsNonneg t := by
  refine StepSystem.Reachable.invariant ?_ ?_ h
  · rintro t rfl b
    exact Int.le_refl 0
  · rintro t op t' ht rfl
    exact perform_countsNonneg op ht

/-- The transmitter's hang is detected in every run of operations in which no other thread's
slot before it stays at its limit. -/
theorem hang_detected (ops : List Op) (ht : Reachable t) (hreg : (t k).reqWdtFlg = true)
    (hname : (t k).wdtName = transMessage) (hops : ∀ op ∈ ops, op.Hangs k)
    (hfree : NeverBlocked k t ops) (hpos : 0 < montiorCalls ops)
    (hcalls : (t k).wdtTimeout < montiorCalls ops) : -1 ∈ montiorResults t ops := by
  have hcount := reachable_countsNonneg ht k
  exact detects_of_count ops hreg hname hops hfree hpos (by omega)

/-- The transmitter alone in the table, with timeout 1. -/
def transOnly : CSoftwareWdt := perform (.request transMessage 1) new

theorem transOnly_detected : -1 ∈ montiorResults transOnly
    [.montior (some true),.keepAlive 3,.montior (some true)] := by
  have hfree (t : CSoftwareWdt) : ¬ t.Blocked 0 := by
    rintro ⟨b,hb,-⟩
    exact Fin.not_lt_zero b hb
  refine hang_detected (k := 0) _ ⟨_,_,rfl,.single rfl⟩ rfl rfl ?_ ⟨hfree _,hfree _,trivial⟩
    (by decide) (by decide)
  intro op hop
  simp only [List.mem_cons,List.not_mem_nil,or_false] at hop
  rcases hop with rfl | rfl | rfl
  · rfl
  · exact (by decide : (3 : Int) ≠ ((0 : Fin 20) : ℕ))
  · rfl

/-- A sensor thread that started first and waits for its trigger hides the hang of the
transmitter. -/
theorem hang_hidden : ¬ ∀ (t : CSoftwareWdt) (k : Fin 20) (ops : List Op), Reachable t →
    (t k).reqWdtFlg = true → (t k).wdtName = transMessage → (∀ op ∈ ops, op.Hangs k) →
    0 < montiorCalls ops → (t k).wdtTimeout < montiorCalls ops → -1 ∈ montiorResults t ops := by
  intro hall
  have h := hall (perform (.request transMessage 1) (perform (.request (str "get_ship_data") 1) new)) 1
    [.montior (some true),.montior (some true)] ⟨_,_,rfl,.cons rfl (.single rfl)⟩ rfl rfl
    (by simp [Op.Hangs]) (by decide) (by decide)
  exact absurd h (by decide)

end CSoftwareWdt
end Sap9001
