import Mathlib.Tactic.Common
import Mathlib.Data.List.Basic

/-! Labelled step relations: runs and their invariants, partial call machines with results,
and machines driven by an endless supply of inputs. -/
namespace StepSystem

variable {σ τ α ρ : Type*}

/-- `Run step s as t`: the labels `as`, in order, lead from `s` to `t`. -/
inductive Run (step : σ → α → σ → Prop) : σ → List α → σ → Prop
  | refl (s) : Run step s [] s
  | cons {s a t as u} : step s a t → Run step t as u → Run step s (a::as) u

namespace Run

variable {step : σ → α → σ → Prop} {s t : σ} {as : List α}

theorem single {a : α} (h : step s a t) : Run step s [a] t := .cons h (.refl t)

theorem append {as bs : List α} {u : σ} (h : Run step s as t) (h' : Run step t bs u) :
    Run step s (as ++ bs) u := by
  induction h with
  | refl => exact h'
  | cons hstep _ ih => exact .cons hstep (ih h')

/-- The run of a deterministic system. -/
theorem foldl (next : σ → α → σ) (s : σ) (as : List α) :
    Run (fun s a t => next s a = t) s as (as.foldl next s) := by
  induction as generalizing s with
  | nil => exact .refl s
  | cons a as ih => exact .cons rfl (ih _)

/-- The run of a partial deterministic system that does not get stuck. -/
theorem foldlM {next : σ → α → Option σ} {as : List α} (h : as.foldlM next s = some t) :
    Run (fun s a t => next s a = some t) s as t := by
  induction as generalizing s with
  | nil =>
    obtain rfl := Option.some.inj h
    exact .refl s
  | cons a as ih =>
    rw [List.foldlM_cons] at h
    obtain ⟨u,hu,hrest⟩ := Option.bind_eq_some_iff.mp h
    exact .cons hu (ih hrest)

/-- The induction rule for safety: what every step keeps, every run keeps. -/
theorem invariant {I : σ → Prop} (hstep : ∀ s a t, I s → step s a t → I t)
    (hr : Run step s as t) (hs : I s) : I t := by
  induction hr with
  | refl => exact hs
  | cons h _ ih => exact ih (hstep _ _ _ hs h)

/-- Progress rule: a rank that labels of a kind make fall, while the others do not raise it, is
zero somewhere in a run with as many of these labels. `I` holds as long as the system goes on. -/
theorem progress {rank : σ → ℕ} {p : α → Bool} {I : σ → Prop}
    (hback : ∀ s a t, step s a t → I t → I s)
    (hrank : ∀ s a t, I s → 0 < rank s → step s a t → rank t + (if p a then 1 else 0) ≤ rank s)
    (hr : Run step s as t) (ht : I t) (hn : rank s ≤ as.countP p) :
    ∃ as₁ as₂ u, as = as₁ ++ as₂ ∧ Run step s as₁ u ∧ Run step u as₂ t ∧ rank u = 0 := by
  induction hr with
  | refl s => exact ⟨[],[],s,rfl,.refl s,.refl s,Nat.le_zero.mp hn⟩
  | @cons s a u as t hstep hrest ih =>
    rcases Nat.eq_zero_or_pos (rank s) with hzero | hpos
    · exact ⟨[],a::as,s,rfl,.refl s,.cons hstep hrest,hzero⟩
    · have hu : I u := by
        by_contra hnot
        exact hrest.invariant (I := fun s => ¬ I s)
          (fun s a t hs hst hI => hs (hback s a t hst hI)) hnot ht
      have hfall := hrank s a u (hback s a u hstep hu) hpos hstep
      rw [List.countP_cons] at hn
      obtain ⟨as₁,as₂,v,rfl,hfirst,hsecond,hv⟩ := ih ht (by omega)
      exact ⟨a::as₁,as₂,v,rfl,.cons hstep hfirst,hsecond,hv⟩

end Run

/-- The states some run reaches from an initial state. -/
def Reachable (init : σ → Prop) (step : σ → α → σ → Prop) (s : σ) : Prop :=
  ∃ s₀ as, init s₀ ∧ Run step s₀ as s

/-- What holds at the start and is kept by every step holds in every reachable state. -/
theorem Reachable.invariant {init : σ → Prop} {step : σ → α → σ → Prop} {s : σ} {I : σ → Prop}
    (hinit : ∀ s, init s → I s) (hstep : ∀ s a t, I s → step s a t → I t)
    (h : Reachable init step s) : I s := by
  obtain ⟨s₀,as,h₀,hr⟩ := h
  exact hr.invariant hstep (hinit s₀ h₀)

/-- A deterministic system whose steps are injective keeps different states apart. -/
theorem foldl_ne {next : σ → α → σ} (hnext : ∀ a, Function.Injective (next · a)) (as : List α)
    {s t : σ} (h : s ≠ t) : as.foldl next s ≠ as.foldl next t := by
  induction as generalizing s t with
  | nil => exact h
  | cons a as ih => exact ih fun heq => h (hnext a heq)

/-- Runs that differ in one label end in different states, if the label can be told from the
state after it. -/
theorem foldl_ne_of_label {next : σ → α → σ} (hnext : ∀ a, Function.Injective (next · a))
    (hlabel : ∀ s, Function.Injective (next s)) (pre post : List α) {a b : α} (hab : a ≠ b)
    (s : σ) : (pre ++ a::post).foldl next s ≠ (pre ++ b::post).foldl next s := by
  simp only [List.foldl_append,List.foldl_cons]
  exact foldl_ne hnext post fun heq => hab (hlabel _ heq)

/-- What labels overwrite, the last of them decides. -/
theorem foldl_overwrite {next : σ → α → σ} {g : σ → Option ρ} {p : α → Bool} {v : α → ρ}
    (h : ∀ s a, g (next s a) = if p a then some (v a) else g s) (as : List α) (s : σ) :
    g (as.foldl next s) = ((as.filter p).getLast?.map v).or (g s) := by
  induction as generalizing s with
  | nil => rfl
  | cons a as ih =>
    rw [List.foldl_cons,ih,h,List.filter_cons]
    cases p a with
    | false => rfl
    | true => cases hlast : (as.filter p).getLast? <;> simp [hlast,List.getLast?_cons]

/-- A step of one component of a system changes what all of them hold by what that one gains and
loses. -/
theorem count_flatMap_set [BEq ρ] {ss : List σ} {i : ℕ} {s : σ} (f : σ → List ρ)
    (hi : ss[i]? = some s) (t : σ) (r : ρ) : ((ss.set i t).flatMap f).count r + (f s).count r =
      (ss.flatMap f).count r + (f t).count r := by
  induction ss generalizing i with
  | nil => cases hi
  | cons x ss ih =>
    cases i with
    | zero =>
      obtain rfl := Option.some.inj hi
      simp only [List.set_cons_zero,List.flatMap_cons,List.count_append]
      omega
    | succ i =>
      have hrest := ih hi
      simp only [List.set_cons_succ,List.flatMap_cons,List.count_append]
      omega

/-- Perform a list of calls that each return a result or get stuck. -/
def performAll (exec : α → σ → Option (ρ × σ)) : List α → σ → Option (List ρ × σ)
  | [], s => some ([],s)
  | a::as, s => (exec a s).bind fun r => (performAll exec as r.2).map fun rs => (r.1::rs.1,rs.2)

/-- Forward simulation of call machines: when every admissible call of the concrete
machine succeeds with the abstract result and keeps the relation, so does every list
of admissible calls. -/
theorem performAll_refines (exec : α → σ → Option (ρ × σ)) (spec : α → τ → ρ × τ)
    (R : σ → τ → Prop) (ok : α → Prop)
    (hcall : ∀ a s x, ok a → R s x →
      ∃ t, exec a s = some ((spec a x).1,t) ∧ R t (spec a x).2)
    (as : List α) (hok : ∀ a ∈ as, ok a) {s : σ} {x : τ} (hR : R s x) :
    ∃ rs t y, performAll exec as s = some (rs,t) ∧
      performAll (fun a x => some (spec a x)) as x = some (rs,y) ∧ R t y := by
  induction as generalizing s x with
  | nil => exact ⟨[],s,x,rfl,rfl,hR⟩
  | cons a as ih =>
    obtain ⟨t,ht,hRt⟩ := hcall a s x (hok a (by simp)) hR
    obtain ⟨rs,u,y,hu,hy,hRu⟩ := ih (fun b hb => hok b (by simp [hb])) hRt
    refine ⟨(spec a x).1::rs,u,y,?_,?_,hRu⟩
    · simp [performAll,ht,hu]
    · simp [performAll,hy]

/-- A partial machine fed one input a step; `none` is an error of the machine. -/
def drive (step : α → σ → Option σ) (input : ℕ → α) (s : σ) : ℕ → Option σ
  | 0 => some s
  | n+1 => (drive step input s n).bind (step (input n))

/-- Invariant rule for driven machines: under an invariant that rules errors out,
every number of steps gives a state, and the invariant holds there. -/
theorem drive_invariant {step : α → σ → Option σ} {I : σ → Prop}
    (hstep : ∀ a s, I s → ∃ t, step a s = some t ∧ I t) (input : ℕ → α) {s : σ} (hs : I s)
    (n : ℕ) : ∃ t, drive step input s n = some t ∧ I t := by
  induction n with
  | zero => exact ⟨s,rfl,hs⟩
  | succ n ih =>
    obtain ⟨t,ht,hI⟩ := ih
    obtain ⟨u,hu,hIu⟩ := hstep (input n) t hI
    exact ⟨u,by simp [drive,ht,hu],hIu⟩

/-- What every step on the inputs at hand keeps holds in the states that are reached. -/
theorem drive_preserves {step : α → σ → Option σ} {I : σ → Prop} {input : ℕ → α}
    (hstep : ∀ n s t, I s → step (input n) s = some t → I t) {s t : σ} (hs : I s) {n : ℕ}
    (h : drive step input s n = some t) : I t := by
  induction n generalizing t with
  | zero => exact Option.some.inj h ▸ hs
  | succ n ih =>
    obtain ⟨u,hu,hut⟩ := Option.bind_eq_some_iff.mp h
    exact hstep n u t (ih hu) hut

/-- Termination rule: a rank that falls with every step outside the final states
is an upper bound on the number of steps before a final state. -/
theorem drive_terminates {step : α → σ → Option σ} {I final : σ → Prop} (rank : σ → ℕ)
    (hstep : ∀ a s, I s → ∃ t, step a s = some t ∧ I t)
    (hrank : ∀ a s t, I s → ¬ final s → step a s = some t → rank t < rank s)
    (input : ℕ → α) {s : σ} (hs : I s) :
    ∃ n t, n ≤ rank s ∧ drive step input s n = some t ∧ final t := by
  by_contra hnone
  push Not at hnone
  -- Without a final state the rank has fallen at least n by step n, for n up to rank s + 1.
  have hfall (n : ℕ) (hn : n ≤ rank s + 1) :
      ∃ t, drive step input s n = some t ∧ I t ∧ rank t + n ≤ rank s := by
    induction n with
    | zero => exact ⟨s,rfl,hs,Nat.le_refl _⟩
    | succ n ih =>
      obtain ⟨t,ht,hI,hle⟩ := ih (by omega)
      obtain ⟨u,hu,hIu⟩ := hstep (input n) t hI
      have hlt := hrank (input n) t u hI (hnone n t (by omega) ht) hu
      exact ⟨u,by simp [drive,ht,hu],hIu,by omega⟩
  obtain ⟨t,_,_,hle⟩ := hfall (rank s + 1) (Nat.le_refl _)
  omega

end StepSystem
