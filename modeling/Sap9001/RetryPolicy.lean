import Mathlib.Algebra.Order.Ring.Int
import Mathlib.Algebra.Ring.Int.Defs
import Mathlib.Algebra.Ring.Nat
import Mathlib.Data.List.Induction
import Mathlib.Data.List.TakeWhile
import Mathlib.Tactic.Common

/-! The delays of `ExponentialBackoff` (`infra/retry_policy.h`) against the formula in its
documentation. -/
namespace Sap9001

structure ExponentialBackoff where
  baseMs : Int
  maxMs : Int
  retryCount : ℕ

namespace ExponentialBackoff

def new (base max : Int) : ExponentialBackoff := ⟨base,max,0⟩

/-- A product of type `int64_t`. -/
def toInt64 (x : Int) : Int := x.bmod 18446744073709551616

/-- The cast to `int`. -/
def toInt (x : Int) : Int := x.bmod 4294967296

def nextDelay (b : ExponentialBackoff) : Int × ExponentialBackoff :=
  let shift := min b.retryCount 20
  let product := toInt64 (b.baseMs * 2^shift)
  let delay := min product b.maxMs
  (toInt delay,{ b with retryCount := b.retryCount + 1 })

def reset (b : ExponentialBackoff) : ExponentialBackoff := { b with retryCount := 0 }

inductive Call
  | nextDelay
  | reset
  deriving DecidableEq

def next (b : ExponentialBackoff) : Call → ExponentialBackoff
  | .nextDelay => b.nextDelay.2
  | .reset => b.reset

def after (base max : Int) (calls : List Call) : ExponentialBackoff := calls.foldl next (new base max)

/-- The delay that the next call returns. -/
def delayAfter (base max : Int) (calls : List Call) : Int := (after base max calls).nextDelay.1

/-- The calls of `nextDelay` since the construction or the last reset. -/
def since (calls : List Call) : ℕ := (calls.reverse.takeWhile (· = .nextDelay)).length

@[simp] theorem since_nextDelay (calls : List Call) :
    since (calls ++ [.nextDelay]) = since calls + 1 := by
  simp [since]

@[simp] theorem since_reset (calls : List Call) : since (calls ++ [.reset]) = 0 := by
  simp [since]

theorem since_replicate (n : ℕ) : since (List.replicate n .nextDelay) = n := by
  simp [since]

/-- The calls change nothing but the counter, which counts as it should. -/
theorem after_eq (base max : Int) (calls : List Call) :
    after base max calls = ⟨base,max,since calls⟩ := by
  induction calls using List.reverseRecOn with
  | nil => rfl
  | append_singleton calls c ih =>
    rw [after,List.foldl_append,List.foldl_cons,List.foldl_nil,← after,ih]
    cases c with
    | nextDelay => rw [since_nextDelay]; rfl
    | reset => rw [since_reset]; rfl

section Bounds

variable {base max : Int} (hbase : 0 ≤ base) (hint : base < 2147483648) (hmax : 0 ≤ max)
  (hmaxint : max < 2147483648)
include hbase hint

/-- With the exponent capped at 20 the product is far from the end of 64 bits. -/
theorem product_fits {k : ℕ} (hk : k ≤ 20) :
    0 ≤ base * 2^k ∧ toInt64 (base * 2^k) = base * 2^k := by
  have hpow : (0 : Int) < 2^k := Int.pow_pos (by decide)
  have hcap : (2 : Int)^k ≤ 1048576 := by
    have h : (2 : Int)^k ≤ 2^20 := pow_le_pow_right₀ (by decide) hk
    omega
  have hlo : 0 ≤ base * 2^k := Int.mul_nonneg hbase hpow.le
  have hhi : base * 2^k ≤ 2147483648 * 1048576 :=
    Int.mul_le_mul hint.le hcap hpow.le (by decide)
  refine ⟨hlo,?_⟩
  apply Int.bmod_eq_of_le_mul_two
  · omega
  · omega

include hmax hmaxint

/-- The delay is the documented one with the exponent capped. -/
theorem delayAfter_eq (calls : List Call) :
    delayAfter base max calls = min (base * 2^(min (since calls) 20)) max := by
  obtain ⟨hlo,hproduct⟩ := product_fits hbase hint (Nat.min_le_right (since calls) 20)
  rw [delayAfter,after_eq]
  simp only [nextDelay,hproduct]
  apply Int.bmod_eq_of_le_mul_two
  · omega
  · omega

end Bounds

section Formula

variable {base max : Int} (hbase : 0 ≤ base)
include hbase

theorem product_le {j k : ℕ} (h : j ≤ k) : base * 2^j ≤ base * 2^k :=
  Int.mul_le_mul_of_nonneg_left (pow_le_pow_right₀ (by decide) h) hbase

/-- When the cap on the exponent does not show. -/
theorem cap_iff (n : ℕ) : min (base * 2^(min n 20)) max = min (base * 2^n) max ↔
    n ≤ 20 ∨ base = 0 ∨ max ≤ base * 2^20 := by
  by_cases hn : n ≤ 20
  · rw [Nat.min_eq_left hn]
    exact iff_of_true rfl (.inl hn)
  · rw [Nat.min_eq_right (by omega)]
    have hdouble : base * 2^21 ≤ base * 2^n := product_le hbase (by omega)
    by_cases hzero : base = 0
    · subst hzero
      simp
    · -- The uncapped product is at least twice the capped one, which is positive.
      constructor
      · intro heq
        omega
      · rintro (h | h | h) <;> omega

end Formula

/-- What the documentation says of the delays with these bounds. -/
structure Documented (base max : Int) : Prop where
  formula : ∀ calls, since calls < 2147483647 →
    delayAfter base max calls = min (base * 2^since calls) max
  nondecreasing : ∀ calls, since calls + 1 < 2147483647 →
    delayAfter base max calls ≤ delayAfter base max (calls ++ [.nextDelay])
  reached : 0 < base → ∃ n < 2147483647, ∀ calls, n ≤ since calls → since calls < 2147483647 →
    delayAfter base max calls = max

section Bounds

variable {base max : Int} (hbase : 0 ≤ base) (hint : base < 2147483648) (hmax : 0 ≤ max)
  (hmaxint : max < 2147483648)
include hbase hint hmax hmaxint

theorem delay_formula_iff (calls : List Call) :
    delayAfter base max calls = min (base * 2^since calls) max ↔
      since calls ≤ 20 ∨ base = 0 ∨ max ≤ base * 2^20 := by
  rw [delayAfter_eq hbase hint hmax hmaxint]
  exact cap_iff hbase (since calls)

/-- The delays never fall between resets, capped or not. -/
theorem delay_nondecreasing (calls : List Call) :
    delayAfter base max calls ≤ delayAfter base max (calls ++ [.nextDelay]) := by
  have hle : base * 2^(min (since calls) 20) ≤ base * 2^(min (since calls + 1) 20) :=
    product_le hbase (by omega)
  rw [delayAfter_eq hbase hint hmax hmaxint,delayAfter_eq hbase hint hmax hmaxint,since_nextDelay]
  omega

theorem documented_of_cap (hcap : base = 0 ∨ max ≤ base * 2^20) : Documented base max where
  formula := fun calls _ =>
    (delay_formula_iff hbase hint hmax hmaxint calls).mpr (.inr hcap)
  nondecreasing := fun calls _ => delay_nondecreasing hbase hint hmax hmaxint calls
  reached := by
    intro hpos
    refine ⟨20,by decide,fun calls hn _ => ?_⟩
    have hle : max ≤ base * 2^20 := hcap.resolve_left hpos.ne'
    rw [delayAfter_eq hbase hint hmax hmaxint,Nat.min_eq_right hn]
    exact min_eq_right hle

/-- The delays are the documented ones for just those bounds whose maximum is reached by the
twentieth doubling, and for a base of 0; with other bounds they are up to that doubling. -/
theorem backoff_documented_iff :
    (Documented base max ↔ base = 0 ∨ max ≤ base * 2^20) ∧
    ∀ calls, since calls < 2147483647 →
      (delayAfter base max calls = min (base * 2^since calls) max ↔
        since calls ≤ 20 ∨ base = 0 ∨ max ≤ base * 2^20) := by
  refine ⟨⟨fun h => ?_,documented_of_cap hbase hint hmax hmaxint⟩,
    fun calls _ => delay_formula_iff hbase hint hmax hmaxint calls⟩
  have hcalls : since (List.replicate 21 .nextDelay) = 21 := since_replicate 21
  have hformula := h.formula (List.replicate 21 .nextDelay) (by omega)
  have hcap := (delay_formula_iff hbase hint hmax hmaxint _).mp hformula
  exact hcap.resolve_left (by omega)

end Bounds

theorem long_backoff_undocumented : ¬ Documented 1 2000000 := by
  have hiff : Documented 1 2000000 ↔ (1 : Int) = 0 ∨ 2000000 ≤ (1 : Int) * 2^20 :=
    (backoff_documented_iff (by decide) (by decide) (by decide) (by decide)).1
  rw [hiff]
  decide

/-- From one millisecond up to two thousand seconds, the delay stays at 2^20 milliseconds. -/
theorem long_backoff_stalls : ¬ ∀ base max : Int, 0 ≤ base → base < 2147483648 → 0 ≤ max →
    max < 2147483648 → Documented base max := by
  intro hall
  have h := hall 1 2000000 (by decide) (by decide) (by decide) (by decide)
  have hformula := h.formula (List.replicate 21 .nextDelay) (by decide)
  exact absurd hformula (by decide)

/-- The two backoffs of the program follow the formula. -/
theorem program_backoffs : Documented 1000 30000 ∧ Documented 5000 60000 := by
  constructor
  · exact documented_of_cap (by decide) (by decide) (by decide) (by decide) (.inr (by decide))
  · exact documented_of_cap (by decide) (by decide) (by decide) (by decide) (.inr (by decide))

end ExponentialBackoff
end Sap9001
