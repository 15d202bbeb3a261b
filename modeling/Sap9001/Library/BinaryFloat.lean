import Mathlib.Algebra.Ring.Nat
import Mathlib.Data.Int.Notation
import Mathlib.Data.Nat.Size
import Mathlib.Tactic.Common

/-! Binary floating-point values as a significand times a power of two: decoding of the 32-bit
format, products rounded to a precision, and fixed-point decimals, with ties to even. -/

/-- The integer next to `a / b`, the even one of two. -/
def roundHalfEven (a b : ℕ) : ℕ :=
  let q := a / b
  let r := a % b
  if 2*r < b ∨ (2*r = b ∧ q % 2 = 0) then q else q+1

/-- What is below an integer is not rounded past it. -/
theorem roundHalfEven_le {a b c : ℕ} (h : a < c*b) : roundHalfEven a b ≤ c := by
  have hq : a / b < c := Nat.div_lt_of_lt_mul (by rwa [Nat.mul_comm])
  simp only [roundHalfEven]
  split_ifs <;> omega

/-- The number `significand * 2^exponent`. -/
structure Magnitude where
  significand : ℕ
  exponent : ℤ
  deriving DecidableEq

namespace Magnitude

variable (x : Magnitude)

/-- The number as a fraction. -/
def num : ℕ := x.significand * 2^x.exponent.toNat

def den : ℕ := 2^(-x.exponent).toNat

theorem den_pos : 0 < x.den := Nat.two_pow_pos _

/-- The number is below `2^k`. -/
def Below (k : ℕ) : Prop := x.num < 2^k * x.den

variable {x}

theorem Below.mono {j k : ℕ} (h : x.Below j) (hjk : j ≤ k) : x.Below k := by
  have hpow : 2^j * x.den ≤ 2^k * x.den :=
    Nat.mul_le_mul_right _ (Nat.pow_le_pow_right (by decide) hjk)
  exact Nat.lt_of_lt_of_le h hpow

/-- With a negative exponent the significand decides. -/
theorem below_of_exponent_nonpos {k : ℕ} (he : x.exponent ≤ 0) (h : x.significand < 2^k) :
    x.Below k := by
  have hzero : x.exponent.toNat = 0 := by omega
  rw [Below,num,hzero,Nat.pow_zero,Nat.mul_one]
  calc x.significand < 2^k := h
    _ ≤ 2^k * x.den := Nat.le_mul_of_pos_right _ x.den_pos

theorem below_of_exponent_le {j k : ℕ} (he : x.exponent ≤ j) (h : x.significand < 2^k) :
    x.Below (k+j) := by
  have hj : x.exponent.toNat ≤ j := by omega
  calc x.num < 2^k * 2^x.exponent.toNat := Nat.mul_lt_mul_of_pos_right h (Nat.two_pow_pos _)
    _ ≤ 2^k * 2^j := Nat.mul_le_mul_left _ (Nat.pow_le_pow_right (by decide) hj)
    _ = 2^(k+j) := (Nat.pow_add 2 k j).symm
    _ ≤ 2^(k+j) * x.den := Nat.le_mul_of_pos_right _ x.den_pos

/-- A natural number with its first `p` binary digits. -/
def round (p n : ℕ) : Magnitude where
  significand := roundHalfEven n (2^(n.size - p))
  exponent := (n.size - p : ℕ)

theorem round_significand_le {j p n : ℕ} (h : n < 2^j) :
    (round p n).significand * 2^(n.size - p) ≤ 2^j := by
  have hsize : n.size ≤ j := Nat.size_le.mpr h
  have hsplit : 2^j = 2^(j - (n.size - p)) * 2^(n.size - p) := by
    rw [← Nat.pow_add]
    congr 1
    omega
  have hle : (round p n).significand ≤ 2^(j - (n.size - p)) := roundHalfEven_le (by omega)
  rw [hsplit]
  exact Nat.mul_le_mul_right _ hle

/-- The product with a natural number to `p` binary digits. -/
def scale (p n : ℕ) (x : Magnitude) : Magnitude where
  significand := (round p (n*x.significand)).significand
  exponent := (round p (n*x.significand)).exponent + x.exponent

theorem scale_below {p n i j : ℕ} (hn : n < 2^i) (hx : x.significand < 2^j)
    (he : x.exponent ≤ 0) : (scale p n x).Below (i+j+1) := by
  have hprod : n*x.significand < 2^(i+j) := by
    rw [Nat.pow_add]
    exact Nat.mul_lt_mul'' hn hx
  set k := (n*x.significand).size - p with hk
  have hexp : (scale p n x).exponent.toNat ≤ k := by
    show ((k : ℤ) + x.exponent).toNat ≤ k
    omega
  calc (scale p n x).num ≤ (round p (n*x.significand)).significand * 2^k :=
        Nat.mul_le_mul_left _ (Nat.pow_le_pow_right (by decide) hexp)
    _ ≤ 2^(i+j) := round_significand_le hprod
    _ < 2^(i+j+1) := Nat.pow_lt_pow_right (by decide) (by omega)
    _ ≤ 2^(i+j+1) * (scale p n x).den := Nat.le_mul_of_pos_right _ (scale p n x).den_pos

/-- The number in units of `10^(-precision)`. -/
def fixed (precision : ℕ) (x : Magnitude) : ℕ := roundHalfEven (x.num * 10^precision) x.den

theorem fixed_le {k : ℕ} (precision : ℕ) (h : x.Below k) :
    x.fixed precision ≤ 2^k * 10^precision := by
  apply roundHalfEven_le
  calc x.num * 10^precision < 2^k * x.den * 10^precision :=
        Nat.mul_lt_mul_of_pos_right h (Nat.pow_pos (by decide))
    _ = 2^k * 10^precision * x.den := Nat.mul_right_comm _ _ _

end Magnitude

inductive BinaryFloat
  | finite (neg : Bool) (x : Magnitude)
  | inf (neg : Bool)
  | nan (neg : Bool)
  deriving DecidableEq

namespace BinaryFloat

/-- The value of a 32-bit word: a sign, 8 bits of exponent and 23 bits of fraction. -/
def ofBits32 (raw : ℕ) : BinaryFloat :=
  let neg := decide (raw / 2^31 % 2 = 1)
  let exponent : ℕ := raw / 2^23 % 2^8
  let fraction : ℕ := raw % 2^23
  if exponent = 255 then if fraction = 0 then .inf neg else .nan neg
  else if exponent = 0 then .finite neg ⟨fraction,-149⟩
  else .finite neg ⟨2^23 + fraction,(exponent : ℤ) - 150⟩

/-- The finite values are below `2^k`. -/
def Below (k : ℕ) : BinaryFloat → Prop
  | .finite _ x => x.Below k
  | .inf _ | .nan _ => True

theorem ofBits32_below (raw : ℕ) : (ofBits32 raw).Below 128 := by
  have hfraction : raw % 2^23 < 2^23 := Nat.mod_lt _ (by decide)
  have hexponent : raw / 2^23 % 2^8 < 2^8 := Nat.mod_lt _ (by decide)
  simp only [ofBits32]
  split_ifs
  · trivial
  · trivial
  · have hnonpos : (-149 : ℤ) ≤ 0 := by decide
    have hsmall := Magnitude.below_of_exponent_nonpos (x := ⟨raw % 2^23,-149⟩) hnonpos hfraction
    exact hsmall.mono (by decide)
  · refine Magnitude.below_of_exponent_le (j := 104) (k := 24) ?_ ?_
    · show ((raw / 2^23 % 2^8 : ℕ) : ℤ) - 150 ≤ (104 : ℕ)
      omega
    · show 2^23 + raw % 2^23 < 2^24
      omega

end BinaryFloat
