import Sap9001.DeviceContext
import Mathlib.Tactic.IntervalCases

/-! The hexadecimal conversion and the handling of the 20 time frame
(`protocol/protocol_process.cpp`). `mktime` depends on the time zone of the device and is a
parameter. -/
namespace Sap9001

def switch10_16 (num : Int) : Str :=
  match num with
  | 0 => str "0"
  | 1 => str "1"
  | 2 => str "2"
  | 3 => str "3"
  | 4 => str "4"
  | 5 => str "5"
  | 6 => str "6"
  | 7 => str "7"
  | 8 => str "8"
  | 9 => str "9"
  | 10 => str "A"
  | 11 => str "B"
  | 12 => str "C"
  | 13 => str "D"
  | 14 => str "E"
  | 15 => str "F"
  | _ => str "0"

/-- Appends the hexadecimal digits of `num`, a `long long`, to `s`; `switch10_16` takes an `int`. -/
def change (num : Int) (s : Str) : Str :=
  if num < 16 then s ++ switch10_16 (num.bmod 4294967296)
  else change (num / 16) s ++ switch10_16 (num % 16)
termination_by num.toNat
decreasing_by omega

theorem switch10_16_eq {d : ℕ} (h : d < 16) : switch10_16 d = [hexDigit d] := by
  interval_cases d <;> rfl

/-- `change` writes the numeral of a number that is not negative. -/
theorem change_eq (n : ℕ) (s : Str) : change n s = s ++ Numerals.numeral 16 hexDigit n := by
  induction n using Nat.strong_induction_on with
  | _ n ih =>
    rw [change]
    by_cases h : n < 16
    · have hint : (n : Int).bmod 4294967296 = n := Int.bmod_eq_of_le_mul_two (by omega) (by omega)
      rw [if_pos (by omega),hint,switch10_16_eq h,Numerals.numeral_of_lt 16 hexDigit h]
    · have hdiv : (n : Int) / 16 = ((n / 16 : ℕ) : Int) := by omega
      have hmod : (n : Int) % 16 = ((n % 16 : ℕ) : Int) := by omega
      have hstep : Numerals.numeral 16 hexDigit n =
          Numerals.numeral 16 hexDigit (n / 16) ++ [hexDigit (n % 16)] :=
        Numerals.numeral_step 16 hexDigit (by omega) (by omega)
      rw [if_neg (by omega),hdiv,hmod,ih (n / 16) (by omega),switch10_16_eq (by omega),hstep,
        List.append_assoc]

/-- A negative `int` counts as 0. -/
theorem change_of_neg {n : Int} (hint : -2147483648 ≤ n) (h : n < 0) (s : Str) :
    change n s = s ++ str "0" := by
  have hself : n.bmod 4294967296 = n := Int.bmod_eq_of_le_mul_two (by omega) (by omega)
  have hdigit : switch10_16 n = str "0" := by
    unfold switch10_16
    split <;> first | rfl | omega
  rw [change,if_pos (by omega),hself,hdigit]

/-- The fields of `struct tm` that the time frame sets. -/
structure Tm where
  year : Int
  mon : Int
  mday : Int
  hour : Int
  min : Int
  sec : Int
  deriving DecidableEq

structure TimeVal where
  sec : Int
  usec : Int
  deriving DecidableEq

/-- The broken-down time of a 17-character time stamp. -/
def tmSet (currentTime : Str) : Tm where
  year := atoi (substr currentTime 0 4) - 1900
  mon := atoi (substr currentTime 4 2) - 1
  mday := atoi (substr currentTime 6 2)
  hour := atoi (substr currentTime 8 2)
  min := atoi (substr currentTime 10 2)
  sec := atoi (substr currentTime 12 2)

/-- The clock setting that a time stamp asks for; `none` when `mktime` fails. -/
def tvSet (mktime : Tm → Option Int) (currentTime : Str) : Option TimeVal :=
  (mktime (tmSet currentTime)).map fun s => ⟨s,atoi (substr currentTime 14 3) * 1000⟩

/-- The time stamp of a 20 packet that is long enough and carries this device's MAC. -/
def packet20Time (mac strPacket : Str) : Option Str :=
  if strPacket.length < 49 then none
  else if substr strPacket 16 16 = mac then some (substr strPacket 32 17)
  else none

/-- The identity afterwards and the argument of `settimeofday`, if it is called. -/
def packet20 (mktime : Tm → Option Int) (identity : DeviceIdentity) (strPacket : Str) :
    DeviceIdentity × Option TimeVal :=
  match packet20Time identity.mac strPacket with
  | none => (identity,none)
  | some currentTime =>
    ({ identity with currentTime := currentTime },tvSet mktime currentTime)

end Sap9001
