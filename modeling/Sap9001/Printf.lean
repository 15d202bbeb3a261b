import Sap9001.Bytes
import Sap9001.Library.BinaryFloat

/-! The formats of `printf` with `%s` and fixed-point conversions such as `%010.3lf`. -/
namespace Sap9001

inductive Directive
  | literal (c : UInt8)
  | string
  | fixed (width precision : ℕ)
  deriving DecidableEq

namespace Directive

/-- What has been read of a directive. -/
inductive Mode
  | text
  | percent
  | width (w : ℕ)
  | precision (w p : ℕ)
  | long (w p : ℕ)

/-- The directives of a format; `none` for other conversions. -/
def parse : Mode → Str → Option (List Directive)
  | .text, [] => some []
  | .text, c::s => if c = byte '%' then parse .percent s else (parse .text s).map (literal c::·)
  | .percent, c::s =>
    if c = byte 's' then (parse .text s).map (string::·)
    else if c = byte '0' then parse (.width 0) s
    else none
  | .width w, c::s =>
    if isDigit c then parse (.width (10*w + hexValue c)) s
    else if c = byte '.' then parse (.precision w 0) s
    else none
  | .precision w p, c::s =>
    if isDigit c then parse (.precision w (10*p + hexValue c)) s
    else if c = byte 'l' then parse (.long w p) s
    else none
  | .long w p, c::s => if c = byte 'f' then (parse .text s).map (fixed w p::·) else none
  | _, [] => none

end Directive

def signOf (neg : Bool) : Str := if neg then str "-" else []

/-- `%0<width>.<precision>lf`: zeros follow the sign, but infinities and NaN are filled with
blanks. -/
def printFixed (width precision : ℕ) : BinaryFloat → Str
  | .finite neg x =>
    let n := x.fixed precision
    let whole := Numerals.numeral 10 hexDigit (n / 10^precision)
    let fraction := if precision = 0 then []
      else byte '.'::Numerals.padded 10 hexDigit precision (n % 10^precision)
    signOf neg ++ (List.replicate (width - (signOf neg ++ whole ++ fraction).length) (byte '0') ++
      (whole ++ fraction))
  | .inf neg => List.replicate (width - (signOf neg ++ str "inf").length) (byte ' ') ++
      (signOf neg ++ str "inf")
  | .nan neg => List.replicate (width - (signOf neg ++ str "nan").length) (byte ' ') ++
      (signOf neg ++ str "nan")

/-- What a directive prints when the arguments are a string and a number. -/
def Directive.print (s : Str) (v : BinaryFloat) : Directive → Str
  | .literal c => [c]
  | .string => s
  | .fixed width precision => printFixed width precision v

theorem length_signOf (neg : Bool) : (signOf neg).length ≤ 1 := by
  cases neg <;> decide

theorem signOf_no_nul (neg : Bool) : (0 : UInt8) ∉ signOf neg := by
  cases neg <;> decide

/-- A number below `2^128` has at most 39 digits before the point. -/
theorem length_whole {x : Magnitude} (h : x.Below 128) (precision : ℕ) :
    (Numerals.numeral 10 hexDigit (x.fixed precision / 10^precision)).length ≤ 39 := by
  have hle := Magnitude.fixed_le precision h
  have hwhole : x.fixed precision / 10^precision ≤ 2^128 :=
    Nat.div_le_of_le_mul (by rwa [Nat.mul_comm])
  have hpow : 2^128 < 10^39 := by decide
  exact Numerals.length_numeral_le 10 hexDigit (by decide) (by decide) (by omega)

/-- The longest value: a sign, 39 digits, the point and the decimals. -/
theorem length_printFixed {width precision : ℕ} (hwidth : width ≤ 41 + precision)
    {v : BinaryFloat} (h : v.Below 128) : (printFixed width precision v).length ≤ 41 + precision := by
  cases v with
  | finite neg x =>
    have hsign := length_signOf neg
    have hwhole := length_whole h precision
    have hfraction : (if precision = 0 then ([] : Str)
        else byte '.'::Numerals.padded 10 hexDigit precision
          (x.fixed precision % 10^precision)).length ≤ 1 + precision := by
      split_ifs with hzero
      · exact Nat.zero_le _
      · have hlen := Numerals.length_padded 10 hexDigit (by decide) (Nat.pos_of_ne_zero hzero)
          (Nat.mod_lt (x.fixed precision) (Nat.pow_pos (by decide)))
        rw [List.length_cons,hlen]
        omega
    simp only [printFixed,List.length_append,List.length_replicate]
    omega
  | inf neg =>
    have hsign := length_signOf neg
    have hlen : (str "inf").length = 3 := rfl
    simp only [printFixed,List.length_append,List.length_replicate,hlen]
    omega
  | nan neg =>
    have hsign := length_signOf neg
    have hlen : (str "nan").length = 3 := rfl
    simp only [printFixed,List.length_append,List.length_replicate,hlen]
    omega

theorem printFixed_no_nul (width precision : ℕ) (v : BinaryFloat) :
    (0 : UInt8) ∉ printFixed width precision v := by
  have hzero : (0 : UInt8) ≠ byte '0' := by decide
  have hblank : (0 : UInt8) ≠ byte ' ' := by decide
  have hpoint : (0 : UInt8) ≠ byte '.' := by decide
  cases v with
  | finite neg x =>
    have hfraction : (0 : UInt8) ∉ (if precision = 0 then ([] : Str)
        else byte '.'::Numerals.padded 10 hexDigit precision (x.fixed precision % 10^precision)) := by
      have hpadded := Numerals.not_mem_padded 10 hexDigit (by decide)
        (fun d hd => hexDigit_ne_zero d (by omega)) precision (x.fixed precision % 10^precision)
      split_ifs
      · exact List.not_mem_nil
      · simp [hpoint,hpadded]
    have hwhole := numeral_no_nul (b := 10) (by decide) (by decide)
      (x.fixed precision / 10^precision)
    simp [printFixed,signOf_no_nul,hzero,hwhole,hfraction]
  | inf neg =>
    have hinf : (0 : UInt8) ∉ str "inf" := by decide
    simp [printFixed,signOf_no_nul,hblank,hinf]
  | nan neg =>
    have hnan : (0 : UInt8) ∉ str "nan" := by decide
    simp [printFixed,signOf_no_nul,hblank,hnan]

example : printFixed 10 3 (.ofBits32 0xC0E9999A) = str "-00007.300" := by decide +kernel

end Sap9001
