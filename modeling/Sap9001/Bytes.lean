import Sap9001.Library.Numerals
import Mathlib.Data.List.TakeWhile
import Mathlib.Tactic.Common

/-! `std::string` as a list of bytes, with the C library functions on it that the protocol
code uses. -/
namespace Sap9001

abbrev Str := List UInt8

/-- A string literal of the source. -/
def str (s : String) : Str := s.toList.map (fun c => c.toNat.toUInt8)

def byte (c : Char) : UInt8 := c.toNat.toUInt8

/-- `std::string::substr`; the callers have checked that `pos` is in range. -/
def substr (s : Str) (pos len : ℕ) : Str := (s.drop pos).take len

/-- What `%s` prints of a string passed by `c_str()`: the bytes before the first NUL. -/
def cstr (s : Str) : Str := s.takeWhile (· ≠ 0)

theorem cstr_of_no_nul {s : Str} (h : (0 : UInt8) ∉ s) : cstr s = s := by
  apply List.takeWhile_eq_self_iff.mpr
  intro c hc
  have hne : c ≠ 0 := by
    rintro rfl
    exact h hc
  simpa using hne

theorem cstr_no_nul (s : Str) : (0 : UInt8) ∉ cstr s := by
  intro h
  simpa using List.mem_takeWhile_imp h

theorem length_cstr_le (s : Str) : (cstr s).length ≤ s.length :=
  (List.takeWhile_sublist _).length_le

theorem cstr_append_of_mem {s : Str} (h : (0 : UInt8) ∈ s) (t : Str) : cstr (s ++ t) = cstr s := by
  induction s with
  | nil => simp at h
  | cons c s ih =>
    by_cases hc : c = 0
    · simp [cstr,hc]
    · have hs := ih (by simpa [Ne.symm hc] using h)
      simpa [cstr,hc] using hs

section Fields

variable {p s : Str} {pos len : ℕ} (hp : p.length = pos) (hs : s.length = len)
include hp hs

/-- A field is read where what stands before it ends. -/
theorem substr_field (q : Str) : substr (p ++ (s ++ q)) pos len = s := by
  subst hp hs
  simp [substr]

theorem drop_field (q : Str) : (p ++ (s ++ q)).drop (pos + len) = q := by
  rw [← List.append_assoc,← hp,← hs,← List.length_append,List.drop_left]

end Fields

/-- The bytes that `snprintf` leaves in a buffer of `size` bytes, before the final NUL,
when its format is a sequence of literal text and `%s` arguments. -/
def snprintf (size : ℕ) (args : List Str) : Str := (args.flatMap cstr).take (size - 1)

theorem cstr_snprintf (size : ℕ) (args : List Str) : cstr (snprintf size args) = snprintf size args := by
  refine cstr_of_no_nul fun h => ?_
  obtain ⟨a,-,ha⟩ := List.mem_flatMap.mp (List.mem_of_mem_take h)
  exact cstr_no_nul a ha

theorem length_snprintf_le (size : ℕ) (args : List Str) : (snprintf size args).length ≤ size - 1 := by
  rw [snprintf,List.length_take]
  exact Nat.min_le_left _ _

theorem map_cstr {args : List Str} (hnul : ∀ a ∈ args, (0 : UInt8) ∉ a) : args.map cstr = args := by
  rw [List.map_congr_left (fun a ha => cstr_of_no_nul (hnul a ha)),List.map_id']

theorem flatMap_cstr {args : List Str} (hnul : ∀ a ∈ args, (0 : UInt8) ∉ a) :
    args.flatMap cstr = args.flatten := by
  rw [List.flatMap_def,map_cstr hnul]

/-- The digits `0`..`9`, `A`..`F`. -/
def hexDigit (d : ℕ) : UInt8 := if d < 10 then 48 + d.toUInt8 else 55 + d.toUInt8

def hexValue (c : UInt8) : ℕ := if c.toNat < 65 then c.toNat - 48 else c.toNat - 55

/-- The number that a string of hexadecimal digits stands for. -/
def readHex (s : Str) : ℕ := Numerals.read 16 hexValue s

theorem hexValue_hexDigit : ∀ d < 16, hexValue (hexDigit d) = d := by decide

theorem hexDigit_ne_zero : ∀ d < 16, hexDigit d ≠ 0 := by decide

theorem numeral_no_nul {b : ℕ} (hb : 1 < b) (hb16 : b ≤ 16) (n : ℕ) :
    (0 : UInt8) ∉ Numerals.numeral b hexDigit n :=
  Numerals.not_mem_numeral b hexDigit hb (fun d hd => hexDigit_ne_zero d (by omega)) n

/-- `std::to_string`. -/
def toDecimal (n : Int) : Str :=
  if n < 0 then str "-" ++ Numerals.numeral 10 hexDigit n.natAbs
  else Numerals.numeral 10 hexDigit n.natAbs

/-- The conversion of a size to a 32-bit `int`. -/
def toInt32 (n : ℕ) : Int :=
  if n % 4294967296 < 2147483648 then (n % 4294967296 : ℕ)
  else ((n % 4294967296 : ℕ) : Int) - 4294967296

theorem toInt32_of_lt {n : ℕ} (h : n < 2147483648) : toInt32 n = n := by
  have hmod : n % 4294967296 = n := Nat.mod_eq_of_lt (by omega)
  rw [toInt32,hmod,if_pos h]

theorem le_toInt32 (n : ℕ) : -2147483648 ≤ toInt32 n := by
  unfold toInt32
  split_ifs <;> omega

def isSpace (c : UInt8) : Bool := c = 32 || (9 ≤ c && c ≤ 13)

def isDigit (c : UInt8) : Bool := 48 ≤ c && c ≤ 57

/-- `atoi`: white space, an optional sign, then digits up to the first other byte. -/
def atoi (s : Str) : Int :=
  let t := s.dropWhile isSpace
  let digits (u : Str) : Int :=
    (u.takeWhile isDigit).foldl (fun n c => 10*n + (c.toNat - 48 : ℕ)) 0
  match t with
  | [] => 0
  | c::u => if c = byte '-' then -digits u else if c = byte '+' then digits u else digits (c::u)

/-- `std::stoi`; without a digit, or with a number that is no `int`, it throws. -/
def stoi (s : Str) : Option Int :=
  let t := s.dropWhile isSpace
  let u := if t.head? = some (byte '-') ∨ t.head? = some (byte '+') then t.drop 1 else t
  if u.takeWhile isDigit = [] then none
  else if -2147483648 ≤ atoi s ∧ atoi s ≤ 2147483647 then some (atoi s)
  else none

end Sap9001
