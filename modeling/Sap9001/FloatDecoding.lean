import Sap9001.SensorTables
import Mathlib.Algebra.Ring.Nat

/-! The order of the bytes in the floats that `readSensorValue` decodes
(`sensor/sensor_driver.cpp`), against the names of the conversions. -/
namespace Sap9001
namespace SensorDriver

/-- The conversions that put a `float` together. -/
inductive FloatKind
  | float32
  | float32Swap
  | inputRegFloat32

namespace FloatKind

def conversion : FloatKind → ConversionType
  | .float32 => .float32
  | .float32Swap => .float32Swap
  | .inputRegFloat32 => .inputRegFloat32

/-- The `uint32_t` that `float2decimal` copies its bytes into. -/
def raw (byte0 byte1 byte2 byte3 : UInt8) : ℕ :=
  byte0.toNat + 2^8 * byte1.toNat + 2^16 * byte2.toNat + 2^24 * byte3.toNat

/-- The pattern that two registers are decoded to. -/
def decode (kind : FloatKind) (reg0 reg1 : UInt16) : ℕ :=
  match kind with
  | .float32 => raw (int16GetH reg1) (int16GetL reg1) (int16GetH reg0) (int16GetL reg0)
  | .float32Swap => raw (int16GetL reg1) (int16GetH reg1) (int16GetL reg0) (int16GetH reg0)
  | .inputRegFloat32 => raw (int16GetH reg0) (int16GetL reg0) (int16GetH reg1) (int16GetL reg1)

/-- The registers that are read for a sensor. -/
def registers (kind : FloatKind) (bus : Modbus) (config : SensorConfig) : Option (List UInt16) :=
  match kind with
  | .inputRegFloat32 =>
    bus.readInputRegisters config.slaveAddress config.registerAddress config.registerCount
  | _ => bus.readRegisters config.slaveAddress config.registerAddress config.registerCount

/-- The value of a sensor is the `float` with that pattern. -/
theorem readSensorValue_decode {kind : FloatKind} {config : SensorConfig} (bus : Modbus)
    (hkind : config.conversion = kind.conversion) :
    readSensorValue bus config = (kind.registers bus config).map fun r =>
      .ofBits32 (kind.decode (tabReg config.registerCount r 0) (tabReg config.registerCount r 1)) := by
  cases kind <;> simp only [readSensorValue,hkind,conversion,registers,float2decimal,decode,raw]

/-- Which register is the upper half of the pattern. -/
inductive WordOrder
  | reg0Upper
  | reg1Upper
  deriving DecidableEq

/-- Two registers as the halves of a pattern. -/
def halves (order : WordOrder) (reg0 reg1 : ℕ) : ℕ :=
  match order with
  | .reg0Upper => 2^16 * reg0 + reg1
  | .reg1Upper => 2^16 * reg1 + reg0

/-- A register with its bytes exchanged. -/
def exchange (reg : ℕ) : ℕ := 2^8 * (reg % 2^8) + reg / 2^8

/-- What the names of the conversions declare: only the swapped one exchanges the bytes of the
registers. -/
def declared (kind : FloatKind) (order : WordOrder) (reg0 reg1 : ℕ) : ℕ :=
  match kind with
  | .float32Swap => halves order (exchange reg0) (exchange reg1)
  | _ => halves order reg0 reg1

/-- The order of the registers in the code. -/
def wordOrder : FloatKind → WordOrder
  | .inputRegFloat32 => .reg1Upper
  | _ => .reg0Upper

theorem toNat_int16GetH (a : UInt16) : (int16GetH a).toNat = a.toNat / 2^8 := by
  have hlt := a.toNat_lt
  simp [int16GetH,Nat.shiftRight_eq_div_pow]
  omega

theorem toNat_int16GetL (a : UInt16) : (int16GetL a).toNat = a.toNat % 2^8 := by
  simp [int16GetL]

/-- What the code does: the other two exchange the bytes, and the swapped one does not. -/
theorem decode_eq (kind : FloatKind) (reg0 reg1 : UInt16) :
    kind.decode reg0 reg1 = match kind with
      | .float32Swap => halves kind.wordOrder reg0.toNat reg1.toNat
      | _ => halves kind.wordOrder (exchange reg0.toNat) (exchange reg1.toNat) := by
  cases kind with
  | float32 =>
    simp only [decode,raw,toNat_int16GetH,toNat_int16GetL,wordOrder,halves,exchange]
    omega
  | float32Swap =>
    simp only [decode,raw,toNat_int16GetH,toNat_int16GetL,wordOrder,halves]
    omega
  | inputRegFloat32 =>
    simp only [decode,raw,toNat_int16GetH,toNat_int16GetL,wordOrder,halves,exchange]
    omega

theorem exchange_lt {reg : ℕ} (h : reg < 65536) : exchange reg < 65536 := by
  rw [exchange]
  omega

theorem exchange_exchange {reg : ℕ} (h : reg < 65536) : exchange (exchange reg) = reg := by
  rw [exchange,exchange]
  omega

theorem halves_inj (order : WordOrder) {a b c d : ℕ} (ha : a < 65536) (hb : b < 65536)
    (hc : c < 65536) (hd : d < 65536) :
    halves order a b = halves order c d ↔ a = c ∧ b = d := by
  cases order with
  | reg0Upper =>
    simp only [halves]
    omega
  | reg1Upper =>
    simp only [halves]
    omega

/-- In the other order the halves change places. -/
theorem halves_other {order other : WordOrder} (h : order ≠ other) (a b : ℕ) :
    halves order a b = halves other b a := by
  cases order <;> cases other <;> first | rfl | exact absurd rfl h

/-- A conversion decodes as it is declared when the bytes of each register are equal, and, read
in the order that the code does not have, when one register is the other with its bytes exchanged. -/
theorem decode_eq_declared_iff (kind : FloatKind) (order : WordOrder) (reg0 reg1 : UInt16) :
    kind.decode reg0 reg1 = kind.declared order reg0.toNat reg1.toNat ↔
      if order = kind.wordOrder then
        exchange reg0.toNat = reg0.toNat ∧ exchange reg1.toNat = reg1.toNat
      else exchange reg0.toNat = reg1.toNat := by
  have h0 := reg0.toNat_lt
  have h1 := reg1.toNat_lt
  have h0' := exchange_lt h0
  have h1' := exchange_lt h1
  have hback0 := exchange_exchange h0
  have hback1 := exchange_exchange h1
  rw [decode_eq]
  by_cases horder : order = kind.wordOrder
  · rw [if_pos horder,horder]
    cases kind with
    | float32Swap =>
      refine (halves_inj _ h0 h1 h0' h1').trans ?_
      rw [eq_comm,and_congr_right_iff]
      exact fun _ => eq_comm
    | _ => exact halves_inj _ h0' h1' h0 h1
  · rw [if_neg horder]
    cases kind with
    | float32Swap =>
      simp only [declared,halves_other horder]
      refine (halves_inj _ h0 h1 h1' h0').trans ⟨fun h => h.2.symm,fun h => ⟨?_,h.symm⟩⟩
      rw [← h,hback0]
    | _ =>
      simp only [declared,halves_other horder]
      refine (halves_inj _ h0' h1' h1 h0).trans ⟨fun h => h.1,fun h => ⟨h,?_⟩⟩
      rw [← h,hback0]

/-- The values of the sensors are the `float`s with the decoded patterns, and for any choice of
register orders these are the declared ones just when each conversion meets its condition on the
two registers. -/
theorem declared_order_iff (order : FloatKind → WordOrder) :
    (∀ (kind : FloatKind) (bus : Modbus) (config : SensorConfig),
      config.conversion = kind.conversion →
      readSensorValue bus config = (kind.registers bus config).map fun r =>
        .ofBits32 (kind.decode (tabReg config.registerCount r 0) (tabReg config.registerCount r 1))) ∧
    ∀ reg0 reg1 : UInt16,
      (∀ kind : FloatKind, kind.decode reg0 reg1 =
        kind.declared (order kind) reg0.toNat reg1.toNat) ↔
      ∀ kind : FloatKind, if order kind = kind.wordOrder then
          exchange reg0.toNat = reg0.toNat ∧ exchange reg1.toNat = reg1.toNat
        else exchange reg0.toNat = reg1.toNat := by
  constructor
  · intro kind bus config hkind
    exact readSensorValue_decode bus hkind
  · intro reg0 reg1
    exact forall_congr' fun kind => decode_eq_declared_iff kind (order kind) reg0 reg1

/-- The registers 3F80 and 0000 hold 1.0 as declared, and are decoded to 803F0000. -/
theorem one_misread : ¬ ∃ order : FloatKind → WordOrder, ∀ (reg0 reg1 : UInt16) (kind : FloatKind),
    kind.decode reg0 reg1 = kind.declared (order kind) reg0.toNat reg1.toNat := by
  rintro ⟨order,hall⟩
  have h := hall 16256 0 .float32
  cases horder : order .float32 with
  | reg0Upper =>
    rw [horder] at h
    exact absurd h (by decide)
  | reg1Upper =>
    rw [horder] at h
    exact absurd h (by decide)

end FloatKind
end SensorDriver
end Sap9001
