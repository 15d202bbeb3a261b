import Sap9001.Printf

/-! The sensor tables and the conversion of register contents (`sensor/sensor_driver.cpp`). The
answers of the slaves come from libmodbus and are a parameter; names and pauses, which only reach
the log and `sleep`, are left out. -/
namespace Sap9001
namespace SensorDriver

inductive ConversionType
  | float32
  | float32Swap
  | uint16Scale
  | uint16Raw
  | inputRegFloat32
  deriving DecidableEq

structure SensorConfig where
  slaveAddress : ℕ
  registerAddress : ℕ
  registerCount : ℕ
  conversion : ConversionType
  scaleFactor : Magnitude
  hj212Code : Str
  rtdFormat : Str
  deriving DecidableEq

/-- What the bus answers to the function codes 03 and 04 for a slave, an address and a count;
`none` is the result -1. -/
structure Modbus where
  readRegisters : ℕ → ℕ → ℕ → Option (List UInt16)
  readInputRegisters : ℕ → ℕ → ℕ → Option (List UInt16)

/-- The high byte. -/
def int16GetH (a : UInt16) : UInt8 := (a >>> 8).toUInt8

def int16GetL (a : UInt16) : UInt8 := a.toUInt8

/-- The `float` in four bytes of memory, the lowest first as the processor has them. -/
def float2decimal (byte0 byte1 byte2 byte3 : UInt8) : BinaryFloat :=
  .ofBits32 (byte0.toNat + 2^8 * byte1.toNat + 2^16 * byte2.toNat + 2^24 * byte3.toNat)

/-- The array that starts as zeros and receives `count` registers. -/
def tabReg (count : ℕ) (answer : List UInt16) (i : ℕ) : UInt16 := (answer.take count).getD i 0

/-- The value of a sensor; `none` when the read fails. The integer types are exact in a `double`,
the product has 53 bits. -/
def readSensorValue (bus : Modbus) (config : SensorConfig) : Option BinaryFloat :=
  let registers := bus.readRegisters config.slaveAddress config.registerAddress config.registerCount
  let inputRegisters :=
    bus.readInputRegisters config.slaveAddress config.registerAddress config.registerCount
  let reg := tabReg config.registerCount
  match config.conversion with
  | .float32 => registers.map fun r =>
    float2decimal (int16GetH (reg r 1)) (int16GetL (reg r 1)) (int16GetH (reg r 0)) (int16GetL (reg r 0))
  | .float32Swap => registers.map fun r =>
    float2decimal (int16GetL (reg r 1)) (int16GetH (reg r 1)) (int16GetL (reg r 0)) (int16GetH (reg r 0))
  | .uint16Scale => registers.map fun r =>
    .finite false (.scale 53 (reg r 0).toNat config.scaleFactor)
  | .uint16Raw => registers.map fun r => .finite false ⟨(reg r 0).toNat,0⟩
  | .inputRegFloat32 => inputRegisters.map fun r =>
    float2decimal (int16GetH (reg r 0)) (int16GetL (reg r 0)) (int16GetH (reg r 1)) (int16GetL (reg r 1))

/-- The entry of a sensor that has not been read, -999. -/
def unread : BinaryFloat := .finite true ⟨999,0⟩

/-- The `double` of a decimal literal `a / b`, in units of `2^(-k)` so that it has 53 bits. -/
def decimalLiteral (a b k : ℕ) : Magnitude := ⟨roundHalfEven (a * 2^k) b,-k⟩

def one : Magnitude := ⟨1,0⟩

def thousand : Magnitude := ⟨1000,0⟩

def tenth : Magnitude := decimalLiteral 1 10 56

def hundredth : Magnitude := decimalLiteral 1 100 59

def tenThousandth : Magnitude := decimalLiteral 1 10000 66

def getShipSensorConfigs : List SensorConfig := [
  ⟨1,1,2,.float32,one,str "w01010",str "%010.3lf"⟩,
  ⟨2,1,2,.float32,one,str "w21003",str "%010.3lf"⟩,
  ⟨3,1,2,.float32,thousand,str "w20138",str "%010.3lf"⟩,
  ⟨4,1,2,.float32,one,str "w20143",str "%010.3lf"⟩,
  ⟨5,9728,4,.float32Swap,tenThousandth,str "w00003",str "%010.3lf"⟩,
  ⟨6,9728,4,.float32Swap,one,str "w00004",str "%010.3lf"⟩,
  ⟨7,0,2,.float32,thousand,str "w01014",str "%010.3lf"⟩,
  ⟨7,6,2,.float32,one,str "w01006",str "%010.3lf"⟩,
  ⟨8,0,1,.uint16Scale,tenth,str "a01002",str "%010.3lf"⟩,
  ⟨8,1,1,.uint16Scale,tenth,str "q00005",str "%010.3lf"⟩,
  ⟨8,2,1,.uint16Raw,one,str "a05001",str "%010.3lf"⟩,
  ⟨8,3,2,.float32,one,str "a01004",str "%010.3lf"⟩,
  ⟨9,0,1,.uint16Scale,one,str "a21001",str "%010.3lf"⟩,
  ⟨10,0,2,.inputRegFloat32,one,str "w00007",str "%010.3lf"⟩,
  ⟨11,0,1,.uint16Scale,tenth,str "w01012",str "%010.3lf"⟩,
  ⟨12,0,1,.uint16Scale,one,str "a01008",str "%010.3lf"⟩,
  ⟨12,1,1,.uint16Scale,tenth,str "a01007",str "%010.3lf"⟩,
  ⟨12,2,1,.uint16Raw,one,str "a01003",str "%010.3lf"⟩,
  ⟨12,3,1,.uint16Scale,tenth,str "a01004",str "%010.3lf"⟩,
  ⟨12,4,1,.uint16Scale,tenth,str "a01001",str "%010.3lf"⟩,
  ⟨12,5,1,.uint16Scale,tenth,str "a01002",str "%010.3lf"⟩,
  ⟨12,6,1,.uint16Scale,tenth,str "a01006",str "%010.3lf"⟩,
  ⟨13,0,1,.uint16Scale,tenth,str "LA",str "%010.3lf"⟩]

def getGasSensorConfigs : List SensorConfig := [
  ⟨1,6,1,.uint16Scale,tenth,str "a21005",str "%08.2lf"⟩,
  ⟨2,6,1,.uint16Scale,tenth,str "a19001",str "%08.2lf"⟩,
  ⟨4,6,1,.uint16Scale,tenth,str "a05002",str "%08.2lf"⟩,
  ⟨5,6,1,.uint16Scale,hundredth,str "a34003",str "%08.2lf"⟩,
  ⟨6,6,1,.uint16Scale,tenth,str "a21028",str "%08.2lf"⟩,
  ⟨7,6,1,.uint16Scale,tenth,str "a21026",str "%08.2lf"⟩,
  ⟨8,6,1,.uint16Scale,tenth,str "a21001",str "%08.2lf"⟩,
  ⟨9,6,1,.uint16Scale,tenth,str "a21004",str "%08.2lf"⟩,
  ⟨10,6,1,.uint16Scale,tenth,str "a21003",str "%08.2lf"⟩,
  ⟨11,2,1,.uint16Raw,one,str "a34004",str "%08.2lf"⟩,
  ⟨11,3,1,.uint16Raw,one,str "a34002",str "%08.2lf"⟩,
  ⟨11,4,1,.uint16Raw,one,str "a34005",str "%08.2lf"⟩,
  ⟨12,0,1,.uint16Scale,tenth,str "a01002",str "%08.2lf"⟩,
  ⟨12,1,1,.uint16Scale,tenth,str "a01001",str "%08.2lf"⟩,
  ⟨12,2,1,.uint16Raw,one,str "a05001",str "%08.2lf"⟩]

/-- What the derived classes pass to `run`. -/
structure Driver where
  portInfo : Str
  getSensorConfigs : List SensorConfig
  getHJ212ST : Str

def shipSensorDriver : Driver := ⟨str "100",getShipSensorConfigs,str "26"⟩

def gasSensorDriver : Driver := ⟨str "010",getGasSensorConfigs,str "31"⟩

theorem unread_below : unread.Below 128 := by
  have hpow : 999 < 2^128 := by decide
  exact Magnitude.below_of_exponent_nonpos (x := ⟨999,0⟩) (Int.le_refl 0) hpow

theorem float2decimal_below (byte0 byte1 byte2 byte3 : UInt8) :
    (float2decimal byte0 byte1 byte2 byte3).Below 128 := BinaryFloat.ofBits32_below _

theorem scaled_below (r : UInt16) {x : Magnitude} (hx : x.significand < 2^53)
    (he : x.exponent ≤ 0) : (Magnitude.scale 53 r.toNat x).Below 128 := by
  have hscale := Magnitude.scale_below (p := 53) (i := 16) r.toNat_lt hx he
  exact hscale.mono (by decide)

theorem raw_below (r : UInt16) : (⟨r.toNat,0⟩ : Magnitude).Below 128 := by
  have hr : r.toNat < 2^16 := r.toNat_lt
  have hexact := Magnitude.below_of_exponent_nonpos (x := ⟨r.toNat,0⟩) (Int.le_refl 0) hr
  exact hexact.mono (by decide)

/-- Whatever the registers hold, the value is a number below `2^128`, an infinity or NaN. -/
theorem readSensorValue_below {bus : Modbus} {config : SensorConfig} {v : BinaryFloat}
    (hx : config.scaleFactor.significand < 2^53) (he : config.scaleFactor.exponent ≤ 0)
    (h : readSensorValue bus config = some v) : v.Below 128 := by
  unfold readSensorValue at h
  dsimp only at h
  split at h <;> obtain ⟨r,-,rfl⟩ := Option.map_eq_some_iff.mp h
  · exact float2decimal_below _ _ _ _
  · exact float2decimal_below _ _ _ _
  · exact scaled_below _ hx he
  · exact raw_below _
  · exact float2decimal_below _ _ _ _

end SensorDriver
end Sap9001
