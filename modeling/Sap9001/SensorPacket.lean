import Sap9001.HJ212
import Sap9001.SensorTables

/-! The HJ212 data segment of a round of readings (`SensorDriver::run`) and its size. -/
namespace Sap9001
namespace SensorDriver

open HJ212

/-- The format of an item; another one stands in when it has not two conversions. -/
def rtdFmt (config : SensorConfig) : Str :=
  let fmt := str "%s-Rtd=" ++ config.rtdFormat ++ str ";"
  if fmt.count (byte '%') ≠ 2 then str "%s-Rtd=%010.3lf;" else fmt

/-- The item in the buffer of 256 bytes. -/
def rtdItem (config : SensorConfig) (value : BinaryFloat) : Option Str :=
  (Directive.parse .text (cstr (rtdFmt config))).map fun fmt =>
    snprintf 256 (fmt.map (Directive.print config.hj212Code value))

def rtdItems : List SensorConfig → List BinaryFloat → Option Str
  | config::configs, value::values => do
    let buf ← rtdItem config value
    let rest ← rtdItems configs values
    return buf ++ rest
  | _, _ => some []

/-- What stands before the items. -/
def segmentHead (qn st mn gps : Str) : Str :=
  str "QN=" ++ qn ++ str ";ST=" ++ st ++ str ";CN=2011;PW=123456;MN=" ++ mn ++ str ";Flag=" ++
    str "4" ++ str ";CP=&&Gps=" ++ gps ++ str ";"

def dataSegment (driver : Driver) (qn mn gps : Str) (values : List BinaryFloat) : Option Str :=
  (rtdItems driver.getSensorConfigs values).map fun items =>
    segmentHead qn driver.getHJ212ST mn gps ++ (items ++ str "&&")

/-- An item as its format asks for it, in a buffer without bound. -/
def rtdText (width precision : ℕ) (config : SensorConfig) (value : BinaryFloat) : Str :=
  config.hj212Code ++ (str "-Rtd=" ++ (printFixed width precision value ++ str ";"))

def segmentText (width precision : ℕ) (driver : Driver) (qn mn gps : Str)
    (values : List BinaryFloat) : Str :=
  segmentHead qn driver.getHJ212ST mn gps ++
    ((List.zipWith (rtdText width precision) driver.getSensorConfigs values).flatten ++ str "&&")

/-- A table entry with a short code, a fixed-point format and a factor of 53 bits. -/
structure SensorConfig.Prints (width precision : ℕ) (config : SensorConfig) : Prop where
  width_le : width ≤ 41 + precision
  precision_le : precision ≤ 3
  code_length : config.hj212Code.length ≤ 6
  code_no_nul : (0 : UInt8) ∉ config.hj212Code
  parsed : Directive.parse .text (cstr (rtdFmt config)) =
    some (.string::((str "-Rtd=").map .literal ++ [.fixed width precision,.literal (byte ';')]))
  significand : config.scaleFactor.significand < 2^53
  exponent : config.scaleFactor.exponent ≤ 0

/-- Whether a table entry prints so can be checked. -/
instance (width precision : ℕ) (config : SensorConfig) : Decidable (config.Prints width precision) :=
  decidable_of_iff ((width ≤ 41 + precision ∧ precision ≤ 3) ∧
      (config.hj212Code.length ≤ 6 ∧ (0 : UInt8) ∉ config.hj212Code) ∧
      Directive.parse .text (cstr (rtdFmt config)) = some
        (.string::((str "-Rtd=").map .literal ++ [.fixed width precision,.literal (byte ';')])) ∧
      config.scaleFactor.significand < 2^53 ∧ config.scaleFactor.exponent ≤ 0)
    ⟨fun ⟨⟨hwidth,hprecision⟩,⟨hlen,hnul⟩,hparsed,hsignificand,hexponent⟩ =>
        ⟨hwidth,hprecision,hlen,hnul,hparsed,hsignificand,hexponent⟩,
      fun h => ⟨⟨h.width_le,h.precision_le⟩,⟨h.code_length,h.code_no_nul⟩,h.parsed,h.significand,
        h.exponent⟩⟩

theorem ship_prints : ∀ c ∈ getShipSensorConfigs, c.Prints 10 3 := by decide +kernel

theorem gas_prints : ∀ c ∈ getGasSensorConfigs, c.Prints 8 2 := by decide +kernel

variable {width precision : ℕ}

section Item

variable {config : SensorConfig} (hconfig : config.Prints width precision) {value : BinaryFloat}
include hconfig

theorem rtdText_no_nul : (0 : UInt8) ∉ rtdText width precision config value := by
  have hname : (0 : UInt8) ∉ str "-Rtd=" := by decide
  have hend : (0 : UInt8) ∉ str ";" := by decide
  simp [rtdText,hconfig.code_no_nul,hname,printFixed_no_nul,hend]

variable (hvalue : value.Below 128)
include hvalue

theorem length_rtdText : (rtdText width precision config value).length ≤ 56 := by
  have hname : (str "-Rtd=").length = 5 := rfl
  have hend : (str ";").length = 1 := rfl
  have hcode := hconfig.code_length
  have hprecision := hconfig.precision_le
  have hprinted := length_printFixed hconfig.width_le hvalue
  simp only [rtdText,List.length_append,hname,hend]
  omega

/-- An item fits its buffer. -/
theorem rtdItem_eq : rtdItem config value = some (rtdText width precision config value) := by
  have hlen := length_rtdText hconfig hvalue
  rw [rtdItem,hconfig.parsed,Option.map_some,snprintf]
  have hprinted : (((Directive.string::((str "-Rtd=").map Directive.literal ++
      [.fixed width precision,.literal (byte ';')])).map
        (Directive.print config.hj212Code value)).flatMap cstr) =
      rtdText width precision config value := by
    have hname : ∀ a ∈ (str "-Rtd=").map (fun c => [c]), (0 : UInt8) ∉ a := by decide
    have hend : cstr [byte ';'] = str ";" := by decide
    have hjoined : ((str "-Rtd=").map (fun c => [c])).flatten = str "-Rtd=" := by decide
    simp only [List.map_cons,List.map_append,List.map_map,List.map_nil,List.flatMap_cons,
      List.flatMap_append,List.flatMap_nil,Directive.print,Function.comp_def,hend,
      cstr_of_no_nul hconfig.code_no_nul,cstr_of_no_nul (printFixed_no_nul width precision value),
      flatMap_cstr hname,hjoined,rtdText,List.append_nil]
  rw [hprinted,List.take_of_length_le (by omega)]

end Item

section Segment

variable {configs : List SensorConfig} (hconfigs : ∀ c ∈ configs, c.Prints width precision)
  {values : List BinaryFloat} (hvalues : ∀ v ∈ values, v.Below 128)
include hconfigs

theorem items_no_nul :
    (0 : UInt8) ∉ (List.zipWith (rtdText width precision) configs values).flatten := by
  induction configs generalizing values with
  | nil => simp
  | cons config configs ih =>
    obtain ⟨hconfig,hrest⟩ := List.forall_mem_cons.mp hconfigs
    cases values with
    | nil => simp
    | cons value values => simp [rtdText_no_nul hconfig,ih hrest]

include hvalues

theorem rtdItems_eq : rtdItems configs values =
    some (List.zipWith (rtdText width precision) configs values).flatten := by
  induction configs generalizing values with
  | nil => cases values <;> rfl
  | cons config configs ih =>
    obtain ⟨hconfig,hrest⟩ := List.forall_mem_cons.mp hconfigs
    cases values with
    | nil => rfl
    | cons value values =>
      obtain ⟨hvalue,hvalues⟩ := List.forall_mem_cons.mp hvalues
      simp [rtdItems,rtdItem_eq hconfig hvalue,ih hrest hvalues]

theorem length_items :
    (List.zipWith (rtdText width precision) configs values).flatten.length ≤ 56 * configs.length := by
  induction configs generalizing values with
  | nil => simp
  | cons config configs ih =>
    obtain ⟨hconfig,hrest⟩ := List.forall_mem_cons.mp hconfigs
    cases values with
    | nil => simp
    | cons value values =>
      obtain ⟨hvalue,hvalues⟩ := List.forall_mem_cons.mp hvalues
      have hitem := length_rtdText hconfig hvalue
      have hitems := ih hrest hvalues
      simp only [List.zipWith_cons_cons,List.flatten_cons,List.length_append,List.length_cons]
      omega

end Segment

theorem length_segmentHead (qn st mn gps : Str) : (segmentHead qn st mn gps).length =
    qn.length + st.length + mn.length + gps.length + 47 := by
  have h₁ : (str "QN=").length = 3 := rfl
  have h₂ : (str ";ST=").length = 4 := rfl
  have h₃ : (str ";CN=2011;PW=123456;MN=").length = 22 := rfl
  have h₄ : (str ";Flag=").length = 6 := rfl
  have h₅ : (str "4").length = 1 := rfl
  have h₆ : (str ";CP=&&Gps=").length = 10 := rfl
  have h₇ : (str ";").length = 1 := rfl
  simp only [segmentHead,List.length_append,h₁,h₂,h₃,h₄,h₅,h₆,h₇]
  omega

theorem segmentHead_no_nul {qn st mn gps : Str} (hqn : (0 : UInt8) ∉ qn) (hst : (0 : UInt8) ∉ st)
    (hmn : (0 : UInt8) ∉ mn) (hgps : (0 : UInt8) ∉ gps) : (0 : UInt8) ∉ segmentHead qn st mn gps := by
  have h₁ : (0 : UInt8) ∉ str "QN=" := by decide
  have h₂ : (0 : UInt8) ∉ str ";ST=" := by decide
  have h₃ : (0 : UInt8) ∉ str ";CN=2011;PW=123456;MN=" := by decide
  have h₄ : (0 : UInt8) ∉ str ";Flag=" := by decide
  have h₅ : (0 : UInt8) ∉ str "4" := by decide
  have h₆ : (0 : UInt8) ∉ str ";CP=&&Gps=" := by decide
  have h₇ : (0 : UInt8) ∉ str ";" := by decide
  simp [segmentHead,h₁,h₂,h₃,h₄,h₅,h₆,h₇,hqn,hst,hmn,hgps]

end SensorDriver
end Sap9001
