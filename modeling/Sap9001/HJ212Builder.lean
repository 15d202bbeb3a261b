import Sap9001.ProtocolProcess
import Sap9001.MemoryPool

/-! The builder of the 06 data packet (`protocol/hj212_builder.h`) and the length field that
it writes. -/
namespace Sap9001

structure HJ212PacketBuilder where
  command : Str := str "06"
  deviceId : Str := str "FF"
  netId : Str := str "0000"
  mac : Str := []
  isrMac : Str := []
  gps : Str := str "N2932E10636"
  cpuMem : Str := []
  commStatus : Str := str "0000"
  data : Str := []
  portInfo : Str := []

namespace HJ212PacketBuilder

/-- The CPU and memory string and the position are what `get_cpuOccupy` and
`gps_get_location` return. -/
def fromContext (b : HJ212PacketBuilder) (identity : DeviceIdentity) (cpuOccupy location : Str) :
    HJ212PacketBuilder :=
  { b with
    deviceId := identity.id
    netId := identity.netId
    mac := identity.mac
    isrMac := identity.isrMac
    commStatus := identity.getCommunicateStatus
    cpuMem := cpuOccupy
    gps := location }

def withData (b : HJ212PacketBuilder) (data : Str) : HJ212PacketBuilder := { b with data := data }

def withPortInfo (b : HJ212PacketBuilder) (portInfo : Str) : HJ212PacketBuilder :=
  { b with portInfo := portInfo }

def communicateType (activeId : Int) : Str := if 0 ≤ activeId then toDecimal activeId else str "0"

def length (b : HJ212PacketBuilder) : Int := toInt32 (b.data.length + 43)

def padLength (lenStr : Str) : Str :=
  match lenStr.length with
  | 1 => str "000" ++ lenStr
  | 2 => str "00" ++ lenStr
  | 3 => str "0" ++ lenStr
  | _ => lenStr

def lenStr (b : HJ212PacketBuilder) : Str := padLength (change b.length [])

/-- The literal parts and the arguments of the format, in order. -/
def parts (b : HJ212PacketBuilder) (activeId : Int) : List Str :=
  [str "$",b.command,communicateType activeId,b.deviceId,b.netId,str "00",b.lenStr,b.isrMac,b.mac,
    b.portInfo,b.cpuMem,b.commStatus,b.data,str "@"]

/-- `snprintf` returns a negative number when the length does not fit an `int`. -/
def build (b : HJ212PacketBuilder) (activeId : Int) (pool : MemoryPool 8) : Str × MemoryPool 8 :=
  match pool.allocate with
  | (none,pool) => ([],pool)
  | (some buf,pool) =>
    if 2147483648 ≤ ((b.parts activeId).flatMap cstr).length then ([],pool.deallocate (some buf))
    else (snprintf 2048 (b.parts activeId),pool.deallocate (some buf))

end HJ212PacketBuilder

/-- The 06 packet around `strT` for sensor port `portInfo`. -/
def packet06 (identity : DeviceIdentity) (cpuOccupy location : Str) (activeId : Int)
    (pool : MemoryPool 8) (strT portInfo : Str) : Str × MemoryPool 8 :=
  (((({} : HJ212PacketBuilder).fromContext identity cpuOccupy location).withData strT).withPortInfo
    portInfo).build activeId pool

namespace HJ212PacketBuilder

/-- A field of the given width, as a C string. -/
def Field (width : ℕ) (s : Str) : Prop := s.length = width ∧ (0 : UInt8) ∉ s

instance (width : ℕ) (s : Str) : Decidable (Field width s) :=
  inferInstanceAs (Decidable (_ ∧ _))

@[simp] theorem length_at : (str "@").length = 1 := rfl

theorem le_length (b : HJ212PacketBuilder) : -2147483648 ≤ b.length := le_toInt32 _

/-- The widths that the protocol gives the fields of a 06 packet. -/
structure ProtocolWidths (b : HJ212PacketBuilder) (activeId : Int) : Prop where
  command : b.command = str "06"
  channel : (communicateType activeId).length = 1
  deviceId : Field 2 b.deviceId
  netId : Field 4 b.netId
  isrMac : Field 16 b.isrMac
  mac : Field 16 b.mac
  portInfo : Field 3 b.portInfo
  cpuMem : Field 4 b.cpuMem
  commStatus : Field 6 b.commStatus

/-- The four characters of the length field of a packet. -/
def lengthField (packet : Str) : Str := substr packet 12 4

/-- What stands between the length field and the last character. -/
def payload (packet : Str) : Str := (packet.drop 16).dropLast

/-- The widths that the protocol gives the fields of a context. -/
structure ContextWidths (identity : DeviceIdentity) (cpuOccupy : Str) (activeId : Int) : Prop where
  channel : (communicateType activeId).length = 1
  id : Field 2 identity.id
  netId : Field 4 identity.netId
  isrMac : Field 16 identity.isrMac
  mac : Field 16 identity.mac
  cpuOccupy : Field 4 cpuOccupy
  communicateStatus : Field 6 identity.communicateStatus

/-- The builder that `packet06` fills. -/
def ofContext (identity : DeviceIdentity) (cpuOccupy location strT portInfo : Str) :
    HJ212PacketBuilder :=
  ((({} : HJ212PacketBuilder).fromContext identity cpuOccupy location).withData strT).withPortInfo
    portInfo

theorem packet06_eq (identity : DeviceIdentity) (cpuOccupy location : Str) (activeId : Int)
    (pool : MemoryPool 8) (strT portInfo : Str) :
    packet06 identity cpuOccupy location activeId pool strT portInfo =
      (ofContext identity cpuOccupy location strT portInfo).build activeId pool := rfl

theorem ContextWidths.protocolWidths {identity : DeviceIdentity} {cpuOccupy portInfo : Str}
    {activeId : Int} (hw : ContextWidths identity cpuOccupy activeId) (hport : Field 3 portInfo)
    (location strT : Str) :
    (ofContext identity cpuOccupy location strT portInfo).ProtocolWidths activeId where
  command := rfl
  channel := hw.channel
  deviceId := hw.id
  netId := hw.netId
  isrMac := hw.isrMac
  mac := hw.mac
  portInfo := hport
  cpuMem := hw.cpuOccupy
  commStatus := by
    have hstatus : cstr identity.communicateStatus = identity.communicateStatus :=
      cstr_of_no_nul hw.communicateStatus.2
    show Field 6 (cstr identity.communicateStatus)
    rw [hstatus]
    exact hw.communicateStatus

theorem communicateType_no_nul (activeId : Int) : (0 : UInt8) ∉ communicateType activeId := by
  by_cases h : 0 ≤ activeId
  · simpa [communicateType,toDecimal,h,not_lt.mpr h] using numeral_no_nul (by decide) (by decide) _
  · simp [communicateType,h]
    decide

theorem length_communicateType_pos (activeId : Int) : 0 < (communicateType activeId).length := by
  unfold communicateType toDecimal
  split_ifs
  · omega
  · exact Numerals.length_numeral_pos 10 hexDigit _
  · decide

theorem length_communicateType_le {activeId : Int} {k : ℕ} (hk : 0 < k) (h : activeId < 10^k) :
    (communicateType activeId).length ≤ k := by
  have hcast : ((10^k : ℕ) : Int) = 10^k := by push_cast; rfl
  unfold communicateType toDecimal
  split_ifs
  · omega
  · exact Numerals.length_numeral_le 10 hexDigit (by decide) hk (by omega)
  · exact hk

theorem padLength_no_nul {s : Str} (h : (0 : UInt8) ∉ s) : (0 : UInt8) ∉ padLength s := by
  unfold padLength
  split <;> simp [h] <;> decide

/-- The three branches put the zeros in front that `%04X` does. -/
theorem padLength_numeral (n : ℕ) :
    padLength (Numerals.numeral 16 hexDigit n) = Numerals.padded 16 hexDigit 4 n := by
  have hpos := Numerals.length_numeral_pos 16 hexDigit n
  rw [Numerals.padded]
  generalize Numerals.numeral 16 hexDigit n = t at hpos ⊢
  have hcases : t.length = 1 ∨ t.length = 2 ∨ t.length = 3 ∨ 4 ≤ t.length := by omega
  rcases hcases with h | h | h | h
  · simp only [padLength,h]
    rfl
  · simp only [padLength,h]
    rfl
  · simp only [padLength,h]
    rfl
  · rw [Nat.sub_eq_zero_of_le h,padLength]
    split <;> first | omega | rfl

/-- Padding brings one to four digits to four and does not change the number. -/
theorem padLength_spec {s : Str} (hpos : 0 < s.length) (hle : s.length ≤ 4) :
    (padLength s).length = 4 ∧ readHex (padLength s) = readHex s := by
  have hzeros (k : ℕ) (z : Str) (hz : z = List.replicate k (hexDigit 0)) :
      readHex (z ++ s) = readHex s := by
    rw [hz]
    exact Numerals.read_zeros hexValue_hexDigit (by decide) k s
  have hcases : s.length = 1 ∨ s.length = 2 ∨ s.length = 3 ∨ s.length = 4 := by omega
  rcases hcases with h | h | h | h <;> simp only [padLength,h]
  · exact ⟨by rw [List.length_append,h]; rfl,hzeros 3 _ rfl⟩
  · exact ⟨by rw [List.length_append,h]; rfl,hzeros 2 _ rfl⟩
  · exact ⟨by rw [List.length_append,h]; rfl,hzeros 1 _ rfl⟩
  · exact ⟨trivial,trivial⟩

section ShortData

variable {b : HJ212PacketBuilder} (hlen : b.data.length ≤ 2047)
include hlen

/-- The length field is four digits that read back as the data length plus 43. -/
theorem lenStr_spec : b.lenStr.length = 4 ∧ (0 : UInt8) ∉ b.lenStr ∧
    readHex b.lenStr = b.data.length + 43 := by
  have heq : b.lenStr = padLength (Numerals.numeral 16 hexDigit (b.data.length + 43)) := by
    rw [lenStr,length,toInt32_of_lt (by omega),change_eq,List.nil_append]
  obtain ⟨hfour,hread⟩ := padLength_spec
    (Numerals.length_numeral_pos 16 hexDigit (b.data.length + 43))
    (Numerals.length_numeral_le 16 hexDigit (by decide) (by decide) (by omega))
  refine ⟨heq ▸ hfour,heq ▸ padLength_no_nul (numeral_no_nul (by decide) (by decide) _),?_⟩
  rw [heq,hread]
  exact Numerals.read_numeral hexValue_hexDigit (by decide) _

end ShortData

/-- The parts before the length field. -/
def header (b : HJ212PacketBuilder) (activeId : Int) : Str :=
  str "$" ++ b.command ++ communicateType activeId ++ b.deviceId ++ b.netId ++ str "00"

/-- The parts between the length field and the final '@'. -/
def body (b : HJ212PacketBuilder) : Str :=
  b.isrMac ++ b.mac ++ b.portInfo ++ b.cpuMem ++ b.commStatus ++ b.data

theorem parts_flatten (b : HJ212PacketBuilder) (activeId : Int) : (b.parts activeId).flatten =
    b.header activeId ++ (b.lenStr ++ (b.body ++ str "@")) := by
  simp [parts,header,body]

section Layout

variable {b : HJ212PacketBuilder} {activeId : Int} (hw : b.ProtocolWidths activeId)
  (hdata : (0 : UInt8) ∉ b.data) (hfits : (b.parts activeId).flatten.length ≤ 2047)

include hw in
theorem length_header : (b.header activeId).length = 12 := by
  simp only [header,List.length_append,hw.command,hw.channel,hw.deviceId.1,hw.netId.1]
  rfl

include hw in
theorem length_body : b.body.length = b.data.length + 45 := by
  simp only [body,List.length_append,hw.isrMac.1,hw.mac.1,hw.portInfo.1,hw.cpuMem.1,
    hw.commStatus.1]
  omega

include hfits in
theorem data_length_le : b.data.length ≤ 2047 := by
  simp only [parts_flatten,body,List.length_append] at hfits
  omega

include hw hdata hfits in
theorem parts_no_nul : ∀ a ∈ b.parts activeId, (0 : UInt8) ∉ a := by
  have hlen := (lenStr_spec (data_length_le hfits)).2.1
  intro a ha
  simp only [parts,hw.command,List.mem_cons,List.not_mem_nil,or_false] at ha
  rcases ha with rfl | rfl | rfl | rfl | rfl | rfl | rfl | rfl | rfl | rfl | rfl | rfl | rfl | rfl
  · decide
  · decide
  · exact communicateType_no_nul activeId
  · exact hw.deviceId.2
  · exact hw.netId.2
  · decide
  · exact hlen
  · exact hw.isrMac.2
  · exact hw.mac.2
  · exact hw.portInfo.2
  · exact hw.cpuMem.2
  · exact hw.commStatus.2
  · exact hdata
  · decide

include hw hdata hfits in
/-- A packet that fits the buffer is its parts one after the other. -/
theorem build_of_fits {pool : MemoryPool 8} (hpool : pool.freeList ≠ []) :
    (b.build activeId pool).1 = b.header activeId ++ (b.lenStr ++ (b.body ++ str "@")) := by
  have hprinted := flatMap_cstr (parts_no_nul hw hdata hfits)
  obtain ⟨block,rest,hfree⟩ := List.exists_cons_of_ne_nil hpool
  have hsmall : ¬ 2147483648 ≤ (b.parts activeId).flatten.length := by omega
  simp only [build,MemoryPool.allocate,hfree,snprintf,hprinted]
  rw [if_neg hsmall,List.take_of_length_le (by omega),parts_flatten]

/-- Without a free block no packet is built. -/
theorem freeList_of_build {pool : MemoryPool 8} (h : (b.build activeId pool).1 ≠ []) :
    pool.freeList ≠ [] := by
  intro hfree
  exact h (by simp [build,MemoryPool.allocate,hfree])

end Layout

section Printed

variable {b : HJ212PacketBuilder} {activeId : Int}

theorem lenStr_no_nul (b : HJ212PacketBuilder) : (0 : UInt8) ∉ b.lenStr := by
  refine padLength_no_nul ?_
  by_cases h : b.length < 0
  · rw [change_of_neg b.le_length h]
    decide
  · obtain ⟨n,hn⟩ := Int.eq_ofNat_of_zero_le (not_lt.mp h)
    rw [hn,change_eq]
    exact numeral_no_nul (by decide) (by decide) n

/-- The fields of fixed width between the length field and the data. -/
def fixedFields (b : HJ212PacketBuilder) : Str :=
  b.isrMac ++ b.mac ++ b.portInfo ++ b.cpuMem ++ b.commStatus

theorem length_fixedFields (hw : b.ProtocolWidths activeId) : b.fixedFields.length = 45 := by
  simp only [fixedFields,List.length_append,hw.isrMac.1,hw.mac.1,hw.portInfo.1,hw.cpuMem.1,
    hw.commStatus.1]

/-- What the format prints: the data stop at their first NUL. -/
theorem printed_eq (hw : b.ProtocolWidths activeId) : (b.parts activeId).flatMap cstr =
    b.header activeId ++ (b.lenStr ++ (b.fixedFields ++ (cstr b.data ++ str "@"))) := by
  have hcommand : cstr b.command = b.command := by
    rw [hw.command]
    rfl
  have hlit (s : Str) (hs : (0 : UInt8) ∉ s) : cstr s = s := cstr_of_no_nul hs
  simp only [parts,header,fixedFields,List.flatMap_cons,List.flatMap_nil,List.append_nil,
    List.append_assoc,hcommand,hlit _ (communicateType_no_nul activeId),hlit _ hw.deviceId.2,
    hlit _ hw.netId.2,hlit _ (lenStr_no_nul b),hlit _ hw.isrMac.2,hlit _ hw.mac.2,
    hlit _ hw.portInfo.2,hlit _ hw.cpuMem.2,hlit _ hw.commStatus.2,
    hlit (str "$") (by decide),hlit (str "00") (by decide),hlit (str "@") (by decide)]

/-- Everything in front of the data. -/
def preamble (b : HJ212PacketBuilder) (activeId : Int) : Str :=
  b.header activeId ++ (b.lenStr ++ b.fixedFields)

theorem length_preamble (hw : b.ProtocolWidths activeId) (hlen : b.lenStr.length = 4) :
    (b.preamble activeId).length = 61 := by
  simp only [preamble,List.length_append,length_header hw,hlen,length_fixedFields hw]

theorem printed_eq_preamble (hw : b.ProtocolWidths activeId) : (b.parts activeId).flatMap cstr =
    b.preamble activeId ++ (cstr b.data ++ str "@") := by
  rw [printed_eq hw,preamble,List.append_assoc,List.append_assoc]

/-- `build` prints into a block of 2048 bytes, or returns nothing. -/
theorem build_eq {pool : MemoryPool 8} (hpool : pool.freeList ≠ []) :
    (b.build activeId pool).1 =
      if 2147483648 ≤ ((b.parts activeId).flatMap cstr).length then []
      else ((b.parts activeId).flatMap cstr).take 2047 := by
  obtain ⟨block,rest,hfree⟩ := List.exists_cons_of_ne_nil hpool
  simp only [build,MemoryPool.allocate,hfree]
  split_ifs <;> rfl

theorem preamble_take (hw : b.ProtocolWidths activeId) :
    (b.preamble activeId).take 3 = str "$06" := by
  have hthree : (str "$" ++ b.command).length = 3 := by
    rw [hw.command]
    rfl
  have hfront : b.preamble activeId = (str "$" ++ b.command) ++ (communicateType activeId ++
      b.deviceId ++ b.netId ++ str "00" ++ (b.lenStr ++ b.fixedFields)) := by
    simp only [preamble,header,List.append_assoc]
  rw [hfront,← hthree,List.take_left,hw.command]
  rfl

/-- A packet that is not cut is everything that the format prints. -/
theorem build_of_printed {pool : MemoryPool 8} (hpool : pool.freeList ≠ [])
    (hw : b.ProtocolWidths activeId)
    (hfits : (b.preamble activeId ++ (cstr b.data ++ str "@")).length ≤ 2047) :
    (b.build activeId pool).1 = b.preamble activeId ++ (cstr b.data ++ str "@") := by
  rw [build_eq hpool,printed_eq_preamble hw,if_neg (by omega),List.take_of_length_le hfits]

/-- The packet has all the data, unchanged, between the 61 characters of the other fields and
the final '@'. -/
def Carries (packet data : Str) : Prop :=
  ∃ pre : Str, pre.length = 61 ∧ packet = pre ++ (data ++ str "@")

theorem printed_no_nul (b : HJ212PacketBuilder) (activeId : Int) :
    (0 : UInt8) ∉ (b.parts activeId).flatMap cstr := by
  intro h
  obtain ⟨a,-,ha⟩ := List.mem_flatMap.mp h
  exact cstr_no_nul a ha

theorem length_printed (hw : b.ProtocolWidths activeId) : ((b.parts activeId).flatMap cstr).length =
    (cstr b.data).length + b.lenStr.length + 58 := by
  simp only [printed_eq hw,List.length_append,length_header hw,length_fixedFields hw,length_at]
  omega

/-- A packet that was not refused carries its data exactly when they have no NUL and fit. -/
theorem carries_iff {pool : MemoryPool 8} (hpool : pool.freeList ≠ [])
    (hw : b.ProtocolWidths activeId) (hsize : (cstr b.data).length + b.lenStr.length + 58 < 2147483648) :
    Carries (b.build activeId pool).1 b.data ↔ (0 : UInt8) ∉ b.data ∧ b.data.length ≤ 1985 := by
  constructor
  · rintro ⟨pre,hpre,hpacket⟩
    rw [build_eq hpool,length_printed hw,if_neg (by omega)] at hpacket
    constructor
    · intro hnul
      have hmem : (0 : UInt8) ∈ ((b.parts activeId).flatMap cstr).take 2047 := by
        rw [hpacket]
        simp [hnul]
      exact printed_no_nul b activeId (List.mem_of_mem_take hmem)
    · have hlen := congrArg List.length hpacket
      simp only [List.length_take,List.length_append,hpre,length_at] at hlen
      omega
  · rintro ⟨hnul,hlen⟩
    have hfour := (lenStr_spec (b := b) (by omega)).1
    have hpre := length_preamble hw hfour
    refine ⟨b.preamble activeId,hpre,?_⟩
    rw [build_of_printed hpool hw,cstr_of_no_nul hnul]
    simp only [cstr_of_no_nul hnul,List.length_append,hpre,length_at]
    omega

/-- `build` returns nothing without a free block and when the printed length is no `int`. -/
theorem build_eq_nil_iff (hw : b.ProtocolWidths activeId) (pool : MemoryPool 8) :
    (b.build activeId pool).1 = [] ↔
      pool.freeList = [] ∨ 2147483648 ≤ (cstr b.data).length + b.lenStr.length + 58 := by
  by_cases hpool : pool.freeList = []
  · simp [build,MemoryPool.allocate,hpool]
  · rw [build_eq hpool,length_printed hw]
    split_ifs with hsize
    · simp [hsize]
    · have hprinted := length_printed hw
      have hne : ((b.parts activeId).flatMap cstr).take 2047 ≠ [] := by
        refine List.ne_nil_of_length_pos ?_
        rw [List.length_take]
        omega
      simp [hne,hpool,hsize]

end Printed

section Packet

variable {head field content : Str} (hhead : head.length = 12) (hfield : field.length = 4)
include hhead hfield

theorem lengthField_append : lengthField (head ++ (field ++ (content ++ str "@"))) = field := by
  rw [lengthField,substr_field hhead hfield]

theorem payload_append : payload (head ++ (field ++ (content ++ str "@"))) = content := by
  have hat : str "@" = [byte '@'] := rfl
  rw [payload,show 16 = 12 + 4 from rfl,drop_field hhead hfield,hat,List.dropLast_concat]

end Packet

/-- The length field counts two characters less than the packet has: the constant 43 allows
four characters of communication status. -/
theorem lengthField_wrong {b : HJ212PacketBuilder} {activeId : Int} {pool : MemoryPool 8}
    {packet : Str} (hw : b.ProtocolWidths activeId) (hdata : (0 : UInt8) ∉ b.data)
    (hfits : (b.parts activeId).flatten.length ≤ 2047) (hpacket : (b.build activeId pool).1 = packet)
    (hne : packet ≠ []) : readHex (lengthField packet) ≠ (payload packet).length ∧
      readHex (lengthField packet) + 2 = (payload packet).length := by
  subst hpacket
  obtain ⟨hfour,-,hread⟩ := lenStr_spec (data_length_le hfits)
  have hhead := length_header hw
  rw [build_of_fits hw hdata hfits (freeList_of_build hne),lengthField_append hhead hfour,payload_append hhead hfour,
    hread,length_body hw]
  omega

/-- The identity of the registered device in the log. -/
def loggedIdentity : DeviceIdentity :=
  { id := str "01", netId := str "0001", mac := str "SAP2400000000000"
    isrMac := str "ISR2700000000027", communicateStatus := str "110100" }

/-- A packet of that device with an empty measurement segment. -/
def loggedBuilder : HJ212PacketBuilder :=
  (((({} : HJ212PacketBuilder).fromContext loggedIdentity (str "0914") (str "NFFFFEFFFFF")).withData
    (str "##0002&&5D7F")).withPortInfo (str "100"))

theorem loggedBuilder_widths : loggedBuilder.ProtocolWidths 4 := by
  constructor <;> decide

theorem loggedBuilder_fits : (loggedBuilder.parts 4).flatten.length ≤ 2047 := by
  have hlen := (lenStr_spec (b := loggedBuilder) (by decide)).1
  have hbody := length_body loggedBuilder_widths
  have hhead := length_header loggedBuilder_widths
  have hdata : loggedBuilder.data.length = 12 := rfl
  simp only [parts_flatten,List.length_append,hhead,hlen,hbody,hdata]
  decide

theorem logged_packet_ne_nil : (packet06 loggedIdentity (str "0914") (str "NFFFFEFFFFF") 4 (.new 8)
    (str "##0002&&5D7F") (str "100")).1 ≠ [] := by
  have hfree : (MemoryPool.new 8).freeList ≠ [] := by decide
  have hbuild := build_of_fits loggedBuilder_widths (by decide) loggedBuilder_fits hfree
  intro hnil
  have hhead := length_header loggedBuilder_widths
  rw [(List.append_eq_nil_iff.mp (hbuild.symm.trans hnil)).1] at hhead
  exact absurd hhead (by decide)

/-- The length field of that packet is not the number of characters it should count. -/
theorem logged_packet_length : ¬ ∀ (b : HJ212PacketBuilder) (activeId : Int) (pool : MemoryPool 8),
    b.ProtocolWidths activeId → (0 : UInt8) ∉ b.data → (b.parts activeId).flatten.length ≤ 2047 →
    (b.build activeId pool).1 ≠ [] → readHex (lengthField (b.build activeId pool).1) =
      (payload (b.build activeId pool).1).length := by
  intro hall
  have hne : (loggedBuilder.build 4 (.new 8)).1 ≠ [] := logged_packet_ne_nil
  have h := hall loggedBuilder 4 (.new 8) loggedBuilder_widths (by decide) loggedBuilder_fits hne
  have hlen := lenStr_spec (b := loggedBuilder) (by decide)
  have hhead := length_header loggedBuilder_widths
  rw [build_of_fits loggedBuilder_widths (by decide) loggedBuilder_fits (freeList_of_build hne),
    lengthField_append hhead hlen.1,payload_append hhead hlen.1,hlen.2.2,
    length_body loggedBuilder_widths] at h
  omega

/-- That packet, as `packet06` returns it. -/
theorem logged_packet_miscounted : ∃ packet, (packet06 loggedIdentity (str "0914")
    (str "NFFFFEFFFFF") 4 (.new 8) (str "##0002&&5D7F") (str "100")).1 = packet ∧
    readHex (lengthField packet) + 2 = (payload packet).length :=
  ⟨_,rfl,(lengthField_wrong loggedBuilder_widths (by decide) loggedBuilder_fits rfl
    logged_packet_ne_nil).2⟩

end HJ212PacketBuilder
end Sap9001
