import Sap9001.HJ212Builder
import Sap9001.RegistManage

/-! The length fields of the control packets: the 01 and 02 packets of `app/regist_manage.cpp`
and the EF heartbeat of `protocol/protocol_process.cpp`. -/
namespace Sap9001
namespace ControlPackets

open RegistManage HJ212PacketBuilder

/-- `%04d`; the sign takes one of the four places. -/
def dec04 (n : Int) : Str :=
  if n < 0 then str "-" ++ Numerals.padded 10 hexDigit 3 n.natAbs
  else Numerals.padded 10 hexDigit 4 n.natAbs

/-- The EF packet. The CPU and memory string is what `get_cpuOccupy` returns. -/
def buildHeartbeat (identity : DeviceIdentity) (cpuMem : Str) (activeId : Int) (queueDepth : ℕ)
    (gpsFailed : Bool) : Str :=
  let gpsOk : Int := if gpsFailed then 0 else 1
  let dataSegment := snprintf 20 [cpuMem,identity.getCommunicateStatus,dec04 (toInt32 queueDepth),
    toDecimal gpsOk]
  let lenHex := snprintf 5 [hex04 ((cstr dataSegment).length + 7)]
  snprintf 256 [str "$EF",communicateType activeId,identity.id,identity.netId,str "00",lenHex,
    dataSegment,str "@"]

/-- Where the length field starts: after '$', the command, the channel, the two ids and "00". -/
def lengthOffset (channel id netId : Str) : ℕ := 5 + channel.length + id.length + netId.length

/-- What the length field says. -/
def statedLength (offset : ℕ) (packet : Str) : ℕ := readHex (substr packet offset 4)

/-- The number of characters between the length field and the last one. -/
def countedLength (offset : ℕ) (packet : Str) : ℕ := (packet.drop (offset + 4)).dropLast.length

/-- The convention: the field counts what stands between it and the final '@'. -/
def Counts (offset : ℕ) (packet : Str) : Prop :=
  packet.getLast? = some (byte '@') ∧ statedLength offset packet = countedLength offset packet

/-- What stands before the length field. -/
def controlHeader (command channel id netId : Str) : Str :=
  str "$" ++ command ++ channel ++ id ++ netId ++ str "00"

theorem length_controlHeader {command : Str} (h : command.length = 2) (channel id netId : Str) :
    (controlHeader command channel id netId).length = lengthOffset channel id netId := by
  have h₁ : (str "$").length = 1 := rfl
  have h₂ : (str "00").length = 2 := rfl
  simp only [controlHeader,lengthOffset,List.length_append]
  omega

section Layout

variable {head field content : Str} {offset : ℕ} (hhead : head.length = offset)
  (hfield : field.length = 4)
include hhead hfield

theorem statedLength_append :
    statedLength offset (head ++ (field ++ (content ++ str "@"))) = readHex field := by
  rw [statedLength,substr_field hhead hfield]

theorem countedLength_append :
    countedLength offset (head ++ (field ++ (content ++ str "@"))) = content.length := by
  have hat : str "@" = [byte '@'] := rfl
  rw [countedLength,drop_field hhead hfield,hat,List.dropLast_concat]

theorem counts_append :
    Counts offset (head ++ (field ++ (content ++ str "@"))) ↔ readHex field = content.length := by
  have hat : str "@" = [byte '@'] := rfl
  have hlast : (head ++ (field ++ (content ++ str "@"))).getLast? = some (byte '@') := by
    simp [hat]
  rw [Counts,statedLength_append hhead hfield,countedLength_append hhead hfield]
  exact and_iff_right hlast

end Layout

/-- The text of a length field, as both functions print it into a buffer of 5 bytes. -/
def lenBuf (n : ℕ) : Str := snprintf 5 [hex04 n]

theorem hex04_eq (n : ℕ) : hex04 n = Numerals.padded 16 hexDigit 4 n := rfl

/-- What `change` appends is the numeral in upper-case hexadecimal digits, without zeros in front
and with the value it should have; padded by `build` it is what `%04X` prints. -/
theorem change_hex (n : ℕ) (s : Str) :
    (∃ t, change n s = s ++ t ∧ t ≠ [] ∧ (∀ c ∈ t, c ∈ str "0123456789ABCDEF") ∧
      (t.head? = some (byte '0') → n = 0 ∧ t = str "0") ∧ readHex t = n) ∧
    padLength (change n []) = hex04 n := by
  have hdigits : ∀ d < 16, hexDigit d ∈ str "0123456789ABCDEF" := by decide
  have hzero : ∀ d < 16, hexDigit d = byte '0' → d = 0 := by decide
  refine ⟨⟨Numerals.numeral 16 hexDigit n,change_eq n s,?_,?_,?_,?_⟩,?_⟩
  · exact List.length_pos_iff.mp (Numerals.length_numeral_pos 16 hexDigit n)
  · intro c hc
    obtain ⟨d,hd,rfl⟩ := Numerals.mem_numeral 16 hexDigit (by decide) hc
    exact hdigits d hd
  · intro hhead
    by_cases hn : n = 0
    · subst hn
      exact ⟨rfl,rfl⟩
    · obtain ⟨d,t,hd,hlt,heq⟩ := Numerals.numeral_leading 16 hexDigit (by decide) hn
      rw [heq,List.head?_cons,Option.some.injEq] at hhead
      exact absurd (hzero d hlt hhead) hd
  · exact Numerals.read_numeral hexValue_hexDigit (by decide) n
  · rw [change_eq,List.nil_append,hex04_eq]
    exact padLength_numeral n

theorem lenBuf_eq (n : ℕ) : lenBuf n = (Numerals.padded 16 hexDigit 4 n).take 4 := by
  have hnul := Numerals.not_mem_padded 16 hexDigit (by decide) hexDigit_ne_zero 4 n
  simp [lenBuf,snprintf,hex04_eq,cstr_of_no_nul hnul]

theorem length_lenBuf (n : ℕ) : (lenBuf n).length = 4 := by
  have h := Numerals.le_length_padded 16 hexDigit 4 n
  rw [lenBuf_eq,List.length_take]
  omega

theorem read_lenBuf {n : ℕ} (h : n < 65536) : readHex (lenBuf n) = n := by
  have hlen := Numerals.length_padded 16 hexDigit (n := n) (k := 4) (by decide) (by decide) h
  rw [lenBuf_eq,List.take_of_length_le (by omega)]
  exact Numerals.read_padded hexValue_hexDigit (by decide) 4 n

/-- Of five digits the buffer keeps the first four. -/
theorem read_lenBuf_cut {n : ℕ} (hge : 65536 ≤ n) (hlt : n < 1048576) :
    readHex (lenBuf n) = n / 16 := by
  have hstep := Numerals.numeral_step 16 hexDigit (n := n) (by decide) (by omega)
  have hfour : (Numerals.numeral 16 hexDigit (n / 16)).length = 4 :=
    Nat.le_antisymm (Numerals.length_numeral_le 16 hexDigit (by decide) (by decide) (by omega))
      (Numerals.lt_length_numeral 16 hexDigit (k := 3) (by decide) (by omega))
  rw [lenBuf_eq,Numerals.padded_of_le 16 hexDigit (by decide) (by omega),hstep,← hfour,List.take_left]
  exact Numerals.read_numeral hexValue_hexDigit (by decide) _

theorem read_lenBuf_lt (n : ℕ) : readHex (lenBuf n) < 65536 := by
  have hdigit : ∀ v ∈ (lenBuf n).reverse.map hexValue, v < 16 := by
    intro v hv
    obtain ⟨c,hc,rfl⟩ := List.mem_map.mp hv
    rw [List.mem_reverse,lenBuf_eq] at hc
    obtain ⟨d,hd,rfl⟩ := Numerals.mem_padded 16 hexDigit (by decide) (List.mem_of_mem_take hc)
    rw [hexValue_hexDigit d hd]
    exact hd
  have h := Nat.ofDigits_lt_base_pow_length (b := 16) (by decide) hdigit
  rw [List.length_map,List.length_reverse,length_lenBuf] at h
  exact h

/-- The widths that the protocol gives the fields of the control packets. -/
structure Widths (identity : DeviceIdentity) : Prop where
  id : identity.id.length = 2
  netId : identity.netId.length = 4
  mac : identity.mac.length = 16
  communicateStatus : identity.getCommunicateStatus.length = 6

section Packets

variable {identity : DeviceIdentity} (hw : Widths identity)
include hw

/-- The 01 packet counts 15 characters too many: its own '@' and 14 for the fields in front. -/
theorem registMessage_counts (deviceId : Int) (location : Str)
    (hcpu : identity.cpuOccupy.length = 4) :
    let offset := lengthOffset (toDecimal deviceId) identity.id identity.netId
    let packet := registMessage deviceId identity location
    countedLength offset packet = location.length + 29 ∧ ¬ Counts offset packet ∧
      (location.length + 44 < 65536 →
        statedLength offset packet = countedLength offset packet + 15) := by
  intro offset packet
  let head := controlHeader reqRegister (toDecimal deviceId) identity.id identity.netId
  let content := identity.mac ++ identity.getCommunicateStatus ++ str "010" ++ location ++
    identity.cpuOccupy
  have hhead : head.length = offset := length_controlHeader rfl _ _ _
  have hcontent : content.length = location.length + 29 := by
    have h : (str "010").length = 3 := rfl
    simp only [content,List.length_append,hw.mac,hw.communicateStatus,hcpu,h]
    omega
  have hpacket : packet = head ++ (lenBuf ((location.length + 44) % 4294967296) ++
      (content ++ str "@")) := by
    have hdata : (content ++ str "@").length + 14 = location.length + 44 := by
      rw [List.length_append,hcontent,length_at]
    rw [← hdata]
    simp [packet,head,controlHeader,content,lenBuf,registMessage,List.append_assoc]
  have hfour := length_lenBuf ((location.length + 44) % 4294967296)
  rw [hpacket,countedLength_append hhead hfour,statedLength_append hhead hfour,
    counts_append hhead hfour,hcontent]
  refine ⟨rfl,?_,?_⟩
  · intro heq
    have hlt := read_lenBuf_lt ((location.length + 44) % 4294967296)
    rw [heq] at hlt
    rw [Nat.mod_eq_of_lt (by omega)] at heq
    by_cases hsmall : location.length + 44 < 65536
    · rw [read_lenBuf hsmall] at heq
      omega
    · rw [read_lenBuf_cut (by omega) (by omega)] at heq
      omega
  · intro hsmall
    rw [Nat.mod_eq_of_lt (by omega),read_lenBuf hsmall]

/-- The 02 packet follows the convention. -/
theorem confirmMessage_counts (deviceId : Int) :
    Counts (lengthOffset (toDecimal deviceId) identity.id identity.netId)
      (confirmMessage deviceId identity) := by
  have hcommand : reqRegConfirm.length = 2 := rfl
  have hhead := length_controlHeader hcommand (toDecimal deviceId) identity.id identity.netId
  have hpacket : confirmMessage deviceId identity =
      controlHeader reqRegConfirm (toDecimal deviceId) identity.id identity.netId ++
        (str "0012" ++ ((identity.mac ++ identity.id) ++ str "@")) := by
    simp [controlHeader,confirmMessage,List.append_assoc]
  rw [hpacket,counts_append hhead rfl,List.length_append,hw.mac,hw.id]
  decide

/-- The heartbeat counts 7 characters too many: the channel and the ids in front. -/
theorem buildHeartbeat_counts (cpuMem : Str) {activeId : Int} (hid : activeId < 2147483648)
    (queueDepth : ℕ) (gpsFailed : Bool) :
    let offset := lengthOffset (communicateType activeId) (cstr identity.id) (cstr identity.netId)
    let packet := buildHeartbeat identity cpuMem activeId queueDepth gpsFailed
    statedLength offset packet = countedLength offset packet + 7 ∧ ¬ Counts offset packet := by
  intro offset packet
  let content := snprintf 20 [cpuMem,identity.getCommunicateStatus,dec04 (toInt32 queueDepth),
    toDecimal (if gpsFailed then 0 else 1)]
  let head := controlHeader (str "EF") (communicateType activeId) (cstr identity.id) (cstr identity.netId)
  have hcontent : cstr content = content := cstr_snprintf _ _
  have hshort : content.length ≤ 19 := length_snprintf_le _ _
  have hfour := length_lenBuf (content.length + 7)
  have hhead : head.length = offset := length_controlHeader rfl _ _ _
  have hprinted : [str "$EF",communicateType activeId,identity.id,identity.netId,str "00",
      lenBuf (content.length + 7),content,str "@"].flatMap cstr =
        head ++ (lenBuf (content.length + 7) ++ (content ++ str "@")) := by
    have hlit (s : Str) (hs : (0 : UInt8) ∉ s) : cstr s = s := cstr_of_no_nul hs
    simp only [List.flatMap_cons,List.flatMap_nil,List.append_nil,head,controlHeader,List.append_assoc,hcontent,
      hlit _ (communicateType_no_nul activeId),hlit (str "$EF") (by decide),
      hlit (str "00") (by decide),hlit (str "@") (by decide),lenBuf,cstr_snprintf]
    rfl
  have hpacket : packet = head ++ (lenBuf (content.length + 7) ++ (content ++ str "@")) := by
    have hfits : (head ++ (lenBuf (content.length + 7) ++ (content ++ str "@"))).length ≤ 255 := by
      have htype := length_communicateType_le (show 0 < 10 by decide) (show activeId < 10^10 by omega)
      have hidle : (cstr identity.id).length ≤ 2 := hw.id ▸ length_cstr_le _
      have hnet : (cstr identity.netId).length ≤ 4 := hw.netId ▸ length_cstr_le _
      simp only [List.length_append,hhead,offset,lengthOffset,hfour,length_at]
      omega
    show snprintf 256 [str "$EF",communicateType activeId,identity.id,identity.netId,str "00",
      lenBuf ((cstr content).length + 7),content,str "@"] = _
    rw [hcontent,snprintf,hprinted,List.take_of_length_le hfits]
  have hread : readHex (lenBuf (content.length + 7)) = content.length + 7 := read_lenBuf (by omega)
  rw [hpacket,countedLength_append hhead hfour,statedLength_append hhead hfour,
    counts_append hhead hfour,hread]
  exact ⟨rfl,by omega⟩

/-- Of the three packets only 02 follows the convention, whatever the context. -/
theorem control_lengths (deviceId activeId : Int) (location cpuMem : Str) (queueDepth : ℕ)
    (gpsFailed : Bool) (hcpu : identity.cpuOccupy.length = 4) (hid : activeId < 2147483648) :
    let regist := registMessage deviceId identity location
    let confirm := confirmMessage deviceId identity
    let heartbeat := buildHeartbeat identity cpuMem activeId queueDepth gpsFailed
    let offset := lengthOffset (toDecimal deviceId) identity.id identity.netId
    let offsetEF := lengthOffset (communicateType activeId) (cstr identity.id) (cstr identity.netId)
    (¬ Counts offset regist ∧ (location.length + 44 < 65536 →
      statedLength offset regist = countedLength offset regist + 15)) ∧ Counts offset confirm ∧
    (¬ Counts offsetEF heartbeat ∧
      statedLength offsetEF heartbeat = countedLength offsetEF heartbeat + 7) := by
  have hregist := registMessage_counts hw deviceId location hcpu
  have hheartbeat := buildHeartbeat_counts hw cpuMem hid queueDepth gpsFailed
  exact ⟨hregist.2,confirmMessage_counts hw deviceId,hheartbeat.symm⟩

end Packets

/-- The device of the log before it is registered. -/
def unregistered : DeviceIdentity :=
  { mac := str "SAP2400000000000", cpuOccupy := str "0114", communicateStatus := str "110100" }

theorem unregistered_widths : Widths unregistered := by constructor <;> rfl

theorem logged_lengths :
    let regist := registMessage 4 unregistered (str "NFFFFEFFFFF")
    ¬ Counts 12 regist ∧ statedLength 12 regist = countedLength 12 regist + 15 := by
  have h := control_lengths unregistered_widths 4 4 (str "NFFFFEFFFFF") (str "0114") 0 true rfl
    (by decide)
  exact ⟨h.1.1,h.1.2 (by decide)⟩

/-- The 01 packet in the log says 55 characters; there are 40. -/
theorem logged_regist_miscounts : ¬ ∀ (identity : DeviceIdentity) (deviceId activeId : Int)
    (location cpuMem : Str) (queueDepth : ℕ) (gpsFailed : Bool), Widths identity →
    identity.cpuOccupy.length = 4 → cpuMem.length = 4 → activeId < 2147483648 →
    Counts (lengthOffset (toDecimal deviceId) identity.id identity.netId)
        (registMessage deviceId identity location) ∧
      Counts (lengthOffset (toDecimal deviceId) identity.id identity.netId)
        (confirmMessage deviceId identity) ∧
      Counts (lengthOffset (communicateType activeId) (cstr identity.id) (cstr identity.netId))
        (buildHeartbeat identity cpuMem activeId queueDepth gpsFailed) := by
  intro hall
  have h := hall unregistered 4 4 (str "NFFFFEFFFFF") (str "0114") 0 true unregistered_widths rfl rfl
    (by decide)
  exact (registMessage_counts unregistered_widths 4 _ rfl).2.1 h.1

end ControlPackets
end Sap9001
