import Sap9001.HJ212Builder

/-! The HJ212 packet around a data segment (`protocol/hj212.cpp`) and how it is carried in
the 06 packet. -/
namespace Sap9001
namespace HJ212

open HJ212PacketBuilder

def ensureLen4 (param : Int) : Str :=
  if param < 0 then str "0000"
  else
    let s := toDecimal param
    if param < 10 then str "000" ++ s
    else if param < 100 then str "00" ++ s
    else if param < 1000 then str "0" ++ s
    -- From 10000 on the source only adds a warning.
    else s

/-- The digits that `%x` prints. -/
def lowerHexDigit (d : ℕ) : UInt8 := if d < 10 then 48 + d.toUInt8 else 87 + d.toUInt8

/-- What `%x` prints. -/
def printHex (n : ℕ) : Str := Numerals.numeral 16 lowerHexDigit n

def ensureCrc4Packet (crc : UInt32) (lenStr data : Str) : Str :=
  let totalLen := 2048
  if crc > 4095 then snprintf totalLen [str "##",lenStr,data,printHex crc.toNat]
  else if crc > 255 then snprintf totalLen [str "##",lenStr,data,str "0",printHex crc.toNat]
  else if crc > 15 then snprintf totalLen [str "##",lenStr,data,str "00",printHex crc.toNat]
  else snprintf totalLen [str "##",lenStr,data,str "000",printHex crc.toNat]

/-- One round of the inner loop of `CRC16_Checkout`. -/
def crcBit (crcReg : UInt32) : UInt32 :=
  let check := crcReg &&& 0x0001
  let crcReg := crcReg >>> 1
  if check = 0x0001 then crcReg ^^^ 0xA001 else crcReg

/-- One round of the outer loop. -/
def crcByte (crcReg : UInt32) (c : UInt8) : UInt32 := crcBit^[8] (crcReg >>> 8 ^^^ c.toUInt32)

def crc16Checkout (puchMsg : Str) (usDataLen : ℕ) : UInt32 :=
  (puchMsg.take usDataLen).foldl crcByte 0xFFFF

/-- The first line of `hj_mn.txt`, of which `fscanf` takes 99 characters; `none` is a file that
cannot be opened. -/
def getMN (file : Option Str) : Str :=
  let temp := str "0000000000000000"
  match file with
  | none => temp
  | some content =>
    let c := (content.takeWhile (· ≠ byte '\n')).take 99
    if c = [] then temp else cstr c

/-- The packaging of a data segment in `SensorDriver::run`. -/
def hj212Packet (dataSegment : Str) : Str :=
  ensureCrc4Packet (crc16Checkout dataSegment dataSegment.length)
    (ensureLen4 (toInt32 dataSegment.length)) dataSegment

/-- The value of a hexadecimal digit of either case. -/
def hexDigitValue (c : UInt8) : ℕ := if c.toNat < 97 then hexValue c else c.toNat - 87

def isHexDigit (c : UInt8) : Bool :=
  isDigit c || (65 ≤ c && c ≤ 70) || (97 ≤ c && c ≤ 102)

def readDecimal (s : Str) : ℕ := Numerals.read 10 hexValue s

def readHexDigits (s : Str) : ℕ := Numerals.read 16 hexDigitValue s

theorem hexDigitValue_lowerHexDigit : ∀ d < 16, hexDigitValue (lowerHexDigit d) = d := by decide

theorem isHexDigit_lowerHexDigit : ∀ d < 16, isHexDigit (lowerHexDigit d) := by decide

theorem lowerHexDigit_ne_zero : ∀ d < 16, lowerHexDigit d ≠ 0 := by decide

theorem isDigit_hexDigit : ∀ d < 10, isDigit (hexDigit d) := by decide

@[simp] theorem length_mark : (str "##").length = 2 := rfl

/-- The four digits that `ensureLen_4` aims at. -/
def lenDigits (n : ℕ) : Str := Numerals.padded 10 hexDigit 4 n

/-- The four digits of the checksum. -/
def crcDigits (crc : UInt32) : Str := Numerals.padded 16 lowerHexDigit 4 crc.toNat

/-- The five ranges of `ensureLen_4` are one rule. -/
theorem ensureLen4_eq (n : ℕ) : ensureLen4 n = lenDigits n := by
  have hdecimal : toDecimal n = Numerals.numeral 10 hexDigit n := by simp [toDecimal]
  have hcases : n < 10 ∨ (10 ≤ n ∧ n < 100) ∨ (100 ≤ n ∧ n < 1000) ∨ (1000 ≤ n ∧ n < 10000) ∨
      10000 ≤ n := by omega
  simp only [ensureLen4,hdecimal,lenDigits]
  rcases hcases with h | h | h | h | h
  · rw [if_neg (by omega),if_pos (by omega),
      Numerals.padded_of_lt (d := 0) 10 hexDigit (by decide) (by omega) (by omega)]
    rfl
  · rw [if_neg (by omega),if_neg (by omega),if_pos (by omega),
      Numerals.padded_of_lt (d := 1) 10 hexDigit (by decide) (by omega) (by omega)]
    rfl
  · rw [if_neg (by omega),if_neg (by omega),if_neg (by omega),if_pos (by omega),
      Numerals.padded_of_lt (d := 2) 10 hexDigit (by decide) (by omega) (by omega)]
    rfl
  · rw [if_neg (by omega),if_neg (by omega),if_neg (by omega),if_neg (by omega),
      Numerals.padded_of_lt (d := 3) 10 hexDigit (by decide) (by omega) (by omega)]
    rfl
  · rw [if_neg (by omega),if_neg (by omega),if_neg (by omega),if_neg (by omega),
      Numerals.padded_of_le 10 hexDigit (by decide) (by omega)]

theorem length_getMN (file : Option Str) : (getMN file).length ≤ 99 := by
  have hdefault : (str "0000000000000000").length ≤ 99 := by decide
  cases file with
  | none => exact hdefault
  | some content =>
    simp only [getMN]
    split_ifs
    · exact hdefault
    · exact Nat.le_trans (length_cstr_le _) (List.length_take_le _ _)

theorem getMN_no_nul (file : Option Str) : (0 : UInt8) ∉ getMN file := by
  have hdefault : (0 : UInt8) ∉ str "0000000000000000" := by decide
  cases file with
  | none => exact hdefault
  | some content =>
    simp only [getMN]
    split_ifs
    · exact hdefault
    · exact cstr_no_nul _

theorem lenDigits_no_nul (n : ℕ) : (0 : UInt8) ∉ lenDigits n :=
  Numerals.not_mem_padded 10 hexDigit (by decide) (fun d hd => hexDigit_ne_zero d (by omega)) 4 n

theorem crcDigits_no_nul (crc : UInt32) : (0 : UInt8) ∉ crcDigits crc :=
  Numerals.not_mem_padded 16 lowerHexDigit (by decide) lowerHexDigit_ne_zero 4 crc.toNat

theorem printHex_no_nul (n : ℕ) : (0 : UInt8) ∉ printHex n :=
  Numerals.not_mem_numeral 16 lowerHexDigit (by decide) lowerHexDigit_ne_zero n

/-- The four ranges of `ensure_crc4_packet` are one rule. -/
theorem ensureCrc4Packet_eq (crc : UInt32) {lenStr : Str} (hlen : (0 : UInt8) ∉ lenStr)
    (data : Str) : ensureCrc4Packet crc lenStr data =
      (str "##" ++ (lenStr ++ (cstr data ++ crcDigits crc))).take 2047 := by
  have hbegins : cstr (str "##") = str "##" := rfl
  have hhex := cstr_of_no_nul (printHex_no_nul crc.toNat)
  have hcases : crc.toNat < 16 ∨ (16 ≤ crc.toNat ∧ crc.toNat < 256) ∨
      (256 ≤ crc.toNat ∧ crc.toNat < 4096) ∨ 4096 ≤ crc.toNat := by omega
  simp only [ensureCrc4Packet,gt_iff_lt,UInt32.lt_iff_toNat_lt,UInt32.reduceToNat,snprintf,
    List.flatMap_cons,List.flatMap_nil,List.append_nil,hbegins,hhex,cstr_of_no_nul hlen,crcDigits]
  rcases hcases with h | h | h | h
  · rw [if_neg (by omega),if_neg (by omega),if_neg (by omega),
      Numerals.padded_of_lt (d := 0) 16 lowerHexDigit (by decide) (by omega) (by omega)]
    rfl
  · rw [if_neg (by omega),if_neg (by omega),if_pos (by omega),
      Numerals.padded_of_lt (d := 1) 16 lowerHexDigit (by decide) (by omega) (by omega)]
    rfl
  · rw [if_neg (by omega),if_pos (by omega),
      Numerals.padded_of_lt (d := 2) 16 lowerHexDigit (by decide) (by omega) (by omega)]
    rfl
  · have hpadded : Numerals.padded 16 lowerHexDigit 4 crc.toNat = printHex crc.toNat := by
      by_cases hfive : crc.toNat < 65536
      · exact Numerals.padded_of_lt (d := 3) 16 lowerHexDigit (by decide) (by omega) (by omega)
      · exact Numerals.padded_of_le 16 lowerHexDigit (by decide) (by omega)
    rw [if_pos (by omega),hpadded]

theorem crcBit_lt {crcReg : UInt32} (h : crcReg.toNat < 2^16) : (crcBit crcReg).toNat < 2^16 := by
  have hshift : crcReg.toNat >>> 1 < 2^16 := by
    rw [Nat.shiftRight_eq_div_pow]
    omega
  simp only [crcBit]
  split_ifs
  · simpa using Nat.xor_lt_two_pow hshift (by decide : 0xA001 < 2^16)
  · simpa using hshift

theorem crcByte_lt {crcReg : UInt32} (h : crcReg.toNat < 2^16) (c : UInt8) :
    (crcByte crcReg c).toNat < 2^16 := by
  have hshift : crcReg.toNat >>> 8 < 2^16 := by
    rw [Nat.shiftRight_eq_div_pow]
    omega
  have hc : c.toNat < 2^16 := by
    have := c.toNat_lt
    omega
  have hstart : (crcReg >>> 8 ^^^ c.toUInt32).toNat < 2^16 := by
    simpa using Nat.xor_lt_two_pow hshift hc
  have hrounds (n : ℕ) : (crcBit^[n] (crcReg >>> 8 ^^^ c.toUInt32)).toNat < 2^16 := by
    induction n with
    | zero => exact hstart
    | succ n ih =>
      rw [Function.iterate_succ_apply']
      exact crcBit_lt ih
  exact hrounds 8

/-- The register of the bit loop never leaves 16 bits. -/
theorem crc16Checkout_lt (puchMsg : Str) (usDataLen : ℕ) :
    (crc16Checkout puchMsg usDataLen).toNat < 2^16 := by
  have hfold (msg : Str) (crcReg : UInt32) (h : crcReg.toNat < 2^16) :
      (msg.foldl crcByte crcReg).toNat < 2^16 := by
    induction msg generalizing crcReg with
    | nil => exact h
    | cons c msg ih => exact ih _ (crcByte_lt h c)
  exact hfold _ _ (by decide)

/-- The length field that is computed for a data segment. -/
def lenField (dataSegment : Str) : Str := ensureLen4 (toInt32 dataSegment.length)

theorem lenField_eq {D : Str} (h : D.length < 2147483648) : lenField D = lenDigits D.length := by
  rw [lenField,toInt32_of_lt h,ensureLen4_eq]

theorem lenField_no_nul (D : Str) : (0 : UInt8) ∉ lenField D := by
  by_cases h : toInt32 D.length < 0
  · rw [lenField,ensureLen4,if_pos h]
    decide
  · obtain ⟨n,hn⟩ := Int.eq_ofNat_of_zero_le (not_lt.mp h)
    rw [lenField,hn]
    exact ensureLen4_eq n ▸ lenDigits_no_nul n

theorem length_lenField (D : Str) : 4 ≤ (lenField D).length := by
  by_cases h : toInt32 D.length < 0
  · rw [lenField,ensureLen4,if_pos h]
    decide
  · obtain ⟨n,hn⟩ := Int.eq_ofNat_of_zero_le (not_lt.mp h)
    rw [lenField,hn]
    exact ensureLen4_eq n ▸ Numerals.le_length_padded 10 hexDigit 4 n

/-- The four layers of formatting of a HJ212 packet, with the data up to their first NUL. -/
theorem hj212Packet_eq (D : Str) : hj212Packet D =
    (str "##" ++ (lenField D ++ (cstr D ++ crcDigits (crc16Checkout D D.length)))).take 2047 :=
  ensureCrc4Packet_eq _ (lenField_no_nul D) D

section Fits

variable {D : Str}

theorem length_lenDigits (hlen : D.length < 10000) : (lenDigits D.length).length = 4 :=
  Numerals.length_padded 10 hexDigit (by decide) (by decide) (by omega)

theorem length_crcDigits (D : Str) : (crcDigits (crc16Checkout D D.length)).length = 4 :=
  Numerals.length_padded 16 lowerHexDigit (by decide) (by decide) (crc16Checkout_lt D D.length)

variable (hD : (0 : UInt8) ∉ D) (hlen : D.length ≤ 2037)
include hD hlen

theorem hj212Packet_of_fits : hj212Packet D =
    str "##" ++ (lenDigits D.length ++ (D ++ crcDigits (crc16Checkout D D.length))) := by
  rw [hj212Packet_eq,cstr_of_no_nul hD,lenField_eq (by omega)]
  refine List.take_of_length_le ?_
  simp only [List.length_append,length_lenDigits (show D.length < 10000 by omega),length_crcDigits,
    length_mark]
  omega

theorem length_hj212Packet : (hj212Packet D).length = D.length + 10 := by
  simp only [hj212Packet_of_fits hD hlen,List.length_append,length_crcDigits,length_mark,
    length_lenDigits (show D.length < 10000 by omega)]
  omega

theorem hj212Packet_no_nul : (0 : UInt8) ∉ hj212Packet D := by
  rw [hj212Packet_of_fits hD hlen]
  have hmark : (0 : UInt8) ∉ str "##" := by decide
  simp [hmark,lenDigits_no_nul,hD,crcDigits_no_nul]

end Fits

/-- The HJ212 packet has all of its data segment, followed by the four digits of the checksum. -/
def Complete (packet D : Str) : Prop :=
  packet = str "##" ++ (lenField D ++ (D ++ crcDigits (crc16Checkout D D.length)))

theorem complete_iff (D : Str) :
    Complete (hj212Packet D) D ↔ (0 : UInt8) ∉ D ∧ D.length ≤ 2037 := by
  constructor
  · intro h
    rw [Complete,hj212Packet_eq] at h
    constructor
    · intro hnul
      have hmem : (0 : UInt8) ∈ str "##" ++ (lenField D ++ (cstr D ++
          crcDigits (crc16Checkout D D.length))) := by
        apply List.mem_of_mem_take
        rw [h]
        simp [hnul]
      have hmark : (0 : UInt8) ∉ str "##" := by decide
      simp [hmark,lenField_no_nul,crcDigits_no_nul,cstr_no_nul] at hmem
    · have hlen := congrArg List.length h
      have hfield := length_lenField D
      simp only [List.length_take,List.length_append,length_crcDigits,length_mark] at hlen
      omega
  · rintro ⟨hD,hlen⟩
    rw [Complete,hj212Packet_of_fits hD hlen,lenField_eq (by omega)]

section Carried

variable {D portInfo cpuOccupy : Str} {identity : DeviceIdentity} {activeId : Int}
  {pool : MemoryPool 8} (hD : (0 : UInt8) ∉ D) (hlen : D.length ≤ 1975) (hport : Field 3 portInfo)
  (hw : ContextWidths identity cpuOccupy activeId) (hpool : pool.freeList ≠ [])
include hD hlen hport hw hpool

/-- A HJ212 packet is carried whole, behind 61 characters. -/
theorem packet06_hj212Packet (location : Str) : ∃ pre : Str, pre.length = 61 ∧
    pre.take 3 = str "$06" ∧
    (packet06 identity cpuOccupy location activeId pool (hj212Packet D) portInfo).1 =
      pre ++ (hj212Packet D ++ str "@") := by
  have hwidths := hw.protocolWidths hport location (hj212Packet D)
  have hdata := length_hj212Packet hD (by omega)
  have hfour := (lenStr_spec (b := ofContext identity cpuOccupy location (hj212Packet D) portInfo)
    (by show (hj212Packet D).length ≤ 2047; omega)).1
  have hpre := length_preamble hwidths hfour
  have hself : cstr (hj212Packet D) = hj212Packet D :=
    cstr_of_no_nul (hj212Packet_no_nul hD (by omega))
  refine ⟨_,hpre,preamble_take hwidths,?_⟩
  have hbuild := build_of_printed hpool hwidths (by
    show (_ ++ (cstr (hj212Packet D) ++ str "@")).length ≤ 2047
    simp only [hself,List.length_append,hpre,hdata,length_at]
    omega)
  rw [packet06_eq,hbuild]
  show _ ++ (cstr (hj212Packet D) ++ str "@") = _
  rw [hself]

/-- A receiver finds the data segment and its checksum at fixed places of the packet. -/
theorem hj212_in_06_decodable (location : Str) : ∃ P : Str,
    (packet06 identity cpuOccupy location activeId pool (hj212Packet D) portInfo).1 = P ∧
    P.length = D.length + 72 ∧ P.take 3 = str "$06" ∧ P.getLast? = some (byte '@') ∧
    substr P 61 2 = str "##" ∧
    (∀ c ∈ substr P 63 4, isDigit c) ∧ readDecimal (substr P 63 4) = D.length ∧
    substr P 67 D.length = D ∧
    (∀ c ∈ substr P (67 + D.length) 4, isHexDigit c) ∧
    readHexDigits (substr P (67 + D.length) 4) = (crc16Checkout D D.length).toNat := by
  obtain ⟨pre,hpre,hcommand,hP⟩ := packet06_hj212Packet hD hlen hport hw hpool location
  have hdigits := length_lenDigits (show D.length < 10000 by omega)
  have hcrc := length_crcDigits D
  have hparts := hj212Packet_of_fits hD (show D.length ≤ 2037 by omega)
  set L := lenDigits D.length with hL
  set C := crcDigits (crc16Checkout D D.length) with hC
  refine ⟨_,hP,?_,?_,?_,?_⟩
  · simp only [List.length_append,hpre,length_at,length_hj212Packet hD (show D.length ≤ 2037 by omega)]
    omega
  · rw [List.take_append_of_le_length (by omega),hcommand]
  · rw [← List.append_assoc]
    exact List.getLast?_concat
  rw [hparts]
  -- The four pieces of the HJ212 packet, each behind what stands before it.
  have h₁ : substr (pre ++ (str "##" ++ (L ++ (D ++ C)) ++ str "@")) 61 2 = str "##" := by
    have h := substr_field hpre length_mark (L ++ (D ++ C) ++ str "@")
    simpa only [List.append_assoc] using h
  have h₂ : substr (pre ++ (str "##" ++ (L ++ (D ++ C)) ++ str "@")) 63 4 = L := by
    have hat : (pre ++ str "##").length = 63 := by rw [List.length_append,hpre,length_mark]
    have h := substr_field hat hdigits (D ++ C ++ str "@")
    simpa only [List.append_assoc] using h
  have h₃ : substr (pre ++ (str "##" ++ (L ++ (D ++ C)) ++ str "@")) 67 D.length = D := by
    have hat : (pre ++ str "##" ++ L).length = 67 := by
      simp only [List.length_append,hpre,length_mark,hdigits]
    have h := substr_field hat (Eq.refl D.length) (C ++ str "@")
    simpa only [List.append_assoc] using h
  have h₄ : substr (pre ++ (str "##" ++ (L ++ (D ++ C)) ++ str "@")) (67 + D.length) 4 = C := by
    have hat : (pre ++ str "##" ++ L ++ D).length = 67 + D.length := by
      simp only [List.length_append,hpre,length_mark,hdigits]
    have h := substr_field hat hcrc (str "@")
    simpa only [List.append_assoc] using h
  rw [h₁,h₂,h₃,h₄]
  refine ⟨rfl,?_,?_,rfl,?_,?_⟩
  · intro c hc
    obtain ⟨d,hd,rfl⟩ := Numerals.mem_padded 10 hexDigit (by decide) hc
    exact isDigit_hexDigit d hd
  · exact Numerals.read_padded (fun d hd => hexValue_hexDigit d (by omega)) (by decide) 4 D.length
  · intro c hc
    obtain ⟨d,hd,rfl⟩ := Numerals.mem_padded 16 lowerHexDigit (by decide) hc
    exact isHexDigit_lowerHexDigit d hd
  · exact Numerals.read_padded hexDigitValue_lowerHexDigit (by decide) 4 _

end Carried

theorem loggedIdentity_widths : ContextWidths loggedIdentity (str "0914") 4 := by
  constructor <;> decide

/-- A short measurement of the registered device in the log. -/
theorem logged_segment_decodable : ∃ P : Str, (packet06 loggedIdentity (str "0914")
    (str "NFFFFEFFFFF") 4 (.new 8) (hj212Packet (str "QN=20240508;CP=&&&&")) (str "100")).1 = P ∧
    P.length = 91 ∧ substr P 67 19 = str "QN=20240508;CP=&&&&" := by
  obtain ⟨P,hP,hlen,-,-,-,-,-,hdata,-⟩ := hj212_in_06_decodable
    (D := str "QN=20240508;CP=&&&&") (by decide) (by decide) (show Field 3 (str "100") by decide)
    loggedIdentity_widths (show (MemoryPool.new 8).freeList ≠ [] by decide) (str "NFFFFEFFFFF")
  exact ⟨P,hP,hlen,hdata⟩

/-- A packet of any data is refused or whole exactly when no block is free, the printed length
is no `int`, or the data have no NUL and leave room for the other fields; a HJ212 packet is
whole under the bound of its own buffer. -/
theorem undamaged_iff {b : HJ212PacketBuilder} {activeId : Int} (hw : b.ProtocolWidths activeId)
    (pool : MemoryPool 8) (D : Str) :
    (((b.build activeId pool).1 = [] ∨ Carries (b.build activeId pool).1 b.data) ↔
      (pool.freeList = [] ∨ 2147483648 ≤ (cstr b.data).length + b.lenStr.length + 58 ∨
        ((0 : UInt8) ∉ b.data ∧ b.data.length ≤ 1985))) ∧
    (Complete (hj212Packet D) D ↔ (0 : UInt8) ∉ D ∧ D.length ≤ 2037) := by
  refine ⟨?_,complete_iff D⟩
  have hrefused := build_eq_nil_iff hw pool
  by_cases hpool : pool.freeList = []
  · simp [hrefused,hpool]
  by_cases hsize : 2147483648 ≤ (cstr b.data).length + b.lenStr.length + 58
  · simp [hrefused,hsize]
  have hcarries := carries_iff hpool hw (not_le.mp hsize)
  simp [hrefused,hcarries,hpool,hsize]

/-- Three bytes from the serial port, the last of them a NUL. -/
def serialBuilder : HJ212PacketBuilder :=
  ofContext loggedIdentity (str "0914") (str "NFFFFEFFFFF") (str "##" ++ [0]) (str "100")

theorem serialBuilder_widths : serialBuilder.ProtocolWidths 4 :=
  loggedIdentity_widths.protocolWidths (show Field 3 (str "100") by decide) _ _

/-- The NUL is missing from the packet, which is sent all the same. -/
theorem serial_data_damaged : ¬ ∀ (b : HJ212PacketBuilder) (activeId : Int) (pool : MemoryPool 8)
    (D : Str), b.ProtocolWidths activeId →
    ((b.build activeId pool).1 = [] ∨ Carries (b.build activeId pool).1 b.data) ∧
      Complete (hj212Packet D) D := by
  intro hall
  have hfree : (MemoryPool.new 8).freeList ≠ [] := by decide
  have hfour := (lenStr_spec (b := serialBuilder) (by decide)).1
  have hsize : (cstr serialBuilder.data).length + serialBuilder.lenStr.length + 58 <
      2147483648 := by
    rw [hfour]
    decide
  rcases (hall serialBuilder 4 (.new 8) [] serialBuilder_widths).1 with hrefused | hcarries
  · rcases (build_eq_nil_iff serialBuilder_widths _).mp hrefused with h | h
    · exact hfree h
    · omega
  · have hnul := ((carries_iff hfree serialBuilder_widths hsize).mp hcarries).1
    exact hnul (by decide)

theorem logged_packet_undamaged :
    ((loggedBuilder.build 4 (.new 8)).1 = [] ∨
      Carries (loggedBuilder.build 4 (.new 8)).1 loggedBuilder.data) ∧
    Complete (hj212Packet (str "QN=20240508;CP=&&&&")) (str "QN=20240508;CP=&&&&") := by
  have h := undamaged_iff loggedBuilder_widths (.new 8) (str "QN=20240508;CP=&&&&")
  exact ⟨h.1.mpr (.inr (.inr (by decide))),h.2.mpr (by decide)⟩

end HJ212
end Sap9001
