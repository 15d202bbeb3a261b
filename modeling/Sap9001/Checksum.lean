import Sap9001.HJ212
import Sap9001.Library.StepSystem

/-! The checksum of the HJ212 packet (`CRC16_Checkout` in `protocol/hj212.cpp`) against errors in
one byte. Each byte is combined with the upper half of the register only, so what matters is how the
eight rounds act on that half. -/
namespace Sap9001
namespace HJ212

/-- The upper half of the register. -/
def high (crcReg : UInt32) : UInt8 := (crcReg >>> 8).toUInt8

/-- The round of the inner loop backwards. -/
def crcUnbit (crcReg : UInt32) : UInt32 :=
  if crcReg &&& 0x8000 = 0x8000 then (crcReg ^^^ 0xA001) <<< 1 ||| 1 else crcReg <<< 1

/-- The upper half after the eight rounds on a byte. -/
def crcHigh (x : UInt8) : UInt8 := high (crcBit^[8] x.toUInt32)

/-- The eight rounds backwards from an upper half: it tells which of them met a set bit. -/
def crcBack (h : UInt8) : UInt8 := (crcUnbit^[8] (h.toUInt32 <<< 8)).toUInt8

theorem crcBack_crcHigh : ∀ n < 256, crcBack (crcHigh n.toUInt8) = n.toUInt8 := by
  decide +kernel

theorem crcHigh_injective : Function.Injective crcHigh := by
  refine Function.LeftInverse.injective (g := crcBack) fun x => ?_
  have hx := crcBack_crcHigh x.toNat x.toNat_lt
  rwa [Nat.toUInt8_eq,UInt8.ofNat_toNat] at hx

/-- What one byte does to the upper half. -/
def highStep (h c : UInt8) : UInt8 := crcHigh (h ^^^ c)

theorem xor_right_injective (c : UInt8) : Function.Injective (· ^^^ c) := by
  intro a b h
  have h' := congrArg (· ^^^ c) h
  simpa [UInt8.xor_assoc] using h'

theorem highStep_injective (c : UInt8) : Function.Injective (highStep · c) :=
  crcHigh_injective.comp (xor_right_injective c)

theorem highStep_label (h : UInt8) : Function.Injective (highStep h) := by
  intro a b hab
  have hxor : h ^^^ a = h ^^^ b := crcHigh_injective hab
  rw [UInt8.xor_comm h a,UInt8.xor_comm h b] at hxor
  exact xor_right_injective h hxor

/-- The register after a byte depends on the upper half before it only. -/
theorem crcByte_eq {crcReg : UInt32} (h : crcReg.toNat < 2^16) (c : UInt8) :
    crcByte crcReg c = crcBit^[8] (high crcReg ^^^ c).toUInt32 := by
  have hlow : (crcReg >>> 8).toUInt8.toUInt32 = crcReg >>> 8 := by
    have hlt : crcReg.toNat >>> 8 < 256 := by
      rw [Nat.shiftRight_eq_div_pow]
      omega
    rw [← UInt32.toNat_inj]
    simpa using hlt
  have hstart : crcReg >>> 8 ^^^ c.toUInt32 = (high crcReg ^^^ c).toUInt32 := by
    rw [UInt8.toUInt32_xor,high,hlow]
  rw [crcByte,hstart]

/-- The outer loop on the upper half of the register. -/
theorem high_crcByte {crcReg : UInt32} (h : crcReg.toNat < 2^16) (c : UInt8) :
    high (crcByte crcReg c) = highStep (high crcReg) c := by
  rw [crcByte_eq h]
  rfl

theorem high_foldl (msg : Str) {crcReg : UInt32} (h : crcReg.toNat < 2^16) :
    high (msg.foldl crcByte crcReg) = msg.foldl highStep (high crcReg) := by
  induction msg generalizing crcReg with
  | nil => rfl
  | cons c msg ih =>
    rw [List.foldl_cons,List.foldl_cons,ih (crcByte_lt h c),high_crcByte h]

/-- Messages of one length that differ at position `i` only. -/
def DifferAt (i : ℕ) (a b : Str) : Prop :=
  a.length = b.length ∧ i < a.length ∧ a[i]? ≠ b[i]? ∧ ∀ j, j ≠ i → a[j]? = b[j]?

theorem DifferAt.split {i : ℕ} {a b : Str} (h : DifferAt i a b) :
    ∃ pre post c d, c ≠ d ∧ a = pre ++ c::post ∧ b = pre ++ d::post := by
  obtain ⟨hlen,hi,hne,hsame⟩ := h
  have hib : i < b.length := hlen ▸ hi
  have hpre : b.take i = a.take i := by
    refine List.ext_getElem? fun j => ?_
    rw [List.getElem?_take,List.getElem?_take]
    split_ifs with hj
    · exact (hsame j (by omega)).symm
    · rfl
  have hpost : b.drop (i+1) = a.drop (i+1) := by
    refine List.ext_getElem? fun j => ?_
    rw [List.getElem?_drop,List.getElem?_drop]
    exact (hsame _ (by omega)).symm
  refine ⟨a.take i,a.drop (i+1),a[i],b[i],?_,?_,?_⟩
  · simpa [List.getElem?_eq_getElem,hi,hib] using hne
  · rw [List.cons_getElem_drop_succ,List.take_append_drop]
  · rw [← hpre,← hpost,List.cons_getElem_drop_succ,List.take_append_drop]

/-- The checksum tells messages that differ in one byte apart, and fits 16 bits. -/
theorem crc_detects_single_byte (a b : Str) :
    ((∃ i, DifferAt i a b) → crc16Checkout a a.length ≠ crc16Checkout b b.length) ∧
      crc16Checkout a a.length ≤ 0xFFFF := by
  constructor
  · rintro ⟨i,h⟩ heq
    obtain ⟨pre,post,c,d,hcd,ha,hb⟩ := h.split
    have hhigh : high (a.foldl crcByte 0xFFFF) = high (b.foldl crcByte 0xFFFF) := by
      simpa [crc16Checkout] using congrArg high heq
    rw [high_foldl a (by decide),high_foldl b (by decide),ha,hb] at hhigh
    exact StepSystem.foldl_ne_of_label highStep_injective highStep_label pre post hcd _ hhigh
  · have hlt := crc16Checkout_lt a a.length
    rw [UInt32.le_iff_toNat_le]
    exact Nat.le_of_lt_succ hlt

/-- One digit of a reading is another. -/
theorem digit_error_detected :
    crc16Checkout (str "Rtd=7.3;") (str "Rtd=7.3;").length ≠
      crc16Checkout (str "Rtd=7.8;") (str "Rtd=7.8;").length := by
  have hlen : (str "Rtd=7.3;").length = 8 ∧ (str "Rtd=7.8;").length = 8 := ⟨rfl,rfl⟩
  have hall : ∀ j < 8, j ≠ 6 → (str "Rtd=7.3;")[j]? = (str "Rtd=7.8;")[j]? := by decide
  refine (crc_detects_single_byte (str "Rtd=7.3;") (str "Rtd=7.8;")).1
    ⟨6,hlen.1.trans hlen.2.symm,by omega,by decide,fun j hj => ?_⟩
  by_cases hlt : j < 8
  · exact hall j hlt hj
  · rw [List.getElem?_eq_none (by omega),List.getElem?_eq_none (by omega)]

theorem xor_eq_iff (a b c : UInt8) : a ^^^ b = c ↔ b = a ^^^ c := by
  constructor
  · rintro rfl
    rw [← UInt8.xor_assoc,UInt8.xor_self,UInt8.zero_xor]
  · rintro rfl
    rw [← UInt8.xor_assoc,UInt8.xor_self,UInt8.zero_xor]

/-- The checksum of a message as its last byte leaves it. -/
def crcLast (x : UInt8) : UInt32 := crcBit^[8] x.toUInt32

theorem crcLast_injective : Function.Injective crcLast := by
  intro x y h
  exact crcHigh_injective (congrArg high h)

theorem crc_concat (msg : Str) (c : UInt8) :
    crc16Checkout (msg ++ [c]) (msg ++ [c]).length = crcLast (msg.foldl highStep 0xFF ^^^ c) := by
  have hlt : (msg.foldl crcByte 0xFFFF).toNat < 2^16 := by
    simpa [crc16Checkout] using crc16Checkout_lt msg msg.length
  have hhigh : high (msg.foldl crcByte 0xFFFF) = msg.foldl highStep 0xFF :=
    high_foldl msg (by decide)
  rw [crc16Checkout,List.take_length,List.foldl_append,List.foldl_cons,List.foldl_nil,
    crcByte_eq hlt,hhigh]
  rfl

/-- The upper half tells as much as the whole checksum. -/
theorem crc_eq_iff {a b : Str} (ha : a ≠ []) (hb : b ≠ []) :
    crc16Checkout a a.length = crc16Checkout b b.length ↔
      a.foldl highStep 0xFF = b.foldl highStep 0xFF := by
  obtain ⟨a,c,rfl⟩ := (List.eq_nil_or_concat' a).resolve_left ha
  obtain ⟨b,d,rfl⟩ := (List.eq_nil_or_concat' b).resolve_left hb
  rw [crc_concat,crc_concat,crcLast_injective.eq_iff,List.foldl_append,List.foldl_append]
  exact crcHigh_injective.eq_iff.symm

/-- The checksums of messages that are not empty are 256 values, and whatever a byte is changed to,
exactly one change of the byte after it leaves the checksum as it was. -/
theorem crc_burst :
    (∃ f : UInt8 → UInt32, Function.Injective f ∧
      Set.range f = {crc | ∃ msg : Str, msg ≠ [] ∧ crc16Checkout msg msg.length = crc}) ∧
    ∀ (pre post : Str) (c d c' : UInt8), ∃! d',
      crc16Checkout (pre ++ c'::d'::post) (pre ++ c'::d'::post).length =
        crc16Checkout (pre ++ c::d::post) (pre ++ c::d::post).length := by
  refine ⟨⟨crcLast,crcLast_injective,?_⟩,?_⟩
  · ext crc
    constructor
    · rintro ⟨x,rfl⟩
      refine ⟨[0xFF ^^^ x],by simp,?_⟩
      rw [← List.nil_append [0xFF ^^^ x],crc_concat,List.foldl_nil,← UInt8.xor_assoc,
        UInt8.xor_self,UInt8.zero_xor]
    · rintro ⟨msg,hmsg,rfl⟩
      obtain ⟨msg,c,rfl⟩ := (List.eq_nil_or_concat' msg).resolve_left hmsg
      exact ⟨_,(crc_concat msg c).symm⟩
  · intro pre post c d c'
    have hpost (h k : UInt8) : post.foldl highStep h = post.foldl highStep k ↔ h = k := by
      refine ⟨fun heq => ?_,fun heq => by rw [heq]⟩
      by_contra hne
      exact StepSystem.foldl_ne highStep_injective post hne heq
    have hsame (d' : UInt8) :
        crc16Checkout (pre ++ c'::d'::post) (pre ++ c'::d'::post).length =
          crc16Checkout (pre ++ c::d::post) (pre ++ c::d::post).length ↔
        d' = highStep (pre.foldl highStep 0xFF) c' ^^^ (highStep (pre.foldl highStep 0xFF) c ^^^ d) := by
      rw [crc_eq_iff (by simp) (by simp)]
      simp only [List.foldl_append,List.foldl_cons,hpost]
      exact crcHigh_injective.eq_iff.trans (xor_eq_iff _ _ _)
    exact ⟨_,(hsame _).mpr rfl,fun d' h => (hsame d').mp h⟩

end HJ212
end Sap9001
