import Sap9001.HJ212Builder
import Sap9001.Reconnect
import Sap9001.Registration

/-! The 06 packets of a registered device: the widths that `device_regist` establishes
(`app/regist_manage.cpp`), what later changes of the identity keep of them, and where the data
of a packet start. -/
namespace Sap9001
namespace FixedLayout

open HJ212PacketBuilder RegistManage CommunicaManage DeviceMap Reinit

/-- The widths of the identity of a registered device. -/
structure Registered (identity : DeviceIdentity) : Prop where
  id : Field 2 identity.id
  netId : Field 4 identity.netId
  isrMac : Field 16 identity.isrMac
  mac : Field 16 identity.mac
  communicateStatus : Field 6 identity.communicateStatus

theorem field_substr {m : Str} (hm : (0 : UInt8) ∉ m) {pos width : ℕ} (h : pos + width ≤ m.length) :
    Field width (substr m pos width) := by
  refine ⟨?_,fun hz => hm (List.mem_of_mem_drop (List.mem_of_mem_take hz))⟩
  rw [substr,List.length_take,List.length_drop]
  omega

section Registration

variable {F : Type} {mktime : Tm → Option Int} {vec : List Channel} {identity : DeviceIdentity}
  {commManager : CommunicaManage F} {input : ℕ → Input} {n : ℕ} {s : State F}

/-- A registration that succeeds leaves an identity of the protocol's widths: the ids and the
gateway's MAC are cut from the 17 packet, which names the device's own MAC. -/
theorem registered_of_success (hread : ∀ k m, (input k).read = some m → (0 : UInt8) ∉ m)
    (hstatus : Field 6 identity.communicateStatus)
    (hs : StepSystem.drive (step mktime vec) input (start vec identity commManager) n = some s)
    (hret : s.returned = some 0) : Registered s.identity := by
  have hstart := start_safe vec identity commManager
  obtain ⟨s',hs',-,hsafe⟩ := StepSystem.drive_invariant (fun i _ hI => step_safe mktime i hI) input
    ⟨start_inv vec identity commManager,hstart⟩ n
  obtain rfl := Option.some.inj (hs.symm.trans hs')
  have hanswers : ∀ c m, Event.answer c m ∈ s.trace → ∃ k, (input k).read = some m := by
    refine StepSystem.drive_preserves (I := fun s : State F =>
      ∀ c m, Event.answer c m ∈ s.trace → ∃ k, (input k).read = some m) ?_ (by simp [start]) hs
    intro k u v hu huv c m hm
    exact (step_answer huv hm).elim (hu c m) fun hr => ⟨k,hr⟩
  have hkept : s.identity.communicateStatus = identity.communicateStatus := by
    refine StepSystem.drive_preserves (I := fun s : State F =>
      s.identity.communicateStatus = identity.communicateStatus) ?_ rfl hs
    intro k u v hu huv
    rw [transition_communicateStatus (step_transition huv),hu]
  have hprogress := hsafe.progress
  simp only [Progress,State.success_of_returned hret] at hprogress
  obtain ⟨before,m17,between,after,m20,tv,htrace,-,hass,-⟩ := hprogress
  obtain ⟨k,hk⟩ := hanswers s.channel m17 (by simp [htrace])
  have hnul := hread k m17 hk
  have hlen := hass.length
  refine ⟨?_,?_,?_,?_,hkept ▸ hstatus⟩
  · exact hass.id ▸ field_substr hnul (by omega)
  · exact hass.netId ▸ field_substr hnul (by omega)
  · exact hass.isrMac ▸ field_substr hnul (by omega)
  · rw [hsafe.ownMac,← hass.addressed]
    exact field_substr hnul (by omega)

end Registration

section Identity

variable {i : DeviceIdentity} (h : Registered i)
include h

theorem Registered.setCommunicateStatus (index : Int) :
    Registered (i.setCommunicateStatus index (byte '1')) := by
  unfold DeviceIdentity.setCommunicateStatus
  split_ifs with hindex
  · refine ⟨h.id,h.netId,h.isrMac,h.mac,?_,fun hzero => ?_⟩
    · rw [List.length_set]
      exact h.communicateStatus.1
    · rcases List.mem_or_eq_of_mem_set hzero with hmem | heq
      · exact h.communicateStatus.2 hmem
      · exact absurd heq (by decide)
  · exact h

theorem Registered.packet20 (mktime : Tm → Option Int) (strPacket : Str) :
    Registered (packet20 mktime i strPacket).1 := by
  unfold Sap9001.packet20
  split
  · exact h
  · exact ⟨h.id,h.netId,h.isrMac,h.mac,h.communicateStatus⟩

end Identity

/-- A callback writes nothing of the identity but status characters and the Bluetooth MAC. -/
theorem Registered.call {w : World} (h : Registered w.identity) (f : DeviceInit.ReinitFn)
    (o : DeviceInit.Outcome) (oldFd : Int) : Registered (DeviceInit.call o f oldFd w).2.identity := by
  rw [DeviceInit.call_identity]
  split_ifs
  · exact h.setCommunicateStatus _
  · exact ⟨h.id,h.netId,h.isrMac,h.mac,h.communicateStatus⟩
  · exact h

section Managers

variable {F : Type}

/-- A manager of devices whose ids have one digit. -/
structure OneDigit (m : CommunicaManage F) : Prop where
  represented : ∃ x, Represents true m x
  ids : ∀ k ∈ m.nodes, k.id < 10

theorem OneDigit.getSuccessId {m : CommunicaManage F} (h : OneDigit m) : m.getSuccessId < 10 := by
  unfold CommunicaManage.getSuccessId
  cases hfind : m.nodes.find? (·.enabled) with
  | none => exact (by decide : (-1 : Int) < 10)
  | some k => exact h.ids k (List.mem_of_find?_eq_some hfind)

/-- The ids of the nodes are the keys of the map; the lone head has id -1. -/
theorem ids_iff {m : CommunicaManage F} {x : DeviceMap F} (h : Represents true m x) :
    (∀ k ∈ m.nodes, k.id < 10) ↔ ∀ id ∈ x.keys, id < 10 := by
  cases h with
  | sentinel b hb => simp [nodes,OrderedMap.keys]
  | live h => simp only [h,OrderedMap.keys,List.forall_mem_map,nodeOf]

theorem OneDigit.of_represents {m : CommunicaManage F} {x : DeviceMap F}
    (h : Represents true m x) (hids : ∀ id ∈ x.keys, id < 10) : OneDigit m :=
  ⟨⟨x,h⟩,(ids_iff h).mpr hids⟩

theorem OneDigit.setEnable {m m' : CommunicaManage F} (h : OneDigit m) {id : Int} {b : Bool}
    (hen : m.setEnable id = (b,m')) : OneDigit m' where
  represented := by
    obtain ⟨x,hx⟩ := h.represented
    have hperform : perform (.setEnable id) m = some (b,m') := congrArg some hen
    exact step_represents hx (.call hperform)
  ids := by
    have hsame : m'.nodes.map (·.id) = m.nodes.map (·.id) := by
      unfold CommunicaManage.setEnable at hen
      cases hfind : m.findcommunicate id with
      | none =>
        rw [hfind] at hen
        obtain ⟨-,rfl⟩ := Prod.mk.inj hen
        rfl
      | some n =>
        rw [hfind] at hen
        obtain ⟨-,rfl⟩ := Prod.mk.inj hen
        have hkept (k : CommunicateNode F) : { k with enabled := true }.id = k.id := rfl
        rw [nodes_updateNode]
        exact OrderedMap.map_updateFirst hkept m.nodes
    intro k hk
    have hmem : k.id ∈ m.nodes.map (·.id) := hsame ▸ List.mem_map_of_mem hk
    obtain ⟨k',hk',heq⟩ := List.mem_map.mp hmem
    exact heq ▸ h.ids k' hk'

/-- A device that is reinitialised keeps its id. -/
theorem OneDigit.endOfFile {s : Reconnect.Sys} (h : OneDigit s.manager)
    (hreg : Registered s.world.identity) (a : Reconnect.Attempt) :
    ∃ r, Reconnect.endOfFile a s = some r ∧ OneDigit r.2.manager ∧
      Registered r.2.world.identity := by
  unfold Reconnect.endOfFile
  by_cases hid : 0 ≤ s.manager.getSuccessId
  · obtain ⟨x,hx⟩ := h.represented
    obtain ⟨b,m',w',x',hr,hx',hkeys,hw⟩ := reinit_keeps (DeviceInit.call a.outcome) a.t₁ a.t₂
      s.manager.getSuccessId 0 s.world hx (by omega)
    refine ⟨(b,⟨m',w'⟩),by simp only [hid,if_true,hr,Option.map_some],.of_represents hx' ?_,?_⟩
    · exact fun k hk => (ids_iff hx).mp h.ids k (hkeys k hk)
    · rcases hw with rfl | ⟨f,rfl⟩
      · exact hreg
      · exact hreg.call f a.outcome 0
  · exact ⟨(false,s),by simp only [hid,if_false],h,hreg⟩

end Managers

section Layout

variable {b : HJ212PacketBuilder} {activeId : Int}

theorem length_padLength_le (s : Str) : (padLength s).length ≤ s.length + 3 := by
  have hzeros : (str "000").length = 3 ∧ (str "00").length = 2 ∧ (str "0").length = 1 := ⟨rfl,rfl,rfl⟩
  unfold padLength
  split <;> first | omega | (rw [List.length_append]; omega)

/-- The length field has its four digits as long as the number has no more. -/
theorem length_lenStr_iff (b : HJ212PacketBuilder) : b.lenStr.length = 4 ↔ b.length < 65536 := by
  by_cases hneg : b.length < 0
  · have hzero : b.lenStr = str "0000" := by
      rw [lenStr,change_of_neg b.le_length hneg]
      rfl
    rw [hzero]
    exact iff_of_true rfl (by omega)
  · obtain ⟨n,hn⟩ := Int.eq_ofNat_of_zero_le (not_lt.mp hneg)
    have hnum : b.lenStr = Numerals.padded 16 hexDigit 4 n := by
      rw [lenStr,hn,change_eq,List.nil_append,padLength_numeral]
    rw [hnum,hn]
    constructor
    · intro hfour
      by_contra hge
      have hlong := Numerals.lt_length_numeral 16 hexDigit (n := n) (k := 4) (by decide) (by omega)
      rw [Numerals.padded_of_le 16 hexDigit (by decide) (by omega)] at hfour
      omega
    · intro hlt
      exact Numerals.length_padded 16 hexDigit (by decide) (by decide) (by omega)

/-- The printed packet fits the 2048 bytes of its block. -/
def NotCut (b : HJ212PacketBuilder) (activeId : Int) : Prop :=
  ((b.parts activeId).flatMap cstr).length ≤ 2047

/-- The data of a whole packet start at offset 61 exactly when the length field has four
digits. -/
theorem data_offset_iff (hw : b.ProtocolWidths activeId) {pool : MemoryPool 8}
    (hne : (b.build activeId pool).1 ≠ []) (hfits : NotCut b activeId) :
    (b.build activeId pool).1.drop 61 = cstr b.data ++ str "@" ↔ b.length < 65536 := by
  have hpre : (b.preamble activeId).length = b.lenStr.length + 57 := by
    simp only [preamble,List.length_append,length_header hw,length_fixedFields hw]
    omega
  rw [NotCut,printed_eq_preamble hw] at hfits
  rw [build_of_printed (freeList_of_build hne) hw hfits,← length_lenStr_iff]
  constructor
  · intro hdrop
    have hlen := congrArg List.length hdrop
    simp only [List.length_drop,List.length_append,hpre,length_at] at hlen
    omega
  · intro hfour
    have h61 : 61 = (b.preamble activeId).length := by rw [hpre,hfour]
    rw [h61,List.drop_left]

theorem notCut_of_printed (hw : b.ProtocolWidths activeId)
    (h : (cstr b.data).length + b.lenStr.length ≤ 1989) : NotCut b activeId := by
  rw [NotCut,length_printed hw]
  omega

theorem build_ne_nil (hw : b.ProtocolWidths activeId) {pool : MemoryPool 8}
    (hpool : pool.freeList ≠ []) (h : (cstr b.data).length + b.lenStr.length ≤ 1989) :
    (b.build activeId pool).1 ≠ [] := by
  intro hnil
  rcases (build_eq_nil_iff hw pool).mp hnil with hfree | hsize
  · exact hpool hfree
  · omega

end Layout

/-- What happens to a registered device: a 20 frame, or the end of its connection. -/
inductive Later
  | timeFrame (strPacket : Str)
  | endOfFile (a : Reconnect.Attempt)

def later (mktime : Tm → Option Int) (s : Reconnect.Sys) : Later → Option Reconnect.Sys
  | .timeFrame strPacket => some { s with
      world := { s.world with identity := (packet20 mktime s.world.identity strPacket).1 } }
  | .endOfFile a => (Reconnect.endOfFile a s).map (·.2)

def laterRun (mktime : Tm → Option Int) : Reconnect.Sys → List Later → Option Reconnect.Sys
  | s, [] => some s
  | s, e::es => (later mktime s e).bind fun t => laterRun mktime t es

/-- The identity keeps its widths and the devices their ids. -/
structure Inv (s : Reconnect.Sys) : Prop where
  registered : Registered s.world.identity
  devices : OneDigit s.manager

theorem later_inv (mktime : Tm → Option Int) {s : Reconnect.Sys} (h : Inv s) (e : Later) :
    ∃ t, later mktime s e = some t ∧ Inv t := by
  cases e with
  | timeFrame strPacket => exact ⟨_,rfl,h.registered.packet20 mktime strPacket,h.devices⟩
  | endOfFile a =>
    obtain ⟨r,hr,hdevices,hreg⟩ := h.devices.endOfFile h.registered a
    exact ⟨r.2,by simp [later,hr],hreg,hdevices⟩

theorem laterRun_inv (mktime : Tm → Option Int) {s : Reconnect.Sys} (h : Inv s) (es : List Later) :
    ∃ t, laterRun mktime s es = some t ∧ Inv t := by
  induction es generalizing s with
  | nil => exact ⟨s,rfl,h⟩
  | cons e es ih =>
    obtain ⟨t,ht,hinv⟩ := later_inv mktime h e
    obtain ⟨u,hu,hinv'⟩ := ih hinv
    exact ⟨u,by simp [laterRun,ht,hu],hinv'⟩

theorem Inv.contextWidths {s : Reconnect.Sys} (h : Inv s) {cpuOccupy : Str}
    (hcpu : Field 4 cpuOccupy) :
    ContextWidths s.world.identity cpuOccupy s.manager.getSuccessId where
  channel := Nat.le_antisymm
    (length_communicateType_le (show 0 < 1 by decide) h.devices.getSuccessId)
    (length_communicateType_pos _)
  id := h.registered.id
  netId := h.registered.netId
  isrMac := h.registered.isrMac
  mac := h.registered.mac
  cpuOccupy := hcpu
  communicateStatus := h.registered.communicateStatus

/-- A registration that succeeds leads to the states that later runs keep. -/
theorem registration_inv {mktime : Tm → Option Int} {vec : List Channel} {identity : DeviceIdentity}
    {commManager : CommunicaManage DeviceInit.ReinitFn} {input : ℕ → Input} {n : ℕ}
    {s : State DeviceInit.ReinitFn} (hman : OneDigit commManager)
    (hread : ∀ k m, (input k).read = some m → (0 : UInt8) ∉ m)
    (hstatus : Field 6 identity.communicateStatus)
    (hs : StepSystem.drive (step mktime vec) input (start vec identity commManager) n = some s)
    (hret : s.returned = some 0) (w : World) : Inv ⟨s.commManager,{ w with identity := s.identity }⟩ := by
  obtain ⟨s',hs',-,hsafe⟩ := StepSystem.drive_invariant (fun i _ hI => step_safe mktime i hI) input
    ⟨start_inv vec identity commManager,start_safe vec identity commManager⟩ n
  obtain rfl := Option.some.inj (hs.symm.trans hs')
  exact ⟨registered_of_success hread hstatus hs hret,
    hman.setEnable (hsafe.enabled (State.success_of_returned hret))⟩

/-- After a registration that returned success, in every later state, the data of every 06 packet
that is not cut start at offset 61, as long as the length field has four digits. -/
theorem fixed_layout {mktime : Tm → Option Int} {vec : List Channel} {macFile : Option Str}
    {identity : DeviceIdentity} {commManager : CommunicaManage DeviceInit.ReinitFn}
    {input : ℕ → Input} {n : ℕ} {s : State DeviceInit.ReinitFn} (hman : Reachable commManager)
    (hids : ∀ k ∈ commManager.nodes, k.id < 10) (hstatus : Field 6 identity.communicateStatus)
    (hread : ∀ k m, (input k).read = some m → (0 : UInt8) ∉ m)
    (hs : StepSystem.drive (step mktime vec) input
      (start vec (DeviceInit.getMac macFile identity) commManager) n = some s)
    (hret : s.returned = some 0) (w : World) (es : List Later) :
    (s.identity.id.length = 2 ∧ s.identity.netId.length = 4 ∧ s.identity.isrMac.length = 16 ∧
      s.identity.mac.length = 16) ∧
    ∃ t, laterRun mktime ⟨s.commManager,{ w with identity := s.identity }⟩ es = some t ∧
      ∀ cpuOccupy location strT portInfo pool packet, Field 4 cpuOccupy → Field 3 portInfo →
        packet = (packet06 t.world.identity cpuOccupy location t.manager.getSuccessId pool strT
          portInfo).1 → packet ≠ [] →
        NotCut (ofContext t.world.identity cpuOccupy location strT portInfo) t.manager.getSuccessId →
        (packet.drop 61 = cstr strT ++ str "@" ↔ toInt32 (strT.length + 43) < 65536) := by
  have hdevices : OneDigit commManager := ⟨reachable_represents hman,hids⟩
  have hinv := registration_inv hdevices hread
    ((DeviceInit.getMac_communicateStatus macFile identity).symm ▸ hstatus) hs hret w
  obtain ⟨t,ht,hlater⟩ := laterRun_inv mktime hinv es
  have hreg := hinv.registered
  refine ⟨⟨hreg.id.1,hreg.netId.1,hreg.isrMac.1,hreg.mac.1⟩,t,ht,?_⟩
  rintro cpuOccupy location strT portInfo pool packet hcpu hport rfl hne hfits
  exact data_offset_iff ((hlater.contextWidths hcpu).protocolWidths hport location strT) hne hfits

/-- The LAN device, as `dev_init` registers it. -/
def lanDevice : CommunicaManage DeviceInit.ReinitFn := (CommunicaManage.new.addCommunicateNode 4 6).2

theorem lanDevice_reachable : Reachable lanDevice := by
  have hadd : perform (.add 4 6) (.new : CommunicaManage DeviceInit.ReinitFn) = some (true,lanDevice) := rfl
  exact ⟨.new,[.call (.add 4 6)],rfl,.single (.call hadd)⟩

theorem gateway_no_nul (k : ℕ) (m : Str) (h : (gateway k).read = some m) : (0 : UInt8) ∉ m := by
  obtain rfl := Option.some.inj h
  split_ifs <;> decide

def macLine : Str := str "SAP2400000000000" ++ [byte '\n']

theorem lan_registers : ∃ s, StepSystem.drive (step utcNoon [(4,6)]) gateway
    (start [(4,6)] (DeviceInit.getMac (some macLine) {}) lanDevice) 6 = some s ∧
      s.returned = some 0 := by
  have hrun : (StepSystem.drive (step utcNoon [(4,6)]) gateway
      (start [(4,6)] (DeviceInit.getMac (some macLine) {}) lanDevice) 6).map State.returned =
        some (some 0) := by
    decide
  exact Option.map_eq_some_iff.mp hrun

/-- A 20 frame for the device, then a reconnect for which there is no callback. -/
def laterEvents : List Later :=
  [.timeFrame (str "$20401ABCD000031SAP240000000000020260101120000000@"),
    .endOfFile ⟨Reconnect.answers false,0,0⟩]

theorem lan_packet_layout : ∃ (s : State DeviceInit.ReinitFn) (t : Reconnect.Sys),
    StepSystem.drive (step utcNoon [(4,6)]) gateway
      (start [(4,6)] (DeviceInit.getMac (some macLine) {}) lanDevice) 6 = some s ∧
    laterRun utcNoon ⟨s.commManager,⟨Reconnect.stdFiles,{},s.identity⟩⟩ laterEvents = some t ∧
    (packet06 t.world.identity (str "0914") [] t.manager.getSuccessId (.new 8) (str "##0002&&5D7F")
      (str "100")).1.drop 61 = str "##0002&&5D7F@" := by
  obtain ⟨s,hs,hret⟩ := lan_registers
  let w : World := ⟨Reconnect.stdFiles,{},{}⟩
  obtain ⟨-,t,ht,hlayout⟩ := fixed_layout lanDevice_reachable (by decide) (by decide) gateway_no_nul hs
    hret w laterEvents
  have hdevices : OneDigit lanDevice := ⟨reachable_represents lanDevice_reachable,by decide⟩
  obtain ⟨t',ht',hinv⟩ := laterRun_inv utcNoon
    (registration_inv hdevices gateway_no_nul (by decide) hs hret w) laterEvents
  obtain rfl := Option.some.inj (ht.symm.trans ht')
  have hcpu : Field 4 (str "0914") := by decide
  have hport : Field 3 (str "100") := by decide
  have hw := (hinv.contextWidths hcpu).protocolWidths hport [] (str "##0002&&5D7F")
  have hfree : (MemoryPool.new 8).freeList ≠ [] := by decide
  have hprinted : (cstr (str "##0002&&5D7F")).length +
      (ofContext t.world.identity (str "0914") [] (str "##0002&&5D7F") (str "100")).lenStr.length ≤
        1989 := by
    rw [(lenStr_spec (show (str "##0002&&5D7F").length ≤ 2047 by decide)).1]
    decide
  have hdrop := (hlayout (str "0914") [] (str "##0002&&5D7F") (str "100") (.new 8) _ hcpu hport rfl
    (build_ne_nil hw hfree hprinted) (notCut_of_printed hw hprinted)).mpr (by decide)
  exact ⟨s,t,hs,ht,hdrop⟩

/-- With data of this length the length field has a fifth digit. -/
def longData : Str := (str "A" ++ [0]) ++ List.replicate 65491 0

theorem cstr_longData : cstr longData = str "A" := cstr_append_of_mem (by decide) _

theorem length_longData : longData.length = 65493 := by
  rw [longData,List.length_append,List.length_replicate]
  rfl

/-- The data of a registered device, mostly NUL, start one character too late. -/
theorem long_data_shifted : ¬ ∀ (mktime : Tm → Option Int) (vec : List Channel)
    (macFile : Option Str) (identity : DeviceIdentity)
    (commManager : CommunicaManage DeviceInit.ReinitFn) (input : ℕ → Input) (n : ℕ)
    (s : State DeviceInit.ReinitFn) (w : World) (es : List Later) (t : Reconnect.Sys),
    Reachable commManager → (∀ k ∈ commManager.nodes, k.id < 10) →
    Field 6 identity.communicateStatus → (∀ k m, (input k).read = some m → (0 : UInt8) ∉ m) →
    StepSystem.drive (step mktime vec) input
      (start vec (DeviceInit.getMac macFile identity) commManager) n = some s →
    s.returned = some 0 → laterRun mktime ⟨s.commManager,{ w with identity := s.identity }⟩ es = some t →
    ∀ cpuOccupy location strT portInfo pool packet, Field 4 cpuOccupy → Field 3 portInfo →
      packet = (packet06 t.world.identity cpuOccupy location t.manager.getSuccessId pool strT
        portInfo).1 → packet ≠ [] →
      NotCut (ofContext t.world.identity cpuOccupy location strT portInfo) t.manager.getSuccessId →
      packet.drop 61 = cstr strT ++ str "@" := by
  intro hall
  obtain ⟨s,hs,hret⟩ := lan_registers
  let w : World := ⟨Reconnect.stdFiles,{},{}⟩
  have hdevices : OneDigit lanDevice := ⟨reachable_represents lanDevice_reachable,by decide⟩
  have hinv := registration_inv hdevices gateway_no_nul (by decide) hs hret w
  have hcpu : Field 4 (str "0914") := by decide
  have hport : Field 3 (str "100") := by decide
  have hw := (hinv.contextWidths hcpu).protocolWidths hport [] longData
  have hlength : (ofContext s.identity (str "0914") [] longData (str "100")).length = 65536 := by
    have hdata : longData.length + 43 = 65536 := by rw [length_longData]
    show toInt32 (longData.length + 43) = 65536
    rw [hdata]
    exact toInt32_of_lt (by decide)
  have hprinted : (cstr longData).length +
      (ofContext s.identity (str "0914") [] longData (str "100")).lenStr.length ≤ 1989 := by
    have hdigits := Numerals.length_numeral_le 16 hexDigit (n := 65536) (k := 5) (by decide)
      (by decide) (by decide)
    have hpad := length_padLength_le (Numerals.numeral 16 hexDigit 65536)
    have hone : (str "A").length = 1 := rfl
    rw [cstr_longData,hone,lenStr,hlength,show (65536 : Int) = ((65536 : ℕ) : Int) from rfl,change_eq,
      List.nil_append]
    omega
  have hfits : NotCut _ _ := notCut_of_printed hw hprinted
  have hfree : (MemoryPool.new 8).freeList ≠ [] := by decide
  have hne := build_ne_nil hw hfree hprinted
  have hdrop := hall utcNoon [(4,6)] (some macLine) {} lanDevice gateway 6 s w [] _
    lanDevice_reachable (by decide) (by decide) gateway_no_nul hs hret rfl (str "0914") [] longData
    (str "100") (.new 8) _ hcpu hport rfl hne hfits
  have hlt := (data_offset_iff hw hne hfits).mp hdrop
  rw [hlength] at hlt
  exact absurd hlt (by decide)

end FixedLayout
end Sap9001
