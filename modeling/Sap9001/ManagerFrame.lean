import Sap9001.Reinit

/-! What the operations of the device manager leave alone: the nodes beside the one that a
reconnect works on, and everything when the id is not registered. -/
namespace Sap9001
namespace ManagerFrame

open CommunicaManage DeviceMap Reinit

variable {F W : Type} {marked : Bool}

/-- The nodes agree in everything but the circuit breaker. -/
def SameButBreaker (n n' : CommunicateNode F) : Prop :=
  ∃ f : CircuitBreaker → CircuitBreaker,
    n' = { n with com := n.com.map fun c => { c with breaker := f c.breaker } }

/-- Node for node the same, but for the breaker of node `id`. -/
def Untouched (id : Int) (m m' : CommunicaManage F) : Prop :=
  List.Forall₂ (fun n n' => n' = n ∨ n.id = id ∧ SameButBreaker n n') m.nodes m'.nodes

/-- The device `id`, which had the record `c`, is replaced on descriptor `fd`. -/
structure Replaced (id fd : Int) (c : Communicate F) (m m' : CommunicaManage F) : Prop where
  once : ∃ n' c', m'.nodes.filter (fun n => n.id = id) = [n'] ∧ n'.com = some c' ∧ c'.fd = fd ∧
    c'.reback = c.reback ∧ c'.breaker.state = .closed ∧ c'.breaker.failureCount = 0
  size : m'.nodes.length = m.nodes.length
  distinct : (m.nodes.map (·.id)).Nodup ∧ (m'.nodes.map (·.id)).Nodup
  others : m'.nodes.filter (fun n => n.id ≠ id) = m.nodes.filter (fun n => n.id ≠ id)

theorem nodes_of_entries {m : CommunicaManage F} {x : DeviceMap F} (h : Represents marked m x)
    (hx : x.entries ≠ []) : m.nodes = x.entries.map nodeOf := by
  cases h with
  | sentinel b hb => exact absurd rfl hx
  | live h => exact h

theorem untouched_refl (id : Int) (m : CommunicaManage F) : Untouched id m m :=
  List.forall₂_same.mpr fun _ _ => .inl rfl

/-- A change of one breaker in the map is one in the list of nodes. -/
theorem untouched_of_modify {m m' : CommunicaManage F} {x : DeviceMap F} {id : Int}
    {f : CircuitBreaker → CircuitBreaker} (h : Represents marked m x) (hx : x.entries ≠ [])
    (h' : Represents marked m' (x.modify id (.withBreaker f)).2) : Untouched id m m' := by
  have hentries : (x.modify id (.withBreaker f)).2.entries =
      x.entries.map fun e => if e.1 = id then (e.1,e.2.withBreaker f) else e := rfl
  rw [Untouched,nodes_of_entries h hx,nodes_of_entries h' (OrderedMap.modify_ne_nil hx id _),
    hentries,List.map_map,List.forall₂_map_left_iff,List.forall₂_map_right_iff]
  refine List.forall₂_same.mpr fun e _ => ?_
  by_cases he : e.1 = id
  · exact .inr ⟨he,f,by simp [he,nodeOf,DeviceEntry.withBreaker]⟩
  · exact .inl (by simp [he])

theorem filter_nodeOf (es : List (Int × DeviceEntry F)) (p : Int → Bool) :
    (es.map nodeOf).filter (fun n => p n.id) = (es.filter fun e => p e.1).map nodeOf := by
  rw [List.filter_map]
  rfl

theorem map_nodeOf_id (es : List (Int × DeviceEntry F)) :
    (es.map nodeOf).map (·.id) = es.map Prod.fst := by
  rw [List.map_map]
  rfl

/-- The device `id` stands once in the map, so its removal takes one entry away. -/
theorem length_erase {x : DeviceMap F} {id : Int} {d : DeviceEntry F} (hd : x.lookup id = some d) :
    (x.erase id).2.entries.length + 1 = x.entries.length := by
  have hmem := OrderedMap.lookup_eq_some.mp hd
  have hlen := List.length_eraseP_of_mem (p := fun e : Int × DeviceEntry F => decide (e.1 = id))
    hmem (by simp)
  have hpos := List.length_pos_of_mem hmem
  rw [x.eraseP_eq_filter] at hlen
  show (x.entries.filter fun e => decide (e.1 ≠ id)).length + 1 = _
  omega

theorem replaced_of_reconnected {m m' : CommunicaManage F} {x : DeviceMap F} {id fd : Int}
    {d : DeviceEntry F} (h : Represents marked m x) (hd : x.lookup id = some d)
    (h' : Represents marked m' (reconnected x id fd d)) : Replaced id fd d.com m m' := by
  have hentries := (OrderedMap.append_of_not_mem (x.not_mem_keys_erase id) (replacement fd d)).2
  have hnodes := nodes_of_entries h (OrderedMap.entries_ne_nil hd)
  have hnodes' := nodes_of_entries h' (by rw [reconnected,hentries]; simp)
  have herased : (x.erase id).2.entries = x.entries.filter fun e => decide (e.1 ≠ id) := rfl
  refine ⟨⟨nodeOf (id,replacement fd d),_,?_,rfl,rfl,rfl,rfl,rfl⟩,?_,⟨?_,?_⟩,?_⟩
  · rw [hnodes',filter_nodeOf _ (fun i => i = id),reconnected,hentries,herased]
    simp
  · rw [hnodes',hnodes,List.length_map,List.length_map,reconnected,hentries,List.length_append]
    exact length_erase hd
  · rw [hnodes,map_nodeOf_id]
    exact x.nodup
  · rw [hnodes',map_nodeOf_id]
    exact (reconnected x id fd d).nodup
  · rw [hnodes',hnodes,filter_nodeOf _ (fun i => i ≠ id),filter_nodeOf _ (fun i => i ≠ id),
      reconnected,hentries,herased]
    simp

/-- A reconnect never follows a missing record. When it fails, at most the breaker of the device
is another; when it succeeds, the device is on the new descriptor with its callbacks and
a fresh breaker, and every other device is where it was. -/
theorem reinit_frame (call : F → Int → W → Int × W) (t₁ t₂ : UInt64) {m : CommunicaManage F}
    (id para : Int) (w : W) (hm : Reachable m) (hid : 0 ≤ id) :
    ∃ b m' w', m.reinit call t₁ t₂ id para w = some (b,m',w') ∧
      (b = false → Untouched id m m') ∧
      (b = true → ∃ n c init, m.findcommunicate id = some n ∧ n.com = some c ∧
        c.initCallback = some init ∧ 0 ≤ (call init para w).1 ∧
        Replaced id (call init para w).1 c m m') := by
  obtain ⟨x,hx⟩ := reachable_represents hm
  have hne : x.entries = [] → id ≠ -1 := by omega
  have hfind := findcommunicate_represents hx id hne
  have hout := reinit_outcome call t₁ t₂ id para w hx hne
  generalize m.reinit call t₁ t₂ id para w = r at hout
  cases hout with
  | unknown hd => exact ⟨_,_,_,rfl,fun _ => untouched_refl id m,by simp⟩
  | refused hd ha hr =>
    exact ⟨_,_,_,rfl,fun _ => untouched_of_modify hx (OrderedMap.entries_ne_nil hd) hr,by simp⟩
  | noCallback hd ha hc hr =>
    exact ⟨_,_,_,rfl,fun _ => untouched_of_modify hx (OrderedMap.entries_ne_nil hd) hr,by simp⟩
  | failed hd ha hc hfd hr =>
    exact ⟨_,_,_,rfl,fun _ => untouched_of_modify hx (OrderedMap.entries_ne_nil hd) hr,by simp⟩
  | @replaced d m' init hd ha hc hfd hr =>
    rw [hd] at hfind
    exact ⟨_,_,_,rfl,by simp,
      fun _ => ⟨_,d.com,init,hfind,rfl,hc,hfd,replaced_of_reconnected hx hd hr⟩⟩

/-- The LAN device beside a Wi-Fi device. -/
def twoDevices : CommunicaManage Unit :=
  ((lanManager.addCommunicateNode 2 7).2.callbackRgist 2 0 (some ())).elim .new Prod.snd

theorem twoDevices_reachable : Reachable twoDevices := by
  obtain ⟨m,calls,hm,hrun⟩ := lanManager_reachable
  refine ⟨m,calls ++ [.call (.add 2 7),.call (.callbackRgist 2 0 (some ()))],hm,hrun.append ?_⟩
  exact .cons (.call (b := true) rfl) (.single (.call (b := true) rfl))

/-- The reconnect of the LAN device takes the second way and leaves the other device alone. -/
theorem lan_reconnect_frame : ∃ m', twoDevices.reinit lanInit 0 0 4 0 () = some (true,m',()) ∧
    (∃ c, Replaced 4 9 c twoDevices m') ∧
    (m'.nodes.filter fun n => n.id ≠ 4).map (fun n => (n.id,n.enabled)) = [(2,false)] ∧
    m'.nodes.map (·.id) = [2,4] := by
  obtain ⟨b,m',w',hr,-,hreplaced⟩ :=
    reinit_frame lanInit 0 0 4 0 () twoDevices_reachable (by decide)
  have hout : (twoDevices.reinit lanInit 0 0 4 0 ()).map (fun r => (r.1,r.2.1.nodes.map (·.id))) =
      some (true,[2,4]) := by decide
  rw [hr,Option.map_some,Option.some.injEq,Prod.mk.injEq] at hout
  obtain ⟨rfl,hids⟩ := hout
  obtain ⟨n,c,init,-,-,-,-,h⟩ := hreplaced rfl
  refine ⟨m',hr,⟨c,h⟩,?_,hids⟩
  rw [h.others]
  decide

/-- The ids of the devices that have a record. -/
def registered (m : CommunicaManage F) : List Int :=
  (m.nodes.filter (·.com.isSome)).map (·.id)

theorem registered_represents {m : CommunicaManage F} {x : DeviceMap F}
    (h : Represents marked m x) : registered m = x.keys := by
  cases h with
  | sentinel b hb => rfl
  | live h =>
    have hall : (x.entries.map nodeOf).filter (·.com.isSome) = x.entries.map nodeOf := by
      refine List.filter_eq_self.mpr fun n hn => ?_
      obtain ⟨e,-,rfl⟩ := List.mem_map.mp hn
      rfl
    rw [registered,h,hall,map_nodeOf_id]
    rfl

/-- Every operation answers that `id` is not there, and does nothing. -/
structure Rejects (m : CommunicaManage F) (id : Int) : Prop where
  isExist : m.isExist id = false
  setEnable : m.setEnable id = (false,m)
  delete : m.deletecommunicateNode id = (false,m)
  callbackRgist : ∀ pos function, m.callbackRgist id pos function = some (false,m)
  reinit : ∀ {W : Type} (call : F → Int → W → Int × W) t₁ t₂ para w,
    m.reinit call t₁ t₂ id para w = some (false,m,w)
  getSingleFd : m.getSingleFd id = some (-1)

/-- All lookups meet the same nodes. -/
theorem rejects_iff_isExist {m : CommunicaManage F} {id : Int} :
    Rejects m id ↔ m.isExist id = false := by
  refine ⟨Rejects.isExist,fun h => ?_⟩
  have hnodes : ∀ n ∈ m.nodes, n.id ≠ id := by simpa [isExist] using h
  have hfind : m.findcommunicate id = none := by simpa [findcommunicate] using hnodes
  refine ⟨h,?_,?_,fun pos function => ?_,fun call t₁ t₂ para w => ?_,?_⟩
  · simp only [setEnable,hfind]
  · have hhead : m.head.id ≠ id := hnodes m.head List.mem_cons_self
    have hnext : m.next.any (fun n => n.id = id) = false := by
      simpa using fun n hn => hnodes n (List.mem_cons_of_mem _ hn)
    simp [deletecommunicateNode,hhead,hnext]
  · simp only [callbackRgist,hfind]
    split_ifs <;> rfl
  · simp only [CommunicaManage.reinit,hfind]
  · simp only [getSingleFd,hfind]

/-- The expectation about an id that is not registered. -/
def UnregisteredRejected (m : CommunicaManage F) (id : Int) : Prop :=
  Rejects m id ∧ m.getSize = (registered m).length

/-- The head of the empty list is counted, and answers to the id -1. -/
theorem unregistered_rejected_iff {m : CommunicaManage F} {id : Int} (hm : Reachable m)
    (hid : id ∉ registered m) :
    (UnregisteredRejected m id ↔ registered m ≠ []) ∧
      (Rejects m id ↔ registered m ≠ [] ∨ id ≠ -1) := by
  obtain ⟨x,hx⟩ := reachable_represents hm
  have hkeys := registered_represents hx
  rw [UnregisteredRejected,rejects_iff_isExist,hkeys]
  rw [hkeys] at hid
  cases hx with
  | sentinel b hb =>
    have hnone : (OrderedMap.empty : DeviceMap F).keys = [] := rfl
    simp [hnone,getSize,isExist,nodes,eq_comm]
  | live h =>
    have hsize : m.getSize = x.keys.length := by
      rw [getSize,h,OrderedMap.keys,List.length_map,List.length_map]
    have hex : m.isExist id = false := by
      rw [isExist,live_any h]
      simpa [OrderedMap.contains] using hid
    have hne : x.keys ≠ [] := by
      rw [ne_eq,OrderedMap.keys,List.map_eq_nil_iff]
      intro hnil
      simp [nodes,hnil] at h
    simp [hsize,hex,hne]

/-- After the LAN device is registered, the WiFi device is not there. -/
theorem lan_only_rejects : UnregisteredRejected lanManager 2 :=
  (unregistered_rejected_iff lanManager_reachable (by decide)).1.mpr (by decide)

/-- Before any device is registered, -1 is taken for the id of a device. -/
theorem empty_manager_accepts : ¬ ∀ (m : CommunicaManage Unit) (id : Int), Reachable m →
    id ∉ registered m → UnregisteredRejected m id := by
  intro hall
  have h := hall .new (-1) ⟨.new,[],rfl,.refl _⟩ (by decide)
  exact absurd h.1.isExist (by decide)

end ManagerFrame
end Sap9001
