import Sap9001.CommunicaManage
import Sap9001.Library.StepSystem

/-! The device manager as an insertion-ordered map from device ids to records. The
representation relation says which list of nodes stands for which map; every operation
of the manager is simulated by an operation of the map. -/
namespace Sap9001

variable {F : Type}

/-- A registered device: its communicate record and whether it is enabled. -/
structure DeviceEntry (F : Type) where
  com : Communicate F
  enabled : Bool

/-- An entry with the function in one callback slot. -/
def DeviceEntry.withCallback (pos : Fin 3) (function : Option F) (d : DeviceEntry F) :
    DeviceEntry F :=
  { d with com := { d.com with reback := Function.update d.com.reback pos function } }

/-- An entry whose breaker has been changed. -/
def DeviceEntry.withBreaker (f : CircuitBreaker → CircuitBreaker) (d : DeviceEntry F) :
    DeviceEntry F :=
  { d with com := { d.com with breaker := f d.com.breaker } }

abbrev DeviceMap (F : Type) := OrderedMap Int (DeviceEntry F)

namespace DeviceMap

def nodeOf (e : Int × DeviceEntry F) : CommunicateNode F := ⟨some e.2.com,e.1,e.2.enabled⟩

@[simp] theorem nodeOf_id (e : Int × DeviceEntry F) : (nodeOf e).id = e.1 := rfl
@[simp] theorem nodeOf_com (e : Int × DeviceEntry F) : (nodeOf e).com = some e.2.com := rfl
@[simp] theorem nodeOf_enabled (e : Int × DeviceEntry F) : (nodeOf e).enabled = e.2.enabled := rfl

/-- The empty map is a lone head without record; any other map is its list of nodes.
With `marked` the lone head may be enabled, which only a call with id -1 can do. -/
inductive Represents (marked : Bool) : CommunicaManage F → DeviceMap F → Prop
  | sentinel (b : Bool) (hb : b = true → marked = true) :
      Represents marked ⟨⟨none,-1,b⟩,[]⟩ .empty
  | live {m : CommunicaManage F} {x : DeviceMap F} (h : m.nodes = x.entries.map nodeOf) :
      Represents marked m x

open CommunicaManage

variable {marked : Bool}

@[simp] theorem nodes_updateNode (m : CommunicaManage F) (id : Int)
    (f : CommunicateNode F → CommunicateNode F) :
    (m.updateNode id f).nodes = OrderedMap.updateFirst (fun n => n.id = id) f m.nodes := by
  unfold updateNode nodes
  by_cases h : m.head.id = id <;> simp [OrderedMap.updateFirst,h]

section Live

variable {m : CommunicaManage F} {x : DeviceMap F} (h : m.nodes = x.entries.map nodeOf)
include h

theorem live_head_com : m.head.com.isSome = true := by
  have hmem : m.head ∈ x.entries.map nodeOf := h ▸ List.mem_cons_self
  obtain ⟨e,_,he⟩ := List.mem_map.mp hmem
  rw [← he]
  rfl

theorem live_any (id : Int) : m.nodes.any (fun n => n.id = id) = x.contains id := by
  have hp : (fun n : CommunicateNode F => decide (n.id = id)) ∘ nodeOf =
      fun e : Int × DeviceEntry F => decide (e.1 = id) := rfl
  rw [h,List.any_map,hp,Bool.eq_iff_iff,OrderedMap.contains_iff]
  simp

theorem live_find (id : Int) :
    m.findcommunicate id = (x.lookup id).map (fun d => nodeOf (id,d)) := by
  have hp : (fun n : CommunicateNode F => decide (n.id = id)) ∘ nodeOf =
      fun e : Int × DeviceEntry F => decide (e.1 = id) := rfl
  unfold findcommunicate OrderedMap.lookup
  rw [h,List.find?_map,hp]
  cases hf : x.entries.find? (fun e => e.1 = id) with
  | none => rfl
  | some e =>
    have he : e.1 = id := by simpa using List.find?_some hf
    simp [← he]

/-- An update of one device's node is an update of its entry. -/
theorem live_updateNode (id : Int) {f : CommunicateNode F → CommunicateNode F}
    {g : DeviceEntry F → DeviceEntry F} (hg : ∀ i d, f (nodeOf (i,d)) = nodeOf (i,g d)) :
    Represents marked (m.updateNode id f) (x.modify id g).2 := by
  apply Represents.live
  rw [nodes_updateNode,h,OrderedMap.updateFirst_map nodeOf (fun e => (e.1,g e.2))
    (fun e => hg e.1 e.2)]
  exact congrArg (List.map nodeOf) (x.updateFirst_eq_map id g)

end Live

theorem represents_new : Represents marked (.new : CommunicaManage F) .empty :=
  .sentinel false (by simp)

theorem insertNode_represents {m : CommunicaManage F} {x : DeviceMap F} (h : Represents marked m x)
    (id : Int) (com : Communicate F) :
    (m.insertNode id com).1 = (x.append id ⟨com,false⟩).1 ∧
      Represents marked (m.insertNode id com).2 (x.append id ⟨com,false⟩).2 := by
  cases h with
  | sentinel b hb =>
    refine ⟨rfl,.live ?_⟩
    rfl
  | live h =>
    have hcom : m.head.com.isNone = false := by
      simpa using live_head_com h
    have hany := live_any h id
    by_cases hmem : id ∈ x.keys
    · have hc : x.contains id = true := by simpa [OrderedMap.contains] using hmem
      simp only [insertNode,hcom,hany,hc,OrderedMap.append,hmem,dif_pos,if_true,
        Bool.false_eq_true,if_false]
      exact ⟨trivial,.live h⟩
    · have hc : x.contains id = false := by simpa [OrderedMap.contains] using hmem
      simp only [insertNode,hcom,hany,hc,OrderedMap.append,hmem,dif_neg,Bool.false_eq_true,
        if_false,not_false_eq_true]
      refine ⟨trivial,.live ?_⟩
      have happ : m.head::(m.next ++ [⟨some com,id,false⟩]) = m.nodes ++ [⟨some com,id,false⟩] :=
        rfl
      rw [nodes,happ,h,List.map_append]
      rfl

theorem deletecommunicateNode_represents {m : CommunicaManage F} {x : DeviceMap F}
    (h : Represents marked m x) (id : Int) (hid : x.entries = [] → id ≠ -1) :
    (m.deletecommunicateNode id).1 = (x.erase id).1 ∧
      Represents marked (m.deletecommunicateNode id).2 (x.erase id).2 := by
  cases h with
  | sentinel b hb =>
    have hne : id ≠ -1 := hid rfl
    have hne' : ¬ (-1 : Int) = id := fun h => hne h.symm
    simp only [deletecommunicateNode,hne',if_false,List.any_nil,Bool.false_eq_true]
    exact ⟨rfl,.sentinel b hb⟩
  | live h =>
    have hany := live_any h id
    have hnodes : m.head::m.next = x.entries.map nodeOf := h
    have herase : (x.erase id).2.entries.map nodeOf = m.nodes.eraseP (fun n => n.id = id) := by
      rw [h,List.eraseP_map]
      exact congrArg (List.map nodeOf) (x.eraseP_eq_filter id).symm
    by_cases hhead : m.head.id = id
    · have hc : x.contains id = true := by
        rw [← hany]
        simp [nodes,hhead]
      have hrest : m.nodes.eraseP (fun n => n.id = id) = m.next :=
        List.eraseP_cons_of_pos (by simpa using hhead)
      rw [hrest] at herase
      simp only [deletecommunicateNode,hhead,if_true]
      cases hn : m.next with
      | nil =>
        rw [hn,List.map_eq_nil_iff] at herase
        have hempty : (x.erase id).2 = .empty := OrderedMap.ext_entries herase
        refine ⟨hc.symm,?_⟩
        rw [hempty]
        exact represents_new
      | cons n ns =>
        refine ⟨hc.symm,.live ?_⟩
        rw [herase,hn]
        rfl
    · have hany' : m.next.any (fun n => n.id = id) = x.contains id := by
        rw [← hany]
        simp [nodes,hhead]
      simp only [deletecommunicateNode,hhead,if_false,hany']
      by_cases hc : x.contains id = true
      · simp only [hc,if_true]
        refine ⟨hc.symm,.live ?_⟩
        rw [herase]
        exact (List.eraseP_cons_of_neg (by simpa using hhead)).symm
      · have hc' : x.contains id = false := by simpa using hc
        have hsame : (x.erase id).2 = x := OrderedMap.erase_absent hc'
        simp only [hc',Bool.false_eq_true,if_false]
        refine ⟨hc'.symm,?_⟩
        rw [hsame]
        exact .live h

theorem findcommunicate_sentinel (b : Bool) {id : Int} (hid : id ≠ -1) :
    findcommunicate (⟨⟨none,-1,b⟩,[]⟩ : CommunicaManage F) id = none := by
  simp [findcommunicate,nodes,hid.symm]

/-- Finding a device follows the map, unless an id of -1 hits the empty list's head. -/
theorem findcommunicate_represents {m : CommunicaManage F} {x : DeviceMap F}
    (h : Represents marked m x) (id : Int) (hid : x.entries = [] → id ≠ -1) :
    m.findcommunicate id = (x.lookup id).map (fun d => nodeOf (id,d)) := by
  cases h with
  | sentinel b hb => exact findcommunicate_sentinel b (hid rfl)
  | live h => exact live_find h id

theorem contains_eq_isSome (x : DeviceMap F) (id : Int) :
    x.contains id = (x.lookup id).isSome := by
  rw [Bool.eq_iff_iff,OrderedMap.contains_iff,Option.isSome_iff_exists]
  simp [OrderedMap.lookup_eq_some]

theorem setEnable_represents {m : CommunicaManage F} {x : DeviceMap F} (h : Represents marked m x)
    (id : Int) (hid : x.entries = [] → id ≠ -1) :
    (m.setEnable id).1 = (x.modify id (fun d => { d with enabled := true })).1 ∧
      Represents marked (m.setEnable id).2 (x.modify id (fun d => { d with enabled := true })).2 := by
  have hfind := findcommunicate_represents h id hid
  have hc := contains_eq_isSome x id
  unfold setEnable
  cases hl : x.lookup id with
  | none =>
    rw [hl] at hfind hc
    rw [hfind]
    refine ⟨hc.symm,?_⟩
    rw [OrderedMap.modify_absent hc]
    exact h
  | some d =>
    rw [hl] at hfind hc
    rw [hfind]
    refine ⟨hc.symm,?_⟩
    cases h with
    | sentinel b hb => exact absurd hl (by simp [OrderedMap.lookup])
    | live h => exact live_updateNode h id (fun _ _ => rfl)

/-- Registering a callback in the map; a slot out of range is refused. -/
def rgist (x : DeviceMap F) (id pos : Int) (function : Option F) : Bool × DeviceMap F :=
  if h : pos < 0 ∨ pos > 2 then (false,x)
  else x.modify id (DeviceEntry.withCallback (CommunicaManage.slot pos h) function)

theorem callbackRgist_represents {m : CommunicaManage F} {x : DeviceMap F}
    (h : Represents marked m x) (id pos : Int) (function : Option F)
    (hid : x.entries = [] → id ≠ -1) :
    ∃ m', m.callbackRgist id pos function = some ((rgist x id pos function).1,m') ∧
      Represents marked m' (rgist x id pos function).2 := by
  unfold callbackRgist rgist
  by_cases hpos : pos < 0 ∨ pos > 2
  · simp only [hpos,dif_pos]
    exact ⟨m,rfl,h⟩
  · simp only [hpos,dif_neg,not_false_eq_true]
    have hfind := findcommunicate_represents h id hid
    have hc := contains_eq_isSome x id
    cases hl : x.lookup id with
    | none =>
      rw [hl] at hfind hc
      rw [hfind,OrderedMap.modify_absent hc]
      exact ⟨m,by rw [OrderedMap.modify,hc]; rfl,h⟩
    | some d =>
      rw [hl] at hfind hc
      rw [hfind]
      refine ⟨_,by rw [OrderedMap.modify,hc]; rfl,?_⟩
      cases h with
      | sentinel b hb => exact absurd hl (by simp [OrderedMap.lookup])
      | live h => exact live_updateNode h id (fun _ _ => rfl)

/-- The calls that change the manager, `reinit` apart. -/
inductive Call (F : Type)
  | addEmpty (id : Int)
  | add (id fd : Int)
  | addTimeout (id fd timeout : Int)
  | delete (id : Int)
  | callbackRgist (id pos : Int) (function : Option F)
  | setEnable (id : Int)

def Call.id : Call F → Int
  | .addEmpty id => id
  | .add id _ => id
  | .addTimeout id _ _ => id
  | .delete id => id
  | .callbackRgist id _ _ => id
  | .setEnable id => id

def perform : Call F → CommunicaManage F → Option (Bool × CommunicaManage F)
  | .addEmpty id, m => some (m.addCommunicateNodeEmpty id)
  | .add id fd, m => some (m.addCommunicateNode id fd)
  | .addTimeout id fd timeout, m => some (m.addCommunicateNodeTimeout id fd timeout)
  | .delete id, m => some (m.deletecommunicateNode id)
  | .callbackRgist id pos function, m => m.callbackRgist id pos function
  | .setEnable id, m => some (m.setEnable id)

/-- What each call is for, on the map: add appends a disabled entry, delete removes the
entry, the other two change one entry in place. -/
def spec : Call F → DeviceMap F → Bool × DeviceMap F
  | .addEmpty id, x => x.append id ⟨createComnode (-1) (-1),false⟩
  | .add id fd, x => x.append id ⟨createComnode fd (-1),false⟩
  | .addTimeout id fd timeout, x => x.append id ⟨createComnode fd timeout,false⟩
  | .delete id, x => x.erase id
  | .callbackRgist id pos function, x => rgist x id pos function
  | .setEnable id, x => x.modify id (fun d => { d with enabled := true })

theorem perform_represents {m : CommunicaManage F} {x : DeviceMap F} (h : Represents marked m x)
    (c : Call F) (hid : x.entries = [] → c.id ≠ -1) :
    ∃ m', perform c m = some ((spec c x).1,m') ∧ Represents marked m' (spec c x).2 := by
  cases c with
  | addEmpty id =>
    have hi := insertNode_represents h id (createComnode (-1) (-1))
    exact ⟨_,congrArg (fun b => some (b,_)) hi.1,hi.2⟩
  | add id fd =>
    have hi := insertNode_represents h id (createComnode fd (-1))
    exact ⟨_,congrArg (fun b => some (b,_)) hi.1,hi.2⟩
  | addTimeout id fd timeout =>
    have hi := insertNode_represents h id (createComnode fd timeout)
    exact ⟨_,congrArg (fun b => some (b,_)) hi.1,hi.2⟩
  | delete id =>
    have hd := deletecommunicateNode_represents h id hid
    exact ⟨_,congrArg (fun b => some (b,_)) hd.1,hd.2⟩
  | callbackRgist id pos function => exact callbackRgist_represents h id pos function hid
  | setEnable id =>
    have hs := setEnable_represents h id hid
    exact ⟨_,congrArg (fun b => some (b,_)) hs.1,hs.2⟩

/-- The queries of a manager answer as the map does. -/
structure Observes (m : CommunicaManage F) (x : DeviceMap F) : Prop where
  isExist : ∀ id, 0 ≤ id → m.isExist id = x.contains id
  getSingleFd : ∀ id, 0 ≤ id →
    m.getSingleFd id = some (((x.lookup id).map (·.com.fd)).getD (-1))
  getAllFd : m.getAllFd = x.entries.map (fun e => e.2.com.fd)
  getALLIfd_perm : m.getALLIfd.Perm (x.entries.map fun e => (e.1,e.2.com.fd))
  getALLIfd_strict : m.getALLIfd.Pairwise (fun a b => a.1 < b.1)
  getSuccessFd : m.getSuccessFd = ((x.first (·.enabled)).map (fun e => e.2.com.fd)).getD (-1)
  getSuccessId : m.getSuccessId = ((x.first (·.enabled)).map Prod.fst).getD (-1)

theorem isExist_represents {m : CommunicaManage F} {x : DeviceMap F}
    (h : Represents marked m x) (id : Int) (hid : x.entries = [] → id ≠ -1) :
    m.isExist id = x.contains id := by
  cases h with
  | sentinel b hb => simpa [isExist,nodes,OrderedMap.contains,OrderedMap.keys] using (hid rfl).symm
  | live h => exact live_any h id

theorem getSingleFd_represents {m : CommunicaManage F} {x : DeviceMap F}
    (h : Represents marked m x) (id : Int) (hid : x.entries = [] → id ≠ -1) :
    m.getSingleFd id = some (((x.lookup id).map (·.com.fd)).getD (-1)) := by
  unfold getSingleFd
  rw [findcommunicate_represents h id hid]
  cases x.lookup id <;> rfl

theorem filterMap_live {β : Type} {x : DeviceMap F} (g : Int → Communicate F → β) :
    (x.entries.map nodeOf).filterMap (fun n => n.com.map (g n.id)) =
      x.entries.map (fun e => g e.1 e.2.com) := by
  rw [List.filterMap_map]
  exact congrFun List.filterMap_eq_map x.entries

theorem getAllFd_represents {m : CommunicaManage F} {x : DeviceMap F}
    (h : Represents marked m x) : m.getAllFd = x.entries.map (fun e => e.2.com.fd) := by
  cases h with
  | sentinel b hb => rfl
  | live h =>
    rw [getAllFd,h]
    exact filterMap_live (fun _ c => c.fd)

/-- The sorted rows are the map's ids and descriptors in ascending order of id. -/
theorem getALLIfd_represents {m : CommunicaManage F} {x : DeviceMap F}
    (h : Represents marked m x) : m.getALLIfd = x.ascending (fun d => d.com.fd) := by
  have hcmp : (fun a b : Int × Int => !decide (b.1 < a.1)) = fun a b => decide (a.1 ≤ b.1) := by
    funext a b
    rw [← decide_not]
    simp only [not_lt]
  have hrows : m.nodes.filterMap (fun n => n.com.map fun c => (n.id,c.fd)) =
      x.entries.map (fun e => (e.1,e.2.com.fd)) := by
    cases h with
    | sentinel b hb => rfl
    | live h =>
      rw [h]
      exact filterMap_live (fun i c => (i,c.fd))
  rw [getALLIfd,hrows,hcmp]
  rfl

theorem findSome_live (es : List (Int × DeviceEntry F)) :
    ((es.map nodeOf).filter (·.enabled)).findSome? (fun n => n.com.map (·.fd)) =
      (es.find? (fun e => e.2.enabled)).map (fun e => e.2.com.fd) := by
  induction es with
  | nil => rfl
  | cons e es ih =>
    rw [List.map_cons,List.find?_cons,List.filter_cons,nodeOf_enabled]
    cases e.2.enabled with
    | true => rfl
    | false => exact ih

theorem getSuccessFd_represents {m : CommunicaManage F} {x : DeviceMap F}
    (h : Represents marked m x) :
    m.getSuccessFd = ((x.first (·.enabled)).map (fun e => e.2.com.fd)).getD (-1) := by
  cases h with
  | sentinel b hb => cases b <;> rfl
  | live h => rw [getSuccessFd,h,findSome_live]; rfl

theorem getSuccessId_represents {m : CommunicaManage F} {x : DeviceMap F}
    (h : Represents marked m x) :
    m.getSuccessId = ((x.first (·.enabled)).map Prod.fst).getD (-1) := by
  cases h with
  | sentinel b hb => cases b <;> rfl
  | live h =>
    have hp : (fun n : CommunicateNode F => n.enabled) ∘ nodeOf =
        fun e : Int × DeviceEntry F => e.2.enabled := rfl
    rw [getSuccessId,h,List.find?_map,hp,Option.map_map]
    rfl

theorem observes_of_represents {m : CommunicaManage F} {x : DeviceMap F}
    (h : Represents marked m x) : Observes m x where
  isExist id hid := isExist_represents h id (by omega)
  getSingleFd id hid := getSingleFd_represents h id (by omega)
  getAllFd := getAllFd_represents h
  getALLIfd_perm := getALLIfd_represents h ▸ x.ascending_perm _
  getALLIfd_strict := getALLIfd_represents h ▸ x.ascending_strict _
  getSuccessFd := getSuccessFd_represents h
  getSuccessId := getSuccessId_represents h

/-- From a fresh manager, every list of calls with non-negative ids returns what the
ordered map returns, follows no missing record, and leaves the queries in agreement. -/
theorem manager_refines_ordered_map (calls : List (Call F)) (hids : ∀ c ∈ calls, 0 ≤ c.id) :
    ∃ rs m x, StepSystem.performAll perform calls .new = some (rs,m) ∧
      StepSystem.performAll (fun c x => some (spec c x)) calls .empty = some (rs,x) ∧
      Observes m x := by
  obtain ⟨rs,m,x,hm,hx,hR⟩ := StepSystem.performAll_refines perform spec
    (Represents false) (fun c => 0 ≤ c.id)
    (fun c m x hid h => perform_represents h c (by omega)) calls hids represents_new
  exact ⟨rs,m,x,hm,hx,observes_of_represents hR⟩

/-- Two devices, one of them enabled, the other removed again. -/
theorem manager_refines_two_devices : ∃ rs m x,
    StepSystem.performAll perform
      [.add 4 6,.addTimeout 1 7 30,.setEnable 4,.callbackRgist 4 0 (some ()),.delete 1] .new =
        some (rs,m) ∧
      StepSystem.performAll (fun c x => some (spec c x))
        [.add 4 6,.addTimeout 1 7 30,.setEnable 4,.callbackRgist 4 0 (some ()),.delete 1] .empty =
        some (rs,x) ∧ Observes m x :=
  manager_refines_ordered_map _ (by decide)

end DeviceMap
end Sap9001
