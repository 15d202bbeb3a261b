import Sap9001.CircuitBreaker
import Sap9001.Library.OrderedMap
import Mathlib.Data.Fintype.Pi

/-! The manager of communication devices (`infra/communica_manage.h`, `.cpp`): a linked
list that always has a head node. A head without a communicate record stands for the
empty list. Following a missing record is undefined in the source and is `none` here. -/
namespace Sap9001

variable {F W : Type}

/-- `F` is the type of callbacks that the three slots hold. -/
structure Communicate (F : Type) where
  fd : Int
  reback : Fin 3 → Option F
  timecount : Int
  timeout : Int
  breaker : CircuitBreaker

/-- The callback that `reinit` calls. -/
abbrev Communicate.initCallback (c : Communicate F) : Option F := c.reback 0

structure CommunicateNode (F : Type) where
  com : Option (Communicate F)
  id : Int
  enabled : Bool

def CommunicateNode.empty : CommunicateNode F := ⟨none,-1,false⟩

structure CommunicaManage (F : Type) where
  head : CommunicateNode F
  next : List (CommunicateNode F)

namespace CommunicaManage

def new : CommunicaManage F := ⟨.empty,[]⟩

def nodes (m : CommunicaManage F) : List (CommunicateNode F) := m.head::m.next

def findcommunicate (m : CommunicaManage F) (id : Int) : Option (CommunicateNode F) :=
  m.nodes.find? (fun n => n.id = id)

/-- Write through the pointer that `findcommunicate` returns. -/
def updateNode (m : CommunicaManage F) (id : Int) (f : CommunicateNode F → CommunicateNode F) :
    CommunicaManage F :=
  if m.head.id = id then ⟨f m.head,m.next⟩
  else ⟨m.head,OrderedMap.updateFirst (fun n => n.id = id) f m.next⟩

def updateCom (m : CommunicaManage F) (id : Int) (f : Communicate F → Communicate F) :
    CommunicaManage F :=
  m.updateNode id (fun n => { n with com := n.com.map f })

def createComnode (fd timeout : Int) : Communicate F where
  fd := fd
  reback := fun _ => none
  timecount := -1
  timeout := timeout
  breaker := .new

def insertNode (m : CommunicaManage F) (id : Int) (com : Communicate F) :
    Bool × CommunicaManage F :=
  if m.head.com.isNone then (true,⟨⟨some com,id,false⟩,m.next⟩)
  else if m.nodes.any (fun n => n.id = id) then (false,m)
  else (true,⟨m.head,m.next ++ [⟨some com,id,false⟩]⟩)

/-- The overload with a timeout threshold. -/
def addCommunicateNodeTimeout (m : CommunicaManage F) (id fd timeout : Int) :
    Bool × CommunicaManage F :=
  m.insertNode id (createComnode fd timeout)

/-- The overload for a device that is not initialised. -/
def addCommunicateNodeEmpty (m : CommunicaManage F) (id : Int) : Bool × CommunicaManage F :=
  m.insertNode id (createComnode (-1) (-1))

def addCommunicateNode (m : CommunicaManage F) (id fd : Int) : Bool × CommunicaManage F :=
  m.insertNode id (createComnode fd (-1))

def deletecommunicateNode (m : CommunicaManage F) (id : Int) : Bool × CommunicaManage F :=
  if m.head.id = id then
    match m.next with
    | n::ns => (true,⟨n,ns⟩)
    | [] => (true,new)
  else if m.next.any (fun n => n.id = id) then
    (true,⟨m.head,m.next.eraseP (fun n => n.id = id)⟩)
  else (false,m)

/-- The index of a callback slot whose position is in range. -/
def slot (pos : Int) (h : ¬ (pos < 0 ∨ pos > 2)) : Fin 3 := ⟨pos.toNat,by omega⟩

def callbackRgist (m : CommunicaManage F) (id pos : Int) (function : Option F) :
    Option (Bool × CommunicaManage F) :=
  if h : pos < 0 ∨ pos > 2 then some (false,m)
  else
    match m.findcommunicate id with
    | none => some (false,m)
    | some temp =>
      if temp.com.isNone then none
      else some (true,m.updateCom id fun c =>
        { c with reback := Function.update c.reback (slot pos h) function })

def getSingleFd (m : CommunicaManage F) (id : Int) : Option Int :=
  match m.findcommunicate id with
  | none => some (-1)
  | some temp => temp.com.map (·.fd)

def getAllFd (m : CommunicaManage F) : List Int :=
  m.nodes.filterMap (fun n => n.com.map (·.fd))

/-- Rows `{id, fd}`, sorted with the comparison `cmp` of the first components. -/
def getALLIfd (m : CommunicaManage F) : List (Int × Int) :=
  (m.nodes.filterMap (fun n => n.com.map fun c => (n.id,c.fd))).mergeSort
    (fun a b => !decide (b.1 < a.1))

def getSuccessFd (m : CommunicaManage F) : Int :=
  ((m.nodes.filter (·.enabled)).findSome? (fun n => n.com.map (·.fd))).getD (-1)

def getSuccessId (m : CommunicaManage F) : Int :=
  ((m.nodes.find? (·.enabled)).map (·.id)).getD (-1)

def setEnable (m : CommunicaManage F) (id : Int) : Bool × CommunicaManage F :=
  match m.findcommunicate id with
  | some _ => (true,m.updateNode id (fun n => { n with enabled := true }))
  | none => (false,m)

def getSize (m : CommunicaManage F) : ℕ := m.nodes.length

def isExist (m : CommunicaManage F) (id : Int) : Bool := m.nodes.any (fun n => n.id = id)

/-- The loop over the slots that puts the saved callbacks back. -/
def restoreCallbacks (id : Int) (callbacks : Fin 3 → Option F) :
    List (Fin 3) → CommunicaManage F → Option (CommunicaManage F)
  | [], m => some m
  | i::is, m =>
    match callbacks i with
    | some f => (m.callbackRgist id i (some f)).bind fun r => restoreCallbacks id callbacks is r.2
    | none => restoreCallbacks id callbacks is m

/-- `call f para w` runs a callback in the environment `w`, which does not hold the
manager. The clock reads `t₁` in `allowRequest` and `t₂` in `recordFailure`. -/
def reinit (call : F → Int → W → Int × W) (t₁ t₂ : UInt64) (m : CommunicaManage F)
    (id para : Int) (w : W) : Option (Bool × CommunicaManage F × W) :=
  match m.findcommunicate id with
  | none => some (false,m,w)
  | some temp =>
    match temp.com with
    | none => none
    | some com =>
      let allowed := com.breaker.allowRequest t₁
      let m₁ := m.updateCom id (fun c => { c with breaker := allowed.2 })
      if !allowed.1 then some (false,m₁,w)
      else
        match com.initCallback with
        | none => some (false,m₁,w)
        | some init =>
          let r := call init para w
          if r.1 < 0 then
            some (false,m₁.updateCom id (fun c => { c with breaker := c.breaker.recordFailure t₂ }),r.2)
          else
            let m₂ := m₁.updateCom id (fun c => { c with breaker := c.breaker.recordSuccess })
            let m₃ := (m₂.deletecommunicateNode id).2
            let added := m₃.addCommunicateNode id r.1
            if !added.1 then some (false,added.2,r.2)
            else (restoreCallbacks id com.reback [0,1,2] added.2).map fun m₄ => (true,m₄,r.2)

end CommunicaManage
end Sap9001
