import Sap9001.Bytes

/-! The device identity of the context singleton (`core/device_context.h`) and the protocol
constants (`protocol/constants.h`). -/
namespace Sap9001

def reqRegister : Str := str "01"
def reqRegConfirm : Str := str "02"
def reqData : Str := str "03"
def reqSendInfo : Str := str "17"
def timeSend : Str := str "20"

/-- Size of the receive buffer, the greatest length of a packet. -/
def rxSize : ℕ := 1024

structure DeviceIdentity where
  id : Str := str "FF"
  netId : Str := str "0000"
  mac : Str := []
  btMac : Str := []
  isrMac : Str := []
  currentTime : Str := []
  cpuOccupy : Str := []
  communicateStatus : Str := str "000000"
  monitorTime : Int := 4

/-- Indices outside 0..5 are ignored. -/
def DeviceIdentity.setCommunicateStatus (i : DeviceIdentity) (index : Int) (val : UInt8) :
    DeviceIdentity :=
  if 0 ≤ index ∧ index < 6 then
    { i with communicateStatus := i.communicateStatus.set index.toNat val }
  else i

def DeviceIdentity.getCommunicateStatus (i : DeviceIdentity) : Str := cstr i.communicateStatus

end Sap9001
