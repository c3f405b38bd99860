import PtpMgmt.Wire.RoundTrip
import Mathlib.Data.Vector.Basic

set_option autoImplicit false

/-! # PTP types (`types.m4`, `types.cpp`)

The scalar types, the records and the parameters the messages are made of.

C++ enumerations over a fixed-width integer hold whatever the wire gave them, also values no
enumerator names. Those that the library only carries (accuracies, port states, network protocols)
are therefore their underlying integer here. Those it decides on are inductive types: the parse
result, the action and the TLV type, the last with a constructor for the values nobody named. -/

namespace PtpMgmt

/-! ## Enumerations -/

/-- `MNG_PARSE_ERROR_e`: what a build or a parse returns. -/
inductive MngParseError
  | ok
  | msg
  | sig
  | smpte
  | invalidId
  | invalidTlv
  | mismatchTlv
  | sizeMiss
  | tooSmall
  | size
  | val
  | header
  | action
  | unsupport
  | mem
  | auth
  | authNone
  | authWrong
  | authNokey
deriving DecidableEq, Repr, Inhabited

/-- `actionField_e`. -/
inductive ActionField
  | get
  | set
  | response
  | command
  | acknowledge
deriving DecidableEq, Repr, Inhabited

def ActionField.val : ActionField → UInt8
  | .get => 0
  | .set => 1
  | .response => 2
  | .command => 3
  | .acknowledge => 4

/-- `tlvType_e`. -/
inductive TlvType
  | management
  | managementErrorStatus
  | organizationExtension
  | requestUnicastTransmission
  | grantUnicastTransmission
  | cancelUnicastTransmission
  | acknowledgeCancelUnicastTransmission
  | pathTrace
  | alternateTimeOffsetIndicator
  | organizationExtensionPropagate
  | enhancedAccuracyMetrics
  | organizationExtensionDoNotPropagate
  | l1Sync
  | portCommunicationAvailability
  | protocolAddress
  | slaveRxSyncTimingData
  | slaveRxSyncComputedData
  | slaveTxEventTimestamps
  | cumulativeRateRatio
  | tlvPad
  | authentication
  | slaveDelayTimingDataNp
  | other (v : UInt16)
deriving DecidableEq, Repr

/-- The cast of a wire value to `tlvType_e`. -/
def TlvType.ofVal (v : UInt16) : TlvType :=
  if v = 0x0001 then .management
  else if v = 0x0002 then .managementErrorStatus
  else if v = 0x0003 then .organizationExtension
  else if v = 0x0004 then .requestUnicastTransmission
  else if v = 0x0005 then .grantUnicastTransmission
  else if v = 0x0006 then .cancelUnicastTransmission
  else if v = 0x0007 then .acknowledgeCancelUnicastTransmission
  else if v = 0x0008 then .pathTrace
  else if v = 0x0009 then .alternateTimeOffsetIndicator
  else if v = 0x4000 then .organizationExtensionPropagate
  else if v = 0x4001 then .enhancedAccuracyMetrics
  else if v = 0x8000 then .organizationExtensionDoNotPropagate
  else if v = 0x8001 then .l1Sync
  else if v = 0x8002 then .portCommunicationAvailability
  else if v = 0x8003 then .protocolAddress
  else if v = 0x8004 then .slaveRxSyncTimingData
  else if v = 0x8005 then .slaveRxSyncComputedData
  else if v = 0x8006 then .slaveTxEventTimestamps
  else if v = 0x8007 then .cumulativeRateRatio
  else if v = 0x8008 then .tlvPad
  else if v = 0x8009 then .authentication
  else if v = 0x7f00 then .slaveDelayTimingDataNp
  else .other v

/-- `implementSpecific_e`. -/
inductive ImplementSpecific
  | noImplementSpecific
  | linuxptp
deriving DecidableEq, Repr, Inhabited

/-- `msgType_e`: the low nibble of the first octet. -/
abbrev MsgType := UInt8

def MsgType.signaling : MsgType := 0xc
def MsgType.management : MsgType := 0xd

abbrev ManagementErrorId := UInt16
abbrev NetworkProtocol := UInt16
abbrev ClockAccuracyE := UInt8
abbrev FaultRecordE := UInt8
abbrev TimeSource := UInt8
abbrev PortState := UInt8
abbrev DelayMechanismE := UInt8
abbrev SMPTEmasterLockingStatus := UInt8
abbrev LinuxptpTimeStamp := UInt8
abbrev LinuxptpPowerProfileVersion := UInt16
abbrev LinuxptpUnicastState := UInt8

/-- `portState_e`. -/
def PortState.initializing : PortState := 1
def PortState.faulty : PortState := 2
def PortState.disabled : PortState := 3
def PortState.listening : PortState := 4
def PortState.preMaster : PortState := 5
def PortState.master : PortState := 6
def PortState.passive : PortState := 7
def PortState.uncalibrated : PortState := 8
def PortState.slave : PortState := 9

/-- `Float64_t`, as its 64 bits: on an IEEE 754 host `proc(Float64_t &)` copies them. -/
abbrev Float64 := UInt64

/-- `UINT48_MAX`. -/
def uint48Max : UInt64 := 0xffffffffffff

/-! ## Octet arrays and texts -/

/-- A fixed array of octets, `uint8_t v[n]`. -/
abbrev Octets (n : Nat) := List.Vector UInt8 n

/-- The array with the octets of `w`, cut or filled with zeros to `n`. -/
def Octets.ofList (n : Nat) (w : List UInt8) : Octets n :=
  ⟨(w ++ List.replicate n 0).take n, by simp⟩

instance (n : Nat) : Inhabited (Octets n) := ⟨Octets.ofList n []⟩

instance instInhabitedCounters (n : Nat) : Inhabited (List.Vector UInt64 n) := ⟨List.Vector.replicate n 0⟩

theorem Octets.ofList_toList {n : Nat} (v : Octets n) : Octets.ofList n v.toList = v := by
  apply List.Vector.toList_injective
  exact List.take_left' v.toList_length

/-- `Binary`: an octet string of any length. -/
abbrev Binary := List UInt8

/-! ## Records -/

structure TimeInterval where
  scaledNanoseconds : Int64
deriving DecidableEq, Inhabited

structure Timestamp where
  secondsField : UInt64
  nanosecondsField : UInt32
deriving DecidableEq, Inhabited

structure ClockIdentity where
  v : Octets 8
deriving DecidableEq, Inhabited

structure PortIdentity where
  clockIdentity : ClockIdentity
  portNumber : UInt16
deriving DecidableEq, Inhabited

structure PortAddress where
  networkProtocol : NetworkProtocol
  addressLength : UInt16
  addressField : Binary
deriving DecidableEq, Inhabited

structure ClockQuality where
  clockClass : UInt8
  clockAccuracy : ClockAccuracyE
  offsetScaledLogVariance : UInt16
deriving DecidableEq, Inhabited

/-- `PTPText_t`: the text is a `std::string`, so any octets. -/
structure PTPText where
  lengthField : UInt8
  textField : List UInt8
deriving DecidableEq, Inhabited

structure FaultRecord where
  faultRecordLength : UInt16
  faultTime : Timestamp
  severityCode : FaultRecordE
  faultName : PTPText
  faultValue : PTPText
  faultDescription : PTPText
deriving DecidableEq, Inhabited

structure AcceptableMaster where
  acceptablePortIdentity : PortIdentity
  alternatePriority1 : UInt8
deriving DecidableEq, Inhabited

structure LinuxptpUnicastMaster where
  portIdentity : PortIdentity
  clockQuality : ClockQuality
  selected : UInt8
  portState : LinuxptpUnicastState
  priority1 : UInt8
  priority2 : UInt8
  portAddress : PortAddress
deriving DecidableEq, Inhabited

/-! ## The `size` methods -/

def TimeInterval.size : Nat := 8

def Timestamp.size : Nat := 6 + 4

def ClockIdentity.size : Nat := 8

theorem ClockIdentity.size_pos : 0 < ClockIdentity.size := by decide

def PortIdentity.size : Nat := ClockIdentity.size + 2

def PortAddress.size (d : PortAddress) : Nat := 2 + 2 + d.addressField.length

def ClockQuality.size : Nat := 1 + 1 + 2

def PTPText.size (d : PTPText) : Nat := 1 + d.textField.length

def FaultRecord.size (d : FaultRecord) : Nat :=
  2 + Timestamp.size + 1 + d.faultName.size + d.faultValue.size + d.faultDescription.size

def AcceptableMaster.size : Nat := PortIdentity.size + 1

def LinuxptpUnicastMaster.size (d : LinuxptpUnicastMaster) : Nat :=
  PortIdentity.size + ClockQuality.size + 1 + 1 + 1 + 1 + d.portAddress.size

/-! ## Message parameters -/

/-- `MsgParams_RcvAuth_e`, the bits of `MsgParams::rcvAuth`. -/
def rcvAuthMng : UInt8 := 1

def rcvAuthSigLast : UInt8 := 2

def rcvAuthSigAll : UInt8 := 4

def rcvAuthAll : UInt8 := 7

def rcvAuthIgnore : UInt8 := 8

/-- `MsgParams`. The signalling filter is the list of the keys of the `allowSigTlvs` map. -/
structure MsgParams where
  transportSpecific : UInt8
  domainNumber : UInt8
  boundaryHops : UInt8
  minorVersion : UInt8
  isUnicast : Bool
  implementSpecific : ImplementSpecific
  target : PortIdentity
  selfId : PortIdentity
  useZeroGet : Bool
  rcvSignaling : Bool
  filterSignaling : Bool
  rcvSMPTEOrg : Bool
  sendAuth : Bool
  rcvAuth : UInt8
  allowSigTlvs : List TlvType

namespace MsgParams

def isSigTlv (p : MsgParams) (type : TlvType) : Bool := p.allowSigTlvs.contains type

/-- Is a bit of `rcvAuth` set? -/
def rcvAuthHas (p : MsgParams) (bits : UInt8) : Bool := p.rcvAuth &&& bits > 0

/-- `MsgParams::MsgParams()`. -/
def init : MsgParams where
  transportSpecific := 0
  domainNumber := 0
  boundaryHops := 1
  minorVersion := 0
  isUnicast := true
  implementSpecific := .linuxptp
  target := ⟨⟨Octets.ofList 8 (List.replicate 8 0xff)⟩, 0xffff⟩
  selfId := ⟨⟨Octets.ofList 8 []⟩, 0⟩
  useZeroGet := true
  rcvSignaling := false
  filterSignaling := true
  rcvSMPTEOrg := true
  sendAuth := true
  rcvAuth := rcvAuthAll
  allowSigTlvs := []

end MsgParams

end PtpMgmt
