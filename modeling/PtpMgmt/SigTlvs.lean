import PtpMgmt.MngTlvs.Codec

set_option autoImplicit false

/-! # Signalling TLVs (`sigTlvs.m4`, `sigTlvs.cpp`)

The structures of the signalling TLVs and their codec functions. The library only parses signalling
messages, but the functions are written like those of the management TLVs, for both directions. -/

namespace PtpMgmt

open Wire Codec

/-! ## Structures -/

/-- `MANAGEMENT_t`: a management TLV in a signalling message. -/
structure Management where
  managementId : MngId
  tlvData : TlvPtr

structure ManagementErrorStatus where
  managementId : MngId
  managementErrorId : ManagementErrorId
  displayData : PTPText

structure OrganizationExtension where
  organizationId : Octets 3
  organizationSubType : Octets 3
  dataField : Binary
deriving Inhabited

structure PathTrace where
  pathSequence : List ClockIdentity
deriving Inhabited

structure AlternateTimeOffsetIndicator where
  keyField : UInt8
  currentOffset : Int32
  jumpSeconds : Int32
  timeOfNextJump : UInt64
  displayName : PTPText
deriving Inhabited

structure EnhancedAccuracyMetrics where
  bcHopCount : UInt8
  tcHopCount : UInt8
  maxGmInaccuracy : TimeInterval
  varGmInaccuracy : Float64
  maxTransientInaccuracy : TimeInterval
  varTransientInaccuracy : Float64
  maxDynamicInaccuracy : TimeInterval
  varDynamicInaccuracy : Float64
  maxStaticInstanceInaccuracy : TimeInterval
  varStaticInstanceInaccuracy : Float64
  maxStaticMediumInaccuracy : TimeInterval
  varStaticMediumInaccuracy : Float64
deriving Inhabited

structure L1Sync where
  flags1 : UInt8
  flags2 : UInt8
  flags3 : UInt8
  phaseOffsetTx : TimeInterval
  phaseOffsetTxTimestamp : Timestamp
  freqOffsetTx : TimeInterval
  freqOffsetTxTimestamp : Timestamp
deriving Inhabited

def L1Sync.flagsMask1 : UInt8 := 0xf

def L1Sync.flagsMask2 : UInt8 := 0x7

def L1Sync.flagsMask3 : UInt8 := 0x7

def L1Sync.optParamsEnabled : UInt8 := 0x8

structure PortCommunicationAvailability where
  syncMessageAvailability : UInt8
  delayRespMessageAvailability : UInt8
deriving Inhabited

def PortCommunicationAvailability.flagsMask1 : UInt8 := 0xf

def PortCommunicationAvailability.flagsMask2 : UInt8 := 0xf

structure ProtocolAddress where
  portProtocolAddress : PortAddress
deriving Inhabited

structure SlaveRxSyncTimingDataRec where
  sequenceId : UInt16
  syncOriginTimestamp : Timestamp
  totalCorrectionField : TimeInterval
  scaledCumulativeRateOffset : Int32
  syncEventIngressTimestamp : Timestamp
deriving Inhabited

def SlaveRxSyncTimingDataRec.size : Nat := 2 + 2 * Timestamp.size + TimeInterval.size + 4

structure SlaveRxSyncTimingData where
  syncSourcePortIdentity : PortIdentity
  list : List SlaveRxSyncTimingDataRec
deriving Inhabited

structure SlaveRxSyncComputedDataRec where
  sequenceId : UInt16
  offsetFromMaster : TimeInterval
  meanPathDelay : TimeInterval
  scaledNeighborRateRatio : Int32
deriving Inhabited

def SlaveRxSyncComputedDataRec.size : Nat := 2 + 2 * TimeInterval.size + 4

structure SlaveRxSyncComputedData where
  sourcePortIdentity : PortIdentity
  computedFlags : UInt8
  list : List SlaveRxSyncComputedDataRec
deriving Inhabited

def SlaveRxSyncComputedData.flagsMask : UInt8 := 0x7

structure SlaveTxEventTimestampsRec where
  sequenceId : UInt16
  eventEgressTimestamp : Timestamp
deriving Inhabited

def SlaveTxEventTimestampsRec.size : Nat := 2 + Timestamp.size

structure SlaveTxEventTimestamps where
  sourcePortIdentity : PortIdentity
  eventMessageType : MsgType
  list : List SlaveTxEventTimestampsRec
deriving Inhabited

structure CumulativeRateRatio where
  scaledCumulativeRateRatio : Int32
deriving Inhabited

structure SlaveDelayTimingDataNpRec where
  sequenceId : UInt16
  delayOriginTimestamp : Timestamp
  totalCorrectionField : TimeInterval
  delayResponseTimestamp : Timestamp
deriving Inhabited

def SlaveDelayTimingDataNpRec.size : Nat := 2 + TimeInterval.size + 2 * Timestamp.size

structure SlaveDelayTimingDataNp where
  sourcePortIdentity : PortIdentity
  list : List SlaveDelayTimingDataNpRec
deriving Inhabited

/-- `BaseSigTlv`: an object of one of the classes derived from it. -/
inductive BaseSigTlv
  | management (d : Management)
  | managementErrorStatus (d : ManagementErrorStatus)
  | organizationExtension (d : OrganizationExtension)
  | pathTrace (d : PathTrace)
  | alternateTimeOffsetIndicator (d : AlternateTimeOffsetIndicator)
  | enhancedAccuracyMetrics (d : EnhancedAccuracyMetrics)
  | l1Sync (d : L1Sync)
  | portCommunicationAvailability (d : PortCommunicationAvailability)
  | protocolAddress (d : ProtocolAddress)
  | slaveRxSyncTimingData (d : SlaveRxSyncTimingData)
  | slaveRxSyncComputedData (d : SlaveRxSyncComputedData)
  | slaveTxEventTimestamps (d : SlaveTxEventTimestamps)
  | cumulativeRateRatio (d : CumulativeRateRatio)
  | slaveDelayTimingDataNp (d : SlaveDelayTimingDataNp)

/-- Its pointer was never assigned. -/
def BaseSigTlv.isWild : BaseSigTlv → Bool
  | .management d => d.tlvData.isWild
  | _ => false

/-! ## Records -/

instance : HasProc SlaveRxSyncTimingDataRec where
  proc d := do
    return { sequenceId := ← proc d.sequenceId
             syncOriginTimestamp := ← proc d.syncOriginTimestamp
             totalCorrectionField := ← proc d.totalCorrectionField
             scaledCumulativeRateOffset := ← proc d.scaledCumulativeRateOffset
             syncEventIngressTimestamp := ← proc d.syncEventIngressTimestamp }

instance : HasProc SlaveRxSyncComputedDataRec where
  proc d := do
    return { sequenceId := ← proc d.sequenceId
             offsetFromMaster := ← proc d.offsetFromMaster
             meanPathDelay := ← proc d.meanPathDelay
             scaledNeighborRateRatio := ← proc d.scaledNeighborRateRatio }

instance : HasProc SlaveTxEventTimestampsRec where
  proc d := do
    return { sequenceId := ← proc d.sequenceId
             eventEgressTimestamp := ← proc d.eventEgressTimestamp }

instance : HasProc SlaveDelayTimingDataNpRec where
  proc d := do
    return { sequenceId := ← proc d.sequenceId
             delayOriginTimestamp := ← proc d.delayOriginTimestamp
             totalCorrectionField := ← proc d.totalCorrectionField
             delayResponseTimestamp := ← proc d.delayResponseTimestamp }

section Progress

-- every record begins with its sequence id

variable {α : Type} (k : UInt16 → Proc α)

theorem consumes_sequenceId (v : UInt16) : Consumes (proc v >>= k) :=
  inferInstanceAs (Consumes (procBU 2 UInt16.toNat UInt16.ofNat v >>= k))

instance : Progress SlaveRxSyncTimingDataRec := consumes_sequenceId _ _
instance : Progress SlaveRxSyncComputedDataRec := consumes_sequenceId _ _
instance : Progress SlaveTxEventTimestampsRec := consumes_sequenceId _ _
instance : Progress SlaveDelayTimingDataNpRec := consumes_sequenceId _ _

end Progress

/-! ## Codec functions -/

/-- The data takes all that is left. -/
def organizationExtensionF (d : OrganizationExtension) : Proc OrganizationExtension := do
  let organizationId ← procOctets d.organizationId
  let organizationSubType ← procOctets d.organizationSubType
  let left ← getLeft
  let dataField ← procBinary d.dataField (UInt16.ofNat left.toNat)
  return { organizationId, organizationSubType, dataField }

def pathTraceF (d : PathTrace) : Proc PathTrace := do
  return { pathSequence := ← vectorO ClockIdentity.size ClockIdentity.size_pos d.pathSequence }

def alternateTimeOffsetIndicatorF (d : AlternateTimeOffsetIndicator) :
    Proc AlternateTimeOffsetIndicator := do
  return { keyField := ← proc d.keyField
           currentOffset := ← proc d.currentOffset
           jumpSeconds := ← proc d.jumpSeconds
           timeOfNextJump := ← proc48 d.timeOfNextJump
           displayName := ← proc d.displayName }

def enhancedAccuracyMetricsF (d : EnhancedAccuracyMetrics) : Proc EnhancedAccuracyMetrics := do
  let bcHopCount ← proc d.bcHopCount
  let tcHopCount ← proc d.tcHopCount
  procRes
  procRes
  return { bcHopCount, tcHopCount
           maxGmInaccuracy := ← proc d.maxGmInaccuracy
           varGmInaccuracy := ← proc d.varGmInaccuracy
           maxTransientInaccuracy := ← proc d.maxTransientInaccuracy
           varTransientInaccuracy := ← proc d.varTransientInaccuracy
           maxDynamicInaccuracy := ← proc d.maxDynamicInaccuracy
           varDynamicInaccuracy := ← proc d.varDynamicInaccuracy
           maxStaticInstanceInaccuracy := ← proc d.maxStaticInstanceInaccuracy
           varStaticInstanceInaccuracy := ← proc d.varStaticInstanceInaccuracy
           maxStaticMediumInaccuracy := ← proc d.maxStaticMediumInaccuracy
           varStaticMediumInaccuracy := ← proc d.varStaticMediumInaccuracy }

/-- The extended parameters are zero when the TLV is not extended. -/
def l1SyncF (d : L1Sync) : Proc L1Sync := do
  let flags1 ← procFlags d.flags1 L1Sync.flagsMask1
  let flags2 ← procFlags d.flags2 L1Sync.flagsMask2
  if flags1 &&& L1Sync.optParamsEnabled > 0 then
    return { flags1, flags2
             flags3 := ← procFlags d.flags3 L1Sync.flagsMask3
             phaseOffsetTx := ← proc d.phaseOffsetTx
             phaseOffsetTxTimestamp := ← proc d.phaseOffsetTxTimestamp
             freqOffsetTx := ← proc d.freqOffsetTx
             freqOffsetTxTimestamp := ← proc d.freqOffsetTxTimestamp }
  else
    return { flags1, flags2
             flags3 := 0
             phaseOffsetTx := ⟨0⟩
             phaseOffsetTxTimestamp := ⟨0, 0⟩
             freqOffsetTx := ⟨0⟩
             freqOffsetTxTimestamp := ⟨0, 0⟩ }

def portCommunicationAvailabilityF (d : PortCommunicationAvailability) :
    Proc PortCommunicationAvailability := do
  return { syncMessageAvailability :=
             ← procFlags d.syncMessageAvailability PortCommunicationAvailability.flagsMask1
           delayRespMessageAvailability :=
             ← procFlags d.delayRespMessageAvailability PortCommunicationAvailability.flagsMask2 }

def protocolAddressF (d : ProtocolAddress) : Proc ProtocolAddress := do
  return { portProtocolAddress := ← proc d.portProtocolAddress }

def slaveRxSyncTimingDataF (d : SlaveRxSyncTimingData) : Proc SlaveRxSyncTimingData := do
  return { syncSourcePortIdentity := ← proc d.syncSourcePortIdentity
           list := ← vectorO SlaveRxSyncTimingDataRec.size (by decide) d.list }

def slaveRxSyncComputedDataF (d : SlaveRxSyncComputedData) : Proc SlaveRxSyncComputedData := do
  let sourcePortIdentity ← proc d.sourcePortIdentity
  let computedFlags ← procFlags d.computedFlags SlaveRxSyncComputedData.flagsMask
  procRes
  return { sourcePortIdentity, computedFlags
           list := ← vectorO SlaveRxSyncComputedDataRec.size (by decide) d.list }

def slaveTxEventTimestampsF (d : SlaveTxEventTimestamps) : Proc SlaveTxEventTimestamps := do
  let sourcePortIdentity ← proc d.sourcePortIdentity
  let eventMessageType ← proc d.eventMessageType
  procRes
  return { sourcePortIdentity, eventMessageType
           list := ← vectorO SlaveTxEventTimestampsRec.size (by decide) d.list }

def cumulativeRateRatioF (d : CumulativeRateRatio) : Proc CumulativeRateRatio := do
  return { scaledCumulativeRateRatio := ← proc d.scaledCumulativeRateRatio }

def slaveDelayTimingDataNpF (d : SlaveDelayTimingDataNp) : Proc SlaveDelayTimingDataNp := do
  return { sourcePortIdentity := ← proc d.sourcePortIdentity
           list := ← vectorO SlaveDelayTimingDataNpRec.size (by decide) d.list }

/-- The OUI of SMPTE. -/
def smpteOrganizationId : List UInt8 := [0x68, 0x97, 0xe8]

def smpteOrganizationExtensionF (d : SmpteOrganizationExtension) :
    Proc SmpteOrganizationExtension := do
  let organizationId ← procOctets d.organizationId
  if organizationId.toList ≠ smpteOrganizationId then failWith .invalidId (by decide)
  else
    return { organizationId
             organizationSubType := ← procOctets d.organizationSubType
             defaultSystemFrameRateNumerator := ← proc d.defaultSystemFrameRateNumerator
             defaultSystemFrameRateDenominator := ← proc d.defaultSystemFrameRateDenominator
             masterLockingStatus := ← proc d.masterLockingStatus
             timeAddressFlags := ← proc d.timeAddressFlags
             currentLocalOffset := ← proc d.currentLocalOffset
             jumpSeconds := ← proc d.jumpSeconds
             timeOfNextJump := ← proc48 d.timeOfNextJump
             timeOfNextJam := ← proc48 d.timeOfNextJam
             timeOfPreviousJam := ← proc48 d.timeOfPreviousJam
             previousJamLocalOffset := ← proc d.previousJamLocalOffset
             daylightSaving := ← proc d.daylightSaving
             leapSecondJump := ← proc d.leapSecondJump }

end PtpMgmt
