import PtpMgmt.MngIds
import PtpMgmt.MsgProc.Basic

set_option autoImplicit false

/-! # Management TLVs (`mngTlvs.m4`)

One structure for every management id that has a dataField, under the name of the id, and the type
of all of them. The fields stand in the order of the source. -/

namespace PtpMgmt

/-! ## Structures -/

structure ClockDescription where
  clockType : UInt16
  physicalLayerProtocol : PTPText
  physicalAddressLength : UInt16
  physicalAddress : Binary
  protocolAddress : PortAddress
  manufacturerIdentity : Octets 3
  productDescription : PTPText
  revisionData : PTPText
  userDescription : PTPText
  profileIdentity : Octets 6
deriving Inhabited

structure UserDescription where
  userDescription : PTPText
deriving Inhabited

structure InitializeTlv where
  initializationKey : UInt16
deriving Inhabited

structure FaultLog where
  numberOfFaultRecords : UInt16
  faultRecords : List FaultRecord
deriving Inhabited

structure DefaultDataSet where
  flags : UInt8
  numberPorts : UInt16
  priority1 : UInt8
  clockQuality : ClockQuality
  priority2 : UInt8
  clockIdentity : ClockIdentity
  domainNumber : UInt8
deriving Inhabited

def DefaultDataSet.flagsMask : UInt8 := 0x3

structure CurrentDataSet where
  stepsRemoved : UInt16
  offsetFromMaster : TimeInterval
  meanPathDelay : TimeInterval
deriving Inhabited

structure ParentDataSet where
  parentPortIdentity : PortIdentity
  flags : UInt8
  observedParentOffsetScaledLogVariance : UInt16
  observedParentClockPhaseChangeRate : Int32
  grandmasterPriority1 : UInt8
  grandmasterClockQuality : ClockQuality
  grandmasterPriority2 : UInt8
  grandmasterIdentity : ClockIdentity
deriving Inhabited

def ParentDataSet.flagsMask : UInt8 := 0x1

structure TimePropertiesDataSet where
  currentUtcOffset : Int16
  flags : UInt8
  timeSource : TimeSource
deriving Inhabited

def TimePropertiesDataSet.flagsMask : UInt8 := 0x3f

structure PortDataSet where
  portIdentity : PortIdentity
  portState : PortState
  logMinDelayReqInterval : Int8
  peerMeanPathDelay : TimeInterval
  logAnnounceInterval : Int8
  announceReceiptTimeout : UInt8
  logSyncInterval : Int8
  delayMechanism : DelayMechanismE
  logMinPdelayReqInterval : Int8
  versionNumber : UInt8
deriving Inhabited

structure Priority1 where
  priority1 : UInt8
deriving Inhabited

structure Priority2 where
  priority2 : UInt8
deriving Inhabited

structure Domain where
  domainNumber : UInt8
deriving Inhabited

structure SlaveOnly where
  flags : UInt8
deriving Inhabited

def SlaveOnly.flagsMask : UInt8 := 0x1

structure LogAnnounceInterval where
  logAnnounceInterval : Int8
deriving Inhabited

structure AnnounceReceiptTimeout where
  announceReceiptTimeout : UInt8
deriving Inhabited

structure LogSyncInterval where
  logSyncInterval : Int8
deriving Inhabited

structure VersionNumber where
  versionNumber : UInt8
deriving Inhabited

structure Time where
  currentTime : Timestamp
deriving Inhabited

structure ClockAccuracy where
  clockAccuracy : ClockAccuracyE
deriving Inhabited

structure UtcProperties where
  currentUtcOffset : Int16
  flags : UInt8
deriving Inhabited

def UtcProperties.flagsMask : UInt8 := 0x7

structure TraceabilityProperties where
  flags : UInt8
deriving Inhabited

def TraceabilityProperties.flagsMask : UInt8 := 0x30

structure TimescaleProperties where
  flags : UInt8
  timeSource : TimeSource
deriving Inhabited

def TimescaleProperties.flagsMask : UInt8 := 0x8

structure UnicastNegotiationEnable where
  flags : UInt8
deriving Inhabited

def UnicastNegotiationEnable.flagsMask : UInt8 := 0x1

structure PathTraceList where
  pathSequence : List ClockIdentity
deriving Inhabited

structure PathTraceEnable where
  flags : UInt8
deriving Inhabited

def PathTraceEnable.flagsMask : UInt8 := 0x1

structure GrandmasterClusterTable where
  logQueryInterval : Int8
  actualTableSize : UInt8
  portAddress : List PortAddress
deriving Inhabited

structure UnicastMasterTable where
  logQueryInterval : Int8
  actualTableSize : UInt16
  portAddress : List PortAddress
deriving Inhabited

structure UnicastMasterMaxTableSize where
  maxTableSize : UInt16
deriving Inhabited

structure AcceptableMasterTable where
  actualTableSize : Int16
  list : List AcceptableMaster
deriving Inhabited

structure AcceptableMasterTableEnabled where
  flags : UInt8
deriving Inhabited

def AcceptableMasterTableEnabled.flagsMask : UInt8 := 0x1

structure AcceptableMasterMaxTableSize where
  maxTableSize : UInt16
deriving Inhabited

structure AlternateMaster where
  flags : UInt8
  logAlternateMulticastSyncInterval : Int8
  numberOfAlternateMasters : UInt8
deriving Inhabited

def AlternateMaster.flagsMask : UInt8 := 0x1

structure AlternateTimeOffsetEnable where
  keyField : UInt8
  flags : UInt8
deriving Inhabited

def AlternateTimeOffsetEnable.flagsMask : UInt8 := 0x1

structure AlternateTimeOffsetName where
  keyField : UInt8
  displayName : PTPText
deriving Inhabited

structure AlternateTimeOffsetMaxKey where
  maxKey : UInt8
deriving Inhabited

structure AlternateTimeOffsetProperties where
  keyField : UInt8
  currentOffset : Int32
  jumpSeconds : Int32
  timeOfNextJump : UInt64
deriving Inhabited

structure TransparentClockPortDataSet where
  portIdentity : PortIdentity
  flags : UInt8
  logMinPdelayReqInterval : Int8
  peerMeanPathDelay : TimeInterval
deriving Inhabited

def TransparentClockPortDataSet.flagsMask : UInt8 := 0x1

structure LogMinPdelayReqInterval where
  logMinPdelayReqInterval : Int8
deriving Inhabited

structure TransparentClockDefaultDataSet where
  clockIdentity : ClockIdentity
  numberPorts : UInt16
  delayMechanism : DelayMechanismE
  primaryDomain : UInt8
deriving Inhabited

structure PrimaryDomain where
  primaryDomain : UInt8
deriving Inhabited

structure DelayMechanism where
  delayMechanism : DelayMechanismE
deriving Inhabited

structure ExternalPortConfigurationEnabled where
  flags : UInt8
deriving Inhabited

def ExternalPortConfigurationEnabled.flagsMask : UInt8 := 0x1

structure MasterOnly where
  flags : UInt8
deriving Inhabited

def MasterOnly.flagsMask : UInt8 := 0x1

structure HoldoverUpgradeEnable where
  flags : UInt8
deriving Inhabited

def HoldoverUpgradeEnable.flagsMask : UInt8 := 0x1

structure ExtPortConfigPortDataSet where
  flags : UInt8
  desiredState : PortState
deriving Inhabited

def ExtPortConfigPortDataSet.flagsMask : UInt8 := 0x1

structure TimeStatusNp where
  masterOffset : Int64
  ingressTime : Int64
  cumulativeScaledRateOffset : Int32
  scaledLastGmPhaseChange : Int32
  gmTimeBaseIndicator : UInt16
  nanosecondsMsb : UInt16
  nanosecondsLsb : UInt64
  fractionalNanoseconds : UInt16
  gmPresent : Int32
  gmIdentity : ClockIdentity
deriving Inhabited

structure GrandmasterSettingsNp where
  clockQuality : ClockQuality
  currentUtcOffset : Int16
  flags : UInt8
  timeSource : TimeSource
deriving Inhabited

def GrandmasterSettingsNp.flagsMask : UInt8 := 0x3f

structure PortDataSetNp where
  neighborPropDelayThresh : UInt32
  asCapable : Int32
deriving Inhabited

structure SubscribeEventsNp where
  duration : UInt16
  bitmask : Octets 64
deriving Inhabited

structure PortPropertiesNp where
  portIdentity : PortIdentity
  portState : PortState
  timestamping : LinuxptpTimeStamp
  interface : PTPText
deriving Inhabited

structure PortStatsNp where
  portIdentity : PortIdentity
  rxMsgType : List.Vector UInt64 16
  txMsgType : List.Vector UInt64 16
deriving Inhabited

structure SynchronizationUncertainNp where
  val : UInt8
deriving Inhabited

structure PortServiceStatsNp where
  portIdentity : PortIdentity
  announceTimeout : UInt64
  syncTimeout : UInt64
  delayTimeout : UInt64
  unicastServiceTimeout : UInt64
  unicastRequestTimeout : UInt64
  masterAnnounceTimeout : UInt64
  masterSyncTimeout : UInt64
  qualificationTimeout : UInt64
  syncMismatch : UInt64
  followupMismatch : UInt64
deriving Inhabited

structure UnicastMasterTableNp where
  actualTableSize : Int16
  unicastMasters : List LinuxptpUnicastMaster
deriving Inhabited

structure PortHwclockNp where
  portIdentity : PortIdentity
  phcIndex : Int32
  flags : UInt8
deriving Inhabited

structure PowerProfileSettingsNp where
  version : LinuxptpPowerProfileVersion
  grandmasterID : UInt16
  grandmasterTimeInaccuracy : UInt32
  networkTimeInaccuracy : UInt32
  totalTimeInaccuracy : UInt32
deriving Inhabited

structure CmldsInfoNp where
  meanLinkDelay : TimeInterval
  scaledNeighborRateRatio : Int32
  asCapable : UInt32
deriving Inhabited

structure PortCorrectionsNp where
  egressLatency : Int64
  ingressLatency : Int64
  delayAsymmetry : Int64
deriving Inhabited

structure ExternalGrandmasterPropertiesNp where
  gmIdentity : ClockIdentity
  stepsRemoved : UInt16
deriving Inhabited

/-- SMPTE synchronization metadata, carried in an organization extension TLV. -/
structure SmpteOrganizationExtension where
  organizationId : Octets 3
  organizationSubType : Octets 3
  defaultSystemFrameRateNumerator : UInt32
  defaultSystemFrameRateDenominator : UInt32
  masterLockingStatus : SMPTEmasterLockingStatus
  timeAddressFlags : UInt8
  currentLocalOffset : Int32
  jumpSeconds : Int32
  timeOfNextJump : UInt64
  timeOfNextJam : UInt64
  timeOfPreviousJam : UInt64
  previousJamLocalOffset : Int32
  daylightSaving : UInt8
  leapSecondJump : UInt8
deriving Inhabited

/-! ## All management TLVs -/

/-- The structure of an id. An id without a dataField has none: only a bare `BaseMngTlv`. -/
@[reducible]
def Tlv : MngId → Type
  | .clockDescription => ClockDescription
  | .userDescription => UserDescription
  | .initializeTlv => InitializeTlv
  | .faultLog => FaultLog
  | .defaultDataSet => DefaultDataSet
  | .currentDataSet => CurrentDataSet
  | .parentDataSet => ParentDataSet
  | .timePropertiesDataSet => TimePropertiesDataSet
  | .portDataSet => PortDataSet
  | .priority1 => Priority1
  | .priority2 => Priority2
  | .domain => Domain
  | .slaveOnly => SlaveOnly
  | .logAnnounceInterval => LogAnnounceInterval
  | .announceReceiptTimeout => AnnounceReceiptTimeout
  | .logSyncInterval => LogSyncInterval
  | .versionNumber => VersionNumber
  | .time => Time
  | .clockAccuracy => ClockAccuracy
  | .utcProperties => UtcProperties
  | .traceabilityProperties => TraceabilityProperties
  | .timescaleProperties => TimescaleProperties
  | .unicastNegotiationEnable => UnicastNegotiationEnable
  | .pathTraceList => PathTraceList
  | .pathTraceEnable => PathTraceEnable
  | .grandmasterClusterTable => GrandmasterClusterTable
  | .unicastMasterTable => UnicastMasterTable
  | .unicastMasterMaxTableSize => UnicastMasterMaxTableSize
  | .acceptableMasterTable => AcceptableMasterTable
  | .acceptableMasterTableEnabled => AcceptableMasterTableEnabled
  | .acceptableMasterMaxTableSize => AcceptableMasterMaxTableSize
  | .alternateMaster => AlternateMaster
  | .alternateTimeOffsetEnable => AlternateTimeOffsetEnable
  | .alternateTimeOffsetName => AlternateTimeOffsetName
  | .alternateTimeOffsetMaxKey => AlternateTimeOffsetMaxKey
  | .alternateTimeOffsetProperties => AlternateTimeOffsetProperties
  | .transparentClockPortDataSet => TransparentClockPortDataSet
  | .logMinPdelayReqInterval => LogMinPdelayReqInterval
  | .transparentClockDefaultDataSet => TransparentClockDefaultDataSet
  | .primaryDomain => PrimaryDomain
  | .delayMechanism => DelayMechanism
  | .externalPortConfigurationEnabled => ExternalPortConfigurationEnabled
  | .masterOnly => MasterOnly
  | .holdoverUpgradeEnable => HoldoverUpgradeEnable
  | .extPortConfigPortDataSet => ExtPortConfigPortDataSet
  | .timeStatusNp => TimeStatusNp
  | .grandmasterSettingsNp => GrandmasterSettingsNp
  | .portDataSetNp => PortDataSetNp
  | .subscribeEventsNp => SubscribeEventsNp
  | .portPropertiesNp => PortPropertiesNp
  | .portStatsNp => PortStatsNp
  | .synchronizationUncertainNp => SynchronizationUncertainNp
  | .portServiceStatsNp => PortServiceStatsNp
  | .unicastMasterTableNp => UnicastMasterTableNp
  | .portHwclockNp => PortHwclockNp
  | .powerProfileSettingsNp => PowerProfileSettingsNp
  | .cmldsInfoNp => CmldsInfoNp
  | .portCorrectionsNp => PortCorrectionsNp
  | .externalGrandmasterPropertiesNp => ExternalGrandmasterPropertiesNp
  | _ => Unit

instance (id : MngId) : Inhabited (Tlv id) := by
  cases id <;> exact inferInstance

/-- `BaseMngTlv`: an object of one of the classes derived from it. -/
inductive BaseMngTlv
  | tlv (id : MngId) (d : Tlv id)
  | smpte (d : SmpteOrganizationExtension)

/-- `dynamic_cast` to the structure of an id. -/
def BaseMngTlv.cast? (id : MngId) : BaseMngTlv → Option (Tlv id)
  | .tlv id' d => if h : id' = id then some (h ▸ d) else none
  | .smpte _ => none

@[simp]
theorem BaseMngTlv.cast?_tlv (id : MngId) (d : Tlv id) :
    (BaseMngTlv.tlv id d).cast? id = some d := by
  simp [cast?]

theorem BaseMngTlv.eq_of_cast? {id : MngId} {d : Tlv id} {tlv : BaseMngTlv}
    (h : tlv.cast? id = some d) : tlv = .tlv id d := by
  cases tlv with
  | smpte d' => exact absurd h (by simp [cast?])
  | tlv id' d' =>
      rw [cast?] at h
      split at h
      · next heq =>
          subst heq
          rw [Option.some.injEq] at h
          rw [← h]
      · exact absurd h (by simp)

/-- A new object in some memory: its strings, binaries and vectors are empty. SUBSCRIBE_EVENTS_NP has a
    constructor. -/
def newTlv : (id : MngId) → Tlv id → Tlv id
  | .clockDescription, mem =>
    { mem with
      physicalLayerProtocol := { mem.physicalLayerProtocol with textField := [] }
      physicalAddress := []
      protocolAddress := { mem.protocolAddress with addressField := [] }
      productDescription := { mem.productDescription with textField := [] }
      revisionData := { mem.revisionData with textField := [] }
      userDescription := { mem.userDescription with textField := [] } }
  | .userDescription, mem => { mem with userDescription := { mem.userDescription with textField := [] } }
  | .faultLog, mem => { mem with faultRecords := [] }
  | .pathTraceList, mem => { mem with pathSequence := [] }
  | .grandmasterClusterTable, mem => { mem with portAddress := [] }
  | .unicastMasterTable, mem => { mem with portAddress := [] }
  | .acceptableMasterTable, mem => { mem with list := [] }
  | .alternateTimeOffsetName, mem => { mem with displayName := { mem.displayName with textField := [] } }
  | .portPropertiesNp, mem => { mem with interface := { mem.interface with textField := [] } }
  | .subscribeEventsNp, _ => { duration := 0, bitmask := .ofList 64 [] }
  | .unicastMasterTableNp, mem => { mem with unicastMasters := [] }
  | _, mem => mem

/-- A pointer to a `BaseMngTlv`. `wild` is one that was never assigned: nothing can be said about
    where it points. -/
inductive TlvPtr
  | null
  | wild
  | obj (tlv : BaseMngTlv)

/-- It was never assigned. -/
def TlvPtr.isWild : TlvPtr → Bool
  | .wild => true
  | _ => false

def TlvPtr.ofOption : Option BaseMngTlv → TlvPtr
  | none => .null
  | some tlv => .obj tlv

/-- `dynamic_cast` of a pointer. -/
def TlvPtr.cast? (id : MngId) : TlvPtr → Option (Tlv id)
  | .obj tlv => tlv.cast? id
  | _ => none

end PtpMgmt
