import PtpMgmt.MngTlvs.Basic

set_option autoImplicit false

/-! # The fields of the management TLVs in JSON (`json.cpp`)

The `JS` functions name the fields of a TLV in JSON, each with the overload of `JsonProc` that handles it.
The two classes derived from `JsonProc` print and read by the same functions. Here a function is the list
of its steps, and the classes run over the list. -/

namespace PtpMgmt.Json

/-- The overloads of the virtual functions of `JsonProc`, by the type they take. Those no management TLV
    uses are left out. -/
inductive ProcType
  | uint8
  | uint16
  | uint32
  | uint64
  | int8
  | int16
  | int32
  | int64
  | networkProtocol
  | clockAccuracy
  | faultRecord
  | timeSource
  | portState
  | delayMechanism
  | linuxptpTimeStamp
  | linuxptpPowerProfileVersion
  | linuxptpUnicastState
  | timeInterval
  | timestamp
  | clockIdentity
  | portIdentity
  | portAddress
  | clockQuality
  | ptpText
  | binary
  | octets (len : Nat)
  | flag (mask : UInt8)
  | clockIdentities
  | portAddresses
  | faultRecords
  | acceptableMasters
  | linuxptpUnicastMasters

/-- What an overload takes. A `Binary` comes with its length, a flag with all the flags. -/
@[reducible]
def ProcType.Val : ProcType → Type
  | .uint8 => UInt8
  | .uint16 => UInt16
  | .uint32 => UInt32
  | .uint64 => UInt64
  | .int8 => Int8
  | .int16 => Int16
  | .int32 => Int32
  | .int64 => Int64
  | .networkProtocol => NetworkProtocol
  | .clockAccuracy => ClockAccuracyE
  | .faultRecord => FaultRecordE
  | .timeSource => TimeSource
  | .portState => PortState
  | .delayMechanism => DelayMechanismE
  | .linuxptpTimeStamp => LinuxptpTimeStamp
  | .linuxptpPowerProfileVersion => LinuxptpPowerProfileVersion
  | .linuxptpUnicastState => LinuxptpUnicastState
  | .timeInterval => TimeInterval
  | .timestamp => Timestamp
  | .clockIdentity => ClockIdentity
  | .portIdentity => PortIdentity
  | .portAddress => PortAddress
  | .clockQuality => ClockQuality
  | .ptpText => PTPText
  | .binary => Binary × UInt16
  | .octets len => Octets len
  | .flag _ => UInt8
  | .clockIdentities => List ClockIdentity
  | .portAddresses => List PortAddress
  | .faultRecords => List FaultRecord
  | .acceptableMasters => List AcceptableMaster
  | .linuxptpUnicastMasters => List LinuxptpUnicastMaster

/-- A step of a `JS` function: `procZeroFlag` of the flags, or the overload for a field. -/
inductive Step (T : Type)
  | zeroFlag (set : T → UInt8 → T)
  | proc (name : String) (type : ProcType) (get : T → type.Val) (set : T → type.Val → T)

/-! ## Flags -/

/-- The time properties flags. -/
def fLi61 : UInt8 := 0x1
def fLi59 : UInt8 := 0x2
def fUtcv : UInt8 := 0x4
def fPtp : UInt8 := 0x8
def fTtra : UInt8 := 0x10
def fFtra : UInt8 := 0x20

/-- The events of SUBSCRIBE_EVENTS_NP. -/
def notifyPortState : Fin 512 := 0
def notifyTimeSync : Fin 512 := 1
def notifyParentDataSet : Fin 512 := 2
def notifyCmlds : Fin 512 := 3

/-- `div_event`: the octet and the bit of an event. -/
def divEvent (event : Fin 512) : Fin 64 × UInt8 :=
  (⟨event.val / 8, by omega⟩, (1 : UInt8) <<< UInt8.ofNat (event.val % 8))

/-- `PROC_EVENT_FLG`. -/
def eventStep (name : String) (event : Fin 512) : Step SubscribeEventsNp :=
  .proc name (.flag (divEvent event).2) (·.bitmask.get (divEvent event).1)
    fun d v => { d with bitmask := d.bitmask.set (divEvent event).1 v }

/-- `PROC_FLD` of a counter of received messages. -/
def rxStep (name : String) (stat : Fin 16) : Step PortStatsNp :=
  .proc name .uint64 (·.rxMsgType.get stat) fun d v => { d with rxMsgType := d.rxMsgType.set stat v }

/-- `PROC_FLD` of a counter of sent messages. -/
def txStep (name : String) (stat : Fin 16) : Step PortStatsNp :=
  .proc name .uint64 (·.txMsgType.get stat) fun d v => { d with txMsgType := d.txMsgType.set stat v }

/-! ## The `JS` functions -/

def procClockDescription : List (Step ClockDescription) :=
  [.proc "clockType" .uint16 (·.clockType) ({ · with clockType := · }),
   .proc "physicalLayerProtocol" .ptpText (·.physicalLayerProtocol) ({ · with physicalLayerProtocol := · }),
   .proc "physicalAddress" .binary (fun d => (d.physicalAddress, d.physicalAddressLength)) fun d v =>
      { d with physicalAddress := v.1, physicalAddressLength := v.2 },
   .proc "protocolAddress" .portAddress (·.protocolAddress) ({ · with protocolAddress := · }),
   .proc "manufacturerIdentity" (.octets 3) (·.manufacturerIdentity) ({ · with manufacturerIdentity := · }),
   .proc "productDescription" .ptpText (·.productDescription) ({ · with productDescription := · }),
   .proc "revisionData" .ptpText (·.revisionData) ({ · with revisionData := · }),
   .proc "userDescription" .ptpText (·.userDescription) ({ · with userDescription := · }),
   .proc "profileIdentity" (.octets 6) (·.profileIdentity) ({ · with profileIdentity := · })]

def procUserDescription : List (Step UserDescription) :=
  [.proc "userDescription" .ptpText (·.userDescription) ({ · with userDescription := · })]

def procInitialize : List (Step InitializeTlv) :=
  [.proc "initializationKey" .uint16 (·.initializationKey) ({ · with initializationKey := · })]

def procFaultLog : List (Step FaultLog) :=
  [.proc "numberOfFaultRecords" .uint16 (·.numberOfFaultRecords) ({ · with numberOfFaultRecords := · }),
   .proc "faultRecords" .faultRecords (·.faultRecords) ({ · with faultRecords := · })]

def procDefaultDataSet : List (Step DefaultDataSet) :=
  [.zeroFlag ({ · with flags := · }),
   .proc "twoStepFlag" (.flag 1) (·.flags) ({ · with flags := · }),
   .proc "slaveOnly" (.flag 2) (·.flags) ({ · with flags := · }),
   .proc "numberPorts" .uint16 (·.numberPorts) ({ · with numberPorts := · }),
   .proc "priority1" .uint8 (·.priority1) ({ · with priority1 := · }),
   .proc "clockQuality" .clockQuality (·.clockQuality) ({ · with clockQuality := · }),
   .proc "priority2" .uint8 (·.priority2) ({ · with priority2 := · }),
   .proc "clockIdentity" .clockIdentity (·.clockIdentity) ({ · with clockIdentity := · }),
   .proc "domainNumber" .uint8 (·.domainNumber) ({ · with domainNumber := · })]

def procCurrentDataSet : List (Step CurrentDataSet) :=
  [.proc "stepsRemoved" .uint16 (·.stepsRemoved) ({ · with stepsRemoved := · }),
   .proc "offsetFromMaster" .timeInterval (·.offsetFromMaster) ({ · with offsetFromMaster := · }),
   .proc "meanPathDelay" .timeInterval (·.meanPathDelay) ({ · with meanPathDelay := · })]

def procParentDataSet : List (Step ParentDataSet) :=
  [.zeroFlag ({ · with flags := · }),
   .proc "parentPortIdentity" .portIdentity (·.parentPortIdentity) ({ · with parentPortIdentity := · }),
   .proc "parentStats" (.flag 1) (·.flags) ({ · with flags := · }),
   .proc "observedParentOffsetScaledLogVariance" .uint16 (·.observedParentOffsetScaledLogVariance)
     ({ · with observedParentOffsetScaledLogVariance := · }),
   .proc "observedParentClockPhaseChangeRate" .int32 (·.observedParentClockPhaseChangeRate)
     ({ · with observedParentClockPhaseChangeRate := · }),
   .proc "grandmasterPriority1" .uint8 (·.grandmasterPriority1) ({ · with grandmasterPriority1 := · }),
   .proc "grandmasterClockQuality" .clockQuality (·.grandmasterClockQuality)
     ({ · with grandmasterClockQuality := · }),
   .proc "grandmasterPriority2" .uint8 (·.grandmasterPriority2) ({ · with grandmasterPriority2 := · }),
   .proc "grandmasterIdentity" .clockIdentity (·.grandmasterIdentity) ({ · with grandmasterIdentity := · })]

def procTimePropertiesDataSet : List (Step TimePropertiesDataSet) :=
  [.zeroFlag ({ · with flags := · }),
   .proc "currentUtcOffset" .int16 (·.currentUtcOffset) ({ · with currentUtcOffset := · }),
   .proc "leap61" (.flag fLi61) (·.flags) ({ · with flags := · }),
   .proc "leap59" (.flag fLi59) (·.flags) ({ · with flags := · }),
   .proc "currentUtcOffsetValid" (.flag fUtcv) (·.flags) ({ · with flags := · }),
   .proc "ptpTimescale" (.flag fPtp) (·.flags) ({ · with flags := · }),
   .proc "timeTraceable" (.flag fTtra) (·.flags) ({ · with flags := · }),
   .proc "frequencyTraceable" (.flag fFtra) (·.flags) ({ · with flags := · }),
   .proc "timeSource" .timeSource (·.timeSource) ({ · with timeSource := · })]

def procPortDataSet : List (Step PortDataSet) :=
  [.proc "portIdentity" .portIdentity (·.portIdentity) ({ · with portIdentity := · }),
   .proc "portState" .portState (·.portState) ({ · with portState := · }),
   .proc "logMinDelayReqInterval" .int8 (·.logMinDelayReqInterval) ({ · with logMinDelayReqInterval := · }),
   .proc "peerMeanPathDelay" .timeInterval (·.peerMeanPathDelay) ({ · with peerMeanPathDelay := · }),
   .proc "logAnnounceInterval" .int8 (·.logAnnounceInterval) ({ · with logAnnounceInterval := · }),
   .proc "announceReceiptTimeout" .uint8 (·.announceReceiptTimeout) ({ · with announceReceiptTimeout := · }),
   .proc "logSyncInterval" .int8 (·.logSyncInterval) ({ · with logSyncInterval := · }),
   .proc "delayMechanism" .delayMechanism (·.delayMechanism) ({ · with delayMechanism := · }),
   .proc "logMinPdelayReqInterval" .int8 (·.logMinPdelayReqInterval)
     ({ · with logMinPdelayReqInterval := · }),
   .proc "versionNumber" .uint8 (·.versionNumber) ({ · with versionNumber := · })]

def procPriority1 : List (Step Priority1) :=
  [.proc "priority1" .uint8 (·.priority1) ({ · with priority1 := · })]

def procPriority2 : List (Step Priority2) :=
  [.proc "priority2" .uint8 (·.priority2) ({ · with priority2 := · })]

def procDomain : List (Step Domain) :=
  [.proc "domainNumber" .uint8 (·.domainNumber) ({ · with domainNumber := · })]

def procSlaveOnly : List (Step SlaveOnly) :=
  [.zeroFlag ({ · with flags := · }),
   .proc "slaveOnly" (.flag 1) (·.flags) ({ · with flags := · })]

def procLogAnnounceInterval : List (Step LogAnnounceInterval) :=
  [.proc "logAnnounceInterval" .int8 (·.logAnnounceInterval) ({ · with logAnnounceInterval := · })]

def procAnnounceReceiptTimeout : List (Step AnnounceReceiptTimeout) :=
  [.proc "announceReceiptTimeout" .uint8 (·.announceReceiptTimeout) ({ · with announceReceiptTimeout := · })]

def procLogSyncInterval : List (Step LogSyncInterval) :=
  [.proc "logSyncInterval" .int8 (·.logSyncInterval) ({ · with logSyncInterval := · })]

def procVersionNumber : List (Step VersionNumber) :=
  [.proc "versionNumber" .uint8 (·.versionNumber) ({ · with versionNumber := · })]

def procTime : List (Step Time) :=
  [.proc "currentTime" .timestamp (·.currentTime) ({ · with currentTime := · })]

def procClockAccuracy : List (Step ClockAccuracy) :=
  [.proc "clockAccuracy" .clockAccuracy (·.clockAccuracy) ({ · with clockAccuracy := · })]

def procUtcProperties : List (Step UtcProperties) :=
  [.zeroFlag ({ · with flags := · }),
   .proc "currentUtcOffset" .int16 (·.currentUtcOffset) ({ · with currentUtcOffset := · }),
   .proc "leap61" (.flag fLi61) (·.flags) ({ · with flags := · }),
   .proc "leap59" (.flag fLi59) (·.flags) ({ · with flags := · }),
   .proc "currentUtcOffsetValid" (.flag fUtcv) (·.flags) ({ · with flags := · })]

def procTraceabilityProperties : List (Step TraceabilityProperties) :=
  [.zeroFlag ({ · with flags := · }),
   .proc "timeTraceable" (.flag fTtra) (·.flags) ({ · with flags := · }),
   .proc "frequencyTraceable" (.flag fFtra) (·.flags) ({ · with flags := · })]

def procTimescaleProperties : List (Step TimescaleProperties) :=
  [.zeroFlag ({ · with flags := · }),
   .proc "ptpTimescale" (.flag fPtp) (·.flags) ({ · with flags := · }),
   .proc "timeSource" .timeSource (·.timeSource) ({ · with timeSource := · })]

def procUnicastNegotiationEnable : List (Step UnicastNegotiationEnable) :=
  [.zeroFlag ({ · with flags := · }),
   .proc "unicastNegotiationPortDS" (.flag 1) (·.flags) ({ · with flags := · })]

def procPathTraceList : List (Step PathTraceList) :=
  [.proc "pathSequence" .clockIdentities (·.pathSequence) ({ · with pathSequence := · })]

def procPathTraceEnable : List (Step PathTraceEnable) :=
  [.zeroFlag ({ · with flags := · }),
   .proc "pathTraceDS" (.flag 1) (·.flags) ({ · with flags := · })]

def procGrandmasterClusterTable : List (Step GrandmasterClusterTable) :=
  [.proc "logQueryInterval" .int8 (·.logQueryInterval) ({ · with logQueryInterval := · }),
   .proc "actualTableSize" .uint8 (·.actualTableSize) ({ · with actualTableSize := · }),
   .proc "PortAddress" .portAddresses (·.portAddress) ({ · with portAddress := · })]

def procUnicastMasterTable : List (Step UnicastMasterTable) :=
  [.proc "logQueryInterval" .int8 (·.logQueryInterval) ({ · with logQueryInterval := · }),
   .proc "actualTableSize" .uint16 (·.actualTableSize) ({ · with actualTableSize := · }),
   .proc "PortAddress" .portAddresses (·.portAddress) ({ · with portAddress := · })]

def procUnicastMasterMaxTableSize : List (Step UnicastMasterMaxTableSize) :=
  [.proc "maxTableSize" .uint16 (·.maxTableSize) ({ · with maxTableSize := · })]

def procAcceptableMasterTable : List (Step AcceptableMasterTable) :=
  [.proc "actualTableSize" .int16 (·.actualTableSize) ({ · with actualTableSize := · }),
   .proc "list" .acceptableMasters (·.list) ({ · with list := · })]

def procAcceptableMasterTableEnabled : List (Step AcceptableMasterTableEnabled) :=
  [.zeroFlag ({ · with flags := · }),
   .proc "acceptableMasterPortDS" (.flag 1) (·.flags) ({ · with flags := · })]

def procAcceptableMasterMaxTableSize : List (Step AcceptableMasterMaxTableSize) :=
  [.proc "maxTableSize" .uint16 (·.maxTableSize) ({ · with maxTableSize := · })]

def procAlternateMaster : List (Step AlternateMaster) :=
  [.zeroFlag ({ · with flags := · }),
   .proc "transmitAlternateMulticastSync" (.flag 1) (·.flags) ({ · with flags := · }),
   .proc "logAlternateMulticastSyncInterval" .int8 (·.logAlternateMulticastSyncInterval)
     ({ · with logAlternateMulticastSyncInterval := · }),
   .proc "numberOfAlternateMasters" .uint8 (·.numberOfAlternateMasters)
     ({ · with numberOfAlternateMasters := · })]

def procAlternateTimeOffsetEnable : List (Step AlternateTimeOffsetEnable) :=
  [.zeroFlag ({ · with flags := · }),
   .proc "keyField" .uint8 (·.keyField) ({ · with keyField := · }),
   .proc "alternateTimescaleOffsetsDS" (.flag 1) (·.flags) ({ · with flags := · })]

def procAlternateTimeOffsetName : List (Step AlternateTimeOffsetName) :=
  [.proc "keyField" .uint8 (·.keyField) ({ · with keyField := · }),
   .proc "displayName" .ptpText (·.displayName) ({ · with displayName := · })]

def procAlternateTimeOffsetMaxKey : List (Step AlternateTimeOffsetMaxKey) :=
  [.proc "maxKey" .uint8 (·.maxKey) ({ · with maxKey := · })]

def procAlternateTimeOffsetProperties : List (Step AlternateTimeOffsetProperties) :=
  [.proc "keyField" .uint8 (·.keyField) ({ · with keyField := · }),
   .proc "currentOffset" .int32 (·.currentOffset) ({ · with currentOffset := · }),
   .proc "jumpSeconds" .int32 (·.jumpSeconds) ({ · with jumpSeconds := · }),
   .proc "timeOfNextJump" .uint64 (·.timeOfNextJump) ({ · with timeOfNextJump := · })]

def procTransparentClockPortDataSet : List (Step TransparentClockPortDataSet) :=
  [.zeroFlag ({ · with flags := · }),
   .proc "portIdentity" .portIdentity (·.portIdentity) ({ · with portIdentity := · }),
   .proc "transparentClockPortDS" (.flag 1) (·.flags) ({ · with flags := · }),
   .proc "logMinPdelayReqInterval" .int8 (·.logMinPdelayReqInterval)
     ({ · with logMinPdelayReqInterval := · }),
   .proc "peerMeanPathDelay" .timeInterval (·.peerMeanPathDelay) ({ · with peerMeanPathDelay := · })]

def procLogMinPdelayReqInterval : List (Step LogMinPdelayReqInterval) :=
  [.proc "logMinPdelayReqInterval" .int8 (·.logMinPdelayReqInterval)
     ({ · with logMinPdelayReqInterval := · })]

def procTransparentClockDefaultDataSet : List (Step TransparentClockDefaultDataSet) :=
  [.proc "clockIdentity" .clockIdentity (·.clockIdentity) ({ · with clockIdentity := · }),
   .proc "numberPorts" .uint16 (·.numberPorts) ({ · with numberPorts := · }),
   .proc "delayMechanism" .delayMechanism (·.delayMechanism) ({ · with delayMechanism := · }),
   .proc "primaryDomain" .uint8 (·.primaryDomain) ({ · with primaryDomain := · })]

def procPrimaryDomain : List (Step PrimaryDomain) :=
  [.proc "primaryDomain" .uint8 (·.primaryDomain) ({ · with primaryDomain := · })]

def procDelayMechanism : List (Step DelayMechanism) :=
  [.proc "delayMechanism" .delayMechanism (·.delayMechanism) ({ · with delayMechanism := · })]

def procExternalPortConfigurationEnabled : List (Step ExternalPortConfigurationEnabled) :=
  [.zeroFlag ({ · with flags := · }),
   .proc "externalPortConfiguration" (.flag 1) (·.flags) ({ · with flags := · })]

def procMasterOnly : List (Step MasterOnly) :=
  [.zeroFlag ({ · with flags := · }),
   .proc "masterOnly" (.flag 1) (·.flags) ({ · with flags := · })]

def procHoldoverUpgradeEnable : List (Step HoldoverUpgradeEnable) :=
  [.zeroFlag ({ · with flags := · }),
   .proc "holdoverUpgradeDS" (.flag 1) (·.flags) ({ · with flags := · })]

def procExtPortConfigPortDataSet : List (Step ExtPortConfigPortDataSet) :=
  [.zeroFlag ({ · with flags := · }),
   .proc "acceptableMasterPortDS" (.flag 1) (·.flags) ({ · with flags := · }),
   .proc "desiredState" .portState (·.desiredState) ({ · with desiredState := · })]

def procTimeStatusNp : List (Step TimeStatusNp) :=
  [.proc "master_offset" .int64 (·.masterOffset) ({ · with masterOffset := · }),
   .proc "ingress_time" .int64 (·.ingressTime) ({ · with ingressTime := · }),
   .proc "cumulativeScaledRateOffset" .int32 (·.cumulativeScaledRateOffset)
     ({ · with cumulativeScaledRateOffset := · }),
   .proc "scaledLastGmPhaseChange" .int32 (·.scaledLastGmPhaseChange)
     ({ · with scaledLastGmPhaseChange := · }),
   .proc "gmTimeBaseIndicator" .uint16 (·.gmTimeBaseIndicator) ({ · with gmTimeBaseIndicator := · }),
   .proc "nanoseconds_msb" .uint16 (·.nanosecondsMsb) ({ · with nanosecondsMsb := · }),
   .proc "nanoseconds_lsb" .uint64 (·.nanosecondsLsb) ({ · with nanosecondsLsb := · }),
   .proc "fractional_nanoseconds" .uint16 (·.fractionalNanoseconds) ({ · with fractionalNanoseconds := · }),
   .proc "gmPresent" .int32 (·.gmPresent) ({ · with gmPresent := · }),
   .proc "gmIdentity" .clockIdentity (·.gmIdentity) ({ · with gmIdentity := · })]

def procGrandmasterSettingsNp : List (Step GrandmasterSettingsNp) :=
  [.zeroFlag ({ · with flags := · }),
   .proc "clockQuality" .clockQuality (·.clockQuality) ({ · with clockQuality := · }),
   .proc "currentUtcOffset" .int16 (·.currentUtcOffset) ({ · with currentUtcOffset := · }),
   .proc "leap61" (.flag fLi61) (·.flags) ({ · with flags := · }),
   .proc "leap59" (.flag fLi59) (·.flags) ({ · with flags := · }),
   .proc "currentUtcOffsetValid" (.flag fUtcv) (·.flags) ({ · with flags := · }),
   .proc "ptpTimescale" (.flag fPtp) (·.flags) ({ · with flags := · }),
   .proc "timeTraceable" (.flag fTtra) (·.flags) ({ · with flags := · }),
   .proc "frequencyTraceable" (.flag fFtra) (·.flags) ({ · with flags := · }),
   .proc "timeSource" .timeSource (·.timeSource) ({ · with timeSource := · })]

def procPortDataSetNp : List (Step PortDataSetNp) :=
  [.proc "neighborPropDelayThresh" .uint32 (·.neighborPropDelayThresh)
     ({ · with neighborPropDelayThresh := · }),
   .proc "asCapable" .int32 (·.asCapable) ({ · with asCapable := · })]

def procSubscribeEventsNp : List (Step SubscribeEventsNp) :=
  [.proc "duration" .uint16 (·.duration) ({ · with duration := · }),
   eventStep "NOTIFY_PORT_STATE" notifyPortState,
   eventStep "NOTIFY_TIME_SYNC" notifyTimeSync,
   eventStep "NOTIFY_PARENT_DATA_SET" notifyParentDataSet,
   eventStep "NOTIFY_CMLDS" notifyCmlds]

def procPortPropertiesNp : List (Step PortPropertiesNp) :=
  [.proc "portIdentity" .portIdentity (·.portIdentity) ({ · with portIdentity := · }),
   .proc "portState" .portState (·.portState) ({ · with portState := · }),
   .proc "timestamping" .linuxptpTimeStamp (·.timestamping) ({ · with timestamping := · }),
   .proc "interface" .ptpText (·.interface) ({ · with interface := · })]

def procPortStatsNp : List (Step PortStatsNp) :=
  [.proc "portIdentity" .portIdentity (·.portIdentity) ({ · with portIdentity := · }),
   rxStep "rx_Sync" 0,
   rxStep "rx_Delay_Req" 1,
   rxStep "rx_Pdelay_Req" 2,
   rxStep "rx_Pdelay_Resp" 3,
   rxStep "rx_Follow_Up" 8,
   rxStep "rx_Delay_Resp" 9,
   rxStep "rx_Pdelay_Resp_Follow_Up" 10,
   rxStep "rx_Announce" 11,
   rxStep "rx_Signaling" 12,
   rxStep "rx_Management" 13,
   txStep "tx_Sync" 0,
   txStep "tx_Delay_Req" 1,
   txStep "tx_Pdelay_Req" 2,
   txStep "tx_Pdelay_Resp" 3,
   txStep "tx_Follow_Up" 8,
   txStep "tx_Delay_Resp" 9,
   txStep "tx_Pdelay_Resp_Follow_Up" 10,
   txStep "tx_Announce" 11,
   txStep "tx_Signaling" 12,
   txStep "tx_Management" 13]

def procSynchronizationUncertainNp : List (Step SynchronizationUncertainNp) :=
  [.proc "val" .uint8 (·.val) ({ · with val := · })]

def procPortServiceStatsNp : List (Step PortServiceStatsNp) :=
  [.proc "portIdentity" .portIdentity (·.portIdentity) ({ · with portIdentity := · }),
   .proc "announce_timeout" .uint64 (·.announceTimeout) ({ · with announceTimeout := · }),
   .proc "sync_timeout" .uint64 (·.syncTimeout) ({ · with syncTimeout := · }),
   .proc "delay_timeout" .uint64 (·.delayTimeout) ({ · with delayTimeout := · }),
   .proc "unicast_service_timeout" .uint64 (·.unicastServiceTimeout) ({ · with unicastServiceTimeout := · }),
   .proc "unicast_request_timeout" .uint64 (·.unicastRequestTimeout) ({ · with unicastRequestTimeout := · }),
   .proc "master_announce_timeout" .uint64 (·.masterAnnounceTimeout) ({ · with masterAnnounceTimeout := · }),
   .proc "master_sync_timeout" .uint64 (·.masterSyncTimeout) ({ · with masterSyncTimeout := · }),
   .proc "qualification_timeout" .uint64 (·.qualificationTimeout) ({ · with qualificationTimeout := · }),
   .proc "sync_mismatch" .uint64 (·.syncMismatch) ({ · with syncMismatch := · }),
   .proc "followup_mismatch" .uint64 (·.followupMismatch) ({ · with followupMismatch := · })]

def procUnicastMasterTableNp : List (Step UnicastMasterTableNp) :=
  [.proc "actualTableSize" .int16 (·.actualTableSize) ({ · with actualTableSize := · }),
   .proc "unicastMasters" .linuxptpUnicastMasters (·.unicastMasters) ({ · with unicastMasters := · })]

def procPortHwclockNp : List (Step PortHwclockNp) :=
  [.proc "portIdentity" .portIdentity (·.portIdentity) ({ · with portIdentity := · }),
   .proc "phc_index" .int32 (·.phcIndex) ({ · with phcIndex := · }),
   .proc "flags" .uint8 (·.flags) ({ · with flags := · })]

def procPowerProfileSettingsNp : List (Step PowerProfileSettingsNp) :=
  [.proc "version" .linuxptpPowerProfileVersion (·.version) ({ · with version := · }),
   .proc "grandmasterID" .uint16 (·.grandmasterID) ({ · with grandmasterID := · }),
   .proc "grandmasterTimeInaccuracy" .uint32 (·.grandmasterTimeInaccuracy)
     ({ · with grandmasterTimeInaccuracy := · }),
   .proc "networkTimeInaccuracy" .uint32 (·.networkTimeInaccuracy) ({ · with networkTimeInaccuracy := · }),
   .proc "totalTimeInaccuracy" .uint32 (·.totalTimeInaccuracy) ({ · with totalTimeInaccuracy := · })]

def procCmldsInfoNp : List (Step CmldsInfoNp) :=
  [.proc "meanLinkDelay" .timeInterval (·.meanLinkDelay) ({ · with meanLinkDelay := · }),
   .proc "scaledNeighborRateRatio" .int32 (·.scaledNeighborRateRatio)
     ({ · with scaledNeighborRateRatio := · }),
   .proc "as_capable" .uint32 (·.asCapable) ({ · with asCapable := · })]

def procPortCorrectionsNp : List (Step PortCorrectionsNp) :=
  [.proc "egressLatency" .int64 (·.egressLatency) ({ · with egressLatency := · }),
   .proc "ingressLatency" .int64 (·.ingressLatency) ({ · with ingressLatency := · }),
   .proc "delayAsymmetry" .int64 (·.delayAsymmetry) ({ · with delayAsymmetry := · })]

def procExternalGrandmasterPropertiesNp : List (Step ExternalGrandmasterPropertiesNp) :=
  [.proc "gmIdentity" .clockIdentity (·.gmIdentity) ({ · with gmIdentity := · }),
   .proc "stepsRemoved" .uint16 (·.stepsRemoved) ({ · with stepsRemoved := · })]

/-- The switch of `procData`. -/
def procSteps : (id : MngId) → List (Step (Tlv id))
  | .clockDescription => procClockDescription
  | .userDescription => procUserDescription
  | .initializeTlv => procInitialize
  | .faultLog => procFaultLog
  | .defaultDataSet => procDefaultDataSet
  | .currentDataSet => procCurrentDataSet
  | .parentDataSet => procParentDataSet
  | .timePropertiesDataSet => procTimePropertiesDataSet
  | .portDataSet => procPortDataSet
  | .priority1 => procPriority1
  | .priority2 => procPriority2
  | .domain => procDomain
  | .slaveOnly => procSlaveOnly
  | .logAnnounceInterval => procLogAnnounceInterval
  | .announceReceiptTimeout => procAnnounceReceiptTimeout
  | .logSyncInterval => procLogSyncInterval
  | .versionNumber => procVersionNumber
  | .time => procTime
  | .clockAccuracy => procClockAccuracy
  | .utcProperties => procUtcProperties
  | .traceabilityProperties => procTraceabilityProperties
  | .timescaleProperties => procTimescaleProperties
  | .unicastNegotiationEnable => procUnicastNegotiationEnable
  | .pathTraceList => procPathTraceList
  | .pathTraceEnable => procPathTraceEnable
  | .grandmasterClusterTable => procGrandmasterClusterTable
  | .unicastMasterTable => procUnicastMasterTable
  | .unicastMasterMaxTableSize => procUnicastMasterMaxTableSize
  | .acceptableMasterTable => procAcceptableMasterTable
  | .acceptableMasterTableEnabled => procAcceptableMasterTableEnabled
  | .acceptableMasterMaxTableSize => procAcceptableMasterMaxTableSize
  | .alternateMaster => procAlternateMaster
  | .alternateTimeOffsetEnable => procAlternateTimeOffsetEnable
  | .alternateTimeOffsetName => procAlternateTimeOffsetName
  | .alternateTimeOffsetMaxKey => procAlternateTimeOffsetMaxKey
  | .alternateTimeOffsetProperties => procAlternateTimeOffsetProperties
  | .transparentClockPortDataSet => procTransparentClockPortDataSet
  | .logMinPdelayReqInterval => procLogMinPdelayReqInterval
  | .transparentClockDefaultDataSet => procTransparentClockDefaultDataSet
  | .primaryDomain => procPrimaryDomain
  | .delayMechanism => procDelayMechanism
  | .externalPortConfigurationEnabled => procExternalPortConfigurationEnabled
  | .masterOnly => procMasterOnly
  | .holdoverUpgradeEnable => procHoldoverUpgradeEnable
  | .extPortConfigPortDataSet => procExtPortConfigPortDataSet
  | .timeStatusNp => procTimeStatusNp
  | .grandmasterSettingsNp => procGrandmasterSettingsNp
  | .portDataSetNp => procPortDataSetNp
  | .subscribeEventsNp => procSubscribeEventsNp
  | .portPropertiesNp => procPortPropertiesNp
  | .portStatsNp => procPortStatsNp
  | .synchronizationUncertainNp => procSynchronizationUncertainNp
  | .portServiceStatsNp => procPortServiceStatsNp
  | .unicastMasterTableNp => procUnicastMasterTableNp
  | .portHwclockNp => procPortHwclockNp
  | .powerProfileSettingsNp => procPowerProfileSettingsNp
  | .cmldsInfoNp => procCmldsInfoNp
  | .portCorrectionsNp => procPortCorrectionsNp
  | .externalGrandmasterPropertiesNp => procExternalGrandmasterPropertiesNp
  | _ => []

end PtpMgmt.Json
