import PtpMgmt.MngTlvs.Basic

set_option autoImplicit false

/-! # Codecs of the management TLVs (`mngTlvs.cpp`)

One function for every id with a dataField, used for both build and parse, and one more for the size
of every dataField without a fixed size. The codec functions are reducible: what is proved of them by
instance search is found from the fields they go over. -/

namespace PtpMgmt

open Wire Codec

/-! ## Codec functions (`*_f`) -/

abbrev clockDescriptionF (d : ClockDescription) : Proc ClockDescription := do
  let clockType ← proc d.clockType
  let physicalLayerProtocol ← proc d.physicalLayerProtocol
  let physicalAddressLength ← proc (UInt16.ofNat d.physicalAddress.length)
  let physicalAddress ← procBinary d.physicalAddress physicalAddressLength
  let protocolAddress ← proc d.protocolAddress
  let manufacturerIdentity ← procOctets d.manufacturerIdentity
  procRes
  let productDescription ← proc d.productDescription
  let revisionData ← proc d.revisionData
  let userDescription ← proc d.userDescription
  let profileIdentity ← procOctets d.profileIdentity
  return { clockType, physicalLayerProtocol, physicalAddressLength, physicalAddress, protocolAddress,
           manufacturerIdentity, productDescription, revisionData, userDescription, profileIdentity }

abbrev userDescriptionF (d : UserDescription) : Proc UserDescription := do
  return { userDescription := ← proc d.userDescription }

abbrev initializeTlvF (d : InitializeTlv) : Proc InitializeTlv := do
  return { initializationKey := ← proc d.initializationKey }

abbrev faultLogF (d : FaultLog) : Proc FaultLog := do
  let build ← isBuild
  let numberOfFaultRecords ←
    proc (if build then UInt16.ofNat d.faultRecords.length else d.numberOfFaultRecords)
  let faultRecords ← vectorF numberOfFaultRecords.toUInt32 d.faultRecords
  return { numberOfFaultRecords, faultRecords }

abbrev defaultDataSetF (d : DefaultDataSet) : Proc DefaultDataSet := do
  let flags ← procFlags d.flags DefaultDataSet.flagsMask
  procRes
  return { flags
           numberPorts := ← proc d.numberPorts
           priority1 := ← proc d.priority1
           clockQuality := ← proc d.clockQuality
           priority2 := ← proc d.priority2
           clockIdentity := ← proc d.clockIdentity
           domainNumber := ← proc d.domainNumber }

abbrev currentDataSetF (d : CurrentDataSet) : Proc CurrentDataSet := do
  return { stepsRemoved := ← proc d.stepsRemoved
           offsetFromMaster := ← proc d.offsetFromMaster
           meanPathDelay := ← proc d.meanPathDelay }

abbrev parentDataSetF (d : ParentDataSet) : Proc ParentDataSet := do
  let parentPortIdentity ← proc d.parentPortIdentity
  let flags ← procFlags d.flags ParentDataSet.flagsMask
  procRes
  return { parentPortIdentity, flags
           observedParentOffsetScaledLogVariance := ← proc d.observedParentOffsetScaledLogVariance
           observedParentClockPhaseChangeRate := ← proc d.observedParentClockPhaseChangeRate
           grandmasterPriority1 := ← proc d.grandmasterPriority1
           grandmasterClockQuality := ← proc d.grandmasterClockQuality
           grandmasterPriority2 := ← proc d.grandmasterPriority2
           grandmasterIdentity := ← proc d.grandmasterIdentity }

abbrev timePropertiesDataSetF (d : TimePropertiesDataSet) : Proc TimePropertiesDataSet := do
  return { currentUtcOffset := ← proc d.currentUtcOffset
           flags := ← procFlags d.flags TimePropertiesDataSet.flagsMask
           timeSource := ← proc d.timeSource }

abbrev portDataSetF (d : PortDataSet) : Proc PortDataSet := do
  return { portIdentity := ← proc d.portIdentity
           portState := ← proc d.portState
           logMinDelayReqInterval := ← proc d.logMinDelayReqInterval
           peerMeanPathDelay := ← proc d.peerMeanPathDelay
           logAnnounceInterval := ← proc d.logAnnounceInterval
           announceReceiptTimeout := ← proc d.announceReceiptTimeout
           logSyncInterval := ← proc d.logSyncInterval
           delayMechanism := ← proc d.delayMechanism
           logMinPdelayReqInterval := ← proc d.logMinPdelayReqInterval
           versionNumber := ← proc d.versionNumber }

abbrev priority1F (d : Priority1) : Proc Priority1 := do
  return { priority1 := ← proc d.priority1 }

abbrev priority2F (d : Priority2) : Proc Priority2 := do
  return { priority2 := ← proc d.priority2 }

abbrev domainF (d : Domain) : Proc Domain := do
  return { domainNumber := ← proc d.domainNumber }

abbrev slaveOnlyF (d : SlaveOnly) : Proc SlaveOnly := do
  return { flags := ← procFlags d.flags SlaveOnly.flagsMask }

abbrev logAnnounceIntervalF (d : LogAnnounceInterval) : Proc LogAnnounceInterval := do
  return { logAnnounceInterval := ← proc d.logAnnounceInterval }

abbrev announceReceiptTimeoutF (d : AnnounceReceiptTimeout) : Proc AnnounceReceiptTimeout := do
  return { announceReceiptTimeout := ← proc d.announceReceiptTimeout }

abbrev logSyncIntervalF (d : LogSyncInterval) : Proc LogSyncInterval := do
  return { logSyncInterval := ← proc d.logSyncInterval }

abbrev versionNumberF (d : VersionNumber) : Proc VersionNumber := do
  return { versionNumber := ← proc d.versionNumber }

abbrev timeF (d : Time) : Proc Time := do
  return { currentTime := ← proc d.currentTime }

abbrev clockAccuracyF (d : ClockAccuracy) : Proc ClockAccuracy := do
  return { clockAccuracy := ← proc d.clockAccuracy }

abbrev utcPropertiesF (d : UtcProperties) : Proc UtcProperties := do
  return { currentUtcOffset := ← proc d.currentUtcOffset
           flags := ← procFlags d.flags UtcProperties.flagsMask }

abbrev traceabilityPropertiesF (d : TraceabilityProperties) : Proc TraceabilityProperties := do
  return { flags := ← procFlags d.flags TraceabilityProperties.flagsMask }

abbrev timescalePropertiesF (d : TimescaleProperties) : Proc TimescaleProperties := do
  return { flags := ← procFlags d.flags TimescaleProperties.flagsMask
           timeSource := ← proc d.timeSource }

abbrev unicastNegotiationEnableF (d : UnicastNegotiationEnable) : Proc UnicastNegotiationEnable := do
  return { flags := ← procFlags d.flags UnicastNegotiationEnable.flagsMask }

abbrev pathTraceListF (d : PathTraceList) : Proc PathTraceList := do
  return { pathSequence := ← vectorO ClockIdentity.size ClockIdentity.size_pos d.pathSequence }

abbrev pathTraceEnableF (d : PathTraceEnable) : Proc PathTraceEnable := do
  return { flags := ← procFlags d.flags PathTraceEnable.flagsMask }

abbrev grandmasterClusterTableF (d : GrandmasterClusterTable) : Proc GrandmasterClusterTable := do
  let build ← isBuild
  let logQueryInterval ← proc d.logQueryInterval
  let actualTableSize ←
    proc (if build then UInt8.ofNat d.portAddress.length else d.actualTableSize)
  let portAddress ← vectorF actualTableSize.toUInt32 d.portAddress
  return { logQueryInterval, actualTableSize, portAddress }

abbrev unicastMasterTableF (d : UnicastMasterTable) : Proc UnicastMasterTable := do
  let build ← isBuild
  let logQueryInterval ← proc d.logQueryInterval
  let actualTableSize ←
    proc (if build then UInt16.ofNat d.portAddress.length else d.actualTableSize)
  let portAddress ← vectorF actualTableSize.toUInt32 d.portAddress
  return { logQueryInterval, actualTableSize, portAddress }

abbrev unicastMasterMaxTableSizeF (d : UnicastMasterMaxTableSize) : Proc UnicastMasterMaxTableSize := do
  return { maxTableSize := ← proc d.maxTableSize }

abbrev acceptableMasterTableF (d : AcceptableMasterTable) : Proc AcceptableMasterTable := do
  let build ← isBuild
  let actualTableSize ←
    proc (if build then Int16.ofNat d.list.length else d.actualTableSize)
  -- the count is signed: a negative one becomes a huge unsigned one
  let list ← vectorF actualTableSize.toInt32.toUInt32 d.list
  return { actualTableSize, list }

abbrev acceptableMasterTableEnabledF (d : AcceptableMasterTableEnabled) : Proc AcceptableMasterTableEnabled := do
  return { flags := ← procFlags d.flags AcceptableMasterTableEnabled.flagsMask }

abbrev acceptableMasterMaxTableSizeF (d : AcceptableMasterMaxTableSize) : Proc AcceptableMasterMaxTableSize := do
  return { maxTableSize := ← proc d.maxTableSize }

abbrev alternateMasterF (d : AlternateMaster) : Proc AlternateMaster := do
  return { flags := ← procFlags d.flags AlternateMaster.flagsMask
           logAlternateMulticastSyncInterval := ← proc d.logAlternateMulticastSyncInterval
           numberOfAlternateMasters := ← proc d.numberOfAlternateMasters }

abbrev alternateTimeOffsetEnableF (d : AlternateTimeOffsetEnable) : Proc AlternateTimeOffsetEnable := do
  return { keyField := ← proc d.keyField
           flags := ← procFlags d.flags AlternateTimeOffsetEnable.flagsMask }

abbrev alternateTimeOffsetNameF (d : AlternateTimeOffsetName) : Proc AlternateTimeOffsetName := do
  return { keyField := ← proc d.keyField
           displayName := ← proc d.displayName }

abbrev alternateTimeOffsetMaxKeyF (d : AlternateTimeOffsetMaxKey) : Proc AlternateTimeOffsetMaxKey := do
  return { maxKey := ← proc d.maxKey }

abbrev alternateTimeOffsetPropertiesF (d : AlternateTimeOffsetProperties) : Proc AlternateTimeOffsetProperties := do
  return { keyField := ← proc d.keyField
           currentOffset := ← proc d.currentOffset
           jumpSeconds := ← proc d.jumpSeconds
           timeOfNextJump := ← proc48 d.timeOfNextJump }

abbrev transparentClockPortDataSetF (d : TransparentClockPortDataSet) : Proc TransparentClockPortDataSet := do
  return { portIdentity := ← proc d.portIdentity
           flags := ← procFlags d.flags TransparentClockPortDataSet.flagsMask
           logMinPdelayReqInterval := ← proc d.logMinPdelayReqInterval
           peerMeanPathDelay := ← proc d.peerMeanPathDelay }

abbrev logMinPdelayReqIntervalF (d : LogMinPdelayReqInterval) : Proc LogMinPdelayReqInterval := do
  return { logMinPdelayReqInterval := ← proc d.logMinPdelayReqInterval }

abbrev transparentClockDefaultDataSetF (d : TransparentClockDefaultDataSet) : Proc TransparentClockDefaultDataSet := do
  return { clockIdentity := ← proc d.clockIdentity
           numberPorts := ← proc d.numberPorts
           delayMechanism := ← proc d.delayMechanism
           primaryDomain := ← proc d.primaryDomain }

abbrev primaryDomainF (d : PrimaryDomain) : Proc PrimaryDomain := do
  return { primaryDomain := ← proc d.primaryDomain }

abbrev delayMechanismF (d : DelayMechanism) : Proc DelayMechanism := do
  return { delayMechanism := ← proc d.delayMechanism }

abbrev externalPortConfigurationEnabledF (d : ExternalPortConfigurationEnabled) : Proc ExternalPortConfigurationEnabled := do
  return { flags := ← procFlags d.flags ExternalPortConfigurationEnabled.flagsMask }

abbrev masterOnlyF (d : MasterOnly) : Proc MasterOnly := do
  return { flags := ← procFlags d.flags MasterOnly.flagsMask }

abbrev holdoverUpgradeEnableF (d : HoldoverUpgradeEnable) : Proc HoldoverUpgradeEnable := do
  return { flags := ← procFlags d.flags HoldoverUpgradeEnable.flagsMask }

abbrev extPortConfigPortDataSetF (d : ExtPortConfigPortDataSet) : Proc ExtPortConfigPortDataSet := do
  return { flags := ← procFlags d.flags ExtPortConfigPortDataSet.flagsMask
           desiredState := ← proc d.desiredState }

abbrev timeStatusNpF (d : TimeStatusNp) : Proc TimeStatusNp := do
  return { masterOffset := ← proc d.masterOffset
           ingressTime := ← proc d.ingressTime
           cumulativeScaledRateOffset := ← proc d.cumulativeScaledRateOffset
           scaledLastGmPhaseChange := ← proc d.scaledLastGmPhaseChange
           gmTimeBaseIndicator := ← proc d.gmTimeBaseIndicator
           nanosecondsMsb := ← proc d.nanosecondsMsb
           nanosecondsLsb := ← proc d.nanosecondsLsb
           fractionalNanoseconds := ← proc d.fractionalNanoseconds
           gmPresent := ← proc d.gmPresent
           gmIdentity := ← proc d.gmIdentity }

abbrev grandmasterSettingsNpF (d : GrandmasterSettingsNp) : Proc GrandmasterSettingsNp := do
  return { clockQuality := ← proc d.clockQuality
           currentUtcOffset := ← proc d.currentUtcOffset
           flags := ← procFlags d.flags GrandmasterSettingsNp.flagsMask
           timeSource := ← proc d.timeSource }

abbrev portDataSetNpF (d : PortDataSetNp) : Proc PortDataSetNp := do
  return { neighborPropDelayThresh := ← proc d.neighborPropDelayThresh
           asCapable := ← proc d.asCapable }

abbrev subscribeEventsNpF (d : SubscribeEventsNp) : Proc SubscribeEventsNp := do
  return { duration := ← proc d.duration
           bitmask := ← procOctets d.bitmask }

abbrev portPropertiesNpF (d : PortPropertiesNp) : Proc PortPropertiesNp := do
  return { portIdentity := ← proc d.portIdentity
           portState := ← proc d.portState
           timestamping := ← proc d.timestamping
           interface := ← proc d.interface }

abbrev portStatsNpF (d : PortStatsNp) : Proc PortStatsNp := do
  return { portIdentity := ← proc d.portIdentity
           rxMsgType := ← procLeArr d.rxMsgType
           txMsgType := ← procLeArr d.txMsgType }

abbrev synchronizationUncertainNpF (d : SynchronizationUncertainNp) : Proc SynchronizationUncertainNp := do
  return { val := ← proc d.val }

abbrev portServiceStatsNpF (d : PortServiceStatsNp) : Proc PortServiceStatsNp := do
  return { portIdentity := ← proc d.portIdentity
           announceTimeout := ← procLe d.announceTimeout
           syncTimeout := ← procLe d.syncTimeout
           delayTimeout := ← procLe d.delayTimeout
           unicastServiceTimeout := ← procLe d.unicastServiceTimeout
           unicastRequestTimeout := ← procLe d.unicastRequestTimeout
           masterAnnounceTimeout := ← procLe d.masterAnnounceTimeout
           masterSyncTimeout := ← procLe d.masterSyncTimeout
           qualificationTimeout := ← procLe d.qualificationTimeout
           syncMismatch := ← procLe d.syncMismatch
           followupMismatch := ← procLe d.followupMismatch }

abbrev unicastMasterTableNpF (d : UnicastMasterTableNp) : Proc UnicastMasterTableNp := do
  let build ← isBuild
  let actualTableSize ←
    proc (if build then Int16.ofNat d.unicastMasters.length else d.actualTableSize)
  -- the count is signed: a negative one becomes a huge unsigned one
  let unicastMasters ← vectorF actualTableSize.toInt32.toUInt32 d.unicastMasters
  return { actualTableSize, unicastMasters }

abbrev portHwclockNpF (d : PortHwclockNp) : Proc PortHwclockNp := do
  return { portIdentity := ← proc d.portIdentity
           phcIndex := ← proc d.phcIndex
           flags := ← proc d.flags }

abbrev powerProfileSettingsNpF (d : PowerProfileSettingsNp) : Proc PowerProfileSettingsNp := do
  return { version := ← proc d.version
           grandmasterID := ← proc d.grandmasterID
           grandmasterTimeInaccuracy := ← proc d.grandmasterTimeInaccuracy
           networkTimeInaccuracy := ← proc d.networkTimeInaccuracy
           totalTimeInaccuracy := ← proc d.totalTimeInaccuracy }

abbrev cmldsInfoNpF (d : CmldsInfoNp) : Proc CmldsInfoNp := do
  return { meanLinkDelay := ← proc d.meanLinkDelay
           scaledNeighborRateRatio := ← proc d.scaledNeighborRateRatio
           asCapable := ← proc d.asCapable }

abbrev portCorrectionsNpF (d : PortCorrectionsNp) : Proc PortCorrectionsNp := do
  return { egressLatency := ← proc d.egressLatency
           ingressLatency := ← proc d.ingressLatency
           delayAsymmetry := ← proc d.delayAsymmetry }

abbrev externalGrandmasterPropertiesNpF (d : ExternalGrandmasterPropertiesNp) : Proc ExternalGrandmasterPropertiesNp := do
  return { gmIdentity := ← proc d.gmIdentity
           stepsRemoved := ← proc d.stepsRemoved }

/-- The codec function of an id. -/
@[reducible]
def tlvF : (id : MngId) → Tlv id → Proc (Tlv id)
  | .nullPtpManagement, d => return d
  | .clockDescription, d => clockDescriptionF d
  | .userDescription, d => userDescriptionF d
  | .saveInNonVolatileStorage, d => return d
  | .resetNonVolatileStorage, d => return d
  | .initializeTlv, d => initializeTlvF d
  | .faultLog, d => faultLogF d
  | .faultLogReset, d => return d
  | .defaultDataSet, d => defaultDataSetF d
  | .currentDataSet, d => currentDataSetF d
  | .parentDataSet, d => parentDataSetF d
  | .timePropertiesDataSet, d => timePropertiesDataSetF d
  | .portDataSet, d => portDataSetF d
  | .priority1, d => priority1F d
  | .priority2, d => priority2F d
  | .domain, d => domainF d
  | .slaveOnly, d => slaveOnlyF d
  | .logAnnounceInterval, d => logAnnounceIntervalF d
  | .announceReceiptTimeout, d => announceReceiptTimeoutF d
  | .logSyncInterval, d => logSyncIntervalF d
  | .versionNumber, d => versionNumberF d
  | .enablePort, d => return d
  | .disablePort, d => return d
  | .time, d => timeF d
  | .clockAccuracy, d => clockAccuracyF d
  | .utcProperties, d => utcPropertiesF d
  | .traceabilityProperties, d => traceabilityPropertiesF d
  | .timescaleProperties, d => timescalePropertiesF d
  | .unicastNegotiationEnable, d => unicastNegotiationEnableF d
  | .pathTraceList, d => pathTraceListF d
  | .pathTraceEnable, d => pathTraceEnableF d
  | .grandmasterClusterTable, d => grandmasterClusterTableF d
  | .unicastMasterTable, d => unicastMasterTableF d
  | .unicastMasterMaxTableSize, d => unicastMasterMaxTableSizeF d
  | .acceptableMasterTable, d => acceptableMasterTableF d
  | .acceptableMasterTableEnabled, d => acceptableMasterTableEnabledF d
  | .acceptableMasterMaxTableSize, d => acceptableMasterMaxTableSizeF d
  | .alternateMaster, d => alternateMasterF d
  | .alternateTimeOffsetEnable, d => alternateTimeOffsetEnableF d
  | .alternateTimeOffsetName, d => alternateTimeOffsetNameF d
  | .alternateTimeOffsetMaxKey, d => alternateTimeOffsetMaxKeyF d
  | .alternateTimeOffsetProperties, d => alternateTimeOffsetPropertiesF d
  | .transparentClockPortDataSet, d => transparentClockPortDataSetF d
  | .logMinPdelayReqInterval, d => logMinPdelayReqIntervalF d
  | .transparentClockDefaultDataSet, d => transparentClockDefaultDataSetF d
  | .primaryDomain, d => primaryDomainF d
  | .delayMechanism, d => delayMechanismF d
  | .externalPortConfigurationEnabled, d => externalPortConfigurationEnabledF d
  | .masterOnly, d => masterOnlyF d
  | .holdoverUpgradeEnable, d => holdoverUpgradeEnableF d
  | .extPortConfigPortDataSet, d => extPortConfigPortDataSetF d
  | .timeStatusNp, d => timeStatusNpF d
  | .grandmasterSettingsNp, d => grandmasterSettingsNpF d
  | .portDataSetNp, d => portDataSetNpF d
  | .subscribeEventsNp, d => subscribeEventsNpF d
  | .portPropertiesNp, d => portPropertiesNpF d
  | .portStatsNp, d => portStatsNpF d
  | .synchronizationUncertainNp, d => synchronizationUncertainNpF d
  | .portServiceStatsNp, d => portServiceStatsNpF d
  | .unicastMasterTableNp, d => unicastMasterTableNpF d
  | .portHwclockNp, d => portHwclockNpF d
  | .powerProfileSettingsNp, d => powerProfileSettingsNpF d
  | .cmldsInfoNp, d => cmldsInfoNpF d
  | .portCorrectionsNp, d => portCorrectionsNpF d
  | .externalGrandmasterPropertiesNp, d => externalGrandmasterPropertiesNpF d

/-! ## Size functions (`*_s`) -/

/-- `vector_l`: the size of a table of records with a size of their own. -/
def vectorL {α : Type} (size : α → Nat) (ret : Nat) (vec : List α) : Nat :=
  vec.foldl (fun ret rec => ret + size rec) ret

def clockDescriptionS (d : ClockDescription) : Nat :=
  13 + d.physicalAddress.length + d.protocolAddress.size + d.physicalLayerProtocol.size +
    d.productDescription.size + d.revisionData.size + d.userDescription.size

def userDescriptionS (d : UserDescription) : Nat :=
  d.userDescription.size

def faultLogS (d : FaultLog) : Nat :=
  vectorL FaultRecord.size 2 d.faultRecords

def pathTraceListS (d : PathTraceList) : Nat :=
  ClockIdentity.size * d.pathSequence.length

def grandmasterClusterTableS (d : GrandmasterClusterTable) : Nat :=
  vectorL PortAddress.size 2 d.portAddress

def unicastMasterTableS (d : UnicastMasterTable) : Nat :=
  vectorL PortAddress.size 3 d.portAddress

def acceptableMasterTableS (d : AcceptableMasterTable) : Nat :=
  2 + AcceptableMaster.size * d.list.length

def alternateTimeOffsetNameS (d : AlternateTimeOffsetName) : Nat :=
  1 + d.displayName.size

def portPropertiesNpS (d : PortPropertiesNp) : Nat :=
  2 + PortIdentity.size + d.interface.size

def unicastMasterTableNpS (d : UnicastMasterTableNp) : Nat :=
  vectorL LinuxptpUnicastMaster.size 2 d.unicastMasters

/-- The size function of an id, where it has one. -/
def tlvS : (id : MngId) → Tlv id → Option Nat
  | .clockDescription, d => some (clockDescriptionS d)
  | .userDescription, d => some (userDescriptionS d)
  | .faultLog, d => some (faultLogS d)
  | .pathTraceList, d => some (pathTraceListS d)
  | .grandmasterClusterTable, d => some (grandmasterClusterTableS d)
  | .unicastMasterTable, d => some (unicastMasterTableS d)
  | .acceptableMasterTable, d => some (acceptableMasterTableS d)
  | .alternateTimeOffsetName, d => some (alternateTimeOffsetNameS d)
  | .portPropertiesNp, d => some (portPropertiesNpS d)
  | .unicastMasterTableNp, d => some (unicastMasterTableNpS d)
  | _, _ => none

/-- `Message::dataFieldSize`: the size of an object of another class is that of an empty one. -/
def dataFieldSize (id : MngId) (tlv : Option BaseMngTlv) : Int :=
  let d := (tlv.bind (BaseMngTlv.cast? id)).getD default
  match tlvS id d with
  | some n => n
  | none => -2

/-! ## The dispatch over the ids -/

/-- The default error on build or parsing. -/
def MsgProc.fresh (mp : MsgProc) : MsgProc := { mp with err := .tooSmall }

@[simp] theorem MsgProc.fresh_build (mp : MsgProc) : mp.fresh.build = mp.build := rfl
@[simp] theorem MsgProc.fresh_cur (mp : MsgProc) : mp.fresh.cur = mp.cur := rfl
@[simp] theorem MsgProc.fresh_left (mp : MsgProc) : mp.fresh.left = mp.left := rfl
@[simp] theorem MsgProc.fresh_size (mp : MsgProc) : mp.fresh.size = mp.size := rfl
@[simp] theorem MsgProc.fresh_mem (mp : MsgProc) : mp.fresh.mem = mp.mem := rfl
@[simp] theorem MsgProc.fresh_err (mp : MsgProc) : mp.fresh.err = .tooSmall := rfl
@[simp] theorem MsgProc.fresh_reads (mp : MsgProc) : mp.fresh.reads = mp.reads := rfl
@[simp] theorem MsgProc.fresh_writes (mp : MsgProc) : mp.fresh.writes = mp.writes := rfl
@[simp] theorem MsgProc.fresh_stuck (mp : MsgProc) : mp.fresh.stuck = mp.stuck := rfl

theorem MsgProc.fresh_of_err {mp : MsgProc} (h : mp.err = .tooSmall) : mp.fresh = mp := by
  rw [MsgProc.fresh, ← h]

/-- `MsgProc::call_tlv_data`. An id without a codec function is accepted and leaves the pointer as it
    is. The ids outside the table, which the source refuses, are outside `MngId`: both callers pass
    an id that came from the table. -/
def callTlvData (id : MngId) (tlv : TlvPtr) (mp : MsgProc) : MngParseError × TlvPtr × MsgProc :=
  let mp := mp.fresh
  if (mngAllVals id).func = .na then (.ok, tlv, mp)
  else if mp.build then
    match tlv.cast? id with
    | none => (.mismatchTlv, tlv, mp)
    | some a =>
      match (tlvF id a).run mp with
      | (none, mp) => (mp.err, tlv, mp)
      | (some a, mp) => (.ok, .obj (.tlv id a), mp)
  else
    match (tlvF id default).run mp with
    | (none, mp) => (mp.err, tlv, mp)
    | (some t, mp) => (.ok, .obj (.tlv id t), mp)

theorem callTlvData_na {id : MngId} (tlv : TlvPtr) (mp : MsgProc)
    (h : (mngAllVals id).func = .na) : callTlvData id tlv mp = (.ok, tlv, mp.fresh) := by
  rw [callTlvData, if_pos h]

theorem callTlvData_build {id : MngId} (d : Tlv id) {mp : MsgProc}
    (h : (mngAllVals id).func ≠ .na) (hb : mp.build = true) :
    callTlvData id (.obj (.tlv id d)) mp = match (tlvF id d).run mp.fresh with
      | (none, mp') => (mp'.err, .obj (.tlv id d), mp')
      | (some a, mp') => (.ok, .obj (.tlv id a), mp') := by
  rw [callTlvData, if_neg h, MsgProc.fresh_build, hb, if_pos rfl, TlvPtr.cast?,
    BaseMngTlv.cast?_tlv]

theorem callTlvData_build_walk {id : MngId} (d : Tlv id) {mp : MsgProc}
    (h : (mngAllVals id).func ≠ .na) (hb : mp.build = true) :
    (callTlvData id (.obj (.tlv id d)) mp).2.2 = ((tlvF id d).run mp.fresh).2 := by
  rw [callTlvData_build d h hb]
  split <;> next hrun => rw [hrun]

theorem callTlvData_parse {id : MngId} (tlv : TlvPtr) {mp : MsgProc}
    (h : (mngAllVals id).func ≠ .na) (hb : mp.build = false) :
    callTlvData id tlv mp = match (tlvF id default).run mp.fresh with
      | (none, mp') => (mp'.err, tlv, mp')
      | (some t, mp') => (.ok, .obj (.tlv id t), mp') := by
  rw [callTlvData, if_neg h, MsgProc.fresh_build, hb, if_neg Bool.false_ne_true]

end PtpMgmt
