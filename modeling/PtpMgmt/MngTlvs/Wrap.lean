import PtpMgmt.MngTlvs.Spec

set_option autoImplicit false

/-! # The C structures (`cpp2cMngTlv`, `c2cppMngTlv`)

The wrapper for C has the structures of the management TLVs once more. Those without texts, addresses and
tables have the same fields in both languages, and are one type here. In the others a text is a length and
a pointer, and a table is a count and a pointer to separate memory.

What a converter does not write stays as the new memory is: a C structure from `malloc` holds anything, and
of a new C++ object only the strings, the binaries and the vectors are known to be empty. -/

namespace PtpMgmt

/-! ## Pointers -/

/-- A C pointer to an array. `wild` is one that was never assigned. -/
inductive Ptr (α : Type)
  | null
  | wild
  | to (l : List α)
deriving Inhabited

section Ptr

variable {α β : Type}

/-- One element; nothing when it is not there to read. -/
def Ptr.get? : Ptr α → Nat → Option α
  | .to l, i => l[i]?
  | _, _ => none

/-- The first elements. -/
def Ptr.read (p : Ptr α) : Nat → Option (List α)
  | 0 => some []
  | n + 1 => (p.read n).bind fun l => (p.get? n).map fun x => l ++ [x]

theorem Ptr.read_to {l : List α} {n : Nat} (h : n ≤ l.length) : (Ptr.to l).read n = some (l.take n) := by
  induction n with
  | zero => rfl
  | succ n ih =>
      have hn : n < l.length := h
      rw [read, ih (Nat.le_of_lt hn), Option.bind_some, get?, List.getElem?_eq_getElem hn, Option.map_some,
        List.take_append_getElem]

end Ptr

/-! ## Records -/

/-- `ptpmgmt_PTPText_t`. -/
structure CPTPText where
  lengthField : UInt8
  textField : Ptr UInt8
deriving Inhabited

/-- `ptpmgmt_PortAddress_t`. -/
structure CPortAddress where
  networkProtocol : NetworkProtocol
  addressLength : UInt16
  addressField : Ptr UInt8
deriving Inhabited

/-- `ptpmgmt_FaultRecord_t`. -/
structure CFaultRecord where
  faultRecordLength : UInt16
  faultTime : Timestamp
  severityCode : FaultRecordE
  faultName : CPTPText
  faultValue : CPTPText
  faultDescription : CPTPText
deriving Inhabited

/-- `ptpmgmt_LinuxptpUnicastMaster_t`. -/
structure CLinuxptpUnicastMaster where
  portIdentity : PortIdentity
  clockQuality : ClockQuality
  selected : UInt8
  portState : LinuxptpUnicastState
  priority1 : UInt8
  priority2 : UInt8
  portAddress : CPortAddress
deriving Inhabited

/-- `c_st` of a text. The pointer is to the octets of the string, with the zero after them. -/
def PTPText.c1 (a : CPTPText) (d : PTPText) : CPTPText :=
  { a with
    lengthField := UInt8.ofNat (min d.textField.length 255)
    textField := if d.textField.length > 0 then .to (d.textField ++ [0]) else .null }

def Ptr.isNull {α : Type} : Ptr α → Bool
  | .null => true
  | _ => false

def PTPText.c2 (a : PTPText) (d : CPTPText) : Option PTPText :=
  let l := if d.textField.isNull then 0 else d.lengthField
  if l > 0 then (d.textField.read l.toNat).map fun t => { a with lengthField := l, textField := t }
  else some { a with lengthField := l }

/-- `c_st` of a binary: the pointer and the length. -/
def binaryC1 (d : Binary) : Ptr UInt8 × UInt16 :=
  let n := UInt16.ofNat d.length
  (if n > 0 then .to d else .null, n)

def binaryC2 (a : Binary) (d : Ptr UInt8) (m : UInt16) : Option (Binary × UInt16) :=
  let n := if d.isNull then 0 else m
  if n > 0 then (d.read n.toNat).map fun b => (b, n) else some (a, n)

def PortAddress.c1 (a : CPortAddress) (d : PortAddress) : CPortAddress :=
  { a with
    networkProtocol := d.networkProtocol
    addressField := (binaryC1 d.addressField).1
    addressLength := (binaryC1 d.addressField).2 }

def PortAddress.c2 (a : PortAddress) (d : CPortAddress) : Option PortAddress :=
  (binaryC2 a.addressField d.addressField d.addressLength).map fun x =>
    { a with networkProtocol := d.networkProtocol, addressField := x.1, addressLength := x.2 }

/-- `C_CP` of an identity. -/
def ClockIdentity.cCp (a d : ClockIdentity) : ClockIdentity := { a with v := d.v }

def TimeInterval.cM (a d : TimeInterval) : TimeInterval := { a with scaledNanoseconds := d.scaledNanoseconds }

def Timestamp.cM (a d : Timestamp) : Timestamp :=
  { a with secondsField := d.secondsField, nanosecondsField := d.nanosecondsField }

def ClockQuality.cSt (a d : ClockQuality) : ClockQuality :=
  { a with
    clockClass := d.clockClass
    clockAccuracy := d.clockAccuracy
    offsetScaledLogVariance := d.offsetScaledLogVariance }

def PortIdentity.cSt (a d : PortIdentity) : PortIdentity :=
  { a with
    portNumber := d.portNumber
    clockIdentity := ClockIdentity.cCp a.clockIdentity d.clockIdentity }

def FaultRecord.c1 (m : CFaultRecord) (f : FaultRecord) : CFaultRecord :=
  { m with
    faultRecordLength := f.faultRecordLength
    faultTime := Timestamp.cM m.faultTime f.faultTime
    severityCode := f.severityCode
    faultName := f.faultName.c1 m.faultName
    faultValue := f.faultValue.c1 m.faultValue
    faultDescription := f.faultDescription.c1 m.faultDescription }

def FaultRecord.c2 (r : FaultRecord) (f : CFaultRecord) : Option FaultRecord :=
  (r.faultName.c2 f.faultName).bind fun faultName =>
  (r.faultValue.c2 f.faultValue).bind fun faultValue =>
  (r.faultDescription.c2 f.faultDescription).map fun faultDescription =>
    { r with
      faultRecordLength := f.faultRecordLength
      faultTime := Timestamp.cM r.faultTime f.faultTime
      severityCode := f.severityCode
      faultName, faultValue, faultDescription }

def AcceptableMaster.copy (a d : AcceptableMaster) : AcceptableMaster :=
  { a with
    acceptablePortIdentity := PortIdentity.cSt a.acceptablePortIdentity d.acceptablePortIdentity
    alternatePriority1 := d.alternatePriority1 }

def LinuxptpUnicastMaster.c1 (m : CLinuxptpUnicastMaster) (f : LinuxptpUnicastMaster) :
    CLinuxptpUnicastMaster :=
  { m with
    portIdentity := PortIdentity.cSt m.portIdentity f.portIdentity
    clockQuality := ClockQuality.cSt m.clockQuality f.clockQuality
    selected := f.selected
    portState := f.portState
    priority1 := f.priority1
    priority2 := f.priority2
    portAddress := f.portAddress.c1 m.portAddress }

def LinuxptpUnicastMaster.c2 (r : LinuxptpUnicastMaster) (f : CLinuxptpUnicastMaster) :
    Option LinuxptpUnicastMaster :=
  (r.portAddress.c2 f.portAddress).map fun portAddress =>
    { r with
      portIdentity := PortIdentity.cSt r.portIdentity f.portIdentity
      clockQuality := ClockQuality.cSt r.clockQuality f.clockQuality
      selected := f.selected
      portState := f.portState
      priority1 := f.priority1
      priority2 := f.priority2
      portAddress }

/-! ## Structures with the same fields

Both converters of such a structure name the same fields, from C++ to C and back. -/

def InitializeTlv.copy (a d : InitializeTlv) : InitializeTlv :=
  { a with initializationKey := d.initializationKey }

def DefaultDataSet.copy (a d : DefaultDataSet) : DefaultDataSet :=
  { a with
    flags := d.flags
    numberPorts := d.numberPorts
    priority1 := d.priority1
    clockQuality := ClockQuality.cSt a.clockQuality d.clockQuality
    priority2 := d.priority2
    clockIdentity := ClockIdentity.cCp a.clockIdentity d.clockIdentity
    domainNumber := d.domainNumber }

def CurrentDataSet.copy (a d : CurrentDataSet) : CurrentDataSet :=
  { a with
    stepsRemoved := d.stepsRemoved
    offsetFromMaster := TimeInterval.cM a.offsetFromMaster d.offsetFromMaster
    meanPathDelay := TimeInterval.cM a.meanPathDelay d.meanPathDelay }

def ParentDataSet.copy (a d : ParentDataSet) : ParentDataSet :=
  { a with
    parentPortIdentity := PortIdentity.cSt a.parentPortIdentity d.parentPortIdentity
    flags := d.flags
    observedParentOffsetScaledLogVariance := d.observedParentOffsetScaledLogVariance
    observedParentClockPhaseChangeRate := d.observedParentClockPhaseChangeRate
    grandmasterPriority1 := d.grandmasterPriority1
    grandmasterClockQuality := ClockQuality.cSt a.grandmasterClockQuality d.grandmasterClockQuality
    grandmasterPriority2 := d.grandmasterPriority2
    grandmasterIdentity := ClockIdentity.cCp a.grandmasterIdentity d.grandmasterIdentity }

def TimePropertiesDataSet.copy (a d : TimePropertiesDataSet) : TimePropertiesDataSet :=
  { a with
    currentUtcOffset := d.currentUtcOffset
    flags := d.flags
    timeSource := d.timeSource }

def PortDataSet.copy (a d : PortDataSet) : PortDataSet :=
  { a with
    portIdentity := PortIdentity.cSt a.portIdentity d.portIdentity
    portState := d.portState
    logMinDelayReqInterval := d.logMinDelayReqInterval
    peerMeanPathDelay := TimeInterval.cM a.peerMeanPathDelay d.peerMeanPathDelay
    logAnnounceInterval := d.logAnnounceInterval
    announceReceiptTimeout := d.announceReceiptTimeout
    logSyncInterval := d.logSyncInterval
    delayMechanism := d.delayMechanism
    logMinPdelayReqInterval := d.logMinPdelayReqInterval
    versionNumber := d.versionNumber }

def Priority1.copy (a d : Priority1) : Priority1 := { a with priority1 := d.priority1 }

def Priority2.copy (a d : Priority2) : Priority2 := { a with priority2 := d.priority2 }

def Domain.copy (a d : Domain) : Domain := { a with domainNumber := d.domainNumber }

def SlaveOnly.copy (a d : SlaveOnly) : SlaveOnly := { a with flags := d.flags }

def LogAnnounceInterval.copy (a d : LogAnnounceInterval) : LogAnnounceInterval :=
  { a with logAnnounceInterval := d.logAnnounceInterval }

def AnnounceReceiptTimeout.copy (a d : AnnounceReceiptTimeout) : AnnounceReceiptTimeout :=
  { a with announceReceiptTimeout := d.announceReceiptTimeout }

def LogSyncInterval.copy (a d : LogSyncInterval) : LogSyncInterval :=
  { a with logSyncInterval := d.logSyncInterval }

def VersionNumber.copy (a d : VersionNumber) : VersionNumber := { a with versionNumber := d.versionNumber }

def Time.copy (a d : Time) : Time :=
  { a with currentTime := Timestamp.cM a.currentTime d.currentTime }

def ClockAccuracy.copy (a d : ClockAccuracy) : ClockAccuracy := { a with clockAccuracy := d.clockAccuracy }

def UtcProperties.copy (a d : UtcProperties) : UtcProperties :=
  { a with
    currentUtcOffset := d.currentUtcOffset
    flags := d.flags }

def TraceabilityProperties.copy (a d : TraceabilityProperties) : TraceabilityProperties :=
  { a with flags := d.flags }

def TimescaleProperties.copy (a d : TimescaleProperties) : TimescaleProperties :=
  { a with
    flags := d.flags
    timeSource := d.timeSource }

def UnicastNegotiationEnable.copy (a d : UnicastNegotiationEnable) : UnicastNegotiationEnable :=
  { a with flags := d.flags }

def PathTraceEnable.copy (a d : PathTraceEnable) : PathTraceEnable := { a with flags := d.flags }

def UnicastMasterMaxTableSize.copy (a d : UnicastMasterMaxTableSize) : UnicastMasterMaxTableSize :=
  { a with maxTableSize := d.maxTableSize }

def AcceptableMasterTableEnabled.copy (a d : AcceptableMasterTableEnabled) : AcceptableMasterTableEnabled :=
  { a with flags := d.flags }

def AcceptableMasterMaxTableSize.copy (a d : AcceptableMasterMaxTableSize) : AcceptableMasterMaxTableSize :=
  { a with maxTableSize := d.maxTableSize }

def AlternateMaster.copy (a d : AlternateMaster) : AlternateMaster :=
  { a with
    flags := d.flags
    logAlternateMulticastSyncInterval := d.logAlternateMulticastSyncInterval
    numberOfAlternateMasters := d.numberOfAlternateMasters }

def AlternateTimeOffsetEnable.copy (a d : AlternateTimeOffsetEnable) : AlternateTimeOffsetEnable :=
  { a with
    keyField := d.keyField
    flags := d.flags }

def AlternateTimeOffsetMaxKey.copy (a d : AlternateTimeOffsetMaxKey) : AlternateTimeOffsetMaxKey :=
  { a with maxKey := d.maxKey }

def AlternateTimeOffsetProperties.copy (a d : AlternateTimeOffsetProperties) :
    AlternateTimeOffsetProperties :=
  { a with
    keyField := d.keyField
    currentOffset := d.currentOffset
    jumpSeconds := d.jumpSeconds
    timeOfNextJump := d.timeOfNextJump }

def TransparentClockPortDataSet.copy (a d : TransparentClockPortDataSet) : TransparentClockPortDataSet :=
  { a with
    portIdentity := PortIdentity.cSt a.portIdentity d.portIdentity
    flags := d.flags
    logMinPdelayReqInterval := d.logMinPdelayReqInterval
    peerMeanPathDelay := TimeInterval.cM a.peerMeanPathDelay d.peerMeanPathDelay }

def LogMinPdelayReqInterval.copy (a d : LogMinPdelayReqInterval) : LogMinPdelayReqInterval :=
  { a with logMinPdelayReqInterval := d.logMinPdelayReqInterval }

def TransparentClockDefaultDataSet.copy (a d : TransparentClockDefaultDataSet) :
    TransparentClockDefaultDataSet :=
  { a with
    clockIdentity := ClockIdentity.cCp a.clockIdentity d.clockIdentity
    numberPorts := d.numberPorts
    delayMechanism := d.delayMechanism
    primaryDomain := d.primaryDomain }

def PrimaryDomain.copy (a d : PrimaryDomain) : PrimaryDomain := { a with primaryDomain := d.primaryDomain }

def DelayMechanism.copy (a d : DelayMechanism) : DelayMechanism :=
  { a with delayMechanism := d.delayMechanism }

def ExternalPortConfigurationEnabled.copy (a d : ExternalPortConfigurationEnabled) :
    ExternalPortConfigurationEnabled :=
  { a with flags := d.flags }

def MasterOnly.copy (a d : MasterOnly) : MasterOnly := { a with flags := d.flags }

def HoldoverUpgradeEnable.copy (a d : HoldoverUpgradeEnable) : HoldoverUpgradeEnable :=
  { a with flags := d.flags }

def ExtPortConfigPortDataSet.copy (a d : ExtPortConfigPortDataSet) : ExtPortConfigPortDataSet :=
  { a with
    flags := d.flags
    desiredState := d.desiredState }

def TimeStatusNp.copy (a d : TimeStatusNp) : TimeStatusNp :=
  { a with
    masterOffset := d.masterOffset
    ingressTime := d.ingressTime
    cumulativeScaledRateOffset := d.cumulativeScaledRateOffset
    scaledLastGmPhaseChange := d.scaledLastGmPhaseChange
    gmTimeBaseIndicator := d.gmTimeBaseIndicator
    nanosecondsMsb := d.nanosecondsMsb
    nanosecondsLsb := d.nanosecondsLsb
    fractionalNanoseconds := d.fractionalNanoseconds
    gmPresent := d.gmPresent
    gmIdentity := ClockIdentity.cCp a.gmIdentity d.gmIdentity }

def GrandmasterSettingsNp.copy (a d : GrandmasterSettingsNp) : GrandmasterSettingsNp :=
  { a with
    clockQuality := ClockQuality.cSt a.clockQuality d.clockQuality
    currentUtcOffset := d.currentUtcOffset
    flags := d.flags
    timeSource := d.timeSource }

def PortDataSetNp.copy (a d : PortDataSetNp) : PortDataSetNp :=
  { a with
    neighborPropDelayThresh := d.neighborPropDelayThresh
    asCapable := d.asCapable }

def SubscribeEventsNp.copy (a d : SubscribeEventsNp) : SubscribeEventsNp :=
  { a with
    duration := d.duration
    bitmask := d.bitmask }

def PortStatsNp.copy (a d : PortStatsNp) : PortStatsNp :=
  { a with
    portIdentity := PortIdentity.cSt a.portIdentity d.portIdentity
    rxMsgType := d.rxMsgType
    txMsgType := d.txMsgType }

def SynchronizationUncertainNp.copy (a d : SynchronizationUncertainNp) : SynchronizationUncertainNp :=
  { a with val := d.val }

def PortServiceStatsNp.copy (a d : PortServiceStatsNp) : PortServiceStatsNp :=
  { a with
    portIdentity := PortIdentity.cSt a.portIdentity d.portIdentity
    announceTimeout := d.announceTimeout
    syncTimeout := d.syncTimeout
    delayTimeout := d.delayTimeout
    unicastServiceTimeout := d.unicastServiceTimeout
    unicastRequestTimeout := d.unicastRequestTimeout
    masterAnnounceTimeout := d.masterAnnounceTimeout
    masterSyncTimeout := d.masterSyncTimeout
    qualificationTimeout := d.qualificationTimeout
    syncMismatch := d.syncMismatch
    followupMismatch := d.followupMismatch }

def PortHwclockNp.copy (a d : PortHwclockNp) : PortHwclockNp :=
  { a with
    portIdentity := PortIdentity.cSt a.portIdentity d.portIdentity
    phcIndex := d.phcIndex
    flags := d.flags }

def PowerProfileSettingsNp.copy (a d : PowerProfileSettingsNp) : PowerProfileSettingsNp :=
  { a with
    version := d.version
    grandmasterID := d.grandmasterID
    grandmasterTimeInaccuracy := d.grandmasterTimeInaccuracy
    networkTimeInaccuracy := d.networkTimeInaccuracy
    totalTimeInaccuracy := d.totalTimeInaccuracy }

def CmldsInfoNp.copy (a d : CmldsInfoNp) : CmldsInfoNp :=
  { a with
    meanLinkDelay := TimeInterval.cM a.meanLinkDelay d.meanLinkDelay
    scaledNeighborRateRatio := d.scaledNeighborRateRatio
    asCapable := d.asCapable }

def PortCorrectionsNp.copy (a d : PortCorrectionsNp) : PortCorrectionsNp :=
  { a with
    egressLatency := d.egressLatency
    ingressLatency := d.ingressLatency
    delayAsymmetry := d.delayAsymmetry }

def ExternalGrandmasterPropertiesNp.copy (a d : ExternalGrandmasterPropertiesNp) :
    ExternalGrandmasterPropertiesNp :=
  { a with
    gmIdentity := ClockIdentity.cCp a.gmIdentity d.gmIdentity
    stepsRemoved := d.stepsRemoved }

/-! ## Structures with texts and tables -/

/-- `ptpmgmt_CLOCK_DESCRIPTION_t`. -/
structure CClockDescription where
  clockType : UInt16
  physicalLayerProtocol : CPTPText
  physicalAddressLength : UInt16
  physicalAddress : Ptr UInt8
  protocolAddress : CPortAddress
  manufacturerIdentity : Octets 3
  productDescription : CPTPText
  revisionData : CPTPText
  userDescription : CPTPText
  profileIdentity : Octets 6
deriving Inhabited

structure CUserDescription where
  userDescription : CPTPText
deriving Inhabited

structure CFaultLog where
  numberOfFaultRecords : UInt16
  faultRecords : Ptr CFaultRecord
deriving Inhabited

/-- `ptpmgmt_PATH_TRACE_LIST_t`: the list ends with an identity of zeros. -/
structure CPathTraceList where
  pathSequence : Ptr ClockIdentity
  actualTableSize : Nat
deriving Inhabited

structure CGrandmasterClusterTable where
  logQueryInterval : Int8
  actualTableSize : UInt8
  portAddress : Ptr CPortAddress
deriving Inhabited

structure CUnicastMasterTable where
  logQueryInterval : Int8
  actualTableSize : UInt16
  portAddress : Ptr CPortAddress
deriving Inhabited

structure CAcceptableMasterTable where
  actualTableSize : Int16
  list : Ptr AcceptableMaster
deriving Inhabited

structure CAlternateTimeOffsetName where
  keyField : UInt8
  displayName : CPTPText
deriving Inhabited

structure CPortPropertiesNp where
  portIdentity : PortIdentity
  portState : PortState
  timestamping : LinuxptpTimeStamp
  interface : CPTPText
deriving Inhabited

structure CUnicastMasterTableNp where
  actualTableSize : Int16
  unicastMasters : Ptr CLinuxptpUnicastMaster
deriving Inhabited

/-- The new memory of a table, as `malloc` gives it. -/
structure TableMem where
  faultRecord : Nat → CFaultRecord
  portAddress : Nat → CPortAddress
  acceptableMaster : Nat → AcceptableMaster
  unicastMaster : Nat → CLinuxptpUnicastMaster

section Table

variable {α β : Type}

/-- `C1_tbl` and the loop after it: nothing for a count that is not the size of the table. The pointer stays as
    it is when the table is empty. -/
def c1Tbl (conv : β → α → β) (m : Nat → β) (count : Int) (tbl : List α) (p : Ptr β) : Option (Ptr β) :=
  if count ≠ tbl.length then none
  else if count = 0 then some p
  else some (.to (tbl.mapIdx fun i f => conv (m i) f))

/-- `resize` of an empty vector, which clears the new elements, and the loop after it. -/
def c2Tbl [Inhabited α] (conv : α → β → Option α) (count : Int) (p : Ptr β) : Option (List α) :=
  if count < 0 then none else (p.read count.toNat).bind fun l => l.mapM (conv default)

end Table

def ClockDescription.c1 (a : CClockDescription) (d : ClockDescription) : CClockDescription :=
  { a with
    clockType := d.clockType
    physicalLayerProtocol := d.physicalLayerProtocol.c1 a.physicalLayerProtocol
    physicalAddress := (binaryC1 d.physicalAddress).1
    physicalAddressLength := (binaryC1 d.physicalAddress).2
    protocolAddress := d.protocolAddress.c1 a.protocolAddress
    manufacturerIdentity := d.manufacturerIdentity
    productDescription := d.productDescription.c1 a.productDescription
    revisionData := d.revisionData.c1 a.revisionData
    userDescription := d.userDescription.c1 a.userDescription
    profileIdentity := d.profileIdentity }

def ClockDescription.c2 (a : ClockDescription) (d : CClockDescription) : Option ClockDescription :=
  (a.physicalLayerProtocol.c2 d.physicalLayerProtocol).bind fun physicalLayerProtocol =>
  (binaryC2 a.physicalAddress d.physicalAddress d.physicalAddressLength).bind fun x =>
  (a.protocolAddress.c2 d.protocolAddress).bind fun protocolAddress =>
  (a.productDescription.c2 d.productDescription).bind fun productDescription =>
  (a.revisionData.c2 d.revisionData).bind fun revisionData =>
  (a.userDescription.c2 d.userDescription).map fun userDescription =>
    { a with
      clockType := d.clockType
      physicalLayerProtocol
      physicalAddress := x.1
      physicalAddressLength := x.2
      protocolAddress
      manufacturerIdentity := d.manufacturerIdentity
      productDescription, revisionData, userDescription
      profileIdentity := d.profileIdentity }

def UserDescription.c1 (a : CUserDescription) (d : UserDescription) : CUserDescription :=
  { a with userDescription := d.userDescription.c1 a.userDescription }

def UserDescription.c2 (a : UserDescription) (d : CUserDescription) : Option UserDescription :=
  (a.userDescription.c2 d.userDescription).map fun userDescription => { a with userDescription }

def FaultLog.c1 (m : TableMem) (a : CFaultLog) (d : FaultLog) : Option CFaultLog :=
  (c1Tbl FaultRecord.c1 m.faultRecord d.numberOfFaultRecords.toNat d.faultRecords a.faultRecords).map
    fun faultRecords => { a with numberOfFaultRecords := d.numberOfFaultRecords, faultRecords }

def FaultLog.c2 (a : FaultLog) (d : CFaultLog) : Option FaultLog :=
  (c2Tbl FaultRecord.c2 d.numberOfFaultRecords.toNat d.faultRecords).map fun faultRecords =>
    { a with numberOfFaultRecords := d.numberOfFaultRecords, faultRecords }

def ClockIdentity.zero : ClockIdentity := ⟨Octets.ofList 8 []⟩

def PathTraceList.c1 (a : CPathTraceList) (d : PathTraceList) : CPathTraceList :=
  { a with
    actualTableSize := d.pathSequence.length
    pathSequence := .to (d.pathSequence ++ [ClockIdentity.zero]) }

/-- The loop of `PATH_TRACE_LIST_c2`, until an identity of zeros; nothing when it runs over the end. -/
def pathUntilZero : List ClockIdentity → Option (List ClockIdentity)
  | [] => none
  | v :: l => if v = ClockIdentity.zero then some [] else (pathUntilZero l).map (v :: ·)

def PathTraceList.c2 (a : PathTraceList) (d : CPathTraceList) : Option PathTraceList :=
  match d.pathSequence with
  | .null => some a
  | .wild => none
  | .to l => (pathUntilZero l).map fun path => { a with pathSequence := a.pathSequence ++ path }

def GrandmasterClusterTable.c1 (m : TableMem) (a : CGrandmasterClusterTable) (d : GrandmasterClusterTable) :
    Option CGrandmasterClusterTable :=
  (c1Tbl PortAddress.c1 m.portAddress d.actualTableSize.toNat d.portAddress a.portAddress).map fun portAddress =>
    { a with logQueryInterval := d.logQueryInterval, actualTableSize := d.actualTableSize, portAddress }

def GrandmasterClusterTable.c2 (a : GrandmasterClusterTable) (d : CGrandmasterClusterTable) :
    Option GrandmasterClusterTable :=
  (c2Tbl PortAddress.c2 d.actualTableSize.toNat d.portAddress).map fun portAddress =>
    { a with logQueryInterval := d.logQueryInterval, actualTableSize := d.actualTableSize, portAddress }

def UnicastMasterTable.c1 (m : TableMem) (a : CUnicastMasterTable) (d : UnicastMasterTable) :
    Option CUnicastMasterTable :=
  (c1Tbl PortAddress.c1 m.portAddress d.actualTableSize.toNat d.portAddress a.portAddress).map fun portAddress =>
    { a with logQueryInterval := d.logQueryInterval, actualTableSize := d.actualTableSize, portAddress }

def UnicastMasterTable.c2 (a : UnicastMasterTable) (d : CUnicastMasterTable) : Option UnicastMasterTable :=
  (c2Tbl PortAddress.c2 d.actualTableSize.toNat d.portAddress).map fun portAddress =>
    { a with logQueryInterval := d.logQueryInterval, actualTableSize := d.actualTableSize, portAddress }

def AcceptableMasterTable.c1 (m : TableMem) (a : CAcceptableMasterTable) (d : AcceptableMasterTable) :
    Option CAcceptableMasterTable :=
  (c1Tbl AcceptableMaster.copy m.acceptableMaster d.actualTableSize.toInt d.list a.list).map fun list =>
    { a with actualTableSize := d.actualTableSize, list }

def AcceptableMasterTable.c2 (a : AcceptableMasterTable) (d : CAcceptableMasterTable) :
    Option AcceptableMasterTable :=
  (c2Tbl (fun r f => some (AcceptableMaster.copy r f)) d.actualTableSize.toInt d.list).map fun list =>
    { a with actualTableSize := d.actualTableSize, list }

def AlternateTimeOffsetName.c1 (a : CAlternateTimeOffsetName) (d : AlternateTimeOffsetName) :
    CAlternateTimeOffsetName :=
  { a with keyField := d.keyField, displayName := d.displayName.c1 a.displayName }

def AlternateTimeOffsetName.c2 (a : AlternateTimeOffsetName) (d : CAlternateTimeOffsetName) :
    Option AlternateTimeOffsetName :=
  (a.displayName.c2 d.displayName).map fun displayName => { a with keyField := d.keyField, displayName }

def PortPropertiesNp.c1 (a : CPortPropertiesNp) (d : PortPropertiesNp) : CPortPropertiesNp :=
  { a with
    portIdentity := PortIdentity.cSt a.portIdentity d.portIdentity
    portState := d.portState
    timestamping := d.timestamping
    interface := d.interface.c1 a.interface }

def PortPropertiesNp.c2 (a : PortPropertiesNp) (d : CPortPropertiesNp) : Option PortPropertiesNp :=
  (a.interface.c2 d.interface).map fun interface =>
    { a with
      portIdentity := PortIdentity.cSt a.portIdentity d.portIdentity
      portState := d.portState
      timestamping := d.timestamping
      interface }

def UnicastMasterTableNp.c1 (m : TableMem) (a : CUnicastMasterTableNp) (d : UnicastMasterTableNp) :
    Option CUnicastMasterTableNp :=
  (c1Tbl LinuxptpUnicastMaster.c1 m.unicastMaster d.actualTableSize.toInt d.unicastMasters a.unicastMasters).map
    fun unicastMasters => { a with actualTableSize := d.actualTableSize, unicastMasters }

def UnicastMasterTableNp.c2 (a : UnicastMasterTableNp) (d : CUnicastMasterTableNp) :
    Option UnicastMasterTableNp :=
  (c2Tbl LinuxptpUnicastMaster.c2 d.actualTableSize.toInt d.unicastMasters).map fun unicastMasters =>
    { a with actualTableSize := d.actualTableSize, unicastMasters }

/-! ## All of them -/

/-- The C structure of an id. -/
@[reducible]
def CTlv : MngId → Type
  | .clockDescription => CClockDescription
  | .userDescription => CUserDescription
  | .faultLog => CFaultLog
  | .pathTraceList => CPathTraceList
  | .grandmasterClusterTable => CGrandmasterClusterTable
  | .unicastMasterTable => CUnicastMasterTable
  | .acceptableMasterTable => CAcceptableMasterTable
  | .alternateTimeOffsetName => CAlternateTimeOffsetName
  | .portPropertiesNp => CPortPropertiesNp
  | .unicastMasterTableNp => CUnicastMasterTableNp
  | id => Tlv id

/-- The function `n##_c1` of an id; nothing when it reports an error. -/
def tlvC1 (m : TableMem) : (id : MngId) → CTlv id → Tlv id → Option (CTlv id)
  | .clockDescription, a, d => some (d.c1 a)
  | .userDescription, a, d => some (d.c1 a)
  | .faultLog, a, d => d.c1 m a
  | .pathTraceList, a, d => some (d.c1 a)
  | .grandmasterClusterTable, a, d => d.c1 m a
  | .unicastMasterTable, a, d => d.c1 m a
  | .acceptableMasterTable, a, d => d.c1 m a
  | .alternateTimeOffsetName, a, d => some (d.c1 a)
  | .portPropertiesNp, a, d => some (d.c1 a)
  | .unicastMasterTableNp, a, d => d.c1 m a
  | .initializeTlv, a, d => some (a.copy d)
  | .defaultDataSet, a, d => some (a.copy d)
  | .currentDataSet, a, d => some (a.copy d)
  | .parentDataSet, a, d => some (a.copy d)
  | .timePropertiesDataSet, a, d => some (a.copy d)
  | .portDataSet, a, d => some (a.copy d)
  | .priority1, a, d => some (a.copy d)
  | .priority2, a, d => some (a.copy d)
  | .domain, a, d => some (a.copy d)
  | .slaveOnly, a, d => some (a.copy d)
  | .logAnnounceInterval, a, d => some (a.copy d)
  | .announceReceiptTimeout, a, d => some (a.copy d)
  | .logSyncInterval, a, d => some (a.copy d)
  | .versionNumber, a, d => some (a.copy d)
  | .time, a, d => some (a.copy d)
  | .clockAccuracy, a, d => some (a.copy d)
  | .utcProperties, a, d => some (a.copy d)
  | .traceabilityProperties, a, d => some (a.copy d)
  | .timescaleProperties, a, d => some (a.copy d)
  | .unicastNegotiationEnable, a, d => some (a.copy d)
  | .pathTraceEnable, a, d => some (a.copy d)
  | .unicastMasterMaxTableSize, a, d => some (a.copy d)
  | .acceptableMasterTableEnabled, a, d => some (a.copy d)
  | .acceptableMasterMaxTableSize, a, d => some (a.copy d)
  | .alternateMaster, a, d => some (a.copy d)
  | .alternateTimeOffsetEnable, a, d => some (a.copy d)
  | .alternateTimeOffsetMaxKey, a, d => some (a.copy d)
  | .alternateTimeOffsetProperties, a, d => some (a.copy d)
  | .transparentClockPortDataSet, a, d => some (a.copy d)
  | .logMinPdelayReqInterval, a, d => some (a.copy d)
  | .transparentClockDefaultDataSet, a, d => some (a.copy d)
  | .primaryDomain, a, d => some (a.copy d)
  | .delayMechanism, a, d => some (a.copy d)
  | .externalPortConfigurationEnabled, a, d => some (a.copy d)
  | .masterOnly, a, d => some (a.copy d)
  | .holdoverUpgradeEnable, a, d => some (a.copy d)
  | .extPortConfigPortDataSet, a, d => some (a.copy d)
  | .timeStatusNp, a, d => some (a.copy d)
  | .grandmasterSettingsNp, a, d => some (a.copy d)
  | .portDataSetNp, a, d => some (a.copy d)
  | .subscribeEventsNp, a, d => some (a.copy d)
  | .portStatsNp, a, d => some (a.copy d)
  | .synchronizationUncertainNp, a, d => some (a.copy d)
  | .portServiceStatsNp, a, d => some (a.copy d)
  | .portHwclockNp, a, d => some (a.copy d)
  | .powerProfileSettingsNp, a, d => some (a.copy d)
  | .cmldsInfoNp, a, d => some (a.copy d)
  | .portCorrectionsNp, a, d => some (a.copy d)
  | .externalGrandmasterPropertiesNp, a, d => some (a.copy d)
  | _, _, _ => none

/-- The function `n##_c2` of an id; nothing when it reads where nothing is. -/
def tlvC2 : (id : MngId) → Tlv id → CTlv id → Option (Tlv id)
  | .clockDescription, a, d => a.c2 d
  | .userDescription, a, d => a.c2 d
  | .faultLog, a, d => a.c2 d
  | .pathTraceList, a, d => a.c2 d
  | .grandmasterClusterTable, a, d => a.c2 d
  | .unicastMasterTable, a, d => a.c2 d
  | .acceptableMasterTable, a, d => a.c2 d
  | .alternateTimeOffsetName, a, d => a.c2 d
  | .portPropertiesNp, a, d => a.c2 d
  | .unicastMasterTableNp, a, d => a.c2 d
  | .initializeTlv, a, d => some (a.copy d)
  | .defaultDataSet, a, d => some (a.copy d)
  | .currentDataSet, a, d => some (a.copy d)
  | .parentDataSet, a, d => some (a.copy d)
  | .timePropertiesDataSet, a, d => some (a.copy d)
  | .portDataSet, a, d => some (a.copy d)
  | .priority1, a, d => some (a.copy d)
  | .priority2, a, d => some (a.copy d)
  | .domain, a, d => some (a.copy d)
  | .slaveOnly, a, d => some (a.copy d)
  | .logAnnounceInterval, a, d => some (a.copy d)
  | .announceReceiptTimeout, a, d => some (a.copy d)
  | .logSyncInterval, a, d => some (a.copy d)
  | .versionNumber, a, d => some (a.copy d)
  | .time, a, d => some (a.copy d)
  | .clockAccuracy, a, d => some (a.copy d)
  | .utcProperties, a, d => some (a.copy d)
  | .traceabilityProperties, a, d => some (a.copy d)
  | .timescaleProperties, a, d => some (a.copy d)
  | .unicastNegotiationEnable, a, d => some (a.copy d)
  | .pathTraceEnable, a, d => some (a.copy d)
  | .unicastMasterMaxTableSize, a, d => some (a.copy d)
  | .acceptableMasterTableEnabled, a, d => some (a.copy d)
  | .acceptableMasterMaxTableSize, a, d => some (a.copy d)
  | .alternateMaster, a, d => some (a.copy d)
  | .alternateTimeOffsetEnable, a, d => some (a.copy d)
  | .alternateTimeOffsetMaxKey, a, d => some (a.copy d)
  | .alternateTimeOffsetProperties, a, d => some (a.copy d)
  | .transparentClockPortDataSet, a, d => some (a.copy d)
  | .logMinPdelayReqInterval, a, d => some (a.copy d)
  | .transparentClockDefaultDataSet, a, d => some (a.copy d)
  | .primaryDomain, a, d => some (a.copy d)
  | .delayMechanism, a, d => some (a.copy d)
  | .externalPortConfigurationEnabled, a, d => some (a.copy d)
  | .masterOnly, a, d => some (a.copy d)
  | .holdoverUpgradeEnable, a, d => some (a.copy d)
  | .extPortConfigPortDataSet, a, d => some (a.copy d)
  | .timeStatusNp, a, d => some (a.copy d)
  | .grandmasterSettingsNp, a, d => some (a.copy d)
  | .portDataSetNp, a, d => some (a.copy d)
  | .subscribeEventsNp, a, d => some (a.copy d)
  | .portStatsNp, a, d => some (a.copy d)
  | .synchronizationUncertainNp, a, d => some (a.copy d)
  | .portServiceStatsNp, a, d => some (a.copy d)
  | .portHwclockNp, a, d => some (a.copy d)
  | .powerProfileSettingsNp, a, d => some (a.copy d)
  | .cmldsInfoNp, a, d => some (a.copy d)
  | .portCorrectionsNp, a, d => some (a.copy d)
  | .externalGrandmasterPropertiesNp, a, d => some (a.copy d)
  | _, _, _ => none

/-- `cpp2cMngTlv`, with the new memory it gets. Nothing is the null pointer. -/
def cpp2cMngTlv (m : TableMem) (id : MngId) (a : CTlv id) (tlv : Option BaseMngTlv) : Option (CTlv id) :=
  match tlv with
  | none => none
  | some tlv =>
    if (mngAllVals id).func = .na then none
    else
      match tlv.cast? id with
      | none => none
      | some d => tlvC1 m id a d

/-- `c2cppMngTlv`, with the memory of the new object. -/
def c2cppMngTlv (id : MngId) (mem : Tlv id) (tlv : Option (CTlv id)) : Option BaseMngTlv :=
  match tlv with
  | none => none
  | some d =>
    if (mngAllVals id).func = .na then none else (tlvC2 id (newTlv id mem) d).map (BaseMngTlv.tlv id)

end PtpMgmt
