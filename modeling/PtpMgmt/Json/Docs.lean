import PtpMgmt.Json.Layout

set_option autoImplicit false

/-! # The documents of messages

The document that `JsonProcToJson` prints for each type, each TLV and a message. -/

namespace PtpMgmt.Json

/-! ## Types -/

def uintDoc (val : Nat) : Doc := .num (decimal val) 0

def intDoc (val : Int) : Doc := .num (decimalInt val) 0

/-- Where the dot of a float stands. -/
def doubleDot (val : Float64) : Nat :=
  if finite val then (sign (decide (val.toNat ≥ 2 ^ 63)) ++ decimal (doubleMicro val / 10 ^ 6)).length else 0

def doubleDoc (val : Float64) : Doc := .num (decimalDouble val) (doubleDot val)

def timestampDoc (val : Timestamp) : Doc := .num val.str (decimal val.secondsField.toNat).length

def clockAccuracyDoc (val : ClockAccuracyE) : Doc :=
  .str (if val < accurateWithin1ps then txt "0x" ++ (Nat.toDigits 16 val.toNat).map chr else clockAcc2str val)

def flagDoc (flags mask : UInt8) : Doc := .bool (flags &&& mask > 0)

def portIdentityDoc (val : PortIdentity) : Doc :=
  .obj [("clockIdentity", .str val.clockIdentity.str), ("portNumber", uintDoc val.portNumber.toNat)]

def clockQualityDoc (val : ClockQuality) : Doc :=
  .obj [("clockClass", uintDoc val.clockClass.toNat), ("clockAccuracy", clockAccuracyDoc val.clockAccuracy),
    ("offsetScaledLogVariance", uintDoc val.offsetScaledLogVariance.toNat)]

def portAddressDoc (val : PortAddress) : Doc :=
  .obj [("networkProtocol", .str (netProt2str val.networkProtocol)),
    ("addressField", .str (Binary.toId val.addressField))]

def faultRecordDoc (val : FaultRecord) : Doc :=
  .obj [("faultRecordLength", uintDoc val.faultRecordLength.toNat), ("faultTime", timestampDoc val.faultTime),
    ("severityCode", .str (faultRec2str val.severityCode)), ("faultName", .str val.faultName.textField),
    ("faultValue", .str val.faultValue.textField), ("faultDescription", .str val.faultDescription.textField)]

def acceptableMasterDoc (val : AcceptableMaster) : Doc :=
  .obj [("acceptablePortIdentity", portIdentityDoc val.acceptablePortIdentity),
    ("alternatePriority1", uintDoc val.alternatePriority1.toNat)]

def linuxptpUnicastMasterDoc (val : LinuxptpUnicastMaster) : Doc :=
  .obj [("portIdentity", portIdentityDoc val.portIdentity), ("clockQuality", clockQualityDoc val.clockQuality),
    ("selected", .bool (val.selected != 0)), ("portState", .str (us2str val.portState)),
    ("priority1", uintDoc val.priority1.toNat), ("priority2", uintDoc val.priority2.toNat),
    ("portAddress", portAddressDoc val.portAddress)]

def ProcType.doc : (type : ProcType) → type.Val → Doc
  | .uint8, val => uintDoc val.toNat
  | .uint16, val => uintDoc val.toNat
  | .uint32, val => uintDoc val.toNat
  | .uint64, val => uintDoc val.toNat
  | .int8, val => intDoc val.toInt
  | .int16, val => intDoc val.toInt
  | .int32, val => intDoc val.toInt
  | .int64, val => intDoc val.toInt
  | .networkProtocol, val => .str (netProt2str val)
  | .clockAccuracy, val => clockAccuracyDoc val
  | .faultRecord, val => .str (faultRec2str val)
  | .timeSource, val => .str (timeSrc2str val)
  | .portState, val => .str (portState2str val)
  | .delayMechanism, val => .str (delayMech2str val)
  | .linuxptpTimeStamp, val => .str (ts2str val)
  | .linuxptpPowerProfileVersion, val => .str (pwr2str val)
  | .linuxptpUnicastState, val => .str (us2str val)
  | .timeInterval, val => intDoc val.scaledNanoseconds.toInt
  | .timestamp, val => timestampDoc val
  | .clockIdentity, val => .str val.str
  | .portIdentity, val => portIdentityDoc val
  | .portAddress, val => portAddressDoc val
  | .clockQuality, val => clockQualityDoc val
  | .ptpText, val => .str val.textField
  | .binary, val => .str (Binary.toId val.1)
  | .octets _, val => .str (Binary.toId val.toList)
  | .flag mask, val => flagDoc val mask
  | .clockIdentities, val => .arr (val.map fun rec => .str rec.str)
  | .portAddresses, val => .arr (val.map portAddressDoc)
  | .faultRecords, val => .arr (val.map faultRecordDoc)
  | .acceptableMasters, val => .arr (val.map acceptableMasterDoc)
  | .linuxptpUnicastMasters, val => .arr (val.map linuxptpUnicastMasterDoc)

/-- The member that a step prints. -/
def Step.member {T : Type} (d : T) : Step T → Option (String × Doc)
  | .zeroFlag _ => none
  | .proc name type get _ => some (name, type.doc (get d))

namespace JsonProcToJson

theorem procUint_eq (p : JsonProcToJson) (name : String) (val : Nat) :
    p.procUint name val = p.members [(name, uintDoc val)] := procRaw_eq ..

theorem procInt_eq (p : JsonProcToJson) (name : String) (val : Int) :
    p.procInt name val = p.members [(name, intDoc val)] := procRaw_eq ..

theorem procDouble_eq (p : JsonProcToJson) (name : String) (val : Float64) :
    p.procDouble name val = p.members [(name, doubleDoc val)] := procRaw_eq ..

theorem procTimestamp_eq (p : JsonProcToJson) (name : String) (val : Timestamp) :
    p.procTimestamp name val = p.members [(name, timestampDoc val)] := procRaw_eq ..

theorem procTimeInterval_eq (p : JsonProcToJson) (name : String) (val : TimeInterval) :
    p.procTimeInterval name val = p.members [(name, intDoc val.scaledNanoseconds.toInt)] := procInt_eq ..

theorem procFlag_eq (p : JsonProcToJson) (name : String) (flags mask : UInt8) :
    p.procFlag name flags mask = p.members [(name, flagDoc flags mask)] := procBool_eq ..

theorem procClockAccuracy_eq (p : JsonProcToJson) (name : String) (val : ClockAccuracyE) :
    p.procClockAccuracy name val = p.members [(name, clockAccuracyDoc val)] := procString_eq ..

theorem procPTPText_eq (p : JsonProcToJson) (name : String) (val : PTPText) :
    p.procPTPText name val = p.members [(name, .str val.textField)] := procString_eq ..

theorem procBinary_eq (p : JsonProcToJson) (name : String) (val : Binary) :
    p.procBinary name val = p.members [(name, .str (Binary.toId val))] := procString_eq ..

theorem procPortIdentity_eq (p : JsonProcToJson) (name : String) (val : PortIdentity) :
    p.procPortIdentity name val = p.members [(name, portIdentityDoc val)] := by
  rw [procPortIdentity, procString_eq, procUint_eq, members_members, procObject_members]
  rfl

theorem procClockQuality_eq (p : JsonProcToJson) (name : String) (val : ClockQuality) :
    p.procClockQuality name val = p.members [(name, clockQualityDoc val)] := by
  rw [procClockQuality, procUint_eq, procClockAccuracy_eq, procUint_eq, members_members, members_members,
    procObject_members]
  rfl

theorem clockIdentityElement_eq (p : JsonProcToJson) (val : ClockIdentity) :
    p.clockIdentityElement val = p.element (.str val.str) := by
  simp [clockIdentityElement, element, indent, put, column, Doc.text, quote]

theorem portAddressRecord_eq (p : JsonProcToJson) (val : PortAddress) :
    p.portAddressRecord val = p.element (portAddressDoc val) := by
  rw [portAddressRecord, procString_eq, procBinary_eq, members_members, startObject_members]
  rfl

/-- A record under a name. -/
theorem procPortAddress_eq (p : JsonProcToJson) (name : String) (val : PortAddress) :
    p.procPortAddress name val = p.members [(name, portAddressDoc val)] := by
  rw [portAddressDoc, ← procObject_members, procPortAddress, portAddressRecord, procString_eq, procBinary_eq,
    members_members]
  rfl

theorem faultRecordRecord_eq (p : JsonProcToJson) (val : FaultRecord) :
    p.faultRecordRecord val = p.element (faultRecordDoc val) := by
  rw [faultRecordRecord, procUint_eq, procTimestamp_eq, procString_eq, procPTPText_eq, procPTPText_eq,
    procPTPText_eq]
  simp only [members_members, startObject_members]
  rfl

theorem acceptableMasterRecord_eq (p : JsonProcToJson) (val : AcceptableMaster) :
    p.acceptableMasterRecord val = p.element (acceptableMasterDoc val) := by
  rw [acceptableMasterRecord, procPortIdentity_eq, procUint_eq, members_members, startObject_members]
  rfl

theorem linuxptpUnicastMasterRecord_eq (p : JsonProcToJson) (val : LinuxptpUnicastMaster) :
    p.linuxptpUnicastMasterRecord val = p.element (linuxptpUnicastMasterDoc val) := by
  rw [linuxptpUnicastMasterRecord, procPortIdentity_eq, procClockQuality_eq, procBool_eq, procString_eq,
    procUint_eq, procUint_eq, procPortAddress_eq]
  simp only [members_members, startObject_members]
  rfl

/-- Every overload adds one member. -/
theorem procField_eq (p : JsonProcToJson) (name : String) (type : ProcType) (val : type.Val) :
    p.procField name type val = p.members [(name, type.doc val)] := by
  cases type with
  | uint8 => exact procUint_eq ..
  | uint16 => exact procUint_eq ..
  | uint32 => exact procUint_eq ..
  | uint64 => exact procUint_eq ..
  | int8 => exact procInt_eq ..
  | int16 => exact procInt_eq ..
  | int32 => exact procInt_eq ..
  | int64 => exact procInt_eq ..
  | clockAccuracy => exact procClockAccuracy_eq ..
  | timeInterval => exact procTimeInterval_eq ..
  | timestamp => exact procTimestamp_eq ..
  | portIdentity => exact procPortIdentity_eq ..
  | portAddress => exact procPortAddress_eq ..
  | clockQuality => exact procClockQuality_eq ..
  | flag mask => exact procFlag_eq ..
  | clockIdentities => exact procVector_eq clockIdentityElement_eq ..
  | portAddresses => exact procVector_eq portAddressRecord_eq ..
  | faultRecords => exact procVector_eq faultRecordRecord_eq ..
  | acceptableMasters => exact procVector_eq acceptableMasterRecord_eq ..
  | linuxptpUnicastMasters => exact procVector_eq linuxptpUnicastMasterRecord_eq ..
  | _ => exact procString_eq ..

theorem foldl_procStep {T : Type} (d : T) (steps : List (Step T)) (p : JsonProcToJson) :
    steps.foldl (procStep d) p = p.members (steps.filterMap (Step.member d)) := by
  induction steps generalizing p with
  | nil => rw [List.filterMap_nil, members_nil, List.foldl_nil]
  | cons step steps ih =>
      rw [List.foldl_cons, ih]
      cases step with
      | zeroFlag set => rfl
      | proc name type get set =>
          rw [procStep, procField_eq, members_members]
          rfl

end JsonProcToJson

/-! ## Management TLVs -/

/-- The members of the dataField. There are none for a TLV that is not of the id. -/
def dataMembers (managementId : MngVals) (tlv : BaseMngTlv) : List (String × Doc) :=
  match managementId with
  | .mng id =>
    match tlv.cast? id with
    | some d => (procSteps id).filterMap (Step.member d)
    | none => []
  | _ => []

def dataFieldMembers (managementId : MngVals) : Option BaseMngTlv → List (String × Doc)
  | none => []
  | some tlv => [("dataField", .obj (dataMembers managementId tlv))]

def mngValsDoc (val : MngVals) : Doc :=
  .str (if val = .smpteMngId then txt "SMPTE_MNG_ID" else mng2str val)

/-! ## Signalling TLVs -/

def bitDoc (flags bit : UInt8) : Doc := flagDoc flags ((1 : UInt8) <<< bit)

def intervalDoc (val : TimeInterval) : Doc := intDoc val.scaledNanoseconds.toInt

def enhancedAccuracyMetricsMembers (d : EnhancedAccuracyMetrics) : List (String × Doc) :=
  [("bcHopCount", uintDoc d.bcHopCount.toNat), ("tcHopCount", uintDoc d.tcHopCount.toNat),
   ("maxGmInaccuracy", intervalDoc d.maxGmInaccuracy), ("varGmInaccuracy", doubleDoc d.varGmInaccuracy),
   ("maxTransientInaccuracy", intervalDoc d.maxTransientInaccuracy),
   ("varTransientInaccuracy", doubleDoc d.varTransientInaccuracy),
   ("maxDynamicInaccuracy", intervalDoc d.maxDynamicInaccuracy),
   ("varDynamicInaccuracy", doubleDoc d.varDynamicInaccuracy),
   ("maxStaticInstanceInaccuracy", intervalDoc d.maxStaticInstanceInaccuracy),
   ("varStaticInstanceInaccuracy", doubleDoc d.varStaticInstanceInaccuracy),
   ("maxStaticMediumInaccuracy", intervalDoc d.maxStaticMediumInaccuracy),
   ("varStaticMediumInaccuracy", doubleDoc d.varStaticMediumInaccuracy)]

def l1SyncMembers (d : L1Sync) : List (String × Doc) :=
  [("txCoherentIsRequired", bitDoc d.flags1 0), ("rxCoherentIsRequired", bitDoc d.flags1 1),
   ("congruentIsRequired", bitDoc d.flags1 2), ("optParamsEnabled", bitDoc d.flags1 3),
   ("isTxCoherent", bitDoc d.flags2 0), ("isRxCoherent", bitDoc d.flags2 1),
   ("isCongruent", bitDoc d.flags2 2)] ++
  if d.flags1 &&& L1Sync.optParamsEnabled > 0 then
    [("timestampsCorrectedTx", bitDoc d.flags3 0), ("phaseOffsetTxValid", bitDoc d.flags3 1),
     ("frequencyOffsetTxValid", bitDoc d.flags3 2), ("phaseOffsetTx", intervalDoc d.phaseOffsetTx),
     ("phaseOffsetTxTimestamp", timestampDoc d.phaseOffsetTxTimestamp),
     ("freqOffsetTx", intervalDoc d.freqOffsetTx),
     ("freqOffsetTxTimestamp", timestampDoc d.freqOffsetTxTimestamp)]
  else []

def availabilityDoc (flags : UInt8) : Doc :=
  .obj [("multicastCapable", bitDoc flags 0), ("unicastCapable", bitDoc flags 1),
    ("unicastNegotiationCapableEnable", bitDoc flags 2), ("unicastNegotiationCapable", bitDoc flags 3)]

def slaveRxSyncTimingDataDoc (val : SlaveRxSyncTimingDataRec) : Doc :=
  .obj [("sequenceId", uintDoc val.sequenceId.toNat),
    ("syncOriginTimestamp", timestampDoc val.syncOriginTimestamp),
    ("totalCorrectionField", intervalDoc val.totalCorrectionField),
    ("scaledCumulativeRateOffset", intDoc val.scaledCumulativeRateOffset.toInt),
    ("syncEventIngressTimestamp", timestampDoc val.syncEventIngressTimestamp)]

def slaveRxSyncComputedDataDoc (val : SlaveRxSyncComputedDataRec) : Doc :=
  .obj [("sequenceId", uintDoc val.sequenceId.toNat), ("offsetFromMaster", intervalDoc val.offsetFromMaster),
    ("meanPathDelay", intervalDoc val.meanPathDelay),
    ("scaledNeighborRateRatio", intDoc val.scaledNeighborRateRatio.toInt)]

def slaveTxEventTimestampsDoc (val : SlaveTxEventTimestampsRec) : Doc :=
  .obj [("sequenceId", uintDoc val.sequenceId.toNat),
    ("eventEgressTimestamp", timestampDoc val.eventEgressTimestamp)]

def slaveDelayTimingDataNpDoc (val : SlaveDelayTimingDataNpRec) : Doc :=
  .obj [("sequenceId", uintDoc val.sequenceId.toNat),
    ("delayOriginTimestamp", timestampDoc val.delayOriginTimestamp),
    ("totalCorrectionField", intervalDoc val.totalCorrectionField),
    ("delayResponseTimestamp", timestampDoc val.delayResponseTimestamp)]

def organizationExtensionMembers (d : OrganizationExtension) : List (String × Doc) :=
  [("organizationId", .str (Binary.toId d.organizationId.toList)),
   ("organizationSubType", .str (Binary.toId d.organizationSubType.toList)),
   ("dataField", .str (Binary.toId d.dataField))]

def smpteMembers (d : SmpteOrganizationExtension) : List (String × Doc) :=
  [("organizationId", .str (Binary.toId d.organizationId.toList)),
   ("organizationSubType", .str (Binary.toId d.organizationSubType.toList)),
   ("defaultSystemFrameRate_numerator", uintDoc d.defaultSystemFrameRateNumerator.toNat),
   ("defaultSystemFrameRate_denominator", uintDoc d.defaultSystemFrameRateDenominator.toNat),
   ("masterLockingStatus", .str (smpteLck2str d.masterLockingStatus)),
   ("timeAddressFlags", uintDoc d.timeAddressFlags.toNat),
   ("currentLocalOffset", intDoc d.currentLocalOffset.toInt), ("jumpSeconds", intDoc d.jumpSeconds.toInt),
   ("timeOfNextJump", uintDoc d.timeOfNextJump.toNat), ("timeOfNextJam", uintDoc d.timeOfNextJam.toNat),
   ("timeOfPreviousJam", uintDoc d.timeOfPreviousJam.toNat),
   ("previousJamLocalOffset", intDoc d.previousJamLocalOffset.toInt),
   ("daylightSaving", uintDoc d.daylightSaving.toNat), ("leapSecondJump", uintDoc d.leapSecondJump.toNat)]

/-- The members of a TLV by its class, after its type. -/
def sigMembers (mem : Option BaseMngTlv) : BaseSigTlv → List (String × Doc)
  | .management d =>
    ("managementId", mngValsDoc (.mng d.managementId)) ::
      dataFieldMembers (.mng d.managementId) (d.tlvData.deref mem)
  | .managementErrorStatus d =>
    [("managementId", mngValsDoc (.mng d.managementId)),
     ("managementErrorId", .str (errId2str d.managementErrorId)), ("displayData", .str d.displayData.textField)]
  | .organizationExtension d => organizationExtensionMembers d
  | .pathTrace d => [("pathSequence", .arr (d.pathSequence.map fun rec => .str rec.str))]
  | .alternateTimeOffsetIndicator d =>
    [("keyField", uintDoc d.keyField.toNat), ("currentOffset", intDoc d.currentOffset.toInt),
     ("jumpSeconds", intDoc d.jumpSeconds.toInt), ("timeOfNextJump", uintDoc d.timeOfNextJump.toNat),
     ("displayName", .str d.displayName.textField)]
  | .enhancedAccuracyMetrics d => enhancedAccuracyMetricsMembers d
  | .l1Sync d => l1SyncMembers d
  | .portCommunicationAvailability d =>
    [("syncMessageAvailability", availabilityDoc d.syncMessageAvailability),
     ("delayRespMessageAvailability", availabilityDoc d.delayRespMessageAvailability)]
  | .protocolAddress d => [("portProtocolAddress", portAddressDoc d.portProtocolAddress)]
  | .slaveRxSyncTimingData d =>
    [("syncSourcePortIdentity", portIdentityDoc d.syncSourcePortIdentity),
     ("list", .arr (d.list.map slaveRxSyncTimingDataDoc))]
  | .slaveRxSyncComputedData d =>
    [("sourcePortIdentity", portIdentityDoc d.sourcePortIdentity),
     ("scaledNeighborRateRatioValid", bitDoc d.computedFlags 0),
     ("meanPathDelayValid", bitDoc d.computedFlags 1), ("offsetFromMasterValid", bitDoc d.computedFlags 2),
     ("list", .arr (d.list.map slaveRxSyncComputedDataDoc))]
  | .slaveTxEventTimestamps d =>
    [("sourcePortIdentity", portIdentityDoc d.sourcePortIdentity),
     ("eventMessageType", .str (type2str d.eventMessageType)),
     ("list", .arr (d.list.map slaveTxEventTimestampsDoc))]
  | .cumulativeRateRatio d => [("scaledCumulativeRateRatio", intDoc d.scaledCumulativeRateRatio.toInt)]
  | .slaveDelayTimingDataNp d =>
    [("sourcePortIdentity", portIdentityDoc d.sourcePortIdentity),
     ("list", .arr (d.list.map slaveDelayTimingDataNpDoc))]

def sigDoc (mem : Option BaseMngTlv) (tlv : TlvType × BaseSigTlv) : Doc :=
  .obj (("tlvType", .str (tlv2str tlv.1)) :: if tlv.2.types.contains tlv.1 then sigMembers mem tlv.2 else [])

/-! ## Messages -/

def headerMembers (hdr : MsgHeader) : List (String × Doc) :=
  [("sequenceId", uintDoc hdr.sequence.toNat), ("sdoId", uintDoc hdr.sdoId.toNat),
   ("domainNumber", uintDoc hdr.domainNumber.toNat), ("versionPTP", uintDoc hdr.versionPTP.toNat),
   ("minorVersionPTP", uintDoc hdr.minorVersionPTP.toNat), ("unicastFlag", .bool hdr.isUnicast),
   ("PTPProfileSpecific", uintDoc hdr.ptpProfileSpecific.toNat), ("messageType", .str (type2str hdr.type)),
   ("sourcePortIdentity", portIdentityDoc hdr.peer), ("targetPortIdentity", portIdentityDoc hdr.target)]

def smpteDataMembers : Option BaseMngTlv → List (String × Doc)
  | some (.smpte d) => smpteMembers d
  | _ => []

def managementMembers (mem : Option BaseMngTlv) (m : Message) : List (String × Doc) :=
  [("actionField", .str (act2str m.replyAction)), ("tlvType", .str (tlv2str m.mngType)),
   ("managementId", mngValsDoc m.replayTlvId)] ++
  match m.mngType with
  | .management => dataFieldMembers m.replayTlvId (m.dataGet.deref mem)
  | .managementErrorStatus =>
    [("managementErrorId", .str (errId2str m.errorId)), ("displayData", .str m.errorDisplay.textField)]
  | .organizationExtension =>
    if m.replayTlvId = .smpteMngId then smpteDataMembers (m.dataGet.deref mem) else []
  | _ => []

def messageMembers (mem : Option BaseMngTlv) (m : Message) : List (String × Doc) :=
  headerMembers m.hdr ++
  if m.hdr.type = MsgType.management then managementMembers mem m
  else if m.hdr.type = MsgType.signaling then
    [("TLVs", .arr ((if m.lastSig then m.sigTlvs else []).map (sigDoc mem)))]
  else []

namespace JsonProcToJson

theorem procData_eq (p : JsonProcToJson) (managementId : MngVals) (tlv : BaseMngTlv) :
    p.procData managementId tlv = p.members (dataMembers managementId tlv) := by
  cases managementId with
  | mng id =>
      simp only [procData, dataMembers]
      cases tlv.cast? id with
      | none => exact (members_nil p).symm
      | some d => exact foldl_procStep d (procSteps id) p
  | lastMngId => exact (members_nil p).symm
  | smpteMngId => exact (members_nil p).symm

theorem data2json_eq (p : JsonProcToJson) (managementId : MngVals) (tlv : Option BaseMngTlv) :
    p.data2json managementId tlv true = p.members (dataFieldMembers managementId tlv) := by
  cases tlv with
  | none => exact (members_nil p).symm
  | some tlv =>
      rw [data2json, if_pos rfl, procData_eq, procObject_members]
      rfl

theorem procMngVals_eq (p : JsonProcToJson) (name : String) (val : MngVals) :
    p.procMngVals name val = p.members [(name, mngValsDoc val)] := procString_eq ..

theorem procBit_eq (p : JsonProcToJson) (name : String) (flags bit : UInt8) :
    p.procBit name flags bit = p.members [(name, bitDoc flags bit)] := procFlag_eq ..

theorem procAvailability_eq (p : JsonProcToJson) (name : String) (flags : UInt8) :
    p.procAvailability name flags = p.members [(name, availabilityDoc flags)] := by
  rw [procAvailability]
  simp only [procBit_eq, members_members, procObject_members]
  rfl

theorem slaveRxSyncTimingDataRecord_eq (p : JsonProcToJson) (val : SlaveRxSyncTimingDataRec) :
    p.slaveRxSyncTimingDataRecord val = p.element (slaveRxSyncTimingDataDoc val) := by
  rw [slaveRxSyncTimingDataRecord]
  simp only [procUint_eq, procTimestamp_eq, procTimeInterval_eq, procInt_eq, members_members,
    startObject_members]
  rfl

theorem slaveRxSyncComputedDataRecord_eq (p : JsonProcToJson) (val : SlaveRxSyncComputedDataRec) :
    p.slaveRxSyncComputedDataRecord val = p.element (slaveRxSyncComputedDataDoc val) := by
  rw [slaveRxSyncComputedDataRecord]
  simp only [procUint_eq, procTimeInterval_eq, procInt_eq, members_members, startObject_members]
  rfl

theorem slaveTxEventTimestampsRecord_eq (p : JsonProcToJson) (val : SlaveTxEventTimestampsRec) :
    p.slaveTxEventTimestampsRecord val = p.element (slaveTxEventTimestampsDoc val) := by
  rw [slaveTxEventTimestampsRecord, procUint_eq, procTimestamp_eq, members_members, startObject_members]
  rfl

theorem slaveDelayTimingDataNpRecord_eq (p : JsonProcToJson) (val : SlaveDelayTimingDataNpRec) :
    p.slaveDelayTimingDataNpRecord val = p.element (slaveDelayTimingDataNpDoc val) := by
  rw [slaveDelayTimingDataNpRecord]
  simp only [procUint_eq, procTimestamp_eq, procTimeInterval_eq, members_members, startObject_members]
  rfl

theorem parseEnhancedAccuracyMetrics_eq (p : JsonProcToJson) (d : EnhancedAccuracyMetrics) :
    p.parseEnhancedAccuracyMetrics d = p.members (enhancedAccuracyMetricsMembers d) := by
  simp only [parseEnhancedAccuracyMetrics, procUint_eq, procTimeInterval_eq, procDouble_eq, members_members]
  rfl

theorem parseL1Sync_eq (p : JsonProcToJson) (d : L1Sync) : p.parseL1Sync d = p.members (l1SyncMembers d) := by
  unfold parseL1Sync l1SyncMembers
  simp only [procBit_eq, procTimeInterval_eq, procTimestamp_eq, members_members]
  split
  · rfl
  · rw [List.append_nil]
    rfl

theorem parseSmpteOrganizationExtension_eq (p : JsonProcToJson) (d : SmpteOrganizationExtension) :
    p.parseSmpteOrganizationExtension d = p.members (smpteMembers d) := by
  simp only [parseSmpteOrganizationExtension, procBinary_eq, procUint_eq, procInt_eq, procString_eq,
    members_members]
  rfl

/-- Every signalling TLV adds its members. -/
theorem parseClass_eq (mem : Option BaseMngTlv) (p : JsonProcToJson) (tlv : BaseSigTlv) :
    p.parseClass mem tlv = p.members (sigMembers mem tlv) := by
  cases tlv with
  | management d =>
      simp only [parseClass, parseManagement, procMngVals_eq, data2json_eq, members_members]
      rfl
  | managementErrorStatus d =>
      simp only [parseClass, parseManagementErrorStatus, procMngVals_eq, procString_eq, procPTPText_eq,
        members_members]
      rfl
  | organizationExtension d =>
      simp only [parseClass, parseOrganizationExtension, procBinary_eq, members_members]
      rfl
  | pathTrace d => exact procVector_eq clockIdentityElement_eq ..
  | alternateTimeOffsetIndicator d =>
      simp only [parseClass, parseAlternateTimeOffsetIndicator, procUint_eq, procInt_eq, procPTPText_eq,
        members_members]
      rfl
  | enhancedAccuracyMetrics d => exact parseEnhancedAccuracyMetrics_eq p d
  | l1Sync d => exact parseL1Sync_eq p d
  | portCommunicationAvailability d =>
      simp only [parseClass, parsePortCommunicationAvailability, procAvailability_eq, members_members]
      rfl
  | protocolAddress d => exact procPortAddress_eq ..
  | slaveRxSyncTimingData d =>
      simp only [parseClass, parseSlaveRxSyncTimingData, procPortIdentity_eq,
        procVector_eq slaveRxSyncTimingDataRecord_eq, members_members]
      rfl
  | slaveRxSyncComputedData d =>
      simp only [parseClass, parseSlaveRxSyncComputedData, procPortIdentity_eq, procBit_eq,
        procVector_eq slaveRxSyncComputedDataRecord_eq, members_members]
      rfl
  | slaveTxEventTimestamps d =>
      simp only [parseClass, parseSlaveTxEventTimestamps, procPortIdentity_eq, procString_eq,
        procVector_eq slaveTxEventTimestampsRecord_eq, members_members]
      rfl
  | cumulativeRateRatio d => exact procInt_eq ..
  | slaveDelayTimingDataNp d =>
      simp only [parseClass, parseSlaveDelayTimingDataNp, procPortIdentity_eq,
        procVector_eq slaveDelayTimingDataNpRecord_eq, members_members]
      rfl

theorem sig2json_eq (mem : Option BaseMngTlv) (p : JsonProcToJson) (tlv : TlvType × BaseSigTlv) :
    p.sig2json mem tlv = p.close.element (sigDoc mem tlv) := by
  rw [sig2json, procString_eq, parseTlv, sigDoc, ← startObject_members]
  split
  · rw [parseClass_eq, members_members]
    rfl
  · rfl

theorem header_eq (p : JsonProcToJson) (hdr : MsgHeader) : p.header hdr = p.members (headerMembers hdr) := by
  simp only [header, procUint_eq, procBool_eq, procString_eq, procPortIdentity_eq, members_members]
  rfl

theorem smpte2json_eq (p : JsonProcToJson) (tlv : Option BaseMngTlv) :
    p.smpte2json tlv = p.members (smpteDataMembers tlv) := by
  rcases tlv with _ | tlv | d
  · exact (members_nil p).symm
  · exact (members_nil p).symm
  · exact parseSmpteOrganizationExtension_eq p d

theorem management_eq (mem : Option BaseMngTlv) (p : JsonProcToJson) (m : Message) :
    p.management mem m = p.members (managementMembers mem m) := by
  unfold management managementMembers
  simp only [procString_eq, procMngVals_eq, data2json_eq, smpte2json_eq, members_members, List.append_assoc]
  cases m.mngType with
  | managementErrorStatus => rfl
  | management => rfl
  | organizationExtension =>
      simp only
      split
      · rfl
      · rfl
  | _ => rfl

theorem signaling_eq (mem : Option BaseMngTlv) (p : JsonProcToJson) (m : Message) :
    p.signaling mem m =
      p.members [("TLVs", .arr ((if m.lastSig then m.sigTlvs else []).map (sigDoc mem)))] := by
  have hsig : sig2json mem = fun p tlv => p.close.element (sigDoc mem tlv) := by
    funext p tlv
    exact sig2json_eq mem p tlv
  rw [signaling, hsig]
  exact procVector_eq (fun _ _ => rfl) ..

theorem ofMessage_eq (mem : Option BaseMngTlv) (m : Message) (indent : Nat) :
    ofMessage mem m indent = (init indent).element (.obj (messageMembers mem m)) := by
  rw [ofMessage, messageMembers, ← startObject_members]
  simp only [header_eq, management_eq, signaling_eq, members_members]
  split
  · rfl
  · split
    · rfl
    · rw [List.append_nil]

theorem element_init (indent : Nat) (d : Doc) :
    ((init indent).element d).result = spaces indent ++ d.text indent := by
  simp [init, element, put, column]

end JsonProcToJson

/-- **A message is printed as one object.** -/
theorem msg2json_eq (mem : Option BaseMngTlv) (m : Message) (indent : Nat) :
    msg2json mem m indent = spaces indent ++ (Doc.obj (messageMembers mem m)).text indent := by
  rw [msg2json, JsonProcToJson.ofMessage_eq, JsonProcToJson.element_init]

/-- **A TLV is printed as one object.** -/
theorem tlv2json_eq {managementId : MngVals} (h : isEmpty managementId = false) (tlv : BaseMngTlv)
    (indent : Nat) :
    tlv2json managementId (some tlv) indent =
      spaces indent ++ (Doc.obj (dataMembers managementId tlv)).text indent := by
  rw [tlv2json, if_neg (by simp [h]), JsonProcToJson.data2json, if_neg (by decide),
    JsonProcToJson.procData_eq, JsonProcToJson.startObject_members, JsonProcToJson.element_init]

end PtpMgmt.Json
