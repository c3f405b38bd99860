import PtpMgmt.Json.Fields
import PtpMgmt.Json.Numbers
import PtpMgmt.Message.Basic
import PtpMgmt.Message.Names

set_option autoImplicit false

/-! # Messages to JSON (`json.cpp`)

`JsonProcToJson` prints into a string as it goes along the fields of a message: the commas, the ends of the
lines and the indentation come from what it keeps about the brackets that are open. -/

namespace PtpMgmt

open Json

/-! ## Types as text -/

/-- `Timestamp_t::string`. -/
def Timestamp.str (d : Timestamp) : Text :=
  decimal d.secondsField.toNat ++ chr '.' :: decimalPad 9 d.nanosecondsField.toNat

/-- `ClockIdentity_t::string`. -/
def ClockIdentity.str (d : ClockIdentity) : Text :=
  (d.v.toList.take 3).flatMap hexOctet ++ chr '.' :: ((d.v.toList.drop 3).take 2).flatMap hexOctet ++
    chr '.' :: (d.v.toList.drop 5).flatMap hexOctet

/-- `Binary::toId` and `Binary::bufToId`. -/
def Binary.toId : Binary → Text
  | [] => []
  | b :: bs => hexOctet b ++ bs.flatMap fun b => chr ':' :: hexOctet b

/-- The object a pointer leads to. `mem` is what a pointer that was never set happens to lead to. -/
def TlvPtr.deref (mem : Option BaseMngTlv) : TlvPtr → Option BaseMngTlv
  | .null => none
  | .wild => mem
  | .obj tlv => some tlv

/-- The types whose case in `sig2json` takes a TLV of this class. -/
def BaseSigTlv.types : BaseSigTlv → List TlvType
  | .management _ => [.management]
  | .managementErrorStatus _ => [.managementErrorStatus]
  | .organizationExtension _ =>
    [.organizationExtensionPropagate, .organizationExtensionDoNotPropagate, .organizationExtension]
  | .pathTrace _ => [.pathTrace]
  | .alternateTimeOffsetIndicator _ => [.alternateTimeOffsetIndicator]
  | .enhancedAccuracyMetrics _ => [.enhancedAccuracyMetrics]
  | .l1Sync _ => [.l1Sync]
  | .portCommunicationAvailability _ => [.portCommunicationAvailability]
  | .protocolAddress _ => [.protocolAddress]
  | .slaveRxSyncTimingData _ => [.slaveRxSyncTimingData]
  | .slaveRxSyncComputedData _ => [.slaveRxSyncComputedData]
  | .slaveTxEventTimestamps _ => [.slaveTxEventTimestamps]
  | .cumulativeRateRatio _ => [.cumulativeRateRatio]
  | .slaveDelayTimingDataNp _ => [.slaveDelayTimingDataNp]

namespace Json

/-! ## Brackets, names and commas -/

/-- `JsonProcToJson`. `firstVals` is the stack, from its top on. A negative indentation makes
    `std::string` throw, so there is none. -/
structure JsonProcToJson where
  result : Text
  firstVals : List Bool
  baseIndent : Nat
  first : Bool

namespace JsonProcToJson

/-- `m_result +=`. -/
def put (p : JsonProcToJson) (t : Text) : JsonProcToJson := { p with result := p.result ++ t }

def close (p : JsonProcToJson) : JsonProcToJson :=
  { p.put (if p.first then [chr '\n'] else [chr ',', chr '\n']) with first := false }

def indent (p : JsonProcToJson) : JsonProcToJson :=
  p.put (spaces (p.firstVals.length * 2 + p.baseIndent))

def startName (p : JsonProcToJson) (name : String) (last : Text) : JsonProcToJson :=
  p.close.indent.put (chr '"' :: (txt name ++ txt "\" :" ++ last))

/-- `startObject` and `startArray`. -/
def startBracket (p : JsonProcToJson) (bracket : UInt8) : JsonProcToJson :=
  { p.indent.put [bracket] with firstVals := p.first :: p.firstVals, first := true }

/-- `closeObject` and `closeArray`. -/
def closeBracket (p : JsonProcToJson) (bracket : UInt8) : JsonProcToJson :=
  { p.put [chr '\n'] with first := p.firstVals.headD false, firstVals := p.firstVals.tail }.indent.put [bracket]

def startObject (p : JsonProcToJson) : JsonProcToJson := p.startBracket leftCurly

def closeObject (p : JsonProcToJson) : JsonProcToJson := p.closeBracket rightCurly

def startArray (p : JsonProcToJson) : JsonProcToJson := p.startBracket (chr '[')

def closeArray (p : JsonProcToJson) : JsonProcToJson := p.closeBracket (chr ']')

def procObject (p : JsonProcToJson) (name : String) : JsonProcToJson :=
  (p.startName name (txt "\n")).startObject

def procArray (p : JsonProcToJson) (name : String) : JsonProcToJson :=
  (p.startName name (txt "\n")).startArray

/-! ## Values -/

def procString (p : JsonProcToJson) (name : String) (val : Text) : JsonProcToJson :=
  (p.startName name (txt " \"")).put (val ++ [chr '"'])

/-- `procValue` of a text that is printed as it is: all that is printed by `to_string`. -/
def procRaw (p : JsonProcToJson) (name : String) (val : Text) : JsonProcToJson :=
  (p.startName name (txt " ")).put val

def procBool (p : JsonProcToJson) (name : String) (val : Bool) : JsonProcToJson :=
  p.procRaw name (if val then txt "true" else txt "false")

def procUint (p : JsonProcToJson) (name : String) (val : Nat) : JsonProcToJson := p.procRaw name (decimal val)

def procInt (p : JsonProcToJson) (name : String) (val : Int) : JsonProcToJson :=
  p.procRaw name (decimalInt val)

def procDouble (p : JsonProcToJson) (name : String) (val : Float64) : JsonProcToJson :=
  p.procRaw name (decimalDouble val)

def procFlag (p : JsonProcToJson) (name : String) (flags mask : UInt8) : JsonProcToJson :=
  p.procBool name (flags &&& mask > 0)

/-- `procValue` of `mng_vals_e`. -/
def procMngVals (p : JsonProcToJson) (name : String) (val : MngVals) : JsonProcToJson :=
  p.procString name (if val = .smpteMngId then txt "SMPTE_MNG_ID" else mng2str val)

def procClockAccuracy (p : JsonProcToJson) (name : String) (val : ClockAccuracyE) : JsonProcToJson :=
  p.procString name
    (if val < accurateWithin1ps then txt "0x" ++ (Nat.toDigits 16 val.toNat).map chr else clockAcc2str val)

def procTimeInterval (p : JsonProcToJson) (name : String) (val : TimeInterval) : JsonProcToJson :=
  p.procInt name val.scaledNanoseconds.toInt

def procTimestamp (p : JsonProcToJson) (name : String) (val : Timestamp) : JsonProcToJson :=
  p.procRaw name val.str

def procPTPText (p : JsonProcToJson) (name : String) (val : PTPText) : JsonProcToJson :=
  p.procString name val.textField

/-- `procValue` of a `Binary` and both `procBinary`. -/
def procBinary (p : JsonProcToJson) (name : String) (val : Binary) : JsonProcToJson :=
  p.procString name (Binary.toId val)

/-! ## Records -/

def procPortIdentity (p : JsonProcToJson) (name : String) (val : PortIdentity) : JsonProcToJson :=
  (((p.procObject name).procString "clockIdentity" val.clockIdentity.str).procUint "portNumber"
    val.portNumber.toNat).closeObject

def procClockQuality (p : JsonProcToJson) (name : String) (val : ClockQuality) : JsonProcToJson :=
  ((((p.procObject name).procUint "clockClass" val.clockClass.toNat).procClockAccuracy "clockAccuracy"
    val.clockAccuracy).procUint "offsetScaledLogVariance" val.offsetScaledLogVariance.toNat).closeObject

/-- `procValue` of an element of an array. -/
def clockIdentityElement (p : JsonProcToJson) (val : ClockIdentity) : JsonProcToJson :=
  p.indent.put (chr '"' :: (val.str ++ [chr '"']))

def portAddressRecord (p : JsonProcToJson) (val : PortAddress) : JsonProcToJson :=
  ((p.startObject.procString "networkProtocol" (netProt2str val.networkProtocol)).procBinary "addressField"
    val.addressField).closeObject

def procPortAddress (p : JsonProcToJson) (name : String) (val : PortAddress) : JsonProcToJson :=
  (p.startName name (txt "\n")).portAddressRecord val

def faultRecordRecord (p : JsonProcToJson) (val : FaultRecord) : JsonProcToJson :=
  ((((((p.startObject.procUint "faultRecordLength" val.faultRecordLength.toNat).procTimestamp "faultTime"
    val.faultTime).procString "severityCode" (faultRec2str val.severityCode)).procPTPText "faultName"
    val.faultName).procPTPText "faultValue" val.faultValue).procPTPText "faultDescription"
    val.faultDescription).closeObject

def acceptableMasterRecord (p : JsonProcToJson) (val : AcceptableMaster) : JsonProcToJson :=
  ((p.startObject.procPortIdentity "acceptablePortIdentity" val.acceptablePortIdentity).procUint
    "alternatePriority1" val.alternatePriority1.toNat).closeObject

def linuxptpUnicastMasterRecord (p : JsonProcToJson) (val : LinuxptpUnicastMaster) : JsonProcToJson :=
  (((((((p.startObject.procPortIdentity "portIdentity" val.portIdentity).procClockQuality "clockQuality"
    val.clockQuality).procBool "selected" (val.selected != 0)).procString "portState"
    (us2str val.portState)).procUint "priority1" val.priority1.toNat).procUint "priority2"
    val.priority2.toNat).procPortAddress "portAddress" val.portAddress).closeObject

/-- `procVector`. -/
def procVector {α : Type} (record : JsonProcToJson → α → JsonProcToJson) (p : JsonProcToJson) (name : String)
    (val : List α) : JsonProcToJson :=
  (val.foldl (fun p rec => record p.close rec) (p.procArray name)).closeArray

/-! ## Management TLVs -/

/-- The overloads that the `JS` functions call. -/
def procField (p : JsonProcToJson) (name : String) : (type : ProcType) → type.Val → JsonProcToJson
  | .uint8, val => p.procUint name val.toNat
  | .uint16, val => p.procUint name val.toNat
  | .uint32, val => p.procUint name val.toNat
  | .uint64, val => p.procUint name val.toNat
  | .int8, val => p.procInt name val.toInt
  | .int16, val => p.procInt name val.toInt
  | .int32, val => p.procInt name val.toInt
  | .int64, val => p.procInt name val.toInt
  | .networkProtocol, val => p.procString name (netProt2str val)
  | .clockAccuracy, val => p.procClockAccuracy name val
  | .faultRecord, val => p.procString name (faultRec2str val)
  | .timeSource, val => p.procString name (timeSrc2str val)
  | .portState, val => p.procString name (portState2str val)
  | .delayMechanism, val => p.procString name (delayMech2str val)
  | .linuxptpTimeStamp, val => p.procString name (ts2str val)
  | .linuxptpPowerProfileVersion, val => p.procString name (pwr2str val)
  | .linuxptpUnicastState, val => p.procString name (us2str val)
  | .timeInterval, val => p.procTimeInterval name val
  | .timestamp, val => p.procTimestamp name val
  | .clockIdentity, val => p.procString name val.str
  | .portIdentity, val => p.procPortIdentity name val
  | .portAddress, val => p.procPortAddress name val
  | .clockQuality, val => p.procClockQuality name val
  | .ptpText, val => p.procPTPText name val
  | .binary, val => p.procBinary name val.1
  | .octets _, val => p.procBinary name val.toList
  | .flag mask, val => p.procFlag name val mask
  | .clockIdentities, val => procVector clockIdentityElement p name val
  | .portAddresses, val => procVector portAddressRecord p name val
  | .faultRecords, val => procVector faultRecordRecord p name val
  | .acceptableMasters, val => procVector acceptableMasterRecord p name val
  | .linuxptpUnicastMasters, val => procVector linuxptpUnicastMasterRecord p name val

/-- A step of a `JS` function. `procZeroFlag` does nothing here. -/
def procStep {T : Type} (d : T) (p : JsonProcToJson) : Step T → JsonProcToJson
  | .zeroFlag _ => p
  | .proc name type get _ => p.procField name type (get d)

/-- `JsonProc::procData` with a TLV. -/
def procData (p : JsonProcToJson) (managementId : MngVals) (tlv : BaseMngTlv) : JsonProcToJson :=
  match managementId with
  | .mng id =>
    match tlv.cast? id with
    | some d => (procSteps id).foldl (procStep d) p
    | none => p
  | _ => p

def data2json (p : JsonProcToJson) (managementId : MngVals) (tlv : Option BaseMngTlv) (header : Bool) :
    JsonProcToJson :=
  match tlv with
  | none => p
  | some tlv =>
    ((if header then p.procObject "dataField" else p.startObject).procData managementId tlv).closeObject

/-! ## Signalling TLVs -/

def parseManagement (mem : Option BaseMngTlv) (p : JsonProcToJson) (d : Management) : JsonProcToJson :=
  (p.procMngVals "managementId" (.mng d.managementId)).data2json (.mng d.managementId) (d.tlvData.deref mem)
    true

def parseManagementErrorStatus (p : JsonProcToJson) (d : ManagementErrorStatus) : JsonProcToJson :=
  ((p.procMngVals "managementId" (.mng d.managementId)).procString "managementErrorId"
    (errId2str d.managementErrorId)).procPTPText "displayData" d.displayData

def parseOrganizationExtension (p : JsonProcToJson) (d : OrganizationExtension) : JsonProcToJson :=
  ((p.procBinary "organizationId" d.organizationId.toList).procBinary "organizationSubType"
    d.organizationSubType.toList).procBinary "dataField" d.dataField

def parsePathTrace (p : JsonProcToJson) (d : PathTrace) : JsonProcToJson :=
  procVector clockIdentityElement p "pathSequence" d.pathSequence

def parseAlternateTimeOffsetIndicator (p : JsonProcToJson) (d : AlternateTimeOffsetIndicator) :
    JsonProcToJson :=
  ((((p.procUint "keyField" d.keyField.toNat).procInt "currentOffset" d.currentOffset.toInt).procInt
    "jumpSeconds" d.jumpSeconds.toInt).procUint "timeOfNextJump" d.timeOfNextJump.toNat).procPTPText
    "displayName" d.displayName

def parseEnhancedAccuracyMetrics (p : JsonProcToJson) (d : EnhancedAccuracyMetrics) : JsonProcToJson :=
  let p := (p.procUint "bcHopCount" d.bcHopCount.toNat).procUint "tcHopCount" d.tcHopCount.toNat
  let p := (p.procTimeInterval "maxGmInaccuracy" d.maxGmInaccuracy).procDouble "varGmInaccuracy"
    d.varGmInaccuracy
  let p := (p.procTimeInterval "maxTransientInaccuracy" d.maxTransientInaccuracy).procDouble
    "varTransientInaccuracy" d.varTransientInaccuracy
  let p := (p.procTimeInterval "maxDynamicInaccuracy" d.maxDynamicInaccuracy).procDouble
    "varDynamicInaccuracy" d.varDynamicInaccuracy
  let p := (p.procTimeInterval "maxStaticInstanceInaccuracy" d.maxStaticInstanceInaccuracy).procDouble
    "varStaticInstanceInaccuracy" d.varStaticInstanceInaccuracy
  (p.procTimeInterval "maxStaticMediumInaccuracy" d.maxStaticMediumInaccuracy).procDouble
    "varStaticMediumInaccuracy" d.varStaticMediumInaccuracy

/-- `PROC_FLGB`. -/
def procBit (p : JsonProcToJson) (name : String) (flags : UInt8) (bit : UInt8) : JsonProcToJson :=
  p.procFlag name flags ((1 : UInt8) <<< bit)

def parseL1Sync (p : JsonProcToJson) (d : L1Sync) : JsonProcToJson :=
  let p := (((p.procBit "txCoherentIsRequired" d.flags1 0).procBit "rxCoherentIsRequired" d.flags1 1).procBit
    "congruentIsRequired" d.flags1 2).procBit "optParamsEnabled" d.flags1 3
  let p := ((p.procBit "isTxCoherent" d.flags2 0).procBit "isRxCoherent" d.flags2 1).procBit "isCongruent"
    d.flags2 2
  if d.flags1 &&& L1Sync.optParamsEnabled > 0 then
    let p := ((p.procBit "timestampsCorrectedTx" d.flags3 0).procBit "phaseOffsetTxValid" d.flags3 1).procBit
      "frequencyOffsetTxValid" d.flags3 2
    (((p.procTimeInterval "phaseOffsetTx" d.phaseOffsetTx).procTimestamp "phaseOffsetTxTimestamp"
      d.phaseOffsetTxTimestamp).procTimeInterval "freqOffsetTx" d.freqOffsetTx).procTimestamp
      "freqOffsetTxTimestamp" d.freqOffsetTxTimestamp
  else p

/-- The flags of one kind of message in PORT_COMMUNICATION_AVAILABILITY. -/
def procAvailability (p : JsonProcToJson) (name : String) (flags : UInt8) : JsonProcToJson :=
  (((((p.procObject name).procBit "multicastCapable" flags 0).procBit "unicastCapable" flags 1).procBit
    "unicastNegotiationCapableEnable" flags 2).procBit "unicastNegotiationCapable" flags 3).closeObject

def parsePortCommunicationAvailability (p : JsonProcToJson) (d : PortCommunicationAvailability) :
    JsonProcToJson :=
  (p.procAvailability "syncMessageAvailability" d.syncMessageAvailability).procAvailability
    "delayRespMessageAvailability" d.delayRespMessageAvailability

def parseProtocolAddress (p : JsonProcToJson) (d : ProtocolAddress) : JsonProcToJson :=
  p.procPortAddress "portProtocolAddress" d.portProtocolAddress

def slaveRxSyncTimingDataRecord (p : JsonProcToJson) (val : SlaveRxSyncTimingDataRec) : JsonProcToJson :=
  (((((p.startObject.procUint "sequenceId" val.sequenceId.toNat).procTimestamp "syncOriginTimestamp"
    val.syncOriginTimestamp).procTimeInterval "totalCorrectionField" val.totalCorrectionField).procInt
    "scaledCumulativeRateOffset" val.scaledCumulativeRateOffset.toInt).procTimestamp
    "syncEventIngressTimestamp" val.syncEventIngressTimestamp).closeObject

def parseSlaveRxSyncTimingData (p : JsonProcToJson) (d : SlaveRxSyncTimingData) : JsonProcToJson :=
  procVector slaveRxSyncTimingDataRecord (p.procPortIdentity "syncSourcePortIdentity"
    d.syncSourcePortIdentity) "list" d.list

def slaveRxSyncComputedDataRecord (p : JsonProcToJson) (val : SlaveRxSyncComputedDataRec) : JsonProcToJson :=
  ((((p.startObject.procUint "sequenceId" val.sequenceId.toNat).procTimeInterval "offsetFromMaster"
    val.offsetFromMaster).procTimeInterval "meanPathDelay" val.meanPathDelay).procInt
    "scaledNeighborRateRatio" val.scaledNeighborRateRatio.toInt).closeObject

def parseSlaveRxSyncComputedData (p : JsonProcToJson) (d : SlaveRxSyncComputedData) : JsonProcToJson :=
  let p := p.procPortIdentity "sourcePortIdentity" d.sourcePortIdentity
  let p := ((p.procBit "scaledNeighborRateRatioValid" d.computedFlags 0).procBit "meanPathDelayValid"
    d.computedFlags 1).procBit "offsetFromMasterValid" d.computedFlags 2
  procVector slaveRxSyncComputedDataRecord p "list" d.list

def slaveTxEventTimestampsRecord (p : JsonProcToJson) (val : SlaveTxEventTimestampsRec) : JsonProcToJson :=
  ((p.startObject.procUint "sequenceId" val.sequenceId.toNat).procTimestamp "eventEgressTimestamp"
    val.eventEgressTimestamp).closeObject

def parseSlaveTxEventTimestamps (p : JsonProcToJson) (d : SlaveTxEventTimestamps) : JsonProcToJson :=
  let p := p.procPortIdentity "sourcePortIdentity" d.sourcePortIdentity
  let p := p.procString "eventMessageType" (type2str d.eventMessageType)
  procVector slaveTxEventTimestampsRecord p "list" d.list

def parseCumulativeRateRatio (p : JsonProcToJson) (d : CumulativeRateRatio) : JsonProcToJson :=
  p.procInt "scaledCumulativeRateRatio" d.scaledCumulativeRateRatio.toInt

def parseSmpteOrganizationExtension (p : JsonProcToJson) (d : SmpteOrganizationExtension) : JsonProcToJson :=
  let p := (p.procBinary "organizationId" d.organizationId.toList).procBinary "organizationSubType"
    d.organizationSubType.toList
  let p := (p.procUint "defaultSystemFrameRate_numerator" d.defaultSystemFrameRateNumerator.toNat).procUint
    "defaultSystemFrameRate_denominator" d.defaultSystemFrameRateDenominator.toNat
  let p := (p.procString "masterLockingStatus" (smpteLck2str d.masterLockingStatus)).procUint
    "timeAddressFlags" d.timeAddressFlags.toNat
  let p := (p.procInt "currentLocalOffset" d.currentLocalOffset.toInt).procInt "jumpSeconds"
    d.jumpSeconds.toInt
  let p := ((p.procUint "timeOfNextJump" d.timeOfNextJump.toNat).procUint "timeOfNextJam"
    d.timeOfNextJam.toNat).procUint "timeOfPreviousJam" d.timeOfPreviousJam.toNat
  ((p.procInt "previousJamLocalOffset" d.previousJamLocalOffset.toInt).procUint "daylightSaving"
    d.daylightSaving.toNat).procUint "leapSecondJump" d.leapSecondJump.toNat

def slaveDelayTimingDataNpRecord (p : JsonProcToJson) (val : SlaveDelayTimingDataNpRec) : JsonProcToJson :=
  ((((p.startObject.procUint "sequenceId" val.sequenceId.toNat).procTimestamp "delayOriginTimestamp"
    val.delayOriginTimestamp).procTimeInterval "totalCorrectionField" val.totalCorrectionField).procTimestamp
    "delayResponseTimestamp" val.delayResponseTimestamp).closeObject

def parseSlaveDelayTimingDataNp (p : JsonProcToJson) (d : SlaveDelayTimingDataNp) : JsonProcToJson :=
  procVector slaveDelayTimingDataNpRecord (p.procPortIdentity "sourcePortIdentity" d.sourcePortIdentity)
    "list" d.list

/-- What `sig2json` prints for a TLV by its class. -/
def parseClass (mem : Option BaseMngTlv) (p : JsonProcToJson) : BaseSigTlv → JsonProcToJson
  | .management d => p.parseManagement mem d
  | .managementErrorStatus d => p.parseManagementErrorStatus d
  | .organizationExtension d => p.parseOrganizationExtension d
  | .pathTrace d => p.parsePathTrace d
  | .alternateTimeOffsetIndicator d => p.parseAlternateTimeOffsetIndicator d
  | .enhancedAccuracyMetrics d => p.parseEnhancedAccuracyMetrics d
  | .l1Sync d => p.parseL1Sync d
  | .portCommunicationAvailability d => p.parsePortCommunicationAvailability d
  | .protocolAddress d => p.parseProtocolAddress d
  | .slaveRxSyncTimingData d => p.parseSlaveRxSyncTimingData d
  | .slaveRxSyncComputedData d => p.parseSlaveRxSyncComputedData d
  | .slaveTxEventTimestamps d => p.parseSlaveTxEventTimestamps d
  | .cumulativeRateRatio d => p.parseCumulativeRateRatio d
  | .slaveDelayTimingDataNp d => p.parseSlaveDelayTimingDataNp d

/-- The switch of `sig2json`. The TLV is of a class that its type tells, as the parser made it; the cast of
    another one, which there is none of, prints nothing here. -/
def parseTlv (mem : Option BaseMngTlv) (p : JsonProcToJson) (tlvType : TlvType) (tlv : BaseSigTlv) :
    JsonProcToJson :=
  if tlv.types.contains tlvType then p.parseClass mem tlv else p

def sig2json (mem : Option BaseMngTlv) (p : JsonProcToJson) (tlv : TlvType × BaseSigTlv) : JsonProcToJson :=
  ((p.close.startObject.procString "tlvType" (tlv2str tlv.1)).parseTlv mem tlv.1 tlv.2).closeObject

def smpte2json (p : JsonProcToJson) (tlv : Option BaseMngTlv) : JsonProcToJson :=
  match tlv with
  | some (.smpte d) => p.parseSmpteOrganizationExtension d
  | _ => p

/-! ## Messages -/

/-- `JsonProcToJson::JsonProcToJson`, before the first bracket. -/
def init (indent : Nat) : JsonProcToJson := ⟨[], [], indent, false⟩

/-- The fields of every message. -/
def header (p : JsonProcToJson) (hdr : MsgHeader) : JsonProcToJson :=
  let p := (p.procUint "sequenceId" hdr.sequence.toNat).procUint "sdoId" hdr.sdoId.toNat
  let p := (p.procUint "domainNumber" hdr.domainNumber.toNat).procUint "versionPTP" hdr.versionPTP.toNat
  let p := (p.procUint "minorVersionPTP" hdr.minorVersionPTP.toNat).procBool "unicastFlag" hdr.isUnicast
  let p := p.procUint "PTPProfileSpecific" hdr.ptpProfileSpecific.toNat
  let p := p.procString "messageType" (type2str hdr.type)
  (p.procPortIdentity "sourcePortIdentity" hdr.peer).procPortIdentity "targetPortIdentity" hdr.target

/-- The fields of a management message. -/
def management (mem : Option BaseMngTlv) (p : JsonProcToJson) (m : Message) : JsonProcToJson :=
  let p := (p.procString "actionField" (act2str m.replyAction)).procString "tlvType" (tlv2str m.mngType)
  let p := p.procMngVals "managementId" m.replayTlvId
  match m.mngType with
  | .management => p.data2json m.replayTlvId (m.dataGet.deref mem) true
  | .managementErrorStatus =>
    (p.procString "managementErrorId" (errId2str m.errorId)).procString "displayData"
      m.errorDisplay.textField
  | .organizationExtension =>
    if m.replayTlvId = .smpteMngId then p.smpte2json (m.dataGet.deref mem) else p
  | _ => p

/-- The TLVs of a signalling message. -/
def signaling (mem : Option BaseMngTlv) (p : JsonProcToJson) (m : Message) : JsonProcToJson :=
  ((if m.lastSig then m.sigTlvs else []).foldl (sig2json mem) (p.procArray "TLVs")).closeArray

/-- `JsonProcToJson::JsonProcToJson(const Message &, int)`. -/
def ofMessage (mem : Option BaseMngTlv) (m : Message) (indent : Nat) : JsonProcToJson :=
  let p := (init indent).startObject.header m.hdr
  let p :=
    if m.hdr.type = MsgType.management then p.management mem m
    else if m.hdr.type = MsgType.signaling then p.signaling mem m
    else p
  p.closeObject

end JsonProcToJson

/-- `msg2json`. -/
def msg2json (mem : Option BaseMngTlv) (m : Message) (indent : Nat) : Text :=
  (JsonProcToJson.ofMessage mem m indent).result

/-- `Message::isEmpty`. -/
def isEmpty : MngVals → Bool
  | .mng id => (mngAllVals id).size == 0
  | _ => false

/-- `tlv2json`. -/
def tlv2json (managementId : MngVals) (tlv : Option BaseMngTlv) (indent : Nat) : Text :=
  if tlv.isNone || isEmpty managementId then [leftCurly, rightCurly]
  else ((JsonProcToJson.init indent).data2json managementId tlv false).result

end Json

end PtpMgmt
