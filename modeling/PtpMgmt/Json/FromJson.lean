import Mathlib.Algebra.Order.Ring.Int
import PtpMgmt.Json.Access
import PtpMgmt.Json.ToJson

set_option autoImplicit false

/-! # Messages from JSON (`jsonDef.cpp`)

`JsonProcFrom` reads the fields of a TLV from a JSON object, by the same `JS` functions that print them, and
`Json2msg` keeps what a document tells about a message.

A new TLV and a new record hold what their memory held before, their texts, binaries and vectors apart, until
a field is set. -/

namespace PtpMgmt

open Json

/-! ## Octets from text (`bin.cpp`) -/

namespace Binary

/-- `idsep`. -/
def isIdSep (c : UInt8) : Bool := c == chr ':' || c == chr '.' || c == chr '-'

/-- The tokens that `strtok_r` gives, after the start of one. -/
def tokensFrom (token : Text) : Text → List Text
  | [] => if token = [] then [] else [token]
  | c :: r =>
    if isIdSep c then if token = [] then tokensFrom [] r else token :: tokensFrom [] r
    else tokensFrom (token ++ [c]) r

/-- `Token`. -/
def tokens (str : Text) : List Text := tokensFrom [] (cStr str)

/-- `strtol` with base 16 skips a prefix that a digit follows. -/
def skipHexPrefix : Text → Text
  | c :: x :: d :: r =>
    if c = chr '0' ∧ (x = chr 'x' ∨ x = chr 'X') ∧ isXDigit d then d :: r else c :: x :: d :: r
  | t => t

/-- `parseByte`. -/
def parseByte (cur : Text) : Option UInt8 :=
  let t := cur.dropWhile isCSpace
  let neg := decide (t.head? = some (chr '-'))
  let t := skipHexPrefix (if neg || decide (t.head? = some (chr '+')) then t.tail else t)
  let digits := t.takeWhile fun c => decide (digitVal c < 16)
  let a := magnitude 16 digits
  if digits = [] ∨ t.dropWhile (fun c => decide (digitVal c < 16)) ≠ [] ∨ neg && a != 0 ∨ a > 0xff then none
  else some (UInt8.ofNat a)

def parseBytes : List Text → Option Binary
  | [] => some []
  | cur :: rest => (parseByte cur).bind fun a => (parseBytes rest).map (a :: ·)

/-- `Binary::fromId`: every token is an octet. -/
def fromId (str : Text) : Option Binary :=
  if str.length < 2 then none else parseBytes (tokens str)

/-- The `nibbles` of a token. -/
def nibbles : Text → List Text
  | a :: b :: r => [a, b] :: nibbles r
  | [a] => [[a]]
  | [] => []

/-- `Binary::fromHex`: every two characters of a token are an octet. -/
def fromHex (hex : Text) : Option Binary :=
  if hex = [] then none else parseBytes ((tokens hex).flatMap nibbles)

end Binary

namespace Json

/-- `jsonObject`. -/
abbrev Members := List (Text × Value)

/-- What is in new memory: in that of a TLV, and in that of each record of a fault log. -/
structure NewMem where
  tlv : (id : MngId) → Tlv id
  faultRecord : Nat → FaultRecord

/-! ## Fields -/

namespace JsonProcFrom

/-- `GET_STR`. The keys are never empty. -/
def getStr (obj : Members) (key : String) : Option Text :=
  match getVal obj (txt key) with
  | some (.str str) => some str
  | _ => none

/-- `GET_NUM_CNV` with `getUint64`. -/
def getUint (obj : Members) (key : String) : Option UInt64 := (getVal obj (txt key)).bind (·.getUint64 true)

/-- `GET_NUM` with `getInt64`. -/
def getInt (obj : Members) (key : String) : Option Int64 := (getVal obj (txt key)).bind (·.getInt64 false)

/-- The loop over the enumerators. -/
def procEnum {α : Type} (name : α → Text) (vals : List α) (obj : Members) (key : String) : Option α :=
  (getStr obj key).bind fun str => vals.find? fun v => str == name v

/-- An enumerator that a function of `Message` looks up. -/
def procFind {α : Type} (find : Text → α → Bool → Bool × α) (obj : Members) (key : String) (d : α) :
    Option α :=
  (getStr obj key).bind fun str =>
    match find str d true with
    | (true, v) => some v
    | (false, _) => none

/-- `enumRange` of an enumeration over 16 bits. -/
def enumRange16 (first last : Nat) : List UInt16 := (List.range' first (last + 1 - first)).map UInt16.ofNat

/-- The number of a `clockAccuracy_e`. -/
def clockAccuracyNum (jval : Value) : Option ClockAccuracyE :=
  (jval.getUint64 true).bind fun u64 =>
    if u64 = accurateUnknown.toUInt64 ∨ u64 ≤ accurateMore10s.toUInt64 then some u64.toUInt8 else none

/-- `procValue` of `clockAccuracy_e`. A string that is no name may still be a number. -/
def procClockAccuracy (obj : Members) (key : String) : Option ClockAccuracyE :=
  match getVal obj (txt key) with
  | some (.str str) =>
    if str = [] then none
    else if str = txt "Unknown" then some accurateUnknown
    else
      match (enumRange 0x17 0x31).find? fun v => str == clockAcc2str v with
      | some v => some v
      | none => clockAccuracyNum (.str str)
  | some (.num val dotLoc eLoc) => clockAccuracyNum (.num val dotLoc eLoc)
  | _ => none

/-- `procValue` of a `Timestamp_t`. `floatTime` stands for the branch that goes through a `long double`:
    what it makes of the text of a number, if `stold` reads all of it. -/
def procTimestamp (floatTime : Text → Option Timestamp) (obj : Members) (key : String) : Option Timestamp :=
  match getVal obj (txt key) with
  | none => none
  | some jval =>
    match jval.getFrac 9 with
    | some (integer, fraction) =>
      if integer > 0 then some ⟨integer.toUInt64, fraction.toUInt32⟩ else none
    | none =>
      match jval with
      | .num val _ _ => floatTime val
      | _ => none

/-- A text that is a `ClockIdentity_t`. -/
def clockIdentityOf (str : Text) : Option ClockIdentity :=
  (Binary.fromHex str).bind fun b => if h : b.length = 8 then some ⟨⟨b, h⟩⟩ else none

def procClockIdentity (obj : Members) (key : String) : Option ClockIdentity :=
  (getStr obj key).bind clockIdentityOf

/-- `procValue` of a `PortIdentity_t`, on the fields of `d`: the first one is set also when the second one
    is wrong. -/
def procPortIdentity (obj : Members) (key : String) (d : PortIdentity) : Bool × PortIdentity :=
  match getObj obj (txt key) with
  | none => (false, d)
  | some obj =>
    match procClockIdentity obj "clockIdentity" with
    | none => (false, d)
    | some clockIdentity =>
      match getUint obj "portNumber" with
      | none => (false, { d with clockIdentity })
      | some num => (true, ⟨clockIdentity, num.toUInt16⟩)

/-- The same in a TLV, which is given up when a field is wrong. -/
def readPortIdentity (obj : Members) (key : String) : Option PortIdentity :=
  match procPortIdentity obj key default with
  | (true, d) => some d
  | (false, _) => none

/-- `procBinary` of a `Binary` and its length. -/
def procBinary (obj : Members) (key : String) : Option (Binary × UInt16) :=
  (getStr obj key).bind fun str => (Binary.fromId str).bind fun b =>
    if b.length = 0 then none else some (b, UInt16.ofNat b.length)

/-- `procBinary` of an array of octets. -/
def procOctets (len : Nat) (obj : Members) (key : String) : Option (Octets len) :=
  (getStr obj key).bind fun str => (Binary.fromId str).bind fun b =>
    if h : b.length = len then some ⟨b, h⟩ else none

def procFlag (obj : Members) (key : String) (flags mask : UInt8) : Option UInt8 :=
  match getVal obj (txt key) with
  | some (.bool b) => some (if b then flags ||| mask else flags)
  | _ => none

def procPTPText (obj : Members) (key : String) (d : PTPText) : Option PTPText :=
  (getStr obj key).map fun str => { d with textField := str }

/-! ## Records -/

def procPortAddress (obj : Members) : Option PortAddress :=
  (procEnum netProt2str (enumRange16 1 6) obj "networkProtocol").bind fun networkProtocol =>
    (procBinary obj "addressField").map fun b => ⟨networkProtocol, b.2, b.1⟩

def procClockQuality (obj : Members) : Option ClockQuality :=
  (getUint obj "clockClass").bind fun clockClass =>
  (procClockAccuracy obj "clockAccuracy").bind fun clockAccuracy =>
  (getUint obj "offsetScaledLogVariance").map fun offsetScaledLogVariance =>
    ⟨clockClass.toUInt8, clockAccuracy, offsetScaledLogVariance.toUInt16⟩

/-- The record is a new one. The lengths of its texts are not set. -/
def procFaultRecord (floatTime : Text → Option Timestamp) (mem : FaultRecord) (obj : Members) :
    Option FaultRecord :=
  (getUint obj "faultRecordLength").bind fun faultRecordLength =>
  (procTimestamp floatTime obj "faultTime").bind fun faultTime =>
  (procEnum faultRec2str (enumRange 0 7) obj "severityCode").bind fun severityCode =>
  (procPTPText obj "faultName" mem.faultName).bind fun faultName =>
  (procPTPText obj "faultValue" mem.faultValue).bind fun faultValue =>
  (procPTPText obj "faultDescription" mem.faultDescription).map fun faultDescription =>
    ⟨faultRecordLength.toUInt16, faultTime, severityCode, faultName, faultValue, faultDescription⟩

def procAcceptableMaster (obj : Members) : Option AcceptableMaster :=
  (getUint obj "alternatePriority1").bind fun alternatePriority1 =>
  (readPortIdentity obj "acceptablePortIdentity").map fun acceptablePortIdentity =>
    ⟨acceptablePortIdentity, alternatePriority1.toUInt8⟩

def procLinuxptpUnicastMaster (obj : Members) : Option LinuxptpUnicastMaster :=
  (readPortIdentity obj "portIdentity").bind fun portIdentity =>
  ((getObj obj (txt "clockQuality")).bind procClockQuality).bind fun clockQuality =>
  (getUint obj "selected").bind fun selected =>
  (procEnum us2str (enumRange 0 3) obj "portState").bind fun portState =>
  (getUint obj "priority1").bind fun priority1 =>
  (getUint obj "priority2").bind fun priority2 =>
  ((getObj obj (txt "portAddress")).bind procPortAddress).map fun portAddress =>
    ⟨portIdentity, clockQuality, selected.toUInt8, portState, priority1.toUInt8, priority2.toUInt8,
      portAddress⟩

/-! ## Arrays -/

/-- The loop over an array. A record is read behind those that are there. -/
def procElements {α : Type} (record : Nat → Value → Option α) (d : List α) : List Value → Option (List α)
  | [] => some d
  | jval :: rest => (record d.length jval).bind fun rec => procElements record (d ++ [rec]) rest

def procArray {α : Type} (record : Nat → Value → Option α) (obj : Members) (key : String) (d : List α) :
    Option (List α) :=
  (getArr obj (txt key)).bind (procElements record d)

/-- An element that is a string. -/
def clockIdentityElement : Value → Option ClockIdentity
  | .str str => clockIdentityOf str
  | _ => none

/-- An element that is an object: `procVector`. -/
def objectElement {α : Type} (record : Members → Option α) (jval : Value) : Option α :=
  jval.getObj.bind record

/-! ## Management TLVs -/

section Fields

variable (floatTime : Text → Option Timestamp) (mem : NewMem) (obj : Members)

/-- The overloads that the `JS` functions call, with the value that the field has so far. -/
def procField (key : String) : (type : ProcType) → type.Val → Option type.Val
  | .uint8, _ => (getUint obj key).map (·.toUInt8)
  | .uint16, _ => (getUint obj key).map (·.toUInt16)
  | .uint32, _ => (getUint obj key).map (·.toUInt32)
  | .uint64, _ => getUint obj key
  | .int8, _ => (getInt obj key).map (·.toInt8)
  | .int16, _ => (getInt obj key).map (·.toInt16)
  | .int32, _ => (getInt obj key).map (·.toInt32)
  | .int64, _ => getInt obj key
  | .networkProtocol, _ => procEnum netProt2str (enumRange16 1 6) obj key
  | .clockAccuracy, _ => procClockAccuracy obj key
  | .faultRecord, _ => procEnum faultRec2str (enumRange 0 7) obj key
  | .timeSource, d => procFind findTimeSrc obj key d
  | .portState, d => procFind findPortState obj key d
  | .delayMechanism, d => procFind findDelayMech obj key d
  | .linuxptpTimeStamp, _ => procEnum ts2str (enumRange 0 4) obj key
  | .linuxptpPowerProfileVersion, _ => procEnum pwr2str (enumRange16 0 2) obj key
  | .linuxptpUnicastState, _ => procEnum us2str (enumRange 0 3) obj key
  | .timeInterval, _ => (getInt obj key).map fun num => ⟨num⟩
  | .timestamp, _ => procTimestamp floatTime obj key
  | .clockIdentity, _ => procClockIdentity obj key
  | .portIdentity, _ => readPortIdentity obj key
  | .portAddress, _ => (getObj obj (txt key)).bind procPortAddress
  | .clockQuality, _ => (getObj obj (txt key)).bind procClockQuality
  | .ptpText, d => procPTPText obj key d
  | .binary, _ => procBinary obj key
  | .octets len, _ => procOctets len obj key
  | .flag mask, d => procFlag obj key d mask
  | .clockIdentities, d => procArray (fun _ => clockIdentityElement) obj key d
  | .portAddresses, d => procArray (fun _ => objectElement procPortAddress) obj key d
  | .faultRecords, d =>
    procArray (fun i => objectElement (procFaultRecord floatTime (mem.faultRecord i))) obj key d
  | .acceptableMasters, d => procArray (fun _ => objectElement procAcceptableMaster) obj key d
  | .linuxptpUnicastMasters, d => procArray (fun _ => objectElement procLinuxptpUnicastMaster) obj key d

/-- A step of a `JS` function. -/
def procStep {T : Type} (d : T) : Step T → Option T
  | .zeroFlag set => some (set d 0)
  | .proc name type get set => (procField floatTime mem obj name type (get d)).map (set d)

/-- The `JS` functions go on while the fields are right. -/
def runSteps {T : Type} (d : T) : List (Step T) → Option T
  | [] => some d
  | step :: rest => (procStep floatTime mem obj d step).bind fun d => runSteps d rest

/-- `JsonProc::procData` without a TLV: it makes one, and gives it up when a field is wrong. Some fields are
    never set: the lengths of texts, and in PORT_STATS_NP the counters of the types that have no name. -/
def procData (managementId : MngId) : Option BaseMngTlv :=
  if (mngAllVals managementId).func = .na then none
  else
    (runSteps floatTime mem obj (newTlv managementId (mem.tlv managementId)) (procSteps managementId)).map
      (.tlv managementId)

end Fields

end JsonProcFrom

/-! ## Messages -/

/-- What `m_have` tells of a field, and the field. -/
structure Opt (α : Type) where
  have_ : Bool
  val : α
deriving DecidableEq

/-- `Json2msg`. -/
structure Json2msg where
  tlvData : Option BaseMngTlv
  managementId : MngId
  action : ActionField
  isUnicast : Opt Bool
  ptpProfileSpecific : Opt UInt8
  domainNumber : Opt UInt8
  versionPTP : Opt UInt8
  minorVersionPTP : Opt UInt8
  sequenceId : Opt UInt16
  sdoId : Opt UInt32
  srcPort : Opt PortIdentity
  dstPort : Opt PortIdentity

namespace Json2msg

/-- `{{0}, 0}`. -/
def zeroPort : PortIdentity := ⟨⟨Octets.ofList 8 []⟩, 0⟩

def init : Json2msg where
  tlvData := none
  managementId := .nullPtpManagement
  action := .get
  isUnicast := ⟨false, false⟩
  ptpProfileSpecific := ⟨false, 0⟩
  domainNumber := ⟨false, 0⟩
  versionPTP := ⟨false, 2⟩
  minorVersionPTP := ⟨false, 1⟩
  sequenceId := ⟨false, 0⟩
  sdoId := ⟨false, 0⟩
  srcPort := ⟨false, zeroPort⟩
  dstPort := ⟨false, zeroPort⟩

/-- A part of `fromJson`: it may return false, and what it has set so far stays. -/
abbrev Part := Json2msg → Bool × Json2msg

/-- One part after the other, until one returns false. -/
def runParts : List Part → Part
  | [], j => (true, j)
  | part :: rest, j =>
    match part j with
    | (true, j) => runParts rest j
    | (false, j) => (false, j)

section Parts

variable (floatTime : Text → Option Timestamp) (mem : NewMem) (mobj : Members)

/-- `testOpt`. -/
def testOpt (key result : String) : Part := fun j =>
  match findMember mobj (txt key) with
  | some (.str str) => (str == txt result, j)
  | _ => (count mobj (txt key) == 0, j)

/-- `testMand`. -/
def testMand (key : String) : Option Text :=
  match getVal mobj (txt key) with
  | some (.str str) => if str = [] then none else some str
  | _ => none

def actionPart : Part := fun j =>
  match testMand mobj "actionField" with
  | none => (false, j)
  | some str =>
    if str = txt "GET" then (true, { j with action := .get })
    else if str = txt "SET" then (true, { j with action := .set })
    else if str = txt "COMMAND" then (true, { j with action := .command })
    else (false, j)

def managementIdPart : Part := fun j =>
  match testMand mobj "managementId" with
  | none => (false, j)
  | some str =>
    match findMngID str j.managementId true with
    | (ok, id) => (ok, { j with managementId := id })

/-- `optProc`. -/
def optProc {α : Type} (key : String) (cast : Int64 → α) (set : Json2msg → Opt α → Json2msg) : Part := fun j =>
  if count mobj (txt key) > 0 then
    match JsonProcFrom.getInt mobj key with
    | none => (false, j)
    | some i64 => (true, set j ⟨true, cast i64⟩)
  else (true, j)

def unicastFlagPart : Part := fun j =>
  if count mobj (txt "unicastFlag") > 0 then
    match getVal mobj (txt "unicastFlag") with
    | some (.bool val) => (true, { j with isUnicast := ⟨true, val⟩ })
    | _ => (false, j)
  else (true, j)

/-- `portProc`. A port that is wrong may be half set, and the flag then is what it was. -/
def portProc (key : String) (get : Json2msg → Opt PortIdentity) (set : Json2msg → Opt PortIdentity → Json2msg) :
    Part := fun j =>
  if count mobj (txt key) > 0 then
    match JsonProcFrom.procPortIdentity mobj key (get j).val with
    | (true, d) => (true, set j ⟨true, d⟩)
    | (false, d) => (false, set j ⟨(get j).have_, d⟩)
  else (true, j)

/-- `have_data`, when the dataField is an object, a null or not there. -/
def haveData : Option Bool :=
  if count mobj (txt "dataField") > 0 then
    match findMember mobj (txt "dataField") with
    | some (.obj _) => some true
    | some .null => some false
    | _ => none
  else some false

def dataPart : Part := fun j =>
  match haveData mobj with
  | none => (false, j)
  | some haveData =>
    if j.action = .get ∨ isEmpty (.mng j.managementId) then (!haveData, j)
    else
      match (getObj mobj (txt "dataField")).bind fun obj =>
          JsonProcFrom.procData floatTime mem obj j.managementId with
      | none => (false, j)
      | some tlv => (true, { j with tlvData := some tlv })

/-- The parts, in the order of the source. The six optional numbers are taken as an `int64_t` and cut to
    their size. -/
def parts : List Part :=
  [testOpt mobj "messageType" "Management", testOpt mobj "tlvType" "MANAGEMENT", actionPart mobj,
   managementIdPart mobj,
   optProc mobj "sequenceId" (fun i => i.toUInt64.toUInt16) ({ · with sequenceId := · }),
   optProc mobj "sdoId" (fun i => i.toUInt64.toUInt32) ({ · with sdoId := · }),
   optProc mobj "domainNumber" (fun i => i.toUInt64.toUInt8) ({ · with domainNumber := · }),
   optProc mobj "versionPTP" (fun i => i.toUInt64.toUInt8) ({ · with versionPTP := · }),
   optProc mobj "minorVersionPTP" (fun i => i.toUInt64.toUInt8) ({ · with minorVersionPTP := · }),
   optProc mobj "PTPProfileSpecific" (fun i => i.toUInt64.toUInt8) ({ · with ptpProfileSpecific := · }),
   unicastFlagPart mobj,
   portProc mobj "sourcePortIdentity" (·.srcPort) ({ · with srcPort := · }),
   portProc mobj "targetPortIdentity" (·.dstPort) ({ · with dstPort := · }),
   dataPart floatTime mem mobj]

end Parts

/-- `Json2msg::fromJson`: what it returns, and the object afterwards. -/
def fromJson (floatTime : Text → Option Timestamp) (mem : NewMem) (j : Json2msg) (json : Text) :
    Bool × Json2msg :=
  match parseBuffer false json with
  | some (some (.obj mobj)) => runParts (parts floatTime mem mobj) j
  | _ => (false, j)

end Json2msg

end Json

end PtpMgmt
