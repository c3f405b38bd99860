import PtpMgmt.Json.Members
import PtpMgmt.Json.Reuse
import PtpMgmt.Json.Texts
import PtpMgmt.Json.Times

set_option autoImplicit false

/-! # Fields that are read as they were printed

`JsonProcToJson` and `JsonProcFrom` handle a type each in its own way: numbers as text, enumerators by their
names, octets as tokens, timestamps as decimals, records as objects. A value that is regular comes back. -/

namespace PtpMgmt

open Json

/-! ## Regular values -/

/-- The enumerators that JSON has a name for. -/
def networkProtocols : List NetworkProtocol := JsonProcFrom.enumRange16 1 6

def clockAccuracies : List ClockAccuracyE := enumRange 0x17 0x31 ++ [accurateUnknown]

def severityCodes : List FaultRecordE := enumRange 0 7

def timeSources : List TimeSource := [0x10, 0x20, 0x30, 0x39, 0x40, 0x50, 0x60, 0x90, 0xa0]

def portStates : List PortState := enumRange 1 9

def delayMechanisms : List DelayMechanismE := enumRange 0 4 ++ [0xfe]

def linuxptpTimeStamps : List LinuxptpTimeStamp := enumRange 0 4

def linuxptpPowerProfileVersions : List LinuxptpPowerProfileVersion := JsonProcFrom.enumRange16 0 2

def linuxptpUnicastStates : List LinuxptpUnicastState := enumRange 0 3

structure Timestamp.Regular (val : Timestamp) : Prop where
  secondsField : 0 < val.secondsField
  nanosecondsField : val.nanosecondsField.toNat < 10 ^ 9

structure PortAddress.Regular (val : PortAddress) : Prop where
  networkProtocol : val.networkProtocol ∈ networkProtocols
  addressField : val.addressField ≠ []
  addressLength : val.addressLength.toNat = val.addressField.length

structure FaultRecord.Regular (val : FaultRecord) : Prop where
  faultTime : val.faultTime.Regular
  severityCode : val.severityCode ∈ severityCodes
  faultName : Unescaped val.faultName.textField
  faultValue : Unescaped val.faultValue.textField
  faultDescription : Unescaped val.faultDescription.textField

structure LinuxptpUnicastMaster.Regular (val : LinuxptpUnicastMaster) : Prop where
  clockQuality : val.clockQuality.clockAccuracy ∈ clockAccuracies
  selected : val.selected = 0 ∨ val.selected = 1
  portState : val.portState ∈ linuxptpUnicastStates
  portAddress : val.portAddress.Regular

namespace Json

/-- A value with defined enumerators, texts that need no escapes, addresses with their lengths, and
    timestamps after the epoch. -/
def ProcType.Regular : (type : ProcType) → type.Val → Prop
  | .networkProtocol, val => val ∈ networkProtocols
  | .clockAccuracy, val => val ∈ clockAccuracies
  | .faultRecord, val => val ∈ severityCodes
  | .timeSource, val => val ∈ timeSources
  | .portState, val => val ∈ portStates
  | .delayMechanism, val => val ∈ delayMechanisms
  | .linuxptpTimeStamp, val => val ∈ linuxptpTimeStamps
  | .linuxptpPowerProfileVersion, val => val ∈ linuxptpPowerProfileVersions
  | .linuxptpUnicastState, val => val ∈ linuxptpUnicastStates
  | .timestamp, val => val.Regular
  | .portAddress, val => val.Regular
  | .clockQuality, val => val.clockAccuracy ∈ clockAccuracies
  | .ptpText, val => Unescaped val.textField
  | .binary, val => val.1 ≠ [] ∧ val.2.toNat = val.1.length
  | .octets _, val => val.toList ≠ []
  | .portAddresses, val => ∀ rec ∈ val, PortAddress.Regular rec
  | .faultRecords, val => ∀ rec ∈ val, FaultRecord.Regular rec
  | .linuxptpUnicastMasters, val => ∀ rec ∈ val, LinuxptpUnicastMaster.Regular rec
  | _, _ => True

/-- The seconds of a timestamp fit in an `int64_t`. -/
def SecondsFit (val : Timestamp) : Prop := val.secondsField.toNat < 2 ^ 63

def ProcType.Fits : (type : ProcType) → type.Val → Prop
  | .timestamp, val => SecondsFit val
  | .faultRecords, val => ∀ rec ∈ val, SecondsFit (FaultRecord.faultTime rec)
  | _, _ => True

/-! ## What is read of them -/

/-- The length of a text is not printed. -/
def readText (val cur : PTPText) : PTPText := { cur with textField := val.textField }

def readFaultRecord (mem val : FaultRecord) : FaultRecord :=
  { val with
    faultName := readText val.faultName mem.faultName
    faultValue := readText val.faultValue mem.faultValue
    faultDescription := readText val.faultDescription mem.faultDescription }

/-- A flag is added when it was set. -/
def readFlag (flags mask cur : UInt8) : UInt8 := if flags &&& mask > 0 then cur ||| mask else cur

/-- What a field is that was `cur`, after the text of `val` is read. -/
def ProcType.back (mem : NewMem) : (type : ProcType) → (val cur : type.Val) → type.Val
  | .ptpText, val, cur => readText val cur
  | .flag mask, val, cur => readFlag val mask cur
  | .clockIdentities, val, cur => cur ++ val
  | .portAddresses, val, cur => cur ++ val
  | .faultRecords, val, cur =>
    cur ++ val.mapIdx fun i rec => readFaultRecord (mem.faultRecord (cur.length + i)) rec
  | .acceptableMasters, val, cur => cur ++ val
  | .linuxptpUnicastMasters, val, cur => cur ++ val
  | _, val, _ => val

/-! ## Values of members -/

section Members

variable {obj : Members} {key : String}

theorem getVal_back {v : Value} (h : findMember obj (txt key) = some v) (hv : v.getVal = some v) :
    getVal obj (txt key) = some v := by
  rw [getVal, h]
  exact hv

theorem getObj_back {ms : List (String × Doc)} (h : findMember obj (txt key) = some (Doc.obj ms).value) :
    getObj obj (txt key) = some (membersValue [] ms) := by
  rw [getObj, h, Doc.value]
  rfl

theorem getArr_back {ds : List Doc} (h : findMember obj (txt key) = some (Doc.arr ds).value) :
    getArr obj (txt key) = some (elementsValue ds) := by
  rw [getArr, h, Doc.value]
  rfl

namespace JsonProcFrom

theorem getStr_back {t : Text} (hself : strVal t = t) (h : findMember obj (txt key) = some (Doc.str t).value) :
    getStr obj key = some t := by
  rw [Doc.value, hself] at h
  rw [getStr, getVal_back h rfl]

theorem getUint_back {n : Nat} (hn : n < 2 ^ 64) (h : findMember obj (txt key) = some (uintDoc n).value) :
    getUint obj key = some (UInt64.ofNat n) := by
  have hget := getUint64_int (intPart_decimal n) false true
  rw [magnitude_decimal, Nat.min_eq_right (by omega)] at hget
  rw [getUint, getVal_back h rfl]
  exact hget

theorem getInt_back {i : Int} (hlow : -2 ^ 63 ≤ i) (hhigh : i < 2 ^ 63)
    (h : findMember obj (txt key) = some (intDoc i).value) : getInt obj key = some (Int64.ofInt i) := by
  have hget := getInt64_int (intPart_decimal i.natAbs) (decide (i < 0)) false
  have hsigned : signed (decide (i < 0)) i.natAbs = i := by
    unfold signed
    split
    · next hneg =>
        have := of_decide_eq_true hneg
        omega
    · next hpos =>
        have : ¬ i < 0 := by simpa using hpos
        omega
  have hclamp : clampInt i = i := by
    unfold clampInt
    omega
  rw [magnitude_decimal, hsigned, hclamp] at hget
  rw [getInt, getVal_back h rfl]
  exact hget

theorem procFlag_back {val mask : UInt8} (h : findMember obj (txt key) = some (flagDoc val mask).value)
    (cur : UInt8) : procFlag obj key cur mask = some (readFlag val mask cur) := by
  rw [procFlag, getVal_back h rfl, flagDoc, Doc.value, readFlag]
  by_cases hset : val &&& mask > 0
  · simp [hset]
  · simp [hset]

theorem procPTPText_back {val : PTPText} (hreg : Unescaped val.textField)
    (h : findMember obj (txt key) = some (Doc.str val.textField).value) (cur : PTPText) :
    procPTPText obj key cur = some (readText val cur) := by
  rw [procPTPText, getStr_back (strVal_eq hreg.strText) h]
  rfl

theorem procTimestamp_back (floatTime : Text → Option Timestamp) {val : Timestamp} (hreg : val.Regular)
    (hfit : SecondsFit val) (h : findMember obj (txt key) = some (timestampDoc val).value) :
    procTimestamp floatTime obj key = some val := by
  have hne : val.secondsField.toNat ≠ 0 := by
    have hpos := UInt64.lt_iff_toNat_lt.1 hreg.secondsField
    rw [UInt64.toNat_zero] at hpos
    omega
  obtain ⟨jval, hparse, hread⟩ := (readsAs_str_iff floatTime hfit hreg.nanosecondsField).2 hne
  have hnum := numText_parseBuffer (timestamp_isNum val)
  rw [hnum, Option.some.injEq, Option.some.injEq] at hparse
  subst hparse
  exact hread obj key (getVal_back h rfl)

/-! ## Enumerators -/

/-- A list of enumerators whose names tell them apart. -/
def NamesApart {α : Type} (name : α → Text) (vals : List α) : Prop :=
  ∀ v ∈ vals, (vals.find? fun w => name v == name w) = some v

theorem procEnum_back {α : Type} {name : α → Text} {vals : List α} (happart : NamesApart name vals)
    (hself : ∀ v, (name v).all isSelf = true) {val : α} (hreg : val ∈ vals)
    (h : findMember obj (txt key) = some (Doc.str (name val)).value) :
    procEnum name vals obj key = some val := by
  rw [procEnum, getStr_back (strVal_isSelf (hself val)) h]
  exact happart val hreg

theorem procFind_back {α : Type} {find : Text → α → Bool → Bool × α} {t : Text} {val d : α}
    (hfind : find t d true = (true, val)) (hself : t.all isSelf = true)
    (h : findMember obj (txt key) = some (Doc.str t).value) : procFind find obj key d = some val := by
  rw [procFind, getStr_back (strVal_isSelf hself) h, Option.bind_some, hfind]

/-- A list of octets is gone through member by member, never by all 256 values. -/
theorem forall_mem_of_all {α : Type} {P : α → Prop} [DecidablePred P] {vals : List α}
    (h : (vals.all fun v => decide (P v)) = true) : ∀ v ∈ vals, P v := by
  intro v hv
  exact of_decide_eq_true (List.all_eq_true.1 h v hv)

theorem networkProtocols_apart : NamesApart netProt2str networkProtocols :=
  forall_mem_of_all (by decide)

theorem severityCodes_apart : NamesApart faultRec2str severityCodes :=
  forall_mem_of_all (by decide)

theorem linuxptpTimeStamps_apart : NamesApart ts2str linuxptpTimeStamps :=
  forall_mem_of_all (by decide)

theorem linuxptpPowerProfileVersions_apart : NamesApart pwr2str linuxptpPowerProfileVersions :=
  forall_mem_of_all (by decide)

theorem linuxptpUnicastStates_apart : NamesApart us2str linuxptpUnicastStates :=
  forall_mem_of_all (by decide)

theorem findTimeSrc_back {val : TimeSource} (hval : val ∈ timeSources) (d : TimeSource) :
    findTimeSrc (timeSrc2str val) d true = (true, val) := by
  have hall : ∀ v ∈ timeSources, timeSrc2str v ≠ [] ∧ sameName true (timeSrc2str v) (txt "GPS") = false ∧
      ((enumRange 0x10 0xa0).find? fun w => sameName true (timeSrc2str v) (timeSrc2str w)) = some v := by
    exact forall_mem_of_all (by decide)
  obtain ⟨hne, hgps, hfind⟩ := hall val hval
  rw [findTimeSrc, if_neg hne, if_neg (by rw [hgps]; exact Bool.false_ne_true),
    Json2msg.findLoop_exact, hfind]
  rfl

theorem findPortState_back {val : PortState} (hval : val ∈ portStates) (d : PortState) :
    findPortState (portState2str val) d true = (true, val) := by
  have hall : ∀ v ∈ portStates, portState2str v ≠ [] ∧
      ((enumRange 1 9).find? fun w => sameName true (portState2str v) (portState2str w)) = some v := by
    exact forall_mem_of_all (by decide)
  obtain ⟨hne, hfind⟩ := hall val hval
  rw [findPortState, if_neg hne, findName_eq, hfind]
  rfl

/-- `NO_MECHANISM` is not in the range. -/
theorem findDelayMech_back {val : DelayMechanismE} (hval : val ∈ delayMechanisms) (d : DelayMechanismE) :
    findDelayMech (delayMech2str val) d true = (true, val) := by
  have hall : ∀ v ∈ delayMechanisms, delayMech2str v ≠ [] ∧
      (((enumRange 0 4).find? fun w => sameName true (delayMech2str v) (delayMech2str w)) = some v ∨
        ((enumRange 0 4).find? fun w => sameName true (delayMech2str v) (delayMech2str w)) = none ∧
          sameName true (delayMech2str v) (delayMech2str 0xfe) = true ∧ v = 0xfe) := by
    exact forall_mem_of_all (by decide)
  obtain ⟨hne, hfind | ⟨hfind, hsame, rfl⟩⟩ := hall val hval
  · rw [findDelayMech, if_neg hne, findName_eq, hfind]
    rfl
  · rw [findDelayMech, if_neg hne, findName_eq, hfind]
    exact if_pos hsame

theorem procClockAccuracy_back {val : ClockAccuracyE} (hreg : val ∈ clockAccuracies)
    (h : findMember obj (txt key) = some (clockAccuracyDoc val).value) :
    procClockAccuracy obj key = some val := by
  have hall : ∀ v ∈ clockAccuracies, ¬ v < accurateWithin1ps ∧ clockAcc2str v ≠ [] ∧
      (clockAcc2str v = txt "Unknown" ∧ v = accurateUnknown ∨ clockAcc2str v ≠ txt "Unknown" ∧
        ((enumRange 0x17 0x31).find? fun w => clockAcc2str v == clockAcc2str w) = some v) := by
    exact forall_mem_of_all (by decide)
  obtain ⟨hlow, hne, hname⟩ := hall val hreg
  rw [clockAccuracyDoc, if_neg hlow, Doc.value, strVal_isSelf (clockAcc2str_self val)] at h
  rw [procClockAccuracy, getVal_back h rfl]
  obtain ⟨hname, rfl⟩ | ⟨hname, hfind⟩ := hname
  · simp only [if_neg hne, if_pos hname]
  · simp only [if_neg hne, if_neg hname, hfind]

/-! ## Records -/

/-- A record in a member is read as one in an array. -/
theorem getObj_bind {α : Type} {record : Members → Option α} {v : Value}
    (h : findMember obj (txt key) = some v) :
    (getObj obj (txt key)).bind record = objectElement record v := by
  rw [getObj, h]
  rfl

theorem procClockIdentity_back {val : ClockIdentity}
    (h : findMember obj (txt key) = some (Doc.str val.str).value) : procClockIdentity obj key = some val := by
  rw [procClockIdentity, getStr_back (strVal_isSelf (clockIdentityStr_self val)) h]
  exact clockIdentityOf_str val

theorem procBinary_back {val : Binary × UInt16} (hne : val.1 ≠ []) (hlen : val.2.toNat = val.1.length)
    (h : findMember obj (txt key) = some (Doc.str (Binary.toId val.1)).value) :
    procBinary obj key = some val := by
  have hpos : ¬ val.1.length = 0 := fun hzero => hne (List.length_eq_zero_iff.1 hzero)
  rw [procBinary, getStr_back (strVal_isSelf (toId_self val.1)) h, Option.bind_some, Binary.fromId_toId hne,
    Option.bind_some, if_neg hpos, ← hlen, UInt16.ofNat_toNat]

theorem procOctets_back {len : Nat} {val : Octets len} (hne : val.toList ≠ [])
    (h : findMember obj (txt key) = some (Doc.str (Binary.toId val.toList)).value) :
    procOctets len obj key = some val := by
  rw [procOctets, getStr_back (strVal_isSelf (toId_self val.toList)) h, Option.bind_some,
    Binary.fromId_toId hne, Option.bind_some, dif_pos val.toList_length]
  rfl

theorem uint8_back (val : UInt8) : (UInt64.ofNat val.toNat).toUInt8 = val := by
  apply UInt8.toNat.inj
  simp

theorem uint16_back (val : UInt16) : (UInt64.ofNat val.toNat).toUInt16 = val := by
  apply UInt16.toNat.inj
  simp

theorem uint32_back (val : UInt32) : (UInt64.ofNat val.toNat).toUInt32 = val := by
  apply UInt32.toNat.inj
  simp

theorem uint8_lt (val : UInt8) : val.toNat < 2 ^ 64 := by
  have := val.toNat_lt
  omega

theorem uint16_lt (val : UInt16) : val.toNat < 2 ^ 64 := by
  have := val.toNat_lt
  omega

theorem uint32_lt (val : UInt32) : val.toNat < 2 ^ 64 := by
  have := val.toNat_lt
  omega

theorem readPortIdentity_back {val : PortIdentity}
    (h : findMember obj (txt key) = some (portIdentityDoc val).value) :
    readPortIdentity obj key = some val := by
  have hnames : [txt "clockIdentity", txt "portNumber"].Nodup := by decide
  have hmember := @findMember_membersValue [("clockIdentity", .str val.clockIdentity.str),
    ("portNumber", uintDoc val.portNumber.toNat)] hnames
  rw [readPortIdentity, procPortIdentity, getObj_back h]
  simp only [procClockIdentity_back (hmember List.mem_cons_self),
    getUint_back (uint16_lt _) (hmember (List.mem_cons_of_mem _ List.mem_cons_self)), uint16_back]

theorem procPortAddress_back {val : PortAddress} (hreg : val.Regular) :
    objectElement procPortAddress (portAddressDoc val).value = some val := by
  have hnames : [txt "networkProtocol", txt "addressField"].Nodup := by decide
  have hmember := @findMember_membersValue [("networkProtocol", .str (netProt2str val.networkProtocol)),
    ("addressField", .str (Binary.toId val.addressField))] hnames
  have hprotocol := procEnum_back networkProtocols_apart netProt2str_self hreg.networkProtocol
    (hmember List.mem_cons_self)
  have haddress := @procBinary_back _ _ (val.addressField, val.addressLength) hreg.addressField
    hreg.addressLength (hmember (List.mem_cons_of_mem _ List.mem_cons_self))
  rw [objectElement, portAddressDoc, Doc.value, Value.getObj, Option.bind_some, procPortAddress]
  rw [networkProtocols] at hprotocol
  rw [hprotocol, haddress]
  rfl

theorem procClockQuality_back {val : ClockQuality} (hreg : val.clockAccuracy ∈ clockAccuracies) :
    objectElement procClockQuality (clockQualityDoc val).value = some val := by
  have hnames : [txt "clockClass", txt "clockAccuracy", txt "offsetScaledLogVariance"].Nodup := by
    decide
  have hmember := @findMember_membersValue [("clockClass", uintDoc val.clockClass.toNat),
    ("clockAccuracy", clockAccuracyDoc val.clockAccuracy),
    ("offsetScaledLogVariance", uintDoc val.offsetScaledLogVariance.toNat)] hnames
  have hclass := getUint_back (uint8_lt _) (hmember List.mem_cons_self)
  have haccuracy := procClockAccuracy_back hreg (hmember (List.mem_cons_of_mem _ List.mem_cons_self))
  have hvariance := getUint_back (uint16_lt _)
    (hmember (List.mem_cons_of_mem _ (List.mem_cons_of_mem _ List.mem_cons_self)))
  rw [objectElement, clockQualityDoc, Doc.value, Value.getObj, Option.bind_some, procClockQuality, hclass,
    haccuracy, hvariance]
  simp only [Option.bind_some, Option.map_some, uint8_back, uint16_back]

theorem procAcceptableMaster_back (val : AcceptableMaster) :
    objectElement procAcceptableMaster (acceptableMasterDoc val).value = some val := by
  have hnames : [txt "acceptablePortIdentity", txt "alternatePriority1"].Nodup := by decide
  have hmember := @findMember_membersValue [("acceptablePortIdentity", portIdentityDoc val.acceptablePortIdentity),
    ("alternatePriority1", uintDoc val.alternatePriority1.toNat)] hnames
  have hport := readPortIdentity_back (hmember List.mem_cons_self)
  have hpriority := getUint_back (uint8_lt _) (hmember (List.mem_cons_of_mem _ List.mem_cons_self))
  rw [objectElement, acceptableMasterDoc, Doc.value, Value.getObj, Option.bind_some, procAcceptableMaster,
    hport, hpriority]
  simp only [Option.bind_some, Option.map_some, uint8_back]

theorem procFaultRecord_back (floatTime : Text → Option Timestamp) (mem : FaultRecord) {val : FaultRecord}
    (hreg : val.Regular) (hfit : SecondsFit val.faultTime) :
    objectElement (procFaultRecord floatTime mem) (faultRecordDoc val).value = some (readFaultRecord mem val) := by
  have hnames : [txt "faultRecordLength", txt "faultTime", txt "severityCode", txt "faultName",
      txt "faultValue", txt "faultDescription"].Nodup := by
    decide
  have hmember := @findMember_membersValue [("faultRecordLength", uintDoc val.faultRecordLength.toNat),
    ("faultTime", timestampDoc val.faultTime), ("severityCode", .str (faultRec2str val.severityCode)),
    ("faultName", .str val.faultName.textField), ("faultValue", .str val.faultValue.textField),
    ("faultDescription", .str val.faultDescription.textField)] hnames
  have hlength := getUint_back (uint16_lt _) (@hmember "faultRecordLength" (uintDoc val.faultRecordLength.toNat) (by simp))
  have htime := procTimestamp_back floatTime hreg.faultTime hfit (@hmember "faultTime" _ (by simp))
  have hcode := procEnum_back severityCodes_apart faultRec2str_self hreg.severityCode
    (@hmember "severityCode" _ (by simp))
  have hname := procPTPText_back hreg.faultName (@hmember "faultName" _ (by simp)) mem.faultName
  have hvalue := procPTPText_back hreg.faultValue (@hmember "faultValue" _ (by simp)) mem.faultValue
  have hdescription := procPTPText_back hreg.faultDescription (@hmember "faultDescription" _ (by simp))
    mem.faultDescription
  rw [severityCodes] at hcode
  rw [objectElement, faultRecordDoc, Doc.value, Value.getObj, Option.bind_some, procFaultRecord, hlength,
    htime, hcode, hname, hvalue, hdescription]
  simp only [Option.bind_some, Option.map_some, uint16_back]
  rfl

theorem procLinuxptpUnicastMaster_back {val : LinuxptpUnicastMaster} (hreg : val.Regular) :
    objectElement procLinuxptpUnicastMaster (linuxptpUnicastMasterDoc val).value = some val := by
  have hnames : [txt "portIdentity", txt "clockQuality", txt "selected", txt "portState", txt "priority1",
      txt "priority2", txt "portAddress"].Nodup := by
    decide
  have hmember := @findMember_membersValue [("portIdentity", portIdentityDoc val.portIdentity),
    ("clockQuality", clockQualityDoc val.clockQuality), ("selected", .bool (val.selected != 0)),
    ("portState", .str (us2str val.portState)), ("priority1", uintDoc val.priority1.toNat),
    ("priority2", uintDoc val.priority2.toNat), ("portAddress", portAddressDoc val.portAddress)] hnames
  have hport := readPortIdentity_back (@hmember "portIdentity" (portIdentityDoc val.portIdentity) (by simp))
  have hquality := procClockQuality_back hreg.clockQuality
  have hselected := getVal_back (@hmember "selected" (.bool (val.selected != 0)) (by simp)) rfl
  have hbool : (if (val.selected != 0) = true then (1 : UInt64) else 0).toUInt8 = val.selected := by
    rcases hreg.selected with h | h
    · rw [h]
      rfl
    · rw [h]
      rfl
  have hstate := procEnum_back linuxptpUnicastStates_apart us2str_self hreg.portState
    (@hmember "portState" _ (by simp))
  have hpriority1 := getUint_back (uint8_lt _) (@hmember "priority1" (uintDoc val.priority1.toNat) (by simp))
  have hpriority2 := getUint_back (uint8_lt _) (@hmember "priority2" (uintDoc val.priority2.toNat) (by simp))
  have haddress := procPortAddress_back hreg.portAddress
  rw [linuxptpUnicastStates] at hstate
  rw [objectElement, linuxptpUnicastMasterDoc, Doc.value, Value.getObj, Option.bind_some,
    procLinuxptpUnicastMaster, hport, hstate, hpriority1, hpriority2, getUint, hselected,
    getObj_bind (@hmember "clockQuality" (clockQualityDoc val.clockQuality) (by simp)), hquality,
    getObj_bind (@hmember "portAddress" (portAddressDoc val.portAddress) (by simp)), haddress]
  simp only [Doc.value, Value.getUint64, Option.bind_some, Option.map_some, uint8_back, if_true, hbool]

/-! ## Arrays -/

theorem procElements_back {α : Type} {record : Nat → Value → Option α} {doc : α → Doc} {back : Nat → α → α}
    {val : List α} (h : ∀ i, ∀ rec ∈ val, record i (doc rec).value = some (back i rec)) (cur : List α) :
    procElements record cur (elementsValue (val.map doc)) =
      some (cur ++ val.mapIdx fun i rec => back (cur.length + i) rec) := by
  induction val generalizing cur with
  | nil => rw [List.map_nil, List.mapIdx_nil, List.append_nil, elementsValue, procElements]
  | cons rec val ih =>
      rw [List.map_cons, elementsValue, procElements, h _ rec List.mem_cons_self, Option.bind_some,
        ih fun i r hr => h i r (List.mem_cons_of_mem rec hr), List.mapIdx_cons, List.append_assoc]
      simp only [List.length_append, List.length_singleton, Nat.add_zero, List.singleton_append, Nat.add_assoc,
        Nat.add_comm 1]

theorem procArray_back {α : Type} {record : Nat → Value → Option α} {doc : α → Doc} {back : Nat → α → α}
    {val : List α} (hrecord : ∀ i, ∀ rec ∈ val, record i (doc rec).value = some (back i rec))
    (h : findMember obj (txt key) = some (Doc.arr (val.map doc)).value) (cur : List α) :
    procArray record obj key cur = some (cur ++ val.mapIdx fun i rec => back (cur.length + i) rec) := by
  rw [procArray, getArr_back h]
  exact procElements_back hrecord cur

/-- Records that come back as they are. -/
theorem procArray_self {α : Type} {record : Value → Option α} {doc : α → Doc} {val : List α}
    (hrecord : ∀ rec ∈ val, record (doc rec).value = some rec)
    (h : findMember obj (txt key) = some (Doc.arr (val.map doc)).value) (cur : List α) :
    procArray (fun _ => record) obj key cur = some (cur ++ val) := by
  have hself : val.mapIdx (fun _ rec => rec) = val := List.mapIdx_eq_iff.2 fun i => by simp
  have hall := @procArray_back obj key α (fun _ => record) doc (fun _ rec => rec) val (fun _ => hrecord) h cur
  rwa [hself] at hall

theorem clockIdentityElement_back (val : ClockIdentity) :
    clockIdentityElement (Doc.str val.str).value = some val := by
  rw [Doc.value, strVal_isSelf (clockIdentityStr_self val)]
  exact clockIdentityOf_str val

/-- **Every overload reads what the other one printed.** -/
theorem procField_back (floatTime : Text → Option Timestamp) (mem : NewMem) {type : ProcType}
    {val : type.Val} (hreg : type.Regular val) (hfit : type.Fits val)
    (h : findMember obj (txt key) = some (type.doc val).value) (cur : type.Val) :
    procField floatTime mem obj key type cur = some (type.back mem val cur) := by
  -- numbers come back by their digits, names by their tables, structures member by member
  cases type with
  | uint8 => rw [procField, getUint_back (uint8_lt val) h, Option.map_some, uint8_back]; rfl
  | uint16 => rw [procField, getUint_back (uint16_lt val) h, Option.map_some, uint16_back]; rfl
  | uint32 => rw [procField, getUint_back (uint32_lt val) h, Option.map_some, uint32_back]; rfl
  | uint64 => rw [procField, getUint_back val.toNat_lt h, UInt64.ofNat_toNat]; rfl
  | int8 =>
      have hlow := val.le_toInt
      have hhigh := val.toInt_lt
      rw [procField, getInt_back (by omega) (by omega) h, Option.map_some, Int64.toInt8_ofInt, Int8.ofInt_toInt]
      rfl
  | int16 =>
      have hlow := val.le_toInt
      have hhigh := val.toInt_lt
      rw [procField, getInt_back (by omega) (by omega) h, Option.map_some, Int64.toInt16_ofInt, Int16.ofInt_toInt]
      rfl
  | int32 =>
      have hlow := val.le_toInt
      have hhigh := val.toInt_lt
      rw [procField, getInt_back (by omega) (by omega) h, Option.map_some, Int64.toInt32_ofInt, Int32.ofInt_toInt]
      rfl
  | int64 => rw [procField, getInt_back val.le_toInt val.toInt_lt h, Int64.ofInt_toInt]; rfl
  | timeInterval =>
      rw [procField, getInt_back val.scaledNanoseconds.le_toInt val.scaledNanoseconds.toInt_lt h,
        Option.map_some, Int64.ofInt_toInt]
      rfl
  | networkProtocol => exact procEnum_back networkProtocols_apart netProt2str_self hreg h
  | clockAccuracy => exact procClockAccuracy_back hreg h
  | faultRecord => exact procEnum_back severityCodes_apart faultRec2str_self hreg h
  | timeSource => exact procFind_back (findTimeSrc_back hreg cur) (timeSrc2str_self val) h
  | portState => exact procFind_back (findPortState_back hreg cur) (portState2str_self val) h
  | delayMechanism => exact procFind_back (findDelayMech_back hreg cur) (delayMech2str_self val) h
  | linuxptpTimeStamp => exact procEnum_back linuxptpTimeStamps_apart ts2str_self hreg h
  | linuxptpPowerProfileVersion => exact procEnum_back linuxptpPowerProfileVersions_apart pwr2str_self hreg h
  | linuxptpUnicastState => exact procEnum_back linuxptpUnicastStates_apart us2str_self hreg h
  | timestamp => exact procTimestamp_back floatTime hreg hfit h
  | clockIdentity => exact procClockIdentity_back h
  | portIdentity => exact readPortIdentity_back h
  | portAddress =>
      rw [procField, getObj_bind h]
      exact procPortAddress_back hreg
  | clockQuality =>
      rw [procField, getObj_bind h]
      exact procClockQuality_back hreg
  | ptpText => exact procPTPText_back hreg h cur
  | binary => exact procBinary_back hreg.1 hreg.2 h
  | octets len => exact procOctets_back hreg h
  | flag mask => exact procFlag_back h cur
  | clockIdentities => exact procArray_self (fun rec _ => clockIdentityElement_back rec) h cur
  | portAddresses => exact procArray_self (fun rec hrec => procPortAddress_back (hreg rec hrec)) h cur
  | faultRecords =>
      exact procArray_back (fun i rec hrec =>
        procFaultRecord_back floatTime (mem.faultRecord i) (hreg rec hrec) (hfit rec hrec)) h cur
  | acceptableMasters => exact procArray_self (fun rec _ => procAcceptableMaster_back rec) h cur
  | linuxptpUnicastMasters =>
      exact procArray_self (fun rec hrec => procLinuxptpUnicastMaster_back (hreg rec hrec)) h cur

end JsonProcFrom

end Members

end Json

end PtpMgmt
