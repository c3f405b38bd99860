import PtpMgmt.Json.Fields
import PtpMgmt.Pmc.Keys

set_option autoImplicit false

/-! # The builders of TLVs (`MsgBuild` of `pmc_dump.cpp`)

For every TLV that may be sent, the keys of its command line and what becomes of their values. The TLV is new
and its plain fields hold anything. The names of the keys of a builder differ also without their case, so it does
not matter in which order the map of the keys has them. -/

namespace PtpMgmt.MsgBuild

open Json

/-! ## Ranges -/

def int8Min : Int := -0x80
def int8Max : Int := 0x7f
def uint8Max : Int := 0xff
def int16Min : Int := -0x8000
def int16Max : Int := 0x7fff
def uint16Max : Int := 0xffff
def int32Min : Int := -0x80000000
def int32Max : Int := 0x7fffffff
def uint32Max : Int := 0xffffffff
def int48Min : Int := -0x800000000000
def int48Max : Int := 0x7fffffffffff
def uint48Max : Int := 0xffffffffffff

/-! ## Kinds of keys -/

/-- An integer that may be left out: its default and its range. -/
def intKey (name : String) (default min max : Int) : Text × Key := (txt name, { Key.init with default, min, max })

/-- An integer that is required. -/
def reqKey (name : String) (min max : Int) : Text × Key := (txt name, { Key.init with min, max, req := true })

/-- An integer that is required and is read with base 16. -/
def hexKey (name : String) (max : Int) : Text × Key := (txt name, { Key.init with base := 16, max, req := true })

/-- `useFlag`. -/
def flagKey (name : String) : Text × Key := (txt name, { Key.init with flag := true })

/-- A key for a text. -/
def strKey (name : String) (req : Bool) : Text × Key := (txt name, { Key.init with canStr := true, req })

/-- A key with a parser of its own. -/
def handleKey (name : String) (handle : Handle) (req : Bool) : Text × Key :=
  (txt name, { Key.init with handle := some handle, req })

/-- `addFlag`. -/
def addFlag (keys : Keys) (name : String) (mask flags : UInt8) : UInt8 :=
  if keys.num name ≠ 0 then flags ||| mask else flags

/-- A method of `MsgBuild`: the keys, and what it does to the TLV once they are parsed. Nothing is `build_fail`. -/
structure Builder (id : MngId) where
  keys : Keys
  set : Keys → Tlv id → Option (Tlv id)

/-! ## The builders -/

def userDescriptionB : Builder .userDescription where
  keys := [strKey "userDescription" false]
  set keys d := some { d with userDescription := { d.userDescription with
    textField := (keys.get "userDescription").strVal } }

def initializeB : Builder .initializeTlv where
  keys := [intKey "initializationKey" 0 0 uint16Max]
  set keys d := some { d with initializationKey := .ofInt (keys.num "initializationKey") }

def priority1B : Builder .priority1 where
  keys := [intKey "priority1" 128 0 255]
  set keys d := some { d with priority1 := .ofInt (keys.num "priority1") }

def priority2B : Builder .priority2 where
  keys := [intKey "priority2" 128 0 255]
  set keys d := some { d with priority2 := .ofInt (keys.num "priority2") }

def domainB : Builder .domain where
  keys := [intKey "domainNumber" 0 0 uint8Max]
  set keys d := some { d with domainNumber := .ofInt (keys.num "domainNumber") }

def slaveOnlyB : Builder .slaveOnly where
  keys := [flagKey "slaveOnly"]
  set keys d := some { d with flags := .ofInt (keys.num "slaveOnly") }

def logAnnounceIntervalB : Builder .logAnnounceInterval where
  keys := [intKey "logAnnounceInterval" 1 0 int8Max]
  set keys d := some { d with logAnnounceInterval := .ofInt (keys.num "logAnnounceInterval") }

def announceReceiptTimeoutB : Builder .announceReceiptTimeout where
  keys := [intKey "announceReceiptTimeout" 3 0 uint8Max]
  set keys d := some { d with announceReceiptTimeout := .ofInt (keys.num "announceReceiptTimeout") }

def logSyncIntervalB : Builder .logSyncInterval where
  keys := [intKey "logSyncInterval" 0 0 int8Max]
  set keys d := some { d with logSyncInterval := if keys.num "logSyncInterval" > 0 then 1 else 0 }

def versionNumberB : Builder .versionNumber where
  keys := [intKey "versionNumber" 2 1 0xf, intKey "minor" 0 0 0xf]
  set keys d := some { d with
    versionNumber := UInt8.ofInt (keys.num "minor") <<< 4 ||| UInt8.ofInt (keys.num "versionNumber") }

def timeB : Builder .time where
  keys := [reqKey "secondsField" 0 uint48Max, intKey "nanosecondsField" 0 0 uint32Max]
  set keys d := some { d with currentTime := { d.currentTime with
    secondsField := .ofInt (keys.num "secondsField")
    nanosecondsField := .ofInt (keys.num "nanosecondsField") } }

def clockAccuracyB : Builder .clockAccuracy where
  keys := [intKey "clockAccuracy" 0xfe 0 0xfe]
  set keys d := some { d with clockAccuracy := .ofInt (keys.num "clockAccuracy") }

def utcPropertiesB : Builder .utcProperties where
  keys := [reqKey "currentUtcOffset" int16Min int16Max, flagKey "leap61", flagKey "leap59",
    flagKey "currentUtcOffsetValid"]
  set keys d :=
    let flags := addFlag keys "leap61" fLi61 0
    let flags := addFlag keys "leap59" fLi59 flags
    let flags := addFlag keys "currentUtcOffsetValid" fUtcv flags
    some { d with currentUtcOffset := .ofInt (keys.num "currentUtcOffset"), flags }

def traceabilityPropertiesB : Builder .traceabilityProperties where
  keys := [flagKey "timeTraceable", flagKey "frequencyTraceable"]
  set keys d :=
    let flags := addFlag keys "timeTraceable" fTtra 0
    let flags := addFlag keys "frequencyTraceable" fFtra flags
    some { d with flags }

def timescalePropertiesB : Builder .timescaleProperties where
  keys := [flagKey "ptpTimescale"]
  set keys d :=
    let flags := addFlag keys "ptpTimescale" fPtp 0
    some { d with flags }

def unicastNegotiationEnableB : Builder .unicastNegotiationEnable where
  keys := [flagKey "unicastNegotiationPortDS"]
  set keys d := some { d with flags := .ofInt (keys.num "unicastNegotiationPortDS") }

def pathTraceEnableB : Builder .pathTraceEnable where
  keys := [flagKey "pathTraceDS"]
  set keys d := some { d with flags := .ofInt (keys.num "pathTraceDS") }

def acceptableMasterTableEnabledB : Builder .acceptableMasterTableEnabled where
  keys := [flagKey "acceptableMasterPortDS"]
  set keys d := some { d with flags := .ofInt (keys.num "acceptableMasterPortDS") }

def alternateMasterB : Builder .alternateMaster where
  keys := [flagKey "transmitAlternateMulticastSync", intKey "logAlternateMulticastSyncInterval" 0 int8Min int8Max,
    intKey "numberOfAlternateMasters" 0 0 uint8Max]
  set keys d := some { d with
    flags := .ofInt (keys.num "transmitAlternateMulticastSync")
    logAlternateMulticastSyncInterval := .ofInt (keys.num "logAlternateMulticastSyncInterval")
    numberOfAlternateMasters := .ofInt (keys.num "numberOfAlternateMasters") }

def alternateTimeOffsetEnableB : Builder .alternateTimeOffsetEnable where
  keys := [flagKey "alternateTimescaleOffsetsDS"]
  set keys d := some { d with flags := .ofInt (keys.num "alternateTimescaleOffsetsDS") }

def alternateTimeOffsetNameB : Builder .alternateTimeOffsetName where
  keys := [reqKey "keyField" 0 uint8Max, strKey "displayName" true]
  set keys d := some { d with
    keyField := .ofInt (keys.num "keyField")
    displayName := { d.displayName with textField := (keys.get "displayName").strVal } }

def alternateTimeOffsetPropertiesB : Builder .alternateTimeOffsetProperties where
  keys := [intKey "keyField" 0 0 uint8Max, intKey "currentOffset" 0 int32Min int32Max,
    intKey "jumpSeconds" 0 int32Min int32Max, intKey "timeOfNextJump" 0 0 uint48Max]
  set keys d := some { d with
    keyField := .ofInt (keys.num "keyField")
    currentOffset := .ofInt (keys.num "currentOffset")
    jumpSeconds := .ofInt (keys.num "jumpSeconds")
    timeOfNextJump := .ofInt (keys.num "timeOfNextJump") }

def logMinPdelayReqIntervalB : Builder .logMinPdelayReqInterval where
  keys := [intKey "logMinPdelayReqInterval" 0 0 int8Max]
  set keys d := some { d with logMinPdelayReqInterval := .ofInt (keys.num "logMinPdelayReqInterval") }

def primaryDomainB : Builder .primaryDomain where
  keys := [intKey "primaryDomain" 0 0 uint8Max]
  set keys d := some { d with primaryDomain := .ofInt (keys.num "primaryDomain") }

def delayMechanismB : Builder .delayMechanism where
  keys := [handleKey "delayMechanism" .getDelayMech false]
  set keys d := some { d with delayMechanism := .ofInt (keys.num "delayMechanism") }

def externalPortConfigurationEnabledB : Builder .externalPortConfigurationEnabled where
  keys := [flagKey "externalPortConfiguration"]
  set keys d := some { d with flags := .ofInt (keys.num "externalPortConfiguration") }

def masterOnlyB : Builder .masterOnly where
  keys := [flagKey "masterOnly"]
  set keys d := some { d with flags := .ofInt (keys.num "masterOnly") }

def holdoverUpgradeEnableB : Builder .holdoverUpgradeEnable where
  keys := [flagKey "holdoverUpgradeDS"]
  set keys d := some { d with flags := .ofInt (keys.num "holdoverUpgradeDS") }

def extPortConfigPortDataSetB : Builder .extPortConfigPortDataSet where
  keys := [flagKey "acceptableMasterPortDS", handleKey "desiredState" .getPortState false]
  set keys d := some { d with
    flags := .ofInt (keys.num "acceptableMasterPortDS")
    desiredState := .ofInt (keys.num "desiredState") }

def grandmasterSettingsNpB : Builder .grandmasterSettingsNp where
  keys := [reqKey "clockClass" 0 uint8Max, hexKey "clockAccuracy" uint8Max,
    hexKey "offsetScaledLogVariance" uint16Max, reqKey "currentUtcOffset" int16Min int16Max, flagKey "leap61",
    flagKey "leap59", flagKey "currentUtcOffsetValid", flagKey "ptpTimescale", flagKey "timeTraceable",
    flagKey "frequencyTraceable", handleKey "timeSource" .getTimeSource true]
  set keys d :=
    let flags := addFlag keys "leap61" fLi61 0
    let flags := addFlag keys "leap59" fLi59 flags
    let flags := addFlag keys "currentUtcOffsetValid" fUtcv flags
    let flags := addFlag keys "ptpTimescale" fPtp flags
    let flags := addFlag keys "timeTraceable" fTtra flags
    let flags := addFlag keys "frequencyTraceable" fFtra flags
    some { d with
      clockQuality := { d.clockQuality with
        clockClass := .ofInt (keys.num "clockClass")
        clockAccuracy := .ofInt (keys.num "clockAccuracy")
        offsetScaledLogVariance := .ofInt (keys.num "offsetScaledLogVariance") }
      currentUtcOffset := .ofInt (keys.num "currentUtcOffset")
      timeSource := .ofInt (keys.num "timeSource")
      flags }

def portDataSetNpB : Builder .portDataSetNp where
  keys := [reqKey "neighborPropDelayThresh" 0 uint32Max, reqKey "asCapable" 0 int32Max]
  set keys d := some { d with
    neighborPropDelayThresh := .ofInt (keys.num "neighborPropDelayThresh")
    asCapable := .ofInt (keys.num "asCapable") }

/-- `setEvent`, of an event that there is. -/
def setEvent (d : SubscribeEventsNp) (event : Fin 512) : SubscribeEventsNp :=
  let (quot, rem) := divEvent event
  { d with bitmask := d.bitmask.set quot (d.bitmask.get quot ||| rem) }

/-- An event whose flag is on. -/
def addEvent (keys : Keys) (name : String) (event : Fin 512) (d : SubscribeEventsNp) : SubscribeEventsNp :=
  if keys.num name ≠ 0 then setEvent d event else d

def subscribeEventsNpB : Builder .subscribeEventsNp where
  keys := [reqKey "duration" 0 uint16Max, flagKey "NOTIFY_PORT_STATE", flagKey "NOTIFY_TIME_SYNC",
    flagKey "NOTIFY_PARENT_DATA_SET", flagKey "NOTIFY_CMLDS"]
  set keys d :=
    let d := { d with bitmask := .ofList 64 [] }
    let d := addEvent keys "NOTIFY_PORT_STATE" notifyPortState d
    let d := addEvent keys "NOTIFY_TIME_SYNC" notifyTimeSync d
    let d := addEvent keys "NOTIFY_PARENT_DATA_SET" notifyParentDataSet d
    let d := addEvent keys "NOTIFY_CMLDS" notifyCmlds d
    let d := { d with duration := .ofInt (keys.num "duration") }
    if keys.length < 2 then none else some d

def synchronizationUncertainNpB : Builder .synchronizationUncertainNp where
  keys := [reqKey "duration" 0 uint8Max]
  set keys d := some { d with val := .ofInt (keys.num "duration") }

def powerProfileSettingsNpB : Builder .powerProfileSettingsNp where
  keys := [handleKey "version" .getPwrVer true, hexKey "grandmasterID" uint16Max,
    reqKey "grandmasterTimeInaccuracy" 0 uint32Max, reqKey "networkTimeInaccuracy" 0 uint32Max,
    reqKey "totalTimeInaccuracy" 0 uint32Max]
  set keys d := some { d with
    version := .ofInt (keys.num "version")
    grandmasterID := .ofInt (keys.num "grandmasterID")
    grandmasterTimeInaccuracy := .ofInt (keys.num "grandmasterTimeInaccuracy")
    networkTimeInaccuracy := .ofInt (keys.num "networkTimeInaccuracy")
    totalTimeInaccuracy := .ofInt (keys.num "totalTimeInaccuracy") }

/-- `num << 16`. -/
def scaled (num : Int) : Int64 := .ofInt (num * 2 ^ 16)

def portCorrectionsNpB : Builder .portCorrectionsNp where
  keys := [reqKey "egressLatency" int48Min int48Max, reqKey "ingressLatency" int48Min int48Max,
    reqKey "delayAsymmetry" int48Min int48Max]
  set keys d := some { d with
    egressLatency := scaled (keys.num "egressLatency")
    ingressLatency := scaled (keys.num "ingressLatency")
    delayAsymmetry := scaled (keys.num "delayAsymmetry") }

/-- `Binary::copy` to an identity. -/
def copyTo (b : Binary) (id : ClockIdentity) : ClockIdentity := ⟨.ofList 8 (b ++ id.v.toList.drop b.length)⟩

def externalGrandmasterPropertiesNpB : Builder .externalGrandmasterPropertiesNp where
  keys := [handleKey "gmIdentity" .isClockIdentity true, reqKey "stepsRemoved" 0 uint16Max]
  set keys d :=
    match Binary.fromHex (keys.get "gmIdentity").strVal with
    | none => none
    | some gmIdentity => some { d with
        gmIdentity := copyTo gmIdentity d.gmIdentity
        stepsRemoved := .ofInt (keys.num "stepsRemoved") }

/-- The method of an id, where `MsgBuild` has one. -/
def builder : (id : MngId) → Option (Builder id)
  | .userDescription => some userDescriptionB
  | .initializeTlv => some initializeB
  | .priority1 => some priority1B
  | .priority2 => some priority2B
  | .domain => some domainB
  | .slaveOnly => some slaveOnlyB
  | .logAnnounceInterval => some logAnnounceIntervalB
  | .announceReceiptTimeout => some announceReceiptTimeoutB
  | .logSyncInterval => some logSyncIntervalB
  | .versionNumber => some versionNumberB
  | .time => some timeB
  | .clockAccuracy => some clockAccuracyB
  | .utcProperties => some utcPropertiesB
  | .traceabilityProperties => some traceabilityPropertiesB
  | .timescaleProperties => some timescalePropertiesB
  | .unicastNegotiationEnable => some unicastNegotiationEnableB
  | .pathTraceEnable => some pathTraceEnableB
  | .acceptableMasterTableEnabled => some acceptableMasterTableEnabledB
  | .alternateMaster => some alternateMasterB
  | .alternateTimeOffsetEnable => some alternateTimeOffsetEnableB
  | .alternateTimeOffsetName => some alternateTimeOffsetNameB
  | .alternateTimeOffsetProperties => some alternateTimeOffsetPropertiesB
  | .logMinPdelayReqInterval => some logMinPdelayReqIntervalB
  | .primaryDomain => some primaryDomainB
  | .delayMechanism => some delayMechanismB
  | .externalPortConfigurationEnabled => some externalPortConfigurationEnabledB
  | .masterOnly => some masterOnlyB
  | .holdoverUpgradeEnable => some holdoverUpgradeEnableB
  | .extPortConfigPortDataSet => some extPortConfigPortDataSetB
  | .grandmasterSettingsNp => some grandmasterSettingsNpB
  | .portDataSetNp => some portDataSetNpB
  | .subscribeEventsNp => some subscribeEventsNpB
  | .synchronizationUncertainNp => some synchronizationUncertainNpB
  | .powerProfileSettingsNp => some powerProfileSettingsNpB
  | .portCorrectionsNp => some portCorrectionsNpB
  | .externalGrandmasterPropertiesNp => some externalGrandmasterPropertiesNpB
  | _ => none

/-- The call of a method: on a new TLV, with the rest of the line. -/
def Builder.build {id : MngId} (b : Builder id) (save : Text) (d : Tlv id) : Option (Option (Tlv id)) :=
  (parseKeys b.keys save).map fun keys => keys.bind fun keys => b.set keys d

end PtpMgmt.MsgBuild
