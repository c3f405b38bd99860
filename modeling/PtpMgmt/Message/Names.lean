import PtpMgmt.Json.Parser
import PtpMgmt.MngIds

set_option autoImplicit false

/-! # Names of enumerators (`msg.cpp`)

What the `2str` functions of `Message` print, also for values that no enumerator names, and the functions
that look an enumerator up by its name. -/

namespace PtpMgmt

open Json

/-! ## Names -/

def type2str : MsgType → Text
  | 0x0 => txt "Sync"
  | 0x1 => txt "Delay_Req"
  | 0x2 => txt "Pdelay_Req"
  | 0x3 => txt "Pdelay_Resp"
  | 0x8 => txt "Follow_Up"
  | 0x9 => txt "Delay_Resp"
  | 0xa => txt "Pdelay_Resp_Follow_Up"
  | 0xb => txt "Announce"
  | 0xc => txt "Signaling"
  | 0xd => txt "Management"
  | _ => txt "unknown message type"

def tlv2str : TlvType → Text
  | .management => txt "MANAGEMENT"
  | .managementErrorStatus => txt "MANAGEMENT_ERROR_STATUS"
  | .organizationExtension => txt "ORGANIZATION_EXTENSION"
  | .requestUnicastTransmission => txt "REQUEST_UNICAST_TRANSMISSION"
  | .grantUnicastTransmission => txt "GRANT_UNICAST_TRANSMISSION"
  | .cancelUnicastTransmission => txt "CANCEL_UNICAST_TRANSMISSION"
  | .acknowledgeCancelUnicastTransmission => txt "ACKNOWLEDGE_CANCEL_UNICAST_TRANSMISSION"
  | .pathTrace => txt "PATH_TRACE"
  | .alternateTimeOffsetIndicator => txt "ALTERNATE_TIME_OFFSET_INDICATOR"
  | .organizationExtensionPropagate => txt "ORGANIZATION_EXTENSION_PROPAGATE"
  | .enhancedAccuracyMetrics => txt "ENHANCED_ACCURACY_METRICS"
  | .organizationExtensionDoNotPropagate => txt "ORGANIZATION_EXTENSION_DO_NOT_PROPAGATE"
  | .l1Sync => txt "L1_SYNC"
  | .portCommunicationAvailability => txt "PORT_COMMUNICATION_AVAILABILITY"
  | .protocolAddress => txt "PROTOCOL_ADDRESS"
  | .slaveRxSyncTimingData => txt "SLAVE_RX_SYNC_TIMING_DATA"
  | .slaveRxSyncComputedData => txt "SLAVE_RX_SYNC_COMPUTED_DATA"
  | .slaveTxEventTimestamps => txt "SLAVE_TX_EVENT_TIMESTAMPS"
  | .cumulativeRateRatio => txt "CUMULATIVE_RATE_RATIO"
  | .authentication => txt "AUTHENTICATION"
  | .slaveDelayTimingDataNp => txt "SLAVE_DELAY_TIMING_DATA_NP"
  | .tlvPad => txt "PAD"
  | .other _ => txt "unknown TLV"

def act2str : ActionField → Text
  | .get => txt "GET"
  | .set => txt "SET"
  | .response => txt "RESPONSE"
  | .command => txt "COMMAND"
  | .acknowledge => txt "ACKNOWLEDGE"

/-- The name of an id of the table. -/
def MngId.str : MngId → Text
  | .nullPtpManagement => txt "NULL_PTP_MANAGEMENT"
  | .clockDescription => txt "CLOCK_DESCRIPTION"
  | .userDescription => txt "USER_DESCRIPTION"
  | .saveInNonVolatileStorage => txt "SAVE_IN_NON_VOLATILE_STORAGE"
  | .resetNonVolatileStorage => txt "RESET_NON_VOLATILE_STORAGE"
  | .initializeTlv => txt "INITIALIZE"
  | .faultLog => txt "FAULT_LOG"
  | .faultLogReset => txt "FAULT_LOG_RESET"
  | .defaultDataSet => txt "DEFAULT_DATA_SET"
  | .currentDataSet => txt "CURRENT_DATA_SET"
  | .parentDataSet => txt "PARENT_DATA_SET"
  | .timePropertiesDataSet => txt "TIME_PROPERTIES_DATA_SET"
  | .portDataSet => txt "PORT_DATA_SET"
  | .priority1 => txt "PRIORITY1"
  | .priority2 => txt "PRIORITY2"
  | .domain => txt "DOMAIN"
  | .slaveOnly => txt "SLAVE_ONLY"
  | .logAnnounceInterval => txt "LOG_ANNOUNCE_INTERVAL"
  | .announceReceiptTimeout => txt "ANNOUNCE_RECEIPT_TIMEOUT"
  | .logSyncInterval => txt "LOG_SYNC_INTERVAL"
  | .versionNumber => txt "VERSION_NUMBER"
  | .enablePort => txt "ENABLE_PORT"
  | .disablePort => txt "DISABLE_PORT"
  | .time => txt "TIME"
  | .clockAccuracy => txt "CLOCK_ACCURACY"
  | .utcProperties => txt "UTC_PROPERTIES"
  | .traceabilityProperties => txt "TRACEABILITY_PROPERTIES"
  | .timescaleProperties => txt "TIMESCALE_PROPERTIES"
  | .unicastNegotiationEnable => txt "UNICAST_NEGOTIATION_ENABLE"
  | .pathTraceList => txt "PATH_TRACE_LIST"
  | .pathTraceEnable => txt "PATH_TRACE_ENABLE"
  | .grandmasterClusterTable => txt "GRANDMASTER_CLUSTER_TABLE"
  | .unicastMasterTable => txt "UNICAST_MASTER_TABLE"
  | .unicastMasterMaxTableSize => txt "UNICAST_MASTER_MAX_TABLE_SIZE"
  | .acceptableMasterTable => txt "ACCEPTABLE_MASTER_TABLE"
  | .acceptableMasterTableEnabled => txt "ACCEPTABLE_MASTER_TABLE_ENABLED"
  | .acceptableMasterMaxTableSize => txt "ACCEPTABLE_MASTER_MAX_TABLE_SIZE"
  | .alternateMaster => txt "ALTERNATE_MASTER"
  | .alternateTimeOffsetEnable => txt "ALTERNATE_TIME_OFFSET_ENABLE"
  | .alternateTimeOffsetName => txt "ALTERNATE_TIME_OFFSET_NAME"
  | .alternateTimeOffsetMaxKey => txt "ALTERNATE_TIME_OFFSET_MAX_KEY"
  | .alternateTimeOffsetProperties => txt "ALTERNATE_TIME_OFFSET_PROPERTIES"
  | .transparentClockPortDataSet => txt "TRANSPARENT_CLOCK_PORT_DATA_SET"
  | .logMinPdelayReqInterval => txt "LOG_MIN_PDELAY_REQ_INTERVAL"
  | .transparentClockDefaultDataSet => txt "TRANSPARENT_CLOCK_DEFAULT_DATA_SET"
  | .primaryDomain => txt "PRIMARY_DOMAIN"
  | .delayMechanism => txt "DELAY_MECHANISM"
  | .externalPortConfigurationEnabled => txt "EXTERNAL_PORT_CONFIGURATION_ENABLED"
  | .masterOnly => txt "MASTER_ONLY"
  | .holdoverUpgradeEnable => txt "HOLDOVER_UPGRADE_ENABLE"
  | .extPortConfigPortDataSet => txt "EXT_PORT_CONFIG_PORT_DATA_SET"
  | .timeStatusNp => txt "TIME_STATUS_NP"
  | .grandmasterSettingsNp => txt "GRANDMASTER_SETTINGS_NP"
  | .portDataSetNp => txt "PORT_DATA_SET_NP"
  | .subscribeEventsNp => txt "SUBSCRIBE_EVENTS_NP"
  | .portPropertiesNp => txt "PORT_PROPERTIES_NP"
  | .portStatsNp => txt "PORT_STATS_NP"
  | .synchronizationUncertainNp => txt "SYNCHRONIZATION_UNCERTAIN_NP"
  | .portServiceStatsNp => txt "PORT_SERVICE_STATS_NP"
  | .unicastMasterTableNp => txt "UNICAST_MASTER_TABLE_NP"
  | .portHwclockNp => txt "PORT_HWCLOCK_NP"
  | .powerProfileSettingsNp => txt "POWER_PROFILE_SETTINGS_NP"
  | .cmldsInfoNp => txt "CMLDS_INFO_NP"
  | .portCorrectionsNp => txt "PORT_CORRECTIONS_NP"
  | .externalGrandmasterPropertiesNp => txt "EXTERNAL_GRANDMASTER_PROPERTIES_NP"

def mng2str : MngVals → Text
  | .mng id => id.str
  | _ => txt "unknown"

def errId2str : ManagementErrorId → Text
  | 0x0001 => txt "RESPONSE_TOO_BIG"
  | 0x0002 => txt "NO_SUCH_ID"
  | 0x0003 => txt "WRONG_LENGTH"
  | 0x0004 => txt "WRONG_VALUE"
  | 0x0005 => txt "NOT_SETABLE"
  | 0x0006 => txt "NOT_SUPPORTED"
  | 0xfffe => txt "GENERAL_ERROR"
  | _ => txt "unknown"

def netProt2str : NetworkProtocol → Text
  | 1 => txt "UDP_IPv4"
  | 2 => txt "UDP_IPv6"
  | 3 => txt "IEEE_802_3"
  | 4 => txt "DeviceNet"
  | 5 => txt "ControlNet"
  | 6 => txt "PROFINET"
  | _ => txt "unknown"

/-- `Accurate_within_1ps`. -/
def accurateWithin1ps : ClockAccuracyE := 0x17

/-- `Accurate_more_10s`. -/
def accurateMore10s : ClockAccuracyE := 0x31

/-- `Accurate_Unknown`. -/
def accurateUnknown : ClockAccuracyE := 0xfe

def clockAcc2str : ClockAccuracyE → Text
  | 0x17 => txt "within_1ps"
  | 0x18 => txt "within_2_5ps"
  | 0x19 => txt "within_10ps"
  | 0x1a => txt "within_25ps"
  | 0x1b => txt "within_100ps"
  | 0x1c => txt "within_250ps"
  | 0x1d => txt "within_1ns"
  | 0x1e => txt "within_2_5ns"
  | 0x1f => txt "within_10ns"
  | 0x20 => txt "within_25ns"
  | 0x21 => txt "within_100ns"
  | 0x22 => txt "within_250ns"
  | 0x23 => txt "within_1us"
  | 0x24 => txt "within_2_5us"
  | 0x25 => txt "within_10us"
  | 0x26 => txt "within_25us"
  | 0x27 => txt "within_100us"
  | 0x28 => txt "within_250us"
  | 0x29 => txt "within_1ms"
  | 0x2a => txt "within_2_5ms"
  | 0x2b => txt "within_10ms"
  | 0x2c => txt "within_25ms"
  | 0x2d => txt "within_100ms"
  | 0x2e => txt "within_250ms"
  | 0x2f => txt "within_1s"
  | 0x30 => txt "within_10s"
  | 0x31 => txt "more_10s"
  | 0xfe => txt "Unknown"
  | val => if val < accurateWithin1ps then txt "Accurate_small_1ps" else txt "Accurate_unknown_val"

def faultRec2str : FaultRecordE → Text
  | 0 => txt "Emergency"
  | 1 => txt "Alert"
  | 2 => txt "Critical"
  | 3 => txt "Error"
  | 4 => txt "Warning"
  | 5 => txt "Notice"
  | 6 => txt "Informational"
  | 7 => txt "Debug"
  | _ => txt "unknown fault record"

def timeSrc2str : TimeSource → Text
  | 0x10 => txt "ATOMIC_CLOCK"
  | 0x20 => txt "GNSS"
  | 0x30 => txt "TERRESTRIAL_RADIO"
  | 0x39 => txt "SERIAL_TIME_CODE"
  | 0x40 => txt "PTP"
  | 0x50 => txt "NTP"
  | 0x60 => txt "HAND_SET"
  | 0x90 => txt "OTHER"
  | 0xa0 => txt "INTERNAL_OSCILLATOR"
  | _ => txt "unknown clock"

def portState2str : PortState → Text
  | 1 => txt "INITIALIZING"
  | 2 => txt "FAULTY"
  | 3 => txt "DISABLED"
  | 4 => txt "LISTENING"
  | 5 => txt "PRE_TIME_TRANSMITTER"
  | 6 => txt "TIME_TRANSMITTER"
  | 7 => txt "PASSIVE"
  | 8 => txt "UNCALIBRATED"
  | 9 => txt "TIME_RECEIVER"
  | _ => txt "unknown state"

def delayMech2str : DelayMechanismE → Text
  | 0 => txt "AUTO"
  | 1 => txt "E2E"
  | 2 => txt "P2P"
  | 0xfe => txt "NO_MECHANISM"
  | 3 => txt "COMMON_P2P"
  | 4 => txt "SPECIAL"
  | _ => txt "unknown"

def smpteLck2str : SMPTEmasterLockingStatus → Text
  | 0 => txt "NOT_IN_USE"
  | 1 => txt "FREE_RUN"
  | 2 => txt "COLD_LOCKING"
  | 3 => txt "WARM_LOCKING"
  | 4 => txt "LOCKED"
  | _ => txt "unknown"

def ts2str : LinuxptpTimeStamp → Text
  | 0 => txt "SOFTWARE"
  | 1 => txt "HARDWARE"
  | 2 => txt "LEGACY_HW"
  | 3 => txt "ONESTEP"
  | 4 => txt "P2P1STEP"
  | _ => txt "unknown"

def pwr2str : LinuxptpPowerProfileVersion → Text
  | 0 => txt "NONE"
  | 1 => txt "2011"
  | 2 => txt "2017"
  | _ => txt "unknown state"

def us2str : LinuxptpUnicastState → Text
  | 0 => txt "WAIT"
  | 1 => txt "HAVE_ANN"
  | 2 => txt "NEED_SYDY"
  | 3 => txt "HAVE_SYDY"
  | _ => txt "???"

/-! ## Lookup -/

/-- `c_str()`, as the C functions see it: up to the first zero. -/
def cStr (str : Text) : Text := str.takeWhile (· ≠ 0)

/-- `tolower`, in the "C" locale. -/
def toLower (c : UInt8) : UInt8 := if chr 'A' ≤ c ∧ c ≤ chr 'Z' then c + 0x20 else c

/-- `strcmp` or `strcasecmp` of the text with a name. -/
def sameName (exact : Bool) (str name : Text) : Bool :=
  if exact then cStr str == name else (cStr str).map toLower == name.map toLower

/-- `strcasestr`. -/
def strcasestr : Text → Text → Bool
  | [], str => (cStr str).isEmpty
  | c :: name, str =>
    ((cStr str).map toLower).isPrefixOf ((c :: name).map toLower) || strcasestr name str

section Find

variable {α : Type} (name : α → Text) (str : Text) (whole : Bool)

/-- The loop of `findMngID` and `findTimeSrc`, over what is left of the enumerators. Apart from a whole
    match a part of the name will do, as long as it is part of one name only. -/
def findLoop (exact : Bool) (find : Nat) (id : α) : List α → Bool × α
  | [] => (find == 1, id)
  | cid :: rest =>
    if sameName whole str (name cid) then (true, cid)
    else if !exact && strcasestr (name cid) str then
      findLoop (exact || decide (find + 1 > 1)) (find + 1) cid rest
    else findLoop exact find id rest

/-- The loop over the enumerators where only a whole match will do. -/
def findName (id : α) : List α → Bool × α
  | [] => (false, id)
  | cid :: rest => if sameName whole str (name cid) then (true, cid) else findName id rest

/-- After a second partial match only a whole one counts. -/
theorem findLoop_settled (find : Nat) (id : α) (ids : List α) :
    findLoop name str whole true find id ids =
      match ids.find? fun c => sameName whole str (name c) with
      | some c => (true, c)
      | none => (find == 1, id) := by
  induction ids with
  | nil => rfl
  | cons cid rest ih =>
    rw [findLoop, List.find?_cons]
    by_cases h : sameName whole str (name cid) = true
    · rw [if_pos h, h]
    · rw [if_neg h, eq_false_of_ne_true h]
      exact ih

end Find

/-- `Message::findMngID`. -/
def findMngID (str : Text) (id : MngId) (exact : Bool) : Bool × MngId :=
  if str = [] then (false, id)
  else if !exact && strcasestr (cStr str) (txt "NULL") then (true, .nullPtpManagement)
  else findLoop MngId.str str exact exact 0 id MngId.all

/-- The values from one enumerator to another, also those that have no name. -/
def enumRange (first last : Nat) : List UInt8 := (List.range' first (last + 1 - first)).map UInt8.ofNat

/-- `Message::findTimeSrc`. -/
def findTimeSrc (str : Text) (type : TimeSource) (exact : Bool) : Bool × TimeSource :=
  if str = [] then (false, type)
  else if sameName exact str (txt "GPS") then (true, 0x20)
  else findLoop timeSrc2str str exact exact 0 type (enumRange 0x10 0xa0)

/-- `Message::findPortState`. The names of the earlier edition of the standard come last. -/
def findPortState (str : Text) (state : PortState) (caseSens : Bool) : Bool × PortState :=
  if str = [] then (false, state)
  else
    match findName portState2str str caseSens state (enumRange 1 9) with
    | (true, v) => (true, v)
    | (false, _) =>
      if sameName caseSens str (txt "PRE_MASTER") then (true, PortState.preMaster)
      else if sameName caseSens str (txt "MASTER") then (true, PortState.master)
      else if sameName caseSens str (txt "SLAVE") then (true, PortState.slave)
      else (false, state)

/-- `Message::findDelayMech`. `NO_MECHANISM` is far from the others. -/
def findDelayMech (str : Text) (type : DelayMechanismE) (exact : Bool) : Bool × DelayMechanismE :=
  if str = [] then (false, type)
  else
    match findName delayMech2str str exact type (enumRange 0 4) with
    | (true, v) => (true, v)
    | (false, _) => if sameName exact str (delayMech2str 0xfe) then (true, 0xfe) else (false, type)

end PtpMgmt
