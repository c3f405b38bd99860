import PtpMgmt.Types

set_option autoImplicit false

/-! # Management ids (`ids_base.m4`, `mngIds.m4`)

The table of management ids: the wire value, the allowed actions, the size of the dataField and
which functions the id has. Every switch over the ids in the library is generated from this table,
so the model reads the same table and has no list of ids of its own.

The scope column (port or clock) is read by no function modelled here and is left out. -/

namespace PtpMgmt

/-- `mng_vals_e`, the ids of the table. -/
inductive MngId
  | nullPtpManagement
  | clockDescription
  | userDescription
  | saveInNonVolatileStorage
  | resetNonVolatileStorage
  | initializeTlv
  | faultLog
  | faultLogReset
  | defaultDataSet
  | currentDataSet
  | parentDataSet
  | timePropertiesDataSet
  | portDataSet
  | priority1
  | priority2
  | domain
  | slaveOnly
  | logAnnounceInterval
  | announceReceiptTimeout
  | logSyncInterval
  | versionNumber
  | enablePort
  | disablePort
  | time
  | clockAccuracy
  | utcProperties
  | traceabilityProperties
  | timescaleProperties
  | unicastNegotiationEnable
  | pathTraceList
  | pathTraceEnable
  | grandmasterClusterTable
  | unicastMasterTable
  | unicastMasterMaxTableSize
  | acceptableMasterTable
  | acceptableMasterTableEnabled
  | acceptableMasterMaxTableSize
  | alternateMaster
  | alternateTimeOffsetEnable
  | alternateTimeOffsetName
  | alternateTimeOffsetMaxKey
  | alternateTimeOffsetProperties
  | transparentClockPortDataSet
  | logMinPdelayReqInterval
  | transparentClockDefaultDataSet
  | primaryDomain
  | delayMechanism
  | externalPortConfigurationEnabled
  | masterOnly
  | holdoverUpgradeEnable
  | extPortConfigPortDataSet
  | timeStatusNp
  | grandmasterSettingsNp
  | portDataSetNp
  | subscribeEventsNp
  | portPropertiesNp
  | portStatsNp
  | synchronizationUncertainNp
  | portServiceStatsNp
  | unicastMasterTableNp
  | portHwclockNp
  | powerProfileSettingsNp
  | cmldsInfoNp
  | portCorrectionsNp
  | externalGrandmasterPropertiesNp
deriving DecidableEq, Repr, Inhabited

/-- `mng_vals_e` as a caller may give it: an id of the table, or one of the values behind it. -/
inductive MngVals
  | mng (id : MngId)
  | lastMngId
  | smpteMngId
deriving DecidableEq, Repr

instance : Inhabited MngVals := ⟨.mng .nullPtpManagement⟩

/-- The last column of the table: no function, a parse function, and for some a build function
    (`B`) and a size function (`S`). -/
inductive TlvFunc
  | na
  | uf
  | ufs
  | ufb
  | ufbs
deriving DecidableEq, Repr

/-- Does the id have a size function? -/
def TlvFunc.sized : TlvFunc → Bool
  | .ufs => true
  | .ufbs => true
  | _ => false

/-- Does the id have a function for build? -/
def TlvFunc.builds : TlvFunc → Bool
  | .ufb => true
  | .ufbs => true
  | _ => false

/-- `ManagementId_t`. -/
structure ManagementId where
  value : UInt16
  allowed : UInt8
  size : Int
  func : TlvFunc

/-! ## Allowed actions (`allowAction_e`) -/

def aGet : UInt8 := 1 <<< ActionField.get.val

def aSet : UInt8 := 1 <<< ActionField.set.val

def aCommand : UInt8 := 1 <<< ActionField.command.val

def aUseLinuxptp : UInt8 := 1 <<< (5 : UInt8)

def useGSC : UInt8 := aGet ||| aSet ||| aCommand

def useGS : UInt8 := aGet ||| aSet

def useGL : UInt8 := aGet ||| aUseLinuxptp

def useGSL : UInt8 := aGet ||| aSet ||| aUseLinuxptp

/-! ## The table -/

/-- `mng_all_vals`. -/
def mngAllVals : MngId → ManagementId
  | .nullPtpManagement => ⟨0x0000, useGSC, 0, .na⟩
  | .clockDescription => ⟨0x0001, aGet, -2, .ufs⟩
  | .userDescription => ⟨0x0002, useGS, -2, .ufbs⟩
  | .saveInNonVolatileStorage => ⟨0x0003, aCommand, 0, .na⟩
  | .resetNonVolatileStorage => ⟨0x0004, aCommand, 0, .na⟩
  | .initializeTlv => ⟨0x0005, aCommand, 2, .ufb⟩
  | .faultLog => ⟨0x0006, aGet, -2, .ufs⟩
  | .faultLogReset => ⟨0x0007, aCommand, 0, .na⟩
  | .defaultDataSet => ⟨0x2000, aGet, 20, .uf⟩
  | .currentDataSet => ⟨0x2001, aGet, 18, .uf⟩
  | .parentDataSet => ⟨0x2002, aGet, 32, .uf⟩
  | .timePropertiesDataSet => ⟨0x2003, aGet, 4, .uf⟩
  | .portDataSet => ⟨0x2004, aGet, 26, .uf⟩
  | .priority1 => ⟨0x2005, useGS, 2, .ufb⟩
  | .priority2 => ⟨0x2006, useGS, 2, .ufb⟩
  | .domain => ⟨0x2007, useGS, 2, .ufb⟩
  | .slaveOnly => ⟨0x2008, useGS, 2, .ufb⟩
  | .logAnnounceInterval => ⟨0x2009, useGS, 2, .ufb⟩
  | .announceReceiptTimeout => ⟨0x200a, useGS, 2, .ufb⟩
  | .logSyncInterval => ⟨0x200b, useGS, 2, .ufb⟩
  | .versionNumber => ⟨0x200c, useGS, 2, .ufb⟩
  | .enablePort => ⟨0x200d, aCommand, 0, .na⟩
  | .disablePort => ⟨0x200e, aCommand, 0, .na⟩
  | .time => ⟨0x200f, useGS, 10, .ufb⟩
  | .clockAccuracy => ⟨0x2010, useGS, 2, .ufb⟩
  | .utcProperties => ⟨0x2011, useGS, 4, .ufb⟩
  | .traceabilityProperties => ⟨0x2012, useGS, 2, .ufb⟩
  | .timescaleProperties => ⟨0x2013, useGS, 2, .ufb⟩
  | .unicastNegotiationEnable => ⟨0x2014, useGS, 2, .ufb⟩
  | .pathTraceList => ⟨0x2015, aGet, -2, .ufs⟩
  | .pathTraceEnable => ⟨0x2016, useGS, 2, .ufb⟩
  | .grandmasterClusterTable => ⟨0x2017, useGS, -2, .ufbs⟩
  | .unicastMasterTable => ⟨0x2018, useGS, -2, .ufbs⟩
  | .unicastMasterMaxTableSize => ⟨0x2019, aGet, 2, .uf⟩
  | .acceptableMasterTable => ⟨0x201a, useGS, -2, .ufbs⟩
  | .acceptableMasterTableEnabled => ⟨0x201b, useGS, 2, .ufb⟩
  | .acceptableMasterMaxTableSize => ⟨0x201c, aGet, 2, .uf⟩
  | .alternateMaster => ⟨0x201d, useGS, 4, .ufb⟩
  | .alternateTimeOffsetEnable => ⟨0x201e, useGS, 2, .ufb⟩
  | .alternateTimeOffsetName => ⟨0x201f, useGS, -2, .ufbs⟩
  | .alternateTimeOffsetMaxKey => ⟨0x2020, aGet, 2, .uf⟩
  | .alternateTimeOffsetProperties => ⟨0x2021, useGS, 16, .ufb⟩
  | .transparentClockPortDataSet => ⟨0x4001, aGet, 20, .uf⟩
  | .logMinPdelayReqInterval => ⟨0x6001, useGS, 2, .ufb⟩
  | .transparentClockDefaultDataSet => ⟨0x4000, aGet, 12, .uf⟩
  | .primaryDomain => ⟨0x4002, useGS, 2, .ufb⟩
  | .delayMechanism => ⟨0x6000, useGS, 2, .ufb⟩
  | .externalPortConfigurationEnabled => ⟨0x3000, useGS, 2, .ufb⟩
  | .masterOnly => ⟨0x3001, useGS, 2, .ufb⟩
  | .holdoverUpgradeEnable => ⟨0x3002, useGS, 2, .ufb⟩
  | .extPortConfigPortDataSet => ⟨0x3003, useGS, 2, .ufb⟩
  | .timeStatusNp => ⟨0xc000, useGL, 50, .uf⟩
  | .grandmasterSettingsNp => ⟨0xc001, useGSL, 8, .ufb⟩
  | .portDataSetNp => ⟨0xc002, useGSL, 8, .ufb⟩
  | .subscribeEventsNp => ⟨0xc003, useGSL, 66, .ufb⟩
  | .portPropertiesNp => ⟨0xc004, useGL, -2, .ufs⟩
  | .portStatsNp => ⟨0xc005, useGL, 266, .uf⟩
  | .synchronizationUncertainNp => ⟨0xc006, useGSL, 2, .ufb⟩
  | .portServiceStatsNp => ⟨0xc007, useGL, 90, .uf⟩
  | .unicastMasterTableNp => ⟨0xc008, useGL, -2, .ufs⟩
  | .portHwclockNp => ⟨0xc009, useGL, 16, .uf⟩
  | .powerProfileSettingsNp => ⟨0xc00a, useGSL, 16, .ufb⟩
  | .cmldsInfoNp => ⟨0xc00b, useGL, 16, .uf⟩
  | .portCorrectionsNp => ⟨0xc00c, useGSL, 24, .ufb⟩
  | .externalGrandmasterPropertiesNp => ⟨0xc00d, useGSL, 10, .ufb⟩

/-- The ids in the order of the table. -/
def MngId.all : List MngId :=
  [.nullPtpManagement, .clockDescription, .userDescription, .saveInNonVolatileStorage,
   .resetNonVolatileStorage, .initializeTlv, .faultLog, .faultLogReset, .defaultDataSet,
   .currentDataSet, .parentDataSet, .timePropertiesDataSet, .portDataSet, .priority1, .priority2,
   .domain, .slaveOnly, .logAnnounceInterval, .announceReceiptTimeout, .logSyncInterval,
   .versionNumber, .enablePort, .disablePort, .time, .clockAccuracy, .utcProperties,
   .traceabilityProperties, .timescaleProperties, .unicastNegotiationEnable, .pathTraceList,
   .pathTraceEnable, .grandmasterClusterTable, .unicastMasterTable, .unicastMasterMaxTableSize,
   .acceptableMasterTable, .acceptableMasterTableEnabled, .acceptableMasterMaxTableSize,
   .alternateMaster, .alternateTimeOffsetEnable, .alternateTimeOffsetName,
   .alternateTimeOffsetMaxKey, .alternateTimeOffsetProperties, .transparentClockPortDataSet,
   .logMinPdelayReqInterval, .transparentClockDefaultDataSet, .primaryDomain, .delayMechanism,
   .externalPortConfigurationEnabled, .masterOnly, .holdoverUpgradeEnable,
   .extPortConfigPortDataSet, .timeStatusNp, .grandmasterSettingsNp, .portDataSetNp,
   .subscribeEventsNp, .portPropertiesNp, .portStatsNp, .synchronizationUncertainNp,
   .portServiceStatsNp, .unicastMasterTableNp, .portHwclockNp, .powerProfileSettingsNp,
   .cmldsInfoNp, .portCorrectionsNp, .externalGrandmasterPropertiesNp]

theorem MngId.mem_all (id : MngId) : id ∈ MngId.all := by
  cases id <;> decide

/-- `Message::findTlvId`: the id with the given wire value, which is in network order in the source
    and already read here. The linuxptp ids are blocked when linuxptp is not used. -/
def findTlvId (value : UInt16) (spec : ImplementSpecific) : Option MngId :=
  match MngId.all.find? (fun id => (mngAllVals id).value == value) with
  | none => none
  | some id =>
    if spec != .linuxptp && (mngAllVals id).allowed &&& aUseLinuxptp != 0 then none else some id

/-- An id without a codec function has no dataField, the others have one. -/
theorem mngAllVals_size_eq_zero (id : MngId) :
    (mngAllVals id).size = 0 ↔ (mngAllVals id).func = .na := by
  cases id <;> decide

/-- The dataField needs calculation exactly when there is a size function for it. -/
theorem mngAllVals_size_eq_neg_two (id : MngId) :
    (mngAllVals id).size = -2 ↔ (mngAllVals id).func.sized = true := by
  cases id <;> decide

end PtpMgmt
