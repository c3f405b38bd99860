import PtpMgmt.MngTlvs.Codec
import PtpMgmt.MsgProc.Proofs

set_option autoImplicit false

/-! # What the codec of a management TLV is for

The specification of the codecs: which values fit the wire (`tlvFits`, in three parts, because a build
reacts differently to each of them), what a value is after a round
trip (`tlvNorm`: the flags cut to the mask, the derived lengths and counts set to the real numbers)
and how many octets its dataField has before padding (`tlvWidth`). These are stated from the record
layouts, and `tlvF` is compared with them. -/

namespace PtpMgmt

/-! ## Values that fit the wire -/

/-- Texts of at most 255 octets and 48-bit values in range: a build refuses the others. -/
def tlvValuesFit : (id : MngId) → Tlv id → Prop
  | .clockDescription, d =>
    d.physicalLayerProtocol.Fits ∧ d.productDescription.Fits ∧ d.revisionData.Fits ∧
      d.userDescription.Fits
  | .userDescription, d => d.userDescription.Fits
  | .faultLog, d => ∀ rec ∈ d.faultRecords, rec.Fits
  | .time, d => d.currentTime.Fits
  | .alternateTimeOffsetName, d => d.displayName.Fits
  | .alternateTimeOffsetProperties, d => d.timeOfNextJump ≤ uint48Max
  | .portPropertiesNp, d => d.interface.Fits
  | _, _ => True

/-- Addresses of at most 65535 octets: a build does not notice the others. -/
def tlvAddressesFit : (id : MngId) → Tlv id → Prop
  | .clockDescription, d => d.physicalAddress.length < 65536 ∧ d.protocolAddress.Fits
  | .grandmasterClusterTable, d => ∀ rec ∈ d.portAddress, rec.Fits
  | .unicastMasterTable, d => ∀ rec ∈ d.portAddress, rec.Fits
  | .unicastMasterTableNp, d => ∀ rec ∈ d.unicastMasters, rec.Fits
  | _, _ => True

/-- Counts that fit their wire field: one octet for the cluster table, 16 bits for the others, where
    two of the tables have a signed count. -/
def tlvCountsFit : (id : MngId) → Tlv id → Prop
  | .faultLog, d => d.faultRecords.length ≤ 65535
  | .grandmasterClusterTable, d => d.portAddress.length ≤ 255
  | .unicastMasterTable, d => d.portAddress.length ≤ 65535
  | .acceptableMasterTable, d => d.list.length ≤ 32767
  | .unicastMasterTableNp, d => d.unicastMasters.length ≤ 32767
  | _, _ => True

/-- Everything in the TLV fits its place on the wire. -/
def tlvFits (id : MngId) (d : Tlv id) : Prop :=
  tlvValuesFit id d ∧ tlvAddressesFit id d ∧ tlvCountsFit id d

/-! ## Values after a round trip -/

def ClockDescription.norm (d : ClockDescription) : ClockDescription :=
  { d with
    physicalLayerProtocol := d.physicalLayerProtocol.norm
    physicalAddressLength := UInt16.ofNat d.physicalAddress.length
    protocolAddress := d.protocolAddress.norm
    productDescription := d.productDescription.norm
    revisionData := d.revisionData.norm
    userDescription := d.userDescription.norm }

def FaultLog.norm (d : FaultLog) : FaultLog where
  numberOfFaultRecords := UInt16.ofNat d.faultRecords.length
  faultRecords := d.faultRecords.map FaultRecord.norm

def GrandmasterClusterTable.norm (d : GrandmasterClusterTable) : GrandmasterClusterTable where
  logQueryInterval := d.logQueryInterval
  actualTableSize := UInt8.ofNat d.portAddress.length
  portAddress := d.portAddress.map PortAddress.norm

def UnicastMasterTable.norm (d : UnicastMasterTable) : UnicastMasterTable where
  logQueryInterval := d.logQueryInterval
  actualTableSize := UInt16.ofNat d.portAddress.length
  portAddress := d.portAddress.map PortAddress.norm

def AcceptableMasterTable.norm (d : AcceptableMasterTable) : AcceptableMasterTable :=
  { d with actualTableSize := Int16.ofNat d.list.length }

def UnicastMasterTableNp.norm (d : UnicastMasterTableNp) : UnicastMasterTableNp where
  actualTableSize := Int16.ofNat d.unicastMasters.length
  unicastMasters := d.unicastMasters.map LinuxptpUnicastMaster.norm

/-- Flags cut to their mask, lengths and counts as they really are. -/
def tlvNorm : (id : MngId) → Tlv id → Tlv id
  | .clockDescription, d => d.norm
  | .userDescription, d => ⟨d.userDescription.norm⟩
  | .faultLog, d => d.norm
  | .grandmasterClusterTable, d => d.norm
  | .unicastMasterTable, d => d.norm
  | .acceptableMasterTable, d => d.norm
  | .alternateTimeOffsetName, d => { d with displayName := d.displayName.norm }
  | .portPropertiesNp, d => { d with interface := d.interface.norm }
  | .unicastMasterTableNp, d => d.norm
  | .defaultDataSet, d => { d with flags := normFlags d.flags DefaultDataSet.flagsMask }
  | .parentDataSet, d => { d with flags := normFlags d.flags ParentDataSet.flagsMask }
  | .timePropertiesDataSet, d =>
    { d with flags := normFlags d.flags TimePropertiesDataSet.flagsMask }
  | .slaveOnly, d => { d with flags := normFlags d.flags SlaveOnly.flagsMask }
  | .utcProperties, d => { d with flags := normFlags d.flags UtcProperties.flagsMask }
  | .traceabilityProperties, d =>
    { d with flags := normFlags d.flags TraceabilityProperties.flagsMask }
  | .timescaleProperties, d => { d with flags := normFlags d.flags TimescaleProperties.flagsMask }
  | .unicastNegotiationEnable, d =>
    { d with flags := normFlags d.flags UnicastNegotiationEnable.flagsMask }
  | .pathTraceEnable, d => { d with flags := normFlags d.flags PathTraceEnable.flagsMask }
  | .acceptableMasterTableEnabled, d =>
    { d with flags := normFlags d.flags AcceptableMasterTableEnabled.flagsMask }
  | .alternateMaster, d => { d with flags := normFlags d.flags AlternateMaster.flagsMask }
  | .alternateTimeOffsetEnable, d =>
    { d with flags := normFlags d.flags AlternateTimeOffsetEnable.flagsMask }
  | .transparentClockPortDataSet, d =>
    { d with flags := normFlags d.flags TransparentClockPortDataSet.flagsMask }
  | .externalPortConfigurationEnabled, d =>
    { d with flags := normFlags d.flags ExternalPortConfigurationEnabled.flagsMask }
  | .masterOnly, d => { d with flags := normFlags d.flags MasterOnly.flagsMask }
  | .holdoverUpgradeEnable, d =>
    { d with flags := normFlags d.flags HoldoverUpgradeEnable.flagsMask }
  | .extPortConfigPortDataSet, d =>
    { d with flags := normFlags d.flags ExtPortConfigPortDataSet.flagsMask }
  | .grandmasterSettingsNp, d =>
    { d with flags := normFlags d.flags GrandmasterSettingsNp.flagsMask }
  | _, d => d

/-! ## Octets of the dataField -/

/-- The octets of the dataField before padding. -/
def tlvWidth : (id : MngId) → Tlv id → Nat
  | .clockDescription, d =>
    2 + d.physicalLayerProtocol.size + 2 + d.physicalAddress.length + d.protocolAddress.size + 3 + 1 +
      d.productDescription.size + d.revisionData.size + d.userDescription.size + 6
  | .userDescription, d => d.userDescription.size
  | .faultLog, d => 2 + (d.faultRecords.map FaultRecord.size).sum
  | .pathTraceList, d => (d.pathSequence.map fun _ => ClockIdentity.size).sum
  | .grandmasterClusterTable, d => 2 + (d.portAddress.map PortAddress.size).sum
  | .unicastMasterTable, d => 3 + (d.portAddress.map PortAddress.size).sum
  | .acceptableMasterTable, d => 2 + (d.list.map fun _ => AcceptableMaster.size).sum
  | .alternateTimeOffsetName, d => 1 + d.displayName.size
  | .portPropertiesNp, d => 12 + d.interface.size
  | .unicastMasterTableNp, d => 2 + (d.unicastMasters.map LinuxptpUnicastMaster.size).sum
  | .initializeTlv, _ => 2
  | .defaultDataSet, _ => 19
  | .currentDataSet, _ => 18
  | .parentDataSet, _ => 32
  | .timePropertiesDataSet, _ => 4
  | .portDataSet, _ => 26
  | .priority1, _ => 1
  | .priority2, _ => 1
  | .domain, _ => 1
  | .slaveOnly, _ => 1
  | .logAnnounceInterval, _ => 1
  | .announceReceiptTimeout, _ => 1
  | .logSyncInterval, _ => 1
  | .versionNumber, _ => 1
  | .time, _ => 10
  | .clockAccuracy, _ => 1
  | .utcProperties, _ => 3
  | .traceabilityProperties, _ => 1
  | .timescaleProperties, _ => 2
  | .unicastNegotiationEnable, _ => 1
  | .pathTraceEnable, _ => 1
  | .unicastMasterMaxTableSize, _ => 2
  | .acceptableMasterTableEnabled, _ => 1
  | .acceptableMasterMaxTableSize, _ => 2
  | .alternateMaster, _ => 3
  | .alternateTimeOffsetEnable, _ => 2
  | .alternateTimeOffsetMaxKey, _ => 1
  | .alternateTimeOffsetProperties, _ => 15
  | .transparentClockPortDataSet, _ => 20
  | .logMinPdelayReqInterval, _ => 1
  | .transparentClockDefaultDataSet, _ => 12
  | .primaryDomain, _ => 1
  | .delayMechanism, _ => 1
  | .externalPortConfigurationEnabled, _ => 1
  | .masterOnly, _ => 1
  | .holdoverUpgradeEnable, _ => 1
  | .extPortConfigPortDataSet, _ => 2
  | .timeStatusNp, _ => 50
  | .grandmasterSettingsNp, _ => 8
  | .portDataSetNp, _ => 8
  | .subscribeEventsNp, _ => 66
  | .portStatsNp, _ => 266
  | .synchronizationUncertainNp, _ => 1
  | .portServiceStatsNp, _ => 90
  | .portHwclockNp, _ => 15
  | .powerProfileSettingsNp, _ => 16
  | .cmldsInfoNp, _ => 16
  | .portCorrectionsNp, _ => 24
  | .externalGrandmasterPropertiesNp, _ => 10
  | _, _ => 0

end PtpMgmt
