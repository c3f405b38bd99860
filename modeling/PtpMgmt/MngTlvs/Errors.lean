import PtpMgmt.MngTlvs.Codec
import PtpMgmt.SigTlvs
import PtpMgmt.Wire.Errors

set_option autoImplicit false

/-! # The errors of the TLV codecs

No codec of a TLV reports an error of authentication, so a code of authentication is always that of
`parseAuth`. -/

namespace PtpMgmt

open Wire Codec

/-- The errors of `parseAuth`. -/
def MngParseError.IsAuth (err : MngParseError) : Prop :=
  err = .auth ∨ err = .authNone ∨ err = .authWrong ∨ err = .authNokey

instance (err : MngParseError) : Decidable err.IsAuth :=
  inferInstanceAs (Decidable (_ ∨ _))

/-- An error that says nothing about authentication. -/
def Plain (err : MngParseError) : Prop := ¬ err.IsAuth

instance (err : MngParseError) : Decidable (Plain err) :=
  inferInstanceAs (Decidable (¬ _))

theorem plain_ok : Plain .ok := by decide

theorem plain_tooSmall : Plain .tooSmall := by decide

/-- The codec reports no error of authentication. -/
abbrev PlainProc {α : Type} (c : Proc α) : Prop := ErrIn Plain c

/-! ## Fields -/

instance {α : Type} (len : Nat) (toNat : α → Nat) (ofNat : Nat → α) (v : α) :
    PlainProc (procBU len toNat ofNat v) :=
  ErrIn.field ..

instance (v : UInt8) : PlainProc (proc v) := inferInstanceAs (PlainProc (procBU ..))
instance (v : UInt16) : PlainProc (proc v) := inferInstanceAs (PlainProc (procBU ..))
instance (v : UInt32) : PlainProc (proc v) := inferInstanceAs (PlainProc (procBU ..))
instance (v : UInt64) : PlainProc (proc v) := inferInstanceAs (PlainProc (procBU ..))
instance (v : Int8) : PlainProc (proc v) := inferInstanceAs (PlainProc (procBU ..))
instance (v : Int16) : PlainProc (proc v) := inferInstanceAs (PlainProc (procBU ..))
instance (v : Int32) : PlainProc (proc v) := inferInstanceAs (PlainProc (procBU ..))
instance (v : Int64) : PlainProc (proc v) := inferInstanceAs (PlainProc (procBU ..))

instance : PlainProc procRes := inferInstanceAs (PlainProc (proc (0 : UInt8) >>= _))

instance (val : UInt64) : PlainProc (proc48 val) :=
  have : PlainProc (failWith .val (by decide) : Proc UInt64) := ErrIn.failWith _ (by decide)
  inferInstanceAs (PlainProc (need sizeofUInteger48 >>= fun _ => isBuild >>= _))

instance (flags flagsMask : UInt8) : PlainProc (procFlags flags flagsMask) :=
  inferInstanceAs (PlainProc (isBuild >>= _))

instance (val : UInt64) : PlainProc (procLe val) := ErrIn.field ..

instance (str : List UInt8) (len : UInt16) : PlainProc (procString str len) :=
  inferInstanceAs (PlainProc (isBuild >>= _))

instance (bin : Binary) (len : UInt16) : PlainProc (procBinary bin len) :=
  inferInstanceAs (PlainProc (isBuild >>= _))

instance {n : Nat} (val : Octets n) : PlainProc (procOctets val) := ErrIn.field ..

instance {n : Nat} (val : List.Vector UInt64 n) : PlainProc (procLeArr val) :=
  inferInstanceAs (PlainProc (each procLe val.toList >>= _))

/-! ## Records -/

instance (v : TimeInterval) : PlainProc (proc v) :=
  inferInstanceAs (PlainProc (proc v.scaledNanoseconds >>= _))

instance (d : Timestamp) : PlainProc (proc d) :=
  inferInstanceAs (PlainProc (proc48 d.secondsField >>= _))

instance (v : ClockIdentity) : PlainProc (proc v) :=
  inferInstanceAs (PlainProc (procOctets v.v >>= _))

instance (d : PortIdentity) : PlainProc (proc d) :=
  inferInstanceAs (PlainProc (proc d.clockIdentity >>= _))

instance (d : PortAddress) : PlainProc (proc d) :=
  inferInstanceAs (PlainProc (proc d.networkProtocol >>= _))

instance (d : ClockQuality) : PlainProc (proc d) :=
  inferInstanceAs (PlainProc (proc d.clockClass >>= _))

instance (d : PTPText) : PlainProc (proc d) :=
  inferInstanceAs (PlainProc (if d.textField.length > 255 then fail
    else proc (UInt8.ofNat d.textField.length) >>= _))

instance (d : FaultRecord) : PlainProc (proc d) :=
  have : PlainProc (failWith .sizeMiss (by decide) : Proc FaultRecord) :=
    ErrIn.failWith _ (by decide)
  inferInstanceAs (PlainProc (isBuild >>= _))

instance (d : AcceptableMaster) : PlainProc (proc d) :=
  inferInstanceAs (PlainProc (proc d.acceptablePortIdentity >>= _))

instance (d : LinuxptpUnicastMaster) : PlainProc (proc d) :=
  inferInstanceAs (PlainProc (proc d.portIdentity >>= _))

instance (d : SlaveRxSyncTimingDataRec) : PlainProc (proc d) :=
  inferInstanceAs (PlainProc (proc d.sequenceId >>= _))

instance (d : SlaveRxSyncComputedDataRec) : PlainProc (proc d) :=
  inferInstanceAs (PlainProc (proc d.sequenceId >>= _))

instance (d : SlaveTxEventTimestampsRec) : PlainProc (proc d) :=
  inferInstanceAs (PlainProc (proc d.sequenceId >>= _))

instance (d : SlaveDelayTimingDataNpRec) : PlainProc (proc d) :=
  inferInstanceAs (PlainProc (proc d.sequenceId >>= _))

section Tables

variable {α : Type} [Inhabited α] [HasProc α] [∀ a : α, PlainProc (proc a)]

instance (count : UInt32) (vec : List α) : PlainProc (vectorF count vec) :=
  inferInstanceAs (PlainProc (isBuild >>= _))

instance [Progress α] (size : Nat) (hsize : 0 < size) (vec : List α) :
    PlainProc (vectorO size hsize vec) :=
  inferInstanceAs (PlainProc (isBuild >>= _))

end Tables

/-! ## TLVs -/

theorem tlvF_plain (id : MngId) (d : Tlv id) : PlainProc (tlvF id d) := by
  cases id <;> infer_instance

/-- `call_tlv_data` reports no error of authentication. -/
theorem callTlvData_plain (id : MngId) (tlv : TlvPtr) (mp : MsgProc) :
    Plain (callTlvData id tlv mp).1 := by
  have hrun : ∀ d, Plain ((tlvF id d).run mp.fresh).2.err := fun d =>
    (tlvF_plain id d).err mp.fresh plain_tooSmall
  rw [callTlvData]
  split
  · exact plain_ok
  · split
    · split
      · exact show Plain .mismatchTlv by decide
      · next d _ =>
          have hplain := hrun d
          split
          · next he =>
              rw [he] at hplain
              exact hplain
          · exact plain_ok
    · have hplain := hrun default
      split
      · next he =>
          rw [he] at hplain
          exact hplain
      · exact plain_ok

/-! ## TLVs of signalling messages -/

section Signaling

instance (d : OrganizationExtension) : PlainProc (organizationExtensionF d) :=
  inferInstanceAs (PlainProc (procOctets d.organizationId >>= _))

instance (d : PathTrace) : PlainProc (pathTraceF d) :=
  inferInstanceAs (PlainProc (vectorO _ _ d.pathSequence >>= _))

instance (d : AlternateTimeOffsetIndicator) : PlainProc (alternateTimeOffsetIndicatorF d) :=
  inferInstanceAs (PlainProc (proc d.keyField >>= _))

instance (d : EnhancedAccuracyMetrics) : PlainProc (enhancedAccuracyMetricsF d) :=
  set_option synthInstance.maxSize 400 in
  inferInstanceAs (PlainProc (proc d.bcHopCount >>= _))

instance (d : L1Sync) : PlainProc (l1SyncF d) :=
  inferInstanceAs (PlainProc (procFlags d.flags1 _ >>= _))

instance (d : PortCommunicationAvailability) : PlainProc (portCommunicationAvailabilityF d) :=
  inferInstanceAs (PlainProc (procFlags d.syncMessageAvailability _ >>= _))

instance (d : ProtocolAddress) : PlainProc (protocolAddressF d) :=
  inferInstanceAs (PlainProc (proc d.portProtocolAddress >>= _))

instance (d : SlaveRxSyncTimingData) : PlainProc (slaveRxSyncTimingDataF d) :=
  inferInstanceAs (PlainProc (proc d.syncSourcePortIdentity >>= _))

instance (d : SlaveRxSyncComputedData) : PlainProc (slaveRxSyncComputedDataF d) :=
  inferInstanceAs (PlainProc (proc d.sourcePortIdentity >>= _))

instance (d : SlaveTxEventTimestamps) : PlainProc (slaveTxEventTimestampsF d) :=
  inferInstanceAs (PlainProc (proc d.sourcePortIdentity >>= _))

instance (d : CumulativeRateRatio) : PlainProc (cumulativeRateRatioF d) :=
  inferInstanceAs (PlainProc (proc d.scaledCumulativeRateRatio >>= _))

instance (d : SlaveDelayTimingDataNp) : PlainProc (slaveDelayTimingDataNpF d) :=
  inferInstanceAs (PlainProc (proc d.sourcePortIdentity >>= _))

end Signaling

end PtpMgmt
