import PtpMgmt.Message.Answers

set_option autoImplicit false

/-! # The codecs of the signalling TLVs

The library reads signalling TLVs with codec functions that go in both directions. What such a function
writes of a value that fits the wire, it reads back, up to the flags that are cut to their mask, the lengths
of texts and addresses, and the parameters that a TLV without them leaves out. -/

namespace PtpMgmt

open Wire Codec

/-- What the codec writes of `d` is read back as `a`, when nothing stands behind it. -/
def ReadsBack {α : Type} [Inhabited α] (f : α → Proc α) (d a : α) : Prop :=
  ∃ w : List UInt8, Builds (f d) a w ∧ ParsesEnd 0 (f default) a w

section ReadsBack

variable {α β : Type}

theorem ReadsBack.of_in [Inhabited α] {f : α → Proc α} {d a : α} {n : Nat}
    (h : RoundTripsIn (f d) (f default) a n) : ReadsBack f d a := by
  obtain ⟨w, -, hw⟩ := h.octets
  exact ⟨w, hw.builds, hw.parses.atEnd 0⟩

/-- Records of one width go on to the end. -/
theorem vectorO_readsBack [Inhabited β] [HasProc β] [Progress β] {size : Nat} {hsize : 0 < size} {vec : List β}
    (mk : List β → α) (h : ∀ rec ∈ vec, RoundTripsIn (proc rec) (proc default) rec size) :
    ∃ w : List UInt8, Builds (vectorO size hsize vec >>= fun list => pure (mk list)) (mk vec) w ∧
      ParsesEnd 0 (vectorO size hsize [] >>= fun list => pure (mk list)) (mk vec) w := by
  have hid : ∀ rec ∈ vec, RoundTripsIn (proc rec) (proc default) (id rec) size := h
  choose! enc hlen henc using fun rec hrec => (hid rec hrec).octets
  have hbuild := vectorO_builds size hsize henc
  have hparse := vectorO_parsesEnd size 0 hsize hsize henc hlen
  rw [List.map_id] at hbuild hparse
  refine ⟨vec.flatMap enc ++ [], hbuild.bind (Builds.pure _), ?_⟩
  rw [List.append_nil]
  exact hparse.bind_pure mk

/-- Fields, and behind them records to the end. -/
theorem RoundTripsIn.bindEnd {cb cp : Proc α} {a : α} {n : Nat} {kb kp : α → Proc β} {b : β}
    (hc : RoundTripsIn cb cp a n) (hk : ∃ w : List UInt8, Builds (kb a) b w ∧ ParsesEnd 0 (kp a) b w) :
    ∃ w : List UInt8, Builds (cb >>= kb) b w ∧ ParsesEnd 0 (cp >>= kp) b w := by
  obtain ⟨v, -, hv⟩ := hc.octets
  obtain ⟨w, hbuild, hparse⟩ := hk
  exact ⟨v ++ w, hv.builds.bind hbuild, hv.parses.bindEnd hparse⟩

end ReadsBack

/-! ## Fields one after the other -/

theorem cumulativeRateRatioF_readsBack (d : CumulativeRateRatio) : ReadsBack cumulativeRateRatioF d d := by
  refine .of_in (n := 4) ?_
  unfold cumulativeRateRatioF
  infer_instance

def PortCommunicationAvailability.norm (d : PortCommunicationAvailability) : PortCommunicationAvailability where
  syncMessageAvailability := normFlags d.syncMessageAvailability flagsMask1
  delayRespMessageAvailability := normFlags d.delayRespMessageAvailability flagsMask2

theorem portCommunicationAvailabilityF_readsBack (d : PortCommunicationAvailability) :
    ReadsBack portCommunicationAvailabilityF d d.norm := by
  refine .of_in (n := 2) ?_
  unfold portCommunicationAvailabilityF
  infer_instance

theorem enhancedAccuracyMetricsF_readsBack (d : EnhancedAccuracyMetrics) :
    ReadsBack enhancedAccuracyMetricsF d d := by
  refine .of_in (n := 84) ?_
  unfold enhancedAccuracyMetricsF
  infer_instance

def AlternateTimeOffsetIndicator.Fits (d : AlternateTimeOffsetIndicator) : Prop :=
  d.timeOfNextJump ≤ uint48Max ∧ d.displayName.Fits

def AlternateTimeOffsetIndicator.norm (d : AlternateTimeOffsetIndicator) : AlternateTimeOffsetIndicator :=
  { d with displayName := d.displayName.norm }

theorem alternateTimeOffsetIndicatorF_readsBack {d : AlternateTimeOffsetIndicator} (h : d.Fits) :
    ReadsBack alternateTimeOffsetIndicatorF d d.norm := by
  have := proc48_roundTripsIn (default : AlternateTimeOffsetIndicator).timeOfNextJump h.1
  have : RoundTripsIn (proc d.displayName) (proc (default : AlternateTimeOffsetIndicator).displayName) _ _ :=
    PTPText.roundTripsIn h.2
  refine .of_in (n := 1 + (4 + (4 + (6 + (d.displayName.size + 0))))) ?_
  unfold alternateTimeOffsetIndicatorF
  infer_instance

def ProtocolAddress.Fits (d : ProtocolAddress) : Prop := d.portProtocolAddress.Fits

def ProtocolAddress.norm (d : ProtocolAddress) : ProtocolAddress := ⟨d.portProtocolAddress.norm⟩

theorem protocolAddressF_readsBack {d : ProtocolAddress} (h : d.Fits) :
    ReadsBack protocolAddressF d d.norm :=
  .of_in (.andThen (PortAddress.roundTripsIn h) inferInstance)

/-! ## Parameters that are there when a flag says so -/

def L1Sync.extended (d : L1Sync) : Bool :=
  normFlags d.flags1 flagsMask1 &&& optParamsEnabled > 0

def L1Sync.Fits (d : L1Sync) : Prop :=
  d.extended = true → d.phaseOffsetTxTimestamp.Fits ∧ d.freqOffsetTxTimestamp.Fits

def L1Sync.norm (d : L1Sync) : L1Sync :=
  if d.extended then
    { d with
      flags1 := normFlags d.flags1 flagsMask1
      flags2 := normFlags d.flags2 flagsMask2
      flags3 := normFlags d.flags3 flagsMask3 }
  else
    { flags1 := normFlags d.flags1 flagsMask1
      flags2 := normFlags d.flags2 flagsMask2
      flags3 := 0
      phaseOffsetTx := ⟨0⟩
      phaseOffsetTxTimestamp := ⟨0, 0⟩
      freqOffsetTx := ⟨0⟩
      freqOffsetTxTimestamp := ⟨0, 0⟩ }

theorem l1SyncF_readsBack {d : L1Sync} (h : d.Fits) : ReadsBack l1SyncF d d.norm := by
  by_cases hext : d.extended = true
  · have hflag : normFlags d.flags1 L1Sync.flagsMask1 &&& L1Sync.optParamsEnabled > 0 := of_decide_eq_true hext
    have := Timestamp.roundTripsIn (default : L1Sync).phaseOffsetTxTimestamp (h hext).1
    have := Timestamp.roundTripsIn (default : L1Sync).freqOffsetTxTimestamp (h hext).2
    rw [L1Sync.norm, if_pos hext]
    refine .of_in (n := 1 + (1 + (1 + (8 + (10 + (8 + (10 + 0)))))))
      (.andThen inferInstance (.andThen inferInstance ?_))
    rw [if_pos hflag, if_pos hflag]
    infer_instance
  · have hflag : ¬ normFlags d.flags1 L1Sync.flagsMask1 &&& L1Sync.optParamsEnabled > 0 :=
      fun hpos => hext (decide_eq_true hpos)
    rw [L1Sync.norm, if_neg hext]
    refine .of_in (n := 1 + (1 + 0)) (.andThen inferInstance (.andThen inferInstance ?_))
    rw [if_neg hflag, if_neg hflag]
    infer_instance

/-! ## Data to the end of the TLV -/

def OrganizationExtension.Fits (d : OrganizationExtension) : Prop := d.dataField.length < 65536

theorem organizationExtensionF_readsBack {d : OrganizationExtension} (h : d.Fits) :
    ReadsBack organizationExtensionF d d := by
  have hdata : ∀ n, Builds (procBinary d.dataField n) d.dataField d.dataField := fun n =>
    (procBinary_roundTrips n h).builds
  have hend : ParsesEnd 0 (procBinary [] (UInt16.ofNat d.dataField.length)) d.dataField d.dataField :=
    (procBinary_roundTrips 0 h).parses.atEnd 0
  refine RoundTripsIn.bindEnd (a := d.organizationId) (n := 3) inferInstance ?_
  refine RoundTripsIn.bindEnd (a := d.organizationSubType) (n := 3) inferInstance ⟨d.dataField ++ [], ?_, ?_⟩
  · exact .getLeft fun n => (hdata _).bind (Builds.pure _)
  · rw [List.append_nil]
    exact .getLeft (hend.bind_pure _)

theorem pathTraceF_readsBack (d : PathTrace) : ReadsBack pathTraceF d d :=
  vectorO_readsBack _ fun _ _ => inferInstance

def SlaveRxSyncTimingData.Fits (d : SlaveRxSyncTimingData) : Prop :=
  ∀ rec ∈ d.list, rec.syncOriginTimestamp.Fits ∧ rec.syncEventIngressTimestamp.Fits

theorem slaveRxSyncTimingDataF_readsBack {d : SlaveRxSyncTimingData} (h : d.Fits) :
    ReadsBack slaveRxSyncTimingDataF d d := by
  refine RoundTripsIn.bindEnd (a := d.syncSourcePortIdentity) (n := 10) inferInstance
    (vectorO_readsBack _ fun rec hrec => ?_)
  have := Timestamp.roundTripsIn (default : SlaveRxSyncTimingDataRec).syncOriginTimestamp (h rec hrec).1
  have := Timestamp.roundTripsIn (default : SlaveRxSyncTimingDataRec).syncEventIngressTimestamp (h rec hrec).2
  exact inferInstanceAs (RoundTripsIn (proc rec.sequenceId >>= _) (proc _ >>= _) rec
    (2 + (10 + (8 + (4 + (10 + 0))))))

def SlaveRxSyncComputedData.norm (d : SlaveRxSyncComputedData) : SlaveRxSyncComputedData :=
  { d with computedFlags := normFlags d.computedFlags flagsMask }

theorem slaveRxSyncComputedDataF_readsBack (d : SlaveRxSyncComputedData) :
    ReadsBack slaveRxSyncComputedDataF d d.norm := by
  refine RoundTripsIn.bindEnd (a := d.sourcePortIdentity) (n := 10) inferInstance ?_
  refine RoundTripsIn.bindEnd (a := d.norm.computedFlags) (n := 1) inferInstance ?_
  refine RoundTripsIn.bindEnd (a := ()) (n := 1) inferInstance (vectorO_readsBack _ fun rec _ => ?_)
  exact inferInstanceAs (RoundTripsIn (proc rec.sequenceId >>= _) (proc _ >>= _) rec (2 + (8 + (8 + (4 + 0)))))

def SlaveTxEventTimestamps.Fits (d : SlaveTxEventTimestamps) : Prop :=
  ∀ rec ∈ d.list, rec.eventEgressTimestamp.Fits

theorem slaveTxEventTimestampsF_readsBack {d : SlaveTxEventTimestamps} (h : d.Fits) :
    ReadsBack slaveTxEventTimestampsF d d := by
  refine RoundTripsIn.bindEnd (a := d.sourcePortIdentity) (n := 10) inferInstance ?_
  refine RoundTripsIn.bindEnd (a := d.eventMessageType) (n := 1)
    (inferInstanceAs (RoundTripsIn (proc _) (proc _) _ _)) ?_
  refine RoundTripsIn.bindEnd (a := ()) (n := 1) inferInstance (vectorO_readsBack _ fun rec hrec => ?_)
  have := Timestamp.roundTripsIn (default : SlaveTxEventTimestampsRec).eventEgressTimestamp (h rec hrec)
  exact inferInstanceAs (RoundTripsIn (proc rec.sequenceId >>= _) (proc _ >>= _) rec (2 + (10 + 0)))

def SlaveDelayTimingDataNp.Fits (d : SlaveDelayTimingDataNp) : Prop :=
  ∀ rec ∈ d.list, rec.delayOriginTimestamp.Fits ∧ rec.delayResponseTimestamp.Fits

theorem slaveDelayTimingDataNpF_readsBack {d : SlaveDelayTimingDataNp} (h : d.Fits) :
    ReadsBack slaveDelayTimingDataNpF d d := by
  refine RoundTripsIn.bindEnd (a := d.sourcePortIdentity) (n := 10) inferInstance
    (vectorO_readsBack _ fun rec hrec => ?_)
  have := Timestamp.roundTripsIn (default : SlaveDelayTimingDataNpRec).delayOriginTimestamp (h rec hrec).1
  have := Timestamp.roundTripsIn (default : SlaveDelayTimingDataNpRec).delayResponseTimestamp (h rec hrec).2
  exact inferInstanceAs (RoundTripsIn (proc rec.sequenceId >>= _) (proc _ >>= _) rec
    (2 + (10 + (8 + (10 + 0)))))

end PtpMgmt
