import PtpMgmt.Message.Framing
import PtpMgmt.Message.SigCodecs

set_option autoImplicit false

/-! # Signalling messages from the values of their TLVs

The library has no build of signalling messages, but it has the codec functions of their TLVs and the
framing that the loop over them expects. A message that frames what the codecs write of any values, one TLV
behind the other, is read as those values. -/

namespace PtpMgmt

open Wire Codec

/-! ## What a TLV holds -/

/-- The codec writes `w` of the value. -/
def Codes {α : Type} (f : α → Proc α) (d : α) (w : List UInt8) : Prop := ∃ a, Builds (f d) a w

/-- The value of a TLV fits the wire. -/
def BaseSigTlv.Fits : BaseSigTlv → Prop
  | management d => ∀ id data, d.tlvData = .obj (.tlv id data) →
      (mngAllVals id).func ≠ .na ∧ tlvFits id data
  | managementErrorStatus d => d.displayData.Fits
  | organizationExtension d => d.Fits
  | alternateTimeOffsetIndicator d => d.Fits
  | l1Sync d => d.Fits
  | protocolAddress d => d.Fits
  | slaveRxSyncTimingData d => d.Fits
  | slaveTxEventTimestamps d => d.Fits
  | slaveDelayTimingDataNp d => d.Fits
  | pathTrace _ | enhancedAccuracyMetrics _ | portCommunicationAvailability _ | slaveRxSyncComputedData _
  | cumulativeRateRatio _ => True

def Management.norm (d : Management) : Management :=
  match d.tlvData with
  | .obj (.tlv id data) => { d with tlvData := .obj (.tlv id (tlvNorm id data)) }
  | _ => d

/-- The value as it is read back. -/
def BaseSigTlv.norm : BaseSigTlv → BaseSigTlv
  | management d => .management d.norm
  | managementErrorStatus d => .managementErrorStatus { d with displayData := d.displayData.norm }
  | alternateTimeOffsetIndicator d => .alternateTimeOffsetIndicator d.norm
  | l1Sync d => .l1Sync d.norm
  | portCommunicationAvailability d => .portCommunicationAvailability d.norm
  | protocolAddress d => .protocolAddress d.norm
  | slaveRxSyncComputedData d => .slaveRxSyncComputedData d.norm
  | tlv => tlv

/-- A management TLV: the id and its data. -/
structure Management.Written (prms : MsgParams) (d : Management) (w : List UInt8) : Prop where
  knows : Message.Knows prms d.managementId
  octets : ∃ (data a : Tlv d.managementId) (v : List UInt8), v ≠ [] ∧
    d.tlvData = .obj (.tlv d.managementId data) ∧ Builds (tlvF d.managementId data) a v ∧
    w = beOctets 2 (mngAllVals d.managementId).value.toNat ++ v

/-- An error: its code, the id, four octets that nothing looks at, and the text. -/
structure ManagementErrorStatus.Written (prms : MsgParams) (d : ManagementErrorStatus) (w : List UInt8) :
    Prop where
  knows : Message.Knows prms d.managementId
  octets : ∃ reserved : List UInt8, reserved.length = 4 ∧
    w = beOctets 2 d.managementErrorId.toNat ++ beOctets 2 (mngAllVals d.managementId).value.toNat ++ reserved ++
      d.displayData.octets

/-- The octets `w` of a TLV of the type hold the value. -/
def BaseSigTlv.Written (prms : MsgParams) (type : TlvType) (w : List UInt8) : BaseSigTlv → Prop
  | management d => type = .management ∧ d.Written prms w
  | managementErrorStatus d => type = .managementErrorStatus ∧ d.Written prms w
  | organizationExtension d =>
      (type = .organizationExtension ∨ type = .organizationExtensionPropagate ∨
        type = .organizationExtensionDoNotPropagate) ∧ Codes organizationExtensionF d w
  | pathTrace d => type = .pathTrace ∧ Codes pathTraceF d w
  | alternateTimeOffsetIndicator d =>
      type = .alternateTimeOffsetIndicator ∧ Codes alternateTimeOffsetIndicatorF d w
  | enhancedAccuracyMetrics d => type = .enhancedAccuracyMetrics ∧ Codes enhancedAccuracyMetricsF d w
  | l1Sync d => type = .l1Sync ∧ Codes l1SyncF d w
  | portCommunicationAvailability d =>
      type = .portCommunicationAvailability ∧ Codes portCommunicationAvailabilityF d w
  | protocolAddress d => type = .protocolAddress ∧ Codes protocolAddressF d w
  | slaveRxSyncTimingData d => type = .slaveRxSyncTimingData ∧ Codes slaveRxSyncTimingDataF d w
  | slaveRxSyncComputedData d => type = .slaveRxSyncComputedData ∧ Codes slaveRxSyncComputedDataF d w
  | slaveTxEventTimestamps d => type = .slaveTxEventTimestamps ∧ Codes slaveTxEventTimestampsF d w
  | cumulativeRateRatio d => type = .cumulativeRateRatio ∧ Codes cumulativeRateRatioF d w
  | slaveDelayTimingDataNp d =>
      prms.implementSpecific = .linuxptp ∧ type = .slaveDelayTimingDataNp ∧ Codes slaveDelayTimingDataNpF d w

namespace Message

section Decode

variable {prms : MsgParams} {mp : MsgProc} {w : List UInt8}

/-- A parse in front of `w`, with nothing behind it. -/
structure Holding (mp : MsgProc) (w : List UInt8) : Prop where
  build : mp.build = false
  left : mp.left = w.length
  slice : slice mp.mem mp.cur w.length = w

/-- The decoder of a TLV with a codec reads what the codec writes. -/
theorem caseBuild_reads {α : Type} [Inhabited α] {f : α → Proc α} {mk : α → BaseSigTlv} {d a : α}
    (h : ReadsBack f d a) (hw : Codes f d w) (hmp : Holding mp w) : (caseBuild f mk mp).1 = .ok (some (mk a)) := by
  obtain ⟨w', hbuild, hparse⟩ := h
  obtain ⟨b, hw⟩ := hw
  obtain rfl := builds_unique hw hbuild
  have hrun := hparse mp hmp.build hmp.left.ge (by simp [hmp.left]) hmp.slice
  rw [caseBuild, hrun]

theorem beAt_uint16 {mem : Nat → UInt8} {off : Nat} {v : UInt16} (h : slice mem off 2 = beOctets 2 v.toNat) :
    UInt16.ofNat (beAt mem off 2) = v := by
  have hlt : v.toNat < 256 ^ 2 := v.toNat_lt
  rw [beAt_of_slice h, Nat.mod_eq_of_lt hlt, UInt16.ofNat_toNat]

theorem sigManagement_reads {d : Management} (hfits : (BaseSigTlv.management d).Fits)
    (hw : d.Written prms w) (hmp : Holding mp w) :
    (sigManagement prms.implementSpecific mp.mem mp).1 = .ok (some (.management d.norm)) := by
  obtain ⟨id, tlvData⟩ := d
  obtain ⟨hknows, data, a, v, hne, hdata, hbuild, rfl⟩ := hw
  dsimp only at data a hknows hdata hbuild hmp
  subst hdata
  obtain ⟨hcodec, hvalues, haddr, hcounts⟩ := hfits id data rfl
  obtain ⟨v', -, hbuild', hparse⟩ := tlvF_roundTrips id data hvalues haddr
  obtain rfl := builds_unique hbuild hbuild'
  have hpos := List.length_pos_iff.2 hne
  obtain ⟨hid, hdata⟩ := slice_eq_append hmp.slice
  have hleft := hmp.left
  rw [List.length_append, length_beOctets] at hleft
  rw [length_beOctets] at hid hdata
  have hb : ((mp.peek mp.cur 2).skip 2).build = false := hmp.build
  have hrun := hparse hcounts ((mp.peek mp.cur 2).skip 2).fresh hb
    (show (v.length : Int) ≤ mp.left - (2 : Nat) by omega)
    (show mp.left - (2 : Nat) ≤ v.length + (1 : Nat) by omega) hdata
  obtain ⟨mp', htlv⟩ : ∃ mp', callTlvData id .wild ((mp.peek mp.cur 2).skip 2)
      = (.ok, .obj (.tlv id (tlvNorm id data)), mp') :=
    ⟨_, by rw [callTlvData_parse _ hcodec hb, hrun]⟩
  have hmore : (mp.peek mp.cur 2).left > 2 := show mp.left > 2 by omega
  rw [sigManagement, if_neg (by omega)]
  simp only
  rw [beAt_uint16 hid, findTlvId_of_knows hknows]
  simp only
  rw [if_pos hmore, htlv]
  rfl

/-- The text behind an error is read, the empty one as no text. -/
theorem displayData_reads (mp : MsgProc) {text : PTPText} (h : text.Fits) (hmp : Holding mp text.octets) :
    ∃ mp', displayData default mp = (some text.norm, mp') := by
  have hleft := hmp.left
  rw [PTPText.length_octets, PTPText.size] at hleft
  by_cases hempty : text.textField = []
  · have hdefault : text.norm = default := by
      rw [PTPText.norm, hempty]
      rfl
    rw [hempty, List.length_nil] at hleft
    rw [displayData, if_neg (by omega), hdefault]
    exact ⟨mp, rfl⟩
  · have hpos := List.length_pos_iff.2 hempty
    rw [displayData, if_pos (by omega)]
    exact ⟨_, (PTPText.roundTrips h).parses mp hmp.build hmp.left.ge hmp.slice⟩

theorem sigErrorStatus_reads {d : ManagementErrorStatus} (hfits : d.displayData.Fits)
    (hw : d.Written prms w) (hmp : Holding mp w) :
    (sigErrorStatus prms.implementSpecific mp.mem mp).1
      = .ok (some (.managementErrorStatus { d with displayData := d.displayData.norm })) := by
  obtain ⟨hknows, reserved, hreserved, rfl⟩ := hw
  obtain ⟨hhead, htext⟩ := slice_eq_append hmp.slice
  obtain ⟨hids, -⟩ := slice_eq_append hhead
  obtain ⟨herr, hid⟩ := slice_eq_append hids
  have hleft := hmp.left
  simp only [List.length_append, length_beOctets, hreserved] at hleft htext herr hid
  obtain ⟨mp', hshow⟩ := displayData_reads ((mp.peek (mp.cur + 2) 2).skip managementErrorTlvSize) hfits
    { build := hmp.build
      left := by
        show mp.left - (8 : Nat) = _
        omega
      slice := htext }
  rw [sigErrorStatus, if_neg (by rw [managementErrorTlvSize]; omega)]
  simp only
  rw [beAt_uint16 hid, findTlvId_of_knows hknows]
  simp only
  rw [hshow, beAt_uint16 herr]

end Decode

/-! ## TLVs of a message -/

/-- A TLV of a message: its type, the octets behind its header, and the value the library has for it. -/
structure SigFrame where
  type : UInt16
  octets : List UInt8
  tlv : Option BaseSigTlv

namespace SigFrame

def tlvType (f : SigFrame) : TlvType := TlvType.ofVal f.type

/-- The TLV with its header. -/
def wire (f : SigFrame) : List UInt8 :=
  beOctets 2 f.type.toNat ++ beOctets 2 f.octets.length ++ f.octets

/-- The library has no decoder for the type. -/
def Unread (prms : MsgParams) : TlvType → Prop
  | .requestUnicastTransmission | .grantUnicastTransmission | .cancelUnicastTransmission
  | .acknowledgeCancelUnicastTransmission | .tlvPad | .other _ => True
  | .slaveDelayTimingDataNp => prms.implementSpecific ≠ .linuxptp
  | _ => False

/-- The octets hold the value, or the library looks over them. -/
def Holds (prms : MsgParams) (f : SigFrame) : Prop :=
  match f.tlv with
  | none => Unread prms f.tlvType
  | some tlv => tlv.Fits ∧ tlv.Written prms f.tlvType f.octets

/-- The TLV as the user finds it: one that the filter leaves out or that has no decoder is not there. -/
def shown (prms : MsgParams) (f : SigFrame) : Option (TlvType × BaseSigTlv) :=
  if prms.filterSignaling && !prms.isSigTlv f.tlvType then none
  else f.tlv.map fun tlv => (f.tlvType, tlv.norm)

variable {prms : MsgParams} {f : SigFrame} {mp : MsgProc}

theorem Holds.ne_authentication (h : f.Holds prms) : f.tlvType ≠ .authentication := by
  intro htype
  rw [Holds] at h
  split at h
  · rw [htype] at h
    exact h
  · next tlv _ =>
      have hwritten := h.2
      rw [htype] at hwritten
      cases tlv <;> simp [BaseSigTlv.Written] at hwritten

/-- What the codecs write of any value that fits is read as that value. -/
theorem sigTlv_reads {type : TlvType} {w : List UInt8} {tlv : BaseSigTlv} (hfits : tlv.Fits)
    (hw : tlv.Written prms type w) (hmp : Holding mp w) :
    (sigTlv prms.implementSpecific mp.mem type mp).1 = .ok (some tlv.norm) := by
  cases tlv
  case management d =>
      obtain ⟨rfl, hw⟩ := hw
      exact sigManagement_reads hfits hw hmp
  case managementErrorStatus d =>
      obtain ⟨rfl, hw⟩ := hw
      exact sigErrorStatus_reads hfits hw hmp
  case organizationExtension d =>
      obtain ⟨rfl | rfl | rfl, hw⟩ := hw <;>
        exact caseBuild_reads (organizationExtensionF_readsBack hfits) hw hmp
  case pathTrace d =>
      obtain ⟨rfl, hw⟩ := hw
      exact caseBuild_reads (pathTraceF_readsBack d) hw hmp
  case alternateTimeOffsetIndicator d =>
      obtain ⟨rfl, hw⟩ := hw
      exact caseBuild_reads (alternateTimeOffsetIndicatorF_readsBack hfits) hw hmp
  case enhancedAccuracyMetrics d =>
      obtain ⟨rfl, hw⟩ := hw
      exact caseBuild_reads (enhancedAccuracyMetricsF_readsBack d) hw hmp
  case l1Sync d =>
      obtain ⟨rfl, hw⟩ := hw
      exact caseBuild_reads (l1SyncF_readsBack hfits) hw hmp
  case portCommunicationAvailability d =>
      obtain ⟨rfl, hw⟩ := hw
      exact caseBuild_reads (portCommunicationAvailabilityF_readsBack d) hw hmp
  case protocolAddress d =>
      obtain ⟨rfl, hw⟩ := hw
      exact caseBuild_reads (protocolAddressF_readsBack hfits) hw hmp
  case slaveRxSyncTimingData d =>
      obtain ⟨rfl, hw⟩ := hw
      exact caseBuild_reads (slaveRxSyncTimingDataF_readsBack hfits) hw hmp
  case slaveRxSyncComputedData d =>
      obtain ⟨rfl, hw⟩ := hw
      exact caseBuild_reads (slaveRxSyncComputedDataF_readsBack d) hw hmp
  case slaveTxEventTimestamps d =>
      obtain ⟨rfl, hw⟩ := hw
      exact caseBuild_reads (slaveTxEventTimestampsF_readsBack hfits) hw hmp
  case cumulativeRateRatio d =>
      obtain ⟨rfl, hw⟩ := hw
      exact caseBuild_reads (cumulativeRateRatioF_readsBack d) hw hmp
  case slaveDelayTimingDataNp d =>
      obtain ⟨hspec, rfl, hw⟩ := hw
      rw [sigTlv, if_pos hspec]
      exact caseBuild_reads (slaveDelayTimingDataNpF_readsBack hfits) hw hmp

/-- A TLV without a decoder is passed. -/
theorem sigTlv_unread {type : TlvType} (h : Unread prms type) (buf : Nat → UInt8) :
    (sigTlv prms.implementSpecific buf type mp).1 = .ok none := by
  cases type
  case slaveDelayTimingDataNp => exact congrArg Prod.fst (if_neg h)
  all_goals first
    | rfl
    | exact h.elim

/-! ### Where the TLVs are -/

/-- The TLV stands at the offset. -/
structure At (buf : Nat → UInt8) (t : Nat) (f : SigFrame) : Prop where
  type : tlvTypeAt buf t = f.tlvType
  length : lengthAt buf t = f.octets.length
  content : slice buf (t + tlvSizeHdr) f.octets.length = f.octets

theorem length_wire (f : SigFrame) : f.wire.length = tlvSizeHdr + f.octets.length := by
  rw [wire, List.length_append, List.length_append, length_beOctets, length_beOctets, tlvSizeHdr]

/-- The offsets of TLVs one behind the other. -/
def starts : Nat → List SigFrame → List Nat
  | _, [] => []
  | off, f :: rest => off :: starts (off + f.wire.length) rest

/-- What the decoder of a TLV that stands in the message answers. -/
theorem At.ownTlv {buf : Nat → UInt8} {t : Nat} (h : f.At buf t) (hholds : f.Holds prms) :
    Message.ownTlv prms.implementSpecific buf t = .ok (f.tlv.map (·.norm)) := by
  have hmp : Holding (.parseAt buf (t + tlvSizeHdr) f.octets.length) f.octets := ⟨rfl, rfl, h.content⟩
  rw [Message.ownTlv, h.type, h.length]
  rw [Holds] at hholds
  split at hholds
  · next hnone =>
      rw [hnone]
      exact sigTlv_unread hholds buf
  · next tlv hsome =>
      rw [hsome]
      exact sigTlv_reads hholds.1 hholds.2 hmp

theorem At.sigTlvAt {buf : Nat → UInt8} {t : Nat} (h : f.At buf t) (hholds : f.Holds prms) :
    Message.sigTlvAt prms buf t = f.shown prms := by
  rw [Message.sigTlvAt, h.ownTlv hholds, filtered, h.type, shown]
  cases hfilter : prms.filterSignaling && !prms.isSigTlv f.tlvType with
  | true => rw [if_pos (.inr rfl), if_pos rfl]
  | false =>
      rw [if_neg (by simp [hholds.ne_authentication]), if_neg (by simp)]
      cases f.tlv <;> rfl

theorem At.passes {lib : HmacLib} {auth : Option Auth} {buf : Nat → UInt8} {e t : Nat} (h : f.At buf t)
    (hholds : f.Holds prms) (hend : t + f.wire.length ≤ e) : Passes lib prms auth buf e t where
  fits := by
    rw [length_wire] at hend
    rw [h.length]
    omega
  accepted htype := absurd (h.type.symm.trans htype) hholds.ne_authentication
  decodes _ _ := ⟨_, h.ownTlv hholds⟩

end SigFrame

/-! ## A message -/

/-- The receiver checks no authentication of signalling messages. -/
def SigUnchecked (m : Message) : Prop :=
  ∀ a, m.auth = some a → m.prms.rcvAuthHas (rcvAuthSigAll ||| rcvAuthSigLast) = false

theorem SigUnchecked.finish {lib : HmacLib} {m : Message} (h : SigUnchecked m) (buf : Nat → UInt8)
    (s : SigState) : sigFinish lib m.prms m.auth buf s = (.sig, s.log) := by
  cases ha : m.auth with
  | none => rfl
  | some a =>
      simp only [sigFinish]
      rw [h a ha, if_neg (by decide)]

end Message

end PtpMgmt
