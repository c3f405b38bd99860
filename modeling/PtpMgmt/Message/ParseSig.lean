import PtpMgmt.Message.ParseAuth

set_option autoImplicit false

/-! # Parsing a signalling message (`Message::parseSig`)

The loop over the TLVs, with the cursor and the count of octets left as the source keeps them: in two
variables that are moved on their own on every branch. -/

namespace PtpMgmt

open Wire Codec

namespace Message

/-! ## One TLV -/

/-- `caseBuild`: a TLV with a codec function. -/
def caseBuild {α : Type} [Inhabited α] (f : α → Proc α) (mk : α → BaseSigTlv) (mp : MsgProc) :
    Except MngParseError (Option BaseSigTlv) × MsgProc :=
  match (f default).run mp with
  | (none, mp) => (.error mp.err, mp)
  | (some t, mp) => (.ok (some (mk t)), mp)

/-- The text of an error, when there is more than a length octet left for it. -/
def displayData (text : PTPText) (mp : MsgProc) : Option PTPText × MsgProc :=
  if mp.left > 1 then (proc text).run mp else (some text, mp)

/-- A MANAGEMENT_ERROR_STATUS TLV. -/
def sigErrorStatus (spec : ImplementSpecific) (buf : Nat → UInt8) (mp : MsgProc) :
    Except MngParseError (Option BaseSigTlv) × MsgProc :=
  if mp.left < managementErrorTlvSize then (.error .tooSmall, mp)
  else
    let errTlv := mp.cur
    let mp := mp.peek (errTlv + 2) 2
    match findTlvId (UInt16.ofNat (beAt buf (errTlv + 2) 2)) spec with
    | none => (.ok none, mp)
    | some managementId =>
      match displayData default (mp.skip managementErrorTlvSize) with
      | (none, mp) => (.error .tooSmall, mp)
      | (some displayData, mp) =>
        (.ok (some (.managementErrorStatus {
          managementId
          managementErrorId := UInt16.ofNat (beAt buf errTlv 2)
          displayData })), mp.peek errTlv 2)

/-- A MANAGEMENT TLV. The pointer for its data is not set before the call. -/
def sigManagement (spec : ImplementSpecific) (buf : Nat → UInt8) (mp : MsgProc) :
    Except MngParseError (Option BaseSigTlv) × MsgProc :=
  if mp.left < 2 then (.error .tooSmall, mp)
  else
    let value := UInt16.ofNat (beAt buf mp.cur 2)
    let mp := mp.peek mp.cur 2
    match findTlvId value spec with
    | none => (.ok none, mp)
    | some managementId =>
      if mp.left > 2 then
        match callTlvData managementId .wild (mp.skip 2) with
        | (.ok, tlvData, mp) => (.ok (some (.management { managementId, tlvData })), mp)
        | (err, _, mp) => (.error err, mp)
      else (.ok none, mp)

/-- The switch over the type of a TLV. An unknown TLV is ignored. -/
def sigTlv (spec : ImplementSpecific) (buf : Nat → UInt8) (tlvType : TlvType) (mp : MsgProc) :
    Except MngParseError (Option BaseSigTlv) × MsgProc :=
  match tlvType with
  | .organizationExtensionPropagate | .organizationExtensionDoNotPropagate
  | .organizationExtension => caseBuild organizationExtensionF .organizationExtension mp
  | .pathTrace => caseBuild pathTraceF .pathTrace mp
  | .alternateTimeOffsetIndicator =>
    caseBuild alternateTimeOffsetIndicatorF .alternateTimeOffsetIndicator mp
  | .enhancedAccuracyMetrics => caseBuild enhancedAccuracyMetricsF .enhancedAccuracyMetrics mp
  | .l1Sync => caseBuild l1SyncF .l1Sync mp
  | .portCommunicationAvailability =>
    caseBuild portCommunicationAvailabilityF .portCommunicationAvailability mp
  | .protocolAddress => caseBuild protocolAddressF .protocolAddress mp
  | .slaveRxSyncTimingData => caseBuild slaveRxSyncTimingDataF .slaveRxSyncTimingData mp
  | .slaveRxSyncComputedData => caseBuild slaveRxSyncComputedDataF .slaveRxSyncComputedData mp
  | .slaveTxEventTimestamps => caseBuild slaveTxEventTimestampsF .slaveTxEventTimestamps mp
  | .cumulativeRateRatio => caseBuild cumulativeRateRatioF .cumulativeRateRatio mp
  | .managementErrorStatus => sigErrorStatus spec buf mp
  | .management => sigManagement spec buf mp
  | .slaveDelayTimingDataNp =>
    if spec = .linuxptp then caseBuild slaveDelayTimingDataNpF .slaveDelayTimingDataNp mp
    else (.ok none, mp)
  | _ => (.ok none, mp)

/-! ## The loop -/

/-- The variables of the loop, and the list of TLVs it fills. `lastAuthLen` is a `uint16_t`, which holds
    the length of any TLV of a message of at most 65535 octets. -/
structure SigState where
  tlvs : List (TlvType × BaseSigTlv)
  cur : Nat
  leftAll : Int
  lastTlv : TlvType
  lastAuth : Nat
  lastAuthLen : Nat
  errAuth : MngParseError
  log : ParseLog

/-- An AUTHENTICATION TLV. The cursor stays behind the header. -/
def sigAuth (lib : HmacLib) (prms : MsgParams) (auth : Option Auth) (buf : Nat → UInt8)
    (lengthField : Nat) (s : SigState) : Option MngParseError × SigState :=
  match auth with
  | none => (none, s)
  | some a =>
    let s := { s with lastAuthLen := lengthField + tlvSizeHdr, lastAuth := s.cur - tlvSizeHdr }
    if prms.rcvAuthHas rcvAuthSigAll then
      let (errAuth, log) := parseAuth lib a buf s.lastAuth s.lastAuthLen false s.log
      let s := { s with errAuth, log }
      if errAuth ≠ .ok ∧ !prms.rcvAuthHas rcvAuthIgnore then (some errAuth, s) else (none, s)
    else (none, s)

/-- A TLV that is decoded: whatever the decoder left is passed. -/
def sigDecode (prms : MsgParams) (buf : Nat → UInt8) (tlvType : TlvType) (lengthField : Nat)
    (s : SigState) : Option MngParseError × SigState :=
  match sigTlv prms.implementSpecific buf tlvType (.parseAt buf s.cur lengthField) with
  | (.error err, mp) => (some err, { s with log := s.log.decoder s.cur lengthField mp })
  | (.ok tlv, mp) =>
    (none, { s with
      log := s.log.decoder s.cur lengthField mp
      cur := if mp.left > 0 then mp.cur + mp.left.toNat else mp.cur
      tlvs := s.tlvs ++ (tlv.map (tlvType, ·)).toList })

/-- The body of the loop. -/
def sigStep (lib : HmacLib) (prms : MsgParams) (auth : Option Auth) (buf : Nat → UInt8)
    (s : SigState) : Option MngParseError × SigState :=
  let log := (s.log.head s.cur).look s.cur tlvSizeHdr
  let tlvType := TlvType.ofVal (UInt16.ofNat (beAt buf s.cur 2))
  let lengthField := beAt buf (s.cur + 2) 2
  let s := { s with
    log
    lastTlv := tlvType
    cur := s.cur + tlvSizeHdr
    leftAll := s.leftAll - tlvSizeHdr }
  if (lengthField : Int) > s.leftAll then (some .tooSmall, s)
  else
    let s := { s with leftAll := s.leftAll - lengthField }
    if tlvType = .authentication then sigAuth lib prms auth buf lengthField s
    else if prms.filterSignaling ∧ !prms.isSigTlv tlvType then
      -- TLV not in filter is skipped
      (none, { s with cur := s.cur + lengthField })
    else sigDecode prms buf tlvType lengthField s

/-- `while(leftAll >= tlvSizeHdr)`, for at most `fuel` rounds. A loop that would go on longer is
    marked. -/
def sigLoop (lib : HmacLib) (prms : MsgParams) (auth : Option Auth) (buf : Nat → UInt8) :
    Nat → SigState → Option MngParseError × SigState
  | 0, s => if s.leftAll < tlvSizeHdr then (none, s)
      else (none, { s with log := { s.log with stuck := true } })
  | fuel + 1, s =>
    if s.leftAll < tlvSizeHdr then (none, s)
    else
      match sigStep lib prms auth buf s with
      | (some err, s) => (some err, s)
      | (none, s) => sigLoop lib prms auth buf fuel s

/-- What is left to check when the loop is done. -/
def sigFinish (lib : HmacLib) (prms : MsgParams) (auth : Option Auth) (buf : Nat → UInt8)
    (s : SigState) : MngParseError × ParseLog :=
  match auth with
  | none => (.sig, s.log)
  | some a =>
    if prms.rcvAuthHas (rcvAuthSigAll ||| rcvAuthSigLast) then
      if s.lastTlv ≠ .authentication then (.authNone, s.log)
      else
        let (errAuth, log) :=
          if !prms.rcvAuthHas rcvAuthSigAll then
            parseAuth lib a buf s.lastAuth s.lastAuthLen false s.log
          else (s.errAuth, s.log)
        if errAuth ≠ .ok then (errAuth, log) else (.sig, log)
    else (.sig, s.log)

/-- The variables of `parseSig` in front of the loop. -/
def sigStart (cur : Nat) (leftAll : Int) (log : ParseLog) : SigState where
  tlvs := []
  cur
  leftAll
  lastTlv := .other 0
  lastAuth := 0
  lastAuthLen := 0
  errAuth := .ok
  log

/-- `Message::parseSig`, with the cursor behind the header and `leftAll` octets of TLVs. The list of the last
    signalling message is cleared in front of the loop, which does not look at it. -/
def parseSig (lib : HmacLib) (m : Message) (buf : Nat → UInt8) (leftAll : Int) (log : ParseLog) :
    MngParseError × Message × ParseLog :=
  match sigLoop lib m.prms m.auth buf leftAll.toNat (sigStart sigBaseSize leftAll log) with
  | (some err, s) =>
    (err, { m with sigTlvs := s.tlvs, lastSig := true }, s.log.deleteTlvs m.sigTlvs)
  | (none, s) =>
    let (err, log) := sigFinish lib m.prms m.auth buf s
    (err, { m with sigTlvs := s.tlvs, lastSig := true }, log.deleteTlvs m.sigTlvs)

end Message

end PtpMgmt
