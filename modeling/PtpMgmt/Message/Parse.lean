import PtpMgmt.Message.Build
import PtpMgmt.Message.ParseSig

set_option autoImplicit false

/-! # Parsing a message (`Message::parse`)

The fields of the `Message` are set where the source sets them, so a parse that fails half way has
changed those it came by.

The pointer to the data of the last message deletes what it holds when it is set again. Where that was
never assigned the source has no behaviour any more; the log has it, and the model goes on.

A null buffer is not modelled; the source does not look for one. -/

namespace PtpMgmt

open Wire Codec

/-- The action of a reply or of a command that is received. -/
def ActionField.ofReply (v : UInt8) : Option ActionField :=
  if v = ActionField.response.val then some .response
  else if v = ActionField.acknowledge.val then some .acknowledge
  else if v = ActionField.command.val then some .command
  else none

namespace Message

/-! ## The header -/

/-- Offset of the actionField. -/
def actionFieldOff : Nat := sigBaseSize + 2

/-- Offset of the logMessageInterval. -/
def logMessageIntervalOff : Nat := 33

def portIdentityAt (buf : Nat → UInt8) (off : Nat) : PortIdentity where
  clockIdentity := ⟨Octets.ofList 8 (slice buf off 8)⟩
  portNumber := UInt16.ofNat (beAt buf (off + 8) 2)

/-- The fields of the header behind the version. -/
def headerFields (hdr : MsgHeader) (buf : Nat → UInt8) : MsgHeader :=
  { hdr with
    sdoId := (buf 5).toUInt32 ||| ((buf 0 &&& 0xf0).toUInt32 <<< 4)
    domainNumber := buf 4
    isUnicast := buf 6 &&& unicastFlag != 0
    ptpProfileSpecific := buf 6 &&& (ptpProfileSpecific1 ||| ptpProfileSpecific2)
    sequence := UInt16.ofNat (beAt buf 30 2)
    peer := portIdentityAt buf 20
    target := portIdentityAt buf 34 }

/-- The version and the header behind the type of the message. -/
def parseHeader (m : Message) (buf : Nat → UInt8) (log : ParseLog) : Bool × Message × ParseLog :=
  let log := log.look 1 1
  let m := { m with hdr := { m.hdr with
    versionPTP := buf 1 &&& 0xf
    minorVersionPTP := buf 1 >>> 4 } }
  if buf 1 &&& 0xf ≠ ptpMajorVer then (false, m, log)
  else
    let log := log.look logMessageIntervalOff 1
    if buf logMessageIntervalOff ≠ logMessageIntervalDef then (false, m, log)
    else
      let log := (((log.look 4 3).look 30 2).look 20 10).look 34 10
      (true, { m with hdr := headerFields m.hdr buf }, log)

/-! ## Management messages -/

/-- `Message::checkReplyAction`, of the id that was found. -/
def checkReplyAction (id : MngId) (actionField : ActionField) : Bool :=
  match actionField with
  | .acknowledge => (mngAllVals id).allowed &&& aCommand != 0
  | .response => (mngAllVals id).allowed &&& (aSet ||| aGet) != 0
  | _ => false

/-- Offset of the content of the management TLV. -/
def mngTlvOff : Nat := mngMsgMinSize

/-- MANAGEMENT_ERROR_STATUS. The text of an earlier error stays where there is none. A text that cannot
    be read leaves the text as it was; its lengthField, which nothing looks at, is not followed. -/
def parseErrorStatus (m : Message) (buf : Nat → UInt8) (actionField : ActionField) (tlvSize : Nat)
    (errAuth : MngParseError) (log : ParseLog) : MngParseError × Message × ParseLog :=
  if actionField ≠ .response ∧ actionField ≠ .acknowledge then (.action, m, log)
  else
    let m := { m with replyAction := actionField }
    if tlvSize < managementErrorTlvSize then (.tooSmall, m, log)
    else
      let mp := (MsgProc.parseAt buf mngTlvOff tlvSize).peek (mngTlvOff + 2) 2
      match findTlvId (UInt16.ofNat (beAt buf (mngTlvOff + 2) 2)) m.prms.implementSpecific with
      | none => (.invalidId, m, log.decoder mngTlvOff tlvSize mp)
      | some id =>
        let m := { m with replayTlvId := .mng id }
        if !checkReplyAction id actionField then (.action, m, log.decoder mngTlvOff tlvSize mp)
        else
          let mp := mp.peek mngTlvOff 2
          let m := { m with errorId := UInt16.ofNat (beAt buf mngTlvOff 2) }
          match displayData m.errorDisplay (mp.skip managementErrorTlvSize) with
          | (none, mp) => (.tooSmall, m, log.decoder mngTlvOff tlvSize mp)
          | (some errorDisplay, mp) =>
            (if errAuth ≠ .ok then errAuth else .msg, { m with errorDisplay },
              log.decoder mngTlvOff tlvSize mp)

/-- MANAGEMENT. The data of an earlier message stays where there is none. -/
def parseManagement (m : Message) (buf : Nat → UInt8) (actionField : ActionField) (tlvSize : Nat)
    (errAuth : MngParseError) (log : ParseLog) : MngParseError × Message × ParseLog :=
  if actionField ≠ .response ∧ actionField ≠ .acknowledge then (.action, m, log)
  else
    let m := { m with replyAction := actionField }
    if tlvSize < lengthFieldMngBase then (.tooSmall, m, log)
    else
      let mp := (MsgProc.parseAt buf mngTlvOff tlvSize).peek mngTlvOff 2
      match findTlvId (UInt16.ofNat (beAt buf mngTlvOff 2)) m.prms.implementSpecific with
      | none => (.invalidId, m, log.decoder mngTlvOff tlvSize mp)
      | some id =>
        let m := { m with replayTlvId := .mng id }
        if !checkReplyAction id actionField then (.action, m, log.decoder mngTlvOff tlvSize mp)
        else if tlvSize = lengthFieldMngBase then (errAuth, m, log.decoder mngTlvOff tlvSize mp)
        else
          -- the pointer for the TLV is not set before the call
          match callTlvData id .wild (mp.skip lengthFieldMngBase) with
          | (.ok, tlv, mp) =>
            (errAuth, { m with dataGet := tlv },
              (log.decoder mngTlvOff tlvSize mp).delete m.dataGet)
          | (err, _, mp) => (err, m, log.decoder mngTlvOff tlvSize mp)

/-- ORGANIZATION_EXTENSION, which is the SMPTE TLV where the user asked for it. -/
def parseSMPTE (m : Message) (buf : Nat → UInt8) (actionField : ActionField) (tlvSize : Nat)
    (errAuth : MngParseError) (log : ParseLog) : MngParseError × Message × ParseLog :=
  if !m.prms.rcvSMPTEOrg then (.invalidTlv, m, log)
  else if actionField ≠ .command then (.action, m, log)
  else
    let m := { m with replyAction := .command }
    match (smpteOrganizationExtensionF default).run (MsgProc.parseAt buf mngTlvOff tlvSize) with
    | (none, mp) => (mp.err, m, log.decoder mngTlvOff tlvSize mp)
    | (some d, mp) =>
      (if errAuth ≠ .ok then errAuth else .smpte,
        { m with dataGet := .obj (.smpte d), replayTlvId := .smpteMngId },
        (log.decoder mngTlvOff tlvSize mp).delete m.dataGet)

/-- The switch over the type of the management TLV. -/
def parseMngTlv (m : Message) (buf : Nat → UInt8) (tlvType : TlvType) (actionField : ActionField)
    (tlvSize : Nat) (errAuth : MngParseError) (log : ParseLog) :
    MngParseError × Message × ParseLog :=
  match tlvType with
  | .managementErrorStatus => parseErrorStatus m buf actionField tlvSize errAuth log
  | .management => parseManagement m buf actionField tlvSize errAuth log
  | .organizationExtension => parseSMPTE m buf actionField tlvSize errAuth log
  | _ => (.invalidTlv, m, log)

/-- The authentication TLV behind the management TLV, where it is asked for. -/
def parseMngAuth (lib : HmacLib) (m : Message) (buf : Nat → UInt8) (auth : Nat) (left : Int)
    (log : ParseLog) : MngParseError × ParseLog :=
  match m.auth with
  | none => (.ok, log)
  | some a =>
    if m.prms.rcvAuthHas rcvAuthMng then parseAuth lib a buf auth left true log else (.ok, log)

/-- The management part of a message of `msgSize` octets. -/
def parseMng (lib : HmacLib) (m : Message) (buf : Nat → UInt8) (msgSize : Nat) (log : ParseLog) :
    MngParseError × Message × ParseLog :=
  let m := { m with lastSig := false }
  let log := log.look actionFieldOff 1
  match ActionField.ofReply (buf actionFieldOff &&& 0xf) with
  | none => (.action, m, log)
  | some actionField =>
    let log := log.look mngMsgSize tlvSizeHdr
    let tlvType := TlvType.ofVal (UInt16.ofNat (beAt buf mngMsgSize 2))
    let m := { m with mngType := tlvType }
    let tlvSize := beAt buf lengthFieldOff 2
    let left : Int := (msgSize : Int) - mngMsgMinSize
    if left < tlvSize ∨ tlvSize % 2 = 1 then (.tooSmall, m, log)
    else
      let (errAuth, log) := parseMngAuth lib m buf (mngTlvOff + tlvSize) (left - tlvSize) log
      if errAuth ≠ .ok ∧ !m.prms.rcvAuthHas rcvAuthIgnore then (errAuth, m, log)
      else parseMngTlv m buf tlvType actionField tlvSize errAuth log

/-! ## All messages -/

/-- `Message::parse`, of a buffer of `bufSize` octets. -/
def parse (lib : HmacLib) (m : Message) (buf : Nat → UInt8) (bufSize : Int) :
    MngParseError × Message × ParseLog :=
  if bufSize < sigBaseSize then (.tooSmall, m, .init)
  else
    let log := ParseLog.init.look messageLengthOff 2
    let msgSize := beAt buf messageLengthOff 2
    if msgSize > bufSize then (.header, m, log)
    else
      let log := log.look 0 1
      let type : MsgType := buf 0 &&& 0xf
      let m := { m with hdr := { m.hdr with type } }
      if type = MsgType.signaling then
        if !m.prms.rcvSignaling then (.header, m, log)
        else
          match parseHeader m buf log with
          | (false, m, log) => (.header, m, log)
          | (true, m, log) => parseSig lib m buf ((msgSize : Int) - sigBaseSize) log
      else if type = MsgType.management then
        if msgSize < mngMsgMinSize then (.tooSmall, m, log)
        else
          match parseHeader m buf log with
          | (false, m, log) => (.header, m, log)
          | (true, m, log) => parseMng lib m buf msgSize log
      else (.header, m, log)

/-! ## The getters -/

def getTlvId (m : Message) : MngVals := m.replayTlvId

def getData (m : Message) : TlvPtr := m.dataGet

def getErrId (m : Message) : ManagementErrorId := m.errorId

def getErrDisplay (m : Message) : List UInt8 := m.errorDisplay.textField

/-- What `Message::traversSigTlvs` goes over. -/
def traversSigTlvs (m : Message) : List (TlvType × BaseSigTlv) := if m.lastSig then m.sigTlvs else []

end Message

end PtpMgmt
