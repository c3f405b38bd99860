import PtpMgmt.Cfg
import PtpMgmt.MngTlvs.Codec
import PtpMgmt.SigTlvs

set_option autoImplicit false

/-! # The state of a `Message` (`msg.h`, `msg.cpp`)

What a `Message` holds between calls, the calls that set it up for sending, and the length it plans to
send.

The TLV to send belongs to the user and `setAction` keeps a pointer to it. The model keeps the TLV as
it is at the next build; of the object `setAction` itself looks only at the class.

`m_haveAuth`, `m_sa`, `m_sppID`, `m_keyID` and `m_hmac` are set together and looked at only when
`m_haveAuth` is set. They are one optional value, which carries what `useAuth` and `changeAuth`
establish: the key is in the association, and the HMAC object is the one of that key. -/

namespace PtpMgmt

/-! ## Sizes -/

/-- `sizeof(managementMessage_p)`. -/
def mngMsgSize : Nat := 48

/-- `authTlvSize`. -/
def authTlvSize : Nat := 10

/-- `sigBaseSize`. -/
def sigBaseSize : Nat := 44

def tlvSizeHdr : Nat := 4

def lengthFieldMngBase : Nat := 2

/-- `sizeof(managementErrorTLV_p)`. -/
def managementErrorTlvSize : Nat := 8

def mngMsgBaseSize : Nat := mngMsgSize + tlvSizeHdr + lengthFieldMngBase

def mngMsgMinSize : Nat := mngMsgSize + tlvSizeHdr

/-! ## State -/

/-- Authentication in use. -/
structure Auth where
  sa : SaFile
  sppID : UInt8
  keyID : UInt32
  hmac : HmacKey
  haveKey : sa.haveKey sppID keyID = true
  hmac_eq : hmac = ⟨(sa.spp sppID).htype keyID, (sa.spp sppID).key keyID⟩

/-- Octets of an ICV under the key in use. -/
def Auth.macSize (a : Auth) : Nat := (a.sa.spp a.sppID).macSize a.keyID

/-- The fields of the common header that a parse keeps. -/
structure MsgHeader where
  type : MsgType
  versionPTP : UInt8
  minorVersionPTP : UInt8
  sdoId : UInt32
  domainNumber : UInt8
  isUnicast : Bool
  ptpProfileSpecific : UInt8
  sequence : UInt16
  peer : PortIdentity
  target : PortIdentity

/-- `Message`. -/
structure Message where
  prms : MsgParams
  sendAction : ActionField
  msgLen : Nat
  dataSend : Option BaseMngTlv
  tlvId : MngId
  auth : Option Auth
  hdr : MsgHeader
  replyAction : ActionField
  replayTlvId : MngVals
  mngType : TlvType
  sigTlvs : List (TlvType × BaseSigTlv)
  lastSig : Bool
  dataGet : TlvPtr
  errorId : ManagementErrorId
  errorDisplay : PTPText

namespace Message

/-- `Message::Message(const MsgParams &)`. -/
def init (prms : MsgParams) : Message where
  prms := if prms.transportSpecific > 0xf then { prms with transportSpecific := 0 } else prms
  sendAction := .get
  msgLen := 0
  dataSend := none
  tlvId := .nullPtpManagement
  auth := none
  hdr := {
    type := MsgType.management
    versionPTP := 2
    minorVersionPTP := 1
    sdoId := 0
    domainNumber := 0
    isUnicast := true
    ptpProfileSpecific := 0
    sequence := 0
    peer := default
    target := default }
  replyAction := .response
  replayTlvId := .mng .nullPtpManagement
  mngType := .management
  sigTlvs := []
  lastSig := false
  dataGet := .null
  errorId := 0
  errorDisplay := default

/-! ## Setting up -/

/-- `Message::updateParams`. -/
def updateParams (m : Message) (prms : MsgParams) : Bool × Message :=
  if prms.transportSpecific > 0xf then (false, m) else (true, { m with prms })

/-- `Message::allowedAction`. -/
def allowedAction (m : Message) (id : MngVals) (action : ActionField) : Bool :=
  match action, id with
  | .response, _ => false
  | .acknowledge, _ => false
  | _, .lastMngId => false
  | _, .smpteMngId => false
  | action, .mng id =>
    if m.prms.implementSpecific != .linuxptp && (mngAllVals id).allowed &&& aUseLinuxptp != 0
    then false
    else (mngAllVals id).allowed &&& (1 <<< action.val) != 0

/-- `Message::verifyTlv`. -/
def verifyTlv (id : MngId) (tlv : Option BaseMngTlv) : Bool :=
  match tlv with
  | none => false
  | some tlv => (mngAllVals id).func != .na && (tlv.cast? id).isSome

/-- `Message::setAction`. -/
def setAction (m : Message) (actionField : ActionField) (tlvId : MngVals)
    (dataSend : Option BaseMngTlv) : Bool × Message :=
  if !m.allowedAction tlvId actionField then (false, m)
  else
    match tlvId with
    | .mng id =>
      if id ≠ .nullPtpManagement ∧ actionField ≠ .get ∧ (mngAllVals id).size ≠ 0 then
        if !verifyTlv id dataSend then (false, m)
        else (true, { m with dataSend, sendAction := actionField, tlvId := id })
      else (true, { m with dataSend := none, sendAction := actionField, tlvId := id })
    | _ => (false, m)

/-- `Message::clearData`. -/
def clearData (m : Message) : Message :=
  match m.dataSend with
  | some _ => { m with sendAction := .get, dataSend := none }
  | none => m

/-- Set the key up; shared by `useAuth` and both `changeAuth`. -/
def selectKey (lib : HmacLib) (m : Message) (sa : SaFile) (sppID : UInt8) (keyID : UInt32) :
    Bool × Message :=
  if h : sa.haveKey sppID keyID = true then
    let s := sa.spp sppID
    match hmacAllocHMAC lib (s.htype keyID) (s.key keyID) with
    | none => (false, m)
    | some _ =>
      (true, { m with auth := some {
        sa, sppID, keyID
        hmac := ⟨s.htype keyID, s.key keyID⟩
        haveKey := h
        hmac_eq := rfl } })
  else (false, m)

/-- `Message::useAuth(const SaFile &, uint8_t, uint32_t)`. The overload that takes a configuration
    reads the association from a file and calls this one. -/
def useAuth (lib : HmacLib) (m : Message) (sa : SaFile) (sppID : UInt8) (keyID : UInt32) :
    Bool × Message :=
  selectKey lib m sa sppID keyID

/-- `Message::changeAuth(uint8_t, uint32_t)`. -/
def changeAuth (lib : HmacLib) (m : Message) (sppID : UInt8) (keyID : UInt32) : Bool × Message :=
  match m.auth with
  | none => (false, m)
  | some a => selectKey lib m a.sa sppID keyID

/-- `Message::changeAuth(uint32_t)`. -/
def changeAuthKey (lib : HmacLib) (m : Message) (keyID : UInt32) : Bool × Message :=
  match m.auth with
  | none => (false, m)
  | some a => selectKey lib m a.sa a.sppID keyID

/-- `Message::disableAuth`. -/
def disableAuth (m : Message) : Message := { m with auth := none }

/-! ## Planned length -/

/-- The octets the authentication TLV adds. -/
def addAuth (m : Message) : Nat :=
  match m.auth with
  | some a => if m.prms.sendAuth then authTlvSize + a.macSize else 0
  | none => 0

/-- `Message::getMsgPlanedLen`. The check that the id is in the table is the type of `tlvId`. -/
def getMsgPlanedLen (m : Message) : Int :=
  let tlv := if m.sendAction ≠ .get then m.dataSend else none
  if m.sendAction = .get ∧ m.prms.useZeroGet then mngMsgBaseSize + m.addAuth
  else if (mngAllVals m.tlvId).size = -2 ∧ tlv.isNone ∧ m.sendAction ≠ .get then -2
  else
    let ret :=
      if (mngAllVals m.tlvId).size = -2 then dataFieldSize m.tlvId tlv
      else (mngAllVals m.tlvId).size
    if ret < 0 then ret
    else (if ret % 2 = 1 then ret + 1 else ret) + mngMsgBaseSize + m.addAuth

end Message

end PtpMgmt
