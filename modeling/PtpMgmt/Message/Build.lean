import PtpMgmt.Message.Basic

set_option autoImplicit false

/-! # Building a message (`Message::build`)

The message is written into a buffer of the caller, modelled as a memory that goes on behind the end of
the buffer. What is written where is logged in the `MsgProc`, also when the build fails.

The conversions between `size_t` and `ssize_t` are exact: no buffer is larger than `PTRDIFF_MAX`. A
null buffer is not modelled; the source refuses it like one that is too small. -/

namespace PtpMgmt

open Wire Codec

namespace Message

/-- Write `w` at an offset of the buffer, outside of the walk. -/
def poke (mp : MsgProc) (off : Nat) (w : List UInt8) : MsgProc :=
  { mp with mem := store mp.mem off w, writes := mp.writes ++ List.range' off w.length }

/-- `ptp_major_ver`. -/
def ptpMajorVer : UInt8 := 0x2

/-- `controlFieldMng`. -/
def controlFieldMng : UInt8 := 0x04

/-- `logMessageIntervalDef`. -/
def logMessageIntervalDef : UInt8 := 0x7f

/-- `flagField_e`. -/
def unicastFlag : UInt8 := 1 <<< (2 : UInt8)

def ptpProfileSpecific1 : UInt8 := 1 <<< (5 : UInt8)

def ptpProfileSpecific2 : UInt8 := 1 <<< (6 : UInt8)

def portIdentityOctets (d : PortIdentity) : List UInt8 :=
  d.clockIdentity.v.toList ++ beOctets 2 d.portNumber.toNat

/-- The `managementMessage_p` that a build writes. The messageLength is still zero. -/
def headerOctets (m : Message) (sequence : UInt16) : List UInt8 :=
  [MsgType.management ||| (m.prms.transportSpecific <<< 4),
   (m.prms.minorVersion <<< 4) ||| ptpMajorVer] ++
  beOctets 2 0 ++
  [m.prms.domainNumber, 0, if m.prms.isUnicast then unicastFlag else 0, 0] ++
  List.replicate 8 0 ++
  List.replicate 4 0 ++
  portIdentityOctets m.prms.selfId ++
  beOctets 2 sequence.toNat ++
  [controlFieldMng, logMessageIntervalDef] ++
  portIdentityOctets m.prms.target ++
  [m.prms.boundaryHops, m.prms.boundaryHops, m.sendAction.val, 0]

/-- Offset of the messageLength. -/
def messageLengthOff : Nat := 2

/-- Offset of the lengthField of the management TLV. -/
def lengthFieldOff : Nat := mngMsgSize + 2

/-- The walk over the dataField, with the header and the start of the TLV written. -/
def buildStart (m : Message) (mem : Nat → UInt8) (bufSize : Nat) (sequence : UInt16) : MsgProc :=
  let mp : MsgProc := {
    build := true
    cur := mngMsgBaseSize
    left := bufSize - mngMsgBaseSize
    size := 0
    err := .tooSmall
    mem
    reads := []
    writes := []
    stuck := false }
  let mp := poke mp 0 (m.headerOctets sequence)
  let mp := poke mp mngMsgSize (beOctets 2 0x0001)
  poke mp (mngMsgSize + tlvSizeHdr) (beOctets 2 (mngAllVals m.tlvId).value.toNat)

/-- The dataField: the TLV to send, or zeros of the size it would have. -/
def buildData (m : Message) (mp : MsgProc) : MngParseError × MsgProc :=
  if m.sendAction ≠ .get ∧ m.dataSend.isSome then
    match callTlvData m.tlvId (.ofOption m.dataSend) mp with
    | (.ok, _, mp) =>
      if mp.size % 2 = 1 then
        -- the reserved octet that makes the size even
        match procRes.run mp with
        | (none, mp) => (.tooSmall, mp)
        | (some _, mp) => (.ok, mp)
      else (.ok, mp)
    | (err, _, mp) => (err, mp)
  else if m.sendAction = .get ∧ !m.prms.useZeroGet ∧ (mngAllVals m.tlvId).size ≠ 0 then
    let tlvSize :=
      if (mngAllVals m.tlvId).size = -2 then dataFieldSize m.tlvId none
      else (mngAllVals m.tlvId).size
    if tlvSize < 0 then (.invalidId, mp)
    else
      let tlvSize := if tlvSize % 2 = 1 then tlvSize + 1 else tlvSize
      if tlvSize > mp.left then (.tooSmall, mp)
      else (.ok, mp.emit (List.replicate tlvSize.toNat 0))
  else (.ok, mp)

/-- The `authenticationTlv_p` that a build writes. -/
def authTlvOctets (a : Auth) (macSize : Nat) : List UInt8 :=
  beOctets 2 0x8009 ++ beOctets 2 (authTlvSize + macSize - tlvSizeHdr) ++
  [a.sppID, 0] ++ beOctets 4 a.keyID.toNat

/-- The authentication TLV behind the management TLV: the ICV covers every octet before it. -/
def buildAuth (lib : HmacLib) (m : Message) (a : Auth) (mp : MsgProc) (size : Nat) :
    MngParseError × Message × MsgProc :=
  let macSize := a.macSize
  if ((authTlvSize + macSize : Nat) : Int) > mp.left then (.tooSmall, m, mp)
  else
    let mp := mp.emit (authTlvOctets a macSize)
    let size := size + authTlvSize + macSize
    let mp := poke mp messageLengthOff (beOctets 2 size)
    match a.hmac.digest lib (slice mp.mem 0 (size - macSize)) macSize with
    | none => (.auth, m, mp)
    | some mac => (.ok, { m with msgLen := size }, mp.put mac)

/-- The part of the build behind the dataField. -/
def buildFinish (lib : HmacLib) (m : Message) (mp : MsgProc) : MngParseError × Message × MsgProc :=
  let size := mngMsgBaseSize + mp.size
  if size % 2 = 1 then (.size, m, mp)
  else
    let mp := poke mp lengthFieldOff (beOctets 2 (lengthFieldMngBase + mp.size))
    match m.auth with
    | some a =>
      if m.prms.sendAuth then buildAuth lib m a mp size
      else (.ok, { m with msgLen := size }, poke mp messageLengthOff (beOctets 2 size))
    | none => (.ok, { m with msgLen := size }, poke mp messageLengthOff (beOctets 2 size))

/-- `Message::build`. The `MsgProc` of the answer holds the memory and the log of the writes. -/
def build (lib : HmacLib) (m : Message) (mem : Nat → UInt8) (bufSize : Nat) (sequence : UInt16) :
    MngParseError × Message × MsgProc :=
  if bufSize < mngMsgBaseSize then
    (.tooSmall, m,
      { build := false, cur := 0, left := 0, size := 0, err := .tooSmall, mem, reads := [],
        writes := [], stuck := false })
  else
    match m.buildData (m.buildStart mem bufSize sequence) with
    | (.ok, mp) => m.buildFinish lib mp
    | (err, mp) => (err, m, mp)

end Message

end PtpMgmt
