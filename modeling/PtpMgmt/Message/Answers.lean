import PtpMgmt.Message.History
import PtpMgmt.Message.Length
import PtpMgmt.Message.Requests

set_option autoImplicit false

/-! # Replies from the value of their TLV

The other way round than the proofs about what a parse accepts: from a TLV value to the message that carries
it. A frame of a reply around the octets of a value is accepted, and the value is read from it. What a build
writes is such a frame, but for its action: a SET or a COMMAND that comes back as a reply is read as it was
sent. -/

namespace PtpMgmt

open Wire Codec

/-- What a codec writes is one list of octets. -/
theorem builds_unique {α : Type} {c : Proc α} {a b : α} {v w : List UInt8} (hv : Builds c a v)
    (hw : Builds c b w) : v = w := by
  let s : MsgProc := {
    build := true
    cur := 0
    left := v.length + w.length
    size := 0
    err := .tooSmall
    mem := fun _ => 0
    reads := []
    writes := []
    stuck := false }
  have hleft : 0 ≤ s.left := Int.natCast_nonneg (v.length + w.length)
  have hrun := ((hv s rfl hleft).1 (show (v.length : Int) ≤ v.length + w.length by omega)).symm.trans
    ((hw s rfl hleft).1 (show (w.length : Int) ≤ v.length + w.length by omega))
  have hcursor : s.emit v = s.emit w := congrArg Prod.snd hrun
  have hlen : v.length = w.length := by
    have hsize := congrArg Cursor.size hcursor
    simpa using hsize
  calc v = slice (s.emit v).mem 0 v.length := (slice_store_self _ 0 v).symm
    _ = slice (s.emit w).mem 0 w.length := by rw [hcursor, hlen]
    _ = w := slice_store_self _ 0 w

namespace Message

/-! ## Frames of replies -/

/-- The octets of a reply with the dataField `w`, behind which an odd one has one more octet. -/
structure ReplyFrame (id : MngId) (actionField : ActionField) (w : List UInt8) (buf : Nat → UInt8)
    (bufSize : Int) : Prop where
  header : MngHeader buf bufSize
  action : buf actionFieldOff &&& 0xf = actionField.val
  tlvType : mngTlvType buf = .management
  lengthField : mngLength buf = lengthFieldMngBase + padEven w.length
  managementId : beAt buf mngTlvOff 2 = (mngAllVals id).value.toNat
  dataField : slice buf mngMsgBaseSize w.length = w
  rest_nonneg : 0 ≤ mngRest buf (beAt buf messageLengthOff 2)

/-- The receiver knows the id. -/
def Knows (prms : MsgParams) (id : MngId) : Prop :=
  prms.implementSpecific = .linuxptp ∨ (mngAllVals id).allowed &&& aUseLinuxptp = 0

theorem findTlvId_of_knows {prms : MsgParams} {id : MngId} (h : Knows prms id) :
    findTlvId (mngAllVals id).value prms.implementSpecific = some id := by
  have hfind : MngId.all.find? (fun other => (mngAllVals other).value == (mngAllVals id).value) = some id := by
    cases id <;> rfl
  rw [findTlvId, hfind]
  simp only
  rw [if_neg]
  intro hblocked
  rw [Bool.and_eq_true, bne_iff_ne, bne_iff_ne] at hblocked
  exact h.elim hblocked.1 hblocked.2

theorem ofReply_val {actionField : ActionField} (h : actionField = .response ∨ actionField = .acknowledge) :
    ActionField.ofReply actionField.val = some actionField := by
  rcases h with rfl | rfl <;> rfl

/-- Only replies have an action that is checked for their id. -/
theorem reply_of_check {id : MngId} {actionField : ActionField} (h : checkReplyAction id actionField = true) :
    actionField = .response ∨ actionField = .acknowledge := by
  cases actionField <;> simp_all [checkReplyAction]

section Read

variable {lib : HmacLib} {r : Message} {id : MngId} {actionField : ActionField} {w : List UInt8}
  {buf : Nat → UInt8} {bufSize : Int}

theorem ReplyFrame.mngFrame (h : ReplyFrame id actionField w buf bufSize)
    (hcheck : checkReplyAction id actionField = true) :
    MngFrame buf (beAt buf messageLengthOff 2) actionField where
  action_eq := by
    rw [h.action]
    exact ofReply_val (reply_of_check hcheck)
  rest_nonneg := h.rest_nonneg
  even := by
    have hlen := h.lengthField
    rw [mngLength, padEven, lengthFieldMngBase] at hlen
    omega

/-- The decoder of the id reads the value that the dataField was built from. -/
theorem ReplyFrame.readTlv (h : ReplyFrame id actionField w buf bufSize) {d a : Tlv id}
    (hcodec : (mngAllVals id).func ≠ .na) (hfits : tlvFits id d) (hw : Builds (tlvF id d) a w) :
    ∃ mp, Message.readTlv buf id = (.ok, .obj (.tlv id (tlvNorm id d)), mp) := by
  obtain ⟨hvalues, haddr, hcounts⟩ := hfits
  obtain ⟨w', -, hw', hparse⟩ := tlvF_roundTrips id d hvalues haddr
  obtain rfl := builds_unique hw hw'
  let mp := ((MsgProc.parseAt buf mngTlvOff (mngLength buf)).peek mngTlvOff 2).skip lengthFieldMngBase
  have hleft : mp.left = padEven w.length := by
    show (mngLength buf : Int) - lengthFieldMngBase = _
    rw [h.lengthField]
    omega
  rw [padEven] at hleft
  have hrun := hparse hcounts mp.fresh rfl (by simp only [MsgProc.fresh_left]; omega)
    (by simp only [MsgProc.fresh_left]; omega) h.dataField
  exact ⟨_, by rw [Message.readTlv, callTlvData_parse _ hcodec rfl, hrun]⟩

theorem ReplyFrame.goodReply (h : ReplyFrame id actionField w buf bufSize)
    (hcheck : checkReplyAction id actionField = true) (hknows : Knows r.prms id)
    (hreads : (Message.readTlv buf id).1 = .ok) :
    GoodReply r.prms.implementSpecific buf actionField id where
  action := reply_of_check hcheck
  min_le := by
    rw [h.lengthField]
    exact Nat.le_add_right _ _
  found := by
    rw [replyId, h.managementId, UInt16.ofNat_toNat]
    exact findTlvId_of_knows hknows
  allowed := hcheck
  decodes _ := hreads
/-- The receiver takes the authentication of the message, if it asks for one. -/
def AuthTaken (lib : HmacLib) (r : Message) (buf : Nat → UInt8) : Prop :=
  ∀ a, r.auth = some a → r.prms.rcvAuthHas rcvAuthMng = true →
    (parseAuth lib a buf (mngEnd buf) (mngRest buf (beAt buf messageLengthOff 2)) true .init).1 = .ok

theorem AuthTaken.mngAuth (h : AuthTaken lib r buf) (hdr : MsgHeader) (log : ParseLog) :
    (parseMngAuth lib { r with hdr } buf (mngEnd buf) (mngRest buf (beAt buf messageLengthOff 2)) log).1
      = .ok := by
  rw [parseMngAuth]
  split
  · rfl
  · next a ha =>
      split
      · next hrcv => exact parseAuth_ok_iff.2 (parseAuth_ok_iff.1 (h a ha hrcv))
      · rfl

/-- The object behind a frame of a reply. -/
theorem ReplyFrame.parse (h : ReplyFrame id actionField w buf bufSize)
    (hcheck : checkReplyAction id actionField = true) (hknows : Knows r.prms id) (hauth : AuthTaken lib r buf)
    {d a : Tlv id} (hcodec : (mngAllVals id).func ≠ .na) (hfits : tlvFits id d)
    (hw : Builds (tlvF id d) a w) (hne : w ≠ []) :
    ∃ log, r.parse lib buf bufSize = (.ok, { r with
      hdr := readHeader r.hdr buf
      lastSig := false
      mngType := .management
      replyAction := actionField
      replayTlvId := .mng id
      dataGet := .obj (.tlv id (tlvNorm id d)) }, log) := by
  obtain ⟨mp, hreads⟩ := h.readTlv hcodec hfits hw
  have hgood := h.goodReply hcheck hknows (congrArg Prod.fst hreads)
  obtain ⟨log, -, hmng⟩ := parseMng_framed lib { r with hdr := readHeader r.hdr buf } headerLog
    (h.mngFrame hcheck)
  obtain ⟨log', hreply⟩ := parseManagement_reply
    (m := { r with hdr := readHeader r.hdr buf }.framed buf) .ok
    (parseMngAuth lib { r with hdr := readHeader r.hdr buf } buf (mngEnd buf)
      (mngRest buf (beAt buf messageLengthOff 2)) log).2 hgood
  have hdata : mngLength buf ≠ lengthFieldMngBase := by
    have hpos := List.length_pos_iff.2 hne
    rw [h.lengthField, padEven]
    omega
  rw [parse_eq_parseMng lib r h.header, hmng, hauth.mngAuth, if_neg (by simp), h.tlvType, parseMngTlv, hreply,
    if_neg hdata, hreads, framed, h.tlvType]
  exact ⟨log', rfl⟩

end Read

/-- **Every value is read from its reply**: whatever the value of a TLV is, if it fits the wire, a reply that
    carries what the codec writes of it is accepted, and the getters report its id and the value, with its
    flags cut to their mask and its lengths and counts as they are. -/
theorem parse_reply_tlv (lib : HmacLib) (r : Message) (id : MngId) (hcodec : (mngAllVals id).func ≠ .na)
    (d : Tlv id) (hfits : tlvFits id d) {a : Tlv id} {w : List UInt8} (hw : Builds (tlvF id d) a w)
    (hne : w ≠ []) {actionField : ActionField} {buf : Nat → UInt8} {bufSize : Int}
    (hframe : ReplyFrame id actionField w buf bufSize) (hcheck : checkReplyAction id actionField = true)
    (hknows : Knows r.prms id) (hauth : AuthTaken lib r buf) :
    (r.parse lib buf bufSize).1 = .ok ∧
    (r.parse lib buf bufSize).2.1.replyAction = actionField ∧
    (r.parse lib buf bufSize).2.1.getTlvId = .mng id ∧
    (r.parse lib buf bufSize).2.1.getData = .obj (.tlv id (tlvNorm id d)) := by
  obtain ⟨log, hparse⟩ := hframe.parse hcheck hknows hauth hcodec hfits hw hne
  rw [hparse]
  exact ⟨rfl, rfl, rfl, rfl⟩

theorem parse_reply_tlv_priority1 :
    ((init MsgParams.init).parse zeroLib (priority1Reply 7) 56).2.1.getData = .obj (.tlv .priority1 ⟨7⟩) := by
  have haccepted := priority1Reply_accepted 7
  have hframe : ReplyFrame .priority1 .response [7] (priority1Reply 7) 56 :=
    { header := haccepted.header
      action := by decide
      tlvType := priority1Reply_type 7
      lengthField := priority1Reply_length 7
      managementId := by
        rw [beAt_priority1Reply _ (by decide)]
        decide
      dataField := by decide
      rest_nonneg := haccepted.frame.rest_nonneg }
  have hw : Builds (tlvF .priority1 ⟨7⟩) ⟨7⟩ [7] :=
    Builds.bind (procUInt8_roundTrips 7 0).builds (Builds.pure _)
  exact (parse_reply_tlv zeroLib (init MsgParams.init) .priority1 (by decide) ⟨7⟩
    ⟨trivial, trivial, trivial⟩ hw (by decide) hframe (by decide) (.inl rfl) nofun).2.2.2

/-! ## What is sent and comes back -/

section Back

variable {lib : HmacLib} {m : Message} {mem : Nat → UInt8} {bufSize : Nat} {sequence : UInt16}

/-- The action of the reply to a SET or to a COMMAND. -/
def replyTo : ActionField → ActionField
  | .command => .acknowledge
  | _ => .response

/-- The id of a TLV to send allows the action to send. -/
theorem Reachable.dataAllowed (h : Reachable lib m) (hdata : m.dataSend.isSome = true) :
    ((mngAllVals m.tlvId).allowed &&& (1 <<< m.sendAction.val) != 0) = true :=
  h.sends (P := fun action id data => data = true →
    ((mngAllVals id).allowed &&& (1 <<< action.val) != 0) = true) (fun _ _ _ hbit _ => hbit)
    (fun _ hnone => absurd hnone (by decide)) hdata

/-- The octets of a built message, but for its action and for what stands behind its TLV. -/
def ComesBack (lib : HmacLib) (m : Message) (mem : Nat → UInt8) (bufSize : Nat) (sequence : UInt16)
    (buf : Nat → UInt8) : Prop :=
  ∀ o, o < (m.build lib mem bufSize sequence).2.1.msgLen - m.addAuth → o ≠ actionFieldOff →
    buf o = (m.build lib mem bufSize sequence).2.2.mem o

theorem ComesBack.slice {buf : Nat → UInt8} (h : ComesBack lib m mem bufSize sequence buf) {off n : Nat}
    (hend : off + n ≤ (m.build lib mem bufSize sequence).2.1.msgLen - m.addAuth)
    (haction : off + n ≤ actionFieldOff ∨ actionFieldOff < off) :
    Wire.slice buf off n = Wire.slice (m.build lib mem bufSize sequence).2.2.mem off n :=
  slice_congr fun o hle hlt => h o (by omega) (by omega)

/-- The header that comes back. -/
theorem ComesBack.header {buf : Nat → UInt8} (h : ComesBack lib m mem bufSize sequence buf)
    (hok : (m.build lib mem bufSize sequence).1 = .ok) {o : Nat} (ho : o < mngMsgSize)
    (hlength : o < messageLengthOff ∨ messageLengthOff + 2 ≤ o) (haction : o ≠ actionFieldOff) :
    buf o = (m.headerOctets sequence).get ⟨o, by simpa using ho⟩ := by
  obtain ⟨w, hlen, -⟩ := built_of_build hok
  rw [h o (by rw [hlen]; exact Nat.lt_of_lt_of_le ho (by simp only [mngMsgBaseSize, mngMsgSize]; omega)) haction,
    build_header hok ho hlength]

/-- Fields of the header that comes back. -/
theorem ComesBack.headerSlice {buf : Nat → UInt8} (h : ComesBack lib m mem bufSize sequence buf)
    (hok : (m.build lib mem bufSize sequence).1 = .ok) {off n : Nat} (hlow : messageLengthOff + 2 ≤ off)
    (hhigh : off + n ≤ actionFieldOff) :
    Wire.slice buf off n = ((m.headerOctets sequence).drop off).take n := by
  have hbase : actionFieldOff < mngMsgSize := by decide
  refine List.ext_getElem (by rw [length_slice, List.length_take, List.length_drop, length_headerOctets]; omega)
    fun i hi hi' => ?_
  rw [length_slice] at hi
  have hbuf := h.header hok (show off + i < mngMsgSize by omega) (.inr (by omega)) (by omega)
  simp [Wire.slice, hbuf]

attribute [local simp] headerOctets List.drop_append List.take_append List.take_of_length_le
  List.drop_of_length_le

/-- What a port identity is read as. -/
theorem portIdentityAt_of_slice {buf : Nat → UInt8} {off : Nat} {d : PortIdentity}
    (h : Wire.slice buf off 10 = portIdentityOctets d) : portIdentityAt buf off = d := by
  have happend : Wire.slice buf off (d.clockIdentity.v.toList ++ beOctets 2 d.portNumber.toNat).length =
      d.clockIdentity.v.toList ++ beOctets 2 d.portNumber.toNat := by
    rw [portIdentityOctets] at h
    simpa using h
  obtain ⟨hclock, hport⟩ := slice_eq_append happend
  rw [List.Vector.toList_length] at hclock hport
  rw [length_beOctets] at hport
  rw [portIdentityAt, beAt_of_slice hport, hclock, Octets.ofList_toList]
  simp

/-- The header is that of the sender. -/
structure HeaderOf (m : Message) (sequence : UInt16) (hdr : MsgHeader) : Prop where
  sequence : hdr.sequence = sequence
  domainNumber : hdr.domainNumber = m.prms.domainNumber
  isUnicast : hdr.isUnicast = m.prms.isUnicast
  peer : hdr.peer = m.prms.selfId
  target : hdr.target = m.prms.target

/-- The version stands in the lower half of its octet. -/
theorem version_octet (minorVersion : UInt8) : ((minorVersion <<< 4) ||| ptpMajorVer) &&& 0xf = ptpMajorVer := by
  apply UInt8.toBitVec_inj.1
  ext i hi
  simp only [ptpMajorVer]
  interval_cases i <;> simp

section Header

variable {buf : Nat → UInt8} (h : ComesBack lib m mem bufSize sequence buf)
  (hok : (m.build lib mem bufSize sequence).1 = .ok)

include h hok

theorem headerOk_of_back : headerOk buf := by
  constructor
  · rw [h.header hok (by decide) (.inl (by decide)) (by decide)]
    exact version_octet m.prms.minorVersion
  · have hslice : Wire.slice buf logMessageIntervalOff 1 = [logMessageIntervalDef] := by
      rw [h.headerSlice hok (by decide) (by decide), logMessageIntervalOff]
      simp [portIdentityOctets]
    simpa [Wire.slice] using hslice

theorem headerOf_of_back (hdr : MsgHeader) : HeaderOf m sequence (readHeader hdr buf) := by
  have hflags : Wire.slice buf 4 4 = [m.prms.domainNumber, 0, if m.prms.isUnicast then unicastFlag else 0, 0] := by
    rw [h.headerSlice hok (by decide) (by decide)]
    simp
  have hsequence : Wire.slice buf 30 2 = beOctets 2 sequence.toNat := by
    rw [h.headerSlice hok (by decide) (by decide)]
    simp
  have hpeer : Wire.slice buf 20 10 = portIdentityOctets m.prms.selfId := by
    rw [h.headerSlice hok (by decide) (by decide)]
    simp
  have htarget : Wire.slice buf 34 10 = portIdentityOctets m.prms.target := by
    rw [h.headerSlice hok (by decide) (by decide)]
    simp
  obtain ⟨hdomain, -, hunicast, -⟩ : buf 4 = m.prms.domainNumber ∧ buf 5 = 0 ∧
      buf 6 = (if m.prms.isUnicast then unicastFlag else 0) ∧ buf 7 = 0 := by
    simpa [Wire.slice, List.range'_succ] using hflags
  constructor
  case sequence =>
      show UInt16.ofNat (beAt buf 30 2) = sequence
      rw [beAt_of_slice hsequence]
      simp
  case domainNumber => exact hdomain
  case isUnicast =>
      show (buf 6 &&& unicastFlag != 0) = m.prms.isUnicast
      rw [hunicast]
      cases m.prms.isUnicast <;> decide
  case peer => exact portIdentityAt_of_slice hpeer
  case target => exact portIdentityAt_of_slice htarget

end Header

/-- An id that may be sent with data has a dataField. -/
theorem tlvWidth_pos {id : MngId} (hbuild : (mngAllVals id).func.builds = true) (d : Tlv id) :
    0 < tlvWidth id d := by
  cases id
  case pathTraceList => exact absurd hbuild (by decide)
  case userDescription => exact Nat.lt_of_lt_of_le Nat.one_pos (Nat.le_add_right _ _)
  all_goals first
    | exact absurd hbuild (by decide)
    | (simp only [tlvWidth]; omega)

/-- A build of a TLV that fits is the frame of its reply. -/
theorem replyFrame_of_back {d : Tlv m.tlvId} (hm : SendInv m) (hdata : m.dataSend = some (.tlv m.tlvId d))
    (hfits : tlvFits m.tlvId d) (hok : (m.build lib mem bufSize sequence).1 = .ok)
    (hlen : (m.build lib mem bufSize sequence).2.1.msgLen < 65536) {buf : Nat → UInt8}
    (hback : ComesBack lib m mem bufSize sequence buf) {actionField : ActionField}
    (haction : buf actionFieldOff &&& 0xf = actionField.val) {size : Int}
    (hsize : (m.build lib mem bufSize sequence).2.1.msgLen ≤ size) :
    ∃ a w, Builds (tlvF m.tlvId d) a w ∧ w ≠ [] ∧ ReplyFrame m.tlvId actionField w buf size := by
  obtain ⟨hsend, hbuild, -⟩ := hm.data _ hdata
  obtain ⟨w, hwidth, hw, -⟩ := tlvF_roundTrips m.tlvId d hfits.1 hfits.2.1
  have hne : w ≠ [] := by
    rintro rfl
    exact absurd (tlvWidth_pos hbuild d) (by rw [← hwidth]; simp)
  have hoctets := dataOctets_of_builds hdata hsend (func_ne_na_of_builds hbuild) hw
  have heven : (padOctets w).length % 2 = 0 := by
    rw [length_padOctets, padEven]
    omega
  obtain ⟨hshort, hroom⟩ := build_cases lib mem bufSize sequence hoctets heven
  have hfit : mngMsgBaseSize + (padOctets w).length + m.addAuth ≤ bufSize := by
    by_contra hlt
    rw [hshort (Nat.not_le.1 hlt)] at hok
    cases hok
  rcases hroom hfit with ⟨mp, hrun, hbuilt⟩ | ⟨hfail, -⟩
  case inr =>
      rw [hfail] at hok
      cases hok
  have hmsgLen : (m.build lib mem bufSize sequence).2.1.msgLen =
      mngMsgBaseSize + (padOctets w).length + m.addAuth := by rw [hrun]
  have hcarries := carries_of_build hok
  have htlvType := build_tlvType hok
  rw [hrun] at hcarries htlvType
  rw [hmsgLen] at hlen hsize
  -- a window of the part that comes back
  have hbeAt : ∀ off n, off + n ≤ mngMsgBaseSize + (padOctets w).length →
      off + n ≤ actionFieldOff ∨ actionFieldOff < off → Wire.slice buf off n = Wire.slice mp.mem off n := by
    intro off n hend haway
    rw [hback.slice (by rw [hmsgLen]; omega) haway, hrun]
  have hbase : mngMsgBaseSize = 54 := rfl
  have hmessage : beAt buf messageLengthOff 2 = mngMsgBaseSize + (padOctets w).length + m.addAuth := by
    rw [beAt, hbeAt _ _ (by rw [hbase, messageLengthOff]; omega) (.inl (by decide)), ← beAt, hbuilt.messageLength,
      Nat.mod_eq_of_lt hlen]
  have hfield : beAt buf lengthFieldOff 2 = lengthFieldMngBase + (padOctets w).length := by
    rw [beAt, hbeAt _ _ (by rw [hbase, lengthFieldOff, mngMsgSize]; omega) (.inr (by decide)), ← beAt,
      hbuilt.lengthField, Nat.mod_eq_of_lt (by rw [lengthFieldMngBase]; omega)]
  have hdataField : Wire.slice buf mngMsgBaseSize (w ++ List.replicate (w.length % 2) 0).length =
      w ++ List.replicate (w.length % 2) 0 := by
    rw [← padOctets, hbeAt _ _ le_rfl (.inr (by decide)), hbuilt.dataField]
  refine ⟨_, w, hw, hne, ?_, haction, ?_, ?_, ?_, (slice_eq_append hdataField).1, ?_⟩
  · refine ⟨?_, ?_, ?_, ?_, headerOk_of_back hback hok⟩
    · rw [sigBaseSize]
      omega
    · rw [hmessage]
      exact hsize
    · rw [hback.header hok (by decide) (.inl (by decide)) (by decide)]
      exact type_octet m.prms.transportSpecific
    · rw [hmessage, hbase, mngMsgMinSize, mngMsgSize, tlvSizeHdr]
      omega
  · rw [mngTlvType, beAt, hbeAt _ _ (by rw [hbase, mngMsgSize]; omega) (.inr (by decide)), ← beAt, htlvType]
    rfl
  · rw [mngLength, hfield, length_padOctets]
  · rw [beAt, hbeAt _ _ (by rw [hbase, mngTlvOff, mngMsgMinSize, mngMsgSize, tlvSizeHdr]; omega)
      (.inr (by decide)), ← beAt, hcarries.id_eq]
  · rw [mngRest, hmessage, hfield, mngMsgMinSize, hbase, mngMsgSize, tlvSizeHdr, lengthFieldMngBase]
    omega

theorem checkReplyAction_of_allowed {id : MngId} {action : ActionField} (hasks : Asks action)
    (hget : action ≠ .get) (h : ((mngAllVals id).allowed &&& (1 <<< action.val) != 0) = true) :
    checkReplyAction id (replyTo action) = true := by
  rcases hasks with rfl | rfl | rfl
  · exact absurd rfl hget
  · revert h
    cases id <;> decide
  · revert h
    cases id <;> decide

end Back

/-- **What is sent is what is read**: whatever calls set a message up for a SET or a COMMAND with a TLV that
    fits the wire, the message that a build writes, with the action of its reply in place of its own and any
    authentication that the receiver takes behind it, is accepted by every receiver that knows the id, and the
    getters report the TLV, the sequence and the header of the sender. -/
theorem parse_sent (lib : HmacLib) {m : Message} (hm : Reachable lib m) {d : Tlv m.tlvId}
    (hdata : m.dataSend = some (.tlv m.tlvId d)) (hfits : tlvFits m.tlvId d) (mem : Nat → UInt8) (bufSize : Nat)
    (sequence : UInt16) (hok : (m.build lib mem bufSize sequence).1 = .ok)
    (hlen : (m.build lib mem bufSize sequence).2.1.msgLen < 65536) (receiverLib : HmacLib) (r : Message)
    (hknows : Knows r.prms m.tlvId) {buf : Nat → UInt8} (hback : ComesBack lib m mem bufSize sequence buf)
    (haction : buf actionFieldOff &&& 0xf = (replyTo m.sendAction).val) (hauth : AuthTaken receiverLib r buf)
    {size : Int} (hsize : (m.build lib mem bufSize sequence).2.1.msgLen ≤ size) :
    (r.parse receiverLib buf size).1 = .ok ∧
    (r.parse receiverLib buf size).2.1.getTlvId = .mng m.tlvId ∧
    (r.parse receiverLib buf size).2.1.getData = .obj (.tlv m.tlvId (tlvNorm m.tlvId d)) ∧
    HeaderOf m sequence (r.parse receiverLib buf size).2.1.hdr := by
  have hsend := hm.sendInv
  obtain ⟨hget, hbuild, -⟩ := hsend.data _ hdata
  obtain ⟨a, w, hw, hne, hframe⟩ := replyFrame_of_back hsend hdata hfits hok hlen hback haction hsize
  have hcheck := checkReplyAction_of_allowed hm.asks hget (hm.dataAllowed (by rw [hdata]; rfl))
  obtain ⟨log, hparse⟩ := hframe.parse hcheck hknows hauth (func_ne_na_of_builds hbuild) hfits hw hne
  rw [hparse]
  exact ⟨rfl, rfl, rfl, headerOf_of_back hback hok r.hdr⟩

theorem parse_sent_setPriority1 :
    ((init MsgParams.init).parse zeroLib
      (Function.update (setPriority1.build zeroLib (fun _ => 0) 56 7).2.2.mem actionFieldOff 2) 56).2.1.getData
      = .obj (.tlv .priority1 ⟨128⟩) := by
  refine (parse_sent zeroLib (m := setPriority1) (.call _ (.init _)) (d := ⟨128⟩) rfl
    ⟨trivial, trivial, trivial⟩ (fun _ => 0) 56 7 rfl (by decide) zeroLib (init MsgParams.init) (.inl rfl) ?_
    (by decide) nofun (by decide)).2.2.1
  intro o _ hne
  exact Function.update_of_ne hne _ _

end Message

end PtpMgmt
