import PtpMgmt.Message.Ignored
import PtpMgmt.Pmc.Receive

set_option autoImplicit false

/-! # What `pmc` may print of what it receives

Two things are asked of every call of `rcv`. The code of the parse must be one that lets the content
through, and what is printed must be in the buffer of that call. `content` reads it from the buffer
alone.

Neither always holds. Over UDS the codes ACTION and HEADER run into the case of a missing
authentication, and the object is printed by the types that are in it. The object keeps the data and the
text of earlier messages, which are printed with a reply or an error that has none of its own. Where the
parameters of `Init::process` were refused, a message whose authentication fails is printed without being
read. And a parse may delete a pointer that an earlier message left and nothing assigned. -/

namespace PtpMgmt

open Wire Codec

namespace Pmc

/-! ## The content of a buffer -/

/-- The codes that let the content of a message through. -/
def Permitted (allowUnauth : UInt8) : MngParseError → Prop
  | .ok | .msg | .sig | .smpte => True
  | .authNone => 1 ≤ allowUnauth
  | .auth | .authNokey | .authWrong => 2 ≤ allowUnauth
  | _ => False

section Content

variable (prms : MsgParams) (buf : Nat → UInt8)

/-- sourcePortIdentity of the message. -/
def bufPeer : PortIdentity := Message.portIdentityAt buf 20

/-- sequenceId of the message. -/
def bufSequence : UInt16 := UInt16.ofNat (beAt buf 30 2)

/-- The data of a reply. -/
def replyData (id : MngId) : List Printed :=
  if Message.mngLength buf = lengthFieldMngBase ∨ (mngAllVals id).size = 0 then []
  else
    match (Message.readTlv buf id).2.1 with
    | .obj tlv => [.tlv tlv]
    | _ => []

/-- The text of an error. -/
def errorText : List UInt8 :=
  if managementErrorTlvSize + 1 < Message.mngLength buf
  then ((Message.readText buf).1.getD default).textField else []

/-- What there is to print of the message in the buffer. -/
def content : Option (List Printed) :=
  if buf 0 &&& 0xf = MsgType.signaling then
    some (.sig (bufPeer buf) (bufSequence buf) ::
      ((Message.sigVisits buf (beAt buf Message.messageLengthOff 2)).filterMap
        (Message.sigTlvAt prms buf)).filterMap callDumpSig)
  else do
    let action ← ActionField.ofReply (buf Message.actionFieldOff &&& 0xf)
    if Message.mngTlvType buf = .managementErrorStatus then
      let id ← Message.errorTlvId buf prms.implementSpecific
      return [.err (bufPeer buf) (bufSequence buf) action (.mng id)
        (UInt16.ofNat (beAt buf Message.mngTlvOff 2)) (errorText buf)]
    else
      let id ← Message.replyId buf prms.implementSpecific
      return .head (bufPeer buf) (bufSequence buf) action (.mng id) :: replyData buf id

end Content

section Right

variable (lib : HmacLib) (s : Pmc) (buf : Nat → UInt8) (cnt : Int)

/-- What a call prints of messages. -/
def shown : List Printed := (s.rcv lib buf cnt).2.1.filter Printed.isContent

/-- The call keeps to the policy: what it prints of a message is permitted and in the buffer. -/
def Prudent : Prop :=
  s.shown lib buf cnt ≠ [] →
    Permitted s.allowUnauth (s.msg.parse lib buf cnt).1 ∧
      content s.msg.prms buf = some (s.shown lib buf cnt)

/-- The call keeps to the policy, and its parse deletes no pointer that was never assigned. -/
def Right : Prop := s.Prudent lib buf cnt ∧ (s.msg.parse lib buf cnt).2.2.freesWild = false

/-- A message that is refused for its action or its header is printed over UDS, by the types that are in
    the object. -/
def ShowsRefused : Prop :=
  s.useUds = true ∧ 0 < s.allowUnauth ∧
  ((s.msg.parse lib buf cnt).1 = .action ∨ (s.msg.parse lib buf cnt).1 = .header) ∧
  (s.msg.lastType buf cnt = MsgType.signaling ∨
    s.msg.lastType buf cnt = MsgType.management ∧
      (s.msg.lastMngType buf cnt = .management ∨ s.msg.lastMngType buf cnt = .managementErrorStatus))

/-- Something of an earlier message is printed with a message that is accepted, or read although its
    authentication fails. -/
def ShowsEarlier : Prop :=
  Permitted s.allowUnauth (s.msg.parse lib buf cnt).1 ∧
  ((s.msg.parse lib buf cnt).1.IsAuth → s.msg.prms.rcvAuthHas rcvAuthIgnore = true) ∧
  buf 0 &&& 0xf = MsgType.management ∧
  (Message.mngTlvType buf = .management ∧ Message.mngLength buf = lengthFieldMngBase ∧
      (∃ id, Message.replyId buf s.msg.prms.implementSpecific = some id ∧
        callHadler s.msg (.mng id) s.msg.getData ≠ []) ∨
    Message.mngTlvType buf = .managementErrorStatus ∧
      Message.mngLength buf ≤ managementErrorTlvSize + 1 ∧ s.msg.getErrDisplay ≠ [])

/-- What stands in the place of a message that was not read: its own header, and the rest as an earlier
    message left it. -/
def leftover : List Printed :=
  if Message.mngTlvType buf = .management then
    .head (bufPeer buf) (bufSequence buf) s.msg.replyAction s.msg.getTlvId :: callDump s.msg
  else [.err (bufPeer buf) (bufSequence buf) s.msg.replyAction s.msg.getTlvId s.msg.getErrId
    s.msg.getErrDisplay]

/-- A signalling message has TLVs to print behind an authentication TLV that is refused. -/
def CutShort : Prop :=
  ∃ done t rest, Message.sigVisits buf (beAt buf Message.messageLengthOff 2) = done ++ t :: rest ∧
    (∀ u ∈ done, ¬ Message.RefusedAt lib s.msg.prms s.msg.auth buf u) ∧
    Message.RefusedAt lib s.msg.prms s.msg.auth buf t ∧
    (rest.filterMap (Message.sigTlvAt s.msg.prms buf)).filterMap callDumpSig ≠ []

/-- `allow_unauth` has a message printed whose authentication fails, but `RCV_AUTH_IGNORE` is not set, so
    the message was not read: what is printed is cut short, or of an earlier message. -/
def ShowsUnread : Prop :=
  Permitted s.allowUnauth (s.msg.parse lib buf cnt).1 ∧ (s.msg.parse lib buf cnt).1.IsAuth ∧
  s.msg.prms.rcvAuthHas rcvAuthIgnore = false ∧
  (buf 0 &&& 0xf = MsgType.signaling ∧ CutShort lib s buf ∨
    buf 0 &&& 0xf = MsgType.management ∧
      (Message.mngTlvType buf = .management ∨ Message.mngTlvType buf = .managementErrorStatus) ∧
      content s.msg.prms buf ≠ some (leftover s buf))

end Right

/-! ## What is printed -/

/-- Print by the types in the object. -/
def dumpByType (m : Message) : List Printed :=
  if m.hdr.type = MsgType.signaling then dumpSig m ++ m.traversSigTlvs.filterMap callDumpSig
  else if m.hdr.type = MsgType.management then
    match m.mngType with
    | .management => dumpHead m m.replyAction ++ callDump m
    | .managementErrorStatus => dumpErr m
    | _ => []
  else []

/-- The codes with which the object is printed. -/
def Prints (s : Pmc) : MngParseError → Prop
  | .ok | .msg | .sig => True
  | .action | .header => s.useUds = true ∧ 0 < s.allowUnauth
  | .authNone => 0 < s.allowUnauth
  | .auth | .authNokey | .authWrong => 1 < s.allowUnauth
  | _ => False

theorem iCallHandler_content (id : MngId) (tlv : TlvPtr) :
    ∀ x ∈ iCallHandler id tlv, x.isContent = true := by
  intro x hx
  cases tlv with
  | null => cases hx
  | wild =>
      rw [iCallHandler, List.mem_singleton] at hx
      rw [hx]
      rfl
  | obj tlv =>
      rw [iCallHandler] at hx
      split at hx
      · rw [List.mem_singleton] at hx
        rw [hx]
        rfl
      · cases hx

theorem callHadler_content (m : Message) (tlvId : MngVals) (tlv : TlvPtr) :
    ∀ x ∈ callHadler m tlvId tlv, x.isContent = true := by
  intro x hx
  cases tlvId with
  | mng id =>
      simp only [callHadler] at hx
      split at hx
      · cases hx
      · exact iCallHandler_content id tlv x hx
  | lastMngId => cases hx
  | smpteMngId => cases hx

theorem callDumpSig_content {t : TlvType × BaseSigTlv} {x : Printed} (h : callDumpSig t = some x) :
    x.isContent = true := by
  rw [callDumpSig.eq_def] at h
  split at h <;> cases h <;> rfl

theorem dumpByType_content (m : Message) : ∀ x ∈ dumpByType m, x.isContent = true := by
  intro x hx
  rw [dumpByType] at hx
  split at hx
  · rcases List.mem_cons.1 hx with rfl | hx
    · rfl
    · obtain ⟨t, -, ht⟩ := List.mem_filterMap.1 hx
      exact callDumpSig_content ht
  · split at hx
    · split at hx
      · rcases List.mem_cons.1 hx with rfl | hx
        · rfl
        · exact callHadler_content m _ _ x hx
      · rw [dumpErr, List.mem_singleton] at hx
        rw [hx]
        rfl
      · cases hx
    · cases hx

theorem management_ne_signaling {type : MsgType} (h : type = MsgType.management) :
    ¬ type = MsgType.signaling := by
  rw [h]
  decide

theorem dumpByType_of_management {m : Message} (htype : m.hdr.type = MsgType.management)
    (hmng : m.mngType = .management) : dumpByType m = dumpHead m m.replyAction ++ callDump m := by
  rw [dumpByType, if_neg (management_ne_signaling htype), if_pos htype, hmng]

theorem dumpByType_of_error {m : Message} (htype : m.hdr.type = MsgType.management)
    (hmng : m.mngType = .managementErrorStatus) : dumpByType m = dumpErr m := by
  rw [dumpByType, if_neg (management_ne_signaling htype), if_pos htype, hmng]

/-- When the types in the object have something printed. -/
theorem dumpByType_ne_nil (m : Message) : dumpByType m ≠ [] ↔
    m.hdr.type = MsgType.signaling ∨ m.hdr.type = MsgType.management ∧
      (m.mngType = .management ∨ m.mngType = .managementErrorStatus) := by
  rw [dumpByType]
  split
  · next hsig => exact iff_of_true (by simp [dumpSig]) (.inl hsig)
  · next hsig =>
      split
      · next hmng =>
          split
          · next heq => exact iff_of_true (by simp [dumpHead]) (.inr ⟨hmng, .inl heq⟩)
          · next heq => exact iff_of_true (by simp [dumpErr]) (.inr ⟨hmng, .inr heq⟩)
          · next hreply herror =>
              refine iff_of_false (by simp) (not_or.2 ⟨hsig, fun h => ?_⟩)
              exact h.2.elim hreply herror
      · next hmng => exact iff_of_false (by simp) (not_or.2 ⟨hsig, fun h => hmng h.1⟩)

theorem filter_dumpByType (m : Message) : (dumpByType m).filter Printed.isContent = dumpByType m :=
  List.filter_eq_self.2 (dumpByType_content m)

/-- With one of the codes that pass above a threshold the object is printed by its types. -/
theorem rcvUnauth_content (s : Pmc) (m : Message) (err : MngParseError) (unauthTrsh : UInt8) :
    (s.rcvUnauth m err unauthTrsh).2.filter Printed.isContent
      = if s.allowUnauth > unauthTrsh then dumpByType m else [] := by
  rw [rcvUnauth]
  split
  · rw [← filter_dumpByType, dumpByType]
    split
    · rfl
    · split
      · cases m.mngType <;> rfl
      · rfl
  · rfl

/-! ## One call -/

section Call

variable {lib : HmacLib} {s : Pmc} {buf : Nat → UInt8} {cnt : Int}

/-- What is set up and kept: the text of the last error is one that was read. -/
structure Ready (s : Pmc) : Prop where
  fits : s.msg.errorDisplay.Fits

theorem parse_short (h : cnt < 0) : (s.msg.parse lib buf cnt).1 = .tooSmall := by
  have hbase : cnt < sigBaseSize := by
    rw [sigBaseSize]
    omega
  rw [Message.parse, if_pos hbase]

theorem rcv_printed (h : ¬ cnt < 0) : (s.rcv lib buf cnt).2.1
    = (s.rcvSwitch (s.msg.parse lib buf cnt).2.1 (s.msg.parse lib buf cnt).1).2 := by
  rw [rcv, if_neg h]

theorem header_of_code (hshort : (s.msg.parse lib buf cnt).1 ≠ .tooSmall)
    (hheader : (s.msg.parse lib buf cnt).1 ≠ .header) :
    Message.SigHeader s.msg.prms buf cnt ∨ Message.MngHeader buf cnt := by
  by_contra h
  obtain ⟨hsig, hmng⟩ := not_or.1 h
  exact (Message.parse_refused lib s.msg hsig hmng).elim hshort hheader

theorem sigHeader_of_code (hcode : (s.msg.parse lib buf cnt).1 = .sig) :
    Message.SigHeader s.msg.prms buf cnt := by
  have hshort : (s.msg.parse lib buf cnt).1 ≠ .tooSmall := by
    rw [hcode]
    decide
  have hheader : (s.msg.parse lib buf cnt).1 ≠ .header := by
    rw [hcode]
    decide
  rcases header_of_code hshort hheader with hsig | hmng
  · exact hsig
  · exact absurd hcode (Message.parse_mng_ne_sig hmng)

theorem parse_sig_type (hsig : Message.SigHeader s.msg.prms buf cnt) :
    (s.msg.parse lib buf cnt).2.1.hdr.type = MsgType.signaling := by
  rw [(Message.parse_kind lib s.msg buf hsig.base_le).1, Message.lastType, if_neg (Int.not_lt.2 hsig.length_le),
    hsig.type_eq]

theorem split_first {α : Type} {P : α → Prop} {done done' rest rest' : List α} {t t' : α}
    (h : done ++ t :: rest = done' ++ t' :: rest') (hbefore : ∀ u ∈ done, ¬ P u) (ht : P t)
    (hbefore' : ∀ u ∈ done', ¬ P u) (ht' : P t') : rest = rest' := by
  induction done generalizing done' with
  | nil =>
      cases done' with
      | nil => exact (List.cons.inj h).2
      | cons u done' =>
          obtain ⟨rfl, -⟩ := List.cons.inj h
          exact absurd ht (hbefore' t List.mem_cons_self)
  | cons u done ih =>
      cases done' with
      | nil =>
          obtain ⟨rfl, -⟩ := List.cons.inj h
          exact absurd ht' (hbefore u List.mem_cons_self)
      | cons u' done' =>
          exact ih (List.cons.inj h).2 (fun v hv => hbefore v (List.mem_cons_of_mem u hv))
            fun v hv => hbefore' v (List.mem_cons_of_mem u' hv)

/-- What is printed of the TLVs at these offsets. -/
def sigPrinted (prms : MsgParams) (buf : Nat → UInt8) (ts : List Nat) : List Printed :=
  (ts.filterMap (Message.sigTlvAt prms buf)).filterMap callDumpSig

theorem sigPrinted_append (prms : MsgParams) (buf : Nat → UInt8) (ts ts' : List Nat) :
    sigPrinted prms buf (ts ++ ts') = sigPrinted prms buf ts ++ sigPrinted prms buf ts' := by
  simp only [sigPrinted, List.filterMap_append]

theorem content_sig {prms : MsgParams} (htype : buf 0 &&& 0xf = MsgType.signaling) :
    content prms buf = some (.sig (bufPeer buf) (bufSequence buf) ::
      sigPrinted prms buf (Message.sigVisits buf (beAt buf Message.messageLengthOff 2))) :=
  if_pos htype

/-- A signalling message is printed with the TLVs in its list. -/
theorem dumpByType_sig (hsig : Message.SigHeader s.msg.prms buf cnt) {ts : List Nat}
    (hlist : (s.msg.parse lib buf cnt).2.1.traversSigTlvs
      = ts.filterMap (Message.sigTlvAt s.msg.prms buf)) :
    dumpByType (s.msg.parse lib buf cnt).2.1
      = .sig (bufPeer buf) (bufSequence buf) :: sigPrinted s.msg.prms buf ts := by
  rw [dumpByType, if_pos (parse_sig_type hsig), hlist, dumpSig,
    Message.parse_eq_parseSig lib s.msg hsig, Message.parseSig_hdr]
  rfl

/-- One that is refused prints all TLVs, but those behind an authentication TLV that is refused. -/
theorem right_sig_iff (hsig : Message.SigHeader s.msg.prms buf cnt)
    (hcode : (s.msg.parse lib buf cnt).1 = .sig ∨ (s.msg.parse lib buf cnt).1.IsAuth) :
    content s.msg.prms buf = some (dumpByType (s.msg.parse lib buf cnt).2.1) ↔
      ¬ ((s.msg.parse lib buf cnt).1.IsAuth ∧ CutShort lib s buf) := by
  rw [content_sig hsig.type_eq]
  have hparse := Message.parse_eq_parseSig lib s.msg hsig
  have hwhole : (s.msg.parse lib buf cnt).2.1.traversSigTlvs
      = (Message.sigVisits buf (beAt buf Message.messageLengthOff 2)).filterMap
        (Message.sigTlvAt s.msg.prms buf) →
      (some (.sig (bufPeer buf) (bufSequence buf) ::
          sigPrinted s.msg.prms buf (Message.sigVisits buf (beAt buf Message.messageLengthOff 2)))
        = some (dumpByType (s.msg.parse lib buf cnt).2.1)) := by
    intro hlist
    rw [dumpByType_sig hsig hlist]
  rcases hcode with hcode | hcode
  · refine iff_of_true (hwhole ?_) fun h => ?_
    · rw [hparse] at hcode ⊢
      exact Message.parseSig_list hcode
    · rw [hcode] at h
      exact absurd h.1 (by decide)
  · rw [and_iff_right hcode]
    have hauth := hcode
    rw [hparse] at hauth
    obtain ⟨done, t, rest, hvisits, hbefore, hrefused, hlist⟩ | ⟨hnone, hlist⟩ :=
      Message.parseSig_isAuth hauth
    · rw [← hparse] at hlist
      have htlv : Message.sigTlvAt s.msg.prms buf t = none :=
        if_pos (.inl hrefused.type_eq)
      have hrest : sigPrinted s.msg.prms buf (Message.sigVisits buf (beAt buf Message.messageLengthOff 2))
          = sigPrinted s.msg.prms buf done ++ sigPrinted s.msg.prms buf rest := by
        rw [hvisits, sigPrinted_append]
        simp only [sigPrinted, List.filterMap_cons, htlv]
      rw [dumpByType_sig hsig hlist, hrest, Option.some.injEq, List.cons.injEq, and_iff_right rfl,
        List.append_right_eq_self]
      constructor
      · rintro hempty ⟨done', t', rest', hvisits', hbefore', hrefused', hmore⟩
        -- there is one first TLV that is refused
        have hsame := split_first (hvisits.symm.trans hvisits') hbefore hrefused hbefore' hrefused'
        rw [hsame] at hempty
        exact hmore hempty
      · intro hno
        by_contra hmore
        exact hno ⟨done, t, rest, hvisits, hbefore, hrefused, hmore⟩
    · rw [← hparse] at hlist
      refine iff_of_true (hwhole hlist) ?_
      rintro ⟨done, t, rest, hvisits, -, hrefused, -⟩
      exact hnone t (by rw [hvisits]; simp) hrefused

/-- The data of an id with a codec function is an object of its class. -/
theorem readTlv_obj {id : MngId} (hcodec : (mngAllVals id).func ≠ .na)
    (hok : (Message.readTlv buf id).1 = .ok) :
    ∃ d, (Message.readTlv buf id).2.1 = .obj (.tlv id d) := by
  have hfault := ((tlvF id default).advances
    (((MsgProc.parseAt buf Message.mngTlvOff (Message.mngLength buf)).peek Message.mngTlvOff 2).skip
      lengthFieldMngBase).fresh).err (show IsFault MngParseError.tooSmall by decide)
  rw [Message.readTlv, callTlvData_parse _ hcodec rfl] at hok ⊢
  split at hok
  · next he =>
      rw [he] at hfault
      exact absurd hok hfault.1
  · next d _ _ => exact ⟨d, rfl⟩

theorem isValidId_of_found {m : Message} {id : MngId}
    (h : Message.replyId buf m.prms.implementSpecific = some id) : m.isValidId (.mng id) = true := by
  rw [Message.replyId, findTlvId] at h
  split at h
  · cases h
  · split at h
    · cases h
    · next hallowed =>
        cases h
        rw [Message.isValidId, Bool.not_eq_true', ← Bool.not_eq_true]
        exact hallowed

/-- The handler of the id that was read prints the data that was read. -/
theorem callHadler_reply {m : Message} {actionField : ActionField} {id : MngId}
    (hgood : Message.GoodReply m.prms.implementSpecific buf actionField id)
    (hdata : Message.mngLength buf ≠ lengthFieldMngBase) :
    callHadler m (.mng id) (Message.readTlv buf id).2.1 = replyData buf id := by
  rw [callHadler, replyData, isValidId_of_found hgood.found]
  by_cases hempty : (mngAllVals id).size = 0
  · simp [Message.isEmpty, hempty]
  · have hcodec : (mngAllVals id).func ≠ .na := (mngAllVals_size_eq_zero id).not.1 hempty
    obtain ⟨d, hd⟩ := readTlv_obj hcodec (hgood.decodes hdata)
    rw [hd]
    simp [Message.isEmpty, hempty, hdata, iCallHandler]

/-- A reply that is printed: its own data, or data of an earlier message. -/
theorem dumpByType_reply (hmng : Message.MngHeader buf cnt)
    (htype : Message.mngTlvType buf = .management)
    (hcode : s.msg.Reads (s.msg.parse lib buf cnt).1) :
    ∃ action id, Message.replyId buf s.msg.prms.implementSpecific = some id ∧
      content s.msg.prms buf
        = some (.head (bufPeer buf) (bufSequence buf) action (.mng id) :: replyData buf id) ∧
      dumpByType (s.msg.parse lib buf cnt).2.1
        = .head (bufPeer buf) (bufSequence buf) action (.mng id) ::
          if Message.mngLength buf = lengthFieldMngBase
          then callHadler s.msg (.mng id) s.msg.getData else replyData buf id := by
  obtain ⟨action, id, haction, hgood, heq⟩ := Message.parse_reads_reply hmng htype hcode
  have hfound := hgood.found
  have hnosig := management_ne_signaling hmng.type_eq
  refine ⟨action, id, hfound, ?_, ?_⟩
  · rw [content, if_neg hnosig, haction, htype, hfound]
    rfl
  · rw [heq, dumpByType_of_management hmng.type_eq rfl]
    refine congrArg (Printed.head _ _ _ _ :: ·) ?_
    split
    · rfl
    · next hdata => exact callHadler_reply (m := s.msg) hgood hdata

/-- An error that is printed: its own text, or the text of an earlier message. -/
theorem dumpByType_error (hready : s.Ready) (hmng : Message.MngHeader buf cnt)
    (htype : Message.mngTlvType buf = .managementErrorStatus)
    (hcode : s.msg.Reads (s.msg.parse lib buf cnt).1) :
    ∃ action id, content s.msg.prms buf = some [.err (bufPeer buf) (bufSequence buf) action (.mng id)
        (UInt16.ofNat (beAt buf Message.mngTlvOff 2)) (errorText buf)] ∧
      dumpByType (s.msg.parse lib buf cnt).2.1 = [.err (bufPeer buf) (bufSequence buf) action (.mng id)
        (UInt16.ofNat (beAt buf Message.mngTlvOff 2))
        (if managementErrorTlvSize + 1 < Message.mngLength buf then errorText buf
          else s.msg.getErrDisplay)] := by
  obtain ⟨action, id, haction, hgood, heq⟩ := Message.parse_reads_error hready.fits hmng htype hcode
  have hfound := hgood.found
  have hnosig := management_ne_signaling hmng.type_eq
  refine ⟨action, id, ?_, ?_⟩
  · rw [content, if_neg hnosig, haction, htype, hfound]
    rfl
  · rw [heq, dumpByType_of_error hmng.type_eq rfl]
    simp only [dumpErr, Message.getErrDisplay, errorText]
    split <;> rfl

/-- A code with a threshold. -/
theorem shown_unauth {m : Message} {err : MngParseError} {unauthTrsh : UInt8} :
    (unauthTrsh < s.allowUnauth →
      (s.rcvUnauth m err unauthTrsh).2.filter Printed.isContent = dumpByType m) ∧
    (¬ unauthTrsh < s.allowUnauth →
      (s.rcvUnauth m err unauthTrsh).2.filter Printed.isContent = []) := by
  rw [rcvUnauth_content]
  exact ⟨fun h => if_pos h, fun h => if_neg h⟩

/-- The codes that run into the case of a missing authentication over UDS. -/
theorem shown_refused {m : Message} {err : MngParseError} :
    (s.useUds = true ∧ 0 < s.allowUnauth →
      (if !s.useUds then (1, []) else s.rcvUnauth m err 0).2.filter Printed.isContent
        = dumpByType m) ∧
    (¬ (s.useUds = true ∧ 0 < s.allowUnauth) →
      (if !s.useUds then (1, []) else s.rcvUnauth m err 0).2.filter Printed.isContent = []) := by
  cases s.useUds with
  | true =>
      simp only [Bool.not_true, Bool.false_eq_true, if_false, true_and]
      exact shown_unauth
  | false => exact ⟨fun h => absurd h.1 (by decide), fun _ => rfl⟩

/-- What a call prints is what the types in the object have printed, when the code has it printed. -/
theorem shown_eq (hready : s.Ready) :
    (s.Prints (s.msg.parse lib buf cnt).1 →
      s.shown lib buf cnt = dumpByType (s.msg.parse lib buf cnt).2.1) ∧
    (¬ s.Prints (s.msg.parse lib buf cnt).1 → s.shown lib buf cnt = []) := by
  by_cases hcnt : cnt < 0
  · have hcode : (s.msg.parse lib buf cnt).1 = .tooSmall := parse_short hcnt
    rw [hcode, shown, rcv, if_pos hcnt]
    exact ⟨fun h => h.elim, fun _ => rfl⟩
  rw [shown, rcv_printed hcnt]
  cases hcode : (s.msg.parse lib buf cnt).1
  case ok =>
      obtain ⟨action, hacc, hgood⟩ := Message.accepted_of_code hready.fits (.inl hcode)
      rw [hcode] at hgood
      cases hgood with
      | reply htype _ =>
          have hreads : s.msg.Reads (s.msg.parse lib buf cnt).1 := .inl hcode
          obtain ⟨_, _, -, -, heq⟩ := Message.parse_reads_reply hacc.header htype hreads
          refine ⟨fun _ => ?_, fun h => absurd trivial h⟩
          rw [← filter_dumpByType, heq, dumpByType_of_management hacc.header.type_eq rfl]
          rfl
  case msg =>
      obtain ⟨action, hacc, hgood⟩ := Message.accepted_of_code hready.fits (.inr hcode)
      rw [hcode] at hgood
      cases hgood with
      | error htype _ =>
          have hreads : s.msg.Reads (s.msg.parse lib buf cnt).1 := .inr (.inl hcode)
          obtain ⟨_, _, -, -, heq⟩ := Message.parse_reads_error hready.fits hacc.header htype hreads
          refine ⟨fun _ => ?_, fun h => absurd trivial h⟩
          rw [← filter_dumpByType, heq, dumpByType_of_error hacc.header.type_eq rfl]
          rfl
  case sig =>
      refine ⟨fun _ => ?_, fun h => absurd trivial h⟩
      rw [← filter_dumpByType, dumpByType, if_pos (parse_sig_type (sigHeader_of_code hcode))]
      rfl
  case action => exact shown_refused
  case header => exact shown_refused
  case authNone => exact shown_unauth
  case auth => exact shown_unauth
  case authWrong => exact shown_unauth
  case authNokey => exact shown_unauth
  all_goals exact ⟨fun h => h.elim, fun _ => rfl⟩

/-- A management message whose TLV is neither a reply nor an error leaves nothing to print. -/
theorem dumpByType_other (hmng : Message.MngHeader buf cnt)
    (hreply : Message.mngTlvType buf ≠ .management)
    (herror : Message.mngTlvType buf ≠ .managementErrorStatus)
    (hcode : s.msg.Reads (s.msg.parse lib buf cnt).1) :
    dumpByType (s.msg.parse lib buf cnt).2.1 = [] := by
  obtain ⟨action, -, -, hframe, -, -⟩ := Message.parse_reads hmng hcode
  have hsome : (ActionField.ofReply (buf Message.actionFieldOff &&& 0xf)).isSome = true := by
    rw [hframe.action_eq]
    rfl
  obtain ⟨htype, hmngType⟩ := Message.parse_kind lib s.msg buf hmng.base_le
  rw [Message.lastType, if_neg (Int.not_lt.2 hmng.length_le), hmng.type_eq] at htype
  rw [Message.lastMngType, if_pos ⟨hmng, hsome⟩] at hmngType
  rw [← not_not (a := dumpByType _ = []), ← ne_eq, dumpByType_ne_nil, htype, hmngType]
  exact not_or.2 ⟨by decide, fun h => h.2.elim hreply herror⟩

theorem right_reply_iff (hready : s.Ready) (hprints : s.Prints (s.msg.parse lib buf cnt).1)
    (hperm : Permitted s.allowUnauth (s.msg.parse lib buf cnt).1)
    (hread : (s.msg.parse lib buf cnt).1.IsAuth → s.msg.prms.rcvAuthHas rcvAuthIgnore = true)
    (hmng : Message.MngHeader buf cnt) (htype : Message.mngTlvType buf = .management)
    (hcode : s.msg.Reads (s.msg.parse lib buf cnt).1) :
    s.Prudent lib buf cnt ↔ ¬ s.ShowsEarlier lib buf cnt := by
  obtain ⟨action, id, hfound, hcontent, hdump⟩ := dumpByType_reply hmng htype hcode
  rw [Prudent, (shown_eq hready).1 hprints, hcontent, hdump]
  by_cases hempty : Message.mngLength buf = lengthFieldMngBase
  case pos =>
      have hnone : replyData buf id = [] := if_pos (.inl hempty)
      rw [if_pos hempty, hnone]
      constructor
      · rintro h ⟨-, -, -, ⟨-, -, id', hfound', hleft⟩ | ⟨herror, -⟩⟩
        · rw [hfound] at hfound'
          cases hfound'
          have heq := (h (by simp)).2
          rw [Option.some.injEq, List.cons.injEq] at heq
          exact hleft heq.2.symm
        · rw [htype] at herror
          cases herror
      · intro h _
        have hleft : callHadler s.msg (.mng id) s.msg.getData = [] := by
          by_contra hne
          exact h ⟨hperm, hread, hmng.type_eq, .inl ⟨htype, hempty, id, hfound, hne⟩⟩
        rw [hleft]
        exact ⟨hperm, rfl⟩
  case neg =>
      rw [if_neg hempty]
      refine iff_of_true (fun _ => ⟨hperm, rfl⟩) ?_
      rintro ⟨-, -, -, ⟨-, hlength, -⟩ | ⟨herror, -⟩⟩
      · exact hempty hlength
      · rw [htype] at herror
        cases herror

theorem right_error_iff (hready : s.Ready) (hprints : s.Prints (s.msg.parse lib buf cnt).1)
    (hperm : Permitted s.allowUnauth (s.msg.parse lib buf cnt).1)
    (hread : (s.msg.parse lib buf cnt).1.IsAuth → s.msg.prms.rcvAuthHas rcvAuthIgnore = true)
    (hmng : Message.MngHeader buf cnt) (htype : Message.mngTlvType buf = .managementErrorStatus)
    (hcode : s.msg.Reads (s.msg.parse lib buf cnt).1) :
    s.Prudent lib buf cnt ↔ ¬ s.ShowsEarlier lib buf cnt := by
  obtain ⟨action, id, hcontent, hdump⟩ := dumpByType_error hready hmng htype hcode
  rw [Prudent, (shown_eq hready).1 hprints, hcontent, hdump]
  by_cases htext : managementErrorTlvSize + 1 < Message.mngLength buf
  case pos =>
      rw [if_pos htext]
      refine iff_of_true (fun _ => ⟨hperm, rfl⟩) ?_
      rintro ⟨-, -, -, ⟨hreply, -⟩ | ⟨-, hlength, -⟩⟩
      · rw [htype] at hreply
        cases hreply
      · exact absurd htext (Nat.not_lt.2 hlength)
  case neg =>
      have hnone : errorText buf = [] := if_neg htext
      rw [if_neg htext, hnone]
      constructor
      · rintro h ⟨-, -, -, ⟨hreply, -⟩ | ⟨-, -, hleft⟩⟩
        · rw [htype] at hreply
          cases hreply
        · have heq := (h (by simp)).2
          rw [Option.some.injEq, List.cons.injEq, Printed.err.injEq] at heq
          exact hleft heq.1.2.2.2.2.2.symm
      · intro h _
        have hleft : s.msg.getErrDisplay = [] := by
          by_contra hne
          exact h ⟨hperm, hread, hmng.type_eq, .inr ⟨htype, Nat.not_lt.1 htext, hne⟩⟩
        rw [hleft]
        exact ⟨hperm, rfl⟩

/-- What is printed of a management message that was read to its end is in the buffer, but for what is left
    of earlier messages. -/
theorem right_of_read (hready : s.Ready) (hprints : s.Prints (s.msg.parse lib buf cnt).1)
    (hperm : Permitted s.allowUnauth (s.msg.parse lib buf cnt).1)
    (hread : (s.msg.parse lib buf cnt).1.IsAuth → s.msg.prms.rcvAuthHas rcvAuthIgnore = true)
    (hmng : Message.MngHeader buf cnt) (hcode : s.msg.Reads (s.msg.parse lib buf cnt).1) :
    s.Prudent lib buf cnt ↔ ¬ s.ShowsEarlier lib buf cnt := by
  by_cases hreply : Message.mngTlvType buf = .management
  · exact right_reply_iff hready hprints hperm hread hmng hreply hcode
  by_cases herror : Message.mngTlvType buf = .managementErrorStatus
  · exact right_error_iff hready hprints hperm hread hmng herror hcode
  · rw [Prudent, (shown_eq hready).1 hprints, dumpByType_other hmng hreply herror hcode]
    refine iff_of_true (fun h => absurd rfl h) fun h => ?_
    exact h.2.2.2.elim (fun h => hreply h.1) fun h => herror h.1

/-- What is printed of a management message whose authentication fails, without having been read. -/
theorem dumpByType_unread (hready : s.Ready) (hmng : Message.MngHeader buf cnt)
    (hstrict : s.msg.prms.rcvAuthHas rcvAuthIgnore = false)
    (hauth : (s.msg.parse lib buf cnt).1.IsAuth)
    (htype : Message.mngTlvType buf = .management ∨ Message.mngTlvType buf = .managementErrorStatus) :
    dumpByType (s.msg.parse lib buf cnt).2.1 = leftover s buf := by
  rw [Message.parse_unread hready.fits hmng htype hstrict hauth, leftover]
  rcases htype with htype | htype
  · rw [if_pos htype, dumpByType_of_management hmng.type_eq htype]
    rfl
  · rw [if_neg (by rw [htype]; decide), dumpByType_of_error hmng.type_eq htype]
    rfl

theorem action_of_isAuth (hmng : Message.MngHeader buf cnt) (hauth : (s.msg.parse lib buf cnt).1.IsAuth) :
    (ActionField.ofReply (buf Message.actionFieldOff &&& 0xf)).isSome = true := by
  by_cases hframe : ∃ actionField, Message.MngFrame buf (beAt buf Message.messageLengthOff 2) actionField
  · obtain ⟨actionField, hframe⟩ := hframe
    rw [hframe.action_eq]
    rfl
  · rw [Message.parse_eq_parseMng lib s.msg hmng] at hauth
    rcases Message.parseMng_unframed lib { s.msg with hdr := Message.readHeader s.msg.hdr buf }
      Message.headerLog (not_exists.1 hframe) with hcode | hcode
    all_goals
      rw [hcode] at hauth
      exact absurd hauth (by decide)

theorem right_of_unread (hready : s.Ready) (hprints : s.Prints (s.msg.parse lib buf cnt).1)
    (hperm : Permitted s.allowUnauth (s.msg.parse lib buf cnt).1) (hmng : Message.MngHeader buf cnt)
    (hstrict : s.msg.prms.rcvAuthHas rcvAuthIgnore = false)
    (hauth : (s.msg.parse lib buf cnt).1.IsAuth) :
    s.Prudent lib buf cnt ↔ ¬ s.ShowsUnread lib buf cnt := by
  rw [Prudent, (shown_eq hready).1 hprints]
  by_cases htype : Message.mngTlvType buf = .management ∨ Message.mngTlvType buf = .managementErrorStatus
  · rw [dumpByType_unread hready hmng hstrict hauth htype]
    have hsome : leftover s buf ≠ [] := by
      rw [leftover]
      split <;> simp
    constructor
    · rintro h ⟨-, -, -, ⟨hsig, -⟩ | ⟨-, -, hne⟩⟩
      · exact management_ne_signaling hmng.type_eq hsig
      · exact hne (h hsome).2
    · intro h _
      refine ⟨hperm, ?_⟩
      by_contra hne
      exact h ⟨hperm, hauth, hstrict, .inr ⟨hmng.type_eq, htype, hne⟩⟩
  · have hnone : dumpByType (s.msg.parse lib buf cnt).2.1 = [] := by
      have hkind := Message.parse_kind lib s.msg buf hmng.base_le
      rw [← not_not (a := dumpByType _ = []), ← ne_eq, dumpByType_ne_nil, hkind.1, hkind.2]
      rw [Message.lastType, if_neg (Int.not_lt.2 hmng.length_le)]
      rintro (hsig | ⟨-, hlast⟩)
      · exact management_ne_signaling hmng.type_eq hsig
      · exact htype (by rwa [Message.lastMngType, if_pos ⟨hmng, action_of_isAuth hmng hauth⟩] at hlast)
    rw [hnone]
    refine iff_of_true (fun h => absurd rfl h) ?_
    rintro ⟨-, -, -, ⟨hsig, -⟩ | ⟨-, htype', -⟩⟩
    · exact management_ne_signaling hmng.type_eq hsig
    · exact htype htype'

/-- What is printed of a message with a code that lets it through. -/
theorem right_of_printed (hready : s.Ready) (hprints : s.Prints (s.msg.parse lib buf cnt).1)
    (hperm : Permitted s.allowUnauth (s.msg.parse lib buf cnt).1)
    (hcode : (s.msg.parse lib buf cnt).1 = .ok ∨ (s.msg.parse lib buf cnt).1 = .msg ∨
      (s.msg.parse lib buf cnt).1 = .sig ∨ (s.msg.parse lib buf cnt).1.IsAuth) :
    s.Prudent lib buf cnt ↔ ¬ s.ShowsRefused lib buf cnt ∧ ¬ s.ShowsEarlier lib buf cnt ∧
      ¬ s.ShowsUnread lib buf cnt := by
  have hrefused : ¬ s.ShowsRefused lib buf cnt := by
    rintro ⟨-, -, hrefused, -⟩
    rcases hrefused with heq | heq
    all_goals
      rw [heq] at hcode
      revert hcode
      decide
  rw [and_iff_right hrefused]
  have hheader : Message.SigHeader s.msg.prms buf cnt ∨ Message.MngHeader buf cnt := by
    have hother : ∀ err, ¬ (err = .ok ∨ err = .msg ∨ err = .sig ∨ err.IsAuth) →
        (s.msg.parse lib buf cnt).1 ≠ err := fun err herr heq => herr (heq ▸ hcode)
    exact header_of_code (hother .tooSmall (by decide)) (hother .header (by decide))
  rcases hheader with hsig | hmng
  · have hlist : (s.msg.parse lib buf cnt).1 = .sig ∨ (s.msg.parse lib buf cnt).1.IsAuth := by
      rcases hcode with hcode | hcode | hcode | hcode
      · obtain ⟨_, hacc, -⟩ := Message.accepted_of_code hready.fits (.inl hcode)
        exact absurd hsig.type_eq (management_ne_signaling hacc.header.type_eq)
      · obtain ⟨_, hacc, -⟩ := Message.accepted_of_code hready.fits (.inr hcode)
        exact absurd hsig.type_eq (management_ne_signaling hacc.header.type_eq)
      · exact .inl hcode
      · exact .inr hcode
    have hearlier : ¬ s.ShowsEarlier lib buf cnt := fun h =>
      management_ne_signaling h.2.2.1 hsig.type_eq
    have hsome : dumpByType (s.msg.parse lib buf cnt).2.1 ≠ [] :=
      (dumpByType_ne_nil _).2 (.inl (parse_sig_type hsig))
    rw [and_iff_right hearlier, Prudent, (shown_eq hready).1 hprints, forall_prop_of_true hsome,
      and_iff_right hperm, right_sig_iff hsig hlist, not_iff_not]
    constructor
    · rintro ⟨hauth, hcut⟩
      have hstrict := hcut.choose_spec.choose_spec.choose_spec.2.2.1.strict
      exact ⟨hperm, hauth, hstrict, .inl ⟨hsig.type_eq, hcut⟩⟩
    · rintro ⟨-, hauth, -, ⟨-, hcut⟩ | ⟨hmng, -⟩⟩
      · exact ⟨hauth, hcut⟩
      · exact absurd hsig.type_eq (management_ne_signaling hmng)
  · by_cases hread : (s.msg.parse lib buf cnt).1.IsAuth → s.msg.prms.rcvAuthHas rcvAuthIgnore = true
    · have hreads : s.msg.Reads (s.msg.parse lib buf cnt).1 := by
        rcases hcode with hcode | hcode | hcode | hcode
        · exact .inl hcode
        · exact .inr (.inl hcode)
        · exact absurd hcode (Message.parse_mng_ne_sig hmng)
        · exact .inr (.inr ⟨hcode, hread hcode⟩)
      have hunread : ¬ s.ShowsUnread lib buf cnt := by
        rintro ⟨-, hauth, hstrict, -⟩
        rw [hread hauth] at hstrict
        cases hstrict
      rw [and_iff_left hunread]
      exact right_of_read hready hprints hperm hread hmng hreads
    · have hearlier : ¬ s.ShowsEarlier lib buf cnt := fun h => hread h.2.1
      obtain ⟨hauth, hignore⟩ := Classical.not_imp.1 hread
      rw [and_iff_right hearlier]
      exact right_of_unread hready hprints hperm hmng (Bool.not_eq_true _ ▸ hignore) hauth

/-- A message that is refused for its action or its header is not to be printed. -/
theorem right_of_refused (hready : s.Ready)
    (hcode : (s.msg.parse lib buf cnt).1 = .action ∨ (s.msg.parse lib buf cnt).1 = .header) :
    s.Prudent lib buf cnt ↔ ¬ s.ShowsRefused lib buf cnt ∧ ¬ s.ShowsEarlier lib buf cnt ∧
      ¬ s.ShowsUnread lib buf cnt := by
  have hbase : (sigBaseSize : Int) ≤ cnt := by
    by_contra hshort
    rw [Message.parse, if_pos (Int.not_le.1 hshort)] at hcode
    exact hcode.elim MngParseError.noConfusion MngParseError.noConfusion
  have hperm : ¬ Permitted s.allowUnauth (s.msg.parse lib buf cnt).1 := by
    rcases hcode with hcode | hcode <;> rw [hcode] <;> exact id
  have hprints : s.Prints (s.msg.parse lib buf cnt).1 ↔ s.useUds = true ∧ 0 < s.allowUnauth := by
    rcases hcode with hcode | hcode <;> rw [hcode] <;> rfl
  rw [and_iff_left (a := ¬ s.ShowsRefused lib buf cnt)
    ⟨fun h => hperm h.1, fun h => hperm h.1⟩]
  obtain ⟨htype, hmngType⟩ := Message.parse_kind lib s.msg buf hbase
  by_cases h : s.Prints (s.msg.parse lib buf cnt).1
  · have huds := hprints.1 h
    rw [Prudent, (shown_eq hready).1 h, dumpByType_ne_nil, htype, hmngType]
    exact ⟨fun hright hshows => hperm (hright hshows.2.2.2).1,
      fun hshows hkind => absurd ⟨huds.1, huds.2, hcode, hkind⟩ hshows⟩
  · rw [Prudent, (shown_eq hready).2 h]
    exact iff_of_true (fun hne => absurd rfl hne) fun hshows =>
      h (hprints.2 ⟨hshows.1, hshows.2.1⟩)

/-- Only an ORGANIZATION_EXTENSION gets the code of SMPTE. -/
theorem parse_ne_smpte (hmng : buf 0 &&& 0xf = MsgType.management)
    (htype : Message.mngTlvType buf = .management ∨
      Message.mngTlvType buf = .managementErrorStatus) : (s.msg.parse lib buf cnt).1 ≠ .smpte := by
  intro hcode
  have hsig : ¬ Message.SigHeader s.msg.prms buf cnt := fun h =>
    management_ne_signaling hmng h.type_eq
  have hother : ∀ err, err ≠ .smpte → (s.msg.parse lib buf cnt).1 ≠ err := fun err herr heq =>
    herr (heq.symm.trans hcode)
  have hheader := (header_of_code (hother .tooSmall (by decide))
    (hother .header (by decide))).resolve_left hsig
  rw [Message.parse_eq_parseMng lib s.msg hheader] at hcode
  by_cases hframe : ∃ actionField, Message.MngFrame buf (beAt buf Message.messageLengthOff 2) actionField
  case neg =>
      rcases Message.parseMng_unframed lib { s.msg with hdr := Message.readHeader s.msg.hdr buf }
        Message.headerLog (not_exists.1 hframe) with h | h
      all_goals
        rw [h] at hcode
        cases hcode
  case pos =>
      obtain ⟨actionField, hframe⟩ := hframe
      obtain ⟨log, -, heq⟩ := Message.parseMng_framed lib
        { s.msg with hdr := Message.readHeader s.msg.hdr buf } Message.headerLog hframe
      have hauth : Message.AuthCode (Message.parseMngAuth lib
        { s.msg with hdr := Message.readHeader s.msg.hdr buf } buf (Message.mngEnd buf)
        (Message.mngRest buf (beAt buf Message.messageLengthOff 2)) log).1 :=
          Message.parseMngAuth_code
      rw [heq] at hcode
      split at hcode
      · exact Message.ne_of_code hauth.ok_or_fault (by decide) (by decide) hcode
      · rcases htype with htype | htype
        · rw [htype] at hcode
          exact Message.ne_of_code (Message.parseManagement_code hauth) (by decide) (by decide) hcode
        · rw [htype] at hcode
          exact Message.ne_of_code (Message.parseErrorStatus_code hauth) (by decide) (by decide) hcode

/-- A code that prints nothing, of a message that is not printed. -/
theorem right_of_silent (hready : s.Ready) (hprints : ¬ s.Prints (s.msg.parse lib buf cnt).1)
    (hrefused : ¬ ((s.msg.parse lib buf cnt).1 = .action ∨ (s.msg.parse lib buf cnt).1 = .header))
    (hperm : ¬ Permitted s.allowUnauth (s.msg.parse lib buf cnt).1 ∨
      (s.msg.parse lib buf cnt).1 = .smpte) :
    s.Prudent lib buf cnt ↔ ¬ s.ShowsRefused lib buf cnt ∧ ¬ s.ShowsEarlier lib buf cnt ∧
      ¬ s.ShowsUnread lib buf cnt := by
  rw [Prudent, (shown_eq hready).2 hprints]
  refine iff_of_true (fun hne => absurd rfl hne) ⟨fun h => hrefused h.2.2.1, fun h => ?_, fun h => ?_⟩
  · rcases hperm with hperm | hsmpte
    · exact hperm h.1
    · exact parse_ne_smpte h.2.2.1 (h.2.2.2.imp (fun h => h.1) fun h => h.1) hsmpte
  · rcases hperm with hperm | hsmpte
    · exact hperm h.1
    · have hauth := h.2.1
      rw [hsmpte] at hauth
      exact absurd hauth (by decide)

/-- An error of authentication, above or below its threshold. -/
theorem right_of_isAuth (hready : s.Ready) (hcode : (s.msg.parse lib buf cnt).1.IsAuth) :
    s.Prudent lib buf cnt ↔ ¬ s.ShowsRefused lib buf cnt ∧ ¬ s.ShowsEarlier lib buf cnt ∧
      ¬ s.ShowsUnread lib buf cnt := by
  have hsame : s.Prints (s.msg.parse lib buf cnt).1 ↔
      Permitted s.allowUnauth (s.msg.parse lib buf cnt).1 := by
    rcases hcode with hcode | hcode | hcode | hcode
    all_goals
      rw [hcode]
      simp only [Prints, Permitted, UInt8.lt_iff_toNat_lt, UInt8.le_iff_toNat_le]
      rfl
  by_cases hprints : s.Prints (s.msg.parse lib buf cnt).1
  · exact right_of_printed hready hprints (hsame.1 hprints) (.inr (.inr (.inr hcode)))
  · refine right_of_silent hready hprints ?_ (.inl (hsame.not.1 hprints))
    rcases hcode with hcode | hcode | hcode | hcode
    all_goals
      rw [hcode]
      decide

/-- Of one call: it keeps to the policy unless one of the defects shows. -/
theorem prudent_iff (hready : s.Ready) : s.Prudent lib buf cnt ↔
    ¬ s.ShowsRefused lib buf cnt ∧ ¬ s.ShowsEarlier lib buf cnt ∧
      ¬ s.ShowsUnread lib buf cnt := by
  cases hcode : (s.msg.parse lib buf cnt).1
  case ok => exact right_of_printed hready (hcode ▸ trivial) (hcode ▸ trivial) (.inl hcode)
  case msg => exact right_of_printed hready (hcode ▸ trivial) (hcode ▸ trivial) (.inr (.inl hcode))
  case sig =>
      exact right_of_printed hready (hcode ▸ trivial) (hcode ▸ trivial) (.inr (.inr (.inl hcode)))
  case action => exact right_of_refused hready (.inl hcode)
  case header => exact right_of_refused hready (.inr hcode)
  case auth => exact right_of_isAuth hready (.inl hcode)
  case authNone => exact right_of_isAuth hready (.inr (.inl hcode))
  case authWrong => exact right_of_isAuth hready (.inr (.inr (.inl hcode)))
  case authNokey => exact right_of_isAuth hready (.inr (.inr (.inr hcode)))
  case smpte =>
      exact right_of_silent hready (by rw [hcode]; exact id) (by rw [hcode]; decide) (.inr hcode)
  all_goals
    exact right_of_silent hready (by rw [hcode]; exact id) (by rw [hcode]; decide)
      (.inl (by rw [hcode]; exact id))

theorem right_iff (hready : s.Ready) : s.Right lib buf cnt ↔
    ¬ s.ShowsRefused lib buf cnt ∧ ¬ s.ShowsEarlier lib buf cnt ∧ ¬ s.ShowsUnread lib buf cnt ∧
      ¬ Message.DeletesWild lib s.msg buf cnt := by
  rw [Right, prudent_iff hready, ← Message.parse_freesWild_iff, Bool.not_eq_true]
  simp only [and_assoc]

end Call

/-! ## Runs -/

section Runs

variable {lib : HmacLib} {opt : Options} {s : Pmc}

theorem updateParams_display (m : Message) (prms : MsgParams) :
    (m.updateParams prms).2.errorDisplay = m.errorDisplay := by
  rw [Message.updateParams]
  split <;> rfl

/-- A step keeps what was set up. -/
theorem Ready.step (h : s.Ready) (input : Input) : (s.step lib input).Ready := by
  cases input with
  | packet buf cnt =>
      rw [Pmc.step, rcv]
      split
      · exact h
      · exact ⟨(Message.parse_keeps lib s.msg buf cnt).shown h.fits⟩
  | target port =>
      refine ⟨?_⟩
      rw [Pmc.step, updateParams_display]
      exact h.fits
  | action actionField tlvId dataSend =>
      rw [Pmc.step]
      obtain heq | ⟨id, -, ⟨d, -, -, heq⟩ | ⟨-, heq⟩⟩ :=
        Message.setAction_cases s.msg actionField tlvId dataSend
      all_goals
        rw [heq]
        exact ⟨h.fits⟩

theorem Ready.run (h : s.Ready) (inputs : List Input) : (s.run lib inputs).Ready := by
  induction inputs generalizing s with
  | nil => exact h
  | cons input inputs ih => exact ih (h.step input)

/-- The text is empty as long as nothing was parsed. -/
theorem processAuth_display {m : Message} {allowUnauth : UInt8} {prms : MsgParams}
    (h : processAuth lib opt (Message.init .init) = some (m, allowUnauth, prms)) :
    m.errorDisplay = default := by
  rw [processAuth] at h
  split at h
  · cases h
    rfl
  · next sa spp keyId hspp =>
      split at h
      · cases h
      · obtain ⟨auth, hsend⟩ := Message.selectKey_send lib (Message.init .init) sa spp keyId
        rw [Message.useAuth] at h
        split at h
        · cases h
        · next he =>
            rw [he] at hsend
            obtain rfl := hsend
            cases h
            rfl

theorem start_ready (h : start lib opt = some s) : s.Ready := by
  rw [start, Option.bind_eq_bind, Option.bind_eq_some_iff] at h
  obtain ⟨s', hprocess, heq⟩ := h
  rw [process, Option.bind_eq_bind, Option.bind_eq_some_iff] at hprocess
  obtain ⟨⟨m, allowUnauth, prms⟩, hauth, heq'⟩ := hprocess
  cases heq'
  cases heq
  refine ⟨?_⟩
  simp only [updateParams_display, processAuth_display hauth]
  exact Nat.zero_le _

/-- **When `pmc` prints only what it may**, for every set up, every transport and every sequence of
    packets and commands: exactly when no message that is refused for its action or header is printed
    over UDS, nothing of an earlier message is left to be printed, no message that is printed although its
    authentication fails was left unread, and no parse deletes a pointer that was never assigned. -/
theorem run_right_iff (lib : HmacLib) (opt : Options) (s : Pmc) (hstart : start lib opt = some s)
    (inputs : List Input) :
    (∀ before buf cnt after, inputs = before ++ .packet buf cnt :: after →
      (s.run lib before).Right lib buf cnt) ↔
    ∀ before buf cnt after, inputs = before ++ .packet buf cnt :: after →
      ¬ (s.run lib before).ShowsRefused lib buf cnt ∧
      ¬ (s.run lib before).ShowsEarlier lib buf cnt ∧
      ¬ (s.run lib before).ShowsUnread lib buf cnt ∧
      ¬ Message.DeletesWild lib (s.run lib before).msg buf cnt := by
  have hready : ∀ before, (s.run lib before).Ready := (start_ready hstart).run
  constructor
  · intro h before buf cnt after heq
    exact (right_iff (hready before)).1 (h before buf cnt after heq)
  · intro h before buf cnt after heq
    exact (right_iff (hready before)).2 (h before buf cnt after heq)

end Runs

/-! ### A reply without data behind a reply with data -/

/-- No authentication, on a network. -/
def plainOptions : Options where
  spp := none
  allowUnauth := 0
  uds := false
  selfId := default
  boundaryHops := 1
  domainNumber := 0
  transportSpecific := 0
  useZeroGet := false
  batch := false

/-- A PRIORITY1 without data. -/
def shortPriority1 : Nat → UInt8 := ofList (Message.responseHead 54 2 0x20 0x05)

section Priority1

variable {s : Pmc}

/-- The data of a PRIORITY1 is in the object behind it. -/
theorem priority1_data (v : UInt8) (hprms : s.msg.prms.implementSpecific = .linuxptp)
    (hauth : s.msg.auth = none) :
    ∃ d, (s.msg.parse zeroLib (Message.priority1Reply v) 56).2.1.dataGet = .obj (.tlv .priority1 d) := by
  have hacc : Message.MngAccepted zeroLib s.msg.prms s.msg.auth (Message.priority1Reply v) 56
      .response :=
    ⟨(Message.priority1Reply_accepted v).header, (Message.priority1Reply_accepted v).frame,
      fun a ha => by rw [hauth] at ha; cases ha⟩
  have hdata := (Message.parse_reply hacc (Message.priority1Reply_type v)
    (hprms ▸ Message.priority1Reply_good v)).2.2
  have hlength : Message.mngLength (Message.priority1Reply v) ≠ lengthFieldMngBase := by
    rw [Message.priority1Reply_length]
    decide
  rw [if_neg hlength] at hdata
  obtain ⟨d, hd⟩ := readTlv_obj (by decide) ((Message.priority1Reply_good v).decodes hlength)
  exact ⟨d, hdata.trans hd⟩

theorem shortPriority1_code (hprms : s.msg.prms.implementSpecific = .linuxptp)
    (hauth : s.msg.auth = none) : (s.msg.parse zeroLib shortPriority1 54).1 = .ok := by
  have hacc : Message.MngAccepted zeroLib s.msg.prms s.msg.auth shortPriority1 54 .response :=
    ⟨⟨by decide, by decide, by decide, by decide, by decide, by decide⟩,
      ⟨by decide, by decide, by decide⟩, fun a ha => by rw [hauth] at ha; cases ha⟩
  have hgood : Message.GoodReply s.msg.prms.implementSpecific shortPriority1 .response .priority1 := by
    rw [hprms]
    exact ⟨.inl rfl, by decide, by decide, by decide, fun h => absurd (by decide) h⟩
  exact (Message.parse_reply hacc (by decide) hgood).1

/-- With data of a PRIORITY1 in the object a PRIORITY1 without data is not printed as it is. -/
theorem shortPriority1_shows {d : Tlv .priority1} (hprms : s.msg.prms.implementSpecific = .linuxptp)
    (hauth : s.msg.auth = none) (hdata : s.msg.dataGet = .obj (.tlv .priority1 d)) :
    s.ShowsEarlier zeroLib shortPriority1 54 := by
  rw [ShowsEarlier, shortPriority1_code hprms hauth, hprms]
  refine ⟨trivial, fun h => absurd h (by decide), by decide, .inl ⟨by decide, by decide, .priority1, by decide, ?_⟩⟩
  rw [callHadler, Message.getData, hdata, Message.isValidId, hprms]
  simp [Message.isEmpty, iCallHandler, mngAllVals]

end Priority1

/-- A call that follows the PRIORITY1 of a clock prints that one again with a PRIORITY1 that has no data
    of its own. -/
theorem shortPriority1_not_right : ∃ s, start zeroLib plainOptions = some s ∧
    ¬ (s.run zeroLib [.packet (Message.priority1Reply 7) 56]).Right zeroLib shortPriority1 54 := by
  refine ⟨_, rfl, ?_⟩
  generalize hs : Pmc.mk _ _ _ = s
  have hstart : start zeroLib plainOptions = some s := by rw [← hs]; rfl
  have hprms : s.msg.prms.implementSpecific = .linuxptp := by rw [← hs]; rfl
  have hauth : s.msg.auth = none := by rw [← hs]; rfl
  have hkeeps := Message.parse_keeps zeroLib s.msg (Message.priority1Reply 7) 56
  obtain ⟨d, hdata⟩ := priority1_data 7 hprms hauth
  have hready : (s.run zeroLib [.packet (Message.priority1Reply 7) 56]).Ready :=
    (start_ready hstart).run _
  intro hright
  refine ((right_iff hready).1 hright).2.1 (shortPriority1_shows ?_ (hkeeps.auth.trans hauth) hdata)
  exact (congrArg MsgParams.implementSpecific hkeeps.prms).trans hprms

theorem run_right_iff_priority1 : ∃ s, start zeroLib plainOptions = some s ∧
    ∀ before buf cnt after, [.packet (Message.priority1Reply 7) 56]
      = before ++ .packet buf cnt :: after → (s.run zeroLib before).Right zeroLib buf cnt := by
  refine ⟨_, rfl, (run_right_iff zeroLib plainOptions _ rfl _).2 ?_⟩
  intro before buf cnt after heq
  cases before with
  | cons input before => exact absurd (congrArg List.length heq) (by simp)
  | nil =>
      cases heq
      refine ⟨fun h => absurd h.1 (by decide), fun h => ?_, fun h => ?_, ?_⟩
      · rcases h.2.2.2 with ⟨-, hlength, -⟩ | ⟨htype, -⟩
        · rw [Message.priority1Reply_length] at hlength
          exact absurd hlength (by decide)
        · rw [Message.priority1Reply_type] at htype
          cases htype
      · have hcode := h.2.1
        rw [show (Message.parse zeroLib _ (Message.priority1Reply 7) 56).1 = MngParseError.ok from rfl] at hcode
        exact absurd hcode (by decide)
      · exact Message.Owned.not_deletesWild ⟨TlvPtr.noConfusion, fun x hx => by cases hx⟩ _ _

end Pmc

end PtpMgmt
