import Mathlib.Tactic.IntervalCases
import PtpMgmt.Message.Allowed
import PtpMgmt.Message.Replies

set_option autoImplicit false

/-! # A message that comes back to its sender

On a multicast address a sender may receive its own requests. What a build writes carries the action of a
request and a management TLV, and a parse takes no such message: it ends before anything of the last reply
is touched. -/

namespace PtpMgmt

open Wire Codec

namespace Message

/-! ## The octets of a build that stay -/

section Fixed

variable {lib : HmacLib} {m : Message} {mem : Nat → UInt8} {bufSize : Nat} {sequence : UInt16}

/-- A build that succeeds leaves the header as it was written in front of the dataField, but for the two
    lengths. -/
theorem build_fixed (hok : (m.build lib mem bufSize sequence).1 = .ok) {o : Nat} (ho : Fixed o) :
    (m.build lib mem bufSize sequence).2.2.mem o = (m.buildStart mem bufSize sequence).mem o := by
  unfold build at hok ⊢
  split at hok
  · cases hok
  · next hbase =>
      rw [if_neg hbase]
      have hleft : (m.buildStart mem bufSize sequence).left = (bufSize : Int) - mngMsgBaseSize := rfl
      have hdata := buildData_frame (m := m) (m.buildStart mem bufSize sequence) (by omega) ho.1
      split at hok
      · next mp he =>
          rw [he] at hdata
          exact (buildFinish_frame mp hdata.2 ho).trans hdata.1
      · next hne _ => exact absurd hok hne

/-- The octets in front of the TLV are those of the header. -/
theorem buildStart_header {o : Nat} (ho : o < mngMsgSize) :
    (m.buildStart mem bufSize sequence).mem o = (m.headerOctets sequence).get ⟨o, by simpa using ho⟩ := by
  unfold buildStart
  rw [poke_frame (.inl (Nat.lt_of_lt_of_le ho (Nat.le_add_right _ _))), poke_frame (.inl ho), poke_mem,
    store, if_pos (Nat.zero_le o), Nat.sub_zero, List.getElem?_eq_getElem (by simpa using ho),
    Option.getD_some, List.get_eq_getElem]

/-- The type of the TLV. -/
theorem buildStart_tlvType : beAt (m.buildStart mem bufSize sequence).mem mngMsgSize 2 = 1 := by
  have hslice : slice (m.buildStart mem bufSize sequence).mem mngMsgSize 2 = beOctets 2 1 := by
    unfold buildStart
    rw [poke_mem, slice_store_of_disjoint _ _ _ _ _ (.inl (by decide)), poke_mem]
    exact slice_store_self _ mngMsgSize (beOctets 2 1)
  exact beAt_of_slice hslice

theorem fixed_of_lt {o : Nat} (ho : o < mngMsgSize) (hlength : o < messageLengthOff ∨ messageLengthOff + 2 ≤ o) :
    Fixed o :=
  ⟨Nat.lt_of_lt_of_le ho (by decide), hlength, .inl (Nat.lt_of_lt_of_le ho (by decide))⟩

theorem build_header (hok : (m.build lib mem bufSize sequence).1 = .ok) {o : Nat} (ho : o < mngMsgSize)
    (hlength : o < messageLengthOff ∨ messageLengthOff + 2 ≤ o) :
    (m.build lib mem bufSize sequence).2.2.mem o = (m.headerOctets sequence).get ⟨o, by simpa using ho⟩ := by
  rw [build_fixed hok (fixed_of_lt ho hlength), buildStart_header ho]

theorem build_tlvType (hok : (m.build lib mem bufSize sequence).1 = .ok) :
    beAt (m.build lib mem bufSize sequence).2.2.mem mngMsgSize 2 = 1 := by
  have hstart : beAt (m.buildStart mem bufSize sequence).mem mngMsgSize 2 = 1 := buildStart_tlvType
  rw [← hstart, beAt, beAt]
  congr 1
  refine slice_congr fun o hle hlt => build_fixed hok ⟨?_, .inr ?_, .inl ?_⟩
  · exact Nat.lt_of_lt_of_le hlt (by decide)
  · exact Nat.le_trans (by decide) hle
  · exact Nat.lt_of_lt_of_le hlt (by decide)

/-- A message without authentication: the header, with its length, and the TLV around the dataField `w`. -/
def plainOctets (m : Message) (sequence : UInt16) (w : List UInt8) : List UInt8 :=
  (m.headerOctets sequence).take messageLengthOff ++ beOctets 2 (mngMsgBaseSize + w.length) ++
    (m.headerOctets sequence).drop (messageLengthOff + 2) ++
    beOctets 2 1 ++ beOctets 2 (lengthFieldMngBase + w.length) ++ beOctets 2 (mngAllVals m.tlvId).value.toNat ++ w

/-- Octets of the header. -/
theorem build_headerSlice (hok : (m.build lib mem bufSize sequence).1 = .ok) {off n : Nat}
    (hend : off + n ≤ mngMsgSize) (haway : off + n ≤ messageLengthOff ∨ messageLengthOff + 2 ≤ off) :
    slice (m.build lib mem bufSize sequence).2.2.mem off n = ((m.headerOctets sequence).drop off).take n := by
  refine List.ext_getElem (by rw [length_slice, List.length_take, List.length_drop, length_headerOctets]; omega)
    fun i hi hi' => ?_
  rw [length_slice] at hi
  have hbuf := build_header hok (show off + i < mngMsgSize by omega)
    (haway.imp (fun h => Nat.lt_of_lt_of_le (Nat.add_lt_add_left hi off) h) fun h => Nat.le_add_right_of_le h)
  simp [slice, hbuf]

/-- **What is built**: without authentication a message that has room is built, whatever the buffer held, and
    all of its octets are known. -/
theorem build_octets {w : List UInt8} (hplain : m.auth = none ∨ m.prms.sendAuth = false) (hw : DataOctets m w)
    (heven : w.length % 2 = 0) (hroom : mngMsgBaseSize + w.length ≤ bufSize) :
    (m.build lib mem bufSize sequence).1 = .ok ∧
    (m.build lib mem bufSize sequence).2.1 = { m with msgLen := mngMsgBaseSize + w.length } ∧
    slice (m.build lib mem bufSize sequence).2.2.mem 0 (mngMsgBaseSize + w.length) = m.plainOctets sequence w := by
  let mp := m.buildStart mem bufSize sequence
  have hleft : mp.left = (bufSize : Int) - mngMsgBaseSize := rfl
  have hdata := (hw mp rfl (by omega) rfl rfl).1 (by omega)
  have hsize : (mp.emit w).size = w.length := by
    rw [Cursor.emit_size]
    exact Nat.zero_add _
  have hrun : m.build lib mem bufSize sequence = (.ok, { m with msgLen := mngMsgBaseSize + w.length },
      poke (withLengthField (mp.emit w) w.length) messageLengthOff (beOctets 2 (mngMsgBaseSize + w.length))) := by
    rw [build, if_neg (Nat.not_lt.2 (Nat.le_trans (Nat.le_add_right _ _) hroom)),
      show m.buildData (m.buildStart mem bufSize sequence) = _ from hdata]
    exact buildFinish_plain_eq hsize heven hplain
  have hok : (m.build lib mem bufSize sequence).1 = .ok := by rw [hrun]
  have hdataField := slice_store_self mp.mem mngMsgBaseSize w
  have hbuilt : Built lib m w (m.build lib mem bufSize sequence).2.2.mem := by
    rw [hrun]
    exact built_plain hdataField hplain
  refine ⟨hok, by rw [hrun], ?_⟩
  have hlength := hbuilt.messageLength
  rw [addAuth_of_plain hplain, Nat.add_zero] at hlength
  have hmessageLength := slice_of_beAt hlength
  have htlvType := slice_of_beAt (v := 1) (build_tlvType hok)
  have hlengthField := slice_of_beAt hbuilt.lengthField
  have hvalue : beAt (m.build lib mem bufSize sequence).2.2.mem mngTlvOff 2 =
      (mngAllVals m.tlvId).value.toNat % 256 ^ 2 := by
    rw [(carries_of_build hok).id_eq]
    exact (Nat.mod_eq_of_lt (UInt16.toNat_lt _)).symm
  have hid := slice_of_beAt hvalue
  have hstart := build_headerSlice hok (show 0 + messageLengthOff ≤ mngMsgSize by decide) (.inl (by decide))
  have hrest := build_headerSlice hok (n := mngMsgSize - 4) (show messageLengthOff + 2 + _ ≤ _ by decide)
    (.inr (by decide))
  -- the octets one part behind the other
  have hsplit : ∀ buf : Nat → UInt8, slice buf 0 (mngMsgBaseSize + w.length) =
      slice buf 0 messageLengthOff ++ slice buf messageLengthOff 2 ++
        slice buf (messageLengthOff + 2) (mngMsgSize - 4) ++ slice buf mngMsgSize 2 ++ slice buf lengthFieldOff 2 ++
        slice buf mngTlvOff 2 ++ slice buf mngMsgBaseSize w.length := by
    intro buf
    rw [show mngMsgBaseSize + w.length = messageLengthOff + 2 + (mngMsgSize - 4) + 2 + 2 + 2 + w.length from rfl]
    simp only [slice_add]
    rfl
  have hshort : ((m.headerOctets sequence).drop (messageLengthOff + 2)).length ≤ mngMsgSize - 4 := by
    rw [List.length_drop, length_headerOctets]
    exact Nat.le_refl _
  rw [hsplit, hstart, hmessageLength, hrest, htlvType, hlengthField, hid, hbuilt.dataField, List.drop_zero,
    List.take_of_length_le hshort, plainOctets]

end Fixed

/-! ## Requests -/

/-- The octets of a request: a management message with a management TLV, and no action of a reply. -/
structure IsRequest (buf : Nat → UInt8) : Prop where
  type_eq : buf 0 &&& 0xf = MsgType.management
  action : ∀ actionField, ActionField.ofReply (buf actionFieldOff &&& 0xf) = some actionField →
    actionField ≠ .response ∧ actionField ≠ .acknowledge
  tlvType : mngTlvType buf = .management

/-- What the getters say of the last reply is the same. -/
structure SameReply (m m' : Message) : Prop where
  replyAction : m'.replyAction = m.replyAction
  replayTlvId : m'.replayTlvId = m.replayTlvId
  dataGet : m'.dataGet = m.dataGet
  errorId : m'.errorId = m.errorId
  errorDisplay : m'.errorDisplay = m.errorDisplay
  sigTlvs : m'.sigTlvs = m.sigTlvs

section Refused

variable {lib : HmacLib} {m : Message} {buf : Nat → UInt8} {log : ParseLog}

theorem parseHeader_same (m : Message) (buf : Nat → UInt8) (log : ParseLog) :
    SameReply m (parseHeader m buf log).2.1 := by
  rw [parseHeader]
  simp only
  split
  · exact ⟨rfl, rfl, rfl, rfl, rfl, rfl⟩
  · split <;> exact ⟨rfl, rfl, rfl, rfl, rfl, rfl⟩

theorem parseManagement_request {actionField : ActionField} {tlvSize : Nat} {errAuth : MngParseError}
    (h : actionField ≠ .response ∧ actionField ≠ .acknowledge) :
    parseManagement m buf actionField tlvSize errAuth log = (.action, m, log) := by
  rw [parseManagement, if_pos h]

/-- A request is refused for its action, or before, for its frame or its authentication. -/
theorem parseMng_request (lib : HmacLib) (m : Message) (log : ParseLog) (h : IsRequest buf) (msgSize : Nat) :
    IsFault (parseMng lib m buf msgSize log).1 ∧ SameReply m (parseMng lib m buf msgSize log).2.1 := by
  have hfault : IsFault MngParseError.action ∧ IsFault MngParseError.tooSmall := by decide
  have hsame : ∀ mngType, SameReply m { m with lastSig := false, mngType } :=
    fun _ => ⟨rfl, rfl, rfl, rfl, rfl, rfl⟩
  rw [parseMng]
  simp only
  split
  · exact ⟨hfault.1, hsame _⟩
  · next actionField haction =>
      split
      · exact ⟨hfault.2, hsame _⟩
      · split
        · next hstop => exact ⟨parseMngAuth_code.fault hstop.1, hsame _⟩
        · rw [show TlvType.ofVal (UInt16.ofNat (beAt buf mngMsgSize 2)) = .management from h.tlvType,
            parseMngTlv, parseManagement_request (h.action actionField haction)]
          exact ⟨hfault.1, hsame _⟩

/-- **No parse takes a request for a reply.** -/
theorem parse_request (h : IsRequest buf) (bufSize : Int) :
    IsFault (m.parse lib buf bufSize).1 ∧ SameReply m (m.parse lib buf bufSize).2.1 := by
  have hfault : IsFault MngParseError.header ∧ IsFault MngParseError.tooSmall := by decide
  rw [parse]
  split
  · exact ⟨hfault.2, rfl, rfl, rfl, rfl, rfl, rfl⟩
  · simp only
    split
    · exact ⟨hfault.1, rfl, rfl, rfl, rfl, rfl, rfl⟩
    · split
      · next htype =>
          rw [h.type_eq] at htype
          exact absurd htype (by decide)
      · rw [if_pos h.type_eq]
        split
        · exact ⟨hfault.2, rfl, rfl, rfl, rfl, rfl, rfl⟩
        · have hheader := parseHeader_same { m with hdr := { m.hdr with type := buf 0 &&& 0xf } } buf
            ((ParseLog.init.look messageLengthOff 2).look 0 1)
          split
          · next he =>
              rw [he] at hheader
              exact ⟨hfault.1, hheader.replyAction, hheader.replayTlvId, hheader.dataGet, hheader.errorId,
                hheader.errorDisplay, hheader.sigTlvs⟩
          · next m' log' he =>
              rw [he] at hheader
              obtain ⟨hcode, hsame⟩ := parseMng_request lib m' log' h (beAt buf messageLengthOff 2)
              exact ⟨hcode, hsame.replyAction.trans hheader.replyAction,
                hsame.replayTlvId.trans hheader.replayTlvId, hsame.dataGet.trans hheader.dataGet,
                hsame.errorId.trans hheader.errorId, hsame.errorDisplay.trans hheader.errorDisplay,
                hsame.sigTlvs.trans hheader.sigTlvs⟩

end Refused

/-! ## What is built is a request -/

/-- The actions that `setAction` takes. -/
def Asks (actionField : ActionField) : Prop :=
  actionField = .get ∨ actionField = .set ∨ actionField = .command

instance decidableAsks (actionField : ActionField) : Decidable (Asks actionField) :=
  inferInstanceAs (Decidable (_ ∨ _))

theorem asks_of_allowed {id : MngId} {action : ActionField}
    (h : ((mngAllVals id).allowed &&& (1 <<< action.val) != 0) = true) : Asks action := by
  cases action
  case response => revert h; cases id <;> decide
  case acknowledge => revert h; cases id <;> decide
  all_goals simp [Asks]

section Sends

variable {lib : HmacLib} {P : ActionField → MngId → Bool → Prop}

/-- **Step**: what holds of every action that is allowed for its id, and of every GET without data, is kept by
    the calls that set a message up. -/
theorem call_sends (hset : ∀ (action : ActionField) (id : MngId) (data : Bool),
      ((mngAllVals id).allowed &&& (1 <<< action.val) != 0) = true → P action id data)
    (hclear : ∀ id, P .get id false) {m : Message} (h : P m.sendAction m.tlvId m.dataSend.isSome) (c : Call) :
    P (m.call lib c).sendAction (m.call lib c).tlvId (m.call lib c).dataSend.isSome := by
  have hkey : ∀ sa sppID keyID, P (m.selectKey lib sa sppID keyID).2.sendAction
      (m.selectKey lib sa sppID keyID).2.tlvId (m.selectKey lib sa sppID keyID).2.dataSend.isSome := by
    intro sa sppID keyID
    obtain ⟨auth, heq⟩ := selectKey_send lib m sa sppID keyID
    rw [heq]
    exact h
  cases c with
  | updateParams prms =>
      rw [Message.call, Message.updateParams]
      split <;> exact h
  | setAction action tlvId dataSend =>
      rw [Message.call]
      obtain hsame | ⟨id, hbit, ⟨d, -, -, heq⟩ | ⟨-, heq⟩⟩ := setAction_cases m action tlvId dataSend
      · rw [hsame]
        exact h
      · rw [heq]
        exact hset action id _ hbit
      · rw [heq]
        exact hset action id _ hbit
  | clearData =>
      rw [Message.call, Message.clearData]
      split
      · exact hclear m.tlvId
      · exact h
  | useAuth sa sppID keyID => exact hkey sa sppID keyID
  | changeAuth sppID keyID =>
      rw [Message.call, Message.changeAuth]
      split
      · exact h
      · exact hkey _ _ _
  | changeAuthKey keyID =>
      rw [Message.call, Message.changeAuthKey]
      split
      · exact h
      · exact hkey _ _ _
  | disableAuth => exact h

/-- **Run**: it holds in every state that is reached. -/
theorem Reachable.sends (hset : ∀ (action : ActionField) (id : MngId) (data : Bool),
      ((mngAllVals id).allowed &&& (1 <<< action.val) != 0) = true → P action id data)
    (hclear : ∀ id, P .get id false) {m : Message} (h : Reachable lib m) :
    P m.sendAction m.tlvId m.dataSend.isSome := by
  induction h with
  | init prms => exact hclear _
  | call c _ ih => exact call_sends hset hclear ih c

end Sends

theorem Reachable.asks {lib : HmacLib} {m : Message} (h : Reachable lib m) : Asks m.sendAction :=
  h.sends (P := fun action _ _ => Asks action) (fun _ _ _ => asks_of_allowed) fun _ => .inl rfl

theorem ofReply_of_asks {action actionField : ActionField} (h : Asks action)
    (hreply : ActionField.ofReply (action.val &&& 0xf) = some actionField) :
    actionField ≠ .response ∧ actionField ≠ .acknowledge := by
  rcases h with rfl | rfl | rfl
  · cases hreply
  · cases hreply
  · obtain rfl : ActionField.command = actionField := Option.some.inj hreply
    decide

/-- The type of the message stands in the lower half of the first octet. -/
theorem type_octet (transportSpecific : UInt8) :
    (MsgType.management ||| (transportSpecific <<< 4)) &&& 0xf = MsgType.management := by
  apply UInt8.toBitVec_inj.1
  ext i hi
  simp only [MsgType.management]
  interval_cases i <;> simp

section Built

variable {lib : HmacLib} {m : Message} {mem : Nat → UInt8} {bufSize : Nat} {sequence : UInt16}

/-- A build that succeeds writes a request. -/
theorem isRequest_of_build (hasks : Asks m.sendAction) (hok : (m.build lib mem bufSize sequence).1 = .ok)
    {buf : Nat → UInt8}
    (hsame : ∀ o, Fixed o → buf o = (m.build lib mem bufSize sequence).2.2.mem o) : IsRequest buf := by
  constructor
  case type_eq =>
      rw [hsame 0 (fixed_of_lt (by decide) (.inl (by decide))),
        build_header hok (by decide) (.inl (by decide))]
      exact type_octet m.prms.transportSpecific
  case action =>
      intro actionField hreply
      rw [hsame actionFieldOff (fixed_of_lt (by decide) (.inr (by decide))),
        (carries_of_build hok).action_eq] at hreply
      exact ofReply_of_asks hasks hreply
  case tlvType =>
      have hslice : beAt buf mngMsgSize 2 = beAt (m.build lib mem bufSize sequence).2.2.mem mngMsgSize 2 := by
        rw [beAt, beAt]
        congr 1
        refine slice_congr fun o hle hlt => hsame o ⟨?_, .inr ?_, .inl ?_⟩
        · exact Nat.lt_of_lt_of_le hlt (by decide)
        · exact Nat.le_trans (by decide) hle
        · exact Nat.lt_of_lt_of_le hlt (by decide)
      rw [mngTlvType, hslice, build_tlvType hok]
      rfl

end Built

/-- **An own message is never a reply**: whatever calls set a message up, what a build writes is refused by
    every parse, of any object with any parameters and keys, and the last reply of that object stays. -/
theorem parse_own (lib : HmacLib) {m : Message} (hm : Reachable lib m) (mem : Nat → UInt8) (bufSize : Nat)
    (sequence : UInt16) (hok : (m.build lib mem bufSize sequence).1 = .ok) (receiverLib : HmacLib)
    (r : Message) (buf : Nat → UInt8) (size : Int)
    (hsame : ∀ o < (m.build lib mem bufSize sequence).2.1.msgLen,
      buf o = (m.build lib mem bufSize sequence).2.2.mem o) :
    IsFault (r.parse receiverLib buf size).1 ∧ SameReply r (r.parse receiverLib buf size).2.1 := by
  obtain ⟨w, hlen, -⟩ := built_of_build hok
  refine parse_request (isRequest_of_build hm.asks hok fun o ho => hsame o ?_) size
  rw [hlen]
  exact Nat.lt_of_lt_of_le ho.1 (by omega)

/-- A GET of the null id, received by the object that sent it. -/
theorem parse_own_nullPtpManagement :
    IsFault ((init MsgParams.init).parse zeroLib
      ((init MsgParams.init).build zeroLib (fun _ => 0) 64 1).2.2.mem 64).1 :=
  (parse_own zeroLib (.init MsgParams.init) (fun _ => 0) 64 1 rfl zeroLib (init MsgParams.init) _ 64
    fun _ _ => rfl).1

end Message

end PtpMgmt
