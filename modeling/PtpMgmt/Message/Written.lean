import PtpMgmt.Message.Length

set_option autoImplicit false

/-! # What a build looks at

Two messages with the same action, id and TLV, the same key, and the same of the parameters that a build looks
at, are built alike, whatever their buffers held and whatever they received: both builds fail, or they write the
same octets. -/

namespace PtpMgmt

open Wire Codec

/-- The parameters that a build looks at: all but those for receiving signaling messages. -/
def MsgParams.outbound (prms : MsgParams) : MsgParams := { prms with rcvSignaling := false, allowSigTlvs := [] }

namespace Message

/-- The messages have the same parameters for what is sent, and the same key. -/
structure Alike (m m' : Message) : Prop where
  prms : m.prms.outbound = m'.prms.outbound
  auth : m.auth = m'.auth

/-- The messages send the same. -/
structure SendsAlike (m m' : Message) : Prop extends Alike m m' where
  sendAction : m.sendAction = m'.sendAction
  tlvId : m.tlvId = m'.tlvId
  dataSend : m.dataSend = m'.dataSend

namespace Alike

variable {m m' : Message}

theorem refl (m : Message) : Alike m m := ⟨rfl, rfl⟩

theorem trans {m'' : Message} (h : Alike m m') (k : Alike m' m'') : Alike m m'' :=
  ⟨h.prms.trans k.prms, h.auth.trans k.auth⟩

theorem symm (h : Alike m m') : Alike m' m := ⟨h.prms.symm, h.auth.symm⟩

theorem useZeroGet (h : Alike m m') : m.prms.useZeroGet = m'.prms.useZeroGet :=
  (congrArg MsgParams.useZeroGet h.prms :)

theorem sendAuth (h : Alike m m') : m.prms.sendAuth = m'.prms.sendAuth := (congrArg MsgParams.sendAuth h.prms :)

theorem implementSpecific (h : Alike m m') : m.prms.implementSpecific = m'.prms.implementSpecific :=
  (congrArg MsgParams.implementSpecific h.prms :)

end Alike

/-! ## Building -/

/-- Two walks that stand at the same place, with memories that agree at some places. -/
structure WalksAlike (P : Nat → Prop) (mp mp' : MsgProc) : Prop where
  mem : AgreeOn P mp.mem mp'.mem
  build : mp.build = mp'.build
  cur : mp.cur = mp'.cur
  left : mp.left = mp'.left
  size : mp.size = mp'.size
  err : mp.err = mp'.err

namespace WalksAlike

variable {P : Nat → Prop} {mp mp' : MsgProc}

theorem poke (h : WalksAlike P mp mp') (off : Nat) (w : List UInt8) :
    WalksAlike (fun o => P o ∨ (off ≤ o ∧ o < off + w.length)) (poke mp off w) (poke mp' off w) :=
  ⟨h.mem.store off w, h.build, h.cur, h.left, h.size, h.err⟩

theorem emit (h : WalksAlike P mp mp') (w : List UInt8) :
    WalksAlike (fun o => P o ∨ (mp.cur ≤ o ∧ o < mp.cur + w.length)) (mp.emit w) (mp'.emit w) := by
  refine ⟨?_, h.build, ?_, ?_, ?_, h.err⟩
  · rw [Cursor.emit_mem, Cursor.emit_mem, ← h.cur]
    exact h.mem.store mp.cur w
  · rw [Cursor.emit_cur, Cursor.emit_cur, h.cur]
  · rw [Cursor.emit_left, Cursor.emit_left, h.left]
  · rw [Cursor.emit_size, Cursor.emit_size, h.size]

theorem mono {Q : Nat → Prop} (h : WalksAlike P mp mp') (hsub : ∀ o, Q o → P o) : WalksAlike Q mp mp' :=
  { h with mem := h.mem.mono hsub }

end WalksAlike

section Build

variable {m m' : Message} (h : SendsAlike m m')

include h

theorem SendsAlike.headerOctets (sequence : UInt16) : m.headerOctets sequence = m'.headerOctets sequence := by
  have hfield : ∀ {α : Type} (f : MsgParams → α), f m.prms.outbound = f m'.prms.outbound :=
    fun f => congrArg f h.prms
  have hts := hfield MsgParams.transportSpecific
  have hminor := hfield MsgParams.minorVersion
  have hdomain := hfield MsgParams.domainNumber
  have hunicast := hfield MsgParams.isUnicast
  have hself := hfield MsgParams.selfId
  have htarget := hfield MsgParams.target
  have hhops := hfield MsgParams.boundaryHops
  simp only [MsgParams.outbound] at hts hminor hdomain hunicast hself htarget hhops
  simp only [Message.headerOctets, hts, hminor, hdomain, hunicast, hself, htarget, hhops, h.sendAction]

/-- In front of the dataField all is written but the lengthField. -/
theorem SendsAlike.buildStart (mem mem' : Nat → UInt8) (bufSize : Nat) (sequence : UInt16) :
    WalksAlike (fun o => o < mngMsgBaseSize ∧ (o < lengthFieldOff ∨ lengthFieldOff + 2 ≤ o))
      (m.buildStart mem bufSize sequence) (m'.buildStart mem' bufSize sequence) := by
  have hstart : WalksAlike (fun _ => False)
      (⟨true, mngMsgBaseSize, (bufSize : Int) - mngMsgBaseSize, 0, .tooSmall, mem, [], [], false⟩ : MsgProc)
      ⟨true, mngMsgBaseSize, (bufSize : Int) - mngMsgBaseSize, 0, .tooSmall, mem', [], [], false⟩ :=
    ⟨.none _ _, rfl, rfl, rfl, rfl, rfl⟩
  have hall := ((hstart.poke 0 (m.headerOctets sequence)).poke mngMsgSize (beOctets 2 0x0001)).poke
    (mngMsgSize + tlvSizeHdr) (beOctets 2 (mngAllVals m.tlvId).value.toNat)
  rw [Message.buildStart, Message.buildStart, ← h.headerOctets sequence, ← h.tlvId]
  refine hall.mono fun o ho => ?_
  simp only [length_headerOctets, length_beOctets, mngMsgBaseSize, lengthFieldOff, mngMsgSize, tlvSizeHdr,
    lengthFieldMngBase] at ho ⊢
  omega

theorem SendsAlike.buildData (mp : MsgProc) : m.buildData mp = m'.buildData mp := by
  rw [Message.buildData, Message.buildData, h.sendAction, h.dataSend, h.tlvId, h.useZeroGet]

omit h in
/-- The authentication TLV. Its ICV covers everything in front of it, which the memories agree on. -/
theorem buildAuth_alike (lib : HmacLib) (a : Auth) {mp mp' : MsgProc} {size : Nat}
    (hmp : WalksAlike (· < size) mp mp') (hcur : mp.cur = size) :
    (buildAuth lib m a mp size).1 = (buildAuth lib m' a mp' size).1 ∧
    ((buildAuth lib m a mp size).1 = .ok →
      (buildAuth lib m a mp size).2.1.msgLen = (buildAuth lib m' a mp' size).2.1.msgLen ∧
      slice (buildAuth lib m a mp size).2.2.mem 0 (buildAuth lib m a mp size).2.1.msgLen =
        slice (buildAuth lib m' a mp' size).2.2.mem 0 (buildAuth lib m' a mp' size).2.1.msgLen) := by
  have hmac : a.macSize ≤ 32 := (a.sa.spp a.sppID).macSize_le a.keyID
  have htlv := (hmp.emit (authTlvOctets a a.macSize)).poke messageLengthOff
    (beOctets 2 (size + authTlvSize + a.macSize))
  have hfront : size + authTlvSize + a.macSize - a.macSize = size + authTlvSize := by omega
  have hall : WalksAlike (· < size + authTlvSize) _ _ := htlv.mono fun o ho => by
    rw [length_authTlvOctets, hcur]
    omega
  have hcovered := hall.mem.slice 0 (size + authTlvSize) fun o _ ho => by omega
  rw [buildAuth, buildAuth, ← hmp.left]
  simp only [hfront]
  split
  · exact ⟨rfl, fun hok => by cases hok⟩
  · rw [← hcovered]
    split
    · exact ⟨rfl, fun hok => by cases hok⟩
    · next mac hdigest =>
        have hlen : mac.length = a.macSize := HmacKey.length_of_digest hdigest hmac
        refine ⟨rfl, fun _ => ⟨rfl, ?_⟩⟩
        -- the ICV is written behind the TLV in both
        have hend : mp.cur + (authTlvOctets a a.macSize).length = size + authTlvSize := by
          rw [length_authTlvOctets, hcur]
        have hput := (hall.mem.store (mp.cur + (authTlvOctets a a.macSize).length) mac).slice 0
          (size + authTlvSize + a.macSize) fun o _ ho => by
            rw [hend, hlen]
            omega
        exact hput.trans (by rw [hmp.cur]; rfl)

/-- Behind a dataField the rest of the message is written, and it is all that the ICV covers. -/
theorem SendsAlike.buildFinish (lib : HmacLib) {mp mp' : MsgProc} {P : Nat → Prop} (hmp : WalksAlike P mp mp')
    (hP : ∀ o, o < mngMsgBaseSize + mp.size → P o ∨ (lengthFieldOff ≤ o ∧ o < lengthFieldOff + 2))
    (hcur : mp.cur = mngMsgBaseSize + mp.size) :
    (m.buildFinish lib mp).1 = (m'.buildFinish lib mp').1 ∧
    ((m.buildFinish lib mp).1 = .ok →
      (m.buildFinish lib mp).2.1.msgLen = (m'.buildFinish lib mp').2.1.msgLen ∧
      slice (m.buildFinish lib mp).2.2.mem 0 (m.buildFinish lib mp).2.1.msgLen =
        slice (m'.buildFinish lib mp').2.2.mem 0 (m'.buildFinish lib mp').2.1.msgLen) := by
  have hsized : WalksAlike (· < mngMsgBaseSize + mp.size) _ _ :=
    (hmp.poke lengthFieldOff (beOctets 2 (lengthFieldMngBase + mp.size))).mono fun o ho => by
      rw [length_beOctets]
      exact hP o ho
  have hplain : slice (Message.poke (Message.poke mp lengthFieldOff (beOctets 2 (lengthFieldMngBase + mp.size)))
        messageLengthOff (beOctets 2 (mngMsgBaseSize + mp.size))).mem 0 (mngMsgBaseSize + mp.size) =
      slice (Message.poke (Message.poke mp' lengthFieldOff (beOctets 2 (lengthFieldMngBase + mp.size)))
        messageLengthOff (beOctets 2 (mngMsgBaseSize + mp.size))).mem 0 (mngMsgBaseSize + mp.size) :=
    (hsized.poke messageLengthOff (beOctets 2 (mngMsgBaseSize + mp.size))).mem.slice _ _ fun o _ ho => .inl (by omega)
  rw [Message.buildFinish, Message.buildFinish, ← hmp.size, ← h.auth, ← h.sendAuth]
  split
  · exact ⟨rfl, fun hok => by cases hok⟩
  · cases m.auth with
    | none => exact ⟨rfl, fun _ => ⟨rfl, hplain⟩⟩
    | some a =>
        simp only
        split
        · exact buildAuth_alike lib a hsized hcur
        · exact ⟨rfl, fun _ => ⟨rfl, hplain⟩⟩

/-- A build that succeeds, of the same in another buffer. -/
theorem SendsAlike.build_ok (lib : HmacLib) (hm : SendInv m)
    (haddr : ∀ id d, m.dataSend = some (.tlv id d) → tlvAddressesFit id d) {mem : Nat → UInt8} (mem' : Nat → UInt8)
    {bufSize : Nat} {sequence : UInt16} (hok : (m.build lib mem bufSize sequence).1 = .ok) :
    (m'.build lib mem' bufSize sequence).1 = .ok ∧
    slice (m.build lib mem bufSize sequence).2.2.mem 0 (m.build lib mem bufSize sequence).2.1.msgLen =
      slice (m'.build lib mem' bufSize sequence).2.2.mem 0 (m'.build lib mem' bufSize sequence).2.1.msgLen := by
  obtain ⟨w, hw, heven, -⟩ := exists_dataOctets hm (valuesFit_of_build hm hok) haddr
  have hroom : mngMsgBaseSize + w.length ≤ bufSize := by
    by_contra hlt
    have hshort := (build_cases lib mem bufSize sequence hw heven).1 (by omega)
    rw [hshort] at hok
    cases hok
  have hbase : ¬ bufSize < mngMsgBaseSize := by omega
  let mp := m.buildStart mem bufSize sequence
  let mp' := m'.buildStart mem' bufSize sequence
  have hleft : mp.left = (bufSize : Int) - mngMsgBaseSize := rfl
  have hleft' : mp'.left = (bufSize : Int) - mngMsgBaseSize := rfl
  have hdata : m.buildData mp = (.ok, mp.emit w) := (hw mp rfl (by omega) rfl rfl).1 (by omega)
  have hdata' : m'.buildData mp' = (.ok, mp'.emit w) := by
    rw [← h.buildData]
    exact (hw mp' rfl (by omega) rfl rfl).1 (by omega)
  have hrun : m.build lib mem bufSize sequence = m.buildFinish lib (mp.emit w) := by
    rw [Message.build, if_neg hbase, show m.buildData (m.buildStart mem bufSize sequence) = _ from hdata]
  have hrun' : m'.build lib mem' bufSize sequence = m'.buildFinish lib (mp'.emit w) := by
    rw [Message.build, if_neg hbase, show m'.buildData (m'.buildStart mem' bufSize sequence) = _ from hdata']
  have hcur : mp.cur = mngMsgBaseSize := rfl
  have hsize : (mp.emit w).size = w.length := (Cursor.emit_size ..).trans (Nat.zero_add _)
  have hend : (mp.emit w).cur = mngMsgBaseSize + (mp.emit w).size := by
    rw [Cursor.emit_cur, hcur, hsize]
  obtain ⟨hcode, hsame⟩ := h.buildFinish lib ((h.buildStart mem mem' bufSize sequence).emit w) (fun o ho => by
    rw [hsize] at ho
    have hat : (m.buildStart mem bufSize sequence).cur = mngMsgBaseSize := rfl
    omega) hend
  rw [hrun] at hok ⊢
  rw [hrun']
  exact ⟨hcode.symm.trans hok, (hsame hok).2⟩

end Build

/-- **Messages that send the same are built alike**, whatever their buffers held. -/
theorem SendsAlike.build {m m' : Message} (h : SendsAlike m m') (lib : HmacLib) (hm : SendInv m)
    (haddr : ∀ id d, m.dataSend = some (.tlv id d) → tlvAddressesFit id d) (mem mem' : Nat → UInt8) (bufSize : Nat)
    (sequence : UInt16) :
    ((m.build lib mem bufSize sequence).1 = .ok ↔ (m'.build lib mem' bufSize sequence).1 = .ok) ∧
    ((m.build lib mem bufSize sequence).1 = .ok →
      slice (m.build lib mem bufSize sequence).2.2.mem 0 (m.build lib mem bufSize sequence).2.1.msgLen =
        slice (m'.build lib mem' bufSize sequence).2.2.mem 0 (m'.build lib mem' bufSize sequence).2.1.msgLen) := by
  have hback : SendsAlike m' m := ⟨h.toAlike.symm, h.sendAction.symm, h.tlvId.symm, h.dataSend.symm⟩
  have hm' : SendInv m' := hm.congr h.dataSend.symm h.sendAction.symm h.tlvId.symm
  refine ⟨⟨fun hok => (h.build_ok lib hm haddr mem' hok).1, fun hok => ?_⟩,
    fun hok => (h.build_ok lib hm haddr mem' hok).2⟩
  exact (hback.build_ok lib hm' (fun id d hd => haddr id d (h.dataSend.trans hd)) mem hok).1

end Message

end PtpMgmt
