import Mathlib.Data.List.Induction
import PtpMgmt.Message.BuildProofs
import PtpMgmt.Message.Parse

set_option autoImplicit false

/-! # The action that is sent

`setAction` checks that the action is allowed for the id under the parameters of the moment. The action,
the id and the parameters change afterwards without it: `clearData` sends a GET instead, and
`updateParams` may take the ids of linuxptp away. -/

namespace PtpMgmt

open Wire Codec

namespace Message

/-! ## What a message carries -/

/-- The action and the management id of a message. -/
structure Carries (mem : Nat → UInt8) (action : ActionField) (id : MngId) : Prop where
  action_eq : mem actionFieldOff = action.val
  id_eq : beAt mem mngTlvOff 2 = (mngAllVals id).value.toNat

/-- Octets of the header that no later part of the build writes again. -/
def Fixed (o : Nat) : Prop :=
  o < mngMsgBaseSize ∧ (o < messageLengthOff ∨ messageLengthOff + 2 ≤ o) ∧
    (o < lengthFieldOff ∨ lengthFieldOff + 2 ≤ o)

section Frame

variable {lib : HmacLib} {m : Message}

theorem poke_frame {mp : MsgProc} {off o v : Nat} (h : o < off ∨ off + 2 ≤ o) :
    (poke mp off (beOctets 2 v)).mem o = mp.mem o := by
  rw [poke_mem]
  rcases h with h | h
  · exact store_apply_of_lt _ _ _ _ h
  · exact store_apply_of_le _ _ _ _ (by rw [length_beOctets]; exact h)

theorem buildData_frame (mp : MsgProc) (hleft : 0 ≤ mp.left) {o : Nat} (ho : o < mp.cur) :
    (m.buildData mp).2.mem o = mp.mem o ∧ mp.cur ≤ (m.buildData mp).2.cur := by
  by_cases hdata : m.sendAction ≠ .get ∧ m.dataSend.isSome = true
  · have hcall := callTlvData_advances m.tlvId (.ofOption m.dataSend) mp
    have hmem := hcall.frame o ho
    have hcur := hcall.cur_le
    rw [MsgProc.fresh_mem] at hmem
    rw [MsgProc.fresh_cur] at hcur
    rw [buildData, if_pos hdata]
    split
    · next mp' he =>
        rw [he] at hmem hcur
        split
        · have hpad := (procRes.advances mp').frame o (Nat.lt_of_lt_of_le ho hcur)
          have hle := (procRes.advances mp').cur_le
          split
          all_goals
            next hres =>
              rw [hres] at hpad hle
              exact ⟨hpad.trans hmem, hcur.trans hle⟩
        · exact ⟨hmem, hcur⟩
    · next he =>
        rw [he] at hmem hcur
        exact ⟨hmem, hcur⟩
  · obtain ⟨n, -, heq⟩ := buildData_walk_none hleft hdata
    rw [heq, Cursor.emit_mem, Cursor.emit_cur]
    exact ⟨store_apply_of_lt _ _ _ _ ho, Nat.le_add_right _ _⟩

theorem buildFinish_frame (mp : MsgProc) (hcur : mngMsgBaseSize ≤ mp.cur) {o : Nat} (ho : Fixed o) :
    (m.buildFinish lib mp).2.2.mem o = mp.mem o := by
  obtain ⟨hbase, hmessage, hfield⟩ := ho
  have hlt : o < mp.cur := Nat.lt_of_lt_of_le hbase hcur
  have hlength : ∀ v, (poke mp lengthFieldOff (beOctets 2 v)).mem o = mp.mem o :=
    fun v => poke_frame hfield
  have hplain : ∀ v k, (poke (poke mp lengthFieldOff (beOctets 2 v)) messageLengthOff
      (beOctets 2 k)).mem o = mp.mem o := fun v k => (poke_frame hmessage).trans (hlength v)
  unfold buildFinish
  simp only
  split
  · rfl
  · split
    · next a _ =>
        split
        · unfold buildAuth
          simp only
          split
          · exact hlength _
          · -- the authentication TLV and the ICV stand behind the dataField
            have htlv : ∀ v w k, (poke ((poke mp lengthFieldOff (beOctets 2 v)).emit w)
                messageLengthOff (beOctets 2 k)).mem o = mp.mem o := by
              intro v w k
              rw [poke_frame hmessage, Cursor.emit_mem, poke_cur,
                store_apply_of_lt _ _ _ _ hlt]
              exact hlength v
            split
            · exact htlv _ _ _
            · refine (store_apply_of_lt _ _ _ _ ?_).trans (htlv _ _ _)
              rw [poke_cur, Cursor.emit_cur, poke_cur]
              exact Nat.lt_of_lt_of_le hlt (Nat.le_add_right _ _)
        · exact hplain _ _
    · exact hplain _ _

/-- A build that succeeds leaves the action and the id in the message. -/
theorem carries_of_build {mem : Nat → UInt8} {bufSize : Nat} {sequence : UInt16}
    (hok : (m.build lib mem bufSize sequence).1 = .ok) :
    Carries (m.build lib mem bufSize sequence).2.2.mem m.sendAction m.tlvId := by
  have hframe : ∀ o, Fixed o → (m.build lib mem bufSize sequence).2.2.mem o
      = (m.buildStart mem bufSize sequence).mem o := by
    intro o ho
    unfold build at hok ⊢
    split at hok
    · cases hok
    · next hbase =>
        rw [if_neg hbase]
        have hleft : (m.buildStart mem bufSize sequence).left = (bufSize : Int) - mngMsgBaseSize := rfl
        have hdata := buildData_frame (m := m) (m.buildStart mem bufSize sequence) (by omega) ho.1
        split at hok
        · next mp he =>
            rw [he] at hdata
            exact (buildFinish_frame mp hdata.2 ho).trans hdata.1
        · next hne _ => exact absurd hok hne
  constructor
  case action_eq =>
      rw [hframe actionFieldOff ⟨by decide, by decide, by decide⟩]
      unfold buildStart
      rw [poke_frame (.inl (by decide)), poke_frame (.inl (by decide)), poke_mem]
      have hheader : (m.headerOctets sequence)[actionFieldOff]? = some m.sendAction.val := by
        rw [headerOctets, List.getElem?_append_right (by simp [actionFieldOff, sigBaseSize])]
        simp [actionFieldOff, sigBaseSize]
      simp [store, hheader]
  case id_eq =>
      have hslice : slice (m.build lib mem bufSize sequence).2.2.mem mngTlvOff 2
          = slice (m.buildStart mem bufSize sequence).mem mngTlvOff 2 := by
        apply slice_congr
        intro o hle hlt
        have hoff : mngTlvOff = 52 := rfl
        exact hframe o ⟨show o < 54 by omega, .inr (show 4 ≤ o by omega), .inr (show 52 ≤ o by omega)⟩
      have hstart := beAt_store_self (poke (poke { m.buildStart mem bufSize sequence with mem } 0
        (m.headerOctets sequence)) mngMsgSize (beOctets 2 0x0001)).mem mngTlvOff 2
        (mngAllVals m.tlvId).value.toNat
      rw [beAt, hslice]
      exact hstart.trans (Nat.mod_eq_of_lt (mngAllVals m.tlvId).value.toNat_lt)

end Frame

/-! ## Runs -/

/-- A call on a message that is used for sending. -/
inductive SendCall
  | call (c : Call)
  | build (mem : Nat → UInt8) (bufSize : Nat) (sequence : UInt16)

/-- The message after a call, whether the call succeeded or not. -/
def sendCall (lib : HmacLib) (m : Message) : SendCall → Message
  | .call c => m.call lib c
  | .build mem bufSize sequence => (m.build lib mem bufSize sequence).2.1

/-- The message after one call after the other. -/
def sendAll (lib : HmacLib) (m : Message) (calls : List SendCall) : Message :=
  calls.foldl (sendCall lib) m

/-- The action to send is allowed for the id to send. -/
def Allowed (m : Message) : Prop := m.allowedAction (.mng m.tlvId) m.sendAction = true

/-- The calls that do not take the permission away: parameters that are taken leave linuxptp only when
    the id is not one of linuxptp, and data is cleared only of an id that allows the GET that is sent
    instead. -/
def KeepsAllowed (m : Message) : SendCall → Prop
  | .call (.updateParams prms) => prms.transportSpecific ≤ 0xf → prms.implementSpecific ≠ .linuxptp →
      (mngAllVals m.tlvId).allowed &&& aUseLinuxptp = 0
  | .call .clearData => m.dataSend.isSome = true → (mngAllVals m.tlvId).allowed &&& aGet ≠ 0
  | _ => True

/-- The two parts of the check. -/
theorem allowed_iff (m : Message) : m.Allowed ↔
    (m.sendAction = .get ∨ m.sendAction = .set ∨ m.sendAction = .command) ∧
    (m.prms.implementSpecific ≠ .linuxptp → (mngAllVals m.tlvId).allowed &&& aUseLinuxptp = 0) ∧
    (mngAllVals m.tlvId).allowed &&& (1 <<< m.sendAction.val) ≠ 0 := by
  unfold Allowed
  cases haction : m.sendAction
  case response => simp [allowedAction]
  case acknowledge => simp [allowedAction]
  all_goals
    simp only [allowedAction, Bool.and_eq_true, bne_iff_ne, ne_eq]
    split
    · next h => simp [h]
    · next h =>
        rw [not_and_or, not_not, not_not] at h
        refine ⟨fun hbit => ⟨by simp, fun hne => h.resolve_left hne, ?_⟩, fun hbit => ?_⟩
        · simpa using hbit
        · simpa using hbit.2.2

theorem allowed_init (prms : MsgParams) : (init prms).Allowed := by
  rw [allowed_iff]
  refine ⟨.inl rfl, fun _ => ?_, ?_⟩
  · show (mngAllVals .nullPtpManagement).allowed &&& aUseLinuxptp = 0
    decide
  · show (mngAllVals .nullPtpManagement).allowed &&& (1 <<< ActionField.get.val) ≠ 0
    decide

/-- Only these fields count. -/
theorem Allowed.congr {m m' : Message} (hprms : m'.prms = m.prms)
    (haction : m'.sendAction = m.sendAction) (hid : m'.tlvId = m.tlvId) : m'.Allowed ↔ m.Allowed := by
  rw [allowed_iff, allowed_iff, hprms, haction, hid]

/-- An action that is set is allowed under the parameters of the moment. -/
theorem Allowed.setAction {m : Message} (h : m.Allowed) (action : ActionField) (tlvId : MngVals)
    (dataSend : Option BaseMngTlv) : (m.setAction action tlvId dataSend).2.Allowed := by
  unfold Message.setAction
  split
  · exact h
  · next hallowed =>
      rw [Bool.not_eq_true, Bool.not_eq_false'] at hallowed
      cases tlvId with
      | lastMngId => exact h
      | smpteMngId => exact h
      | mng id =>
          simp only
          split
          · split
            · exact h
            · exact hallowed
          · exact hallowed

theorem build_message (lib : HmacLib) (m : Message) (mem : Nat → UInt8) (bufSize : Nat)
    (sequence : UInt16) : ∃ msgLen, (m.build lib mem bufSize sequence).2.1 = { m with msgLen } := by
  unfold build
  split
  · exact ⟨m.msgLen, rfl⟩
  · split
    · unfold buildFinish
      simp only
      split
      · exact ⟨m.msgLen, rfl⟩
      · split
        · split
          · unfold buildAuth
            simp only
            split
            · exact ⟨m.msgLen, rfl⟩
            · split
              · exact ⟨m.msgLen, rfl⟩
              · exact ⟨_, rfl⟩
          · exact ⟨_, rfl⟩
        · exact ⟨_, rfl⟩
    · exact ⟨m.msgLen, rfl⟩

/-- The key that is used for sending has no part in it. -/
theorem Allowed.selectKey (lib : HmacLib) (m : Message) (sa : SaFile) (sppID : UInt8) (keyID : UInt32) :
    (m.selectKey lib sa sppID keyID).2.Allowed ↔ m.Allowed := by
  obtain ⟨auth, heq⟩ := selectKey_send lib m sa sppID keyID
  rw [heq]
  exact Allowed.congr rfl rfl rfl

/-- **Step**: a call keeps the permission exactly when it is one of those. -/
theorem Allowed.sendCall_iff {m : Message} (lib : HmacLib) (h : m.Allowed) (c : SendCall) :
    (m.sendCall lib c).Allowed ↔ KeepsAllowed m c := by
  obtain ⟨hact, himpl, hbit⟩ := (allowed_iff m).1 h
  cases c with
  | build mem bufSize sequence =>
      obtain ⟨msgLen, heq⟩ := build_message lib m mem bufSize sequence
      simp only [sendCall, heq, KeepsAllowed, iff_true]
      exact (Allowed.congr rfl rfl rfl).2 h
  | call c =>
      cases c with
      | updateParams prms =>
          simp only [sendCall, call, updateParams, KeepsAllowed]
          split
          · next hbig =>
              refine iff_of_true h fun hle => absurd hbig ?_
              exact UInt8.not_lt.2 hle
          · next hsmall =>
              rw [allowed_iff]
              refine ⟨fun hnew _ => hnew.2.1, fun hkeep => ⟨hact, hkeep (UInt8.not_lt.1 hsmall), hbit⟩⟩
      | setAction action tlvId dataSend => exact iff_of_true (h.setAction action tlvId dataSend) trivial
      | clearData =>
          simp only [sendCall, call, clearData, KeepsAllowed]
          split
          · next tlv htlv =>
              rw [allowed_iff, htlv]
              exact ⟨fun hnew _ => hnew.2.2, fun hkeep => ⟨.inl rfl, himpl, hkeep rfl⟩⟩
          · next hnone =>
              rw [hnone]
              exact iff_of_true h fun hsome => absurd hsome (by simp)
      | useAuth sa sppID keyID =>
          exact iff_of_true ((Allowed.selectKey lib m sa sppID keyID).2 h) trivial
      | changeAuth sppID keyID =>
          simp only [sendCall, call, changeAuth, KeepsAllowed, iff_true]
          split
          · exact h
          · exact (Allowed.selectKey lib m _ sppID keyID).2 h
      | changeAuthKey keyID =>
          simp only [sendCall, call, changeAuthKey, KeepsAllowed, iff_true]
          split
          · exact h
          · exact (Allowed.selectKey lib m _ _ keyID).2 h
      | disableAuth => exact iff_of_true ((Allowed.congr rfl rfl rfl).2 h) trivial

/-- In this state every message that is built carries an action that is allowed for its id. -/
def SendsAllowed (lib : HmacLib) (m : Message) : Prop :=
  m.Allowed ∧ ∀ (mem : Nat → UInt8) (bufSize : Nat) (sequence : UInt16),
    (m.build lib mem bufSize sequence).1 = .ok →
    ∃ action id, Carries (m.build lib mem bufSize sequence).2.2.mem action id ∧
      m.allowedAction (.mng id) action = true

theorem Allowed.sends {m : Message} (lib : HmacLib) (h : m.Allowed) : SendsAllowed lib m :=
  ⟨h, fun _ _ _ hok => ⟨m.sendAction, m.tlvId, carries_of_build hok, h⟩⟩

/-- **When only allowed actions are sent**: in every state of a run exactly when no call of the run takes
    the permission away. -/
theorem sendAll_allowed_iff (lib : HmacLib) (prms : MsgParams) (calls : List SendCall) :
    (∀ pre post, calls = pre ++ post → SendsAllowed lib (sendAll lib (init prms) pre)) ↔
      ∀ pre c post, calls = pre ++ c :: post → KeepsAllowed (sendAll lib (init prms) pre) c := by
  have hnext : ∀ pre c, sendAll lib (init prms) (pre ++ [c])
      = (sendAll lib (init prms) pre).sendCall lib c := by
    intro pre c
    unfold sendAll
    rw [List.foldl_append]
    rfl
  constructor
  · intro hall pre c post hcalls
    have hbefore := (hall pre (c :: post) hcalls).1
    have hafter := (hall (pre ++ [c]) post (by rw [hcalls, List.append_assoc]; rfl)).1
    rw [hnext] at hafter
    exact (hbefore.sendCall_iff lib c).1 hafter
  · intro hkeep pre
    -- the permission is carried from one call to the next
    induction pre using List.reverseRecOn with
    | nil => exact fun _ _ => (allowed_init prms).sends lib
    | append_singleton pre c ih =>
        intro post hcalls
        have hsplit : calls = pre ++ c :: post := by rw [hcalls, List.append_assoc]; rfl
        have hbefore := (ih (c :: post) hsplit).1
        rw [hnext]
        exact ((hbefore.sendCall_iff lib c).2 (hkeep pre c post hsplit)).sends lib

/-- A COMMAND that initializes. -/
def commandInitialize : SendCall :=
  .call (.setAction .command (.mng .initializeTlv) (some (.tlv .initializeTlv ⟨0⟩)))

/-- Cleared data turns the COMMAND into a GET, which is not allowed. -/
theorem clearData_not_allowed :
    ¬ SendsAllowed zeroLib (sendAll zeroLib (init .init) [commandInitialize, .call .clearData]) ∧
    ((sendAll zeroLib (init .init) [commandInitialize, .call .clearData]).build zeroLib
      (fun _ => 0) 56 7).1 = .ok := by
  refine ⟨fun h => absurd h.1 ?_, ?_⟩
  · unfold Allowed
    decide
  · decide

end Message

end PtpMgmt
