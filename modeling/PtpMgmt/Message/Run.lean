import PtpMgmt.Message.Basic

set_option autoImplicit false

/-! # The states of a `Message` that is set up for sending

The calls that set a message up, in any order and with any arguments, and what they keep: the TLV to
send is there exactly when it is needed, has the class of the id, and the id has a build function. -/

namespace PtpMgmt

namespace Message

/-- A call that sets the message up. -/
inductive Call
  | updateParams (prms : MsgParams)
  | setAction (actionField : ActionField) (tlvId : MngVals) (dataSend : Option BaseMngTlv)
  | clearData
  | useAuth (sa : SaFile) (sppID : UInt8) (keyID : UInt32)
  | changeAuth (sppID : UInt8) (keyID : UInt32)
  | changeAuthKey (keyID : UInt32)
  | disableAuth

/-- The message after a call, whether the call succeeded or not. -/
def call (lib : HmacLib) (m : Message) : Call → Message
  | .updateParams prms => (m.updateParams prms).2
  | .setAction actionField tlvId dataSend => (m.setAction actionField tlvId dataSend).2
  | .clearData => m.clearData
  | .useAuth sa sppID keyID => (m.useAuth lib sa sppID keyID).2
  | .changeAuth sppID keyID => (m.changeAuth lib sppID keyID).2
  | .changeAuthKey keyID => (m.changeAuthKey lib keyID).2
  | .disableAuth => m.disableAuth

/-- The states some sequence of calls leads to. -/
inductive Reachable (lib : HmacLib) : Message → Prop
  | init (prms : MsgParams) : Reachable lib (init prms)
  | call {m : Message} (c : Call) : Reachable lib m → Reachable lib (m.call lib c)

/-- What the calls keep. -/
structure SendInv (m : Message) : Prop where
  data : ∀ tlv, m.dataSend = some tlv → m.sendAction ≠ .get ∧
    (mngAllVals m.tlvId).func.builds = true ∧ ∃ d, tlv = .tlv m.tlvId d
  noData : m.dataSend = none → m.sendAction = .get ∨ (mngAllVals m.tlvId).size = 0

/-! ## What a call can do -/

/-- An id that may be sent with data has a build function. -/
theorem builds_of_allowed (id : MngId) {action : ActionField}
    (hsend : action = .set ∨ action = .command)
    (hallowed : ((mngAllVals id).allowed &&& (1 <<< action.val) != 0) = true)
    (hsize : (mngAllVals id).size ≠ 0) : (mngAllVals id).func.builds = true := by
  rcases hsend with rfl | rfl <;> revert hallowed hsize <;> cases id <;> decide

theorem allowedAction_mng {m : Message} {id : MngId} {action : ActionField}
    (h : m.allowedAction (.mng id) action = true) :
    (action = .get ∨ action = .set ∨ action = .command) ∧
      ((mngAllVals id).allowed &&& (1 <<< action.val) != 0) = true := by
  cases action
  case response => exact absurd h (by simp [allowedAction])
  case acknowledge => exact absurd h (by simp [allowedAction])
  all_goals
    simp only [allowedAction] at h
    split at h
    · exact absurd h (by simp)
    · exact ⟨by simp, h⟩

theorem verifyTlv_some {id : MngId} {tlv : BaseMngTlv} (h : verifyTlv id (some tlv) = true) :
    ∃ d, tlv = .tlv id d := by
  simp only [verifyTlv, Bool.and_eq_true, Option.isSome_iff_exists] at h
  obtain ⟨-, d, hd⟩ := h
  exact ⟨d, BaseMngTlv.eq_of_cast? hd⟩

/-- `setAction` refuses and changes nothing, or takes the TLV, or takes none because none is needed. -/
theorem setAction_cases (m : Message) (action : ActionField) (tlvId : MngVals)
    (dataSend : Option BaseMngTlv) :
    (m.setAction action tlvId dataSend).2 = m ∨
    ∃ id, ((mngAllVals id).allowed &&& (1 <<< action.val) != 0) = true ∧
      ((∃ d, (action = .set ∨ action = .command) ∧ (mngAllVals id).size ≠ 0 ∧
          (m.setAction action tlvId dataSend).2 =
            { m with dataSend := some (.tlv id d), sendAction := action, tlvId := id }) ∨
        ((action = .get ∨ (mngAllVals id).size = 0) ∧
          (m.setAction action tlvId dataSend).2 =
            { m with dataSend := none, sendAction := action, tlvId := id })) := by
  unfold setAction
  split
  · exact .inl rfl
  · next hallowed =>
      rw [Bool.not_eq_true, Bool.not_eq_false'] at hallowed
      cases tlvId with
      | lastMngId => exact .inl rfl
      | smpteMngId => exact .inl rfl
      | mng id =>
          obtain ⟨hact, hbit⟩ := allowedAction_mng hallowed
          simp only
          split
          · next hneed =>
              obtain ⟨-, hget, hsize⟩ := hneed
              split
              · exact .inl rfl
              · next hverify =>
                  rw [Bool.not_eq_true, Bool.not_eq_false'] at hverify
                  cases dataSend with
                  | none => exact absurd hverify (by simp [verifyTlv])
                  | some tlv =>
                      obtain ⟨d, rfl⟩ := verifyTlv_some hverify
                      exact .inr ⟨id, hbit, .inl ⟨d, hact.resolve_left hget, hsize, rfl⟩⟩
          · next hneed =>
              refine .inr ⟨id, hbit, .inr ⟨?_, rfl⟩⟩
              by_cases hget : action = .get
              · exact .inl hget
              · refine .inr ?_
                by_contra hsize
                refine hneed ⟨fun hnull => hsize ?_, hget, hsize⟩
                rw [hnull]
                rfl

theorem selectKey_send (lib : HmacLib) (m : Message) (sa : SaFile) (sppID : UInt8)
    (keyID : UInt32) :
    ∃ auth, (m.selectKey lib sa sppID keyID).2 = { m with auth } := by
  rw [selectKey]
  split
  · simp only
    split
    · exact ⟨m.auth, rfl⟩
    · exact ⟨_, rfl⟩
  · exact ⟨m.auth, rfl⟩

/-! ## Runs -/

theorem sendInv_init (prms : MsgParams) : SendInv (init prms) where
  data _ h := absurd h (by simp [init])
  noData _ := .inl rfl

/-- Only the action, the id and the TLV to send count. -/
theorem SendInv.congr {m m' : Message} (h : SendInv m) (hdata : m'.dataSend = m.dataSend)
    (haction : m'.sendAction = m.sendAction) (hid : m'.tlvId = m.tlvId) : SendInv m' where
  data := by rw [hdata, haction, hid]; exact h.data
  noData := by rw [hdata, haction, hid]; exact h.noData

theorem SendInv.setAction {m : Message} (h : SendInv m) (action : ActionField) (tlvId : MngVals)
    (dataSend : Option BaseMngTlv) : SendInv (m.setAction action tlvId dataSend).2 := by
  obtain hsame | ⟨id, hbit, ⟨d, hact, hsize, heq⟩ | ⟨hnone, heq⟩⟩ :=
    setAction_cases m action tlvId dataSend
  · rw [hsame]
    exact h
  · rw [heq]
    refine ⟨fun tlv htlv => ⟨?_, builds_of_allowed id hact hbit hsize, d, ?_⟩, by simp⟩
    · rcases hact with hact | hact <;> simp [hact]
    · simpa using htlv.symm
  · rw [heq]
    exact ⟨by simp, fun _ => hnone⟩

theorem SendInv.call {m : Message} (lib : HmacLib) (h : SendInv m) (c : Call) :
    SendInv (m.call lib c) := by
  cases c with
  | updateParams prms =>
      simp only [Message.call, Message.updateParams]
      split
      · exact h
      · exact h.congr rfl rfl rfl
  | setAction action tlvId dataSend => exact h.setAction action tlvId dataSend
  | clearData =>
      simp only [Message.call, Message.clearData]
      split
      · exact ⟨by simp, fun _ => .inl rfl⟩
      · exact h
  | useAuth sa sppID keyID =>
      obtain ⟨auth, heq⟩ := selectKey_send lib m sa sppID keyID
      simp only [Message.call, Message.useAuth, heq]
      exact h.congr rfl rfl rfl
  | changeAuth sppID keyID =>
      simp only [Message.call, Message.changeAuth]
      split
      · exact h
      · next a _ =>
          obtain ⟨auth, heq⟩ := selectKey_send lib m a.sa sppID keyID
          rw [heq]
          exact h.congr rfl rfl rfl
  | changeAuthKey keyID =>
      simp only [Message.call, Message.changeAuthKey]
      split
      · exact h
      · next a _ =>
          obtain ⟨auth, heq⟩ := selectKey_send lib m a.sa a.sppID keyID
          rw [heq]
          exact h.congr rfl rfl rfl
  | disableAuth => exact h.congr rfl rfl rfl

/-- Every state of every run keeps the invariant. -/
theorem Reachable.sendInv {lib : HmacLib} {m : Message} (h : Reachable lib m) : SendInv m := by
  induction h with
  | init prms => exact sendInv_init prms
  | call c _ ih => exact ih.call lib c

end Message

end PtpMgmt
