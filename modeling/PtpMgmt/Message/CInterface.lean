import Mathlib.Data.List.Induction
import PtpMgmt.Message.Build
import PtpMgmt.MngTlvs.Wrap

set_option autoImplicit false

/-! # Sending from C (`ptpmgmt_msg`)

The wrapper for C makes an object of the structure that it is given and owns it; the `Message` keeps a pointer
to it. An object is known by the number of the `new` that it comes from, and it is deleted when the wrapper
owns another one. `Message.dataSend` is what the object has, as long as it is there. -/

namespace PtpMgmt

/-! ## The wrapper -/

/-- A `BaseMngTlv` that the wrapper made. -/
abbrev Obj := Nat

/-- A C structure of the id. What it points to is there to read, and `mem` is the memory of the object that is
    made of it. -/
structure SendData (id : MngId) where
  mem : Tlv id
  tlv : CTlv id
  reads : (mngAllVals id).func ≠ .na → (tlvC2 id (newTlv id mem) tlv).isSome = true

/-- What `dataSend` points to. -/
def CData : MngVals → Type
  | .mng id => SendData id
  | _ => Unit

/-- `c2cppMngTlv`, for any `mng_vals_e`. -/
def c2cpp : (tlvId : MngVals) → CData tlvId → Option BaseMngTlv
  | .mng id, d => c2cppMngTlv id d.mem (some d.tlv)
  | .lastMngId, _ => none
  | .smpteMngId, _ => none

/-- `ptpmgmt_msg_t`: the `Message`, the object behind its `m_dataSend`, `dataSend` and `sendTlv`. -/
structure CMsg where
  this : Message
  held : Option Obj
  dataSend : Option ((tlvId : MngVals) × CData tlvId)
  sendTlv : Option Obj
  news : Nat

namespace CMsg

/-- `ptpmgmt_msg_alloc_prms`. -/
def allocPrms (prms : MsgParams) : CMsg := ⟨Message.init prms, none, none, none, 0⟩

/-- The TLV that a `setAction` hands on. The wrapper drops the object it owns for the new one. -/
def adopt (m : CMsg) (actionField : ActionField) (tlvId : MngVals) (dataSend : Option (CData tlvId)) :
    Option (Obj × BaseMngTlv) × CMsg :=
  match dataSend with
  | none => (none, m)
  | some d =>
    if actionField ≠ .get then
      match c2cpp tlvId d with
      | some tlv =>
        (some (m.news, tlv), { m with sendTlv := some m.news, news := m.news + 1, dataSend := some ⟨tlvId, d⟩ })
      | none => (none, { m with dataSend := some ⟨tlvId, d⟩ })
    else (none, m)

/-- `ptpmgmt_msg_setAction`. -/
def setAction (m : CMsg) (actionField : ActionField) (tlvId : MngVals) (dataSend : Option (CData tlvId)) :
    Bool × CMsg :=
  let (tlv, m) := m.adopt actionField tlvId dataSend
  let (ok, this) := m.this.setAction actionField tlvId (tlv.map (·.2))
  let held := if ok then (if this.dataSend.isSome then tlv.map (·.1) else none) else m.held
  (ok, { m with this, held })

/-- `ptpmgmt_msg_clearData`. -/
def clearData (m : CMsg) : CMsg := { m with this := m.this.clearData, held := none }

/-- `ptpmgmt_msg_build`. -/
def build (lib : HmacLib) (m : CMsg) (buf : Option (Nat → UInt8)) (bufSize : Nat) (sequence : UInt16) : CMsg :=
  match buf with
  | none => m
  | some mem => { m with this := (m.this.build lib mem bufSize sequence).2.1 }

/-- The object that a build reads. -/
def readByBuild (m : CMsg) (buf : Option (Nat → UInt8)) (bufSize : Nat) : Option Obj :=
  if buf.isSome ∧ mngMsgBaseSize ≤ bufSize ∧ m.this.sendAction ≠ .get then m.held else none

end CMsg

/-! ## Runs -/

/-- The calls that set up, clear and send. -/
inductive SendCall
  | setAction (actionField : ActionField) (tlvId : MngVals) (dataSend : Option (CData tlvId))
  | clearData
  | build (buf : Option (Nat → UInt8)) (bufSize : Nat) (sequence : UInt16)

section Runs

variable (lib : HmacLib)

def CMsg.step (m : CMsg) : SendCall → CMsg
  | .setAction actionField tlvId dataSend => (m.setAction actionField tlvId dataSend).2
  | .clearData => m.clearData
  | .build buf bufSize sequence => m.build lib buf bufSize sequence

/-- The wrapper after the calls. -/
def CMsg.run (prms : MsgParams) (calls : List SendCall) : CMsg := calls.foldl (CMsg.step lib) (.allocPrms prms)

/-- The `Message` holds no object, or the one that the wrapper owns. -/
def CMsg.Owned (m : CMsg) : Prop := ∀ o ∈ m.held, m.sendTlv = some o

/-- The action, the id and the TLV to send are as they were. -/
structure CMsg.Kept (m m' : CMsg) : Prop where
  sendAction_eq : m'.this.sendAction = m.this.sendAction
  tlvId_eq : m'.this.tlvId = m.this.tlvId
  held_eq : m'.held = m.held
  alive : ∀ o ∈ m.held, m.sendTlv = some o → m'.sendTlv = some o

/-- What the calls are to do. -/
structure SendRight (prms : MsgParams) (calls : List SendCall) : Prop where
  owned : ∀ before after, calls = before ++ after → (CMsg.run lib prms before).Owned
  built : ∀ before buf bufSize sequence after, calls = before ++ .build buf bufSize sequence :: after →
    ∀ o ∈ (CMsg.run lib prms before).readByBuild buf bufSize, (CMsg.run lib prms before).sendTlv = some o
  kept : ∀ before actionField tlvId dataSend after,
    calls = before ++ .setAction actionField tlvId dataSend :: after →
    ((CMsg.run lib prms before).setAction actionField tlvId dataSend).1 = false →
    (CMsg.run lib prms before).Kept ((CMsg.run lib prms before).setAction actionField tlvId dataSend).2

/-- A `setAction` that makes an object while the `Message` holds one is allowed. -/
def SwapsAllowed (prms : MsgParams) (calls : List SendCall) : Prop :=
  ∀ before actionField tlvId d after,
    calls = before ++ .setAction actionField tlvId (some d) :: after →
    (CMsg.run lib prms before).held.isSome = true → actionField ≠ .get → (c2cpp tlvId d).isSome = true →
    (CMsg.run lib prms before).this.allowedAction tlvId actionField = true

end Runs

/-! ## `Message::setAction` -/

/-- `setAction` refuses and changes nothing, or the `Message` holds the TLV or none. -/
theorem Message.setAction_holds (m : Message) (actionField : ActionField) (tlvId : MngVals)
    (dataSend : Option BaseMngTlv) :
    m.setAction actionField tlvId dataSend = (false, m) ∨
      (m.setAction actionField tlvId dataSend).1 = true ∧
        ∀ tlv, (m.setAction actionField tlvId dataSend).2.dataSend = some tlv → dataSend = some tlv := by
  unfold setAction
  split
  · exact .inl rfl
  · cases tlvId with
    | lastMngId => exact .inl rfl
    | smpteMngId => exact .inl rfl
    | mng id =>
      simp only
      split
      · split
        · exact .inl rfl
        · exact .inr ⟨rfl, fun tlv h => h⟩
      · refine .inr ⟨rfl, ?_⟩
        intro tlv h
        cases h

theorem Message.setAction_not_allowed {m : Message} {actionField : ActionField} {tlvId : MngVals}
    (dataSend : Option BaseMngTlv) (h : m.allowedAction tlvId actionField = false) :
    (m.setAction actionField tlvId dataSend).1 = false := by
  simp [setAction, h]

/-- An object of the id is taken wherever the action is allowed. -/
theorem Message.setAction_c2cpp {m : Message} {actionField : ActionField} {tlvId : MngVals} {d : CData tlvId}
    {tlv : BaseMngTlv} (hmade : c2cpp tlvId d = some tlv) (h : m.allowedAction tlvId actionField = true) :
    (m.setAction actionField tlvId (some tlv)).1 = true := by
  cases tlvId with
  | lastMngId => cases hmade
  | smpteMngId => cases hmade
  | mng id =>
    have hverify : verifyTlv id (some tlv) = true := by
      rw [c2cpp, c2cppMngTlv] at hmade
      split at hmade
      · cases hmade
      · next hfunc =>
        obtain ⟨c, -, rfl⟩ := Option.map_eq_some_iff.mp hmade
        simp [verifyTlv, hfunc]
    simp [setAction, h, hverify]
    split <;> rfl

/-! ## One call -/

namespace CMsg

/-- No object is made, or the wrapper owns the new one. -/
theorem adopt_cases (m : CMsg) (actionField : ActionField) (tlvId : MngVals) (dataSend : Option (CData tlvId)) :
    (∃ dataSend', m.adopt actionField tlvId dataSend = (none, { m with dataSend := dataSend' }) ∧
        ∀ d, dataSend = some d → actionField ≠ .get → c2cpp tlvId d = none) ∨
      ∃ d tlv, dataSend = some d ∧ actionField ≠ .get ∧ c2cpp tlvId d = some tlv ∧
        m.adopt actionField tlvId dataSend = (some (m.news, tlv),
          { m with sendTlv := some m.news, news := m.news + 1, dataSend := some ⟨tlvId, d⟩ }) := by
  cases dataSend with
  | none => exact .inl ⟨m.dataSend, rfl, by simp⟩
  | some d =>
    by_cases hget : actionField = .get
    · refine .inl ⟨m.dataSend, by simp [adopt, hget], ?_⟩
      intro _ _ hne
      exact absurd hget hne
    · cases hmade : c2cpp tlvId d with
      | none =>
        refine .inl ⟨some ⟨tlvId, d⟩, by simp [adopt, hget, hmade], ?_⟩
        rintro d' hd -
        rwa [← Option.some.inj hd]
      | some tlv => exact .inr ⟨d, tlv, rfl, hget, hmade, by simp [adopt, hget, hmade]⟩

section OneCall

variable {m : CMsg} {actionField : ActionField} {tlvId : MngVals}

/-- A `setAction` that is refused, or after which the `Message` holds nothing or the object that was made for it. -/
theorem setAction_cases (m : CMsg) (actionField : ActionField) (tlvId : MngVals)
    (dataSend : Option (CData tlvId)) :
    m.setAction actionField tlvId dataSend = (false, (m.adopt actionField tlvId dataSend).2) ∨
      (m.setAction actionField tlvId dataSend).1 = true ∧
        (m.setAction actionField tlvId dataSend).2.sendTlv = (m.adopt actionField tlvId dataSend).2.sendTlv ∧
        (m.setAction actionField tlvId dataSend).2.news = (m.adopt actionField tlvId dataSend).2.news ∧
        ∀ o ∈ (m.setAction actionField tlvId dataSend).2.held,
          o ∈ (m.adopt actionField tlvId dataSend).1.map (·.1) := by
  unfold setAction
  generalize m.adopt actionField tlvId dataSend = made
  obtain ⟨tlv, m'⟩ := made
  simp only
  rcases m'.this.setAction_holds actionField tlvId (tlv.map (·.2)) with hrefused | ⟨hok, -⟩
  · exact .inl (by simp [hrefused])
  · refine .inr ⟨hok, trivial, trivial, ?_⟩
    intro o ho
    rw [if_pos hok] at ho
    split at ho
    · exact ho
    · cases ho

/-- Whether a `setAction` is refused is what the `Message` says of the TLV that was made. -/
theorem setAction_fst (dataSend : Option (CData tlvId)) :
    (m.setAction actionField tlvId dataSend).1 =
      ((m.adopt actionField tlvId dataSend).2.this.setAction actionField tlvId
        ((m.adopt actionField tlvId dataSend).1.map (·.2))).1 := rfl

theorem Owned.setAction (h : m.Owned) {dataSend : Option (CData tlvId)}
    (hswap : ∀ d, dataSend = some d → m.held.isSome = true → actionField ≠ .get →
      (c2cpp tlvId d).isSome = true → m.this.allowedAction tlvId actionField = true) :
    (m.setAction actionField tlvId dataSend).2.Owned ∧
      ((m.setAction actionField tlvId dataSend).1 = false →
        m.Kept (m.setAction actionField tlvId dataSend).2) := by
  obtain hrefused | ⟨hok, hsend, -, hheld⟩ := m.setAction_cases actionField tlvId dataSend
  · obtain ⟨dataSend', hadopt, -⟩ | ⟨d, tlv, rfl, hget, hmade, hadopt⟩ :=
      m.adopt_cases actionField tlvId dataSend
    · rw [hrefused, hadopt]
      exact ⟨h, fun _ => ⟨rfl, rfl, rfl, fun _ _ hsend => hsend⟩⟩
    · -- the object was made for nothing, so none is held
      have hnone : m.held = none := by
        by_contra hheld
        have hallowed := hswap d rfl (Option.isSome_iff_ne_none.mpr hheld) hget (by simp [hmade])
        have hok := Message.setAction_c2cpp hmade hallowed
        have hfst : (m.setAction actionField tlvId (some d)).1 = _ := setAction_fst (some d)
        simp only [hrefused, hadopt, Option.map_some, hok] at hfst
        cases hfst
      rw [hrefused, hadopt]
      refine ⟨?_, fun _ => ⟨rfl, rfl, rfl, ?_⟩⟩
      · intro o ho
        simp [hnone] at ho
      · intro o ho
        simp [hnone] at ho
  · refine ⟨?_, ?_⟩
    · intro o ho
      have ho' := hheld o ho
      rw [hsend]
      obtain ⟨dataSend', hadopt, -⟩ | ⟨d, tlv, -, -, -, hadopt⟩ := m.adopt_cases actionField tlvId dataSend
      · rw [hadopt] at ho'
        cases ho'
      · rw [hadopt] at ho' ⊢
        exact congrArg some (Option.some.inj ho')
    · intro hfail
      rw [hok] at hfail
      cases hfail

theorem Owned.clearData : m.clearData.Owned := by
  intro o ho
  cases ho

theorem Owned.build (lib : HmacLib) (h : m.Owned) (buf : Option (Nat → UInt8)) (bufSize : Nat)
    (sequence : UInt16) : (m.build lib buf bufSize sequence).Owned := by
  cases buf with
  | none => exact h
  | some mem => exact h

/-- The objects that are held were made before. -/
def Numbered (m : CMsg) : Prop := ∀ o ∈ m.held, o < m.news

theorem Numbered.step (lib : HmacLib) (h : m.Numbered) (c : SendCall) : (m.step lib c).Numbered := by
  cases c with
  | clearData =>
    intro o ho
    cases ho
  | build buf bufSize sequence =>
    cases buf with
    | none => exact h
    | some mem => exact h
  | setAction actionField tlvId dataSend =>
    intro o ho
    rw [CMsg.step] at ho ⊢
    obtain ⟨dataSend', hadopt, -⟩ | ⟨d, tlv, -, -, -, hadopt⟩ := m.adopt_cases actionField tlvId dataSend
    · obtain hrefused | ⟨-, -, hnews, hheld⟩ := m.setAction_cases actionField tlvId dataSend
      · rw [hrefused, hadopt] at ho ⊢
        exact h o ho
      · have ho' := hheld o ho
        rw [hadopt] at ho'
        cases ho'
    · obtain hrefused | ⟨-, -, hnews, hheld⟩ := m.setAction_cases actionField tlvId dataSend
      · rw [hrefused, hadopt] at ho ⊢
        exact Nat.lt_succ_of_lt (h o ho)
      · have ho' := hheld o ho
        rw [hnews, hadopt]
        rw [hadopt] at ho'
        rw [← Option.some.inj ho']
        exact Nat.lt_succ_self _

/-- A refused `setAction` for which an object was made leaves a `Message` with a deleted one. -/
theorem not_owned_setAction (hnumbered : m.Numbered) {d : CData tlvId} (hheld : m.held.isSome = true)
    (hget : actionField ≠ .get) (hmade : (c2cpp tlvId d).isSome = true)
    (hallowed : m.this.allowedAction tlvId actionField = false) :
    ¬ (m.setAction actionField tlvId (some d)).2.Owned := by
  intro h
  obtain ⟨o, ho⟩ := Option.isSome_iff_exists.mp hheld
  obtain ⟨dataSend', hadopt, hnone⟩ | ⟨d', tlv, -, -, -, hadopt⟩ := m.adopt_cases actionField tlvId (some d)
  · simp [hnone d rfl hget] at hmade
  · have hfail : (m.setAction actionField tlvId (some d)).1 = false := by
      rw [setAction_fst, hadopt]
      exact Message.setAction_not_allowed _ hallowed
    obtain hrefused | ⟨hok, -⟩ := m.setAction_cases actionField tlvId (some d)
    · rw [hrefused, hadopt] at h
      have hlt := hnumbered o ho
      have hsend : some m.news = some o := h o ho
      rw [Option.some.inj hsend] at hlt
      exact absurd hlt (lt_irrefl o)
    · rw [hok] at hfail
      cases hfail

end OneCall

/-! ## The whole run -/

section Runs

variable {lib : HmacLib} {prms : MsgParams}

theorem run_append (calls : List SendCall) (c : SendCall) :
    run lib prms (calls ++ [c]) = (run lib prms calls).step lib c := by
  rw [run, List.foldl_append]
  rfl

theorem numbered_run (calls : List SendCall) : (run lib prms calls).Numbered := by
  induction calls using List.reverseRecOn with
  | nil =>
    intro o ho
    cases ho
  | append_singleton calls c ih =>
    rw [run_append]
    exact ih.step lib c

end Runs

end CMsg

theorem SwapsAllowed.of_append {lib : HmacLib} {prms : MsgParams} {before after : List SendCall}
    (h : SwapsAllowed lib prms (before ++ after)) : SwapsAllowed lib prms before := by
  intro b actionField tlvId d a hd
  refine h b actionField tlvId d (a ++ after) ?_
  rw [hd, List.append_assoc, List.cons_append]

theorem owned_run {lib : HmacLib} {prms : MsgParams} (calls : List SendCall)
    (h : SwapsAllowed lib prms calls) : (CMsg.run lib prms calls).Owned := by
  induction calls using List.reverseRecOn with
  | nil =>
    intro o ho
    cases ho
  | append_singleton calls c ih =>
    rw [CMsg.run_append]
    cases c with
    | setAction actionField tlvId dataSend =>
      refine ((ih h.of_append).setAction ?_).1
      rintro d rfl hheld hget hmade
      exact h calls actionField tlvId d [] rfl hheld hget hmade
    | clearData => exact CMsg.Owned.clearData
    | build buf bufSize sequence => exact (ih h.of_append).build lib buf bufSize sequence

/-- Over every run, a build reads no deleted TLV and a refused `setAction` leaves what is sent, if and only if
    every `setAction` that makes an object while the `Message` holds one is allowed. -/
theorem sendRight_iff (lib : HmacLib) (prms : MsgParams) (calls : List SendCall) :
    SendRight lib prms calls ↔ SwapsAllowed lib prms calls := by
  constructor
  · intro h before actionField tlvId d after hcalls hheld hget hmade
    by_contra hallowed
    rw [Bool.not_eq_true] at hallowed
    have hafter : calls = (before ++ [.setAction actionField tlvId (some d)]) ++ after := by
      rw [hcalls, List.append_assoc, List.singleton_append]
    have howned := h.owned _ after hafter
    rw [CMsg.run_append] at howned
    exact CMsg.not_owned_setAction (CMsg.numbered_run before) hheld hget hmade hallowed howned
  · intro h
    have howned : ∀ before after, calls = before ++ after → (CMsg.run lib prms before).Owned := by
      rintro before after rfl
      exact owned_run before h.of_append
    refine ⟨howned, ?_, ?_⟩
    · intro before buf bufSize sequence after hcalls o ho
      unfold CMsg.readByBuild at ho
      split at ho
      · exact howned before _ hcalls o ho
      · cases ho
    · intro before actionField tlvId dataSend after hcalls
      refine ((howned before _ hcalls).setAction ?_).2
      rintro d rfl hheld hget hmade
      exact h before actionField tlvId d after hcalls hheld hget hmade

/-- A SET of PRIORITY1, a SET of CURRENT_DATA_SET, which is only read, and a build. -/
def staleSend : List SendCall := [
  .setAction .set (.mng .priority1) (some ⟨⟨0⟩, ⟨128⟩, fun _ => rfl⟩),
  .setAction .set (.mng .currentDataSet) (some ⟨default, default, fun _ => rfl⟩),
  .build (some fun _ => 0) 100 1]

/-- The build reads the object that the second call deleted. -/
theorem not_sendRight_staleSend : ¬ SendRight zeroLib MsgParams.init staleSend := by
  intro h
  have hread := h.built (staleSend.take 2) (some fun _ => 0) 100 1 [] rfl 0
  revert hread
  decide

end PtpMgmt
