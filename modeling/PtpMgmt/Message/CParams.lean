import PtpMgmt.Message.Build

set_option autoImplicit false

/-! # The parameters from C (`ptpmgmt_MsgParams`)

A parameters structure of C is a copy of the fields of a C++ `MsgParams`, and its `_this` points to that
object. Where it comes from `ptpmgmt_MsgParams_alloc` the object is its own. The structure in `ptpmgmt_msg_t`
that `getParams` hands out is a wrapper, though: its object is `m_prms` of the `Message` itself.

`updateParams` first writes the structure to its object, field by field, and the `Message` looks at the object
after that. What it refuses has then reached `m_prms` already when the structure is its own wrapper. -/

namespace PtpMgmt

/-! ## Structures and objects -/

/-- The fields of `ptpmgmt_MsgParams`. The filter is in the C++ object only. -/
structure CParams where
  transportSpecific : UInt8
  domainNumber : UInt8
  boundaryHops : UInt8
  minorVersion : UInt8
  isUnicast : Bool
  implementSpecific : ImplementSpecific
  target : PortIdentity
  selfId : PortIdentity
  useZeroGet : Bool
  rcvSignaling : Bool
  filterSignaling : Bool
  rcvSMPTEOrg : Bool
  sendAuth : Bool
  rcvAuth : UInt8

/-- `cpyMsgParams`: the fields of a structure as its object has them. -/
def cpyMsgParams (r : MsgParams) : CParams where
  transportSpecific := r.transportSpecific
  domainNumber := r.domainNumber
  boundaryHops := r.boundaryHops
  minorVersion := r.minorVersion
  isUnicast := r.isUnicast
  useZeroGet := r.useZeroGet
  rcvSignaling := r.rcvSignaling
  filterSignaling := r.filterSignaling
  rcvSMPTEOrg := r.rcvSMPTEOrg
  sendAuth := r.sendAuth
  rcvAuth := r.rcvAuth
  implementSpecific := r.implementSpecific
  target := r.target
  selfId := r.selfId

/-- `getMsgParams`: the object `r` of a structure with its fields written to it. -/
def getMsgParams (p : CParams) (r : MsgParams) : MsgParams where
  transportSpecific := p.transportSpecific
  domainNumber := p.domainNumber
  boundaryHops := p.boundaryHops
  minorVersion := p.minorVersion
  isUnicast := p.isUnicast
  useZeroGet := p.useZeroGet
  rcvSignaling := p.rcvSignaling
  filterSignaling := p.filterSignaling
  rcvSMPTEOrg := p.rcvSMPTEOrg
  sendAuth := p.sendAuth
  rcvAuth := p.rcvAuth
  implementSpecific := p.implementSpecific
  target := p.target
  selfId := p.selfId
  allowSigTlvs := r.allowSigTlvs

/-- A structure, told by what its `_this` points to. -/
inductive CParamsRef
  /-- `_prms` of a message: its object is `m_prms`. -/
  | wrapper (m : Nat)
  /-- A structure with an object of its own. -/
  | own (k : Nat)
deriving DecidableEq

/-- What there is of messages and of structures with objects of their own. -/
structure CWorld where
  msgs : Nat → Message
  objs : Nat → MsgParams
  fields : CParamsRef → CParams

namespace CWorld

/-- The object of a structure. -/
def obj (w : CWorld) : CParamsRef → MsgParams
  | .wrapper m => (w.msgs m).prms
  | .own k => w.objs k

/-- Put `r` in the object of a structure. -/
def setObj (w : CWorld) (p : CParamsRef) (r : MsgParams) : CWorld :=
  match p with
  | .wrapper m => { w with msgs := Function.update w.msgs m { w.msgs m with prms := r } }
  | .own k => { w with objs := Function.update w.objs k r }

/-- The parameters that a structure stands for: its fields, with the filter of its object. -/
def given (w : CWorld) (p : CParamsRef) : MsgParams := getMsgParams (w.fields p) (w.obj p)

/-- `ptpmgmt_msg_getParams`. -/
def getParams (w : CWorld) (m : Nat) : CParamsRef × CWorld :=
  (.wrapper m, { w with fields := Function.update w.fields (.wrapper m) (cpyMsgParams (w.obj (.wrapper m))) })

/-- `ptpmgmt_msg_updateParams`. -/
def updateParams (w : CWorld) (m : Nat) (prms : CParamsRef) : Bool × CWorld :=
  let w := w.setObj prms (getMsgParams (w.fields prms) (w.obj prms))
  let (ok, msg) := (w.msgs m).updateParams (w.obj prms)
  (ok, { w with msgs := Function.update w.msgs m msg })

/-! ## Calls -/

/-- What a program does with messages and structures. -/
inductive Call
  | getParams (m : Nat)
  /-- The program fills a structure in. -/
  | fill (p : CParamsRef) (f : CParams)
  | updateParams (m : Nat) (p : CParamsRef)

/-- The state after a call. -/
def call (w : CWorld) : Call → CWorld
  | .getParams m => (w.getParams m).2
  | .fill p f => { w with fields := Function.update w.fields p f }
  | .updateParams m p => (w.updateParams m p).2

/-- What is promised of a call: an `updateParams` that answers false leaves the parameters of its message alone,
    and one that answers true makes them those of the structure. -/
def CallRight (w : CWorld) : Call → Prop
  | .updateParams m p =>
    ((w.updateParams m p).1 = false → ((w.updateParams m p).2.msgs m).prms = (w.msgs m).prms) ∧
      ((w.updateParams m p).1 = true → ((w.updateParams m p).2.msgs m).prms = w.given p)
  | _ => True

/-- A call that does not refuse a wrapper of its own message with new values in it. -/
def CallSpared (w : CWorld) : Call → Prop
  | .updateParams m p =>
    (w.fields p).transportSpecific ≤ 0xf ∨ p ≠ .wrapper m ∨ w.given p = (w.msgs m).prms
  | _ => True

/-- Every call of the history is right, each in the state that the ones before it leave. -/
def RunRight (w : CWorld) : List Call → Prop
  | [] => True
  | c :: rest => w.CallRight c ∧ (w.call c).RunRight rest

def RunSpared (w : CWorld) : List Call → Prop
  | [] => True
  | c :: rest => w.CallSpared c ∧ (w.call c).RunSpared rest

/-! ## What an update does -/

variable (w : CWorld) (m : Nat) (p : CParamsRef)

@[simp] theorem obj_setObj (r : MsgParams) : (w.setObj p r).obj p = r := by
  cases p <;> simp [setObj, obj]

theorem prms_setObj_wrapper (r : MsgParams) : ((w.setObj (.wrapper m) r).msgs m).prms = r := by
  simp [setObj]

/-- The object of another structure is not in the message. -/
theorem prms_setObj_of_ne (r : MsgParams) (h : p ≠ .wrapper m) :
    ((w.setObj p r).msgs m).prms = (w.msgs m).prms := by
  cases p with
  | own k => rfl
  | wrapper m' =>
    have hne : m ≠ m' := fun heq => h (by rw [heq])
    simp [setObj, Function.update_of_ne hne]

theorem updateParams_fst : (w.updateParams m p).1 = decide ((w.fields p).transportSpecific ≤ 0xf) := by
  simp only [updateParams, obj_setObj, Message.updateParams, getMsgParams]
  split
  next h => exact (decide_eq_false (UInt8.not_le.2 h)).symm
  next h => exact (decide_eq_true (UInt8.not_lt.1 h)).symm

/-- What is taken on are the parameters of the structure. -/
theorem updateParams_accepts (h : (w.fields p).transportSpecific ≤ 0xf) :
    ((w.updateParams m p).2.msgs m).prms = w.given p := by
  have hnot : ¬ (w.fields p).transportSpecific > 0xf := UInt8.not_lt.2 h
  simp only [updateParams, obj_setObj, Message.updateParams, getMsgParams, if_neg hnot,
    Function.update_self]
  rfl

/-- What is refused is in the object of the structure all the same. -/
theorem updateParams_refuses (h : ¬ (w.fields p).transportSpecific ≤ 0xf) :
    ((w.updateParams m p).2.msgs m).prms = ((w.setObj p (w.given p)).msgs m).prms := by
  have hover : (w.fields p).transportSpecific > 0xf := UInt8.not_le.1 h
  simp only [updateParams, obj_setObj, Message.updateParams, getMsgParams, if_pos hover,
    Function.update_self]
  rfl

theorem callRight_iff (c : Call) : w.CallRight c ↔ w.CallSpared c := by
  cases c with
  | getParams m => exact Iff.rfl
  | fill p f => exact Iff.rfl
  | updateParams m p =>
    simp only [CallRight, CallSpared, updateParams_fst, decide_eq_false_iff_not, decide_eq_true_eq]
    by_cases hts : (w.fields p).transportSpecific ≤ 0xf
    · have := w.updateParams_accepts m p hts
      simp [hts, this]
    · rw [w.updateParams_refuses m p hts]
      by_cases hp : p = .wrapper m
      · -- the object is the message's own
        subst hp
        simp [hts, prms_setObj_wrapper]
      · have := w.prms_setObj_of_ne m p (w.given p) hp
        simp [hts, hp, this]

/-- **The exact histories that keep the promise**: in none of them does a message refuse values that it was given
    through its own wrapper. -/
theorem runRight_iff (w : CWorld) (calls : List Call) : w.RunRight calls ↔ w.RunSpared calls := by
  induction calls generalizing w with
  | nil => exact Iff.rfl
  | cons c rest ih => exact and_congr (w.callRight_iff c) (ih (w.call c))

/-- A message and its wrapper as `ptpmgmt_msg_alloc` makes them. -/
def alloc : CWorld where
  msgs _ := Message.init MsgParams.init
  objs _ := MsgParams.init
  fields _ := cpyMsgParams MsgParams.init

/-- The program takes the structure of the message, sets `transportSpecific` to 16 and asks for the update. -/
def overRange : List Call :=
  [.getParams 0, .fill (.wrapper 0) { cpyMsgParams MsgParams.init with transportSpecific := 16 },
    .updateParams 0 (.wrapper 0)]

/-- The update is refused, and the message uses 16 from then on. -/
theorem not_runRight_overRange : ¬ alloc.RunRight overRange := by
  rintro ⟨-, -, ⟨hrefused, -⟩, -⟩
  have hsame := congrArg MsgParams.transportSpecific (hrefused rfl)
  exact absurd hsame (by decide)

end CWorld

end PtpMgmt
