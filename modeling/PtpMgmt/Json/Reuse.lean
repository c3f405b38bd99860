import PtpMgmt.Json.NewTlv

set_option autoImplicit false

/-! # A `Json2msg` that is used again

`fromJson` sets the fields that a document gives and leaves the others as they were. An object that served
an earlier document therefore may tell of that one, too, and a TLV of what its memory held before. -/

namespace PtpMgmt.Json.Json2msg

/-! ## Parts -/

theorem runParts_nil {j j' : Json2msg} : runParts [] j = (true, j') ↔ j' = j := by
  rw [runParts, Prod.mk.injEq]
  exact ⟨fun h => h.2.symm, fun h => ⟨rfl, h.symm⟩⟩

theorem runParts_cons {part : Part} {rest : List Part} {j j' : Json2msg} :
    runParts (part :: rest) j = (true, j') ↔ ∃ j₁, part j = (true, j₁) ∧ runParts rest j₁ = (true, j') := by
  rw [runParts]
  rcases part j with ⟨_ | _, j₁⟩
  · constructor
    · intro h
      cases h
    · rintro ⟨j₂, h, -⟩
      cases h
  · constructor
    · intro h
      exact ⟨j₁, rfl, h⟩
    · rintro ⟨j₂, h, hrest⟩
      cases h
      exact hrest

section Parts

variable (mobj : Members)

/-- What a document says about one of the two fixed names. -/
def TestOk (key result : String) : Prop :=
  findMember mobj (txt key) = some (.str (txt result)) ∨ count mobj (txt key) = 0

/-- The action of a document. -/
def actionOf : Option ActionField :=
  (testMand mobj "actionField").bind fun str =>
    if str = txt "GET" then some .get
    else if str = txt "SET" then some .set
    else if str = txt "COMMAND" then some .command
    else none

/-- The management id of a document. -/
def managementIdOf : Option MngId :=
  (testMand mobj "managementId").bind fun str => MngId.all.find? fun id => sameName true str id.str

/-- An optional field: it is what the document gives, or what it was. -/
def OptField {α : Type} (key : String) (given : Option α) (old new : Opt α) : Prop :=
  if count mobj (txt key) > 0 then ∃ val, given = some val ∧ new = ⟨true, val⟩ else new = old

/-- What a document gives for an optional number. -/
def givenNum {α : Type} (key : String) (cast : Int64 → α) : Option α := (JsonProcFrom.getInt mobj key).map cast

/-- What a document gives for the flag. -/
def givenFlag : Option Bool :=
  match getVal mobj (txt "unicastFlag") with
  | some (.bool val) => some val
  | _ => none

/-- The TLV: it is the one of the dataField, or what it was. -/
def OptData (floatTime : Text → Option Timestamp) (mem : NewMem) (action : ActionField)
    (managementId : MngId) (old new : Option BaseMngTlv) : Prop :=
  if action = .get ∨ isEmpty (.mng managementId) then haveData mobj = some false ∧ new = old
  else haveData mobj = some true ∧ ∃ obj tlv, getObj mobj (txt "dataField") = some obj ∧
    JsonProcFrom.procData floatTime mem obj managementId = some tlv ∧ new = some tlv

end Parts

section Specs

variable {mobj : Members} {j j' : Json2msg}

/-- What a part that cannot fail half-way returns. -/
theorem pair_iff {b : Bool} : (b, j) = (true, j') ↔ b = true ∧ j' = j := by
  rw [Prod.mk.injEq]
  exact ⟨fun h => ⟨h.1, h.2.symm⟩, fun h => ⟨h.1, h.2.symm⟩⟩

theorem failed_iff {P : Prop} (h : ¬ P) : (false, j) = (true, j') ↔ P := by
  constructor
  · intro he
    cases he
  · intro hp
    exact absurd hp h

theorem testOpt_iff {key result : String} :
    testOpt mobj key result j = (true, j') ↔ TestOk mobj key result ∧ j' = j := by
  have hcount : ∀ v, findMember mobj (txt key) = some v → count mobj (txt key) ≠ 0 := by
    intro v h hzero
    rw [findMember, if_neg (by omega)] at h
    cases h
  rw [testOpt, TestOk]
  split
  · next str hstr =>
      rw [pair_iff, beq_iff_eq, hstr, Option.some.injEq, Value.str.injEq, or_iff_left (hcount _ hstr)]
  · next hno =>
      have hne : findMember mobj (txt key) ≠ some (.str (txt result)) := hno _
      rw [pair_iff, beq_iff_eq, or_iff_right hne]

theorem actionPart_iff :
    actionPart mobj j = (true, j') ↔ ∃ a, actionOf mobj = some a ∧ j' = { j with action := a } := by
  rw [actionPart, actionOf]
  have hset : ∀ a : ActionField, (true, { j with action := a }) = (true, j') ↔
      ∃ a', some a = some a' ∧ j' = { j with action := a' } := by
    intro a
    rw [pair_iff]
    simp
  rcases testMand mobj "actionField" with _ | str
  · exact failed_iff (by simp)
  · simp only [Option.bind_some]
    split_ifs
    · exact hset _
    · exact hset _
    · exact hset _
    · exact failed_iff (by simp)

/-- Where only a whole match will do, the loop finds the first one. -/
theorem findLoop_exact {α : Type} (name : α → Text) (str : Text) (id : α) (ids : List α) :
    findLoop name str true true 0 id ids =
      ((ids.find? fun id => sameName true str (name id)).map (true, ·)).getD (false, id) := by
  rw [findLoop_settled]
  cases ids.find? fun id => sameName true str (name id) <;> rfl

theorem findMngID_exact {str : Text} (hne : str ≠ []) (id : MngId) :
    findMngID str id true =
      ((MngId.all.find? fun id => sameName true str id.str).map (true, ·)).getD (false, id) := by
  rw [findMngID, if_neg hne, if_neg (by simp)]
  exact findLoop_exact MngId.str str id _

theorem testMand_ne_nil {key : String} {str : Text} (h : testMand mobj key = some str) : str ≠ [] := by
  unfold testMand at h
  split at h
  · split at h
    · cases h
    · next hne =>
        cases h
        exact hne
  · cases h

theorem managementIdPart_iff : managementIdPart mobj j = (true, j') ↔
    ∃ id, managementIdOf mobj = some id ∧ j' = { j with managementId := id } := by
  rw [managementIdPart, managementIdOf]
  rcases hstr : testMand mobj "managementId" with _ | str
  · exact failed_iff (by simp)
  · simp only [Option.bind_some]
    rw [findMngID_exact (testMand_ne_nil hstr)]
    generalize MngId.all.find? (fun id => sameName true str id.str) = found
    cases found with
    | none => exact failed_iff (by simp)
    | some id =>
        rw [pair_iff]
        simp

theorem optProc_iff {α : Type} {key : String} {cast : Int64 → α} (get : Json2msg → Opt α)
    (set : Json2msg → Opt α → Json2msg) (hset : ∀ j, set j (get j) = j) :
    optProc mobj key cast set j = (true, j') ↔
      ∃ o, OptField mobj key (givenNum mobj key cast) (get j) o ∧ j' = set j o := by
  unfold optProc OptField givenNum
  by_cases hcount : count mobj (txt key) > 0
  · simp only [if_pos hcount]
    rcases JsonProcFrom.getInt mobj key with _ | i64
    · exact failed_iff (by simp)
    · rw [pair_iff]
      simp
  · simp only [if_neg hcount]
    rw [pair_iff]
    simp [hset]

theorem unicastFlagPart_iff : unicastFlagPart mobj j = (true, j') ↔
    ∃ o, OptField mobj "unicastFlag" (givenFlag mobj) j.isUnicast o ∧ j' = { j with isUnicast := o } := by
  unfold unicastFlagPart OptField givenFlag
  by_cases hcount : count mobj (txt "unicastFlag") > 0
  · simp only [if_pos hcount]
    rcases getVal mobj (txt "unicastFlag") with _ | v
    · exact failed_iff (by simp)
    · cases v with
      | bool val =>
          rw [pair_iff]
          simp
      | _ => exact failed_iff (by simp)
  · simp only [if_neg hcount]
    rw [pair_iff]
    simp

/-- What a port is set to does not depend on what it was. -/
theorem procPortIdentity_iff {key : String} {d d' : PortIdentity} :
    JsonProcFrom.procPortIdentity mobj key d = (true, d') ↔
      JsonProcFrom.readPortIdentity mobj key = some d' := by
  unfold JsonProcFrom.readPortIdentity JsonProcFrom.procPortIdentity
  rcases getObj mobj (txt key) with _ | obj
  · simp
  · simp only
    rcases JsonProcFrom.procClockIdentity obj "clockIdentity" with _ | clockIdentity
    · simp
    · simp only
      rcases JsonProcFrom.getUint obj "portNumber" with _ | num
      · simp
      · simp

theorem portProc_iff {key : String} (get : Json2msg → Opt PortIdentity)
    (set : Json2msg → Opt PortIdentity → Json2msg) (hset : ∀ j, set j (get j) = j) :
    portProc mobj key get set j = (true, j') ↔
      ∃ o, OptField mobj key (JsonProcFrom.readPortIdentity mobj key) (get j) o ∧ j' = set j o := by
  unfold portProc OptField
  by_cases hcount : count mobj (txt key) > 0
  · simp only [if_pos hcount]
    rcases hproc : JsonProcFrom.procPortIdentity mobj key (get j).val with ⟨_ | _, d⟩
    · refine failed_iff ?_
      rintro ⟨o, ⟨d', hread, -⟩, -⟩
      rw [procPortIdentity_iff.2 hread] at hproc
      cases hproc
    · rw [pair_iff, procPortIdentity_iff.1 hproc]
      simp
  · simp only [if_neg hcount]
    rw [pair_iff]
    simp [hset]

theorem haveData_obj {obj : Members} (h : getObj mobj (txt "dataField") = some obj) :
    haveData mobj = some true := by
  rw [getObj, Option.bind_eq_some_iff] at h
  obtain ⟨v, hfind, hv⟩ := h
  have hcount : count mobj (txt "dataField") > 0 := by
    rw [findMember] at hfind
    split at hfind
    · omega
    · cases hfind
  cases v with
  | obj ms => rw [haveData, if_pos hcount, hfind]
  | _ => cases hv

theorem dataPart_iff {floatTime : Text → Option Timestamp} {mem : NewMem} :
    dataPart floatTime mem mobj j = (true, j') ↔
    ∃ o, OptData mobj floatTime mem j.action j.managementId j.tlvData o ∧ j' = { j with tlvData := o } := by
  unfold dataPart OptData
  rcases hdata : haveData mobj with _ | b
  · refine failed_iff ?_
    rintro ⟨o, ho, -⟩
    split at ho
    · cases ho.1
    · cases ho.1
  · simp only
    split
    · rw [pair_iff]
      cases b <;> simp
    · rcases hobj : getObj mobj (txt "dataField") with _ | obj
      · exact failed_iff (by simp)
      · have hb : b = true := Option.some.inj (hdata.symm.trans (haveData_obj hobj))
        rw [Option.bind_some]
        rcases htlv : JsonProcFrom.procData floatTime mem obj j.managementId with _ | tlv
        · exact failed_iff (by simp [htlv])
        · rw [pair_iff]
          simp [htlv, hb]

end Specs

/-! ## Documents that are accepted -/

/-- What an accepted document makes of an object. -/
structure Accepts (floatTime : Text → Option Timestamp) (mem : NewMem) (mobj : Members) (j j' : Json2msg) :
    Prop where
  messageType : TestOk mobj "messageType" "Management"
  tlvType : TestOk mobj "tlvType" "MANAGEMENT"
  action : actionOf mobj = some j'.action
  managementId : managementIdOf mobj = some j'.managementId
  sequenceId : OptField mobj "sequenceId" (givenNum mobj "sequenceId" (fun i => i.toUInt64.toUInt16)) j.sequenceId j'.sequenceId
  sdoId : OptField mobj "sdoId" (givenNum mobj "sdoId" (fun i => i.toUInt64.toUInt32)) j.sdoId j'.sdoId
  domainNumber : OptField mobj "domainNumber" (givenNum mobj "domainNumber" (fun i => i.toUInt64.toUInt8)) j.domainNumber j'.domainNumber
  versionPTP : OptField mobj "versionPTP" (givenNum mobj "versionPTP" (fun i => i.toUInt64.toUInt8)) j.versionPTP j'.versionPTP
  minorVersionPTP :
    OptField mobj "minorVersionPTP" (givenNum mobj "minorVersionPTP" (fun i => i.toUInt64.toUInt8)) j.minorVersionPTP j'.minorVersionPTP
  ptpProfileSpecific :
    OptField mobj "PTPProfileSpecific" (givenNum mobj "PTPProfileSpecific" (fun i => i.toUInt64.toUInt8)) j.ptpProfileSpecific j'.ptpProfileSpecific
  isUnicast : OptField mobj "unicastFlag" (givenFlag mobj) j.isUnicast j'.isUnicast
  srcPort : OptField mobj "sourcePortIdentity" (JsonProcFrom.readPortIdentity mobj "sourcePortIdentity") j.srcPort j'.srcPort
  dstPort : OptField mobj "targetPortIdentity" (JsonProcFrom.readPortIdentity mobj "targetPortIdentity") j.dstPort j'.dstPort
  data : OptData mobj floatTime mem j'.action j'.managementId j.tlvData j'.tlvData

/-- **The parts all succeed exactly where every one of them finds what it asks for.** -/
theorem runParts_iff {floatTime : Text → Option Timestamp} {mem : NewMem} {mobj : Members} {j j' : Json2msg} :
    runParts (parts floatTime mem mobj) j = (true, j') ↔ Accepts floatTime mem mobj j j' := by
  simp only [parts, runParts_cons, runParts_nil, testOpt_iff, actionPart_iff, managementIdPart_iff,
    optProc_iff (·.sequenceId) ({ · with sequenceId := · }) (fun _ => rfl),
    optProc_iff (·.sdoId) ({ · with sdoId := · }) (fun _ => rfl),
    optProc_iff (·.domainNumber) ({ · with domainNumber := · }) (fun _ => rfl),
    optProc_iff (·.versionPTP) ({ · with versionPTP := · }) (fun _ => rfl),
    optProc_iff (·.minorVersionPTP) ({ · with minorVersionPTP := · }) (fun _ => rfl),
    optProc_iff (·.ptpProfileSpecific) ({ · with ptpProfileSpecific := · }) (fun _ => rfl),
    unicastFlagPart_iff, portProc_iff (·.srcPort) ({ · with srcPort := · }) (fun _ => rfl),
    portProc_iff (·.dstPort) ({ · with dstPort := · }) (fun _ => rfl), dataPart_iff]
  constructor
  · rintro ⟨_, ⟨h1, rfl⟩, _, ⟨h2, rfl⟩, _, ⟨a, h3, rfl⟩, _, ⟨id, h4, rfl⟩, _, ⟨o5, h5, rfl⟩, _, ⟨o6, h6, rfl⟩,
      _, ⟨o7, h7, rfl⟩, _, ⟨o8, h8, rfl⟩, _, ⟨o9, h9, rfl⟩, _, ⟨o10, h10, rfl⟩, _, ⟨o11, h11, rfl⟩, _,
      ⟨o12, h12, rfl⟩, _, ⟨o13, h13, rfl⟩, _, ⟨o14, h14, rfl⟩, rfl⟩
    exact ⟨h1, h2, h3, h4, h5, h6, h7, h8, h9, h10, h11, h12, h13, h14⟩
  · intro h
    exact ⟨_, ⟨h.messageType, rfl⟩, _, ⟨h.tlvType, rfl⟩, _, ⟨_, h.action, rfl⟩, _, ⟨_, h.managementId, rfl⟩, _,
      ⟨_, h.sequenceId, rfl⟩, _, ⟨_, h.sdoId, rfl⟩, _, ⟨_, h.domainNumber, rfl⟩, _, ⟨_, h.versionPTP, rfl⟩, _,
      ⟨_, h.minorVersionPTP, rfl⟩, _, ⟨_, h.ptpProfileSpecific, rfl⟩, _, ⟨_, h.isUnicast, rfl⟩, _,
      ⟨_, h.srcPort, rfl⟩, _, ⟨_, h.dstPort, rfl⟩, _, ⟨_, h.data, rfl⟩, rfl⟩

/-! ## One call after the other -/

/-- The members of a document. -/
def document (json : Text) : Members :=
  match parseBuffer false json with
  | some (some (.obj mobj)) => mobj
  | _ => []

/-- **A call returns true exactly on the documents that are accepted.** -/
theorem fromJson_iff {floatTime : Text → Option Timestamp} {mem : NewMem} {json : Text} {j j' : Json2msg} :
    fromJson floatTime mem j json = (true, j') ↔
      parseBuffer false json = some (some (.obj (document json))) ∧
        Accepts floatTime mem (document json) j j' := by
  unfold fromJson document
  split
  · next mobj hparse => simp [hparse, runParts_iff]
  · next hno =>
      refine failed_iff ?_
      rintro ⟨hparse, -⟩
      exact hno _ hparse

/-- The object after some calls, each with the memory that it got. -/
def afterCalls (floatTime : Text → Option Timestamp) (calls : List (NewMem × Text)) : Json2msg :=
  calls.foldl (fun j call => (fromJson floatTime call.1 j call.2).2) init

/-- What a document does not give is as in a new object. -/
structure Untouched (mobj : Members) (j : Json2msg) : Prop where
  sequenceId : count mobj (txt "sequenceId") = 0 → j.sequenceId = init.sequenceId
  sdoId : count mobj (txt "sdoId") = 0 → j.sdoId = init.sdoId
  domainNumber : count mobj (txt "domainNumber") = 0 → j.domainNumber = init.domainNumber
  versionPTP : count mobj (txt "versionPTP") = 0 → j.versionPTP = init.versionPTP
  minorVersionPTP : count mobj (txt "minorVersionPTP") = 0 → j.minorVersionPTP = init.minorVersionPTP
  ptpProfileSpecific :
    count mobj (txt "PTPProfileSpecific") = 0 → j.ptpProfileSpecific = init.ptpProfileSpecific
  isUnicast : count mobj (txt "unicastFlag") = 0 → j.isUnicast = init.isUnicast
  srcPort : count mobj (txt "sourcePortIdentity") = 0 → j.srcPort = init.srcPort
  dstPort : count mobj (txt "targetPortIdentity") = 0 → j.dstPort = init.dstPort
  tlvData : getObj mobj (txt "dataField") = none → j.tlvData = none

/-- The document sets all of the TLV that it gives. -/
def SetsAll (mobj : Members) : Prop :=
  ∀ managementId obj, managementIdOf mobj = some managementId → getObj mobj (txt "dataField") = some obj →
    ¬ LeavesUnset managementId obj

/-- A field that is left as it was, or set whatever it was. -/
theorem opt_swap {α : Type} {mobj : Members} {key : String} {given : Option α} {old old' new : Opt α}
    (h : OptField mobj key given old new) :
    OptField mobj key given old' new ↔ (count mobj (txt key) = 0 → old = old') := by
  unfold OptField at h ⊢
  split at h
  · next hn =>
      rw [if_pos hn]
      exact ⟨fun _ hzero => absurd hn (by omega), fun _ => h⟩
  · next hn =>
      rw [if_neg hn, h]
      exact ⟨fun heq _ => heq, fun heq => heq (by omega)⟩

theorem optData_swap {mobj : Members} {floatTime : Text → Option Timestamp} {mem : NewMem}
    {action : ActionField} {managementId : MngId} {old old' new : Option BaseMngTlv}
    (h : OptData mobj floatTime mem action managementId old new) :
    OptData mobj floatTime mem action managementId old' new ↔
      (getObj mobj (txt "dataField") = none → old = old') := by
  unfold OptData at h ⊢
  split at h
  · next hno =>
      have hnone : getObj mobj (txt "dataField") = none := by
        by_contra hsome
        obtain ⟨obj, hobj⟩ := Option.ne_none_iff_exists'.1 hsome
        rw [haveData_obj hobj] at h
        cases h.1
      rw [if_pos hno, h.2]
      exact ⟨fun heq _ => heq.2, fun heq => ⟨h.1, heq hnone⟩⟩
  · next hdata =>
      obtain ⟨-, obj, tlv, hobj, -⟩ := id h
      rw [if_neg hdata]
      exact ⟨fun _ hnone => absurd (hnone.symm.trans hobj) (by simp), fun _ => h⟩

/-- **An accepted document gives the same with a new object exactly where the object is as new in what the
    document leaves out.** -/
theorem Accepts.init_iff {floatTime : Text → Option Timestamp} {mem : NewMem} {mobj : Members}
    {j j' : Json2msg} (h : Accepts floatTime mem mobj j j') :
    Accepts floatTime mem mobj init j' ↔ Untouched mobj j := by
  constructor
  · intro hinit
    exact ⟨(opt_swap h.sequenceId).1 hinit.sequenceId, (opt_swap h.sdoId).1 hinit.sdoId,
      (opt_swap h.domainNumber).1 hinit.domainNumber, (opt_swap h.versionPTP).1 hinit.versionPTP,
      (opt_swap h.minorVersionPTP).1 hinit.minorVersionPTP,
      (opt_swap h.ptpProfileSpecific).1 hinit.ptpProfileSpecific, (opt_swap h.isUnicast).1 hinit.isUnicast,
      (opt_swap h.srcPort).1 hinit.srcPort, (opt_swap h.dstPort).1 hinit.dstPort,
      (optData_swap h.data).1 hinit.data⟩
  · intro hu
    exact ⟨h.messageType, h.tlvType, h.action, h.managementId, (opt_swap h.sequenceId).2 hu.sequenceId,
      (opt_swap h.sdoId).2 hu.sdoId, (opt_swap h.domainNumber).2 hu.domainNumber,
      (opt_swap h.versionPTP).2 hu.versionPTP, (opt_swap h.minorVersionPTP).2 hu.minorVersionPTP,
      (opt_swap h.ptpProfileSpecific).2 hu.ptpProfileSpecific, (opt_swap h.isUnicast).2 hu.isUnicast,
      (opt_swap h.srcPort).2 hu.srcPort, (opt_swap h.dstPort).2 hu.dstPort, (optData_swap h.data).2 hu.tlvData⟩

/-- **A TLV of which all is set is the same for every memory.** -/
theorem procData_same {floatTime : Text → Option Timestamp} {mem mem' : NewMem} {obj : Members}
    {managementId : MngId} (h : ¬ LeavesUnset managementId obj) :
    JsonProcFrom.procData floatTime mem obj managementId = JsonProcFrom.procData floatTime mem' obj managementId := by
  rw [JsonProcFrom.procData, JsonProcFrom.procData,
    JsonProcFrom.runSteps_same_of_covers (JsonProcFrom.newTlv_covers h _ _)]

theorem Accepts.other_mem {floatTime : Text → Option Timestamp} {mem : NewMem} {mobj : Members}
    {j j' : Json2msg} (h : Accepts floatTime mem mobj j j') (hsets : SetsAll mobj) (mem' : NewMem) :
    Accepts floatTime mem' mobj j j' := by
  refine { h with data := ?_ }
  have hdata := h.data
  unfold OptData at hdata ⊢
  split at hdata
  · next hno =>
      rw [if_pos hno]
      exact hdata
  · next hyes =>
      obtain ⟨hhave, obj, tlv, hobj, htlv, hnew⟩ := hdata
      rw [if_neg hyes]
      exact ⟨hhave, obj, tlv, hobj, (procData_same (hsets _ obj h.managementId hobj)).symm.trans htlv, hnew⟩

/-- The TLV of an accepted document. -/
theorem Accepts.tlv {floatTime : Text → Option Timestamp} {mem : NewMem} {mobj obj : Members}
    {j j' : Json2msg} (h : Accepts floatTime mem mobj j j') (hobj : getObj mobj (txt "dataField") = some obj) :
    ∃ d, JsonProcFrom.runSteps floatTime mem obj (newTlv j'.managementId (mem.tlv j'.managementId))
        (procSteps j'.managementId) = some d ∧ j'.tlvData = some (.tlv j'.managementId d) := by
  have hdata := h.data
  unfold OptData at hdata
  split at hdata
  · rw [haveData_obj hobj] at hdata
    cases hdata.1
  · obtain ⟨-, obj', tlv, hobj', htlv, hnew⟩ := hdata
    cases hobj.symm.trans hobj'
    unfold JsonProcFrom.procData at htlv
    split at htlv
    · cases htlv
    · obtain ⟨d, hd, rfl⟩ := Option.map_eq_some_iff.1 htlv
      exact ⟨d, hd, hnew⟩

/-- **A document that is accepted to the same whatever the memory is sets all of its TLV.** -/
theorem setsAll_of_accepts {floatTime : Text → Option Timestamp} {mobj : Members} {j j' : Json2msg}
    (h : ∀ mem, Accepts floatTime mem mobj j j') : SetsAll mobj := by
  intro managementId obj hid hobj hleaves
  obtain ⟨mem, mem', hne⟩ := JsonProcFrom.depends_of_leavesUnset hleaves
  cases hid.symm.trans (h mem).managementId
  obtain ⟨d, hd, hnew⟩ := (h mem).tlv hobj
  obtain ⟨d', hd', hnew'⟩ := (h mem').tlv hobj
  cases hnew.symm.trans hnew'
  exact hne d hd hd'

/-- **After any calls, a call that returns true gives what a new object gives, whatever memory either gets,
    exactly where the earlier calls left alone what the document does not give and the document sets all of its
    TLV.** -/
theorem fromJson_reuse_iff (floatTime : Text → Option Timestamp) (calls : List (NewMem × Text)) (last : Text)
    (mem₀ : NewMem) (hok : (fromJson floatTime mem₀ (afterCalls floatTime calls) last).1 = true) :
    (∀ mem mem', fromJson floatTime mem (afterCalls floatTime calls) last = fromJson floatTime mem' init last) ↔
      Untouched (document last) (afterCalls floatTime calls) ∧ SetsAll (document last) := by
  obtain ⟨j', hj'⟩ : ∃ j', fromJson floatTime mem₀ (afterCalls floatTime calls) last = (true, j') :=
    ⟨_, Prod.ext hok rfl⟩
  obtain ⟨hparse, hacc⟩ := fromJson_iff.1 hj'
  constructor
  · intro heq
    have hnew : ∀ mem, Accepts floatTime mem (document last) init j' := fun mem =>
      (fromJson_iff.1 ((heq mem₀ mem).symm.trans hj')).2
    exact ⟨hacc.init_iff.1 (hnew mem₀), setsAll_of_accepts hnew⟩
  · rintro ⟨huntouched, hsets⟩ mem mem'
    have hused := fromJson_iff.2 ⟨hparse, hacc.other_mem hsets mem⟩
    have hinit := fromJson_iff.2 ⟨hparse, (hacc.init_iff.2 huntouched).other_mem hsets mem'⟩
    exact hused.trans hinit.symm

/-- A request for the domain of a clock. -/
def getDomain : Text := txt "\x7b\"actionField\":\"GET\",\"managementId\":\"DOMAIN\"\x7d"

/-- The same in domain 3. -/
def getDomain3 : Text :=
  txt "\x7b\"actionField\":\"GET\",\"managementId\":\"DOMAIN\",\"domainNumber\":3\x7d"

theorem fromJson_reuse_iff_domain :
    (fromJson (fun _ => none) zeroMem (afterCalls (fun _ => none) [(zeroMem, getDomain)]) getDomain3).1 = true ∧
      ((∀ mem mem', fromJson (fun _ => none) mem (afterCalls (fun _ => none) [(zeroMem, getDomain)]) getDomain3 =
          fromJson (fun _ => none) mem' init getDomain3) ↔
        Untouched (document getDomain3) (afterCalls (fun _ => none) [(zeroMem, getDomain)]) ∧
          SetsAll (document getDomain3)) :=
  ⟨by decide +kernel, fromJson_reuse_iff _ _ _ zeroMem (by decide +kernel)⟩

/-- After a request in domain 3 a request that tells no domain is one in domain 3, too. -/
theorem fromJson_reuse_domain_stays :
    ¬ ∀ (floatTime : Text → Option Timestamp) (calls : List (NewMem × Text)) (last : Text) (mem mem' : NewMem),
      (fromJson floatTime mem (afterCalls floatTime calls) last).1 = true →
        fromJson floatTime mem (afterCalls floatTime calls) last = fromJson floatTime mem' init last := by
  intro h
  have heq := h (fun _ => none) [(zeroMem, getDomain3)] getDomain zeroMem zeroMem (by decide +kernel)
  have hstays : (fromJson (fun _ => none) zeroMem (afterCalls (fun _ => none) [(zeroMem, getDomain3)])
      getDomain).2.domainNumber = ⟨true, 3⟩ := by
    decide +kernel
  have hnew : (fromJson (fun _ => none) zeroMem init getDomain).2.domainNumber = ⟨false, 0⟩ := by decide +kernel
  rw [heq, hnew] at hstays
  exact absurd hstays (by decide)

end PtpMgmt.Json.Json2msg
