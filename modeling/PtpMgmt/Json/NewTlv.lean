import PtpMgmt.Json.FromJson

set_option autoImplicit false

/-! # The memory of a new TLV

`procData` makes its TLV in memory that held something else before. The TLV is the same for every memory where
the steps of its function set all of it; the lengths of texts, and the counters of PORT_STATS_NP for messages
that have no name, are set by none. -/

namespace PtpMgmt.Json

/-- The values of an array that is a member. -/
def elementsOf (obj : Members) (key : String) : List Value := (getArr obj (txt key)).getD []

/-- A TLV with something that no document sets. A fault log has the texts of its records. -/
def LeavesUnset : MngId → Members → Prop
  | .clockDescription, _ => True
  | .userDescription, _ => True
  | .faultLog, obj => elementsOf obj "faultRecords" ≠ []
  | .alternateTimeOffsetName, _ => True
  | .portPropertiesNp, _ => True
  | .portStatsNp, _ => True
  | _, _ => False

/-- What is read depends on what the field was: a text keeps its length, a flag is added to the others, and
    the elements of an array come behind those that are there. -/
def ProcType.Reads : ProcType → Prop
  | .ptpText => True
  | .flag _ => True
  | .clockIdentities => True
  | .portAddresses => True
  | .faultRecords => True
  | .acceptableMasters => True
  | .linuxptpUnicastMasters => True
  | _ => False

/-- The steps make the same of two TLVs, whatever is read of the document: a field is the same in both before
    it is read, where that matters, and all that is left in the end. -/
inductive Covers {T : Type} (obj : Members) : T → T → List (Step T) → Prop
  | nil (d : T) : Covers obj d d []
  | zeroFlag {set : T → UInt8 → T} {d d' : T} {rest : List (Step T)}
      (hrest : Covers obj (set d 0) (set d' 0) rest) : Covers obj d d' (.zeroFlag set :: rest)
  | proc {name : String} {type : ProcType} {get : T → type.Val} {set : T → type.Val → T} {d d' : T}
      {rest : List (Step T)} (hget : type.Reads → get d = get d')
      (hrecords : type = .faultRecords → elementsOf obj name = [])
      (hrest : ∀ v, Covers obj (set d v) (set d' v) rest) : Covers obj d d' (.proc name type get set :: rest)

/-- What a field keeps of what it was. -/
def ProcType.Kept : (type : ProcType) → (cur val : type.Val) → Prop
  | .ptpText, cur, val => PTPText.lengthField val = PTPText.lengthField cur
  | _, _, _ => True

/-- A part of a TLV that a step does not set. -/
def Step.Spares {T β : Type} (part : T → β) : Step T → Prop
  | .zeroFlag set => ∀ d, part (set d 0) = part d
  | .proc _ type get set => ∀ d v, type.Kept (get d) v → part (set d v) = part d

/-- Memory with nothing in it. -/
def zeroMem : NewMem := ⟨fun _ => default, fun _ => default⟩

namespace JsonProcFrom

variable {floatTime : Text → Option Timestamp} {mem mem' : NewMem} {obj : Members} {key : String}

/-! ## What is read of a field -/

/-- Where a name is not found, nothing is told of the enumerator. -/
def FindsAlike {α : Type} (find : Text → α → Bool → Bool × α) : Prop :=
  ∀ str d d', find str d true = find str d' true ∨
    (find str d true).1 = false ∧ (find str d' true).1 = false

theorem procFind_alike {α : Type} {find : Text → α → Bool → Bool × α} (h : FindsAlike find) (d d' : α) :
    procFind find obj key d = procFind find obj key d' := by
  rw [procFind, procFind]
  congr 1
  funext str
  rcases h str d d' with heq | ⟨hno, hno'⟩
  · rw [heq]
  · rcases hfind : find str d true with ⟨_ | _, v⟩
    · rcases hfind' : find str d' true with ⟨_ | _, v'⟩
      · rfl
      · rw [hfind'] at hno'
        cases hno'
    · rw [hfind] at hno
      cases hno

theorem findTimeSrc_alike : FindsAlike findTimeSrc := by
  intro str d d'
  rw [findTimeSrc, findTimeSrc]
  split_ifs
  · exact .inr ⟨rfl, rfl⟩
  · exact .inl rfl
  · rw [findLoop_settled, findLoop_settled]
    split
    · exact .inl rfl
    · exact .inr ⟨rfl, rfl⟩

theorem findName_eq {α : Type} (name : α → Text) (str : Text) (whole : Bool) (id : α) (ids : List α) :
    findName name str whole id ids =
      ((ids.find? fun id => sameName whole str (name id)).map (true, ·)).getD (false, id) := by
  induction ids with
  | nil => rfl
  | cons cid rest ih =>
      rw [findName, List.find?_cons]
      by_cases h : sameName whole str (name cid) = true
      · rw [if_pos h, h]
        rfl
      · rw [if_neg h, eq_false_of_ne_true h]
        exact ih

theorem findPortState_alike : FindsAlike findPortState := by
  intro str d d'
  rw [findPortState, findPortState, findName_eq, findName_eq]
  by_cases hne : str = []
  · rw [if_pos hne, if_pos hne]
    exact .inr ⟨rfl, rfl⟩
  rw [if_neg hne, if_neg hne]
  cases (enumRange 1 9).find? fun id => sameName true str (portState2str id) with
  | some v => exact .inl rfl
  | none =>
      simp only [Option.map_none, Option.getD_none]
      split_ifs
      · exact .inl rfl
      · exact .inl rfl
      · exact .inl rfl
      · exact .inr ⟨rfl, rfl⟩

theorem findDelayMech_alike : FindsAlike findDelayMech := by
  intro str d d'
  rw [findDelayMech, findDelayMech, findName_eq, findName_eq]
  by_cases hne : str = []
  · rw [if_pos hne, if_pos hne]
    exact .inr ⟨rfl, rfl⟩
  rw [if_neg hne, if_neg hne]
  cases (enumRange 0 4).find? fun id => sameName true str (delayMech2str id) with
  | some v => exact .inl rfl
  | none =>
      simp only [Option.map_none, Option.getD_none]
      split_ifs
      · exact .inl rfl
      · exact .inr ⟨rfl, rfl⟩

/-- **A field is read to the same**, where it was the same before or nothing of that is read. -/
theorem procField_same {type : ProcType} {d d' : type.Val} (hget : type.Reads → d = d')
    (hrecords : type = .faultRecords → elementsOf obj key = []) :
    procField floatTime mem obj key type d = procField floatTime mem' obj key type d' := by
  cases type with
  | timeSource => exact procFind_alike findTimeSrc_alike d d'
  | portState => exact procFind_alike findPortState_alike d d'
  | delayMechanism => exact procFind_alike findDelayMech_alike d d'
  | faultRecords =>
      cases hget trivial
      have hnone := hrecords rfl
      rw [elementsOf] at hnone
      rw [procField, procField, procArray, procArray]
      rcases harr : getArr obj (txt key) with _ | elements
      · rfl
      · rw [harr, Option.getD_some] at hnone
        rw [hnone]
        rfl
  | ptpText | flag mask | clockIdentities | portAddresses | acceptableMasters | linuxptpUnicastMasters =>
      cases hget trivial
      rfl
  | _ => rfl

/-- A field keeps what it keeps. -/
theorem procField_kept {type : ProcType} {d val : type.Val}
    (h : procField floatTime mem obj key type d = some val) : type.Kept d val := by
  cases type with
  | ptpText =>
      obtain ⟨str, -, rfl⟩ := Option.map_eq_some_iff.1 h
      rfl
  | _ => trivial

/-! ## What is made of a TLV -/

section Steps

variable {T : Type} {d d' : T} {steps : List (Step T)}

/-- **Where the steps cover a TLV, the memory does not matter.** -/
theorem runSteps_same_of_covers (h : Covers obj d d' steps) :
    runSteps floatTime mem obj d steps = runSteps floatTime mem' obj d' steps := by
  induction h with
  | nil d => rfl
  | zeroFlag _ ih => exact ih
  | proc hget hrecords _ ih =>
      rw [runSteps, runSteps, procStep, procStep, procField_same hget hrecords]
      rcases procField floatTime mem' obj _ _ _ with _ | v
      · rfl
      · exact ih v

/-- **What the steps spare is as it was.** -/
theorem runSteps_spares {β : Type} {part : T → β} (hspares : ∀ s ∈ steps, s.Spares part)
    (h : runSteps floatTime mem obj d steps = some d') : part d' = part d := by
  induction steps generalizing d with
  | nil =>
      cases h
      rfl
  | cons s rest ih =>
      obtain ⟨d₁, hstep, hrest⟩ := Option.bind_eq_some_iff.1 h
      obtain ⟨hhead, htail⟩ := List.forall_mem_cons.1 hspares
      refine (ih htail hrest).trans ?_
      cases s with
      | zeroFlag set =>
          cases hstep
          exact hhead d
      | proc name type get set =>
          obtain ⟨v, hv, rfl⟩ := Option.map_eq_some_iff.1 hstep
          exact hhead d v (procField_kept hv)

end Steps

/-- **The steps for an id cover a new TLV**, apart from those with something that is never set. -/
theorem newTlv_covers {id : MngId} (h : ¬ LeavesUnset id obj) (a a' : Tlv id) :
    Covers obj (newTlv id a) (newTlv id a') (procSteps id) := by
  cases id
  case clockDescription | userDescription | alternateTimeOffsetName | portPropertiesNp | portStatsNp =>
    exact absurd trivial h
  case faultLog =>
    exact .proc False.elim ProcType.noConfusion fun _ => .proc (fun _ => rfl) (fun _ => not_not.1 h) fun _ => .nil _
  all_goals
    repeat' first
      | exact Covers.nil _
      | refine Covers.zeroFlag ?_
      | refine Covers.proc False.elim ProcType.noConfusion fun _ => ?_
      | refine Covers.proc (fun _ => rfl) ProcType.noConfusion fun _ => ?_

/-! ## What is never set -/

/-- The TLV of an id depends on the memory: two memories make different TLVs of the document, or none. -/
def Depends (floatTime : Text → Option Timestamp) (obj : Members) (id : MngId) : Prop :=
  ∃ mem mem' : NewMem, ∀ d,
    runSteps floatTime mem obj (newTlv id (mem.tlv id)) (procSteps id) = some d →
      runSteps floatTime mem' obj (newTlv id (mem'.tlv id)) (procSteps id) ≠ some d

/-- One of the fields that are not set. -/
def unsetPart : (id : MngId) → Tlv id → Nat
  | .clockDescription, d => d.userDescription.lengthField.toNat
  | .userDescription, d => d.userDescription.lengthField.toNat
  | .alternateTimeOffsetName, d => d.displayName.lengthField.toNat
  | .portPropertiesNp, d => d.interface.lengthField.toNat
  | .portStatsNp, d => (d.rxMsgType.get ⟨4, by decide⟩).toNat
  | _, _ => 0

theorem unsetPart_spared (id : MngId) : ∀ s ∈ procSteps id, s.Spares (unsetPart id) := by
  cases id <;>
    repeat' first
      | exact List.forall_mem_nil _
      | refine List.forall_mem_cons.2 ⟨?_, ?_⟩
      | exact fun _ => rfl
      | exact fun _ _ _ => rfl
      | exact fun _ _ h => congrArg UInt8.toNat h
      | exact fun _ _ _ => congrArg UInt64.toNat (List.Vector.get_set_of_ne (by decide) _)

theorem depends_of_unsetPart {id : MngId} (a a' : Tlv id)
    (hne : unsetPart id (newTlv id a) ≠ unsetPart id (newTlv id a')) : Depends floatTime obj id := by
  refine ⟨⟨Function.update (fun _ => default) id a, fun _ => default⟩,
    ⟨Function.update (fun _ => default) id a', fun _ => default⟩, fun d h h' => hne ?_⟩
  have hpart := runSteps_spares (unsetPart_spared id) h
  have hpart' := runSteps_spares (unsetPart_spared id) h'
  simp only [Function.update_self] at hpart hpart'
  exact hpart.symm.trans hpart'

/-- The records that are read come behind those that are there. -/
theorem procElements_prefix {α : Type} {record : Nat → Value → Option α} {d d' : List α}
    {elements : List Value} (h : procElements record d elements = some d') : d <+: d' := by
  induction elements generalizing d with
  | nil =>
      cases h
      exact List.prefix_rfl
  | cons jval rest ih =>
      obtain ⟨rec, -, h⟩ := Option.bind_eq_some_iff.1 h
      exact (List.prefix_append d [rec]).trans (ih h)

theorem procFaultRecord_kept {mem d : FaultRecord} (h : procFaultRecord floatTime mem obj = some d) :
    d.faultName.lengthField = mem.faultName.lengthField := by
  obtain ⟨faultRecordLength, -, h⟩ := Option.bind_eq_some_iff.1 h
  obtain ⟨faultTime, -, h⟩ := Option.bind_eq_some_iff.1 h
  obtain ⟨severityCode, -, h⟩ := Option.bind_eq_some_iff.1 h
  obtain ⟨faultName, hname, h⟩ := Option.bind_eq_some_iff.1 h
  obtain ⟨faultValue, -, h⟩ := Option.bind_eq_some_iff.1 h
  obtain ⟨faultDescription, -, rfl⟩ := Option.map_eq_some_iff.1 h
  obtain ⟨str, -, rfl⟩ := Option.map_eq_some_iff.1 hname
  rfl

/-- The first record of a fault log. -/
theorem faultLog_first {mem : NewMem} {a d : FaultLog} (hrecords : elementsOf obj "faultRecords" ≠ [])
    (h : runSteps floatTime mem obj (newTlv .faultLog a) (procSteps .faultLog) = some d) :
    d.faultRecords.head?.map (·.faultName.lengthField) = some (mem.faultRecord 0).faultName.lengthField := by
  obtain ⟨d₁, hstep, h⟩ := Option.bind_eq_some_iff.1 h
  obtain ⟨d₂, hstep', h⟩ := Option.bind_eq_some_iff.1 h
  obtain ⟨number, -, rfl⟩ := Option.map_eq_some_iff.1 hstep
  obtain ⟨records, hread, rfl⟩ := Option.map_eq_some_iff.1 hstep'
  cases h
  obtain ⟨elements, harr, hread⟩ := Option.bind_eq_some_iff.1 hread
  rw [elementsOf, harr, Option.getD_some] at hrecords
  obtain ⟨jval, rest, rfl⟩ := List.exists_cons_of_ne_nil hrecords
  obtain ⟨rec, hrec, hread⟩ := Option.bind_eq_some_iff.1 hread
  obtain ⟨more, rfl⟩ := procElements_prefix hread
  obtain ⟨o, -, ho⟩ := Option.bind_eq_some_iff.1 hrec
  exact congrArg some (procFaultRecord_kept ho)

/-- **What is never set is as the memory was.** -/
theorem depends_of_leavesUnset {id : MngId} (h : LeavesUnset id obj) : Depends floatTime obj id := by
  cases id
  case faultLog =>
    refine ⟨zeroMem, ⟨fun _ => default, fun _ => { (default : FaultRecord) with faultName := ⟨1, []⟩ }⟩,
      fun d hd hd' => ?_⟩
    have hfirst := (faultLog_first h hd).symm.trans (faultLog_first h hd')
    exact absurd hfirst (by decide)
  case clockDescription =>
    exact depends_of_unsetPart default { (default : ClockDescription) with userDescription := ⟨1, []⟩ }
      (by decide)
  case userDescription => exact depends_of_unsetPart default (UserDescription.mk ⟨1, []⟩) (by decide)
  case alternateTimeOffsetName =>
    exact depends_of_unsetPart default (AlternateTimeOffsetName.mk 0 ⟨1, []⟩) (by decide)
  case portPropertiesNp =>
    exact depends_of_unsetPart default { (default : PortPropertiesNp) with interface := ⟨1, []⟩ } (by decide)
  case portStatsNp =>
    exact depends_of_unsetPart default { (default : PortStatsNp) with rxMsgType := .replicate 16 1 } (by decide)
  all_goals exact h.elim

end JsonProcFrom

end PtpMgmt.Json
