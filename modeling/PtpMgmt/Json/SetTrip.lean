import PtpMgmt.Json.ReadBack

set_option autoImplicit false

/-! # A SET message in JSON

The TLV that `tlv2json` prints, given as the dataField of a SET message, is the TLV that `fromJson` makes of
the message. -/

namespace PtpMgmt.Json

/-! ## Steps -/

section Steps

variable {T : Type}

/-- What a step leaves, after the text of `d` is read. -/
def Step.put (mem : NewMem) (d acc : T) : Step T → T
  | .zeroFlag set => set acc 0
  | .proc _ type get set => set acc (type.back mem (get d) (get acc))

def Step.Regular (d : T) : Step T → Prop
  | .zeroFlag _ => True
  | .proc _ type get _ => type.Regular (get d)

def Step.Fits (d : T) : Step T → Prop
  | .zeroFlag _ => True
  | .proc _ type get _ => type.Fits (get d)

def Step.key : Step T → Option Text
  | .zeroFlag _ => none
  | .proc name _ _ _ => some (txt name)

theorem member_keys (d : T) (steps : List (Step T)) :
    (steps.filterMap (Step.member d)).map (fun m => txt m.1) = steps.filterMap Step.key := by
  induction steps with
  | nil => rfl
  | cons step steps ih =>
      cases step with
      | zeroFlag set => rw [List.filterMap_cons_none rfl, List.filterMap_cons_none rfl, ih]
      | proc name type get set =>
          have hmember : Step.member d (.proc name type get set) = some (name, type.doc (get d)) := rfl
          have hkey : Step.key (.proc name type get set) = some (txt name) := rfl
          rw [List.filterMap_cons_some hmember, List.filterMap_cons_some hkey, List.map_cons, ih]

/-- **The steps read what they printed**, one after the other. -/
theorem runSteps_back (floatTime : Text → Option Timestamp) (mem : NewMem) {obj : Members} {d : T}
    {steps : List (Step T)}
    (hreg : ∀ step ∈ steps, step.Regular d) (hfit : ∀ step ∈ steps, step.Fits d)
    (hmember : ∀ m ∈ steps.filterMap (Step.member d), findMember obj (txt m.1) = some m.2.value) (acc : T) :
    JsonProcFrom.runSteps floatTime mem obj acc steps =
      some (steps.foldl (fun acc step => step.put mem d acc) acc) := by
  induction steps generalizing acc with
  | nil => rfl
  | cons step steps ih =>
      have hstep : JsonProcFrom.procStep floatTime mem obj acc step = some (step.put mem d acc) := by
        cases step with
        | zeroFlag set => rfl
        | proc name type get set =>
            have hfield := JsonProcFrom.procField_back floatTime mem (hreg _ List.mem_cons_self)
              (hfit _ List.mem_cons_self) (hmember (name, type.doc (get d)) (by simp [Step.member])) (get acc)
            rw [JsonProcFrom.procStep, hfield]
            rfl
      have hrest := ih (fun s hs => hreg s (List.mem_cons_of_mem step hs))
        (fun s hs => hfit s (List.mem_cons_of_mem step hs))
        (fun m hm => hmember m (List.mem_filterMap.2
          ((List.mem_filterMap.1 hm).imp fun s hs => ⟨List.mem_cons_of_mem step hs.1, hs.2⟩)))
        (step.put mem d acc)
      rw [JsonProcFrom.runSteps, hstep, Option.bind_some, hrest, List.foldl_cons]

end Steps

/-- The names of the fields of a TLV are all different. -/
theorem procSteps_nodup (id : MngId) : ((procSteps id).filterMap Step.key).Nodup := by
  cases id <;> decide +kernel

/-! ## TLVs -/

/-- Flags that only use named bits. -/
def OnlyNamed (flags mask : UInt8) : Prop := flags &&& mask = flags

/-- The bits of the events that have a name, in each octet. -/
def eventsMask (i : Fin 64) : UInt8 := if i = 0 then 0xf else 0

/-- The flags and the events of a TLV only use named bits. -/
def NamedBits : (id : MngId) → Tlv id → Prop
  | .defaultDataSet, d => OnlyNamed d.flags DefaultDataSet.flagsMask
  | .parentDataSet, d => OnlyNamed d.flags ParentDataSet.flagsMask
  | .timePropertiesDataSet, d => OnlyNamed d.flags TimePropertiesDataSet.flagsMask
  | .slaveOnly, d => OnlyNamed d.flags SlaveOnly.flagsMask
  | .utcProperties, d => OnlyNamed d.flags UtcProperties.flagsMask
  | .traceabilityProperties, d => OnlyNamed d.flags TraceabilityProperties.flagsMask
  | .timescaleProperties, d => OnlyNamed d.flags TimescaleProperties.flagsMask
  | .unicastNegotiationEnable, d => OnlyNamed d.flags UnicastNegotiationEnable.flagsMask
  | .pathTraceEnable, d => OnlyNamed d.flags PathTraceEnable.flagsMask
  | .acceptableMasterTableEnabled, d => OnlyNamed d.flags AcceptableMasterTableEnabled.flagsMask
  | .alternateMaster, d => OnlyNamed d.flags AlternateMaster.flagsMask
  | .alternateTimeOffsetEnable, d => OnlyNamed d.flags AlternateTimeOffsetEnable.flagsMask
  | .transparentClockPortDataSet, d => OnlyNamed d.flags TransparentClockPortDataSet.flagsMask
  | .externalPortConfigurationEnabled, d => OnlyNamed d.flags ExternalPortConfigurationEnabled.flagsMask
  | .masterOnly, d => OnlyNamed d.flags MasterOnly.flagsMask
  | .holdoverUpgradeEnable, d => OnlyNamed d.flags HoldoverUpgradeEnable.flagsMask
  | .extPortConfigPortDataSet, d => OnlyNamed d.flags ExtPortConfigPortDataSet.flagsMask
  | .grandmasterSettingsNp, d => OnlyNamed d.flags GrandmasterSettingsNp.flagsMask
  | .subscribeEventsNp, d => ∀ i, OnlyNamed (d.bitmask.get i) (eventsMask i)
  | _, _ => True

def withoutLength (val : PTPText) : PTPText := { val with lengthField := 0 }

/-- A TLV without the lengths of its texts. -/
def withoutLengths : (id : MngId) → Tlv id → Tlv id
  | .clockDescription, d =>
    { d with
      physicalLayerProtocol := withoutLength d.physicalLayerProtocol
      productDescription := withoutLength d.productDescription
      revisionData := withoutLength d.revisionData
      userDescription := withoutLength d.userDescription }
  | .userDescription, d => { d with userDescription := withoutLength d.userDescription }
  | .faultLog, d =>
    { d with
      faultRecords := d.faultRecords.map fun rec =>
        { rec with
          faultName := withoutLength rec.faultName
          faultValue := withoutLength rec.faultValue
          faultDescription := withoutLength rec.faultDescription } }
  | .alternateTimeOffsetName, d => { d with displayName := withoutLength d.displayName }
  | .portPropertiesNp, d => { d with interface := withoutLength d.interface }
  | _, d => d

/-- The flags that are read, one after the other. -/
def readFlags (flags : UInt8) (masks : List UInt8) : UInt8 :=
  masks.foldl (fun acc mask => readFlag flags mask acc) 0

/-- The flags of the settable TLVs: all of them, and each of them. -/
def settableMasks : List (UInt8 × List UInt8) :=
  [(0x1, [0x1]), (0x8, [0x8]), (0x7, [0x1, 0x2, 0x4]), (0x30, [0x10, 0x20]),
   (0x3f, [0x1, 0x2, 0x4, 0x8, 0x10, 0x20]), (0xf, [0x1, 0x2, 0x4, 0x8])]

/-- **Named bits are read back.** -/
theorem readFlags_named {flags mask : UInt8} {masks : List UInt8} (hmasks : (mask, masks) ∈ settableMasks)
    (h : OnlyNamed flags mask) : readFlags flags masks = flags := by
  have hall : ∀ p ∈ settableMasks, ∀ n : Fin 256, UInt8.ofNat n.val &&& p.1 = UInt8.ofNat n.val →
      readFlags (UInt8.ofNat n.val) p.2 = UInt8.ofNat n.val := by
    decide +kernel
  have hflags := hall _ hmasks ⟨flags.toNat, flags.toNat_lt⟩
  rw [UInt8.ofNat_toNat] at hflags
  exact hflags h

/-- The TLV that is read of the text of `d`. -/
def readTlv (mem : NewMem) (id : MngId) (d : Tlv id) : Tlv id :=
  (procSteps id).foldl (fun acc step => step.put mem d acc) (newTlv id (mem.tlv id))

theorem one_mem : (0x1, [0x1]) ∈ settableMasks := List.mem_cons_self

theorem scale_mem : (0x8, [0x8]) ∈ settableMasks := by decide

theorem utc_mem : (0x7, [0x1, 0x2, 0x4]) ∈ settableMasks := by decide

theorem trace_mem : (0x30, [0x10, 0x20]) ∈ settableMasks := by decide

theorem all_mem : (0x3f, [0x1, 0x2, 0x4, 0x8, 0x10, 0x20]) ∈ settableMasks := by decide

theorem events_mem : (0xf, [0x1, 0x2, 0x4, 0x8]) ∈ settableMasks := by decide

theorem zeros_get (i : Fin 64) : (Octets.ofList 64 []).get i = 0 := by
  have hall : ∀ i : Fin 64, (Octets.ofList 64 []).get i = 0 := by decide
  exact hall i

/-- The events with a name are in the first octet. -/
theorem readTlv_subscribeEventsNp (mem : NewMem) {d : SubscribeEventsNp} (h : NamedBits .subscribeEventsNp d) :
    readTlv mem .subscribeEventsNp d = d := by
  have hevents : divEvent notifyPortState = (0, 0x1) ∧ divEvent notifyTimeSync = (0, 0x2) ∧
      divEvent notifyParentDataSet = (0, 0x4) ∧ divEvent notifyCmlds = (0, 0x8) := by
    decide
  obtain ⟨duration, bitmask⟩ := d
  simp only [readTlv, newTlv, procSteps, procSubscribeEventsNp, eventStep, List.foldl_cons, List.foldl_nil, Step.put,
    ProcType.back, hevents, List.Vector.get_set_same]
  refine congrArg (SubscribeEventsNp.mk duration) (List.Vector.ext fun i => ?_)
  by_cases hi : i = 0
  · subst hi
    rw [List.Vector.get_set_same, zeros_get 0]
    exact readFlags_named events_mem (h 0)
  · have hzero := h i
    rw [OnlyNamed, eventsMask, if_neg hi, UInt8.and_zero] at hzero
    rw [List.Vector.get_set_of_ne (Ne.symm hi), List.Vector.get_set_of_ne (Ne.symm hi),
      List.Vector.get_set_of_ne (Ne.symm hi), List.Vector.get_set_of_ne (Ne.symm hi)]
    exact (zeros_get i).trans hzero

/-- **The TLV that is read is the one that was printed, up to the lengths of its texts.** -/
theorem readTlv_eq (mem : NewMem) {id : MngId} (hset : (mngAllVals id).allowed &&& aSet ≠ 0) {d : Tlv id}
    (h : NamedBits id d) : withoutLengths id (readTlv mem id d) = withoutLengths id d := by
  cases id with
  | slaveOnly => exact congrArg SlaveOnly.mk (readFlags_named one_mem h)
  | unicastNegotiationEnable => exact congrArg UnicastNegotiationEnable.mk (readFlags_named one_mem h)
  | pathTraceEnable => exact congrArg PathTraceEnable.mk (readFlags_named one_mem h)
  | acceptableMasterTableEnabled => exact congrArg AcceptableMasterTableEnabled.mk (readFlags_named one_mem h)
  | externalPortConfigurationEnabled => exact congrArg ExternalPortConfigurationEnabled.mk (readFlags_named one_mem h)
  | masterOnly => exact congrArg MasterOnly.mk (readFlags_named one_mem h)
  | holdoverUpgradeEnable => exact congrArg HoldoverUpgradeEnable.mk (readFlags_named one_mem h)
  | utcProperties => exact congrArg (UtcProperties.mk d.currentUtcOffset) (readFlags_named utc_mem h)
  | traceabilityProperties => exact congrArg TraceabilityProperties.mk (readFlags_named trace_mem h)
  | timescaleProperties =>
      exact congrArg (TimescaleProperties.mk · d.timeSource) (readFlags_named scale_mem h)
  | alternateMaster =>
      exact congrArg (AlternateMaster.mk · d.logAlternateMulticastSyncInterval d.numberOfAlternateMasters)
        (readFlags_named one_mem h)
  | alternateTimeOffsetEnable =>
      exact congrArg (AlternateTimeOffsetEnable.mk d.keyField) (readFlags_named one_mem h)
  | extPortConfigPortDataSet =>
      exact congrArg (ExtPortConfigPortDataSet.mk · d.desiredState) (readFlags_named one_mem h)
  | grandmasterSettingsNp =>
      simp only [readTlv, procSteps, procGrandmasterSettingsNp, List.foldl_cons, List.foldl_nil, Step.put,
        ProcType.back, withoutLengths]
      exact congrArg (GrandmasterSettingsNp.mk d.clockQuality d.currentUtcOffset · d.timeSource)
        (readFlags_named all_mem h)
  | subscribeEventsNp => exact readTlv_subscribeEventsNp mem h
  | _ => first | exact absurd (by decide) hset | rfl

/-! ## Documents -/

/-- White space around the name and the value of a member. -/
structure Spacing where
  before : Text
  afterName : Text
  beforeValue : Text
  after : Text
  before_spaces : Spaces before
  afterName_spaces : Spaces afterName
  beforeValue_spaces : Spaces beforeValue
  after_spaces : Spaces after

def Spacing.member (s : Spacing) (name : String) (value : Text) : Text :=
  s.before ++ quote (txt name) ++ s.afterName ++ chr ':' :: (s.beforeValue ++ value ++ s.after)

/-- The text of an object with these members. -/
def objectText (ms : List (Spacing × String × Text)) : Text :=
  leftCurly :: (sepBy (ms.map fun m => m.1.member m.2.1 m.2.2) ++ [rightCurly])

/-- The text stands for the value, white space in front apart. -/
def StandsFor (text : Text) (v : Value) : Prop := ∃ w t, Spaces w ∧ text = w ++ t ∧ Denotes t v

theorem StandsFor.unique {text : Text} {v v' : Value} (h : StandsFor text v) (h' : StandsFor text v') : v = v' := by
  obtain ⟨w, t, hw, rfl, ht⟩ := h
  obtain ⟨w', t', hw', heq, ht'⟩ := h'
  have hparse := ht.parseBuffer hw spaces_nil false
  have hparse' := ht'.parseBuffer hw' spaces_nil false
  rw [← heq, hparse, Option.some.injEq, Option.some.injEq] at hparse'
  exact hparse'

/-- What the members of an object text stand for. -/
theorem members_stand {ms : List (Spacing × String × Text)}
    (h : ∀ m ∈ ms, isName m.2.1 = true ∧ ∃ v, StandsFor m.2.2 v) :
    ∃ ms' : List Member, ms'.map Member.render = ms.map (fun m => m.1.member m.2.1 m.2.2) ∧
      (∀ m ∈ ms', m.Ok) ∧ (∀ m ∈ ms', Denotes m.text m.value) ∧
      List.Forall₂ (fun m m' => m'.key = txt m.2.1 ∧ StandsFor m.2.2 m'.value) ms ms' := by
  induction ms with
  | nil => exact ⟨[], rfl, by simp, by simp, .nil⟩
  | cons m ms ih =>
      obtain ⟨ms', hrender, hok, hdenotes, hall⟩ := ih fun x hx => h x (List.mem_cons_of_mem m hx)
      obtain ⟨hname, v, w, t, hw, htext, ht⟩ := h m List.mem_cons_self
      obtain ⟨s, name, text⟩ := m
      simp only at hname htext
      refine ⟨⟨s.before, txt name, txt name, s.afterName, s.beforeValue ++ w, t, v, s.after⟩ :: ms', ?_,
        ?_, ?_, ?_⟩
      · rw [List.map_cons, List.map_cons, hrender, Member.render, Spacing.member, htext]
        simp only [List.append_assoc]
      · intro x hx
        rcases List.mem_cons.1 hx with rfl | hx
        · exact ⟨s.before_spaces, strText_name hname, s.afterName_spaces, s.beforeValue_spaces.append hw,
            s.after_spaces⟩
        · exact hok x hx
      · intro x hx
        rcases List.mem_cons.1 hx with rfl | hx
        · exact ht
        · exact hdenotes x hx
      · exact .cons ⟨rfl, w, t, hw, htext, ht⟩ hall

/-- **An object text is read as an object with these members**: a name that stands once finds what its text
    stands for, and other names are not there. -/
theorem objectText_parse {ms : List (Spacing × String × Text)} (hne : ms ≠ [])
    (h : ∀ m ∈ ms, isName m.2.1 = true ∧ ∃ v, StandsFor m.2.2 v) (hnd : (ms.map fun m => txt m.2.1).Nodup) :
    ∃ mobj, parseBuffer false (objectText ms) = some (some (.obj mobj)) ∧
      (∀ m ∈ ms, ∀ v, StandsFor m.2.2 v → findMember mobj (txt m.2.1) = some v) ∧
      ∀ key, key ∉ ms.map (fun m => txt m.2.1) → count mobj key = 0 := by
  obtain ⟨ms', hrender, hok, hdenotes, hall⟩ := members_stand h
  have hkeys : ms'.map Member.key = ms.map fun m => txt m.2.1 := by
    clear hrender hok hdenotes h hnd hne
    induction hall with
    | nil => rfl
    | cons hm _ ih => rw [List.map_cons, List.map_cons, hm.1, ih]
  have hne' : ms' ≠ [] := by
    rintro rfl
    cases hall
    exact hne rfl
  have hparse := (Denotes.obj hne' hok hdenotes).parseBuffer spaces_nil spaces_nil false
  have hperm := insertAll_perm ms' []
  rw [List.append_nil] at hperm
  have hfst : (ms'.map Member.entry).map Prod.fst = ms.map fun m => txt m.2.1 := by
    rw [List.map_map, ← hkeys]
    rfl
  refine ⟨insertAll ms' [], ?_, ?_, ?_⟩
  · rw [List.nil_append, List.append_nil, hrender] at hparse
    exact hparse
  · intro m hm v hv
    obtain ⟨m', hm', hkey, hstands⟩ : ∃ m' ∈ ms', m'.key = txt m.2.1 ∧ StandsFor m.2.2 m'.value := by
      clear hrender hok hdenotes h hnd hne hkeys hne' hparse hperm hfst
      induction hall with
      | nil => cases hm
      | cons hx _ ih =>
          rcases List.mem_cons.1 hm with rfl | hm
          · exact ⟨_, List.mem_cons_self, hx⟩
          · obtain ⟨m', hm', hx'⟩ := ih hm
            exact ⟨m', List.mem_cons_of_mem _ hm', hx'⟩
    refine findMember_of_perm hperm (hfst ▸ hnd) (List.mem_map.2 ⟨m', hm', ?_⟩)
    rw [Member.entry, hkey, hstands.unique hv]
  · intro key hkey
    refine count_eq_zero fun hmem => hkey ?_
    rw [← hfst]
    exact (hperm.map _).mem_iff.1 hmem

/-! ## The round trip -/

/-- The fields of a TLV hold regular values, and its flags only named bits. -/
structure RegularTlv (id : MngId) (d : Tlv id) : Prop where
  fields : ∀ step ∈ procSteps id, step.Regular d
  bits : NamedBits id d

/-- The timestamps of a TLV fit. -/
def TlvFits (id : MngId) (d : Tlv id) : Prop := ∀ step ∈ procSteps id, step.Fits d

/-- The members of a SET message. -/
def setMembers (id : MngId) (d : Tlv id) (indent : Nat) : List (String × Text) :=
  [("actionField", quote (txt "SET")), ("managementId", quote id.str),
   ("dataField", tlv2json (.mng id) (some (.tlv id d)) indent)]

theorem Step.texts_closes {T : Type} {d : T} {step : Step T} (h : step.Regular d) :
    ∀ t ∈ step.texts d, Closes t := by
  cases step with
  | zeroFlag set => simp [Step.texts]
  | proc name type get set =>
      intro t ht
      cases type with
      | ptpText =>
          rw [List.mem_singleton.1 ht]
          exact (Unescaped.strText h).closes
      | faultRecords =>
          obtain ⟨rec, hrec, ht⟩ := List.mem_flatMap.1 ht
          have hreg : rec.Regular := h rec hrec
          simp only [List.mem_cons, List.not_mem_nil, or_false] at ht
          rcases ht with rfl | rfl | rfl
          · exact hreg.faultName.strText.closes
          · exact hreg.faultValue.strText.closes
          · exact hreg.faultDescription.strText.closes
      | _ => cases ht

/-- The printed TLV stands for its document. -/
theorem tlv2json_stands {id : MngId} (hdata : isEmpty (.mng id) = false) {d : Tlv id}
    (hreg : RegularTlv id d) (indent : Nat) :
    StandsFor (tlv2json (.mng id) (some (.tlv id d)) indent)
      (.obj (membersValue [] ((procSteps id).filterMap (Step.member d)))) := by
  have hmembers : dataMembers (.mng id) (.tlv id d) = (procSteps id).filterMap (Step.member d) := by
    rw [dataMembers, BaseMngTlv.cast?_tlv]
  have hgood : MembersGood (dataMembers (.mng id) (.tlv id d)) := by
    refine (dataMembers_all fixed_good (.mng id) (.tlv id d)).2 ?_
    intro t ht
    rw [dataTexts, BaseMngTlv.cast?_tlv] at ht
    obtain ⟨step, hstep, ht⟩ := List.mem_flatMap.1 ht
    exact Step.texts_closes (hreg.fields step hstep) t ht
  have hdenotes := Doc.denotes (.obj (dataMembers (.mng id) (.tlv id d))) (dataMembers_named _ _) hgood indent
  rw [Doc.value, hmembers] at hdenotes
  exact ⟨spaces indent, _, spaces_spec indent, by rw [tlv2json_eq hdata, hmembers], hdenotes⟩

theorem str_stands {t : Text} (h : t.all isSelf = true) : StandsFor (quote t) (.str t) :=
  ⟨[], quote t, spaces_nil, rfl, .str (strText_isSelf h)⟩

/-- A name as one number, so that names are compared at once. -/
def nameCode (t : Text) : Nat := t.foldl (fun n c => n * 256 + c.toNat) 0

theorem mngStr_injective : Function.Injective MngId.str := by
  have hcodes : (MngId.all.map fun id => nameCode id.str).Nodup := by
    simp only [MngId.all, List.map_cons, List.map_nil, MngId.str]
    repeat rw [txt_ofList]
    decide +kernel
  intro i j hij
  exact List.inj_on_of_nodup_map hcodes i.mem_all j.mem_all (congrArg nameCode hij)

/-- Each id is found by its name. -/
theorem findMngID_str (id : MngId) :
    id.str ≠ [] ∧ (MngId.all.find? fun i => sameName true id.str i.str) = some id := by
  have hsame : ∀ i : MngId, sameName true id.str i.str = true ↔ i = id := by
    intro i
    rw [sameName, if_pos rfl, cStr_isSelf (mngStr_self id), beq_iff_eq, mngStr_injective.eq_iff]
    exact eq_comm
  refine ⟨?_, ?_⟩
  · cases id <;> (rw [MngId.str, txt_ofList]; decide)
  · cases hfind : MngId.all.find? fun i => sameName true id.str i.str with
    | none =>
      have hnone := List.find?_eq_none.1 hfind id id.mem_all
      exact absurd ((hsame id).2 rfl) hnone
    | some i =>
      have hi := List.find?_some hfind
      rw [(hsame i).1 hi]

/-- A settable id with a dataField has a codec. -/
theorem func_ne_na {id : MngId} (hset : (mngAllVals id).allowed &&& aSet ≠ 0)
    (hdata : isEmpty (.mng id) = false) : (mngAllVals id).func ≠ .na := by
  cases id <;> first | exact absurd (by decide) hset | exact absurd hdata (by decide) | decide

namespace Json2msg

/-- **The TLV of a SET message is read as it was printed, up to the lengths of its texts**, whatever the memory
    of it holds. -/
theorem fromJson_tlv2json (floatTime : Text → Option Timestamp) (mem : NewMem) (j : Json2msg) {id : MngId}
    (hset : (mngAllVals id).allowed &&& aSet ≠ 0) (hdata : isEmpty (.mng id) = false) {d : Tlv id}
    (hreg : RegularTlv id d) (hfit : TlvFits id d) (indent : Nat) {ms : List (Spacing × String × Text)}
    (hms : (ms.map Prod.snd).Perm (setMembers id d indent)) :
    ∃ d', fromJson floatTime mem j (objectText ms) =
        (true, { j with tlvData := some (.tlv id d'), managementId := id, action := .set }) ∧
      withoutLengths id d' = withoutLengths id d := by
  refine ⟨readTlv mem id d, ?_, readTlv_eq mem hset hreg.bits⟩
  have hsetSelf : (txt "SET").all isSelf = true := by decide
  -- the three members of the document, in any order and with any white space
  have hnames : [txt "actionField", txt "managementId", txt "dataField"].Nodup := by decide
  have hkeys : (ms.map fun m => txt m.2.1).Perm [txt "actionField", txt "managementId", txt "dataField"] := by
    have hmap := hms.map fun m => txt m.1
    rw [List.map_map] at hmap
    exact hmap
  have hstand : ∀ m ∈ setMembers id d indent, isName m.1 = true ∧ ∃ v, StandsFor m.2 v := by
    intro m hm
    simp only [setMembers, List.mem_cons, List.not_mem_nil, or_false] at hm
    rcases hm with rfl | rfl | rfl
    · exact ⟨isName_ofList _ (by decide), _, str_stands hsetSelf⟩
    · exact ⟨isName_ofList _ (by decide), _, str_stands (mngStr_self id)⟩
    · exact ⟨isName_ofList _ (by decide), _, tlv2json_stands hdata hreg indent⟩
  have hne : ms ≠ [] := by
    rintro rfl
    exact List.cons_ne_nil _ _ (List.Perm.nil_eq hms).symm
  obtain ⟨mobj, hparse, hfind, hcount⟩ := objectText_parse hne
    (fun m hm => hstand m.2 (hms.mem_iff.1 (List.mem_map.2 ⟨m, hm, rfl⟩)))
    (hkeys.nodup_iff.2 hnames)
  have hmember : ∀ (name : String) {text : Text} {v : Value}, (name, text) ∈ setMembers id d indent →
      StandsFor text v → findMember mobj (txt name) = some v := by
    intro name text v hmem hv
    obtain ⟨m, hm, heq⟩ := List.mem_map.1 (hms.mem_iff.2 hmem)
    have hfound := hfind m hm v (by rw [heq]; exact hv)
    rwa [heq] at hfound
  have hzero : ∀ key : String, txt key ∉ [txt "actionField", txt "managementId", txt "dataField"] →
      count mobj (txt key) = 0 :=
    fun key hkey => hcount _ fun hmem => hkey (hkeys.mem_iff.1 hmem)
  -- what the document does not name stays as it was
  have hleft : ∀ {α : Type} {key : String} {given : Option α} {old : Opt α},
      txt key ∉ [txt "actionField", txt "managementId", txt "dataField"] →
        OptField mobj key given old old := by
    intro α key given old hkey
    rw [OptField, if_neg (by rw [hzero key hkey]; decide)]
  have haction : actionOf mobj = some .set := by
    have hval := getVal_back (hmember "actionField" (by simp [setMembers]) (str_stands hsetSelf)) rfl
    have hnonempty : txt "SET" ≠ [] := by decide
    have hget : txt "SET" ≠ txt "GET" := by decide
    rw [actionOf, testMand, hval]
    simp only [if_neg hnonempty, Option.bind_some, if_neg hget, if_true]
  have hid : managementIdOf mobj = some id := by
    have hval := getVal_back (hmember "managementId" (by simp [setMembers]) (str_stands (mngStr_self id))) rfl
    rw [managementIdOf, testMand, hval]
    simp only [if_neg (findMngID_str id).1, Option.bind_some, (findMngID_str id).2]
  have hobj : getObj mobj (txt "dataField") =
      some (membersValue [] ((procSteps id).filterMap (Step.member d))) := by
    rw [getObj, hmember "dataField" (by simp [setMembers]) (tlv2json_stands hdata hreg indent)]
    rfl
  -- the fields are read back one step after the other
  have hproc : JsonProcFrom.procData floatTime mem
      (membersValue [] ((procSteps id).filterMap (Step.member d))) id = some (.tlv id (readTlv mem id d)) := by
    rw [JsonProcFrom.procData, if_neg (func_ne_na hset hdata), runSteps_back floatTime mem hreg.fields hfit]
    · rfl
    · intro m hm
      refine findMember_membersValue ?_ hm
      rw [member_keys]
      exact procSteps_nodup id
  have hdataOk : OptData mobj floatTime mem .set id j.tlvData (some (.tlv id (readTlv mem id d))) := by
    rw [OptData, if_neg (by rw [hdata]; decide)]
    exact ⟨haveData_obj hobj, _, _, hobj, hproc, rfl⟩
  rw [fromJson, hparse]
  refine runParts_iff.2 ⟨.inr (hzero _ ?_), .inr (hzero _ ?_), haction, hid, hleft ?_, hleft ?_, hleft ?_,
    hleft ?_, hleft ?_, hleft ?_, hleft ?_, hleft ?_, hleft ?_, hdataOk⟩
  all_goals decide

/-- The members of a SET message of TIME, without white space between them. -/
def setTime (currentTime : Timestamp) : List (Spacing × String × Text) :=
  (setMembers .time ⟨currentTime⟩ 0).map
    (⟨[], [], [], [], spaces_nil, spaces_nil, spaces_nil, spaces_nil⟩, ·)

theorem setTime_members (currentTime : Timestamp) :
    ((setTime currentTime).map Prod.snd).Perm (setMembers .time ⟨currentTime⟩ 0) := by
  rw [setTime, List.map_map]
  exact List.Perm.refl _

theorem regular_time {currentTime : Timestamp} (h : currentTime.Regular) :
    RegularTlv .time ⟨currentTime⟩ := by
  refine ⟨?_, trivial⟩
  intro step hstep
  rw [List.mem_singleton.1 hstep]
  exact h

theorem fromJson_tlv2json_time : ∃ d',
    fromJson (fun _ => none) zeroMem init (objectText (setTime ⟨1, 5⟩)) =
        (true, { init with tlvData := some (.tlv .time d'), managementId := .time, action := .set }) ∧
      withoutLengths .time d' = ⟨⟨1, 5⟩⟩ :=
  fromJson_tlv2json (fun _ => none) zeroMem init (by decide) (by decide) (regular_time ⟨by decide, by decide⟩)
    (fun step hstep => by rw [List.mem_singleton.1 hstep]; exact show (1 : UInt64).toNat < 2 ^ 63 by decide) 0
    (setTime_members _)

/-- Seconds of 2^63 are read as one less. -/
theorem fromJson_tlv2json_clamps :
    ¬ ∀ (floatTime : Text → Option Timestamp) (mem : NewMem) (j : Json2msg) (id : MngId) (d : Tlv id)
        (indent : Nat) (ms : List (Spacing × String × Text)),
      (mngAllVals id).allowed &&& aSet ≠ 0 → isEmpty (.mng id) = false → RegularTlv id d →
      (ms.map Prod.snd).Perm (setMembers id d indent) →
        ∃ d', fromJson floatTime mem j (objectText ms) =
            (true, { j with tlvData := some (.tlv id d'), managementId := id, action := .set }) ∧
          withoutLengths id d' = withoutLengths id d := by
  intro h
  obtain ⟨d', hread, heq⟩ := h (fun _ => none) zeroMem init .time ⟨⟨0x8000000000000000, 0⟩⟩ 0
    (setTime ⟨0x8000000000000000, 0⟩) (by decide) (by decide) (regular_time ⟨by decide, by decide⟩)
    (setTime_members _)
  have hseconds : ((fromJson (fun _ => none) zeroMem init (objectText (setTime ⟨0x8000000000000000, 0⟩))).2.tlvData.bind
      (·.cast? .time)).map (·.currentTime.secondsField) = some 0x7fffffffffffffff := by
    decide +kernel
  have hsame : d' = ⟨⟨0x8000000000000000, 0⟩⟩ := heq
  rw [hread, hsame, Option.bind_some, BaseMngTlv.cast?_tlv, Option.map_some, Option.some.injEq] at hseconds
  exact absurd hseconds (by decide)

end Json2msg

end PtpMgmt.Json
