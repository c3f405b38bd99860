import PtpMgmt.Json.Docs

set_option autoImplicit false

/-! # Printed messages are JSON

All that is printed is JSON of itself, apart from the texts, which are printed as they came, and the floats
that are no numbers. -/

namespace PtpMgmt.Json

/-! ## Numbers -/

theorem timestamp_isNum (val : Timestamp) : IsNum val.str (decimal val.secondsField.toNat).length := by
  have htext := numText_frac false val.secondsField.toNat (decimalPad_digits 9 val.nanosecondsField.toNat)
    (by simp [decimalPad, decimal_ne_nil])
  exact htext

/-- The names of a float that is no number. -/
def isNoNum (t : Text) : Prop := ∃ neg nan : Bool, t = sign neg ++ if nan then txt "nan" else txt "inf"

theorem getNum_noNum : ∀ neg nan : Bool,
    getNum (sign neg ++ if nan then txt "nan" else txt "inf") = none := by
  have hnone : ∀ neg nan : Bool,
      (getNum (sign neg ++ if nan then txt "nan" else txt "inf")).isSome = false := by
    decide +kernel
  intro neg nan
  simpa using hnone neg nan

theorem isNoNum.not_isNum {t : Text} (h : isNoNum t) (dotLoc : Nat) : ¬ IsNum t dotLoc := by
  obtain ⟨neg, nan, rfl⟩ := h
  intro hnum
  obtain ⟨st, hscan, -⟩ := hnum.scan [] (.inl rfl)
  rw [List.append_nil, getNum_noNum] at hscan
  cases hscan

theorem double_isNum {val : Float64} (h : finite val = true) : IsNum (decimalDouble val) (doubleDot val) := by
  rw [decimalDouble, doubleDot, if_pos h, if_pos h, ← List.append_assoc]
  refine numText_frac _ _ (decimalPad_digits 6 _) ?_
  simp [decimalPad, decimal_ne_nil]

theorem double_isNoNum {val : Float64} (h : ¬ finite val = true) : isNoNum (decimalDouble val) := by
  rw [decimalDouble, if_neg h]
  split
  · exact ⟨_, false, rfl⟩
  · exact ⟨_, true, rfl⟩

/-- A float is a number exactly when it is finite. -/
theorem double_isNum_iff (val : Float64) : IsNum (decimalDouble val) (doubleDot val) ↔ finite val = true := by
  refine ⟨fun hnum => ?_, double_isNum⟩
  by_contra hfin
  exact (double_isNoNum hfin).not_isNum _ hnum

/-! ## Fixed strings -/

/-- The characters that stand for themselves. -/
def isSelf (c : UInt8) : Bool := c != 0 && c != chr '"' && c != chr '\\' && decide (c < 0x80)

theorem isSelf_spec {c : UInt8} (h : isSelf c = true) :
    c ≠ 0 ∧ c ≠ chr '"' ∧ c ≠ chr '\\' ∧ isCont c = false ∧ contCount c = 0 := by
  simp only [isSelf, Bool.and_eq_true, bne_iff_ne, decide_eq_true_eq] at h
  obtain ⟨⟨⟨h0, hq⟩, hb⟩, hlow⟩ := h
  exact ⟨h0, hq, hb, ascii_alone hlow⟩

theorem strText_isSelf {t : Text} (h : t.all isSelf = true) : StrText t t :=
  strText_self fun c hc => isSelf_spec (List.all_eq_true.1 h c hc)

theorem closes_isSelf {t : Text} (h : t.all isSelf = true) : Closes t := (strText_isSelf h).closes

theorem tlv2str_self (val : TlvType) : (tlv2str val).all isSelf = true := by
  cases val <;> (rw [tlv2str, txt_ofList]; decide)

theorem act2str_self (val : ActionField) : (act2str val).all isSelf = true := by
  cases val <;> (rw [act2str, txt_ofList]; decide)

theorem mngStr_self (id : MngId) : id.str.all isSelf = true := by
  cases id <;> (rw [MngId.str, txt_ofList]; decide)

theorem mngValsStr_self (val : MngVals) :
    (if val = .smpteMngId then txt "SMPTE_MNG_ID" else mng2str val).all isSelf = true := by
  cases val with
  | mng id => exact mngStr_self id
  | lastMngId =>
      rw [if_neg (by simp), mng2str, txt_ofList]
      · decide
      · simp
  | smpteMngId =>
      rw [if_pos rfl, txt_ofList]
      decide

theorem type2str_self (val : MsgType) : (type2str val).all isSelf = true := by
  unfold type2str
  split <;> (rw [txt_ofList]; decide)

theorem errId2str_self (val : ManagementErrorId) : (errId2str val).all isSelf = true := by
  unfold errId2str
  split <;> (rw [txt_ofList]; decide)

theorem netProt2str_self (val : NetworkProtocol) : (netProt2str val).all isSelf = true := by
  unfold netProt2str
  split <;> (rw [txt_ofList]; decide)

theorem clockAcc2str_self (val : ClockAccuracyE) : (clockAcc2str val).all isSelf = true := by
  unfold clockAcc2str
  repeat' split
  all_goals (rw [txt_ofList]; decide)

theorem faultRec2str_self (val : FaultRecordE) : (faultRec2str val).all isSelf = true := by
  unfold faultRec2str
  split <;> (rw [txt_ofList]; decide)

theorem timeSrc2str_self (val : TimeSource) : (timeSrc2str val).all isSelf = true := by
  unfold timeSrc2str
  split <;> (rw [txt_ofList]; decide)

theorem portState2str_self (val : PortState) : (portState2str val).all isSelf = true := by
  unfold portState2str
  split <;> (rw [txt_ofList]; decide)

theorem delayMech2str_self (val : DelayMechanismE) : (delayMech2str val).all isSelf = true := by
  unfold delayMech2str
  split <;> (rw [txt_ofList]; decide)

theorem smpteLck2str_self (val : SMPTEmasterLockingStatus) : (smpteLck2str val).all isSelf = true := by
  unfold smpteLck2str
  split <;> (rw [txt_ofList]; decide)

theorem ts2str_self (val : LinuxptpTimeStamp) : (ts2str val).all isSelf = true := by
  unfold ts2str
  split <;> (rw [txt_ofList]; decide)

theorem pwr2str_self (val : LinuxptpPowerProfileVersion) : (pwr2str val).all isSelf = true := by
  unfold pwr2str
  split <;> (rw [txt_ofList]; decide)

theorem us2str_self (val : LinuxptpUnicastState) : (us2str val).all isSelf = true := by
  unfold us2str
  split <;> (rw [txt_ofList]; decide)

theorem clockAccuracyStr_self (val : ClockAccuracyE) :
    (if val < accurateWithin1ps then txt "0x" ++ (Nat.toDigits 16 val.toNat).map chr
      else clockAcc2str val).all isSelf = true := by
  split
  · next hlt =>
      have hall : ∀ n : Fin 0x17, (txt "0x" ++ (Nat.toDigits 16 n.val).map chr).all isSelf = true := by
        decide
      exact hall ⟨val.toNat, hlt⟩
  · exact clockAcc2str_self val

theorem hexOctet_self (b : UInt8) : (hexOctet b).all isSelf = true := by
  refine List.all_eq_true.2 fun c hc => ?_
  obtain ⟨d, rfl⟩ := exists_hexDigit hc
  clear hc
  revert d
  decide

theorem flatMap_self {f : UInt8 → Text} (h : ∀ b, (f b).all isSelf = true) (bs : List UInt8) :
    (bs.flatMap f).all isSelf = true := by
  rw [List.all_flatMap]
  exact List.all_eq_true.2 fun b _ => h b

theorem toId_self (val : Binary) : (Binary.toId val).all isSelf = true := by
  cases val with
  | nil => rfl
  | cons b bs =>
      have hrest : ∀ b, (chr ':' :: hexOctet b).all isSelf = true := by
        intro b
        rw [List.all_cons, hexOctet_self]
        decide
      rw [Binary.toId, List.all_append, hexOctet_self, flatMap_self hrest]
      rfl

theorem clockIdentityStr_self (val : ClockIdentity) : val.str.all isSelf = true := by
  have hdot : isSelf (chr '.') = true := by decide
  simp [ClockIdentity.str, List.all_append, flatMap_self hexOctet_self, hdot]

/-! ## Texts and floats -/

/-- The texts of a field: those are printed as they came. -/
def ProcType.texts : (type : ProcType) → type.Val → List Text
  | .ptpText, val => [val.textField]
  | .faultRecords, val =>
    val.flatMap fun rec => [rec.faultName.textField, rec.faultValue.textField, rec.faultDescription.textField]
  | _, _ => []

def Step.texts {T : Type} (d : T) : Step T → List Text
  | .zeroFlag _ => []
  | .proc _ type get _ => type.texts (get d)

/-- The texts of a TLV that is taken for one of the id. -/
def dataTexts (managementId : MngVals) (tlv : BaseMngTlv) : List Text :=
  match managementId with
  | .mng id =>
    match tlv.cast? id with
    | some d => (procSteps id).flatMap (Step.texts d)
    | none => []
  | _ => []

def optDataTexts (managementId : MngVals) : Option BaseMngTlv → List Text
  | none => []
  | some tlv => dataTexts managementId tlv

def sigTexts (mem : Option BaseMngTlv) : BaseSigTlv → List Text
  | .management d => optDataTexts (.mng d.managementId) (d.tlvData.deref mem)
  | .managementErrorStatus d => [d.displayData.textField]
  | .alternateTimeOffsetIndicator d => [d.displayName.textField]
  | _ => []

def sigFloats : BaseSigTlv → List Float64
  | .enhancedAccuracyMetrics d =>
    [d.varGmInaccuracy, d.varTransientInaccuracy, d.varDynamicInaccuracy, d.varStaticInstanceInaccuracy,
     d.varStaticMediumInaccuracy]
  | _ => []

/-- The signalling TLVs that are printed in full: those under a type of theirs. -/
def fullSigTlvs (tlvs : List (TlvType × BaseSigTlv)) : List BaseSigTlv :=
  (tlvs.filter fun tlv => tlv.2.types.contains tlv.1).map Prod.snd

def printedSigTlvs (m : Message) : List BaseSigTlv :=
  fullSigTlvs (if m.hdr.type = MsgType.signaling then if m.lastSig then m.sigTlvs else [] else [])

def managementTexts (mem : Option BaseMngTlv) (m : Message) : List Text :=
  match m.mngType with
  | .management => optDataTexts m.replayTlvId (m.dataGet.deref mem)
  | .managementErrorStatus => [m.errorDisplay.textField]
  | _ => []

/-- The texts of a message: of its data, of its error, or of its signalling TLVs. -/
def messageTexts (mem : Option BaseMngTlv) (m : Message) : List Text :=
  (if m.hdr.type = MsgType.management then managementTexts mem m else []) ++
    (printedSigTlvs m).flatMap (sigTexts mem)

def messageFloats (m : Message) : List Float64 := (printedSigTlvs m).flatMap sigFloats

/-! ## What holds of documents -/

/-- What holds of all that is printed apart from texts and floats. -/
structure Fixed (P : Text → Prop) (Q : Text → Nat → Prop) : Prop where
  self : ∀ {t : Text}, t.all isSelf = true → P t
  num : ∀ {t : Text} {dotLoc : Nat}, IsNum t dotLoc → Q t dotLoc

section

variable {P : Text → Prop} {Q : Text → Nat → Prop}

theorem membersAll_iff (ms : List (String × Doc)) : MembersAll P Q ms ↔ ∀ m ∈ ms, m.2.All P Q := by
  induction ms with
  | nil => simp [MembersAll]
  | cons m ms ih =>
      obtain ⟨name, d⟩ := m
      rw [MembersAll, ih, List.forall_mem_cons]

theorem elementsAll_iff (ds : List Doc) : ElementsAll P Q ds ↔ ∀ d ∈ ds, d.All P Q := by
  induction ds with
  | nil => simp [ElementsAll]
  | cons d ds ih => rw [ElementsAll, ih, List.forall_mem_cons]

theorem all_map {α : Type} {doc : α → Doc} {R : α → Prop} (h : ∀ a, (doc a).All P Q ↔ R a) (val : List α) :
    (Doc.arr (val.map doc)).All P Q ↔ ∀ a ∈ val, R a := by
  rw [Doc.All, elementsAll_iff]
  simp [h]

theorem bitDoc_all (flags bit : UInt8) : (bitDoc flags bit).All P Q := trivial

theorem flagDoc_all (flags mask : UInt8) : (flagDoc flags mask).All P Q := trivial

theorem membersAll_append (ms ms' : List (String × Doc)) :
    MembersAll P Q (ms ++ ms') ↔ MembersAll P Q ms ∧ MembersAll P Q ms' := by
  rw [membersAll_iff, membersAll_iff, membersAll_iff, List.forall_mem_append]

theorem doubleDoc_all (val : Float64) :
    (doubleDoc val).All P Q ↔ Q (decimalDouble val) (doubleDot val) := Iff.rfl

variable (hfix : Fixed P Q)

include hfix

theorem uintDoc_all (val : Nat) : (uintDoc val).All P Q := hfix.num (numText_int false val)

theorem intDoc_all (val : Int) : (intDoc val).All P Q := hfix.num (numText_int _ _)

theorem intervalDoc_all (val : TimeInterval) : (intervalDoc val).All P Q := intDoc_all hfix _

theorem timestampDoc_all (val : Timestamp) : (timestampDoc val).All P Q := hfix.num (timestamp_isNum val)

theorem all_str {t : Text} (h : t.all isSelf = true) : (Doc.str t).All P Q := by
  rw [Doc.All]
  exact hfix.self h

theorem clockAccuracyDoc_all (val : ClockAccuracyE) : (clockAccuracyDoc val).All P Q :=
  all_str hfix (clockAccuracyStr_self val)

theorem mngValsDoc_all (val : MngVals) : (mngValsDoc val).All P Q :=
  all_str hfix (mngValsStr_self val)

theorem portIdentityDoc_all (val : PortIdentity) : (portIdentityDoc val).All P Q := by
  simp [portIdentityDoc, Doc.All, MembersAll, uintDoc_all hfix, hfix.self, clockIdentityStr_self]

theorem clockQualityDoc_all (val : ClockQuality) : (clockQualityDoc val).All P Q := by
  simp [clockQualityDoc, Doc.All, MembersAll, uintDoc_all hfix, clockAccuracyDoc_all hfix]

theorem portAddressDoc_all (val : PortAddress) : (portAddressDoc val).All P Q := by
  simp [portAddressDoc, Doc.All, MembersAll, hfix.self, netProt2str_self, toId_self]

theorem faultRecordDoc_all (val : FaultRecord) : (faultRecordDoc val).All P Q ↔
    ∀ t ∈ [val.faultName.textField, val.faultValue.textField, val.faultDescription.textField], P t := by
  simp [faultRecordDoc, Doc.All, MembersAll, uintDoc_all hfix, timestampDoc_all hfix, hfix.self,
    faultRec2str_self]

theorem acceptableMasterDoc_all (val : AcceptableMaster) : (acceptableMasterDoc val).All P Q := by
  simp [acceptableMasterDoc, Doc.All, MembersAll, uintDoc_all hfix, portIdentityDoc_all hfix]

theorem linuxptpUnicastMasterDoc_all (val : LinuxptpUnicastMaster) : (linuxptpUnicastMasterDoc val).All P Q := by
  simp [linuxptpUnicastMasterDoc, Doc.All, MembersAll, uintDoc_all hfix, portIdentityDoc_all hfix,
    clockQualityDoc_all hfix, portAddressDoc_all hfix, hfix.self, us2str_self]

/-- A field is good when its texts close. -/
theorem ProcType.doc_all (type : ProcType) (val : type.Val) :
    (type.doc val).All P Q ↔ ∀ t ∈ type.texts val, P t := by
  have htrue : ∀ {d : Doc}, d.All P Q → (d.All P Q ↔ ∀ t ∈ ([] : List Text), P t) :=
    fun h => iff_of_true h (by simp)
  have harr : ∀ {α : Type} {doc : α → Doc} (val : List α), (∀ a, (doc a).All P Q) →
      (Doc.arr (val.map doc)).All P Q := fun val h => (all_map (fun a => iff_of_true (h a) trivial) val).2 (by simp)
  cases type with
  | uint8 => exact htrue (uintDoc_all hfix _)
  | uint16 => exact htrue (uintDoc_all hfix _)
  | uint32 => exact htrue (uintDoc_all hfix _)
  | uint64 => exact htrue (uintDoc_all hfix _)
  | int8 => exact htrue (intDoc_all hfix _)
  | int16 => exact htrue (intDoc_all hfix _)
  | int32 => exact htrue (intDoc_all hfix _)
  | int64 => exact htrue (intDoc_all hfix _)
  | networkProtocol => exact htrue (all_str hfix (netProt2str_self _))
  | clockAccuracy => exact htrue (clockAccuracyDoc_all hfix _)
  | faultRecord => exact htrue (all_str hfix (faultRec2str_self _))
  | timeSource => exact htrue (all_str hfix (timeSrc2str_self _))
  | portState => exact htrue (all_str hfix (portState2str_self _))
  | delayMechanism => exact htrue (all_str hfix (delayMech2str_self _))
  | linuxptpTimeStamp => exact htrue (all_str hfix (ts2str_self _))
  | linuxptpPowerProfileVersion => exact htrue (all_str hfix (pwr2str_self _))
  | linuxptpUnicastState => exact htrue (all_str hfix (us2str_self _))
  | timeInterval => exact htrue (intDoc_all hfix _)
  | timestamp => exact htrue (timestampDoc_all hfix _)
  | clockIdentity => exact htrue (all_str hfix (clockIdentityStr_self _))
  | portIdentity => exact htrue (portIdentityDoc_all hfix _)
  | portAddress => exact htrue (portAddressDoc_all hfix _)
  | clockQuality => exact htrue (clockQualityDoc_all hfix _)
  | ptpText =>
      rw [ProcType.doc, Doc.All, ProcType.texts]
      simp
  | binary => exact htrue (all_str hfix (toId_self _))
  | octets len => exact htrue (all_str hfix (toId_self _))
  | flag mask => exact htrue (flagDoc_all _ _)
  | clockIdentities => exact htrue (harr _ fun rec => all_str hfix (clockIdentityStr_self rec))
  | portAddresses => exact htrue (harr _ (portAddressDoc_all hfix))
  | faultRecords =>
      rw [ProcType.doc, all_map (faultRecordDoc_all hfix), ProcType.texts]
      simp only [List.mem_flatMap]
      constructor
      · rintro h t ⟨rec, hrec, ht⟩
        exact h rec hrec t ht
      · intro h rec hrec t ht
        exact h t ⟨rec, hrec, ht⟩
  | acceptableMasters => exact htrue (harr _ (acceptableMasterDoc_all hfix))
  | linuxptpUnicastMasters => exact htrue (harr _ (linuxptpUnicastMasterDoc_all hfix))

/-! ## Good messages -/

theorem steps_all {T : Type} (d : T) (steps : List (Step T)) :
    MembersAll P Q (steps.filterMap (Step.member d)) ↔ ∀ t ∈ steps.flatMap (Step.texts d), P t := by
  induction steps with
  | nil => simp [MembersAll]
  | cons step steps ih =>
      rw [List.flatMap_cons, List.forall_mem_append, ← ih]
      cases step with
      | zeroFlag set =>
          rw [List.filterMap_cons_none rfl]
          simp [Step.texts]
      | proc name type get set =>
          rw [Step.texts, ← ProcType.doc_all hfix]
          exact Iff.rfl

theorem dataMembers_all (managementId : MngVals) (tlv : BaseMngTlv) :
    MembersAll P Q (dataMembers managementId tlv) ↔ ∀ t ∈ dataTexts managementId tlv, P t := by
  have hnil : MembersAll P Q [] ↔ ∀ t ∈ ([] : List Text), P t := by simp [MembersAll]
  cases managementId with
  | mng id =>
      simp only [dataMembers, dataTexts]
      cases tlv.cast? id with
      | none => exact hnil
      | some d => exact steps_all hfix d (procSteps id)
  | lastMngId => exact hnil
  | smpteMngId => exact hnil

theorem dataFieldMembers_all (managementId : MngVals) (tlv : Option BaseMngTlv) :
    MembersAll P Q (dataFieldMembers managementId tlv) ↔ ∀ t ∈ optDataTexts managementId tlv, P t := by
  cases tlv with
  | none => simp [dataFieldMembers, optDataTexts, MembersAll]
  | some tlv => simp [dataFieldMembers, optDataTexts, MembersAll, Doc.All, dataMembers_all hfix]

theorem sigMembers_all (mem : Option BaseMngTlv) (tlv : BaseSigTlv) :
    MembersAll P Q (sigMembers mem tlv) ↔
      (∀ t ∈ sigTexts mem tlv, P t) ∧ ∀ f ∈ sigFloats tlv, Q (decimalDouble f) (doubleDot f) := by
  have hplain : ∀ {ms : List (String × Doc)}, MembersAll P Q ms → (MembersAll P Q ms ↔
      (∀ t ∈ ([] : List Text), P t) ∧ ∀ f ∈ ([] : List Float64), Q (decimalDouble f) (doubleDot f)) :=
    fun h => iff_of_true h (by simp)
  have harr : ∀ {α : Type} {doc : α → Doc} (val : List α), (∀ a, (doc a).All P Q) →
      ElementsAll P Q (val.map doc) := by
    intro α doc val h
    rw [elementsAll_iff]
    simpa using fun a _ => h a
  cases tlv with
  | management d =>
      simp [sigMembers, sigTexts, sigFloats, MembersAll, mngValsDoc_all hfix, dataFieldMembers_all hfix]
  | managementErrorStatus d =>
      simp [sigMembers, sigTexts, sigFloats, MembersAll, mngValsDoc_all hfix, Doc.All, hfix.self,
        errId2str_self]
  | organizationExtension d =>
      refine hplain ?_
      simp [sigMembers, organizationExtensionMembers, MembersAll, Doc.All, hfix.self, toId_self]
  | pathTrace d =>
      refine hplain ?_
      rw [sigMembers, MembersAll, Doc.All]
      exact ⟨harr _ fun rec => all_str hfix (clockIdentityStr_self rec), trivial⟩
  | alternateTimeOffsetIndicator d =>
      simp [sigMembers, sigTexts, sigFloats, MembersAll, uintDoc_all hfix, intDoc_all hfix, Doc.All]
  | enhancedAccuracyMetrics d =>
      simp [sigMembers, enhancedAccuracyMetricsMembers, sigTexts, sigFloats, MembersAll, uintDoc_all hfix,
        intervalDoc_all hfix, doubleDoc_all]
  | l1Sync d =>
      refine hplain ?_
      rw [sigMembers, l1SyncMembers, membersAll_append]
      refine ⟨by simp [MembersAll, bitDoc_all], ?_⟩
      split
      · simp [MembersAll, bitDoc_all, intervalDoc_all hfix, timestampDoc_all hfix]
      · trivial
  | portCommunicationAvailability d =>
      refine hplain ?_
      simp [sigMembers, availabilityDoc, MembersAll, Doc.All, bitDoc_all]
  | protocolAddress d =>
      refine hplain ?_
      simp [sigMembers, MembersAll, portAddressDoc_all hfix]
  | slaveRxSyncTimingData d =>
      refine hplain ?_
      simp only [sigMembers, MembersAll, Doc.All, portIdentityDoc_all hfix, true_and, and_true]
      refine harr _ fun rec => ?_
      simp [slaveRxSyncTimingDataDoc, Doc.All, MembersAll, uintDoc_all hfix, timestampDoc_all hfix,
        intervalDoc_all hfix, intDoc_all hfix]
  | slaveRxSyncComputedData d =>
      refine hplain ?_
      simp only [sigMembers, MembersAll, Doc.All, portIdentityDoc_all hfix, bitDoc_all, true_and, and_true]
      refine harr _ fun rec => ?_
      simp [slaveRxSyncComputedDataDoc, Doc.All, MembersAll, uintDoc_all hfix, intervalDoc_all hfix, intDoc_all hfix]
  | slaveTxEventTimestamps d =>
      refine hplain ?_
      simp only [sigMembers, MembersAll, Doc.All, portIdentityDoc_all hfix, true_and, and_true]
      refine ⟨hfix.self (type2str_self _), harr _ fun rec => ?_⟩
      simp [slaveTxEventTimestampsDoc, Doc.All, MembersAll, uintDoc_all hfix, timestampDoc_all hfix]
  | cumulativeRateRatio d =>
      refine hplain ?_
      simp [sigMembers, MembersAll, intDoc_all hfix]
  | slaveDelayTimingDataNp d =>
      refine hplain ?_
      simp only [sigMembers, MembersAll, Doc.All, portIdentityDoc_all hfix, true_and, and_true]
      refine harr _ fun rec => ?_
      simp [slaveDelayTimingDataNpDoc, Doc.All, MembersAll, uintDoc_all hfix, timestampDoc_all hfix,
        intervalDoc_all hfix]

theorem headerMembers_all (hdr : MsgHeader) : MembersAll P Q (headerMembers hdr) := by
  simp [headerMembers, MembersAll, uintDoc_all hfix, portIdentityDoc_all hfix, Doc.All, hfix.self, type2str_self]

theorem smpteDataMembers_all (tlv : Option BaseMngTlv) : MembersAll P Q (smpteDataMembers tlv) := by
  rcases tlv with _ | tlv | d
  · trivial
  · trivial
  · simp [smpteDataMembers, smpteMembers, MembersAll, uintDoc_all hfix, intDoc_all hfix, Doc.All, hfix.self,
      toId_self, smpteLck2str_self]

theorem managementMembers_all (mem : Option BaseMngTlv) (m : Message) :
    MembersAll P Q (managementMembers mem m) ↔ ∀ t ∈ managementTexts mem m, P t := by
  have hfirst : MembersAll P Q [("actionField", .str (act2str m.replyAction)),
      ("tlvType", .str (tlv2str m.mngType)), ("managementId", mngValsDoc m.replayTlvId)] := by
    simp [MembersAll, Doc.All, hfix.self, act2str_self, tlv2str_self, mngValsDoc_all hfix]
  rw [managementMembers, membersAll_append, managementTexts]
  simp only [hfirst, true_and]
  cases m.mngType with
  | management => exact dataFieldMembers_all hfix _ _
  | managementErrorStatus => simp [MembersAll, Doc.All, hfix.self, errId2str_self]
  | organizationExtension =>
      refine iff_of_true ?_ (by simp)
      simp only
      split
      · exact smpteDataMembers_all hfix _
      · trivial
  | _ => simp [MembersAll]

theorem sigDoc_all (mem : Option BaseMngTlv) (tlv : TlvType × BaseSigTlv) :
    (sigDoc mem tlv).All P Q ↔
      if tlv.2.types.contains tlv.1 then MembersAll P Q (sigMembers mem tlv.2) else True := by
  rw [sigDoc, Doc.All, MembersAll]
  simp only [all_str hfix (tlv2str_self tlv.1), true_and]
  split
  · exact Iff.rfl
  · exact Iff.rfl

theorem sigDocs_all (mem : Option BaseMngTlv) (tlvs : List (TlvType × BaseSigTlv)) :
    ElementsAll P Q (tlvs.map (sigDoc mem)) ↔
      (∀ t ∈ (fullSigTlvs tlvs).flatMap (sigTexts mem), P t) ∧
        ∀ f ∈ (fullSigTlvs tlvs).flatMap sigFloats, Q (decimalDouble f) (doubleDot f) := by
  induction tlvs with
  | nil => simp [ElementsAll, fullSigTlvs]
  | cons tlv tlvs ih =>
      rw [List.map_cons, ElementsAll, ih, sigDoc_all hfix]
      by_cases hfull : tlv.2.types.contains tlv.1 = true
      · have hcons : fullSigTlvs (tlv :: tlvs) = tlv.2 :: fullSigTlvs tlvs := by
          rw [fullSigTlvs, List.filter_cons_of_pos (by exact hfull)]
          rfl
        rw [if_pos hfull, hcons, List.flatMap_cons, List.flatMap_cons, List.forall_mem_append,
          List.forall_mem_append, sigMembers_all hfix]
        exact and_and_and_comm
      · have hcons : fullSigTlvs (tlv :: tlvs) = fullSigTlvs tlvs := by
          rw [fullSigTlvs, List.filter_cons_of_neg (by exact hfull)]
          rfl
        rw [if_neg hfull, hcons, true_and]

/-- **A message is good when its texts close and its floats are numbers.** -/
theorem messageMembers_all (mem : Option BaseMngTlv) (m : Message) :
    MembersAll P Q (messageMembers mem m) ↔
      (∀ t ∈ messageTexts mem m, P t) ∧ ∀ f ∈ messageFloats m, Q (decimalDouble f) (doubleDot f) := by
  rw [messageMembers, membersAll_append, messageTexts, messageFloats, printedSigTlvs]
  simp only [headerMembers_all hfix, true_and]
  by_cases hmng : m.hdr.type = MsgType.management
  · have hsig : ¬ m.hdr.type = MsgType.signaling := by
      rw [hmng]
      decide
    rw [if_pos hmng, if_pos hmng, if_neg hsig, managementMembers_all hfix]
    simp [fullSigTlvs]
  · rw [if_neg hmng, if_neg hmng, List.nil_append]
    by_cases hsig : m.hdr.type = MsgType.signaling
    · rw [if_pos hsig, if_pos hsig, MembersAll, Doc.All, sigDocs_all hfix]
      exact and_iff_left trivial
    · rw [if_neg hsig, if_neg hsig]
      simp [MembersAll, fullSigTlvs]

end

/-! ## Names -/

theorem isName_ofList (l : List Char) (h : ((l.map chr).all isWord && !(l.map chr).isEmpty) = true) :
    isName (String.ofList l) = true := by
  rw [isName, txt_ofList]
  exact h

theorem membersNamed_nil : MembersNamed [] := trivial

theorem membersNamed_cons {name : String} {d : Doc} {ms : List (String × Doc)} (hname : isName name = true)
    (hd : d.Named) (hms : MembersNamed ms) : MembersNamed ((name, d) :: ms) := ⟨hname, hd, hms⟩

theorem membersNamed_append {ms ms' : List (String × Doc)} (h : MembersNamed ms) (h' : MembersNamed ms') :
    MembersNamed (ms ++ ms') := by
  induction ms with
  | nil => exact h'
  | cons m ms ih => exact ⟨h.1, h.2.1, ih h.2.2⟩

theorem named_obj {ms : List (String × Doc)} (h : MembersNamed ms) : (Doc.obj ms).Named := h

/-- An array of documents of one kind. -/
theorem named_map {α : Type} {doc : α → Doc} (h : ∀ a, (doc a).Named)
    (hopens : ∀ a, (doc a).Opens) (val : List α) : (Doc.arr (val.map doc)).Named := by
  rw [Doc.Named]
  induction val with
  | nil => trivial
  | cons a val ih => exact ⟨hopens a, h a, ih⟩

theorem hexOctet_word (b : UInt8) (r : Text) : isWord (peek (hexOctet b ++ r)) = true := by
  obtain ⟨d, hd⟩ := exists_hexDigit (b := b) (List.mem_cons_self)
  have hword : ∀ d : Fin 16, isWord (hexDigit d.val) = true := by decide
  rw [hexOctet, List.cons_append, peek_cons, hd]
  exact hword d

/-- A clock identity starts with a digit of its first octet. -/
theorem strDoc_opens (val : ClockIdentity) : (Doc.str val.str).Opens := by
  have hlen : val.v.toList.length = 8 := by simp
  obtain ⟨b, bs, hlist⟩ := List.exists_cons_of_length_eq_add_one hlen
  rw [Doc.Opens, ClockIdentity.str, hlist, List.take_succ_cons, List.flatMap_cons, List.append_assoc,
    List.append_assoc]
  exact hexOctet_word b _

theorem strDoc_named (val : ClockIdentity) : (Doc.str val.str).Named := trivial

theorem portIdentityDoc_named (val : PortIdentity) : (portIdentityDoc val).Named := by
  refine named_obj ?_
  repeat first
    | exact membersNamed_nil
    | refine membersNamed_cons (isName_ofList _ (by decide)) trivial ?_

theorem clockQualityDoc_named (val : ClockQuality) : (clockQualityDoc val).Named := by
  refine named_obj ?_
  repeat first
    | exact membersNamed_nil
    | refine membersNamed_cons (isName_ofList _ (by decide)) trivial ?_

theorem portAddressDoc_named (val : PortAddress) : (portAddressDoc val).Named := by
  refine named_obj ?_
  repeat first
    | exact membersNamed_nil
    | refine membersNamed_cons (isName_ofList _ (by decide)) trivial ?_

theorem faultRecordDoc_named (val : FaultRecord) : (faultRecordDoc val).Named := by
  refine named_obj ?_
  repeat first
    | exact membersNamed_nil
    | refine membersNamed_cons (isName_ofList _ (by decide)) trivial ?_

theorem acceptableMasterDoc_named (val : AcceptableMaster) : (acceptableMasterDoc val).Named := by
  refine named_obj (membersNamed_cons (isName_ofList _ (by decide)) (portIdentityDoc_named _) ?_)
  exact membersNamed_cons (isName_ofList _ (by decide)) trivial membersNamed_nil

theorem linuxptpUnicastMasterDoc_named (val : LinuxptpUnicastMaster) : (linuxptpUnicastMasterDoc val).Named := by
  refine named_obj (membersNamed_cons (isName_ofList _ (by decide)) (portIdentityDoc_named _) ?_)
  refine membersNamed_cons (isName_ofList _ (by decide)) (clockQualityDoc_named _) ?_
  iterate 4 refine membersNamed_cons (isName_ofList _ (by decide)) trivial ?_
  exact membersNamed_cons (isName_ofList _ (by decide)) (portAddressDoc_named _) membersNamed_nil

theorem ProcType.doc_named (type : ProcType) (val : type.Val) : (type.doc val).Named := by
  cases type with
  | portIdentity => exact portIdentityDoc_named val
  | portAddress => exact portAddressDoc_named val
  | clockQuality => exact clockQualityDoc_named val
  | clockIdentities => exact named_map strDoc_named strDoc_opens val
  | portAddresses => exact named_map portAddressDoc_named (fun _ => trivial) val
  | faultRecords => exact named_map faultRecordDoc_named (fun _ => trivial) val
  | acceptableMasters => exact named_map acceptableMasterDoc_named (fun _ => trivial) val
  | linuxptpUnicastMasters => exact named_map linuxptpUnicastMasterDoc_named (fun _ => trivial) val
  | _ => trivial

def Step.Named {T : Type} : Step T → Prop
  | .zeroFlag _ => True
  | .proc name _ _ _ => isName name = true

def StepsNamed {T : Type} (steps : List (Step T)) : Prop := ∀ step ∈ steps, step.Named

theorem stepsNamed_nil {T : Type} : StepsNamed ([] : List (Step T)) := by
  intro step hstep
  cases hstep

theorem stepsNamed_zeroFlag {T : Type} {set : T → UInt8 → T} {steps : List (Step T)} (h : StepsNamed steps) :
    StepsNamed (.zeroFlag set :: steps) := List.forall_mem_cons.2 ⟨trivial, h⟩

theorem stepsNamed_proc {T : Type} {name : String} {type : ProcType} {get : T → type.Val}
    {set : T → type.Val → T} {steps : List (Step T)} (hname : isName name = true) (h : StepsNamed steps) :
    StepsNamed (.proc name type get set :: steps) := List.forall_mem_cons.2 ⟨hname, h⟩

theorem procSteps_named (id : MngId) : StepsNamed (procSteps id) := by
  cases id <;>
    repeat first
      | exact stepsNamed_nil
      | refine stepsNamed_zeroFlag ?_
      | refine stepsNamed_proc (isName_ofList _ (by decide)) ?_

theorem steps_named {T : Type} (d : T) {steps : List (Step T)} (h : StepsNamed steps) :
    MembersNamed (steps.filterMap (Step.member d)) := by
  induction steps with
  | nil => trivial
  | cons step steps ih =>
      obtain ⟨hstep, hsteps⟩ := List.forall_mem_cons.1 h
      cases step with
      | zeroFlag set => exact ih hsteps
      | proc name type get set => exact membersNamed_cons hstep (type.doc_named _) (ih hsteps)

theorem dataMembers_named (managementId : MngVals) (tlv : BaseMngTlv) :
    MembersNamed (dataMembers managementId tlv) := by
  cases managementId with
  | mng id =>
      rw [dataMembers]
      cases tlv.cast? id with
      | none => trivial
      | some d => exact steps_named d (procSteps_named id)
  | lastMngId => trivial
  | smpteMngId => trivial

theorem dataFieldMembers_named (managementId : MngVals) (tlv : Option BaseMngTlv) :
    MembersNamed (dataFieldMembers managementId tlv) := by
  cases tlv with
  | none => trivial
  | some tlv =>
      exact membersNamed_cons (isName_ofList _ (by decide)) (named_obj (dataMembers_named _ _)) membersNamed_nil

theorem availabilityDoc_named (flags : UInt8) : (availabilityDoc flags).Named := by
  refine named_obj ?_
  repeat first
    | exact membersNamed_nil
    | refine membersNamed_cons (isName_ofList _ (by decide)) trivial ?_

theorem slaveRxSyncTimingDataDoc_named (val : SlaveRxSyncTimingDataRec) :
    (slaveRxSyncTimingDataDoc val).Named := by
  refine named_obj ?_
  repeat first
    | exact membersNamed_nil
    | refine membersNamed_cons (isName_ofList _ (by decide)) trivial ?_

theorem slaveRxSyncComputedDataDoc_named (val : SlaveRxSyncComputedDataRec) :
    (slaveRxSyncComputedDataDoc val).Named := by
  refine named_obj ?_
  repeat first
    | exact membersNamed_nil
    | refine membersNamed_cons (isName_ofList _ (by decide)) trivial ?_

theorem slaveTxEventTimestampsDoc_named (val : SlaveTxEventTimestampsRec) :
    (slaveTxEventTimestampsDoc val).Named := by
  refine named_obj ?_
  repeat first
    | exact membersNamed_nil
    | refine membersNamed_cons (isName_ofList _ (by decide)) trivial ?_

theorem slaveDelayTimingDataNpDoc_named (val : SlaveDelayTimingDataNpRec) :
    (slaveDelayTimingDataNpDoc val).Named := by
  refine named_obj ?_
  repeat first
    | exact membersNamed_nil
    | refine membersNamed_cons (isName_ofList _ (by decide)) trivial ?_

theorem l1SyncMembers_named (d : L1Sync) : MembersNamed (l1SyncMembers d) := by
  refine membersNamed_append ?_ ?_
  · repeat first
      | exact membersNamed_nil
      | refine membersNamed_cons (isName_ofList _ (by decide)) trivial ?_
  · split
    · repeat first
        | exact membersNamed_nil
        | refine membersNamed_cons (isName_ofList _ (by decide)) trivial ?_
    · trivial

theorem sigMembers_named (mem : Option BaseMngTlv) (tlv : BaseSigTlv) : MembersNamed (sigMembers mem tlv) := by
  cases tlv with
  | management d =>
      exact membersNamed_cons (isName_ofList _ (by decide)) trivial (dataFieldMembers_named _ _)
  | pathTrace d =>
      exact membersNamed_cons (isName_ofList _ (by decide)) (named_map strDoc_named strDoc_opens _) membersNamed_nil
  | l1Sync d => exact l1SyncMembers_named d
  | portCommunicationAvailability d =>
      refine membersNamed_cons (isName_ofList _ (by decide)) (availabilityDoc_named _) ?_
      exact membersNamed_cons (isName_ofList _ (by decide)) (availabilityDoc_named _) membersNamed_nil
  | protocolAddress d =>
      exact membersNamed_cons (isName_ofList _ (by decide)) (portAddressDoc_named _) membersNamed_nil
  | slaveRxSyncTimingData d =>
      refine membersNamed_cons (isName_ofList _ (by decide)) (portIdentityDoc_named _) ?_
      exact membersNamed_cons (isName_ofList _ (by decide)) (named_map slaveRxSyncTimingDataDoc_named (fun _ => trivial) _)
        membersNamed_nil
  | slaveRxSyncComputedData d =>
      refine membersNamed_cons (isName_ofList _ (by decide)) (portIdentityDoc_named _) ?_
      iterate 3 refine membersNamed_cons (isName_ofList _ (by decide)) trivial ?_
      exact membersNamed_cons (isName_ofList _ (by decide)) (named_map slaveRxSyncComputedDataDoc_named (fun _ => trivial) _)
        membersNamed_nil
  | slaveTxEventTimestamps d =>
      refine membersNamed_cons (isName_ofList _ (by decide)) (portIdentityDoc_named _) ?_
      refine membersNamed_cons (isName_ofList _ (by decide)) trivial ?_
      exact membersNamed_cons (isName_ofList _ (by decide)) (named_map slaveTxEventTimestampsDoc_named (fun _ => trivial) _)
        membersNamed_nil
  | slaveDelayTimingDataNp d =>
      refine membersNamed_cons (isName_ofList _ (by decide)) (portIdentityDoc_named _) ?_
      exact membersNamed_cons (isName_ofList _ (by decide)) (named_map slaveDelayTimingDataNpDoc_named (fun _ => trivial) _)
        membersNamed_nil
  | _ =>
      repeat first
        | exact membersNamed_nil
        | refine membersNamed_cons (isName_ofList _ (by decide)) trivial ?_

theorem headerMembers_named (hdr : MsgHeader) : MembersNamed (headerMembers hdr) := by
  iterate 8 refine membersNamed_cons (isName_ofList _ (by decide)) trivial ?_
  refine membersNamed_cons (isName_ofList _ (by decide)) (portIdentityDoc_named _) ?_
  exact membersNamed_cons (isName_ofList _ (by decide)) (portIdentityDoc_named _) membersNamed_nil

theorem smpteDataMembers_named (tlv : Option BaseMngTlv) : MembersNamed (smpteDataMembers tlv) := by
  rcases tlv with _ | tlv | d
  · trivial
  · trivial
  · repeat first
      | exact membersNamed_nil
      | refine membersNamed_cons (isName_ofList _ (by decide)) trivial ?_

theorem managementMembers_named (mem : Option BaseMngTlv) (m : Message) :
    MembersNamed (managementMembers mem m) := by
  refine membersNamed_append ?_ ?_
  · iterate 3 refine membersNamed_cons (isName_ofList _ (by decide)) trivial ?_
    exact membersNamed_nil
  · cases m.mngType with
    | management => exact dataFieldMembers_named _ _
    | managementErrorStatus =>
        iterate 2 refine membersNamed_cons (isName_ofList _ (by decide)) trivial ?_
        exact membersNamed_nil
    | organizationExtension =>
        simp only
        split
        · exact smpteDataMembers_named _
        · trivial
    | _ => trivial

theorem sigDoc_named (mem : Option BaseMngTlv) (tlv : TlvType × BaseSigTlv) : (sigDoc mem tlv).Named := by
  refine named_obj (membersNamed_cons (isName_ofList _ (by decide)) trivial ?_)
  split
  · exact sigMembers_named mem tlv.2
  · trivial

theorem messageMembers_named (mem : Option BaseMngTlv) (m : Message) : MembersNamed (messageMembers mem m) := by
  refine membersNamed_append (headerMembers_named m.hdr) ?_
  split
  · exact managementMembers_named mem m
  · split
    · exact membersNamed_cons (isName_ofList _ (by decide)) (named_map (sigDoc_named mem) (fun _ => trivial) _) membersNamed_nil
    · trivial

/-! ## Accepted -/

theorem fixed_good : Fixed Closes IsNum := ⟨closes_isSelf, id⟩

theorem tlv2json_empty {managementId : MngVals} {tlv : Option BaseMngTlv}
    (h : (tlv.isNone || isEmpty managementId) = true) (indent : Nat) :
    tlv2json managementId tlv indent = [leftCurly, rightCurly] := by
  rw [tlv2json, if_pos h]

/-- The texts that `tlv2json` prints. -/
def tlvTexts (managementId : MngVals) (tlv : Option BaseMngTlv) : List Text :=
  if isEmpty managementId then [] else optDataTexts managementId tlv

/-- **A TLV whose texts close is printed as JSON.** -/
theorem tlv2json_parseBuffer {managementId : MngVals} {tlv : Option BaseMngTlv}
    (h : ∀ t ∈ tlvTexts managementId tlv, Closes t) (indent : Nat) (useComments : Bool) :
    ∃ v, parseBuffer useComments (tlv2json managementId tlv indent) = some (some v) := by
  by_cases hempty : (tlv.isNone || isEmpty managementId) = true
  · rw [tlv2json_empty hempty]
    exact ⟨.obj [], (Denotes.objNil spaces_nil).parseBuffer spaces_nil spaces_nil useComments⟩
  · simp only [Bool.or_eq_true, not_or, Bool.not_eq_true, Option.isNone_eq_false_iff,
      Option.isSome_iff_exists] at hempty
    obtain ⟨⟨tlv, rfl⟩, hid⟩ := hempty
    rw [tlvTexts, if_neg (by simp [hid]), optDataTexts, ← dataMembers_all fixed_good] at h
    have hden := Doc.denotes (.obj (dataMembers managementId tlv)) (dataMembers_named managementId tlv) h indent
    have hparse := hden.parseBuffer (spaces_spec indent) spaces_nil useComments
    rw [List.append_nil, ← tlv2json_eq hid] at hparse
    exact ⟨_, hparse⟩

/-- **A message whose texts close and whose floats are numbers is printed as JSON.** -/
theorem msg2json_parseBuffer {mem : Option BaseMngTlv} {m : Message} (h : ∀ t ∈ messageTexts mem m, Closes t)
    (hfloat : ∀ f ∈ messageFloats m, finite f = true) (indent : Nat) (useComments : Bool) :
    ∃ v, parseBuffer useComments (msg2json mem m indent) = some (some v) := by
  have hgood := (messageMembers_all fixed_good mem m).2 ⟨h, fun f hf => double_isNum (hfloat f hf)⟩
  have hden := Doc.denotes (.obj (messageMembers mem m)) (messageMembers_named mem m) hgood indent
  have hparse := hden.parseBuffer (spaces_spec indent) spaces_nil useComments
  rw [List.append_nil, ← msg2json_eq] at hparse
  exact ⟨_, hparse⟩

end PtpMgmt.Json
