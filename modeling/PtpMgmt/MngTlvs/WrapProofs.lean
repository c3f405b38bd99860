import PtpMgmt.MngTlvs.Wrap

set_option autoImplicit false

/-! # From C++ to C and back

Each record comes back from its C structure, whatever was in the new memory, with its derived length set to
the real one; a table comes back when its count is its size. -/

namespace PtpMgmt

/-! ## Records -/

theorem PTPText.c2_c1 {d : PTPText} (h : d.Fits) (g : CPTPText) (n : UInt8) :
    PTPText.c2 ⟨n, []⟩ (d.c1 g) = some d.norm := by
  have hmin : min d.textField.length 255 = d.textField.length := Nat.min_eq_left h
  by_cases hsize : d.textField.length > 0
  · have hnat : (UInt8.ofNat d.textField.length).toNat = d.textField.length := by
      rw [UInt8.toNat_ofNat']
      omega
    have hpos : UInt8.ofNat d.textField.length > 0 := by
      rw [gt_iff_lt, UInt8.lt_iff_toNat_lt, hnat]
      exact hsize
    have hread : (Ptr.to (d.textField ++ [0])).read d.textField.length = some d.textField := by
      rw [Ptr.read_to (by simp), List.take_left]
    simp only [c1, c2, hmin, if_pos hsize, Ptr.isNull, Bool.false_eq_true, if_false, if_pos hpos, hnat, hread,
      Option.map_some, norm]
  · have hnil : d.textField = [] := List.eq_nil_of_length_eq_zero (Nat.le_zero.1 (Nat.not_lt.1 hsize))
    simp [c1, c2, norm, hnil, Ptr.isNull]

theorem binaryC2_binaryC1 {d : Binary} (h : d.length < 65536) :
    binaryC2 [] (binaryC1 d).1 (binaryC1 d).2 = some (d, UInt16.ofNat d.length) := by
  have hnat : (UInt16.ofNat d.length).toNat = d.length := by
    rw [UInt16.toNat_ofNat']
    omega
  by_cases hsize : UInt16.ofNat d.length > 0
  · have hread : (Ptr.to d).read d.length = some d := by rw [Ptr.read_to (Nat.le_refl _), List.take_length]
    simp only [binaryC1, binaryC2, if_pos hsize, Ptr.isNull, Bool.false_eq_true, if_false, hnat, hread,
      Option.map_some]
  · have hnil : d = [] := by
      rw [gt_iff_lt, UInt16.lt_iff_toNat_lt, hnat] at hsize
      exact List.eq_nil_of_length_eq_zero (Nat.le_zero.1 (Nat.not_lt.1 hsize))
    subst hnil
    rfl

theorem PortAddress.c2_c1 {d : PortAddress} (h : d.Fits) (g : CPortAddress) (np : NetworkProtocol) (n : UInt16) :
    PortAddress.c2 ⟨np, n, []⟩ (d.c1 g) = some d.norm := by
  simp only [c1, c2, binaryC2_binaryC1 h, Option.map_some]
  rfl

/-- The texts of a fault record fit. -/
def FaultRecord.TextsFit (d : FaultRecord) : Prop := d.faultName.Fits ∧ d.faultValue.Fits ∧ d.faultDescription.Fits

/-- The lengths of the texts as they really are. -/
def FaultRecord.lengths (d : FaultRecord) : FaultRecord :=
  { d with
    faultName := d.faultName.norm
    faultValue := d.faultValue.norm
    faultDescription := d.faultDescription.norm }

theorem FaultRecord.c2_c1 {d : FaultRecord} (h : d.TextsFit) (g : CFaultRecord) :
    (default : FaultRecord).c2 (d.c1 g) = some d.lengths := by
  obtain ⟨hname, hvalue, hdescription⟩ := h
  have hnew : (default : FaultRecord) = ⟨0, ⟨0, 0⟩, 0, ⟨0, []⟩, ⟨0, []⟩, ⟨0, []⟩⟩ := rfl
  simp only [hnew, c1, c2, PTPText.c2_c1 hname, PTPText.c2_c1 hvalue, PTPText.c2_c1 hdescription,
    Option.bind_some, Option.map_some]
  rfl

theorem LinuxptpUnicastMaster.c2_c1 {d : LinuxptpUnicastMaster} (h : d.Fits) (g : CLinuxptpUnicastMaster) :
    (default : LinuxptpUnicastMaster).c2 (d.c1 g) = some d.norm := by
  have hnew : (default : LinuxptpUnicastMaster).portAddress = ⟨0, 0, []⟩ := rfl
  simp only [c1, c2, hnew, PortAddress.c2_c1 h, Option.map_some]
  rfl

/-! ## Tables -/

section Table

variable {α β : Type} [Inhabited α] {c1 : β → α → β} {c2 : α → β → Option α} {norm : α → α} {tbl : List α}

theorem mapM_mapIdx (hconv : ∀ f ∈ tbl, ∀ g, c2 default (c1 g f) = some (norm f)) (m : Nat → β) :
    (tbl.mapIdx fun i f => c1 (m i) f).mapM (c2 default) = some (tbl.map norm) := by
  induction tbl generalizing m with
  | nil => rfl
  | cons f tbl ih =>
      have hrest := ih (fun x hx => hconv x (List.mem_cons_of_mem _ hx)) fun i => m (i + 1)
      rw [List.mapIdx_cons, List.mapM_cons, hconv f List.mem_cons_self (m 0), hrest]
      rfl

variable (c1 c2 norm) in
/-- A table comes back when its elements do and its count is its size. -/
theorem c2Tbl_c1Tbl (hconv : ∀ f ∈ tbl, ∀ g, c2 default (c1 g f) = some (norm f)) (m : Nat → β) {count : Int}
    (hcount : count = tbl.length) (p : Ptr β) :
    ∃ q, c1Tbl c1 m count tbl p = some q ∧ c2Tbl c2 count q = some (tbl.map norm) := by
  subst hcount
  have hc2 : ∀ q, c2Tbl c2 tbl.length q = (q.read tbl.length).bind fun l => l.mapM (c2 default) := by
    intro q
    rw [c2Tbl, if_neg (by omega), Int.toNat_natCast]
  simp only [c1Tbl, hc2, ne_eq, not_true, if_false]
  by_cases hzero : (tbl.length : Int) = 0
  · have hnil : tbl = [] := List.eq_nil_of_length_eq_zero (by omega)
    subst hnil
    exact ⟨p, rfl, rfl⟩
  · refine ⟨_, if_neg hzero, ?_⟩
    rw [Ptr.read_to (by simp), List.take_of_length_le (by simp), Option.bind_some]
    exact mapM_mapIdx hconv m

end Table

/-- The path ends where it ended. -/
theorem pathUntilZero_append {path : List ClockIdentity} (h : ∀ v ∈ path, v ≠ ClockIdentity.zero) :
    pathUntilZero (path ++ [ClockIdentity.zero]) = some path := by
  induction path with
  | nil => rfl
  | cons v path ih =>
      rw [List.cons_append, pathUntilZero, if_neg (h v List.mem_cons_self),
        ih fun x hx => h x (List.mem_cons_of_mem _ hx)]
      rfl

/-! ## TLVs -/

/-- What a TLV must keep for the C structure: texts of at most 255 octets, addresses of at most 65535, counts
    that are the sizes of their tables, and a path without an identity of zeros. -/
def tlvWraps : (id : MngId) → Tlv id → Prop
  | .clockDescription, d =>
    d.physicalLayerProtocol.Fits ∧ d.physicalAddress.length < 65536 ∧ d.protocolAddress.Fits ∧
      d.productDescription.Fits ∧ d.revisionData.Fits ∧ d.userDescription.Fits
  | .userDescription, d => d.userDescription.Fits
  | .faultLog, d => d.numberOfFaultRecords.toNat = d.faultRecords.length ∧ ∀ rec ∈ d.faultRecords, rec.TextsFit
  | .pathTraceList, d => ∀ v ∈ d.pathSequence, v ≠ ClockIdentity.zero
  | .grandmasterClusterTable, d =>
    d.actualTableSize.toNat = d.portAddress.length ∧ ∀ rec ∈ d.portAddress, rec.Fits
  | .unicastMasterTable, d =>
    d.actualTableSize.toNat = d.portAddress.length ∧ ∀ rec ∈ d.portAddress, rec.Fits
  | .acceptableMasterTable, d => d.actualTableSize.toInt = d.list.length
  | .alternateTimeOffsetName, d => d.displayName.Fits
  | .portPropertiesNp, d => d.interface.Fits
  | .unicastMasterTableNp, d =>
    d.actualTableSize.toInt = d.unicastMasters.length ∧ ∀ rec ∈ d.unicastMasters, rec.Fits
  | _, _ => True

/-- The TLV with the lengths of its texts and addresses as they really are. -/
def tlvLengths : (id : MngId) → Tlv id → Tlv id
  | .clockDescription, d => d.norm
  | .userDescription, d => { d with userDescription := d.userDescription.norm }
  | .faultLog, d => { d with faultRecords := d.faultRecords.map FaultRecord.lengths }
  | .grandmasterClusterTable, d => { d with portAddress := d.portAddress.map PortAddress.norm }
  | .unicastMasterTable, d => { d with portAddress := d.portAddress.map PortAddress.norm }
  | .alternateTimeOffsetName, d => { d with displayName := d.displayName.norm }
  | .portPropertiesNp, d => { d with interface := d.interface.norm }
  | .unicastMasterTableNp, d => { d with unicastMasters := d.unicastMasters.map LinuxptpUnicastMaster.norm }
  | _, d => d

/-- The two converters of an id, one after the other. -/
theorem tlvC2_tlvC1 (m : TableMem) (id : MngId) (hcodec : (mngAllVals id).func ≠ .na) (d : Tlv id)
    (h : tlvWraps id d) (a : CTlv id) (mem : Tlv id) :
    ∃ c, tlvC1 m id a d = some c ∧ tlvC2 id (newTlv id mem) c = some (tlvLengths id d) := by
  -- texts and tables have a converter of their own; the other fields are copied
  cases id
  case clockDescription =>
    obtain ⟨hlayer, hphysical, haddress, hproduct, hrevision, huser⟩ := h
    refine ⟨_, rfl, ?_⟩
    simp only [tlvC2, newTlv, ClockDescription.c1, ClockDescription.c2,
      PTPText.c2_c1 hlayer, binaryC2_binaryC1 hphysical,
      PortAddress.c2_c1 haddress, PTPText.c2_c1 hproduct,
      PTPText.c2_c1 hrevision, PTPText.c2_c1 huser, Option.bind_some,
      Option.map_some]
    rfl
  case userDescription =>
    refine ⟨_, rfl, ?_⟩
    simp only [tlvC2, newTlv, UserDescription.c1, UserDescription.c2, PTPText.c2_c1 h,
      Option.map_some]
    rfl
  case faultLog =>
    obtain ⟨hcount, hrecs⟩ := h
    obtain ⟨q, hc1, hc2⟩ := c2Tbl_c1Tbl _ _ _ (fun f hf g => FaultRecord.c2_c1 (hrecs f hf) g) m.faultRecord
      (congrArg Int.ofNat hcount) a.faultRecords
    refine ⟨{ numberOfFaultRecords := d.numberOfFaultRecords, faultRecords := q }, ?_, ?_⟩
    · exact congrArg (Option.map _) hc1
    · exact congrArg (Option.map _) hc2
  case pathTraceList =>
    refine ⟨_, rfl, ?_⟩
    simp only [tlvC2, newTlv, PathTraceList.c1, PathTraceList.c2, pathUntilZero_append h, Option.map_some,
      List.nil_append]
    rfl
  case grandmasterClusterTable =>
    obtain ⟨hcount, hrecs⟩ := h
    obtain ⟨q, hc1, hc2⟩ := c2Tbl_c1Tbl _ _ _ (fun f hf g => PortAddress.c2_c1 (hrecs f hf) g 0 0) m.portAddress
      (congrArg Int.ofNat hcount) a.portAddress
    refine ⟨{ logQueryInterval := d.logQueryInterval, actualTableSize := d.actualTableSize, portAddress := q }, ?_, ?_⟩
    · exact congrArg (Option.map _) hc1
    · exact congrArg (Option.map _) hc2
  case unicastMasterTable =>
    obtain ⟨hcount, hrecs⟩ := h
    obtain ⟨q, hc1, hc2⟩ := c2Tbl_c1Tbl _ _ _ (fun f hf g => PortAddress.c2_c1 (hrecs f hf) g 0 0) m.portAddress
      (congrArg Int.ofNat hcount) a.portAddress
    refine ⟨{ logQueryInterval := d.logQueryInterval, actualTableSize := d.actualTableSize, portAddress := q }, ?_, ?_⟩
    · exact congrArg (Option.map _) hc1
    · exact congrArg (Option.map _) hc2
  case acceptableMasterTable =>
    obtain ⟨q, hc1, hc2⟩ := c2Tbl_c1Tbl AcceptableMaster.copy (fun r f => some (AcceptableMaster.copy r f))
      (fun f => f) (fun f _ g => rfl) m.acceptableMaster h a.list
    rw [List.map_id'] at hc2
    refine ⟨{ actualTableSize := d.actualTableSize, list := q }, ?_, ?_⟩
    · exact congrArg (Option.map _) hc1
    · exact congrArg (Option.map _) hc2
  case alternateTimeOffsetName =>
    refine ⟨_, rfl, ?_⟩
    simp only [tlvC2, newTlv, AlternateTimeOffsetName.c1, AlternateTimeOffsetName.c2,
      PTPText.c2_c1 h, Option.map_some]
    rfl
  case portPropertiesNp =>
    refine ⟨_, rfl, ?_⟩
    simp only [tlvC2, newTlv, PortPropertiesNp.c1, PortPropertiesNp.c2, PTPText.c2_c1 h,
      Option.map_some]
    rfl
  case unicastMasterTableNp =>
    obtain ⟨hcount, hrecs⟩ := h
    obtain ⟨q, hc1, hc2⟩ := c2Tbl_c1Tbl _ _ _ (fun f hf g => LinuxptpUnicastMaster.c2_c1 (hrecs f hf) g)
      m.unicastMaster hcount a.unicastMasters
    refine ⟨{ actualTableSize := d.actualTableSize, unicastMasters := q }, ?_, ?_⟩
    · exact congrArg (Option.map _) hc1
    · exact congrArg (Option.map _) hc2
  all_goals first
    | exact ⟨_, rfl, rfl⟩
    | exact absurd rfl hcodec

/-- **A TLV comes back from its C structure**, whatever the new memory of both held. -/
theorem c2cppMngTlv_cpp2cMngTlv (m : TableMem) (id : MngId) (hcodec : (mngAllVals id).func ≠ .na) (d : Tlv id)
    (h : tlvWraps id d) (a : CTlv id) (mem : Tlv id) :
    ∃ c, cpp2cMngTlv m id a (some (.tlv id d)) = some c ∧
      c2cppMngTlv id mem (some c) = some (.tlv id (tlvLengths id d)) := by
  obtain ⟨c, hc1, hc2⟩ := tlvC2_tlvC1 m id hcodec d h a mem
  refine ⟨c, ?_, ?_⟩
  · simp only [cpp2cMngTlv, if_neg hcodec, BaseMngTlv.cast?_tlv, hc1]
  · simp only [c2cppMngTlv, if_neg hcodec, hc2, Option.map_some]

/-- A table with one address, whose length field is not set. -/
theorem c2cppMngTlv_cpp2cMngTlv_oneAddress :
    ∃ c, cpp2cMngTlv ⟨fun _ => default, fun _ => default, fun _ => default, fun _ => default⟩
        .unicastMasterTable ⟨0, 0, .wild⟩
        (some (.tlv .unicastMasterTable ⟨2, 1, [⟨1, 0, [192, 168, 0, 1]⟩]⟩)) = some c ∧
      c2cppMngTlv .unicastMasterTable ⟨7, 7, []⟩ (some c) =
        some (.tlv .unicastMasterTable ⟨2, 1, [⟨1, 4, [192, 168, 0, 1]⟩]⟩) := by
  have hwraps : tlvWraps .unicastMasterTable ⟨2, 1, [⟨1, 0, [192, 168, 0, 1]⟩]⟩ := by
    refine ⟨rfl, ?_⟩
    intro rec hrec
    rw [List.mem_singleton.1 hrec]
    show 4 < 65536
    decide
  exact c2cppMngTlv_cpp2cMngTlv _ .unicastMasterTable (by decide) _ hwraps _ _

end PtpMgmt
