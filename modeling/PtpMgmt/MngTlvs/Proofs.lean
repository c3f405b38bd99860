import PtpMgmt.MngTlvs.Spec

set_option autoImplicit false

/-! # Round trips of the management TLVs

Every codec function against its specification. The dataFields whose fields all have a fixed width
are covered together; the others have a lemma each.

A count that does not fit its wire field does not disturb a build, only the parse of what was built.
`RoundTripsIf` therefore asks for the counts on the parse side alone. -/

namespace PtpMgmt

open Wire Codec

/-- `cb` writes `n` octets and, under the condition `p`, `cp` reads them back when at most one octet
    of padding follows them. -/
def RoundTripsIf {α : Type} (p : Prop) (cb cp : Proc α) (a : α) (n : Nat) : Prop :=
  ∃ w : List UInt8, w.length = n ∧ Builds cb a w ∧ (p → ParsesEnd 1 cp a w)

theorem RoundTripsIf.of_in {α : Type} {cb cp : Proc α} {a : α} {n : Nat} (p : Prop)
    (h : RoundTripsIn cb cp a n) : RoundTripsIf p cb cp a n := by
  obtain ⟨w, hlen, hw⟩ := h.octets
  exact ⟨w, hlen, hw.builds, fun _ => hw.parses.atEnd 1⟩

attribute [local simp] tlvWidth

/-! ## Texts, addresses and 48-bit values -/

theorem clockDescriptionF_roundTrips {d : ClockDescription} (h : tlvValuesFit .clockDescription d)
    (haddrs : tlvAddressesFit .clockDescription d) :
    RoundTripsIn (clockDescriptionF d) (clockDescriptionF default) d.norm
      (tlvWidth .clockDescription d) := by
  obtain ⟨hproto, hprod, hrev, huser⟩ := h
  obtain ⟨hphys, haddr⟩ := haddrs
  have hlen : RoundTripsIn (proc (UInt16.ofNat d.physicalAddress.length)) (proc (UInt16.ofNat 0)) _ 2 :=
    inferInstance
  have hall : RoundTripsIn (clockDescriptionF d) (clockDescriptionF default) d.norm _ :=
    .andThen inferInstance <| .andThen (PTPText.roundTripsIn hproto) <| .andThen hlen <|
      .andThen (procBinary_roundTrips _ hphys).size <| .andThen (PortAddress.roundTripsIn haddr) <|
      .andThen inferInstance <| .andThen inferInstance <| .andThen (PTPText.roundTripsIn hprod) <|
      .andThen (PTPText.roundTripsIn hrev) <| .andThen (PTPText.roundTripsIn huser) <|
      .andThen inferInstance inferInstance
  exact hall.of_eq (by simp only [tlvWidth]; omega)

theorem timeF_roundTrips {d : Time} (h : d.currentTime.Fits) :
    RoundTripsIn (timeF d) (timeF default) d 10 :=
  (RoundTripsIn.andThen (Timestamp.roundTripsIn _ h) inferInstance).of_eq rfl

theorem alternateTimeOffsetPropertiesF_roundTrips {d : AlternateTimeOffsetProperties}
    (h : d.timeOfNextJump ≤ uint48Max) :
    RoundTripsIn (alternateTimeOffsetPropertiesF d) (alternateTimeOffsetPropertiesF default) d 15 :=
  have := proc48_roundTripsIn (default : AlternateTimeOffsetProperties).timeOfNextJump h
  inferInstance

theorem portPropertiesNpF_roundTrips {d : PortPropertiesNp} (h : d.interface.Fits) :
    RoundTripsIn (portPropertiesNpF d) (portPropertiesNpF default)
      { d with interface := d.interface.norm } (12 + d.interface.size) := by
  have : RoundTripsIn (proc d.interface) (proc (default : PortPropertiesNp).interface) _ _ :=
    PTPText.roundTripsIn h
  have hall : RoundTripsIn (portPropertiesNpF d) (portPropertiesNpF default)
      { d with interface := d.interface.norm } (10 + (1 + (1 + (d.interface.size + 0)))) :=
    inferInstance
  exact hall.of_eq (by omega)

theorem userDescriptionF_roundTrips {d : UserDescription} (h : d.userDescription.Fits) :
    RoundTrips (userDescriptionF d) (userDescriptionF default) ⟨d.userDescription.norm⟩
      (d.userDescription.octets ++ []) :=
  RoundTrips.bind (PTPText.roundTrips h) (RoundTrips.pure _)

theorem alternateTimeOffsetNameF_roundTrips {d : AlternateTimeOffsetName} (h : d.displayName.Fits) :
    RoundTrips (alternateTimeOffsetNameF d) (alternateTimeOffsetNameF default)
      { d with displayName := d.displayName.norm }
      (beOctets 1 d.keyField.toNat ++ (d.displayName.octets ++ [])) :=
  RoundTrips.bind (procUInt8_roundTrips _ _) (RoundTrips.bind (PTPText.roundTrips h)
    (RoundTrips.pure _))

/-! ## Tables -/

theorem pathTraceListF_roundTrips (d : PathTraceList) :
    RoundTripsIf True (pathTraceListF d) (pathTraceListF default) d (tlvWidth .pathTraceList d) := by
  have hrec : ∀ rec ∈ d.pathSequence, RoundTrips (proc rec) (proc default) (id rec) rec.v.toList := by
    intro rec _
    have hall : RoundTrips (proc rec) (proc default) rec (rec.v.toList ++ []) :=
      RoundTrips.bind (RoundTrips.field _ rec.v.toList_length (Octets.ofList_toList rec.v))
        (RoundTrips.pure _)
    rwa [List.append_nil] at hall
  have hwidth : ∀ rec ∈ d.pathSequence, rec.v.toList.length = ClockIdentity.size :=
    fun rec _ => rec.v.toList_length
  have hbuild := vectorO_builds ClockIdentity.size (by decide) hrec
  have hparse := vectorO_parsesEnd ClockIdentity.size 1 (by decide) (by decide) hrec hwidth
  rw [List.map_id] at hbuild hparse
  refine ⟨d.pathSequence.flatMap (·.v.toList) ++ [], ?_, Builds.bind hbuild (Builds.pure _),
    fun _ => ?_⟩
  · simp [List.length_flatMap, ClockIdentity.size]
  · rw [List.append_nil]
    exact hparse.bind_pure PathTraceList.mk

theorem faultLogF_roundTrips {d : FaultLog} (h : ∀ rec ∈ d.faultRecords, rec.Fits) :
    RoundTripsIf (d.faultRecords.length ≤ 65535) (faultLogF d) (faultLogF default) d.norm
      (tlvWidth .faultLog d) := by
  obtain ⟨enc, henc, hlen⟩ := RoundTripsIn.exists_enc (p := proc) fun rec hrec =>
    FaultRecord.roundTripsIn (h rec hrec)
  have hcount := procUInt16_roundTrips (UInt16.ofNat d.faultRecords.length) 0
  refine ⟨beOctets 2 (UInt16.ofNat d.faultRecords.length).toNat ++
    (d.faultRecords.flatMap enc ++ []), ?_, ?_, fun hfit => Parses.atEnd 1 ?_⟩
  · simp [hlen]
  · exact Builds.isBuild (Builds.bind hcount.builds (Builds.bind (vectorF_builds _ henc)
      (Builds.pure _)))
  · refine Parses.isBuild (Parses.bind hcount.parses (Parses.bind (vectorF_parses ?_ henc)
      (Parses.pure _)))
    rw [UInt16.toNat_toUInt32]
    exact UInt16.toNat_ofNat_of_lt' (Nat.lt_succ_of_le hfit)

theorem length_flatMap_octets (l : List PortAddress) :
    (l.flatMap PortAddress.octets).length = (l.map PortAddress.size).sum := by
  rw [List.length_flatMap]
  exact congrArg List.sum (List.map_congr_left fun rec _ => rec.length_octets)

/-- The octets of a cluster table, with the count cut to an octet. -/
def GrandmasterClusterTable.octets (d : GrandmasterClusterTable) : List UInt8 :=
  beOctets 1 d.logQueryInterval.toUInt8.toNat ++ (beOctets 1 d.portAddress.length ++
    (d.portAddress.flatMap PortAddress.octets ++ []))

theorem GrandmasterClusterTable.length_octets (d : GrandmasterClusterTable) :
    d.octets.length = tlvWidth .grandmasterClusterTable d := by
  simp only [octets, List.length_append, length_beOctets, length_flatMap_octets, List.length_nil,
    tlvWidth]
  omega

theorem grandmasterClusterTableF_builds {d : GrandmasterClusterTable}
    (h : ∀ rec ∈ d.portAddress, rec.Fits) :
    Builds (grandmasterClusterTableF d) d.norm d.octets := by
  have hcount := procUInt8_roundTrips (UInt8.ofNat d.portAddress.length) 0
  rw [beOctets_toNat_ofNat8] at hcount
  exact Builds.isBuild (Builds.bind (procInt8_roundTrips _ 0).builds (Builds.bind hcount.builds
    (Builds.bind (vectorF_builds _ fun rec hrec => PortAddress.roundTrips (h rec hrec))
      (Builds.pure _))))

theorem grandmasterClusterTableF_parses {d : GrandmasterClusterTable}
    (h : ∀ rec ∈ d.portAddress, rec.Fits) (hfit : d.portAddress.length ≤ 255) :
    Parses (grandmasterClusterTableF default) d.norm d.octets := by
  have hcount := procUInt8_roundTrips (UInt8.ofNat d.portAddress.length) 0
  rw [beOctets_toNat_ofNat8] at hcount
  refine Parses.isBuild (Parses.bind (procInt8_roundTrips _ 0).parses (Parses.bind hcount.parses
    (Parses.bind (vectorF_parses ?_ fun rec hrec => PortAddress.roundTrips (h rec hrec))
      (Parses.pure _))))
  rw [UInt8.toNat_toUInt32]
  exact UInt8.toNat_ofNat_of_lt' (Nat.lt_succ_of_le hfit)

/-- The octets of a unicast master table, with the count cut to 16 bits. -/
def UnicastMasterTable.octets (d : UnicastMasterTable) : List UInt8 :=
  beOctets 1 d.logQueryInterval.toUInt8.toNat ++ (beOctets 2 d.portAddress.length ++
    (d.portAddress.flatMap PortAddress.octets ++ []))

theorem UnicastMasterTable.length_octets (d : UnicastMasterTable) :
    d.octets.length = tlvWidth .unicastMasterTable d := by
  simp only [octets, List.length_append, length_beOctets, length_flatMap_octets, List.length_nil,
    tlvWidth]
  omega

theorem unicastMasterTableF_builds {d : UnicastMasterTable} (h : ∀ rec ∈ d.portAddress, rec.Fits) :
    Builds (unicastMasterTableF d) d.norm d.octets := by
  have hcount := procUInt16_roundTrips (UInt16.ofNat d.portAddress.length) 0
  rw [beOctets_toNat_ofNat16] at hcount
  exact Builds.isBuild (Builds.bind (procInt8_roundTrips _ 0).builds (Builds.bind hcount.builds
    (Builds.bind (vectorF_builds _ fun rec hrec => PortAddress.roundTrips (h rec hrec))
      (Builds.pure _))))

theorem unicastMasterTableF_parses {d : UnicastMasterTable} (h : ∀ rec ∈ d.portAddress, rec.Fits)
    (hfit : d.portAddress.length ≤ 65535) :
    Parses (unicastMasterTableF default) d.norm d.octets := by
  have hcount := procUInt16_roundTrips (UInt16.ofNat d.portAddress.length) 0
  rw [beOctets_toNat_ofNat16] at hcount
  refine Parses.isBuild (Parses.bind (procInt8_roundTrips _ 0).parses (Parses.bind hcount.parses
    (Parses.bind (vectorF_parses ?_ fun rec hrec => PortAddress.roundTrips (h rec hrec))
      (Parses.pure _))))
  rw [UInt16.toNat_toUInt32]
  exact UInt16.toNat_ofNat_of_lt' (Nat.lt_succ_of_le hfit)

/-- A signed 16-bit count that is not negative is the count of the loop. -/
theorem toNat_toUInt32_toInt32_ofNat {n : Nat} (h : n ≤ 32767) :
    (Int16.ofNat n).toInt32.toUInt32.toNat = n := by
  have hwide : (Int16.ofNat n).toInt32 = Int32.ofNat n := by
    apply Int32.toInt_inj.1
    rw [Int16.toInt_toInt32, Int16.toInt_ofNat_of_lt (by omega), Int32.toInt_ofNat_of_lt (by omega)]
  rw [hwide]
  exact UInt32.toNat_ofNat_of_lt' (show n < 4294967296 by omega)

theorem acceptableMasterTableF_roundTrips (d : AcceptableMasterTable) :
    ∃ w : List UInt8, w.length = AcceptableMaster.size * d.list.length ∧
      Builds (acceptableMasterTableF d) d.norm (beOctets 2 d.list.length ++ w) ∧
      (d.list.length ≤ 32767 →
        Parses (acceptableMasterTableF default) d.norm (beOctets 2 d.list.length ++ w)) := by
  have hrec : ∀ rec ∈ d.list, RoundTripsIn (proc rec) (proc default) (id rec)
      AcceptableMaster.size := fun _ _ => inferInstance
  obtain ⟨enc, henc, hlen⟩ := RoundTripsIn.exists_enc hrec
  have hcount := procInt16_roundTrips (Int16.ofNat d.list.length) 0
  have hcut : beOctets 2 (Int16.ofNat d.list.length).toUInt16.toNat = beOctets 2 d.list.length :=
    beOctets_toNat_ofNat16 _
  rw [hcut] at hcount
  have hbuild := vectorF_builds (Int16.ofNat d.list.length).toInt32.toUInt32 henc
  rw [List.map_id] at hbuild
  refine ⟨d.list.flatMap enc ++ [], ?_, ?_, fun hfit => ?_⟩
  · simp [hlen, mul_comm]
  · exact Builds.isBuild (Builds.bind hcount.builds (Builds.bind hbuild (Builds.pure _)))
  · have hparse := vectorF_parses (toNat_toUInt32_toInt32_ofNat hfit) henc
    rw [List.map_id] at hparse
    exact Parses.isBuild (Parses.bind hcount.parses (Parses.bind hparse (Parses.pure _)))

theorem unicastMasterTableNpF_roundTrips {d : UnicastMasterTableNp}
    (h : ∀ rec ∈ d.unicastMasters, rec.Fits) :
    RoundTripsIf (d.unicastMasters.length ≤ 32767) (unicastMasterTableNpF d)
      (unicastMasterTableNpF default) d.norm (tlvWidth .unicastMasterTableNp d) := by
  obtain ⟨enc, henc, hlen⟩ := RoundTripsIn.exists_enc (p := proc) fun rec hrec =>
    LinuxptpUnicastMaster.roundTripsIn (h rec hrec)
  have hcount := procInt16_roundTrips (Int16.ofNat d.unicastMasters.length) 0
  refine ⟨beOctets 2 (Int16.ofNat d.unicastMasters.length).toUInt16.toNat ++
    (d.unicastMasters.flatMap enc ++ []), ?_, ?_, fun hfit => Parses.atEnd 1 ?_⟩
  · simp [hlen]
  · exact Builds.isBuild (Builds.bind hcount.builds (Builds.bind (vectorF_builds _ henc)
      (Builds.pure _)))
  · exact Parses.isBuild (Parses.bind hcount.parses (Parses.bind
      (vectorF_parses (toNat_toUInt32_toInt32_ofNat hfit) henc) (Parses.pure _)))

/-! ## All TLVs -/

/-- **Every codec function against its specification.** -/
theorem tlvF_roundTrips (id : MngId) (d : Tlv id) (h : tlvValuesFit id d)
    (haddr : tlvAddressesFit id d) :
    RoundTripsIf (tlvCountsFit id d) (tlvF id d) (tlvF id default) (tlvNorm id d)
      (tlvWidth id d) := by
  cases id
  case clockDescription => exact .of_in _ (clockDescriptionF_roundTrips h haddr)
  case userDescription =>
      exact .of_in _ ((userDescriptionF_roundTrips h).size.of_eq
        (by simp [PTPText.length_octets]))
  case faultLog => exact faultLogF_roundTrips h
  case time => exact .of_in _ (timeF_roundTrips h)
  case pathTraceList => exact pathTraceListF_roundTrips d
  case grandmasterClusterTable =>
      exact ⟨_, d.length_octets, grandmasterClusterTableF_builds haddr,
        fun hfit => (grandmasterClusterTableF_parses haddr hfit).atEnd 1⟩
  case unicastMasterTable =>
      exact ⟨_, d.length_octets, unicastMasterTableF_builds haddr,
        fun hfit => (unicastMasterTableF_parses haddr hfit).atEnd 1⟩
  case acceptableMasterTable =>
      obtain ⟨w, hlen, hbuild, hparse⟩ := acceptableMasterTableF_roundTrips d
      refine ⟨_, ?_, hbuild, fun hfit => (hparse hfit).atEnd 1⟩
      simp [hlen, mul_comm]
  case alternateTimeOffsetName =>
      exact .of_in _ ((alternateTimeOffsetNameF_roundTrips h).size.of_eq
        (by simp [PTPText.length_octets]))
  case alternateTimeOffsetProperties =>
      exact .of_in _ (alternateTimeOffsetPropertiesF_roundTrips h)
  case portPropertiesNp => exact .of_in _ (portPropertiesNpF_roundTrips h)
  case unicastMasterTableNp => exact unicastMasterTableNpF_roundTrips haddr
  -- what is left has fields of a fixed width one after the other
  all_goals exact .of_in _ inferInstance

/-- A build refuses what does not fit, addresses and counts apart. -/
theorem tlvF_refuses (id : MngId) (d : Tlv id) (hbuild : (mngAllVals id).func.builds = true)
    (h : ¬ tlvValuesFit id d) : Refuses .val (tlvF id d) := by
  cases id
  case userDescription => exact (PTPText.refuses h _).bind_left
  case time => exact (Timestamp.refuses h).bind_left
  case alternateTimeOffsetName =>
      exact Refuses.bind_right (procBU_err 1 _ _ d.keyField) fun _ => (PTPText.refuses h _).bind_left
  case alternateTimeOffsetProperties =>
      exact Refuses.bind_right (procBU_err 1 _ _ d.keyField) fun _ =>
        Refuses.bind_right (procBU_err 4 _ _ d.currentOffset) fun _ =>
          Refuses.bind_right (procBU_err 4 _ _ d.jumpSeconds) fun _ => (proc48_refuses h).bind_left
  all_goals first
    | exact absurd trivial h
    | exact absurd hbuild (by decide)

/-- As long as the addresses fit, a build writes only into the octets that were left. -/
theorem tlvF_inBounds (id : MngId) (d : Tlv id) (h : tlvAddressesFit id d) :
    InBounds (tlvF id d) := by
  cases id
  case clockDescription =>
      have := PortAddress.inBounds h.2
      have : ∀ len, InBounds (procBinary d.physicalAddress len) := fun len =>
        procBinary_inBounds len h.1
      infer_instance
  case faultLog =>
      have : ∀ count, InBounds (vectorF count d.faultRecords) := fun count =>
        vectorF_inBounds count fun _ _ => inferInstance
      infer_instance
  case pathTraceList =>
      have : ∀ size hsize, InBounds (vectorO size hsize d.pathSequence) := fun _ _ =>
        InBounds.isBuild_bind (InBounds.each _ fun _ _ => inferInstance)
      infer_instance
  case grandmasterClusterTable =>
      have : ∀ count, InBounds (vectorF count d.portAddress) := fun count =>
        vectorF_inBounds count fun rec hrec => PortAddress.inBounds (h rec hrec)
      infer_instance
  case unicastMasterTable =>
      have : ∀ count, InBounds (vectorF count d.portAddress) := fun count =>
        vectorF_inBounds count fun rec hrec => PortAddress.inBounds (h rec hrec)
      infer_instance
  case acceptableMasterTable =>
      have : ∀ count, InBounds (vectorF count d.list) := fun count =>
        vectorF_inBounds count fun _ _ => inferInstance
      infer_instance
  case unicastMasterTableNp =>
      have : ∀ count, InBounds (vectorF count d.unicastMasters) := fun count =>
        vectorF_inBounds count fun rec hrec => LinuxptpUnicastMaster.inBounds (h rec hrec)
      infer_instance
  all_goals infer_instance

/-! ## Sizes -/

/-- The octets a size takes when a pad makes it even. -/
def padEven (n : Nat) : Nat := n + n % 2

/-- The fixed sizes of the table are the sizes of what the codecs write. -/
theorem padEven_tlvWidth_eq_size (id : MngId) (d : Tlv id)
    (h : (mngAllVals id).func.sized = false) :
    (padEven (tlvWidth id d) : Int) = (mngAllVals id).size := by
  cases id <;> first
    | exact absurd h (by decide)
    | simp [padEven, mngAllVals]

theorem vectorL_eq {α : Type} (size : α → Nat) (vec : List α) (ret : Nat) :
    vectorL size ret vec = ret + (vec.map size).sum := by
  induction vec generalizing ret with
  | nil => simp [vectorL]
  | cons a rest ih =>
      have hrest : vectorL size ret (a :: rest) = vectorL size (ret + size a) rest := rfl
      rw [hrest, ih, List.map_cons, List.sum_cons]
      omega

/-- The size functions agree with the codecs, except for the clock description, where a constant is
    one too small. -/
theorem tlvS_eq (id : MngId) (d : Tlv id) (h : (mngAllVals id).func.sized = true)
    (hid : id ≠ .clockDescription) : tlvS id d = some (tlvWidth id d) := by
  cases id
  case clockDescription => exact absurd rfl hid
  case pathTraceList => simp [tlvS, pathTraceListS, mul_comm]
  case acceptableMasterTable => simp [tlvS, acceptableMasterTableS, mul_comm]
  all_goals first
    | exact absurd h (by decide)
    | exact congrArg some (vectorL_eq _ _ _)
    | rfl

end PtpMgmt
