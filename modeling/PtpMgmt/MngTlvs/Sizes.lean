import PtpMgmt.MngTlvs.Proofs

set_option autoImplicit false

/-! # The size functions against the codecs

`Message::dataFieldSize` adds the sizes of the parts to a constant of its own, the codec writes the
fields one after the other. They are two texts about one layout, and they agree on every id but one:
the constant of the clock description counts 13 of the 14 octets around its texts and addresses.

A fault time beyond 48 bits is the one value left that a codec refuses, so that nothing is written that
a size could be compared with. -/

namespace PtpMgmt

open Wire Codec

/-! ## What a codec writes -/

/-- In build mode the codec succeeds on a cursor with room and writes `n` octets. -/
def WritesOctets {α : Type} (c : Proc α) (n : Nat) : Prop :=
  ∃ a w, w.length = n ∧ Builds c a w

/-- A cursor of a build with room for `n` octets. -/
def roomy (n : Nat) : MsgProc := ⟨true, 0, n, 0, .tooSmall, fun _ => 0, [], [], false⟩

theorem WritesOctets.run {α : Type} {c : Proc α} {n k : Nat} (h : WritesOctets c n) (hn : n ≤ k) :
    ∃ a, (c.run (roomy k)).1 = some a ∧ (c.run (roomy k)).2.size = n := by
  obtain ⟨a, w, hlen, hw⟩ := h
  have hfits : (w.length : Int) ≤ (roomy k).left := by
    simp only [roomy]
    omega
  have hrun := (hw (roomy k) rfl (by simp [roomy])).1 hfits
  refine ⟨a, by rw [hrun], ?_⟩
  rw [hrun, Cursor.emit_size, hlen]
  exact Nat.zero_add n

theorem WritesOctets.unique {α : Type} {c : Proc α} {n n' : Nat} (h : WritesOctets c n)
    (h' : WritesOctets c n') : n = n' := by
  obtain ⟨-, -, hn⟩ := h.run (Nat.le_max_left n n')
  obtain ⟨-, -, hn'⟩ := h'.run (Nat.le_max_right n n')
  exact hn.symm.trans hn'

/-- A list goes out only when each of its values does. -/
theorem run_each_none {α : Type} {p : α → Proc α} {a : α} (l : List α) (ha : a ∈ l)
    (h : ∀ s : MsgProc, s.build = true → ((p a).run s).1 = none) (s : MsgProc)
    (hb : s.build = true) : ((each p l).run s).1 = none := by
  induction l generalizing s with
  | nil => simp at ha
  | cons b rest ih =>
      rw [each, run_bind]
      split
      · next x s' hx =>
          -- the head went out, so the value that does not is further down
          have hbuild : s'.build = true := by
            have hadv := (p b).advances s
            rw [hx] at hadv
            exact hadv.build_eq.trans hb
          rcases List.mem_cons.1 ha with rfl | hrest
          · have hnone := h s hb
            rw [hx] at hnone
            simp at hnone
          · rw [run_bind_none (ih hrest s' hbuild)]
      · rfl

/-! ## The values the sizes are about -/

/-- Every text has at most 255 octets. -/
def tlvTextsFit : (id : MngId) → Tlv id → Prop
  | .clockDescription, d =>
    d.physicalLayerProtocol.Fits ∧ d.productDescription.Fits ∧ d.revisionData.Fits ∧
      d.userDescription.Fits
  | .userDescription, d => d.userDescription.Fits
  | .faultLog, d =>
    ∀ rec ∈ d.faultRecords, rec.faultName.Fits ∧ rec.faultValue.Fits ∧ rec.faultDescription.Fits
  | .alternateTimeOffsetName, d => d.displayName.Fits
  | .portPropertiesNp, d => d.interface.Fits
  | _, _ => True

/-- The seconds of every fault time are in the range of their 48 bits. -/
def tlvFaultTimesFit : (id : MngId) → Tlv id → Prop
  | .faultLog, d => ∀ rec ∈ d.faultRecords, rec.faultTime.Fits
  | _, _ => True

theorem tlvValuesFit_of_sized (id : MngId) (d : Tlv id) (h : (mngAllVals id).func.sized = true)
    (htexts : tlvTextsFit id d) (htimes : tlvFaultTimesFit id d) : tlvValuesFit id d := by
  cases id
  case faultLog => exact fun rec hrec => ⟨htimes rec hrec, htexts rec hrec⟩
  all_goals first
    | exact htexts
    | exact absurd h (by decide)

/-- A record with a fault time out of range is refused, and the log with it. -/
theorem faultLogF_none {d : FaultLog} {rec : FaultRecord} (hmem : rec ∈ d.faultRecords)
    (h : ¬ rec.faultTime.Fits) (s : MsgProc) (hb : s.build = true) :
    ((faultLogF d).run s).1 = none := by
  have hrec : Refuses .val (proc rec) :=
    Refuses.isBuild <| Refuses.bind_right (procBU_err 2 _ _ _) fun _ =>
      (Timestamp.refuses h).bind_left
  have heach := run_each_none (p := proc) d.faultRecords hmem fun s hs => (hrec s hs).1
  have hvec : ∀ (count : UInt32) (s : MsgProc), s.build = true →
      ((vectorF count d.faultRecords).run s).1 = none := by
    intro count s hs
    rw [vectorF, run_bind_some (run_isBuild s), hs]
    exact heach s hs
  rw [faultLogF, run_bind_some (run_isBuild s), run_bind]
  split
  · next n s' hn =>
      have hadv := (proc (if s.build = true then UInt16.ofNat d.faultRecords.length
        else d.numberOfFaultRecords)).advances s
      rw [hn] at hadv
      rw [run_bind_none (hvec _ s' (hadv.build_eq.trans hb))]
  · rfl

/-! ## The sizes -/

theorem clockDescriptionS_succ (d : ClockDescription) :
    clockDescriptionS d + 1 = tlvWidth .clockDescription d := by
  simp only [clockDescriptionS, tlvWidth]
  omega

theorem tlvF_writes (id : MngId) (d : Tlv id) (h : tlvValuesFit id d)
    (haddr : tlvAddressesFit id d) : WritesOctets (tlvF id d) (tlvWidth id d) := by
  obtain ⟨w, hlen, hw, -⟩ := tlvF_roundTrips id d h haddr
  exact ⟨tlvNorm id d, w, hlen, hw⟩

theorem dataFieldSize_tlv {id : MngId} {d : Tlv id} {n : Nat} (h : tlvS id d = some n) :
    dataFieldSize id (some (.tlv id d)) = n := by
  simp [dataFieldSize, h]

/-- What is promised of a size: it is the number of octets the codec writes for the value. -/
def SizeRight (id : MngId) (d : Tlv id) : Prop :=
  ∃ n : Nat, dataFieldSize id (some (.tlv id d)) = n ∧ WritesOctets (tlvF id d) n

/-- **The sizes are right for every id but the clock description**, as long as the codec takes the
    value. -/
theorem sizeRight_iff (id : MngId) (d : Tlv id) (hsized : (mngAllVals id).func.sized = true)
    (htexts : tlvTextsFit id d) (haddr : tlvAddressesFit id d) :
    SizeRight id d ↔ id ≠ .clockDescription ∧ tlvFaultTimesFit id d := by
  constructor
  · rintro ⟨n, hn, hwrites⟩
    constructor
    · rintro rfl
      have hwidth := hwrites.unique (tlvF_writes .clockDescription d htexts haddr)
      rw [dataFieldSize_tlv (n := clockDescriptionS d) rfl] at hn
      have hsucc := clockDescriptionS_succ d
      omega
    · cases id
      case faultLog =>
          intro rec hrec
          by_contra htime
          obtain ⟨a, ha, -⟩ := hwrites.run le_rfl
          have hnone : ((tlvF .faultLog d).run (roomy n)).1 = none := faultLogF_none hrec htime _ rfl
          rw [hnone] at ha
          simp at ha
      all_goals trivial
  · rintro ⟨hid, htimes⟩
    exact ⟨tlvWidth id d, dataFieldSize_tlv (tlvS_eq id d hsized hid),
      tlvF_writes id d (tlvValuesFit_of_sized id d hsized htexts htimes) haddr⟩

/-- A text of three octets takes four. -/
theorem sizeRight_abc :
    SizeRight .userDescription ⟨⟨0, [97, 98, 99]⟩⟩ ↔
      MngId.userDescription ≠ .clockDescription ∧
        tlvFaultTimesFit .userDescription ⟨⟨0, [97, 98, 99]⟩⟩ :=
  sizeRight_iff .userDescription ⟨⟨0, [97, 98, 99]⟩⟩ rfl
    (show [97, 98, 99].length ≤ 255 by decide) trivial

/-- A clock description of nothing but empty texts and addresses takes 22 octets, and its size is
    given as 21. -/
theorem not_sizeRight_empty :
    tlvTextsFit .clockDescription default ∧ tlvAddressesFit .clockDescription default ∧
      dataFieldSize .clockDescription (some (.tlv .clockDescription default)) = 21 ∧
      WritesOctets (tlvF .clockDescription default) 22 ∧ ¬ SizeRight .clockDescription default := by
  have htexts : tlvTextsFit .clockDescription default := by
    exact ⟨Nat.zero_le 255, Nat.zero_le 255, Nat.zero_le 255, Nat.zero_le 255⟩
  have haddr : tlvAddressesFit .clockDescription default := by
    exact ⟨Nat.zero_lt_succ 65535, Nat.zero_lt_succ 65535⟩
  have hsize : dataFieldSize .clockDescription (some (.tlv .clockDescription default)) = 21 := by
    decide
  have hwrites : WritesOctets (tlvF .clockDescription default) 22 :=
    tlvF_writes .clockDescription default htexts haddr
  refine ⟨htexts, haddr, hsize, hwrites, ?_⟩
  rintro ⟨n, hn, hn'⟩
  have := hn'.unique hwrites
  omega

end PtpMgmt
