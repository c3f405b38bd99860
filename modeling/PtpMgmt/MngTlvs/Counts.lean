import PtpMgmt.MngTlvs.Proofs

set_option autoImplicit false

/-! # The counts of the tables

Five TLVs have a table behind a count. Their codec functions read the fields in front of the table and ask
`vector_f` for as many records as the count says, as a `uint32_t`. Two of the counts are signed, so a count
with its top bit set asks for about 2³² records and not for the 16-bit number on the wire. -/

namespace PtpMgmt

open Wire Codec

/-! ## Records that are read -/

section Binds

variable {α β γ : Type} (c : Proc α)

theorem run_bind_assoc (k : α → Proc β) (j : β → Proc γ) (s : MsgProc) :
    ((c >>= k) >>= j).run s = (c >>= fun a => k a >>= j).run s := by
  simp only [run_bind]
  rcases c.run s with ⟨_ | a, s'⟩ <;> rfl

theorem run_bind_congr {k k' : α → Proc β} {s : MsgProc}
    (h : ∀ a s', (k a).run s' = (k' a).run s') : (c >>= k).run s = (c >>= k').run s := by
  simp only [run_bind]
  rcases c.run s with ⟨_ | a, s'⟩
  · rfl
  · exact h a s'

theorem run_bind_fst_none {k : α → Proc β} {s : MsgProc} (h : (c.run s).1 = none) :
    ((c >>= k).run s).1 = none := by
  rw [run_bind_none h]

end Binds

/-- A loop that is done has read one value for each round. -/
theorem times_length {α : Type} {c : Proc α} {n : Nat} {s s' : MsgProc} {l : List α}
    (h : (times c n).run s = (some l, s')) : l.length = n := by
  induction n generalizing s l with
  | zero =>
      rw [times] at h
      cases h
      rfl
  | succ n ih =>
      rw [times, run_bind] at h
      split at h
      · next a s₁ _ =>
          rw [run_bind] at h
          split at h
          · next rest s₂ hrest =>
              cases h
              rw [List.length_cons, ih hrest]
          · cases h
      · cases h

theorem vectorF_length {α : Type} [Inhabited α] [HasProc α] {count : UInt32} {s s' : MsgProc}
    {l : List α} (hb : s.build = false) (h : (vectorF count ([] : List α)).run s = (some l, s')) :
    l.length = count.toNat := by
  rw [vectorF, run_bind_some (run_isBuild s), hb, if_neg Bool.false_ne_true, run_bind] at h
  split at h
  · next rest s₁ hrest =>
      cases h
      exact times_length hrest
  · cases h

/-! ## The TLVs -/

/-- The TLVs with a count and a table. -/
inductive CountedTlv
  | faultLog
  | grandmasterClusterTable
  | unicastMasterTable
  | acceptableMasterTable
  | unicastMasterTableNp
deriving DecidableEq

namespace CountedTlv

def id : CountedTlv → MngId
  | .faultLog => .faultLog
  | .grandmasterClusterTable => .grandmasterClusterTable
  | .unicastMasterTable => .unicastMasterTable
  | .acceptableMasterTable => .acceptableMasterTable
  | .unicastMasterTableNp => .unicastMasterTableNp

def Rec : CountedTlv → Type
  | .faultLog => FaultRecord
  | .grandmasterClusterTable | .unicastMasterTable => PortAddress
  | .acceptableMasterTable => AcceptableMaster
  | .unicastMasterTableNp => LinuxptpUnicastMaster

instance : (t : CountedTlv) → Inhabited t.Rec
  | .faultLog => inferInstanceAs (Inhabited FaultRecord)
  | .grandmasterClusterTable | .unicastMasterTable => inferInstanceAs (Inhabited PortAddress)
  | .acceptableMasterTable => inferInstanceAs (Inhabited AcceptableMaster)
  | .unicastMasterTableNp => inferInstanceAs (Inhabited LinuxptpUnicastMaster)

instance : (t : CountedTlv) → HasProc t.Rec
  | .faultLog => inferInstanceAs (HasProc FaultRecord)
  | .grandmasterClusterTable | .unicastMasterTable => inferInstanceAs (HasProc PortAddress)
  | .acceptableMasterTable => inferInstanceAs (HasProc AcceptableMaster)
  | .unicastMasterTableNp => inferInstanceAs (HasProc LinuxptpUnicastMaster)

/-- The table of the TLV. -/
def records : (t : CountedTlv) → Tlv t.id → List t.Rec
  | .faultLog, d => FaultLog.faultRecords d
  | .grandmasterClusterTable, d => GrandmasterClusterTable.portAddress d
  | .unicastMasterTable, d => UnicastMasterTable.portAddress d
  | .acceptableMasterTable, d => AcceptableMasterTable.list d
  | .unicastMasterTableNp, d => UnicastMasterTableNp.unicastMasters d

def setRecords : (t : CountedTlv) → Tlv t.id → List t.Rec → Tlv t.id
  | .faultLog, d, l => ({ (d : FaultLog) with faultRecords := l } : FaultLog)
  | .grandmasterClusterTable, d, l =>
    ({ (d : GrandmasterClusterTable) with portAddress := l } : GrandmasterClusterTable)
  | .unicastMasterTable, d, l => ({ (d : UnicastMasterTable) with portAddress := l } : UnicastMasterTable)
  | .acceptableMasterTable, d, l =>
    ({ (d : AcceptableMasterTable) with list := l } : AcceptableMasterTable)
  | .unicastMasterTableNp, d, l =>
    ({ (d : UnicastMasterTableNp) with unicastMasters := l } : UnicastMasterTableNp)

theorem records_setRecords (t : CountedTlv) (d : Tlv t.id) (l : List t.Rec) :
    t.records (t.setRecords d l) = l := by
  cases t <;> rfl

/-- Octets in front of the count. -/
def countOff : CountedTlv → Nat
  | .grandmasterClusterTable | .unicastMasterTable => 1
  | _ => 0

/-- Octets of the count. -/
def countLen : CountedTlv → Nat
  | .grandmasterClusterTable => 1
  | _ => 2

/-- The field of the count is an `Integer16_t`. -/
def signed : CountedTlv → Bool
  | .acceptableMasterTable | .unicastMasterTableNp => true
  | _ => false

/-- The count on the wire, as an unsigned value. -/
def wireCount (t : CountedTlv) (s : MsgProc) : Nat := beAt s.mem (s.cur + t.countOff) t.countLen

/-- A parse up to the table: the fields in front of it, and the count that `vector_f` is asked for. -/
def head : (t : CountedTlv) → Proc (Tlv t.id × UInt32)
  | .faultLog => do
    let numberOfFaultRecords ← proc (0 : UInt16)
    return (({ numberOfFaultRecords, faultRecords := [] } : FaultLog), numberOfFaultRecords.toUInt32)
  | .grandmasterClusterTable => do
    let logQueryInterval ← proc (0 : Int8)
    let actualTableSize ← proc (0 : UInt8)
    return (({ logQueryInterval, actualTableSize, portAddress := [] } : GrandmasterClusterTable),
      actualTableSize.toUInt32)
  | .unicastMasterTable => do
    let logQueryInterval ← proc (0 : Int8)
    let actualTableSize ← proc (0 : UInt16)
    return (({ logQueryInterval, actualTableSize, portAddress := [] } : UnicastMasterTable),
      actualTableSize.toUInt32)
  | .acceptableMasterTable => do
    let actualTableSize ← proc (0 : Int16)
    return (({ actualTableSize, list := [] } : AcceptableMasterTable),
      actualTableSize.toInt32.toUInt32)
  | .unicastMasterTableNp => do
    let actualTableSize ← proc (0 : Int16)
    return (({ actualTableSize, unicastMasters := [] } : UnicastMasterTableNp),
      actualTableSize.toInt32.toUInt32)

/-- The head of the TLV, and then `vector_f`. -/
def headed (t : CountedTlv) : Proc (Tlv t.id) := do
  let (d, count) ← t.head
  let l ← vectorF count []
  return t.setRecords d l

/-- The codec function is its head and then `vector_f`. -/
theorem tlvF_run (t : CountedTlv) {s : MsgProc} (hb : s.build = false) :
    (tlvF t.id default).run s = t.headed.run s := by
  cases t with
  | faultLog =>
      show (faultLogF default).run s = _
      rw [faultLogF, run_bind_some (run_isBuild s), hb, headed, head, run_bind_assoc]
      rfl
  | grandmasterClusterTable =>
      show (grandmasterClusterTableF default).run s = _
      rw [grandmasterClusterTableF, run_bind_some (run_isBuild s), hb, headed, head, run_bind_assoc]
      refine run_bind_congr (proc (0 : Int8)) fun logQueryInterval s' => ?_
      rw [run_bind_assoc]
      rfl
  | unicastMasterTable =>
      show (unicastMasterTableF default).run s = _
      rw [unicastMasterTableF, run_bind_some (run_isBuild s), hb, headed, head, run_bind_assoc]
      refine run_bind_congr (proc (0 : Int8)) fun logQueryInterval s' => ?_
      rw [run_bind_assoc]
      rfl
  | acceptableMasterTable =>
      show (acceptableMasterTableF default).run s = _
      rw [acceptableMasterTableF, run_bind_some (run_isBuild s), hb, headed, head, run_bind_assoc]
      rfl
  | unicastMasterTableNp =>
      show (unicastMasterTableNpF default).run s = _
      rw [unicastMasterTableNpF, run_bind_some (run_isBuild s), hb, headed, head, run_bind_assoc]
      rfl

/-! ## What is asked for -/

/-- The count of a table as `vector_f` gets it: a signed one is widened with its sign. -/
def asked (t : CountedTlv) (s : MsgProc) : Nat :=
  if t.signed = true ∧ 32768 ≤ t.wireCount s then t.wireCount s + 4294901760 else t.wireCount s

theorem wireCount_le (t : CountedTlv) (s : MsgProc) : t.wireCount s ≤ 65535 := by
  have hlt := beAt_lt s.mem (s.cur + t.countOff) t.countLen
  have hlen : 256 ^ t.countLen ≤ 65536 := by cases t <;> decide
  rw [wireCount]
  omega

/-- An unsigned count is widened to the same number. -/
theorem asked_of_not_signed {t : CountedTlv} {s : MsgProc} (h : t.signed = false) :
    t.asked s = t.wireCount s := by
  rw [asked, h, if_neg (by simp)]

theorem asked_eq_wireCount_iff (t : CountedTlv) (s : MsgProc) :
    t.asked s = t.wireCount s ↔ (t.signed = true → t.wireCount s < 32768) := by
  rw [asked]
  split
  · next h => exact iff_of_false (by omega) fun hlt => absurd h.2 (Nat.not_le.2 (hlt h.1))
  · next h => exact iff_of_true rfl fun hsigned => Nat.lt_of_not_le fun hle => h ⟨hsigned, hle⟩

/-- Sixteen bits as an `Integer16_t`, widened to a `uint32_t`. -/
theorem toNat_widened {w : Nat} (h : w < 65536) :
    (UInt16.ofNat w).toInt16.toInt32.toUInt32.toNat
      = if 32768 ≤ w then w + 4294901760 else w := by
  have hsame : (UInt16.ofNat w).toInt16.toInt32.toInt = (UInt16.ofNat w).toInt16.toInt :=
    Int16.toInt_toInt32 _
  have hnat : (UInt16.ofNat w).toBitVec.toNat = w := UInt16.toNat_ofNat_of_lt' h
  have hnarrow : (UInt16.ofNat w).toInt16.toInt = (UInt16.ofNat w).toBitVec.toInt := rfl
  have hwide : (UInt16.ofNat w).toInt16.toInt32.toInt
      = (UInt16.ofNat w).toInt16.toInt32.toUInt32.toBitVec.toInt := rfl
  have hlt := (UInt16.ofNat w).toInt16.toInt32.toUInt32.toBitVec.isLt
  rw [hwide, hnarrow, BitVec.toInt_eq_toNat_cond, BitVec.toInt_eq_toNat_cond, hnat] at hsame
  show (UInt16.ofNat w).toInt16.toInt32.toUInt32.toBitVec.toNat = _
  split_ifs at hsame ⊢ <;> omega

section Run

variable {s : MsgProc}

theorem run_procBU {α : Type} {len : Nat} {toNat : α → Nat} {ofNat : Nat → α} {val : α}
    (hb : s.build = false) (hroom : (len : Int) ≤ s.left) :
    (procBU len toNat ofNat val).run s = (some (ofNat (beAt s.mem s.cur len)), s.consume len) := by
  rw [procBU, field, run_bind_some (run_xfer_parse hb hroom),
    run_bind_some (run_isBuild _), Cursor.consume_build, hb, if_neg Bool.false_ne_true]
  rfl

theorem run_procBU_short {α : Type} {len : Nat} {toNat : α → Nat} {ofNat : Nat → α} {val : α}
    (hroom : s.left < len) : ((procBU len toNat ofNat val).run s).1 = none := by
  rw [procBU, field, run_bind_none (by rw [run_xfer_short hroom])]

/-- The count is read, and what `vector_f` gets is the count that is asked for. -/
theorem head_asks (t : CountedTlv) (hb : s.build = false)
    (hroom : ((t.countOff + t.countLen : Nat) : Int) ≤ s.left) :
    ∃ d n s', t.head.run s = (some (d, n), s') ∧ n.toNat = t.asked s := by
  have hle := t.wireCount_le s
  -- the counts have different types; a signed one is widened with its sign
  cases t with
  | faultLog =>
      have hcount : (proc (0 : UInt16)).run s = _ := run_procBU hb hroom
      rw [head, run_bind_some hcount]
      refine ⟨_, _, _, rfl, ?_⟩
      rw [asked_of_not_signed rfl]
      exact UInt16.toNat_ofNat_of_lt' (Nat.lt_succ_of_le hle)
  | grandmasterClusterTable =>
      have hlog : (proc (0 : Int8)).run s = _ :=
        run_procBU hb (by simp only [countOff, countLen] at hroom; push_cast at hroom ⊢; omega)
      have hcount : (proc (0 : UInt8)).run (s.consume 1) = _ :=
        run_procBU hb (by simp only [countOff, countLen, Cursor.consume_left] at hroom ⊢; omega)
      rw [head, run_bind_some hlog, run_bind_some hcount]
      refine ⟨_, _, _, rfl, ?_⟩
      rw [asked_of_not_signed rfl]
      exact UInt8.toNat_ofNat_of_lt' (beAt_lt s.mem (s.cur + 1) 1)
  | unicastMasterTable =>
      have hlog : (proc (0 : Int8)).run s = _ :=
        run_procBU hb (by simp only [countOff, countLen] at hroom; push_cast at hroom ⊢; omega)
      have hcount : (proc (0 : UInt16)).run (s.consume 1) = _ :=
        run_procBU hb (by simp only [countOff, countLen, Cursor.consume_left] at hroom ⊢; omega)
      rw [head, run_bind_some hlog, run_bind_some hcount]
      refine ⟨_, _, _, rfl, ?_⟩
      rw [asked_of_not_signed rfl]
      exact UInt16.toNat_ofNat_of_lt' (beAt_lt s.mem (s.cur + 1) 2)
  | acceptableMasterTable =>
      have hcount : (proc (0 : Int16)).run s = _ := run_procBU hb hroom
      rw [head, run_bind_some hcount]
      refine ⟨_, _, _, rfl, ?_⟩
      rw [asked]
      simp only [signed, true_and]
      exact toNat_widened (Nat.lt_succ_of_le hle)
  | unicastMasterTableNp =>
      have hcount : (proc (0 : Int16)).run s = _ := run_procBU hb hroom
      rw [head, run_bind_some hcount]
      refine ⟨_, _, _, rfl, ?_⟩
      rw [asked]
      simp only [signed, true_and]
      exact toNat_widened (Nat.lt_succ_of_le hle)

/-- Without room for the count `vector_f` is not called. -/
theorem head_short (t : CountedTlv) (hb : s.build = false)
    (hroom : s.left < (t.countOff + t.countLen : Nat)) : (t.head.run s).1 = none := by
  have hlog : 1 ≤ s.left → ∃ v, (proc (0 : Int8)).run s = (some v, s.consume 1) := fun hone =>
    ⟨_, run_procBU hb (by exact_mod_cast hone)⟩
  have hnone : s.left < 1 → ((proc (0 : Int8)).run s).1 = none := fun hone =>
    run_procBU_short (by exact_mod_cast hone)
  cases t with
  | faultLog => exact run_bind_fst_none (proc (0 : UInt16)) (run_procBU_short hroom)
  | acceptableMasterTable => exact run_bind_fst_none (proc (0 : Int16)) (run_procBU_short hroom)
  | unicastMasterTableNp => exact run_bind_fst_none (proc (0 : Int16)) (run_procBU_short hroom)
  | grandmasterClusterTable =>
      rw [head]
      by_cases hone : s.left < 1
      · exact run_bind_fst_none _ (hnone hone)
      · obtain ⟨v, hv⟩ := hlog (Int.not_lt.1 hone)
        rw [run_bind_some hv]
        refine run_bind_fst_none _ (run_procBU_short ?_)
        simp only [countOff, countLen, Cursor.consume_left] at hroom ⊢
        omega
  | unicastMasterTable =>
      rw [head]
      by_cases hone : s.left < 1
      · exact run_bind_fst_none _ (hnone hone)
      · obtain ⟨v, hv⟩ := hlog (Int.not_lt.1 hone)
        rw [run_bind_some hv]
        refine run_bind_fst_none _ (run_procBU_short ?_)
        simp only [countOff, countLen, Cursor.consume_left] at hroom ⊢
        omega

theorem headed_short (t : CountedTlv) (hb : s.build = false)
    (hroom : s.left < (t.countOff + t.countLen : Nat)) : (t.headed.run s).1 = none :=
  run_bind_fst_none t.head (t.head_short hb hroom)

end Run

/-- The decoder asks `vector_f` for the unsigned count on the wire, and a TLV that is decoded has that many
    records. -/
structure CountsUnsigned (t : CountedTlv) (s : MsgProc) : Prop where
  asks : ∀ d n s', t.head.run s = (some (d, n), s') → n.toNat = t.wireCount s
  holds : ∀ d s', (tlvF t.id default).run s = (some d, s') → (t.records d).length = t.wireCount s

/-- A TLV that is decoded has as many records as were asked for. -/
theorem records_length (t : CountedTlv) {s s' : MsgProc} (hb : s.build = false) {d : Tlv t.id}
    (h : (tlvF t.id default).run s = (some d, s')) : (t.records d).length = t.asked s := by
  rw [t.tlvF_run hb] at h
  by_cases hroom : ((t.countOff + t.countLen : Nat) : Int) ≤ s.left
  case neg =>
      have hnone := t.headed_short hb (Int.not_le.1 hroom)
      rw [h] at hnone
      cases hnone
  case pos =>
      obtain ⟨d', n, s₁, hhead, hasked⟩ := t.head_asks hb hroom
      have hbuild := (t.head.advances s).build_eq
      rw [hhead, hb] at hbuild
      rw [headed, run_bind_some hhead, run_bind] at h
      split at h
      · next l s₂ hvector =>
          cases h
          rw [records_setRecords, vectorF_length hbuild hvector, hasked]
      · cases h

/-- **The counts are used as unsigned numbers where they are, and where the top bit of a signed one is
    clear.** The codec function is its head, which reads the count, and `vector_f`; what the head gives to
    `vector_f` is the count on the wire exactly then. -/
theorem countsUnsigned_iff (t : CountedTlv) (s : MsgProc) (hb : s.build = false) :
    (tlvF t.id default).run s = t.headed.run s ∧
    (t.CountsUnsigned s ↔
      (((t.countOff + t.countLen : Nat) : Int) ≤ s.left → t.signed = true → t.wireCount s < 32768)) := by
  refine ⟨t.tlvF_run hb, ?_⟩
  constructor
  · intro hcounts hroom
    obtain ⟨d, n, s', hhead, hasked⟩ := t.head_asks hb hroom
    rw [← asked_eq_wireCount_iff, ← hasked]
    exact hcounts.asks d n s' hhead
  · intro hclear
    by_cases hroom : ((t.countOff + t.countLen : Nat) : Int) ≤ s.left
    case neg =>
        have hnone := t.head_short hb (Int.not_le.1 hroom)
        have hfail := t.headed_short hb (Int.not_le.1 hroom)
        refine ⟨fun d n s' hhead => ?_, fun d s' hrun => ?_⟩
        · rw [hhead] at hnone
          cases hnone
        · rw [t.tlvF_run hb] at hrun
          rw [hrun] at hfail
          cases hfail
    case pos =>
        have hasked := (asked_eq_wireCount_iff t s).2 (hclear hroom)
        refine ⟨fun d n s' hhead => ?_, fun d s' hrun => (t.records_length hb hrun).trans hasked⟩
        obtain ⟨d', n', s₁, hhead', hn'⟩ := t.head_asks hb hroom
        rw [hhead] at hhead'
        cases hhead'
        exact hn'.trans hasked

/-- A parse of a dataField that holds nothing but a count of 32768. -/
def bigCount : MsgProc where
  build := false
  cur := 0
  left := 2
  size := 0
  err := .tooSmall
  mem := fun o => if o = 0 then 0x80 else 0
  reads := []
  writes := []
  stuck := false

/-- A table of acceptable masters with this count: `vector_f` is asked for 4294934528 records. -/
theorem bigCount_not_unsigned : ¬ CountsUnsigned .acceptableMasterTable bigCount := by
  intro hcounts
  have hasked := hcounts.asks _ _ _ (run_bind_some (run_procBU (s := bigCount) rfl (by decide)))
  revert hasked
  decide

theorem countsUnsigned_iff_faultLog : CountsUnsigned .faultLog bigCount :=
  (countsUnsigned_iff .faultLog bigCount rfl).2.2 fun _ hsigned => absurd hsigned (by decide)

end CountedTlv

end PtpMgmt
