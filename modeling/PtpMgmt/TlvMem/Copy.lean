import PtpMgmt.MngTlvs.Wrap

set_option autoImplicit false

/-! # The deep copy of a C TLV (`ptpmgmt_tlv_mem_copyTlv`)

The structure is copied as it is, and every text, address and table that it points to is then copied to memory of
its own. Which of the memory behind the pointers belongs to a TLV is told by its lengths and counts, and for a path
by the identity of zeros that ends it: what is declared of a TLV is the TLV cut down to that. -/

namespace PtpMgmt

/-- How a copy ends early: it reads where nothing is, or a function of it returns false. -/
inductive CopyFault
  | outside
  | failed
  deriving DecidableEq

/-! ## Copies -/

/-- `_tlv_mem_copyText`. -/
def CPTPText.copy (t : CPTPText) : Except CopyFault CPTPText :=
  if t.lengthField > 0 ∧ t.textField.isNull = false then
    match t.textField.read t.lengthField.toNat with
    | none => .error .outside
    | some s => .ok { t with textField := .to (s ++ [0]) }
  else .error .failed

section Bloc

variable {α : Type}

/-- `_tlv_mem_copyBloc` of so many elements. The size of a negative count wraps around to one that no memory has. -/
def copyBloc (p : Ptr α) (count : Int) : Except CopyFault (List α) :=
  if count ≠ 0 ∧ p.isNull = false then
    if count < 0 then .error .outside
    else
      match p.read count.toNat with
      | none => .error .outside
      | some l => .ok l
  else .error .failed

/-- The copy of a table, and the loop over its elements. -/
def copyTbl (copy : α → Except CopyFault α) (p : Ptr α) (count : Int) : Except CopyFault (Ptr α) := do
  let l ← copyBloc p count
  return .to (← l.mapM copy)

end Bloc

/-- The copy of an address. -/
def CPortAddress.copy (a : CPortAddress) : Except CopyFault CPortAddress := do
  let addressField ← copyBloc a.addressField a.addressLength.toNat
  return { a with addressField := .to addressField }

def CFaultRecord.copy (r : CFaultRecord) : Except CopyFault CFaultRecord := do
  let faultName ← r.faultName.copy
  let faultValue ← r.faultValue.copy
  let faultDescription ← r.faultDescription.copy
  return { r with faultName, faultValue, faultDescription }

def CLinuxptpUnicastMaster.copy (m : CLinuxptpUnicastMaster) : Except CopyFault CLinuxptpUnicastMaster := do
  return { m with portAddress := ← m.portAddress.copy }

def CClockDescription.copy (a : CClockDescription) : Except CopyFault CClockDescription := do
  let physicalLayerProtocol ← a.physicalLayerProtocol.copy
  let productDescription ← a.productDescription.copy
  let revisionData ← a.revisionData.copy
  let userDescription ← a.userDescription.copy
  let physicalAddress ← copyBloc a.physicalAddress a.physicalAddressLength.toNat
  let protocolAddress ← a.protocolAddress.copy
  return { a with
    physicalLayerProtocol, productDescription, revisionData, userDescription, protocolAddress
    physicalAddress := .to physicalAddress }

/-- The size of `ptpmgmt_PATH_TRACE_LIST_t`: a pointer and a `size_t`, of `word` octets each. -/
def sizeofPathTraceList (word : Nat) : Nat := 2 * word

/-- The loop that looks for the end of the path counts in a variable of its own; what is copied is as many
    identities as the structure has octets. -/
def CPathTraceList.copy (word : Nat) (a : CPathTraceList) : Except CopyFault CPathTraceList :=
  match a.pathSequence with
  | .to l =>
    match pathUntilZero l with
    | none => .error .outside
    | some _ => do
      let pathSequence ← copyBloc a.pathSequence (sizeofPathTraceList word)
      return { a with pathSequence := .to pathSequence }
  | _ => .error .outside

/-- The switch of `ptpmgmt_tlv_mem_copyTlv`. -/
def tlvCopy (word : Nat) : (id : MngId) → CTlv id → Except CopyFault (CTlv id)
  | .clockDescription, a => a.copy
  | .userDescription, a => do return { a with userDescription := ← a.userDescription.copy }
  | .alternateTimeOffsetName, a => do return { a with displayName := ← a.displayName.copy }
  | .portPropertiesNp, a => do return { a with interface := ← a.interface.copy }
  | .faultLog, a => do
    return { a with faultRecords := ← copyTbl CFaultRecord.copy a.faultRecords a.numberOfFaultRecords.toNat }
  | .pathTraceList, a => a.copy word
  | .grandmasterClusterTable, a => do
    return { a with portAddress := ← copyTbl CPortAddress.copy a.portAddress a.actualTableSize.toNat }
  | .unicastMasterTable, a => do
    return { a with portAddress := ← copyTbl CPortAddress.copy a.portAddress a.actualTableSize.toNat }
  | .acceptableMasterTable, a => do return { a with list := ← copyTbl .ok a.list a.actualTableSize.toInt }
  | .unicastMasterTableNp, a => do
    return { a with unicastMasters := ← copyTbl CLinuxptpUnicastMaster.copy a.unicastMasters a.actualTableSize.toInt }
  | _, a => .ok a

/-- The TLV that `ptpmgmt_tlv_mem_t` holds. -/
structure HeldTlv where
  id : MngId
  tlv : Option (CTlv id)

/-- `ptpmgmt_tlv_mem_alloc`. -/
instance : Inhabited HeldTlv := ⟨⟨.nullPtpManagement, none⟩⟩

/-- `ptpmgmt_tlv_mem_copyTlv`, where all memory is allocated that it asks for: what it returns and what is held
    then. Nothing is a read where nothing is. -/
def copyTlv (word : Nat) (self : HeldTlv) (id : MngId) (tlv : Option (CTlv id)) : Option (Bool × HeldTlv) :=
  match tlv with
  | none => some (false, self)
  | some a =>
    if (mngAllVals id).func = .na then some (false, self)
    else
      match tlvCopy word id a with
      | .error .outside => none
      | .error .failed => some (false, self)
      | .ok ntlv => some (true, ⟨id, some ntlv⟩)

/-! ## What is declared -/

def CPTPText.declared (t : CPTPText) : Option CPTPText :=
  if t.lengthField = 0 ∨ t.textField.isNull = true then some { t with textField := .null }
  else (t.textField.read t.lengthField.toNat).map fun s => { t with textField := .to s }

section Bloc

variable {α : Type}

/-- An address is empty without a length, and without a pointer. -/
def declaredBloc (p : Ptr α) (count : Nat) : Option (Ptr α) :=
  if count = 0 ∨ p.isNull = true then some .null else (p.read count).map .to

/-- A table is empty without a count. -/
def declaredTbl (declared : α → Option α) (p : Ptr α) (count : Int) : Option (Ptr α) :=
  if count = 0 then some .null
  else if count < 0 then none
  else (p.read count.toNat).bind fun l => (l.mapM declared).map .to

end Bloc

def CPortAddress.declared (a : CPortAddress) : Option CPortAddress :=
  (declaredBloc a.addressField a.addressLength.toNat).map fun addressField => { a with addressField }

def CFaultRecord.declared (r : CFaultRecord) : Option CFaultRecord := do
  let faultName ← r.faultName.declared
  let faultValue ← r.faultValue.declared
  let faultDescription ← r.faultDescription.declared
  return { r with faultName, faultValue, faultDescription }

def CLinuxptpUnicastMaster.declared (m : CLinuxptpUnicastMaster) : Option CLinuxptpUnicastMaster :=
  m.portAddress.declared.map fun portAddress => { m with portAddress }

def CClockDescription.declared (a : CClockDescription) : Option CClockDescription := do
  let physicalLayerProtocol ← a.physicalLayerProtocol.declared
  let productDescription ← a.productDescription.declared
  let revisionData ← a.revisionData.declared
  let userDescription ← a.userDescription.declared
  let physicalAddress ← declaredBloc a.physicalAddress a.physicalAddressLength.toNat
  let protocolAddress ← a.protocolAddress.declared
  return { a with
    physicalLayerProtocol, productDescription, revisionData, userDescription, physicalAddress, protocolAddress }

def CPathTraceList.declared (a : CPathTraceList) : Option CPathTraceList :=
  match a.pathSequence with
  | .null => some a
  | .wild => none
  | .to l => (pathUntilZero l).map fun path => { a with pathSequence := .to (path ++ [ClockIdentity.zero]) }

/-- A TLV cut down to what it declares; nothing when that is not there. -/
def tlvDeclared : (id : MngId) → CTlv id → Option (CTlv id)
  | .clockDescription, a => a.declared
  | .userDescription, a => a.userDescription.declared.map fun userDescription => { a with userDescription }
  | .alternateTimeOffsetName, a => a.displayName.declared.map fun displayName => { a with displayName }
  | .portPropertiesNp, a => a.interface.declared.map fun interface => { a with interface }
  | .faultLog, a => (declaredTbl CFaultRecord.declared a.faultRecords a.numberOfFaultRecords.toNat).map
      fun faultRecords => { a with faultRecords }
  | .pathTraceList, a => a.declared
  | .grandmasterClusterTable, a => (declaredTbl CPortAddress.declared a.portAddress a.actualTableSize.toNat).map
      fun portAddress => { a with portAddress }
  | .unicastMasterTable, a => (declaredTbl CPortAddress.declared a.portAddress a.actualTableSize.toNat).map
      fun portAddress => { a with portAddress }
  | .acceptableMasterTable, a => (declaredTbl some a.list a.actualTableSize.toInt).map fun list => { a with list }
  | .unicastMasterTableNp, a =>
    (declaredTbl CLinuxptpUnicastMaster.declared a.unicastMasters a.actualTableSize.toInt).map
      fun unicastMasters => { a with unicastMasters }
  | _, a => some a

/-! ## What a copy does -/

theorem except_bind_ok {ε α β : Type} {x : Except ε α} {f : α → Except ε β} {b : β} :
    x >>= f = .ok b ↔ ∃ a, x = .ok a ∧ f a = .ok b := by
  cases x with
  | error e => simp [bind, Except.bind]
  | ok a => simp [bind, Except.bind]

/-- A copy of a value of a kind: where it is full, it comes out with what was declared, and nothing but what was
    declared is read; and it comes out of nothing else. -/
structure Copies {α : Type} (declared : α → Option α) (copy : α → Except CopyFault α) (Full : α → Prop) : Prop where
  full : ∀ {x x₀}, declared x = some x₀ → Full x →
    ∃ x', copy x = .ok x' ∧ declared x' = some x₀ ∧ copy x₀ = .ok x'
  of_ok : ∀ {x x'}, copy x = .ok x' → Full x

theorem Ptr.read_some {α : Type} {p : Ptr α} {n : Nat} {l : List α} (h : p.read n = some l) : l.length = n := by
  induction n generalizing l with
  | zero =>
    simp only [Ptr.read, Option.some.injEq] at h
    rw [← h, List.length_nil]
  | succ n ih =>
    obtain ⟨l', hl', h⟩ := Option.bind_eq_some_iff.1 h
    obtain ⟨x, -, rfl⟩ := Option.map_eq_some_iff.1 h
    rw [List.length_append, ih hl', List.length_singleton]

/-- What was read is read again. -/
theorem Ptr.read_again {α : Type} {p : Ptr α} {n : Nat} {l : List α} (h : p.read n = some l) (rest : List α) :
    (Ptr.to (l ++ rest)).read n = some l := by
  have hlen := Ptr.read_some h
  rw [Ptr.read_to (by simp [hlen]), List.take_left' hlen]

/-- A text with octets. -/
def CPTPText.Full (t : CPTPText) : Prop := t.lengthField ≠ 0 ∧ t.textField.isNull = false

theorem CPTPText.copies : Copies CPTPText.declared CPTPText.copy CPTPText.Full where
  full := by
    intro t t₀ hdeclared hfull
    obtain ⟨hlen, hnull⟩ := hfull
    have hpos : t.lengthField > 0 := UInt8.pos_iff_ne_zero.2 hlen
    rw [CPTPText.declared, if_neg (by simp [hlen, hnull])] at hdeclared
    obtain ⟨s, hs, rfl⟩ := Option.map_eq_some_iff.1 hdeclared
    refine ⟨{ t with textField := .to (s ++ [0]) }, ?_, ?_, ?_⟩
    · rw [CPTPText.copy, if_pos ⟨hpos, hnull⟩, hs]
    · rw [CPTPText.declared, if_neg (by simp [hlen, Ptr.isNull])]
      simp [Ptr.read_again hs]
    · have hagain := Ptr.read_again hs []
      rw [List.append_nil] at hagain
      rw [CPTPText.copy, if_pos ⟨hpos, rfl⟩]
      simp [hagain]
  of_ok := by
    intro t t' h
    rw [CPTPText.copy] at h
    split at h
    next hfull => exact ⟨UInt8.pos_iff_ne_zero.1 hfull.1, hfull.2⟩
    next => simp at h

section Bloc

variable {α : Type} {declared : α → Option α} {copy : α → Except CopyFault α} {Full : α → Prop}

theorem copyBloc_ok {p : Ptr α} {count : Int} {l : List α} (h : copyBloc p count = .ok l) :
    0 < count ∧ p.isNull = false ∧ p.read count.toNat = some l := by
  rw [copyBloc] at h
  split at h
  next hne =>
    split at h
    next => simp at h
    next hneg =>
      split at h
      next => simp at h
      next l' hread =>
        simp only [Except.ok.injEq] at h
        exact ⟨by omega, hne.2, h ▸ hread⟩
  next => simp at h

theorem isNull_of_read {p : Ptr α} {n : Nat} {l : List α} (hn : 0 < n) (h : p.read n = some l) :
    p.isNull = false := by
  cases p with
  | null =>
    obtain ⟨n, rfl⟩ := Nat.exists_eq_succ_of_ne_zero hn.ne'
    simp [Ptr.read, Ptr.get?] at h
  | _ => rfl

theorem copyBloc_eq {p : Ptr α} {count : Int} {l : List α} (hpos : 0 < count)
    (hread : p.read count.toNat = some l) : copyBloc p count = .ok l := by
  rw [copyBloc, if_pos ⟨hpos.ne', isNull_of_read (by omega) hread⟩, if_neg (by omega), hread]

theorem mapM_copies (h : Copies declared copy Full) {l l₀ : List α} (hdeclared : l.mapM declared = some l₀)
    (hfull : ∀ x ∈ l, Full x) :
    ∃ l', (l.mapM copy = .ok l' ∧ l'.mapM declared = some l₀ ∧ l₀.mapM copy = .ok l') ∧
      l'.length = l.length ∧ l₀.length = l.length := by
  induction l generalizing l₀ with
  | nil =>
    simp only [List.mapM_nil, Option.pure_def, Option.some.injEq] at hdeclared
    subst hdeclared
    exact ⟨[], ⟨rfl, rfl, rfl⟩, rfl, rfl⟩
  | cons x l ih =>
    rw [List.mapM_cons] at hdeclared
    obtain ⟨x₀, hx₀, hdeclared⟩ := Option.bind_eq_some_iff.1 hdeclared
    obtain ⟨l₁, hl₁, hdeclared⟩ := Option.bind_eq_some_iff.1 hdeclared
    simp only [Option.pure_def, Option.some.injEq] at hdeclared
    subst hdeclared
    obtain ⟨x', hcopy, hsame, hagain⟩ := h.full hx₀ (hfull x List.mem_cons_self)
    obtain ⟨l', ⟨hcopies, hsames, hagains⟩, hlen, hlen₀⟩ := ih hl₁ fun y hy => hfull y (List.mem_cons_of_mem _ hy)
    refine ⟨x' :: l', ⟨?_, ?_, ?_⟩, by simp [hlen], by simp [hlen₀]⟩
    · rw [List.mapM_cons, hcopy, hcopies]
      rfl
    · rw [List.mapM_cons, hsame, hsames]
      rfl
    · rw [List.mapM_cons, hagain, hagains]
      rfl

theorem mapM_full (h : Copies declared copy Full) {l l' : List α} (hcopy : l.mapM copy = .ok l') :
    ∀ x ∈ l, Full x := by
  induction l generalizing l' with
  | nil => simp
  | cons x l ih =>
    rw [List.mapM_cons] at hcopy
    obtain ⟨x', hx', hcopy⟩ := except_bind_ok.1 hcopy
    obtain ⟨l₁, hl₁, -⟩ := except_bind_ok.1 hcopy
    intro y hy
    rcases List.mem_cons.1 hy with rfl | hmem
    · exact h.of_ok hx'
    · exact ih hl₁ y hmem

/-- A table with elements, each of them full. -/
def FullTbl (Full : α → Prop) (count : Int) (p : Ptr α) : Prop :=
  0 < count ∧ ∃ l, p.read count.toNat = some l ∧ ∀ x ∈ l, Full x

theorem copiesTbl (h : Copies declared copy Full) (count : Int) :
    Copies (declaredTbl declared · count) (copyTbl copy · count) (FullTbl Full count) where
  full := by
    rintro p p₀ hdeclared ⟨hpos, l, hread, hfull⟩
    rw [declaredTbl, if_neg hpos.ne', if_neg (by omega), hread, Option.bind_some] at hdeclared
    obtain ⟨l₀, hl₀, rfl⟩ := Option.map_eq_some_iff.1 hdeclared
    obtain ⟨l', ⟨hcopies, hsames, hagains⟩, hlen, hlen₀⟩ := mapM_copies h hl₀ hfull
    have hcount := Ptr.read_some hread
    have hreads : ∀ l₁ : List α, l₁.length = l.length → (Ptr.to l₁).read count.toNat = some l₁ := by
      intro l₁ hlen₁
      rw [Ptr.read_to (by omega), List.take_of_length_le (by omega)]
    refine ⟨.to l', ?_, ?_, ?_⟩
    · exact except_bind_ok.2 ⟨l, copyBloc_eq hpos hread, except_bind_ok.2 ⟨l', hcopies, rfl⟩⟩
    · rw [declaredTbl, if_neg hpos.ne', if_neg (by omega), hreads l' hlen, Option.bind_some, hsames]
      rfl
    · exact except_bind_ok.2 ⟨l₀, copyBloc_eq hpos (hreads l₀ hlen₀), except_bind_ok.2 ⟨l', hagains, rfl⟩⟩
  of_ok := by
    intro p p' hcopy
    obtain ⟨l, hl, hcopy⟩ := except_bind_ok.1 hcopy
    obtain ⟨l', hl', -⟩ := except_bind_ok.1 hcopy
    obtain ⟨hpos, -, hread⟩ := copyBloc_ok hl
    exact ⟨hpos, l, hread, mapM_full h hl'⟩

end Bloc

/-! ## Addresses and records -/

/-- An address with octets. -/
def FullBloc {α : Type} (p : Ptr α) (count : Nat) : Prop := count ≠ 0 ∧ p.isNull = false

theorem copyBloc_full {α : Type} {p p₀ : Ptr α} {count : Nat} (hdeclared : declaredBloc p count = some p₀)
    (hfull : FullBloc p count) : ∃ l, copyBloc p count = .ok l ∧ declaredBloc (.to l) count = some p₀ ∧
      copyBloc p₀ count = .ok l := by
  obtain ⟨hcount, hnull⟩ := hfull
  rw [declaredBloc, if_neg (by simp [hcount, hnull])] at hdeclared
  obtain ⟨l, hl, rfl⟩ := Option.map_eq_some_iff.1 hdeclared
  have hagain := Ptr.read_again hl []
  rw [List.append_nil] at hagain
  refine ⟨l, copyBloc_eq (by omega) hl, ?_, copyBloc_eq (by omega) hagain⟩
  rw [declaredBloc, if_neg (by simp [hcount, Ptr.isNull]), hagain]
  rfl

theorem fullBloc_of_ok {α : Type} {p : Ptr α} {count : Nat} {l : List α} (h : copyBloc p count = .ok l) :
    FullBloc p count := by
  obtain ⟨hpos, hnull, -⟩ := copyBloc_ok h
  exact ⟨by omega, hnull⟩

def CPortAddress.Full (a : CPortAddress) : Prop := FullBloc a.addressField a.addressLength.toNat

theorem CPortAddress.copies : Copies CPortAddress.declared CPortAddress.copy CPortAddress.Full where
  full := by
    intro a a₀ hdeclared hfull
    obtain ⟨p₀, hp₀, rfl⟩ := Option.map_eq_some_iff.1 hdeclared
    obtain ⟨l, hcopy, hsame, hagain⟩ := copyBloc_full hp₀ hfull
    refine ⟨{ a with addressField := .to l }, except_bind_ok.2 ⟨l, hcopy, rfl⟩, ?_, except_bind_ok.2 ⟨l, hagain, rfl⟩⟩
    simp only [CPortAddress.declared, hsame, Option.map_some]
  of_ok := by
    intro a a' h
    obtain ⟨l, hl, -⟩ := except_bind_ok.1 h
    exact fullBloc_of_ok hl

def CFaultRecord.Full (r : CFaultRecord) : Prop :=
  r.faultName.Full ∧ r.faultValue.Full ∧ r.faultDescription.Full

theorem CFaultRecord.copies : Copies CFaultRecord.declared CFaultRecord.copy CFaultRecord.Full where
  full := by
    rintro r r₀ hdeclared ⟨hname, hvalue, hdescription⟩
    obtain ⟨name₀, hname₀, hdeclared⟩ := Option.bind_eq_some_iff.1 hdeclared
    obtain ⟨value₀, hvalue₀, hdeclared⟩ := Option.bind_eq_some_iff.1 hdeclared
    obtain ⟨description₀, hdescription₀, hdeclared⟩ := Option.bind_eq_some_iff.1 hdeclared
    simp only [Option.pure_def, Option.some.injEq] at hdeclared
    subst hdeclared
    obtain ⟨faultName, hname, hname', hname''⟩ := CPTPText.copies.full hname₀ hname
    obtain ⟨faultValue, hvalue, hvalue', hvalue''⟩ := CPTPText.copies.full hvalue₀ hvalue
    obtain ⟨faultDescription, hdesc, hdesc', hdesc''⟩ := CPTPText.copies.full hdescription₀ hdescription
    refine ⟨{ r with faultName, faultValue, faultDescription }, ?_, ?_, ?_⟩
    · simp only [CFaultRecord.copy, hname, hvalue, hdesc]
      rfl
    · simp only [CFaultRecord.declared, hname', hvalue', hdesc']
      rfl
    · simp only [CFaultRecord.copy, hname'', hvalue'', hdesc'']
      rfl
  of_ok := by
    intro r r' h
    obtain ⟨_, hname, h⟩ := except_bind_ok.1 h
    obtain ⟨_, hvalue, h⟩ := except_bind_ok.1 h
    obtain ⟨_, hdescription, -⟩ := except_bind_ok.1 h
    exact ⟨CPTPText.copies.of_ok hname, CPTPText.copies.of_ok hvalue, CPTPText.copies.of_ok hdescription⟩

def CLinuxptpUnicastMaster.Full (m : CLinuxptpUnicastMaster) : Prop := m.portAddress.Full

/-- A structure with one part that is copied, in a way that the rest of it tells. -/
theorem Copies.part {α β ι : Type} {declared : ι → α → Option α} {copy : ι → α → Except CopyFault α}
    {Full : ι → α → Prop} (h : ∀ i, Copies (declared i) (copy i) (Full i)) (way : β → ι) (get : β → α)
    (set : β → α → β) (hget : ∀ b a, get (set b a) = a) (hset : ∀ b a a', set (set b a) a' = set b a')
    (hway : ∀ b a, way (set b a) = way b) :
    Copies (fun b => (declared (way b) (get b)).map (set b))
      (fun b => copy (way b) (get b) >>= fun a => pure (set b a)) fun b => Full (way b) (get b) where
  full := by
    intro b b₀ hdeclared hfull
    obtain ⟨a₀, ha₀, rfl⟩ := Option.map_eq_some_iff.1 hdeclared
    obtain ⟨a', hcopy, hsame, hagain⟩ := (h _).full ha₀ hfull
    refine ⟨set b a', except_bind_ok.2 ⟨a', hcopy, rfl⟩, ?_, ?_⟩
    · rw [hget, hway, hsame, Option.map_some, hset]
    · rw [hget, hway]
      exact except_bind_ok.2 ⟨a', hagain, by rw [hset]; rfl⟩
  of_ok := by
    intro b b' hcopy
    obtain ⟨a', ha', -⟩ := except_bind_ok.1 hcopy
    exact (h _).of_ok ha'

theorem CLinuxptpUnicastMaster.copies :
    Copies CLinuxptpUnicastMaster.declared CLinuxptpUnicastMaster.copy CLinuxptpUnicastMaster.Full :=
  .part (fun _ : Unit => CPortAddress.copies) (fun _ => ()) CLinuxptpUnicastMaster.portAddress
    (fun m portAddress => { m with portAddress }) (fun _ _ => rfl) (fun _ _ _ => rfl) fun _ _ => rfl

def CClockDescription.Full (a : CClockDescription) : Prop :=
  a.physicalLayerProtocol.Full ∧ a.productDescription.Full ∧ a.revisionData.Full ∧ a.userDescription.Full ∧
    FullBloc a.physicalAddress a.physicalAddressLength.toNat ∧ a.protocolAddress.Full

theorem CClockDescription.copies : Copies CClockDescription.declared CClockDescription.copy CClockDescription.Full where
  full := by
    rintro a a₀ hdeclared ⟨hlayer, hproduct, hrevision, huser, hphysical, hprotocol⟩
    obtain ⟨layer₀, hlayer₀, hdeclared⟩ := Option.bind_eq_some_iff.1 hdeclared
    obtain ⟨product₀, hproduct₀, hdeclared⟩ := Option.bind_eq_some_iff.1 hdeclared
    obtain ⟨revision₀, hrevision₀, hdeclared⟩ := Option.bind_eq_some_iff.1 hdeclared
    obtain ⟨user₀, huser₀, hdeclared⟩ := Option.bind_eq_some_iff.1 hdeclared
    obtain ⟨physical₀, hphysical₀, hdeclared⟩ := Option.bind_eq_some_iff.1 hdeclared
    obtain ⟨protocol₀, hprotocol₀, hdeclared⟩ := Option.bind_eq_some_iff.1 hdeclared
    simp only [Option.pure_def, Option.some.injEq] at hdeclared
    subst hdeclared
    obtain ⟨physicalLayerProtocol, hlayer, hlayer', hlayer''⟩ := CPTPText.copies.full hlayer₀ hlayer
    obtain ⟨productDescription, hproduct, hproduct', hproduct''⟩ := CPTPText.copies.full hproduct₀ hproduct
    obtain ⟨revisionData, hrevision, hrevision', hrevision''⟩ := CPTPText.copies.full hrevision₀ hrevision
    obtain ⟨userDescription, huser, huser', huser''⟩ := CPTPText.copies.full huser₀ huser
    obtain ⟨l, hphysical, hphysical', hphysical''⟩ := copyBloc_full hphysical₀ hphysical
    obtain ⟨protocolAddress, hprotocol, hprotocol', hprotocol''⟩ := CPortAddress.copies.full hprotocol₀ hprotocol
    refine ⟨{ a with physicalLayerProtocol, productDescription, revisionData, userDescription, protocolAddress,
                     physicalAddress := .to l }, ?_, ?_, ?_⟩
    · simp only [CClockDescription.copy, hlayer, hproduct, hrevision, huser, hphysical, hprotocol]
      rfl
    · simp only [CClockDescription.declared, hlayer', hproduct', hrevision', huser', hphysical', hprotocol']
      rfl
    · simp only [CClockDescription.copy, hlayer'', hproduct'', hrevision'', huser'', hphysical'', hprotocol'']
      rfl
  of_ok := by
    intro a a' h
    obtain ⟨_, hlayer, h⟩ := except_bind_ok.1 h
    obtain ⟨_, hproduct, h⟩ := except_bind_ok.1 h
    obtain ⟨_, hrevision, h⟩ := except_bind_ok.1 h
    obtain ⟨_, huser, h⟩ := except_bind_ok.1 h
    obtain ⟨_, hphysical, h⟩ := except_bind_ok.1 h
    obtain ⟨_, hprotocol, -⟩ := except_bind_ok.1 h
    exact ⟨CPTPText.copies.of_ok hlayer, CPTPText.copies.of_ok hproduct, CPTPText.copies.of_ok hrevision,
      CPTPText.copies.of_ok huser, fullBloc_of_ok hphysical, CPortAddress.copies.of_ok hprotocol⟩

/-! ## The path -/

/-- A path whose identities, with the one that ends it, are as many as the structure has octets. -/
def CPathTraceList.Full (word : Nat) (a : CPathTraceList) : Prop :=
  ∃ l path, a.pathSequence = .to l ∧ pathUntilZero l = some path ∧ path.length + 1 = sizeofPathTraceList word

theorem pathUntilZero_take {l path : List ClockIdentity} (h : pathUntilZero l = some path) :
    path.length < l.length ∧ l.take (path.length + 1) = path ++ [ClockIdentity.zero] := by
  induction l generalizing path with
  | nil => simp [pathUntilZero] at h
  | cons v l ih =>
    rw [pathUntilZero] at h
    split at h
    next hzero =>
      simp only [Option.some.injEq] at h
      subst h hzero
      simp
    next =>
      obtain ⟨path', hpath', rfl⟩ := Option.map_eq_some_iff.1 h
      obtain ⟨hlt, htake⟩ := ih hpath'
      exact ⟨by simp; omega, by simp [htake]⟩

theorem pathUntilZero_ended {l path : List ClockIdentity} (h : pathUntilZero l = some path) :
    pathUntilZero (path ++ [ClockIdentity.zero]) = some path := by
  induction l generalizing path with
  | nil => simp [pathUntilZero] at h
  | cons v l ih =>
    rw [pathUntilZero] at h
    split at h
    next hzero =>
      simp only [Option.some.injEq] at h
      subst h
      rfl
    next hzero =>
      obtain ⟨path', hpath', rfl⟩ := Option.map_eq_some_iff.1 h
      rw [List.cons_append, pathUntilZero, if_neg hzero, ih hpath']
      rfl

/-- What is promised of a copy: it comes out with what was declared, and what is behind that does not matter. -/
def CopiesRight {α : Type} (declared : α → Option α) (copy : α → Except CopyFault α) (x : α) : Prop :=
  ∃ x₀ x', declared x = some x₀ ∧ copy x = .ok x' ∧ declared x' = some x₀ ∧ copy x₀ = .ok x'

theorem Copies.right_iff {α : Type} {declared : α → Option α} {copy : α → Except CopyFault α} {Full : α → Prop}
    (h : Copies declared copy Full) {x : α} (hx : (declared x).isSome = true) :
    CopiesRight declared copy x ↔ Full x := by
  constructor
  · rintro ⟨x₀, x', -, hcopy, -⟩
    exact h.of_ok hcopy
  · intro hfull
    obtain ⟨x₀, hx₀⟩ := Option.isSome_iff_exists.1 hx
    obtain ⟨x', hright⟩ := h.full hx₀ hfull
    exact ⟨x₀, x', hx₀, hright⟩

theorem copyPath_eq {word : Nat} {a : CPathTraceList} {l path : List ClockIdentity} (hl : a.pathSequence = .to l)
    (hpath : pathUntilZero l = some path) (hword : 0 < word) (hlen : sizeofPathTraceList word ≤ l.length) :
    a.copy word = .ok { a with pathSequence := .to (l.take (sizeofPathTraceList word)) } := by
  have hbloc : copyBloc (.to l) (sizeofPathTraceList word : Nat) = .ok (l.take (sizeofPathTraceList word)) :=
    copyBloc_eq (by simp [sizeofPathTraceList, hword]) (Ptr.read_to hlen)
  simp only [CPathTraceList.copy, hl, hpath]
  exact except_bind_ok.2 ⟨_, hbloc, rfl⟩

/-- **A path is copied right when it has just as many identities as the structure has octets.** -/
theorem CPathTraceList.right_iff {word : Nat} (hword : 0 < word) (a : CPathTraceList) :
    CopiesRight CPathTraceList.declared (CPathTraceList.copy word) a ↔ a.Full word := by
  constructor
  · rintro ⟨a₀, a', hdeclared, hcopy, hsame, hagain⟩
    rcases hp : a.pathSequence with - | - | l
    · simp [CPathTraceList.copy, hp] at hcopy
    · simp [CPathTraceList.copy, hp] at hcopy
    · simp only [CPathTraceList.declared, hp] at hdeclared
      obtain ⟨path, hpath, rfl⟩ := Option.map_eq_some_iff.1 hdeclared
      refine ⟨l, path, hp, hpath, ?_⟩
      have hended := pathUntilZero_ended hpath
      -- the copy of what is declared does not leave it
      have hle : sizeofPathTraceList word ≤ path.length + 1 := by
        simp only [CPathTraceList.copy, hended] at hagain
        obtain ⟨l', hl', -⟩ := except_bind_ok.1 hagain
        obtain ⟨-, -, hread⟩ := copyBloc_ok hl'
        by_contra hlt
        have hshort : ∀ n l, (Ptr.to (path ++ [ClockIdentity.zero])).read n = some l → n ≤ path.length + 1 := by
          intro n l hl
          cases n with
          | zero => omega
          | succ n =>
            obtain ⟨_, -, hl⟩ := Option.bind_eq_some_iff.1 hl
            obtain ⟨x, hx, -⟩ := Option.map_eq_some_iff.1 hl
            obtain ⟨hn, -⟩ := List.getElem?_eq_some_iff.1 hx
            rw [List.length_append, List.length_singleton] at hn
            exact hn
        exact hlt (by simpa using hshort _ _ hread)
      -- and the end is in the copy
      have hge : path.length + 1 ≤ sizeofPathTraceList word := by
        obtain ⟨hlt, -⟩ := pathUntilZero_take hpath
        rw [copyPath_eq hp hpath hword (by omega), Except.ok.injEq] at hcopy
        subst hcopy
        simp only [CPathTraceList.declared] at hsame
        obtain ⟨path', hpath', heq⟩ := Option.map_eq_some_iff.1 hsame
        simp only [CPathTraceList.mk.injEq, Ptr.to.injEq, List.append_left_inj, and_true] at heq
        subst heq
        obtain ⟨hlt', -⟩ := pathUntilZero_take hpath'
        rw [List.length_take] at hlt'
        omega
      omega
  · rintro ⟨l, path, hl, hpath, hlen⟩
    obtain ⟨hlt, htake⟩ := pathUntilZero_take hpath
    have hended := pathUntilZero_ended hpath
    refine ⟨{ a with pathSequence := .to (path ++ [ClockIdentity.zero]) },
      { a with pathSequence := .to (path ++ [ClockIdentity.zero]) }, ?_, ?_, ?_, ?_⟩
    · simp only [CPathTraceList.declared, hl, hpath, Option.map_some]
    · rw [copyPath_eq hl hpath hword (by omega), ← hlen, htake]
    · simp only [CPathTraceList.declared, hended, Option.map_some]
    · rw [copyPath_eq rfl hended hword (by simp [hlen]), ← hlen, List.take_of_length_le (by simp)]

/-! ## TLVs -/

/-- No text, address or table is empty, and a path has the length of the structure. -/
def TlvFull (word : Nat) : (id : MngId) → CTlv id → Prop
  | .clockDescription, a => a.Full
  | .userDescription, a => a.userDescription.Full
  | .alternateTimeOffsetName, a => a.displayName.Full
  | .portPropertiesNp, a => a.interface.Full
  | .faultLog, a => FullTbl CFaultRecord.Full a.numberOfFaultRecords.toNat a.faultRecords
  | .pathTraceList, a => a.Full word
  | .grandmasterClusterTable, a => FullTbl CPortAddress.Full a.actualTableSize.toNat a.portAddress
  | .unicastMasterTable, a => FullTbl CPortAddress.Full a.actualTableSize.toNat a.portAddress
  | .acceptableMasterTable, a => FullTbl (fun _ => True) a.actualTableSize.toInt a.list
  | .unicastMasterTableNp, a => FullTbl CLinuxptpUnicastMaster.Full a.actualTableSize.toInt a.unicastMasters
  | _, _ => True

theorem tlv_copies (word : Nat) {id : MngId} (hid : id ≠ .pathTraceList) :
    Copies (tlvDeclared id) (tlvCopy word id) (TlvFull word id) := by
  cases id
  case pathTraceList => exact absurd rfl hid
  case clockDescription => exact CClockDescription.copies
  case userDescription =>
    exact .part (fun _ : Unit => CPTPText.copies) (fun _ => ()) CUserDescription.userDescription
      (fun a userDescription => { a with userDescription }) (fun _ _ => rfl) (fun _ _ _ => rfl) fun _ _ => rfl
  case alternateTimeOffsetName =>
    exact .part (fun _ : Unit => CPTPText.copies) (fun _ => ()) CAlternateTimeOffsetName.displayName
      (fun a displayName => { a with displayName }) (fun _ _ => rfl) (fun _ _ _ => rfl) fun _ _ => rfl
  case portPropertiesNp =>
    exact .part (fun _ : Unit => CPTPText.copies) (fun _ => ()) CPortPropertiesNp.interface
      (fun a interface => { a with interface }) (fun _ _ => rfl) (fun _ _ _ => rfl) fun _ _ => rfl
  case faultLog =>
    exact .part (copiesTbl CFaultRecord.copies) (fun a : CFaultLog => a.numberOfFaultRecords.toNat)
      CFaultLog.faultRecords (fun a faultRecords => { a with faultRecords }) (fun _ _ => rfl) (fun _ _ _ => rfl)
      fun _ _ => rfl
  case grandmasterClusterTable =>
    exact .part (copiesTbl CPortAddress.copies) (fun a : CGrandmasterClusterTable => a.actualTableSize.toNat)
      CGrandmasterClusterTable.portAddress (fun a portAddress => { a with portAddress }) (fun _ _ => rfl)
      (fun _ _ _ => rfl) fun _ _ => rfl
  case unicastMasterTable =>
    exact .part (copiesTbl CPortAddress.copies) (fun a : CUnicastMasterTable => a.actualTableSize.toNat)
      CUnicastMasterTable.portAddress (fun a portAddress => { a with portAddress }) (fun _ _ => rfl)
      (fun _ _ _ => rfl) fun _ _ => rfl
  case acceptableMasterTable =>
    have hwhole : Copies (some : AcceptableMaster → _) .ok fun _ => True :=
      ⟨fun hx _ => ⟨_, rfl, hx, by rw [Option.some.inj hx]⟩, fun _ => trivial⟩
    exact .part (copiesTbl hwhole) (fun a : CAcceptableMasterTable => a.actualTableSize.toInt)
      CAcceptableMasterTable.list (fun a list => { a with list }) (fun _ _ => rfl) (fun _ _ _ => rfl) fun _ _ => rfl
  case unicastMasterTableNp =>
    exact .part (copiesTbl CLinuxptpUnicastMaster.copies)
      (fun a : CUnicastMasterTableNp => a.actualTableSize.toInt) CUnicastMasterTableNp.unicastMasters
      (fun a unicastMasters => { a with unicastMasters }) (fun _ _ => rfl) (fun _ _ _ => rfl) fun _ _ => rfl
  -- the structure is all there is
  all_goals exact ⟨fun hx _ => ⟨_, rfl, hx, congrArg Except.ok (Option.some.inj hx).symm⟩, fun _ => trivial⟩

theorem tlvCopy_right_iff {word : Nat} (hword : 0 < word) {id : MngId} {a : CTlv id}
    (hvalid : (tlvDeclared id a).isSome = true) :
    CopiesRight (tlvDeclared id) (tlvCopy word id) a ↔ TlvFull word id a := by
  by_cases hid : id = .pathTraceList
  · subst hid
    exact CPathTraceList.right_iff hword a
  · exact (tlv_copies word hid).right_iff hvalid

/-- What is promised of `copyTlv`: it succeeds, what is held has all that was declared, and what is behind that in
    the source does not matter. -/
def CopyRight (word : Nat) (id : MngId) (a : CTlv id) : Prop :=
  ∃ a₀ a', tlvDeclared id a = some a₀ ∧ tlvDeclared id a' = some a₀ ∧
    ∀ self, copyTlv word self id (some a) = some (true, ⟨id, some a'⟩) ∧
      copyTlv word self id (some a₀) = some (true, ⟨id, some a'⟩)

theorem copyTlv_ok_iff {word : Nat} {id : MngId} (hcodec : (mngAllVals id).func ≠ .na) {a a' : CTlv id} :
    (∀ self, copyTlv word self id (some a) = some (true, ⟨id, some a'⟩)) ↔ tlvCopy word id a = .ok a' := by
  have hcopy : ∀ self, copyTlv word self id (some a) = match tlvCopy word id a with
      | .error .outside => none
      | .error .failed => some (false, self)
      | .ok ntlv => some (true, ⟨id, some ntlv⟩) := fun self => if_neg hcodec
  simp only [hcopy]
  rcases tlvCopy word id a with (- | -) | ntlv
  · simp
  · simp
  · simp

/-- **A copy is right when nothing is empty, and a path has the length of the structure; a copy that fails leaves
    what is held.** -/
theorem copyRight_iff {word : Nat} (hword : 0 < word) {id : MngId} (hcodec : (mngAllVals id).func ≠ .na) {a : CTlv id}
    (hvalid : (tlvDeclared id a).isSome = true) :
    (CopyRight word id a ↔ TlvFull word id a) ∧
      ∀ self tlv self', copyTlv word self id tlv = some (false, self') → self' = self := by
  constructor
  · rw [← tlvCopy_right_iff hword hvalid]
    constructor
    · rintro ⟨a₀, a', hdeclared, hsame, hcopy⟩
      exact ⟨a₀, a', hdeclared, (copyTlv_ok_iff hcodec).1 fun self => (hcopy self).1, hsame,
        (copyTlv_ok_iff hcodec).1 fun self => (hcopy self).2⟩
    · rintro ⟨a₀, a', hdeclared, hcopy, hsame, hagain⟩
      exact ⟨a₀, a', hdeclared, hsame, fun self =>
        ⟨(copyTlv_ok_iff hcodec).2 hcopy self, (copyTlv_ok_iff hcodec).2 hagain self⟩⟩
  · intro self tlv self' h
    cases tlv with
    | none => simpa [copyTlv] using h.symm
    | some a =>
      rw [copyTlv, if_neg hcodec] at h
      split at h
      next => simp at h
      next => simpa using h.symm
      next => simp at h

/-- A description of three octets. -/
theorem copyRight_abc :
    (CopyRight 8 .userDescription ⟨⟨3, .to [97, 98, 99]⟩⟩
      ↔ TlvFull 8 .userDescription ⟨⟨3, .to [97, 98, 99]⟩⟩) ∧
      ∀ self tlv self', copyTlv 8 self .userDescription tlv = some (false, self') → self' = self :=
  copyRight_iff (by decide) (by decide) rfl

/-- An empty description is refused, and the copy of a path of one identity leaves the path. -/
theorem not_copyRight_empty :
    (tlvDeclared .userDescription ⟨⟨0, .null⟩⟩).isSome = true ∧ ¬ CopyRight 8 .userDescription ⟨⟨0, .null⟩⟩ ∧
      copyTlv 8 default .userDescription (some ⟨⟨0, .null⟩⟩) = some (false, default) ∧
      copyTlv 8 default .pathTraceList (some ⟨.to [⟨Octets.ofList 8 [1]⟩, ClockIdentity.zero], 1⟩) = none := by
  have hempty : copyTlv 8 default .userDescription (some ⟨⟨0, .null⟩⟩) = some (false, default) := rfl
  refine ⟨rfl, ?_, hempty, rfl⟩
  rintro ⟨_, a', -, -, hcopy⟩
  have := (hcopy default).1
  rw [hempty] at this
  simp at this

end PtpMgmt
