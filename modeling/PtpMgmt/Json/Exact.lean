import Mathlib.Algebra.Order.Field.Rat
import Mathlib.Data.List.Forall2
import PtpMgmt.Json.Integers
import PtpMgmt.Json.Reuse
import PtpMgmt.Json.Steps

set_option autoImplicit false

/-! # Numbers that are cut

An integer field of a message is read as 64 bits, where the library conversion stops at the ends of the
range, and is then cut to the size of the field. It is the number of the document exactly where that number
is in the range of the field. -/

namespace PtpMgmt.Json

open JsonProcFrom

/-! ## Exact values -/

/-- The value of an exponent, with its letter. -/
def exponentValue (x : Text) : Int :=
  if isExp (peek x) then
    if peek x.tail = chr '-' then -(magnitude 10 x.tail.tail : Int) else magnitude 10 x.tail
  else 0

/-- The exact value of the text of a number. -/
def numberValue (val : Text) : ℚ :=
  let neg := decide (peek val = chr '-')
  let t := if neg then val.tail else val
  let i := t.takeWhile isDigit
  let r := t.dropWhile isDigit
  let f := if peek r = chr '.' then r.tail.takeWhile isDigit else []
  let x := if peek r = chr '.' then r.tail.dropWhile isDigit else r
  (signed neg (magnitude 10 (i ++ f)) : ℚ) * (10 : ℚ) ^ (exponentValue x - f.length)

theorem numberValue_int {t : Text} (ht : IntPart t) (neg : Bool) :
    numberValue (sign neg ++ t) = (signed neg (magnitude 10 t) : ℚ) := by
  obtain ⟨htake, hdrop⟩ := takeWhile_digits ht.digits'.1
  have hneg : decide (peek (sign neg ++ t) = chr '-') = neg := by
    rw [Bool.eq_iff_iff, decide_eq_true_eq]
    exact (peek_sign neg ht).2
  have hrest : (if neg then (sign neg ++ t).tail else sign neg ++ t) = t := by
    cases neg <;> rfl
  have hdot : peek [] ≠ chr '.' := by decide
  have hexp : exponentValue [] = 0 := by decide
  simp only [numberValue, hneg, hrest, htake, hdrop, if_neg hdot, hexp, List.append_nil, List.length_nil,
    Nat.cast_zero, sub_zero, zpow_zero, mul_one]

/-- The range of an integer type. -/
structure IntRange where
  lo : Int
  hi : Int

def uintRange (bits : Nat) : IntRange := ⟨0, 2 ^ bits - 1⟩

def intRange (bits : Nat) : IntRange := ⟨-2 ^ (bits - 1), 2 ^ (bits - 1) - 1⟩

/-- An integer is the exact value of what the document gives, if that is a number. -/
def Exact (jval : Value) (z : Int) : Prop :=
  ∀ val dotLoc eLoc, jval = .num val dotLoc eLoc → numberValue val = z

/-- What the document gives, if it is a number, is an integer in the range. -/
def InRange (range : IntRange) (jval : Value) : Prop :=
  ∀ val dotLoc eLoc, jval = .num val dotLoc eLoc →
    ∃ z : Int, numberValue val = z ∧ range.lo ≤ z ∧ z ≤ range.hi

theorem exact_iff_inRange {range : IntRange} {jval : Value} {z : Int}
    (h : ∀ val dotLoc eLoc, jval = .num val dotLoc eLoc →
      ∃ n : Int, numberValue val = n ∧ (n = z ↔ range.lo ≤ n ∧ n ≤ range.hi)) :
    Exact jval z ↔ InRange range jval := by
  constructor
  · intro hexact val dotLoc eLoc hval
    obtain ⟨n, hn, hiff⟩ := h val dotLoc eLoc hval
    have hz : n = z := by
      have heq := hexact val dotLoc eLoc hval
      rw [hn] at heq
      exact_mod_cast heq
    exact ⟨n, hn, hiff.1 hz⟩
  · intro hrange val dotLoc eLoc hval
    obtain ⟨n, hn, hiff⟩ := h val dotLoc eLoc hval
    obtain ⟨m, hm, hlohi⟩ := hrange val dotLoc eLoc hval
    have hnm : n = m := by
      rw [hn] at hm
      exact_mod_cast hm
    rw [hn, hiff.2 (hnm ▸ hlohi)]

/-! ## What the accessors give -/

theorem Canon.num_text {val : Text} {dotLoc eLoc : Nat} (h : Canon (.num val dotLoc eLoc)) :
    NumText val val dotLoc eLoc := by
  cases h with
  | num h => exact h

/-- A number that is taken for an unsigned integer. -/
theorem getUint64_num {val : Text} {dotLoc eLoc : Nat} {flexible : Bool} {u : UInt64}
    (hcanon : Canon (.num val dotLoc eLoc))
    (h : (Value.num val dotLoc eLoc).getUint64 flexible = some u) :
    ∃ n : Nat, numberValue val = n ∧ u = UInt64.ofNat (min (2 ^ 64 - 1) n) := by
  have hplain : dotLoc = 0 ∧ eLoc = 0 := by
    rw [Value.getUint64] at h
    split at h
    · cases h
    · next hno => omega
  obtain ⟨rfl, rfl⟩ := hplain
  obtain ⟨neg, t, rfl, ht⟩ := hcanon.num_text.int
  rw [getUint64_int ht] at h
  cases neg with
  | true => cases h
  | false =>
      refine ⟨magnitude 10 t, ?_, (Option.some.inj h).symm⟩
      rw [numberValue_int ht, signed, if_neg Bool.false_ne_true, Int.cast_natCast]

/-- A number that is taken for a signed integer. -/
theorem getInt64_num {val : Text} {dotLoc eLoc : Nat} {flexible : Bool} {i : Int64}
    (hcanon : Canon (.num val dotLoc eLoc))
    (h : (Value.num val dotLoc eLoc).getInt64 flexible = some i) :
    ∃ n : Int, numberValue val = n ∧ i = Int64.ofInt (clampInt n) := by
  have hplain : dotLoc = 0 ∧ eLoc = 0 := by
    rw [Value.getInt64] at h
    split at h
    · cases h
    · next hno => omega
  obtain ⟨rfl, rfl⟩ := hplain
  obtain ⟨neg, t, rfl, ht⟩ := hcanon.num_text.int
  rw [getInt64_int ht] at h
  exact ⟨_, numberValue_int ht neg, (Option.some.inj h).symm⟩

/-! ## Cuts -/

/-- An unsigned integer that is cut. -/
theorem cut_uint {bits : Nat} (hbits : bits ≤ 64) (n : Nat) :
    (n : Int) = ((min (2 ^ 64 - 1) n % 2 ^ bits : Nat) : Int) ↔
      (uintRange bits).lo ≤ n ∧ (n : Int) ≤ (uintRange bits).hi := by
  have hpow : (2 : Nat) ^ bits ≤ 2 ^ 64 := Nat.pow_le_pow_right (by decide) hbits
  have hlt : min (2 ^ 64 - 1) n % 2 ^ bits < 2 ^ bits := Nat.mod_lt _ (by positivity)
  have hcast : ((2 : Int) ^ bits) = ((2 ^ bits : Nat) : Int) := by push_cast; rfl
  simp only [uintRange, hcast]
  constructor
  · intro h
    omega
  · rintro ⟨-, hle⟩
    rw [Nat.min_eq_right (by omega), Nat.mod_eq_of_lt (by omega)]

/-- A signed integer that is cut. -/
theorem cut_int {bits : Nat} (hpos : 0 < bits) (hbits : bits ≤ 64) (n : Int) :
    n = (clampInt n).bmod (2 ^ bits) ↔ (intRange bits).lo ≤ n ∧ n ≤ (intRange bits).hi := by
  obtain ⟨b, rfl⟩ : ∃ b, bits = b + 1 := ⟨bits - 1, by omega⟩
  have hpow : (2 : Nat) ^ b ≤ 2 ^ 63 := Nat.pow_le_pow_right (by decide) (by omega)
  have hcast : ((2 : Int) ^ b) = ((2 ^ b : Nat) : Int) := by push_cast; rfl
  have hdouble : (2 : Nat) ^ (b + 1) = 2 * 2 ^ b := by rw [Nat.pow_succ, Nat.mul_comm]
  have hge := Int.le_bmod (x := clampInt n) (m := 2 ^ (b + 1)) (by positivity)
  have hlt := Int.bmod_lt (x := clampInt n) (m := 2 ^ (b + 1)) (by positivity)
  simp only [intRange, Nat.add_sub_cancel, hcast]
  rw [hdouble] at hge hlt ⊢
  constructor
  · intro h
    rw [← h] at hge hlt
    omega
  · rintro ⟨hlo, hhi⟩
    have hclamp : clampInt n = n := by
      unfold clampInt
      omega
    rw [hclamp, Int.bmod_eq_of_le] <;> omega

/-- A signed integer that is cut to an unsigned one. -/
theorem cut_header {bits : Nat} (hbits : bits ≤ 32) (n : Int) :
    n = clampInt n % 2 ^ bits ↔ (uintRange bits).lo ≤ n ∧ n ≤ (uintRange bits).hi := by
  have hpow : (2 : Nat) ^ bits ≤ 2 ^ 32 := Nat.pow_le_pow_right (by decide) hbits
  have hcast : ((2 : Int) ^ bits) = ((2 ^ bits : Nat) : Int) := by push_cast; rfl
  have hpos : 0 < (2 : Nat) ^ bits := by positivity
  simp only [uintRange, hcast]
  constructor
  · intro h
    have hge := Int.emod_nonneg (clampInt n) (b := ((2 ^ bits : Nat) : Int)) (by omega)
    have hlt := Int.emod_lt_of_pos (clampInt n) (b := ((2 ^ bits : Nat) : Int)) (by omega)
    omega
  · rintro ⟨hlo, hhi⟩
    have hclamp : clampInt n = n := by
      unfold clampInt
      omega
    rw [hclamp, Int.emod_eq_of_lt hlo (by omega)]

/-! ## What a document gives for the integers

The integers of a field stand in one order in the document and in the message: what the document gives for
each, with the range of its type, and what the message holds. -/

abbrev Given := IntRange × Value

def intGiven (range : IntRange) (obj : Members) (key : String) : List Given :=
  (getVal obj (txt key)).toList.map fun jval => (range, jval)

/-- What the members of an object that is a member give. -/
def objGiven (record : Members → List Given) (obj : Members) (key : String) : List Given :=
  (getObj obj (txt key)).toList.flatMap record

/-- What the objects of an array that is a member give. -/
def arrGiven (record : Members → List Given) (obj : Members) (key : String) : List Given :=
  (getArr obj (txt key)).toList.flatMap fun elements =>
    elements.flatMap fun jval => jval.getObj.toList.flatMap record

def portIdentityGiven (obj : Members) : List Given := intGiven (uintRange 16) obj "portNumber"

def clockQualityGiven (obj : Members) : List Given :=
  intGiven (uintRange 8) obj "clockClass" ++ intGiven (uintRange 8) obj "clockAccuracy" ++
    intGiven (uintRange 16) obj "offsetScaledLogVariance"

def faultRecordGiven (obj : Members) : List Given := intGiven (uintRange 16) obj "faultRecordLength"

def acceptableMasterGiven (obj : Members) : List Given :=
  intGiven (uintRange 8) obj "alternatePriority1" ++ objGiven portIdentityGiven obj "acceptablePortIdentity"

def linuxptpUnicastMasterGiven (obj : Members) : List Given :=
  objGiven portIdentityGiven obj "portIdentity" ++ objGiven clockQualityGiven obj "clockQuality" ++
    intGiven (uintRange 8) obj "selected" ++ intGiven (uintRange 8) obj "priority1" ++
    intGiven (uintRange 8) obj "priority2"

/-- The integers of a field. A timestamp is given as one number for both of its fields, and is none of them;
    enumerations other than the accuracy are given by name. -/
def ProcType.given (obj : Members) (key : String) : ProcType → List Given
  | .uint8 => intGiven (uintRange 8) obj key
  | .uint16 => intGiven (uintRange 16) obj key
  | .uint32 => intGiven (uintRange 32) obj key
  | .uint64 => intGiven (uintRange 64) obj key
  | .int8 => intGiven (intRange 8) obj key
  | .int16 => intGiven (intRange 16) obj key
  | .int32 => intGiven (intRange 32) obj key
  | .int64 => intGiven (intRange 64) obj key
  | .clockAccuracy => intGiven (uintRange 8) obj key
  | .timeInterval => intGiven (intRange 64) obj key
  | .portIdentity => objGiven portIdentityGiven obj key
  | .clockQuality => objGiven clockQualityGiven obj key
  | .faultRecords => arrGiven faultRecordGiven obj key
  | .acceptableMasters => arrGiven acceptableMasterGiven obj key
  | .linuxptpUnicastMasters => arrGiven linuxptpUnicastMasterGiven obj key
  | _ => []

def Step.given {T : Type} (obj : Members) : Step T → List Given
  | .zeroFlag _ => []
  | .proc name type _ _ => type.given obj name

/-! ## What a message holds -/

def portIdentityInts (d : PortIdentity) : List Int := [d.portNumber.toNat]

def clockQualityInts (d : ClockQuality) : List Int :=
  [(d.clockClass.toNat : Int), d.clockAccuracy.toNat, d.offsetScaledLogVariance.toNat]

def faultRecordInts (d : FaultRecord) : List Int := [d.faultRecordLength.toNat]

def acceptableMasterInts (d : AcceptableMaster) : List Int :=
  (d.alternatePriority1.toNat : Int) :: portIdentityInts d.acceptablePortIdentity

def linuxptpUnicastMasterInts (d : LinuxptpUnicastMaster) : List Int :=
  portIdentityInts d.portIdentity ++ clockQualityInts d.clockQuality ++
    [(d.selected.toNat : Int), d.priority1.toNat, d.priority2.toNat]

def ProcType.ints : (type : ProcType) → type.Val → List Int
  | .uint8, val => [val.toNat]
  | .uint16, val => [val.toNat]
  | .uint32, val => [val.toNat]
  | .uint64, val => [val.toNat]
  | .int8, val => [val.toInt]
  | .int16, val => [val.toInt]
  | .int32, val => [val.toInt]
  | .int64, val => [val.toInt]
  | .clockAccuracy, val => [val.toNat]
  | .timeInterval, val => [val.scaledNanoseconds.toInt]
  | .portIdentity, val => portIdentityInts val
  | .clockQuality, val => clockQualityInts val
  | .faultRecords, val => val.flatMap faultRecordInts
  | .acceptableMasters, val => val.flatMap acceptableMasterInts
  | .linuxptpUnicastMasters, val => val.flatMap linuxptpUnicastMasterInts
  | _, _ => []

def Step.ints {T : Type} (d : T) : Step T → List Int
  | .zeroFlag _ => []
  | .proc _ type get _ => type.ints (get d)

/-! ## One field -/

/-- Each integer is exact just where what is given for it is in its range. -/
def Told (gs : List Given) (zs : List Int) : Prop :=
  List.Forall₂ (fun g z => Exact g.2 z ↔ InRange g.1 g.2) gs zs

theorem told_nil : Told [] [] := .nil

theorem Told.append {gs gs' : List Given} {zs zs' : List Int} (h : Told gs zs) (h' : Told gs' zs') :
    Told (gs ++ gs') (zs ++ zs') := List.rel_append h h'

theorem Told.exact_iff {gs : List Given} {zs : List Int} (h : Told gs zs) :
    List.Forall₂ (fun g z => Exact g.2 z) gs zs ↔ ∀ g ∈ gs, InRange g.1 g.2 := by
  induction h with
  | nil => simp
  | cons hhead _ ih => rw [List.forall₂_cons, List.forall_mem_cons, hhead, ih]

/-- The members of an object that came from the parser. -/
def CanonMembers (obj : Members) : Prop := ∀ m ∈ obj, Canon m.2

section Fields

variable {obj : Members} {key : String}

theorem canon_findMember {v : Value} (hcanon : CanonMembers obj) (h : findMember obj (txt key) = some v) :
    Canon v := by
  rw [findMember] at h
  split at h
  · obtain ⟨m, hm, rfl⟩ := Option.map_eq_some_iff.1 h
    exact hcanon m (List.mem_of_find?_eq_some hm)
  · cases h

theorem canon_getVal {v : Value} (hcanon : CanonMembers obj) (h : getVal obj (txt key) = some v) :
    Canon v := by
  obtain ⟨v', hfind, hv⟩ := Option.bind_eq_some_iff.1 h
  have hcanon' := canon_findMember hcanon hfind
  cases v' with
  | obj ms => cases hv
  | arr es => cases hv
  | _ =>
      cases hv
      exact hcanon'

theorem canon_getObj {ms : Members} (hcanon : CanonMembers obj) (h : getObj obj (txt key) = some ms) :
    CanonMembers ms := by
  obtain ⟨v', hfind, hv⟩ := Option.bind_eq_some_iff.1 h
  have hcanon' := canon_findMember hcanon hfind
  cases v' with
  | obj ms' =>
      cases hv
      cases hcanon' with
      | obj _ hms => exact hms
  | _ => cases hv

theorem canon_getArr {es : List Value} (hcanon : CanonMembers obj) (h : getArr obj (txt key) = some es) :
    ∀ e ∈ es, Canon e := by
  obtain ⟨v', hfind, hv⟩ := Option.bind_eq_some_iff.1 h
  have hcanon' := canon_findMember hcanon hfind
  cases v' with
  | arr es' =>
      cases hv
      cases hcanon' with
      | arr hes => exact hes
  | _ => cases hv

theorem intGiven_some {range : IntRange} {v : Value} (h : getVal obj (txt key) = some v) :
    intGiven range obj key = [(range, v)] := by
  rw [intGiven, h]
  rfl

/-- An unsigned field. -/
theorem told_uint (hcanon : CanonMembers obj) {bits : Nat} (hbits : bits ≤ 64) {u : UInt64} {z : Nat}
    (h : getUint obj key = some u) (hz : z = u.toNat % 2 ^ bits) :
    Told (intGiven (uintRange bits) obj key) [(z : Int)] := by
  obtain ⟨v, hv, hu⟩ := Option.bind_eq_some_iff.1 h
  rw [intGiven_some hv]
  refine .cons (exact_iff_inRange ?_) .nil
  rintro val dotLoc eLoc rfl
  obtain ⟨n, hn, rfl⟩ := getUint64_num (canon_getVal hcanon hv) hu
  have hmin : (UInt64.ofNat (min (2 ^ 64 - 1) n)).toNat = min (2 ^ 64 - 1) n := by
    rw [UInt64.toNat_ofNat', Nat.mod_eq_of_lt (by omega)]
  rw [hmin] at hz
  refine ⟨n, by rw [hn, Int.cast_natCast], ?_⟩
  rw [hz]
  exact cut_uint hbits n

/-- A signed field. -/
theorem told_int (hcanon : CanonMembers obj) {bits : Nat} (hpos : 0 < bits) (hbits : bits ≤ 64) {i : Int64}
    {z : Int} (h : getInt obj key = some i) (hz : z = i.toInt.bmod (2 ^ bits)) :
    Told (intGiven (intRange bits) obj key) [z] := by
  obtain ⟨v, hv, hi⟩ := Option.bind_eq_some_iff.1 h
  rw [intGiven_some hv]
  refine .cons (exact_iff_inRange ?_) .nil
  rintro val dotLoc eLoc rfl
  obtain ⟨n, hn, rfl⟩ := getInt64_num (canon_getVal hcanon hv) hi
  have hclamp : (Int64.ofInt (clampInt n)).toInt = clampInt n := by
    refine Int64.toInt_ofInt_of_le ?_ ?_ <;> (unfold clampInt; omega)
  rw [hclamp] at hz
  refine ⟨n, hn, ?_⟩
  rw [hz]
  exact cut_int hpos hbits n

theorem told_clockAccuracy (hcanon : CanonMembers obj) {a : ClockAccuracyE}
    (h : JsonProcFrom.procClockAccuracy obj key = some a) : Told (intGiven (uintRange 8) obj key) [(a.toNat : Int)] := by
  unfold JsonProcFrom.procClockAccuracy at h
  split at h
  · next str hv =>
      rw [intGiven_some hv]
      refine .cons (exact_iff_inRange ?_) .nil
      intro val dotLoc eLoc hval
      cases hval
  · next val dotLoc eLoc hv =>
      obtain ⟨u, hu, ha⟩ := Option.bind_eq_some_iff.1 h
      split at ha
      · cases ha
        exact told_uint hcanon (by decide) (Option.bind_eq_some_iff.2 ⟨_, hv, hu⟩) (UInt64.toNat_toUInt8 u)
      · cases ha
  · cases h

/-! ## Records -/

theorem objGiven_some {record : Members → List Given} {o : Members} (h : getObj obj (txt key) = some o) :
    objGiven record obj key = record o := by
  rw [objGiven, h]
  simp

theorem readPortIdentity_some {d : PortIdentity} (h : readPortIdentity obj key = some d) :
    ∃ o num, getObj obj (txt key) = some o ∧ procClockIdentity o "clockIdentity" = some d.clockIdentity ∧
      getUint o "portNumber" = some num ∧ d.portNumber = num.toUInt16 := by
  unfold readPortIdentity procPortIdentity at h
  rcases hobj : getObj obj (txt key) with _ | o
  · rw [hobj] at h
    cases h
  · rw [hobj] at h
    simp only at h
    rcases hclock : procClockIdentity o "clockIdentity" with _ | clockIdentity
    · rw [hclock] at h
      cases h
    · rw [hclock] at h
      simp only at h
      rcases hnum : getUint o "portNumber" with _ | num
      · rw [hnum] at h
        cases h
      · rw [hnum] at h
        cases h
        exact ⟨o, num, rfl, hclock, hnum, rfl⟩

theorem told_portIdentity (hcanon : CanonMembers obj) {d : PortIdentity}
    (h : readPortIdentity obj key = some d) : Told (objGiven portIdentityGiven obj key) (portIdentityInts d) := by
  obtain ⟨o, num, hobj, -, hnum, hport⟩ := readPortIdentity_some h
  rw [objGiven_some hobj, portIdentityInts, hport]
  exact told_uint (canon_getObj hcanon hobj) (by decide) hnum (UInt64.toNat_toUInt16 num)

theorem told_clockQuality (hcanon : CanonMembers obj) {d : ClockQuality} (h : procClockQuality obj = some d) :
    Told (clockQualityGiven obj) (clockQualityInts d) := by
  obtain ⟨clockClass, hclass, h⟩ := Option.bind_eq_some_iff.1 h
  obtain ⟨clockAccuracy, haccuracy, h⟩ := Option.bind_eq_some_iff.1 h
  obtain ⟨variance, hvariance, rfl⟩ := Option.map_eq_some_iff.1 h
  exact ((told_uint hcanon (by decide) hclass (UInt64.toNat_toUInt8 _)).append
    (told_clockAccuracy hcanon haccuracy)).append
    (told_uint hcanon (by decide) hvariance (UInt64.toNat_toUInt16 _))

theorem told_clockQualityObj (hcanon : CanonMembers obj) {d : ClockQuality}
    (h : (getObj obj (txt key)).bind procClockQuality = some d) :
    Told (objGiven clockQualityGiven obj key) (clockQualityInts d) := by
  obtain ⟨o, hobj, hd⟩ := Option.bind_eq_some_iff.1 h
  rw [objGiven_some hobj]
  exact told_clockQuality (canon_getObj hcanon hobj) hd

theorem told_faultRecord {floatTime : Text → Option Timestamp} {mem : FaultRecord} (hcanon : CanonMembers obj)
    {d : FaultRecord} (h : procFaultRecord floatTime mem obj = some d) : Told (faultRecordGiven obj) (faultRecordInts d) := by
  obtain ⟨faultRecordLength, hlength, h⟩ := Option.bind_eq_some_iff.1 h
  obtain ⟨faultTime, -, h⟩ := Option.bind_eq_some_iff.1 h
  obtain ⟨severityCode, -, h⟩ := Option.bind_eq_some_iff.1 h
  obtain ⟨faultName, -, h⟩ := Option.bind_eq_some_iff.1 h
  obtain ⟨faultValue, -, h⟩ := Option.bind_eq_some_iff.1 h
  obtain ⟨faultDescription, -, rfl⟩ := Option.map_eq_some_iff.1 h
  exact told_uint hcanon (by decide) hlength (UInt64.toNat_toUInt16 _)

theorem told_acceptableMaster (hcanon : CanonMembers obj) {d : AcceptableMaster}
    (h : procAcceptableMaster obj = some d) : Told (acceptableMasterGiven obj) (acceptableMasterInts d) := by
  obtain ⟨alternatePriority1, hpriority, h⟩ := Option.bind_eq_some_iff.1 h
  obtain ⟨acceptablePortIdentity, hport, rfl⟩ := Option.map_eq_some_iff.1 h
  exact (told_uint hcanon (by decide) hpriority (UInt64.toNat_toUInt8 _)).append (told_portIdentity hcanon hport)

theorem told_linuxptpUnicastMaster (hcanon : CanonMembers obj) {d : LinuxptpUnicastMaster}
    (h : procLinuxptpUnicastMaster obj = some d) :
    Told (linuxptpUnicastMasterGiven obj) (linuxptpUnicastMasterInts d) := by
  obtain ⟨portIdentity, hport, h⟩ := Option.bind_eq_some_iff.1 h
  obtain ⟨clockQuality, hquality, h⟩ := Option.bind_eq_some_iff.1 h
  obtain ⟨selected, hselected, h⟩ := Option.bind_eq_some_iff.1 h
  obtain ⟨portState, -, h⟩ := Option.bind_eq_some_iff.1 h
  obtain ⟨priority1, hpriority1, h⟩ := Option.bind_eq_some_iff.1 h
  obtain ⟨priority2, hpriority2, h⟩ := Option.bind_eq_some_iff.1 h
  obtain ⟨portAddress, -, rfl⟩ := Option.map_eq_some_iff.1 h
  exact ((((told_portIdentity hcanon hport).append (told_clockQualityObj hcanon hquality)).append
    (told_uint hcanon (by decide) hselected (UInt64.toNat_toUInt8 _))).append
    (told_uint hcanon (by decide) hpriority1 (UInt64.toNat_toUInt8 _))).append
    (told_uint hcanon (by decide) hpriority2 (UInt64.toNat_toUInt8 _))

/-! ## Arrays -/

/-- What an array adds to the elements that are there. -/
theorem procElements_some {α : Type} {record : Nat → Value → Option α} {d d' : List α}
    {elements : List Value} (h : procElements record d elements = some d') :
    ∃ new, d' = d ++ new ∧ List.Forall₂ (fun jval rec => ∃ i, record i jval = some rec) elements new := by
  induction elements generalizing d with
  | nil =>
      cases h
      exact ⟨[], by simp, .nil⟩
  | cons jval rest ih =>
      obtain ⟨rec, hrec, h⟩ := Option.bind_eq_some_iff.1 h
      obtain ⟨new, rfl, hnew⟩ := ih h
      exact ⟨rec :: new, by simp, .cons ⟨_, hrec⟩ hnew⟩

/-- The objects of an array, which start with none. -/
theorem told_array {α : Type} {record : Nat → Members → Option α} {given : Members → List Given}
    {ints : α → List Int}
    (hrecord : ∀ (i : Nat) (o : Members) (rec : α), CanonMembers o → record i o = some rec →
      Told (given o) (ints rec))
    (hcanon : CanonMembers obj) {d' : List α}
    (h : procArray (fun i => objectElement (record i)) obj key [] = some d') :
    Told (arrGiven given obj key) (d'.flatMap ints) := by
  obtain ⟨elements, harr, h⟩ := Option.bind_eq_some_iff.1 h
  obtain ⟨new, hd', hnew⟩ := procElements_some h
  have hcanonArr := canon_getArr hcanon harr
  rw [arrGiven, harr, Option.toList_some, List.flatMap_singleton, hd', List.nil_append]
  clear harr h hd'
  induction hnew with
  | nil => exact told_nil
  | @cons jval rec elements new hrec _ ih =>
      rw [List.flatMap_cons, List.flatMap_cons]
      refine Told.append ?_ (ih fun e he => hcanonArr e (List.mem_cons_of_mem _ he))
      obtain ⟨i, hrec⟩ := hrec
      obtain ⟨o, hobj, ho⟩ := Option.bind_eq_some_iff.1 hrec
      rw [hobj, Option.toList_some, List.flatMap_singleton]
      refine hrecord i o rec ?_ ho
      have hjval := hcanonArr jval List.mem_cons_self
      cases jval with
      | obj ms =>
          cases hobj
          cases hjval with
          | obj _ hms => exact hms
      | _ => cases hobj

/-- An array that holds nothing so far. -/
def ProcType.Blank : (type : ProcType) → type.Val → Prop
  | .faultRecords, val => val = []
  | .acceptableMasters, val => val = []
  | .linuxptpUnicastMasters, val => val = []
  | _, _ => True

/-- **Every integer of a field that is read is exact just where the number for it is in its range.** -/
theorem told_procField {floatTime : Text → Option Timestamp} {mem : NewMem} (hcanon : CanonMembers obj) (type : ProcType)
    {d v : type.Val} (hblank : type.Blank d) (h : procField floatTime mem obj key type d = some v) :
    Told (type.given obj key) (type.ints v) := by
  cases type with
  | uint8 =>
      obtain ⟨u, hu, rfl⟩ := Option.map_eq_some_iff.1 h
      exact told_uint hcanon (by decide) hu (UInt64.toNat_toUInt8 u)
  | uint16 =>
      obtain ⟨u, hu, rfl⟩ := Option.map_eq_some_iff.1 h
      exact told_uint hcanon (by decide) hu (UInt64.toNat_toUInt16 u)
  | uint32 =>
      obtain ⟨u, hu, rfl⟩ := Option.map_eq_some_iff.1 h
      exact told_uint hcanon (by decide) hu (UInt64.toNat_toUInt32 u)
  | uint64 => exact told_uint hcanon (by decide) h (Nat.mod_eq_of_lt v.toNat_lt).symm
  | int8 =>
      obtain ⟨i, hi, rfl⟩ := Option.map_eq_some_iff.1 h
      exact told_int hcanon (by decide) (by decide) hi (Int64.toInt_toInt8 i)
  | int16 =>
      obtain ⟨i, hi, rfl⟩ := Option.map_eq_some_iff.1 h
      exact told_int hcanon (by decide) (by decide) hi (Int64.toInt_toInt16 i)
  | int32 =>
      obtain ⟨i, hi, rfl⟩ := Option.map_eq_some_iff.1 h
      exact told_int hcanon (by decide) (by decide) hi (Int64.toInt_toInt32 i)
  | int64 => exact told_int hcanon (by decide) (by decide) h (Int64.toInt_bmod_size v).symm
  | clockAccuracy => exact told_clockAccuracy hcanon h
  | timeInterval =>
      obtain ⟨i, hi, rfl⟩ := Option.map_eq_some_iff.1 h
      exact told_int hcanon (by decide) (by decide) hi (Int64.toInt_bmod_size i).symm
  | portIdentity => exact told_portIdentity hcanon h
  | clockQuality => exact told_clockQualityObj hcanon h
  | faultRecords =>
      cases hblank
      exact told_array (fun _ _ _ hrec h => told_faultRecord hrec h) hcanon h
  | acceptableMasters =>
      cases hblank
      exact told_array (fun _ _ _ hrec h => told_acceptableMaster hrec h) hcanon h
  | linuxptpUnicastMasters =>
      cases hblank
      exact told_array (fun _ _ _ hrec h => told_linuxptpUnicastMaster hrec h) hcanon h
  | _ => exact told_nil

end Fields

/-! ## A TLV -/

def Step.Blank {T : Type} (d : T) : Step T → Prop
  | .zeroFlag _ => True
  | .proc _ type get _ => type.Blank (get d)

section Steps

variable {T : Type} {floatTime : Text → Option Timestamp} {mem : NewMem} {obj : Members}

theorem Step.Same.ints_eq {s : Step T} {d d' : T} (h : s.Same d d') : s.ints d' = s.ints d := by
  cases s with
  | zeroFlag set => rfl
  | proc name type get set =>
      cases type with
      | flag mask => rfl
      | _ => exact congrArg (ProcType.ints _) h

theorem Step.Same.blank {s : Step T} {d d' : T} (h : s.Same d d') (hblank : s.Blank d) : s.Blank d' := by
  cases s with
  | zeroFlag set => trivial
  | proc name type get set =>
      cases type with
      | faultRecords => exact Eq.trans h hblank
      | acceptableMasters => exact Eq.trans h hblank
      | linuxptpUnicastMasters => exact Eq.trans h hblank
      | _ => trivial

/-- **The integers of a TLV that is read.** -/
theorem told_runSteps (hcanon : CanonMembers obj) {steps : List (Step T)} (hapart : steps.Pairwise Step.Apart)
    (hown : ∀ s ∈ steps, s.Own) {d d' : T} (hblank : ∀ s ∈ steps, s.Blank d)
    (h : runSteps floatTime mem obj d steps = some d') :
    Told (steps.flatMap (Step.given obj)) (steps.flatMap (Step.ints d')) := by
  induction steps generalizing d with
  | nil => exact told_nil
  | cons s rest ih =>
      obtain ⟨d₁, hstep, hrest⟩ := Option.bind_eq_some_iff.1 h
      obtain ⟨hhead, htail⟩ := List.pairwise_cons.1 hapart
      obtain ⟨hownHead, hownTail⟩ := List.forall_mem_cons.1 hown
      obtain ⟨hblankHead, hblankTail⟩ := List.forall_mem_cons.1 hblank
      -- the steps to come find what they would have found, and leave alone what this one has set
      have hblank₁ : ∀ s' ∈ rest, s'.Blank d₁ := fun s' hs' =>
        (procStep_same (hhead s' hs').2 hstep).blank (hblankTail s' hs')
      have hkept : s.ints d' = s.ints d₁ := (runSteps_same (fun s' hs' => (hhead s' hs').1) hrest).ints_eq
      rw [List.flatMap_cons, List.flatMap_cons, hkept]
      refine Told.append ?_ (ih htail hownTail hblank₁ hrest)
      cases s with
      | zeroFlag set => exact told_nil
      | proc name type get set =>
          obtain ⟨v, hv, rfl⟩ := Option.map_eq_some_iff.1 hstep
          rw [Step.ints, hownHead d v]
          exact told_procField hcanon type hblankHead hv

end Steps

/-- The arrays of a new TLV hold nothing. -/
theorem blank_newTlv (id : MngId) (mem : Tlv id) : ∀ s ∈ procSteps id, s.Blank (newTlv id mem) := by
  cases id <;>
    repeat' first
      | exact List.forall_mem_nil _
      | refine List.forall_mem_cons.2 ⟨?_, ?_⟩
      | exact trivial
      | exact rfl

/-! ## A message -/

namespace Json2msg

/-- What a document gives for the integers of the header. -/
def headerGiven (mobj : Members) : List Given :=
  intGiven (uintRange 16) mobj "sequenceId" ++ intGiven (uintRange 32) mobj "sdoId" ++
    intGiven (uintRange 8) mobj "domainNumber" ++ intGiven (uintRange 8) mobj "versionPTP" ++
    intGiven (uintRange 8) mobj "minorVersionPTP" ++ intGiven (uintRange 8) mobj "PTPProfileSpecific" ++
    objGiven portIdentityGiven mobj "sourcePortIdentity" ++ objGiven portIdentityGiven mobj "targetPortIdentity"

/-- What a document gives for the integers of the TLV of its id. -/
def dataGiven (mobj : Members) : List Given :=
  match managementIdOf mobj with
  | some id => objGiven (fun obj => (procSteps id).flatMap (Step.given obj)) mobj "dataField"
  | none => []

/-- A field of the header, if the document gives it. -/
def optInts {α : Type} (mobj : Members) (key : String) (ints : α → List Int) (o : Opt α) : List Int :=
  if count mobj (txt key) > 0 then ints o.val else []

def headerInts (mobj : Members) (j : Json2msg) : List Int :=
  optInts mobj "sequenceId" (fun val => [(val.toNat : Int)]) j.sequenceId ++
    optInts mobj "sdoId" (fun val => [(val.toNat : Int)]) j.sdoId ++
    optInts mobj "domainNumber" (fun val => [(val.toNat : Int)]) j.domainNumber ++
    optInts mobj "versionPTP" (fun val => [(val.toNat : Int)]) j.versionPTP ++
    optInts mobj "minorVersionPTP" (fun val => [(val.toNat : Int)]) j.minorVersionPTP ++
    optInts mobj "PTPProfileSpecific" (fun val => [(val.toNat : Int)]) j.ptpProfileSpecific ++
    optInts mobj "sourcePortIdentity" portIdentityInts j.srcPort ++
    optInts mobj "targetPortIdentity" portIdentityInts j.dstPort

/-- The integers of the TLV, if the document gives it. -/
def dataInts (mobj : Members) (j : Json2msg) : List Int :=
  match getObj mobj (txt "dataField"), j.tlvData with
  | some _, some (.tlv id d) => (procSteps id).flatMap (Step.ints d)
  | _, _ => []

/-- What a document gives for the integers of a message. -/
def given (mobj : Members) : List Given := headerGiven mobj ++ dataGiven mobj

/-- The integers of a message that a document gives. -/
def ints (mobj : Members) (j : Json2msg) : List Int := headerInts mobj j ++ dataInts mobj j

section Header

variable {mobj : Members} {key : String}

theorem getVal_of_count (h : count mobj (txt key) = 0) : getVal mobj (txt key) = none := by
  rw [getVal, findMember, if_neg (by omega)]
  rfl

theorem getObj_of_count (h : count mobj (txt key) = 0) : getObj mobj (txt key) = none := by
  rw [getObj, findMember, if_neg (by omega)]
  rfl

/-- An optional number. -/
theorem told_optNum (hcanon : CanonMembers mobj) {α : Type} {cast : Int64 → α} {toNat : α → Nat} {bits : Nat}
    (hbits : bits ≤ 32) (hcast : ∀ i, (toNat (cast i) : Int) = i.toInt % 2 ^ bits) {old new : Opt α}
    (h : OptField mobj key (givenNum mobj key cast) old new) :
    Told (intGiven (uintRange bits) mobj key) (optInts mobj key (fun val => [(toNat val : Int)]) new) := by
  unfold OptField at h
  unfold optInts
  split at h
  · next hcount =>
      obtain ⟨val, hval, rfl⟩ := h
      obtain ⟨i, hi, rfl⟩ := Option.map_eq_some_iff.1 hval
      obtain ⟨v, hv, hi⟩ := Option.bind_eq_some_iff.1 hi
      rw [if_pos hcount, intGiven_some hv]
      refine .cons (exact_iff_inRange ?_) .nil
      rintro val dotLoc eLoc rfl
      obtain ⟨n, hn, rfl⟩ := getInt64_num (canon_getVal hcanon hv) hi
      have hclamp : (Int64.ofInt (clampInt n)).toInt = clampInt n := by
        refine Int64.toInt_ofInt_of_le ?_ ?_ <;> (unfold clampInt; omega)
      refine ⟨n, hn, ?_⟩
      rw [hcast, hclamp]
      exact cut_header hbits n
  · next hcount =>
      rw [if_neg hcount, intGiven, getVal_of_count (by omega)]
      exact told_nil

/-- An optional port. -/
theorem told_optPort (hcanon : CanonMembers mobj) {old new : Opt PortIdentity}
    (h : OptField mobj key (readPortIdentity mobj key) old new) :
    Told (objGiven portIdentityGiven mobj key) (optInts mobj key portIdentityInts new) := by
  unfold OptField at h
  unfold optInts
  split at h
  · next hcount =>
      obtain ⟨d, hd, rfl⟩ := h
      rw [if_pos hcount]
      exact told_portIdentity hcanon hd
  · next hcount =>
      rw [if_neg hcount, objGiven, getObj_of_count (by omega)]
      exact told_nil

/-- A signed integer of 64 bits as an unsigned one. -/
theorem toNat_toUInt64 (i : Int64) : (i.toUInt64.toNat : Int) = i.toInt % 2 ^ 64 := by
  have hbits : i.toUInt64.toNat = i.toBitVec.toNat := rfl
  have hint : i.toInt = i.toBitVec.toInt := rfl
  have hlt := i.toBitVec.isLt
  rw [hbits, hint, BitVec.toInt_eq_toNat_cond]
  split <;> omega

theorem toNat_toUInt8 (i : Int64) : (i.toUInt64.toUInt8.toNat : Int) = i.toInt % 2 ^ 8 := by
  have h := toNat_toUInt64 i
  rw [UInt64.toNat_toUInt8]
  omega

theorem toNat_toUInt16 (i : Int64) : (i.toUInt64.toUInt16.toNat : Int) = i.toInt % 2 ^ 16 := by
  have h := toNat_toUInt64 i
  rw [UInt64.toNat_toUInt16]
  omega

theorem toNat_toUInt32 (i : Int64) : (i.toUInt64.toUInt32.toNat : Int) = i.toInt % 2 ^ 32 := by
  have h := toNat_toUInt64 i
  rw [UInt64.toNat_toUInt32]
  omega

end Header

section Message

variable {floatTime : Text → Option Timestamp} {mem : NewMem} {mobj : Members} {j j' : Json2msg}

theorem Accepts.told_header (h : Accepts floatTime mem mobj j j') (hcanon : CanonMembers mobj) :
    Told (headerGiven mobj) (headerInts mobj j') :=
  (((((((told_optNum hcanon (by decide) toNat_toUInt16 h.sequenceId).append
    (told_optNum hcanon (by decide) toNat_toUInt32 h.sdoId)).append
    (told_optNum hcanon (by decide) toNat_toUInt8 h.domainNumber)).append
    (told_optNum hcanon (by decide) toNat_toUInt8 h.versionPTP)).append
    (told_optNum hcanon (by decide) toNat_toUInt8 h.minorVersionPTP)).append
    (told_optNum hcanon (by decide) toNat_toUInt8 h.ptpProfileSpecific)).append
    (told_optPort hcanon h.srcPort)).append (told_optPort hcanon h.dstPort)

theorem Accepts.told_data (h : Accepts floatTime mem mobj j j') (hcanon : CanonMembers mobj) :
    Told (dataGiven mobj) (dataInts mobj j') := by
  have hdata := h.data
  rw [dataGiven, h.managementId]
  unfold OptData at hdata
  split at hdata
  · -- there is no dataField
    have hnone : getObj mobj (txt "dataField") = none := by
      by_contra hsome
      obtain ⟨obj, hobj⟩ := Option.ne_none_iff_exists'.1 hsome
      rw [haveData_obj hobj] at hdata
      cases hdata.1
    simp only [objGiven, dataInts, hnone]
    exact told_nil
  · obtain ⟨-, obj, tlv, hobj, htlv, hnew⟩ := hdata
    unfold procData at htlv
    split at htlv
    · cases htlv
    · obtain ⟨d, hd, rfl⟩ := Option.map_eq_some_iff.1 htlv
      simp only [dataInts, hobj, hnew]
      rw [objGiven_some hobj]
      exact told_runSteps (canon_getObj hcanon hobj) (procSteps_apart _) (procSteps_own _) (blank_newTlv _ _) hd

/-- **Every integer of an accepted document is exact just where its number is in the range of its field.** -/
theorem fromJson_exact_iff (floatTime : Text → Option Timestamp) (mem : NewMem) (j j' : Json2msg) (json : Text)
    (h : fromJson floatTime mem j json = (true, j')) :
    List.Forall₂ (fun g z => Exact g.2 z) (given (document json)) (ints (document json) j') ↔
      ∀ g ∈ given (document json), InRange g.1 g.2 := by
  obtain ⟨hparse, hacc⟩ := fromJson_iff.1 h
  have hcanon : CanonMembers (document json) := by
    cases parseBuffer_canon hparse with
    | obj _ hms => exact hms
  exact ((hacc.told_header hcanon).append (hacc.told_data hcanon)).exact_iff

end Message

theorem fromJson_exact_iff_domain3 :
    List.Forall₂ (fun g z => Exact g.2 z) (given (document getDomain3))
        (ints (document getDomain3) (fromJson (fun _ => none) zeroMem init getDomain3).2) ↔
      ∀ g ∈ given (document getDomain3), InRange g.1 g.2 :=
  fromJson_exact_iff (fun _ => none) zeroMem init _ getDomain3 (Prod.ext (by decide +kernel) rfl)

/-- A request for the domain of a clock in a domain that there is not. -/
def getDomain256 : Text :=
  txt "\x7b\"actionField\":\"GET\",\"managementId\":\"DOMAIN\",\"domainNumber\":256\x7d"

theorem exact_of_mem {gs : List Given} {zs : List Int} (h : List.Forall₂ (fun g z => Exact g.2 z) gs zs)
    {g : Given} (hg : g ∈ gs) : ∃ z ∈ zs, Exact g.2 z := by
  induction h with
  | nil => cases hg
  | @cons g' z gs zs hhead _ ih =>
      rcases List.mem_cons.1 hg with rfl | hg
      · exact ⟨z, List.mem_cons_self, hhead⟩
      · obtain ⟨z', hz', hexact⟩ := ih hg
        exact ⟨z', List.mem_cons_of_mem z hz', hexact⟩

/-- The text of a number, and where its dot and its exponent stand. -/
def numberParts : Value → Option (Text × Nat × Nat)
  | .num val dotLoc eLoc => some (val, dotLoc, eLoc)
  | _ => none

/-- Domain 256 is taken for domain 0. -/
theorem fromJson_exact_domain256 :
    ¬ ∀ (floatTime : Text → Option Timestamp) (mem : NewMem) (j j' : Json2msg) (json : Text),
      fromJson floatTime mem j json = (true, j') →
        List.Forall₂ (fun g z => Exact g.2 z) (given (document json)) (ints (document json) j') := by
  intro h
  have hexact := h (fun _ => none) zeroMem init _ getDomain256 (Prod.ext (by decide +kernel) rfl)
  have hints : ints (document getDomain256) (fromJson (fun _ => none) zeroMem init getDomain256).2 = [0] := by
    decide +kernel
  rw [hints] at hexact
  have hparts : (getVal (document getDomain256) (txt "domainNumber")).bind numberParts =
      some ([chr '2', chr '5', chr '6'], 0, 0) := by
    decide +kernel
  obtain ⟨jval, hval, hnum⟩ := Option.bind_eq_some_iff.1 hparts
  cases jval with
  | num val dotLoc eLoc =>
      cases hnum
      have hmem : (uintRange 8, Value.num [chr '2', chr '5', chr '6'] 0 0) ∈ given (document getDomain256) := by
        simp [given, headerGiven, intGiven_some hval]
      obtain ⟨z, hz, hexact⟩ := exact_of_mem hexact hmem
      rw [List.mem_singleton.1 hz] at hexact
      have hdigits : IntPart [chr '2', chr '5', chr '6'] :=
        .digits (by decide) ((digits_nil.cons (by decide)).cons (by decide))
      have hvalue := (numberValue_int hdigits false).symm.trans (hexact _ _ _ rfl)
      have hzero : signed false (magnitude 10 [chr '2', chr '5', chr '6']) = 0 := by exact_mod_cast hvalue
      exact absurd hzero (by decide)
  | _ => cases hnum

end Json2msg

end PtpMgmt.Json
