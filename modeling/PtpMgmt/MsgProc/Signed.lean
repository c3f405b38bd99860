import Mathlib.Data.Nat.Bitwise
import PtpMgmt.MsgProc.Proofs

set_option autoImplicit false

/-! # The signed 48 bits

`MsgProc::proc48(Integer48_t &)` (`mngTlvs.cpp`). A build splits the value into a 16-bit and a 32-bit
half, with the sign in bit 15 of the upper one. A parse joins them and sets bit 63 for a negative
number. It leaves bits 47 to 62 clear, though, so that only what is not negative comes back. -/

namespace PtpMgmt

open Wire Codec

/-- `INT48_MIN`. -/
def int48Min : Int64 := -0x7fffffffffff - 1

/-- `INT48_MAX`. -/
def int48Max : Int64 := 0x7fffffffffff

/-- `sizeof_Integer48_t`. -/
def sizeofInteger48 : Nat := 6

/-- `sig_16bits`. -/
def sig16bits : UInt16 := 0x8000

/-- `sig_64bits`. -/
def sig64bits : UInt64 := 0x8000000000000000

/-- The upper half on build: 15 bits of the value and its sign. -/
def high48 (val : Int64) : UInt16 :=
  let high := ((val >>> 32) &&& 0x7fff).toInt16.toUInt16
  if val < 0 then high ||| sig16bits else high

def low48 (val : Int64) : UInt32 :=
  (val &&& 0xffffffff).toInt32.toUInt32

/-- What a parse makes of the halves. -/
def join48 (high : UInt16) (low : UInt32) : Int64 :=
  let ret := low.toUInt64 ||| ((high.toUInt64 &&& 0x7fff) <<< 32)
  (if high &&& sig16bits ≠ 0 then ret ||| sig64bits else ret).toInt64

theorem isFault_val : IsFault MngParseError.val := by decide

/-- The 48 bits of an `Integer48_t`, the high 16 before the low 32. -/
def procInt48 (val : Int64) : Proc Int64 := do
  need sizeofInteger48
  let build ← isBuild
  if build && (val < int48Min || val > int48Max) then failWith .val isFault_val
  else do
    let high ← proc (if build then high48 val else 0)
    let low ← proc (if build then low48 val else 0)
    return if build then val else join48 high low

/-! ## The halves -/

theorem toNat_toBitVec (val : Int64) : (val.toBitVec.toNat : Int) = val.toInt % 2 ^ 64 := by
  have h := BitVec.toInt_eq_toNat_cond val.toBitVec
  have hlt := val.toBitVec.isLt
  rw [← Int64.toInt] at h
  split at h <;> omega

theorem toNat_high48 (val : Int64) :
    ((high48 val).toNat : Int)
      = val.toInt / 2 ^ 32 % 2 ^ 15 + if val < 0 then 2 ^ 15 else 0 := by
  have hmask : ∀ n, n &&& 0x7fff = n % 32768 := fun n => Nat.and_two_pow_sub_one_eq_mod n 15
  have hdiv : (val >>> 32).toInt = val.toInt / 2 ^ 32 := by
    have : (val >>> 32).toInt = (val.toBitVec.sshiftRight' 32#64).toInt := rfl
    rw [this, BitVec.toInt_sshiftRight', Int.shiftRight_eq_div_pow]
    rfl
  have hword : ((val >>> 32) &&& 0x7fff).toInt16.toUInt16.toNat
      = (val >>> 32).toBitVec.toNat % 32768 := by
    have : ((val >>> 32) &&& 0x7fff).toInt16.toUInt16.toNat
      = (((val >>> 32).toBitVec &&& 0x7fff#64).signExtend 16).toNat := rfl
    rw [this, BitVec.signExtend_eq_setWidth_of_le _ (by decide), BitVec.toNat_setWidth,
      BitVec.toNat_and, BitVec.toNat_ofNat, hmask]
    omega
  have hbits := toNat_toBitVec (val >>> 32)
  rw [high48]
  split
  · rw [UInt16.toNat_or, hword, show sig16bits.toNat = 2 ^ 15 * 1 from rfl, Nat.or_comm,
      ← Nat.two_pow_add_eq_or_of_lt (Nat.mod_lt _ (by decide))]
    omega
  · rw [hword]
    omega

theorem toNat_low48 (val : Int64) : ((low48 val).toNat : Int) = val.toInt % 2 ^ 32 := by
  have hmask : ∀ n, n &&& 0xffffffff = n % 4294967296 := fun n =>
    Nat.and_two_pow_sub_one_eq_mod n 32
  have hword : (low48 val).toNat = val.toBitVec.toNat % 4294967296 := by
    have : (low48 val).toNat = ((val.toBitVec &&& 0xffffffff#64).signExtend 32).toNat := rfl
    rw [this, BitVec.signExtend_eq_setWidth_of_le _ (by decide), BitVec.toNat_setWidth,
      BitVec.toNat_and, BitVec.toNat_ofNat, hmask]
    omega
  have hbits := toNat_toBitVec val
  omega

theorem toNat_join48 (high : UInt16) (low : UInt32) :
    (join48 high low).toInt = high.toNat % 2 ^ 15 * 2 ^ 32 + low.toNat
      - if 2 ^ 15 ≤ high.toNat then 2 ^ 63 else 0 := by
  have hmask : ∀ n, n &&& 0x7fff = n % 32768 := fun n => Nat.and_two_pow_sub_one_eq_mod n 15
  have hhigh := high.toNat_lt
  have hlow := low.toNat_lt
  have hshift : ((high.toUInt64 &&& 0x7fff) <<< 32).toNat = 2 ^ 32 * (high.toNat % 32768) := by
    rw [UInt64.toNat_shiftLeft, UInt64.toNat_and, Nat.shiftLeft_eq]
    simp only [UInt16.toNat_toUInt64, UInt64.reduceToNat, hmask, Nat.reduceMod, Nat.reducePow]
    omega
  have hret : (low.toUInt64 ||| ((high.toUInt64 &&& 0x7fff) <<< 32)).toNat
      = 2 ^ 32 * (high.toNat % 32768) + low.toNat := by
    rw [UInt64.toNat_or, hshift, UInt32.toNat_toUInt64, Nat.or_comm,
      ← Nat.two_pow_add_eq_or_of_lt hlow]
  have hsign : high &&& sig16bits ≠ 0 ↔ 2 ^ 15 ≤ high.toNat := by
    rw [Ne, ← UInt16.toNat_inj, UInt16.toNat_and, show sig16bits.toNat = 2 ^ 15 from rfl,
      Nat.and_two_pow, Nat.testBit_eq_decide_div_mod_eq]
    simp
    omega
  have hint : ∀ u : UInt64, u.toInt64.toInt = (u.toNat : Int).bmod (2 ^ 64) := fun u =>
    BitVec.toInt_eq_toNat_bmod u.toBitVec
  rw [join48]
  split
  next h =>
    rw [hint, UInt64.toNat_or, hret, show sig64bits.toNat = 2 ^ 63 * 1 from rfl, Nat.or_comm,
      ← Nat.two_pow_add_eq_or_of_lt (by omega), if_pos (hsign.1 h), Int.bmod_def]
    split <;> omega
  next h =>
    rw [hint, hret, if_neg (mt hsign.2 h), Int.bmod_def]
    split <;> omega

theorem join48_halves {val : Int64} (hmin : int48Min ≤ val) (hmax : val ≤ int48Max) :
    (join48 (high48 val) (low48 val)).toInt
      = val.toInt + if val < 0 then 2 ^ 47 - 2 ^ 63 else 0 := by
  have hlo : -2 ^ 47 ≤ val.toInt := Int64.le_iff_toInt_le.1 hmin
  have hhi : val.toInt ≤ 2 ^ 47 - 1 := Int64.le_iff_toInt_le.1 hmax
  have hneg : val < 0 ↔ val.toInt < 0 := Int64.lt_iff_toInt_lt
  have hhigh := toNat_high48 val
  have hlow := toNat_low48 val
  rw [toNat_join48]
  split at hhigh
  next h =>
    have := hneg.1 h
    rw [if_pos (by omega), if_pos h]
    omega
  next h =>
    have := mt hneg.2 h
    rw [if_neg (by omega), if_neg h]
    omega

/-! ## The octets -/

/-- The two's complement of a number in 48 bits. -/
def twosComplement48 (v : Int) : Nat := (v % 2 ^ 48).toNat

theorem halves_octets {val : Int64} (hmin : int48Min ≤ val) (hmax : val ≤ int48Max) :
    beOctets 2 (high48 val).toNat ++ beOctets 4 (low48 val).toNat
      = beOctets 6 (twosComplement48 val.toInt) := by
  have hlo : -2 ^ 47 ≤ val.toInt := Int64.le_iff_toInt_le.1 hmin
  have hhi : val.toInt ≤ 2 ^ 47 - 1 := Int64.le_iff_toInt_le.1 hmax
  have hneg : val < 0 ↔ val.toInt < 0 := Int64.lt_iff_toInt_lt
  have hhigh := toNat_high48 val
  have hlow := toNat_low48 val
  rw [beOctets_append 2 4 _ (low48 val).toNat_lt, twosComplement48]
  congr 1
  split at hhigh
  next h =>
    have := hneg.1 h
    omega
  next h =>
    have := mt hneg.2 h
    omega

/-- A build writes the two's complement, and a parse joins the halves. -/
theorem procInt48_runs {val : Int64} (v0 : Int64) (hmin : int48Min ≤ val)
    (hmax : val ≤ int48Max) :
    Builds (procInt48 val) val (beOctets 6 (twosComplement48 val.toInt)) ∧
      Parses (procInt48 v0) (join48 (high48 val) (low48 val))
        (beOctets 6 (twosComplement48 val.toInt)) := by
  have hhigh : ∀ h0 : UInt16, RoundTrips (proc (high48 val)) (proc h0) _ _ :=
    procUInt16_roundTrips (high48 val)
  have hlow : ∀ l0 : UInt32, RoundTrips (proc (low48 val)) (proc l0) (low48 val)
      (beOctets 4 (low48 val).toNat) := fun l0 =>
    procBU_roundTrips l0 UInt32.ofNat_toNat (low48 val).toNat_lt
  have hrange : (decide (val < int48Min) || decide (val > int48Max)) = false := by
    simpa [Int64.not_lt] using ⟨hmin, hmax⟩
  rw [← halves_octets hmin hmax, ← List.append_nil (beOctets 4 _)]
  constructor
  · refine Builds.need (by simp [sizeofInteger48]) (Builds.isBuild ?_)
    simp only [hrange, Bool.and_false, Bool.false_eq_true, if_false, if_true]
    exact (hhigh 0).builds.bind ((hlow 0).builds.bind (Builds.pure _))
  · refine Parses.need (by simp [sizeofInteger48]) (Parses.isBuild ?_)
    simp only [Bool.false_and, Bool.false_eq_true, if_false]
    exact (hhigh 0).parses.bind ((hlow 0).parses.bind (Parses.pure _))

/-- What is promised of a signed value: its octets are its two's complement in 48 bits, and a parse of
    them gives it back. -/
def Signed48Right (val : Int64) : Prop :=
  ∀ v0, RoundTrips (procInt48 val) (procInt48 v0) val (beOctets 6 (twosComplement48 val.toInt))

/-- The sign bit alone does not make a negative number. -/
theorem signed48Right_iff {val : Int64} (hmin : int48Min ≤ val) (hmax : val ≤ int48Max) :
    Signed48Right val ↔ 0 ≤ val := by
  have hjoin := join48_halves hmin hmax
  constructor
  · intro h
    have hsame := Parses.unique .ok (h 0).parses (procInt48_runs 0 hmin hmax).2
    rw [← hsame] at hjoin
    by_contra hneg
    rw [if_pos (Int64.not_le.1 hneg)] at hjoin
    omega
  · intro h v0
    obtain ⟨hbuilds, hparses⟩ := procInt48_runs v0 hmin hmax
    have hsame : join48 (high48 val) (low48 val) = val := by
      rw [if_neg (Int64.not_lt.2 h), Int.add_zero] at hjoin
      exact Int64.toInt_inj.1 hjoin
    rw [hsame] at hparses
    exact ⟨hbuilds, hparses⟩

theorem signed48Right_max : Signed48Right int48Max ↔ 0 ≤ int48Max :=
  signed48Right_iff (by decide) (by decide)

/-- A build of -1 writes six octets of ones, and a parse of them gives `-2^63 + 2^47 - 1`. -/
theorem not_signed48Right_neg_one : int48Min ≤ -1 ∧ -1 ≤ int48Max ∧ ¬ Signed48Right (-1) := by
  refine ⟨by decide, by decide, fun h => ?_⟩
  have hread : Parses (procInt48 0) (join48 (high48 (-1)) (low48 (-1)))
      (beOctets 6 (twosComplement48 (-1 : Int64).toInt)) :=
    (procInt48_runs 0 (by decide) (by decide)).2
  exact absurd (Parses.unique .ok (h 0).parses hread) (by decide)

end PtpMgmt
