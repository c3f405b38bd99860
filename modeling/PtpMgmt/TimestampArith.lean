import Mathlib.Tactic.SplitIfs
import PtpMgmt.Types

set_option autoImplicit false

/-! # Timestamps and nanoseconds (`types.cpp`)

The conversion of nanoseconds to a timestamp and the carry and the borrow of `add` and `subt`. Seconds and
nanoseconds are counted modulo 2^64 and 2^32: the loops that carry and borrow are followed in these
types, and their value is compared modulo 2^64. -/

namespace PtpMgmt

/-- `NSEC_PER_SEC`, in the type of the expression it is used in. -/
def nsecPerSec {α : Type} [OfNat α 1000000000] : α := 1000000000

namespace Timestamp

/-! ## The functions -/

/-- The loop after `lldiv` in `Timestamp_t::fromNanoseconds`. -/
def borrowQuot (quot rem : Int64) : Int64 × Int64 :=
  if h : rem < 0 then
    borrowQuot (quot - 1) (rem + nsecPerSec)
  else
    (quot, rem)
termination_by (-rem.toInt).toNat
decreasing_by
  have hneg : rem.toInt < 0 := Int64.lt_iff_toInt_lt.1 h
  have hlow := rem.le_toInt
  have hstep : (rem + nsecPerSec).toInt = rem.toInt + 1000000000 := by
    rw [Int64.toInt_add, show (nsecPerSec : Int64).toInt = 1000000000 from rfl, Int.bmod_eq_of_le]
      <;> omega
  omega

/-- `Timestamp_t::fromNanoseconds`: `lldiv` rounds to zero, and so do `/` and `%` on `Int64`. -/
def fromNanoseconds (nanoseconds : UInt64) : Timestamp :=
  let d := borrowQuot (nanoseconds.toInt64 / nsecPerSec) (nanoseconds.toInt64 % nsecPerSec)
  { secondsField := d.1.toUInt64, nanosecondsField := d.2.toUInt64.toUInt32 }

/-- `Timestamp_t::toNanoseconds`. -/
def toNanoseconds (ts : Timestamp) : UInt64 :=
  ts.nanosecondsField.toUInt64 + ts.secondsField * nsecPerSec

/-- `normNano`. -/
def normNano (ts : Timestamp) : Timestamp :=
  if _h : nsecPerSec ≤ ts.nanosecondsField then
    normNano { secondsField := ts.secondsField + 1,
               nanosecondsField := ts.nanosecondsField - nsecPerSec }
  else
    ts
termination_by ts.nanosecondsField.toNat
decreasing_by
  have hle : 1000000000 ≤ ts.nanosecondsField.toNat := _h
  rw [UInt32.toNat_sub_of_le _ _ _h]
  show ts.nanosecondsField.toNat - 1000000000 < ts.nanosecondsField.toNat
  omega

/-- `Timestamp_t::add` of another timestamp. -/
def add (self ts : Timestamp) : Timestamp :=
  normNano { secondsField := self.secondsField + ts.secondsField,
             nanosecondsField := self.nanosecondsField + ts.nanosecondsField }

/-- The loop of `Timestamp_t::subt`. It adds in 32 bits, so that it may pass by the nanoseconds it looks
    for again and again: `none` is a loop that has not ended after `fuel` rounds. -/
def borrowNano : Nat → UInt64 → UInt32 → UInt32 → Option (UInt64 × UInt32)
  | 0, _, _, _ => none
  | fuel + 1, seconds, nanoseconds, other =>
    if nanoseconds < other then
      borrowNano fuel (seconds - 1) (nanoseconds + nsecPerSec) other
    else
      some (seconds, nanoseconds)

/-- The nanoseconds are the same again after 2^23 rounds: a loop that ends has ended by then. -/
def borrowRounds : Nat := 2 ^ 23 + 1

/-- `Timestamp_t::subt` of another timestamp. `none` never ends. -/
def subt (self ts : Timestamp) : Option Timestamp :=
  (borrowNano borrowRounds (self.secondsField - ts.secondsField) self.nanosecondsField
    ts.nanosecondsField).map fun d =>
      normNano { secondsField := d.1, nanosecondsField := d.2 - ts.nanosecondsField }

/-- A timestamp with less than a second in its nanoseconds. -/
def Normal (ts : Timestamp) : Prop := ts.nanosecondsField < nsecPerSec

instance decidableNormal (ts : Timestamp) : Decidable ts.Normal :=
  inferInstanceAs (Decidable (_ < _))

/-! ## The loops -/

theorem normal_iff (ts : Timestamp) : ts.Normal ↔ ts.nanosecondsField.toNat < 1000000000 := Iff.rfl

/-- One round moves a second from the remainder to the quotient, and at the end the remainder is one. -/
theorem borrowQuot_spec (quot rem : Int64) (h : rem.toInt < 1000000000) :
    (0 ≤ (borrowQuot quot rem).2.toInt ∧ (borrowQuot quot rem).2.toInt < 1000000000) ∧
      (borrowQuot quot rem).1 * nsecPerSec + (borrowQuot quot rem).2 = quot * nsecPerSec + rem := by
  induction quot, rem using borrowQuot.induct with
  | case1 quot rem hneg ih =>
    have hlt : rem.toInt < 0 := Int64.lt_iff_toInt_lt.1 hneg
    have hlow := rem.le_toInt
    have hstep : (rem + nsecPerSec).toInt = rem.toInt + 1000000000 := by
      rw [Int64.toInt_add, show (nsecPerSec : Int64).toInt = 1000000000 from rfl, Int.bmod_eq_of_le]
        <;> omega
    obtain ⟨hrange, heq⟩ := ih (by omega)
    rw [borrowQuot, dif_pos hneg]
    refine ⟨hrange, heq.trans ?_⟩
    grind
  | case2 quot rem hneg =>
    have hge : ¬ rem.toInt < 0 := fun hlt => hneg (Int64.lt_iff_toInt_lt.2 hlt)
    rw [borrowQuot, dif_neg hneg]
    exact ⟨⟨Int.not_lt.1 hge, h⟩, rfl⟩

/-- A remainder that is not negative is left as it is. -/
theorem borrowQuot_of_nonneg {quot rem : Int64} (h : 0 ≤ rem.toInt) :
    borrowQuot quot rem = (quot, rem) := by
  have hge : ¬ rem < 0 := fun hlt => by
    have hneg : rem.toInt < 0 := Int64.lt_iff_toInt_lt.1 hlt
    omega
  rw [borrowQuot, dif_neg hge]

theorem normNano_of_normal {ts : Timestamp} (h : ts.Normal) : ts.normNano = ts := by
  rw [normNano, dif_neg]
  exact UInt32.not_le.2 h

/-- A carry moves a second from the nanoseconds to the seconds. -/
theorem normNano_spec (ts : Timestamp) :
    ts.normNano.Normal ∧ ts.normNano.toNanoseconds = ts.toNanoseconds := by
  induction ts using normNano.induct with
  | case1 ts hcarry ih =>
    rw [normNano, dif_pos hcarry]
    refine ⟨ih.1, ih.2.trans ?_⟩
    have hsub : (ts.nanosecondsField - nsecPerSec).toUInt64 =
        ts.nanosecondsField.toUInt64 - nsecPerSec := by
      apply UInt64.toNat_inj.1
      have hle : (nsecPerSec : UInt64) ≤ ts.nanosecondsField.toUInt64 := by
        rw [UInt64.le_iff_toNat_le, UInt32.toNat_toUInt64]
        exact hcarry
      rw [UInt32.toNat_toUInt64, UInt32.toNat_sub_of_le _ _ hcarry, UInt64.toNat_sub_of_le _ _ hle,
        UInt32.toNat_toUInt64]
      rfl
    simp only [toNanoseconds, hsub]
    grind
  | case2 ts hcarry =>
    rw [normNano, dif_neg hcarry]
    exact ⟨UInt32.not_le.1 hcarry, rfl⟩

theorem toNat_add_normal {m n : UInt32} (hm : m < nsecPerSec) (hn : n < nsecPerSec) :
    (m + n).toNat = m.toNat + n.toNat := by
  have hm' : m.toNat < 1000000000 := hm
  have hn' : n.toNat < 1000000000 := hn
  rw [UInt32.toNat_add]
  exact Nat.mod_eq_of_lt (by omega)

theorem toNat_borrow {n : UInt32} (h : n < nsecPerSec) :
    (n + nsecPerSec).toNat = n.toNat + 1000000000 := by
  have h' : n.toNat < 1000000000 := h
  rw [UInt32.toNat_add]
  exact Nat.mod_eq_of_lt (by show n.toNat + 1000000000 < 2 ^ 32; omega)

/-- The loop goes on as long as no number of seconds more is enough. -/
theorem borrowNano_eq_none (fuel : Nat) (seconds : UInt64) (nanoseconds other : UInt32) :
    borrowNano fuel seconds nanoseconds other = none ↔
      ∀ k < fuel, nanoseconds + UInt32.ofNat k * nsecPerSec < other := by
  induction fuel generalizing seconds nanoseconds with
  | zero => simp [borrowNano]
  | succ fuel ih =>
    have hstep : ∀ k : Nat, nanoseconds + nsecPerSec + UInt32.ofNat k * nsecPerSec =
        nanoseconds + UInt32.ofNat (k + 1) * nsecPerSec := by
      intro k
      rw [UInt32.ofNat_add]
      grind
    have hnow : nanoseconds + UInt32.ofNat 0 * nsecPerSec = nanoseconds := by
      rw [show UInt32.ofNat 0 = 0 from rfl]
      grind
    rw [borrowNano]
    split_ifs with hlt
    · rw [ih]
      simp only [hstep]
      constructor
      · intro h k hk
        cases k with
        | zero =>
          rw [hnow]
          exact hlt
        | succ k => exact h k (by omega)
      · intro h k hk
        exact h (k + 1) (by omega)
    · refine iff_of_false (by simp) fun h => hlt ?_
      have hfirst := h 0 (by omega)
      rwa [hnow] at hfirst

/-- A loop that has not ended after all its rounds never does. -/
theorem borrowNano_stuck {seconds : UInt64} {nanoseconds other : UInt32}
    (h : borrowNano borrowRounds seconds nanoseconds other = none) (fuel : Nat) :
    borrowNano fuel seconds nanoseconds other = none := by
  rw [borrowNano_eq_none] at h ⊢
  intro k hk
  have hperiod : UInt32.ofNat k * nsecPerSec = UInt32.ofNat (k % 2 ^ 23) * nsecPerSec := by
    apply UInt32.toNat_inj.1
    rw [UInt32.toNat_mul, UInt32.toNat_mul, UInt32.toNat_ofNat', UInt32.toNat_ofNat']
    show k % 2 ^ 32 * 1000000000 % 2 ^ 32 = k % 2 ^ 23 % 2 ^ 32 * 1000000000 % 2 ^ 32
    omega
  rw [hperiod]
  have hround : k % 2 ^ 23 < 2 ^ 23 := Nat.mod_lt _ (by decide)
  exact h _ (Nat.lt_succ_of_lt hround)

/-- Of two normalised timestamps at most one second is borrowed. -/
theorem borrowNano_normal (fuel : Nat) (seconds : UInt64) {nanoseconds other : UInt32}
    (hself : nanoseconds < nsecPerSec) (hother : other < nsecPerSec) :
    borrowNano (fuel + 2) seconds nanoseconds other =
      if nanoseconds < other then some (seconds - 1, nanoseconds + nsecPerSec)
      else some (seconds, nanoseconds) := by
  rw [borrowNano]
  split_ifs with hlt
  · have hself' : nanoseconds.toNat < 1000000000 := hself
    have hother' : other.toNat < 1000000000 := hother
    have hsum := toNat_borrow hself
    have hge : ¬ nanoseconds + nsecPerSec < other := by
      rw [UInt32.lt_iff_toNat_lt, hsum]
      omega
    rw [borrowNano, if_neg hge]
  · rfl

/-! ## What the operations are for -/

theorem toNanoseconds_eq (ts : Timestamp) :
    ts.toNanoseconds = ts.secondsField * nsecPerSec + ts.nanosecondsField.toUInt64 :=
  UInt64.add_comm _ _

/-- `lldiv` gives the dividend back. -/
theorem lldiv_add (n : Int64) : n / nsecPerSec * nsecPerSec + n % nsecPerSec = n := by
  apply Int64.toInt.inj
  have hdiv : (n / nsecPerSec).toInt = n.toInt.tdiv (nsecPerSec : Int64).toInt :=
    Int64.toInt_div_of_ne_right _ _ (by decide)
  have hlow := n.le_toInt
  have hhigh := n.toInt_lt
  rw [Int64.toInt_add, Int64.toInt_mul, hdiv, Int64.toInt_mod, Int.bmod_add_bmod, Int.tdiv_mul_add_tmod,
    Int.bmod_eq_of_le (by omega) (by omega)]

theorem lldiv_rem_lt (n : Int64) : (n % nsecPerSec).toInt < 1000000000 := by
  rw [Int64.toInt_mod]
  exact Int.tmod_lt_of_pos _ (by decide)

theorem toUInt64_toNat {rem : Int64} (h : 0 ≤ rem.toInt) : rem.toUInt64.toNat = rem.toInt.toNat := by
  rw [Int64.toNat_toUInt64_of_le (Int64.le_iff_toInt_le.2 h), Int64.toNat_toInt]

theorem fromNanoseconds_spec (nanoseconds : UInt64) : (fromNanoseconds nanoseconds).Normal ∧
    (fromNanoseconds nanoseconds).toNanoseconds = nanoseconds := by
  obtain ⟨⟨hnonneg, hlt⟩, hsum⟩ := borrowQuot_spec (nanoseconds.toInt64 / nsecPerSec)
    (nanoseconds.toInt64 % nsecPerSec) (lldiv_rem_lt _)
  rw [lldiv_add] at hsum
  rw [normal_iff, toNanoseconds_eq, fromNanoseconds]
  generalize borrowQuot (nanoseconds.toInt64 / nsecPerSec) (nanoseconds.toInt64 % nsecPerSec) = d at *
  have hrem : d.2.toUInt64.toNat < 1000000000 := by
    rw [toUInt64_toNat hnonneg]
    omega
  -- the nanoseconds are in 32 bits what they are in 64
  have hcast : d.2.toUInt64.toUInt32.toNat = d.2.toUInt64.toNat := by
    rw [UInt64.toNat_toUInt32]
    exact Nat.mod_eq_of_lt (by omega)
  constructor
  · rw [hcast]
    exact hrem
  · have hwide : d.2.toUInt64.toUInt32.toUInt64 = d.2.toUInt64 := by
      apply UInt64.toNat_inj.1
      rw [UInt32.toNat_toUInt64, hcast]
    rw [hwide]
    exact congrArg Int64.toUInt64 hsum

theorem fromNanoseconds_seconds {nanoseconds : UInt64} (h : nanoseconds.toNat < 2 ^ 63) :
    (fromNanoseconds nanoseconds).secondsField.toNat = nanoseconds.toNat / 10 ^ 9 := by
  have hdividend : nanoseconds.toInt64.toInt = nanoseconds.toNat := by
    show nanoseconds.toBitVec.toInt = nanoseconds.toNat
    rw [BitVec.toInt_eq_toNat_of_lt]
    · rfl
    · show 2 * nanoseconds.toNat < 2 ^ 64
      omega
  have hrem : 0 ≤ (nanoseconds.toInt64 % nsecPerSec).toInt := by
    rw [Int64.toInt_mod, hdividend]
    exact Int.tmod_nonneg _ (Int.natCast_nonneg _)
  have hquot : (nanoseconds.toInt64 / nsecPerSec).toInt = (nanoseconds.toNat / 10 ^ 9 : Nat) := by
    rw [Int64.toInt_div_of_ne_right _ _ (by decide), hdividend]
    rfl
  rw [fromNanoseconds, borrowQuot_of_nonneg hrem]
  show (nanoseconds.toInt64 / nsecPerSec).toUInt64.toNat = _
  rw [toUInt64_toNat (by rw [hquot]; exact Int.natCast_nonneg _), hquot]
  rfl

/-- Two times that are normalised carry one second at most. -/
theorem add_eq {a b : Timestamp} (ha : a.Normal) (hb : b.Normal) :
    a.add b = if nsecPerSec ≤ a.nanosecondsField + b.nanosecondsField then
        { secondsField := a.secondsField + b.secondsField + 1,
          nanosecondsField := a.nanosecondsField + b.nanosecondsField - nsecPerSec }
      else
        { secondsField := a.secondsField + b.secondsField,
          nanosecondsField := a.nanosecondsField + b.nanosecondsField } := by
  have ha' := (normal_iff a).1 ha
  have hb' := (normal_iff b).1 hb
  have hsum := toNat_add_normal ha hb
  rw [add, normNano]
  split_ifs with hcarry
  · refine normNano_of_normal ((normal_iff _).2 ?_)
    have hdiff : (a.nanosecondsField + b.nanosecondsField - nsecPerSec).toNat =
        (a.nanosecondsField + b.nanosecondsField).toNat - 1000000000 :=
      UInt32.toNat_sub_of_le _ _ hcarry
    rw [hdiff]
    omega
  · rfl

theorem add_normal (a b : Timestamp) : (a.add b).Normal := (normNano_spec _).1

theorem add_toNanoseconds {a b : Timestamp} (ha : a.Normal) (hb : b.Normal) :
    (a.add b).toNanoseconds = a.toNanoseconds + b.toNanoseconds := by
  have ha' := (normal_iff a).1 ha
  have hb' := (normal_iff b).1 hb
  -- two times less than a second fits in the 32 bits
  have hwide : (a.nanosecondsField + b.nanosecondsField).toUInt64 =
      a.nanosecondsField.toUInt64 + b.nanosecondsField.toUInt64 := by
    apply UInt64.toNat_inj.1
    rw [UInt32.toNat_toUInt64, toNat_add_normal ha hb, UInt64.toNat_add, UInt32.toNat_toUInt64,
      UInt32.toNat_toUInt64]
    omega
  rw [add, (normNano_spec _).2, toNanoseconds_eq, toNanoseconds_eq, toNanoseconds_eq, hwide]
  grind

theorem toUInt64_sub_of_le {a b : UInt32} (h : b ≤ a) : (a - b).toUInt64 = a.toUInt64 - b.toUInt64 := by
  apply UInt64.toNat_inj.1
  have hwide : b.toUInt64 ≤ a.toUInt64 := by
    rw [UInt64.le_iff_toNat_le, UInt32.toNat_toUInt64, UInt32.toNat_toUInt64]
    exact h
  rw [UInt32.toNat_toUInt64, UInt32.toNat_sub_of_le _ _ h, UInt64.toNat_sub_of_le _ _ hwide,
    UInt32.toNat_toUInt64, UInt32.toNat_toUInt64]

/-- The difference of two times that are normalised: a second is borrowed where the nanoseconds are
    fewer, and there is nothing to carry. -/
theorem subt_eq {a b : Timestamp} (ha : a.Normal) (hb : b.Normal) :
    a.subt b = some (if a.nanosecondsField < b.nanosecondsField then
        { secondsField := a.secondsField - b.secondsField - 1,
          nanosecondsField := a.nanosecondsField + nsecPerSec - b.nanosecondsField }
      else
        { secondsField := a.secondsField - b.secondsField,
          nanosecondsField := a.nanosecondsField - b.nanosecondsField }) := by
  have ha' := (normal_iff a).1 ha
  have hb' := (normal_iff b).1 hb
  have hsum := toNat_borrow ha
  rw [subt, show borrowRounds = 2 ^ 23 - 1 + 2 from rfl, borrowNano_normal _ _ ha hb]
  split_ifs with hlt
  · have hlt' : a.nanosecondsField.toNat < b.nanosecondsField.toNat := hlt
    have hle : b.nanosecondsField ≤ a.nanosecondsField + nsecPerSec := by
      rw [UInt32.le_iff_toNat_le, hsum]
      omega
    refine congrArg some (normNano_of_normal ((normal_iff _).2 ?_))
    show (a.nanosecondsField + nsecPerSec - b.nanosecondsField).toNat < 1000000000
    rw [UInt32.toNat_sub_of_le _ _ hle, hsum]
    omega
  · have hle : b.nanosecondsField ≤ a.nanosecondsField := UInt32.not_lt.1 hlt
    refine congrArg some (normNano_of_normal ((normal_iff _).2 ?_))
    show (a.nanosecondsField - b.nanosecondsField).toNat < 1000000000
    rw [UInt32.toNat_sub_of_le _ _ hle]
    omega

theorem subt_spec {a b : Timestamp} (ha : a.Normal) (hb : b.Normal) :
    ∃ diff, a.subt b = some diff ∧ diff.Normal ∧
      diff.toNanoseconds = a.toNanoseconds - b.toNanoseconds := by
  have ha' := (normal_iff a).1 ha
  have hb' := (normal_iff b).1 hb
  refine ⟨_, subt_eq ha hb, ?_⟩
  have hsum := toNat_borrow ha
  rw [normal_iff]
  split_ifs with hlt
  · have hlt' : a.nanosecondsField.toNat < b.nanosecondsField.toNat := hlt
    have hle : b.nanosecondsField ≤ a.nanosecondsField + nsecPerSec := by
      rw [UInt32.le_iff_toNat_le, hsum]
      omega
    have hwide : (a.nanosecondsField + nsecPerSec).toUInt64 = a.nanosecondsField.toUInt64 + nsecPerSec := by
      apply UInt64.toNat_inj.1
      rw [UInt32.toNat_toUInt64, hsum, UInt64.toNat_add, UInt32.toNat_toUInt64]
      exact (Nat.mod_eq_of_lt (by show a.nanosecondsField.toNat + 1000000000 < 2 ^ 64; omega)).symm
    constructor
    · rw [UInt32.toNat_sub_of_le _ _ hle, hsum]
      omega
    · rw [toNanoseconds_eq, toNanoseconds_eq, toNanoseconds_eq, toUInt64_sub_of_le hle, hwide]
      grind
  · have hle : b.nanosecondsField ≤ a.nanosecondsField := UInt32.not_lt.1 hlt
    constructor
    · rw [UInt32.toNat_sub_of_le _ _ hle]
      omega
    · rw [toNanoseconds_eq, toNanoseconds_eq, toNanoseconds_eq, toUInt64_sub_of_le hle]
      grind

/-- What was carried is what is borrowed. -/
theorem subt_add {a b : Timestamp} (ha : a.Normal) (hb : b.Normal) : (a.add b).subt b = some a := by
  have ha' := (normal_iff a).1 ha
  have hb' := (normal_iff b).1 hb
  have hsum := toNat_add_normal ha hb
  rw [subt_eq (add_normal a b) hb, add_eq ha hb]
  refine congrArg some ?_
  by_cases hcarry : nsecPerSec ≤ a.nanosecondsField + b.nanosecondsField
  · have hborrow : a.nanosecondsField + b.nanosecondsField - nsecPerSec < b.nanosecondsField := by
      have hcarry' : 1000000000 ≤ (a.nanosecondsField + b.nanosecondsField).toNat := hcarry
      rw [UInt32.lt_iff_toNat_lt, UInt32.toNat_sub_of_le _ _ hcarry, hsum]
      show a.nanosecondsField.toNat + b.nanosecondsField.toNat - 1000000000 < b.nanosecondsField.toNat
      omega
    rw [if_pos hcarry, if_pos hborrow, Timestamp.mk.injEq]
    constructor <;> grind
  · have hkeep : ¬ a.nanosecondsField + b.nanosecondsField < b.nanosecondsField := by
      rw [UInt32.lt_iff_toNat_lt, hsum]
      omega
    rw [if_neg hcarry, if_neg hkeep, Timestamp.mk.injEq]
    constructor <;> grind

/-! ## The arithmetic -/

/-- Nanoseconds make a normalised timestamp and come back from it, all 2^64 of them, and `add` and `subt`
    of normalised timestamps end, stay normalised and are the sum and the difference modulo 2^64. -/
theorem nanoseconds_spec :
    (∀ nanoseconds : UInt64, (fromNanoseconds nanoseconds).Normal ∧
      (fromNanoseconds nanoseconds).toNanoseconds = nanoseconds ∧
      (nanoseconds.toNat < 2 ^ 63 →
        (fromNanoseconds nanoseconds).secondsField.toNat = nanoseconds.toNat / 10 ^ 9)) ∧
    ∀ a b : Timestamp, a.Normal → b.Normal →
      ((a.add b).Normal ∧ (a.add b).toNanoseconds = a.toNanoseconds + b.toNanoseconds) ∧
      (∃ diff, a.subt b = some diff ∧ diff.Normal ∧
        diff.toNanoseconds = a.toNanoseconds - b.toNanoseconds) ∧
      (a.add b).subt b = some a := by
  refine ⟨fun nanoseconds => ?_, fun a b ha hb => ?_⟩
  · obtain ⟨hnormal, hvalue⟩ := fromNanoseconds_spec nanoseconds
    exact ⟨hnormal, hvalue, fromNanoseconds_seconds⟩
  · exact ⟨⟨add_normal a b, add_toNanoseconds ha hb⟩, subt_spec ha hb, subt_add ha hb⟩

/-- The last nanosecond of all, and one more. -/
theorem nanoseconds_spec_carry :
    (fromNanoseconds 1000000001).secondsField.toNat = 1 ∧
      (Timestamp.add ⟨18446744073709551615, 999999999⟩ ⟨0, 1⟩).subt ⟨0, 1⟩ =
        some ⟨18446744073709551615, 999999999⟩ :=
  ⟨(nanoseconds_spec.1 1000000001).2.2 (by decide),
    (nanoseconds_spec.2 ⟨18446744073709551615, 999999999⟩ ⟨0, 1⟩ (by decide) (by decide)).2.2⟩

end Timestamp

end PtpMgmt
