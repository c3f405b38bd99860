import Mathlib.Tactic.Ring
import Mathlib.Tactic.Linarith
import Mathlib.Data.List.Basic

set_option autoImplicit false

/-! # Octet strings and octet memories

The two things every wire format rests on: numbers written as a fixed count of octets (big-endian
`beOctets`, little-endian `leOctets`, both truncating like a C cast), and a memory seen as a
function from offsets to octets, read with `slice` and written with `store`.

A memory has no end: what lies behind the buffer a program was given is still there, and a read or
a write beyond the end is an ordinary `slice` or `store`. Staying inside the buffer is something to
prove, not something the types enforce. -/

namespace Wire

/-! ## Numbers as octets -/

/-- The `n` low octets of `v`, most significant first. -/
def beOctets : Nat → Nat → List UInt8
  | 0, _ => []
  | n + 1, v => UInt8.ofNat (v / 256 ^ n) :: beOctets n v

/-- The number a big-endian octet string denotes. -/
def ofBe (w : List UInt8) : Nat :=
  w.foldl (fun acc b => acc * 256 + b.toNat) 0

/-- The `n` low octets of `v`, least significant first. -/
def leOctets (n v : Nat) : List UInt8 :=
  (beOctets n v).reverse

/-- The number a little-endian octet string denotes. -/
def ofLe (w : List UInt8) : Nat :=
  ofBe w.reverse

@[simp]
theorem length_beOctets (n v : Nat) : (beOctets n v).length = n := by
  induction n with
  | zero => rfl
  | succ n ih => simp [beOctets, ih]

@[simp]
theorem length_leOctets (n v : Nat) : (leOctets n v).length = n := by
  simp [leOctets]

theorem foldl_be_eq (w : List UInt8) (acc : Nat) :
    w.foldl (fun acc b => acc * 256 + b.toNat) acc = acc * 256 ^ w.length + ofBe w := by
  induction w generalizing acc with
  | nil => simp [ofBe]
  | cons b rest ih =>
      have hhead := ih (acc * 256 + b.toNat)
      have hzero := ih b.toNat
      simp only [ofBe, List.foldl_cons, List.length_cons, zero_mul, zero_add] at *
      rw [hhead, hzero, pow_succ]
      ring

theorem ofBe_cons (b : UInt8) (w : List UInt8) :
    ofBe (b :: w) = b.toNat * 256 ^ w.length + ofBe w := by
  have h := foldl_be_eq w b.toNat
  simpa [ofBe] using h

theorem ofBe_lt (w : List UInt8) : ofBe w < 256 ^ w.length := by
  induction w with
  | nil => simp [ofBe]
  | cons b rest ih =>
      have hb : b.toNat < 256 := UInt8.toNat_lt b
      have hle : b.toNat * 256 ^ rest.length ≤ 255 * 256 ^ rest.length :=
        Nat.mul_le_mul_right _ (by omega)
      rw [ofBe_cons, List.length_cons, pow_succ]
      omega

/-- So many octets have no other number. -/
theorem ofBe_inj {w w' : List UInt8} (hlen : w.length = w'.length) (h : ofBe w = ofBe w') : w = w' := by
  induction w generalizing w' with
  | nil => exact (List.length_eq_zero_iff.1 hlen.symm).symm
  | cons b rest ih =>
      obtain ⟨b', rest', rfl⟩ := List.exists_cons_of_length_eq_add_one hlen.symm
      rw [List.length_cons, List.length_cons, Nat.succ_inj] at hlen
      rw [ofBe_cons, ofBe_cons, hlen] at h
      have hrest : ofBe rest < 256 ^ rest'.length := hlen ▸ ofBe_lt rest
      have hrest' := ofBe_lt rest'
      have hhead : b.toNat = b'.toNat := by
        have hdiv := congrArg (· / 256 ^ rest'.length) h
        simpa [Nat.mul_add_div, Nat.div_eq_of_lt hrest, Nat.div_eq_of_lt hrest', Nat.mul_comm _ (256 ^ _)]
          using hdiv
      rw [hhead, Nat.add_left_cancel_iff] at h
      rw [ih hlen h, UInt8.toNat_inj.1 hhead]

/-- Reading back what was written gives the number, truncated to the octets it was given. -/
theorem ofBe_beOctets (n v : Nat) : ofBe (beOctets n v) = v % 256 ^ n := by
  induction n with
  | zero => simp [beOctets, ofBe, Nat.mod_one]
  | succ n ih =>
      have hbyte : (UInt8.ofNat (v / 256 ^ n)).toNat = v / 256 ^ n % 256 := UInt8.toNat_ofNat'
      rw [beOctets, ofBe_cons, ih, length_beOctets, hbyte, Nat.pow_succ, Nat.mod_mul]
      ring

/-- Only the octets that are written count. -/
theorem beOctets_mod (n v : Nat) : beOctets n (v % 256 ^ n) = beOctets n v := by
  induction n generalizing v with
  | zero => rfl
  | succ n ih =>
      have hhead : UInt8.ofNat (v % 256 ^ (n + 1) / 256 ^ n) = UInt8.ofNat (v / 256 ^ n) := by
        apply UInt8.toNat_inj.1
        rw [UInt8.toNat_ofNat', UInt8.toNat_ofNat', pow_succ, Nat.mod_mul_right_div_self,
          Nat.mod_mod]
      have htail : beOctets n (v % 256 ^ (n + 1)) = beOctets n v := by
        rw [← ih (v % 256 ^ (n + 1)), Nat.mod_mod_of_dvd _ (Nat.pow_dvd_pow 256 n.le_succ), ih]
      rw [beOctets, beOctets, hhead, htail]

/-- The octets of two parts of a number, the upper part first. -/
theorem beOctets_append (n m : Nat) (high : Nat) {low : Nat} (h : low < 256 ^ m) :
    beOctets n high ++ beOctets m low = beOctets (n + m) (256 ^ m * high + low) := by
  induction n with
  | zero =>
      rw [Nat.zero_add, ← beOctets_mod m (256 ^ m * high + low), Nat.mul_add_mod,
        Nat.mod_eq_of_lt h]
      rfl
  | succ n ih =>
      have hdiv : (256 ^ m * high + low) / 256 ^ (n + m) = high / 256 ^ n := by
        rw [Nat.add_comm n, pow_add, ← Nat.div_div_eq_div_mul,
          Nat.mul_add_div (Nat.pow_pos (by decide)), Nat.div_eq_of_lt h, Nat.add_zero]
      rw [beOctets, List.cons_append, ih, Nat.add_right_comm, beOctets, hdiv]

theorem ofLe_leOctets (n v : Nat) : ofLe (leOctets n v) = v % 256 ^ n := by
  simp [ofLe, leOctets, ofBe_beOctets]

/-! ## Octet memories -/

/-- The `n` octets of `mem` from offset `off` on. -/
def slice (mem : Nat → UInt8) (off n : Nat) : List UInt8 :=
  (List.range' off n).map mem

/-- `mem` with `w` written at offset `off`. -/
def store (mem : Nat → UInt8) (off : Nat) (w : List UInt8) : Nat → UInt8 :=
  fun i => if off ≤ i then (w[i - off]?).getD (mem i) else mem i

@[simp]
theorem length_slice (mem : Nat → UInt8) (off n : Nat) : (slice mem off n).length = n := by
  simp [slice]

@[simp]
theorem slice_zero (mem : Nat → UInt8) (off : Nat) : slice mem off 0 = [] := rfl

theorem slice_add (mem : Nat → UInt8) (off n m : Nat) :
    slice mem off (n + m) = slice mem off n ++ slice mem (off + n) m := by
  simp [slice, ← List.range'_append_1]

/-- A slice that is an append, in its two parts. -/
theorem slice_eq_append {mem : Nat → UInt8} {off : Nat} {v w : List UInt8}
    (h : slice mem off (v ++ w).length = v ++ w) :
    slice mem off v.length = v ∧ slice mem (off + v.length) w.length = w := by
  rw [List.length_append, slice_add] at h
  exact List.append_inj h (by simp)

/-- Two memories that agree on a window have the same slice there. -/
theorem slice_congr {mem mem' : Nat → UInt8} {off n : Nat}
    (h : ∀ i, off ≤ i → i < off + n → mem i = mem' i) : slice mem off n = slice mem' off n := by
  apply List.map_congr_left
  intro i hi
  rw [List.mem_range'_1] at hi
  exact h i hi.1 hi.2

@[simp]
theorem store_nil (mem : Nat → UInt8) (off : Nat) : store mem off [] = mem := by
  funext i
  simp [store]

theorem store_apply_of_lt (mem : Nat → UInt8) (off i : Nat) (w : List UInt8) (h : i < off) :
    store mem off w i = mem i := by
  simp [store, Nat.not_le.2 h]

theorem store_apply_of_le (mem : Nat → UInt8) (off i : Nat) (w : List UInt8)
    (h : off + w.length ≤ i) : store mem off w i = mem i := by
  have hout : w.length ≤ i - off := by omega
  simp [store, show off ≤ i by omega, List.getElem?_eq_none hout]

theorem store_append (mem : Nat → UInt8) (off : Nat) (v w : List UInt8) :
    store mem off (v ++ w) = store (store mem off v) (off + v.length) w := by
  funext i
  rcases Nat.lt_or_ge i off with hlt | hge
  · rw [store_apply_of_lt _ _ _ _ hlt, store_apply_of_lt _ _ _ _ (by omega),
      store_apply_of_lt _ _ _ _ hlt]
  · rcases Nat.lt_or_ge i (off + v.length) with hv | hv
    · have hk : i - off < v.length := by omega
      rw [store_apply_of_lt _ _ _ _ hv]
      simp [store, hge, List.getElem?_append_left hk]
    · have hk : v.length ≤ i - off := by omega
      have hnone : v[i - off]? = none := List.getElem?_eq_none hk
      simp [store, hge, hv, List.getElem?_append_right hk, hnone, Nat.sub_sub]

theorem slice_store_self (mem : Nat → UInt8) (off : Nat) (w : List UInt8) :
    slice (store mem off w) off w.length = w := by
  apply List.ext_getElem (by simp)
  intro i hi hw
  simp [slice, store, hw]

/-- A store leaves every slice beside it alone. -/
theorem slice_store_of_disjoint (mem : Nat → UInt8) (off off' n : Nat) (w : List UInt8)
    (h : off' + n ≤ off ∨ off + w.length ≤ off') :
    slice (store mem off w) off' n = slice mem off' n := by
  apply slice_congr
  intro i hi hin
  rcases h with h | h
  · exact store_apply_of_lt _ _ _ _ (by omega)
  · exact store_apply_of_le _ _ _ _ (by omega)

/-- The number in the `n` octets at `off`, most significant first. -/
def beAt (mem : Nat → UInt8) (off n : Nat) : Nat :=
  ofBe (slice mem off n)

theorem beAt_lt (mem : Nat → UInt8) (off n : Nat) : beAt mem off n < 256 ^ n := by
  have h := ofBe_lt (slice mem off n)
  rwa [length_slice] at h

/-- A number that stands in the memory is read back, truncated to its octets. -/
theorem beAt_of_slice {mem : Nat → UInt8} {off n v : Nat} (h : slice mem off n = beOctets n v) :
    beAt mem off n = v % 256 ^ n := by
  rw [beAt, h, ofBe_beOctets]

theorem slice_of_beAt {mem : Nat → UInt8} {off n v : Nat} (h : beAt mem off n = v % 256 ^ n) :
    slice mem off n = beOctets n v :=
  ofBe_inj (by rw [length_slice, length_beOctets]) (by rw [ofBe_beOctets]; exact h)

theorem beAt_store_self (mem : Nat → UInt8) (off n v : Nat) :
    beAt (store mem off (beOctets n v)) off n = v % 256 ^ n := by
  have h := slice_store_self mem off (beOctets n v)
  rw [length_beOctets] at h
  rw [beAt, h, ofBe_beOctets]

/-- A list seen as a memory: zero behind its end. -/
def ofList (w : List UInt8) : Nat → UInt8 :=
  fun i => w.getD i 0

/-- The head of a list in memory. -/
theorem slice_ofList (v w : List UInt8) {off n : Nat} (h : off + n ≤ v.length) :
    slice (ofList (v ++ w)) off n = (v.drop off).take n := by
  apply List.ext_getElem
  · rw [length_slice, List.length_take, List.length_drop]
    omega
  · intro i hi _
    rw [length_slice] at hi
    have hlt : off + i < v.length := by omega
    simp [slice, ofList, List.getElem?_append_left hlt, hlt]

/-- The rest of a list in memory. -/
theorem slice_ofList_right (v w : List UInt8) :
    slice (ofList (v ++ w)) v.length w.length = w := by
  apply List.ext_getElem (by simp)
  intro i hi hw
  simp [slice, ofList, hw]

/-! ## Memories that agree

Two memories that agree at some places still do behind the same writes, and agree where these wrote. So what is
written all over does not depend on what was there. -/

/-- The memories agree at these places. -/
def AgreeOn (P : Nat → Prop) (mem mem' : Nat → UInt8) : Prop := ∀ o, P o → mem o = mem' o

namespace AgreeOn

variable {P Q : Nat → Prop} {mem mem' : Nat → UInt8}

theorem none (mem mem' : Nat → UInt8) : AgreeOn (fun _ => False) mem mem' := fun _ h => h.elim

theorem mono (h : AgreeOn P mem mem') (hsub : ∀ o, Q o → P o) : AgreeOn Q mem mem' := fun o ho => h o (hsub o ho)

/-- The same octets are written at the same place. -/
theorem store (h : AgreeOn P mem mem') (off : Nat) (w : List UInt8) :
    AgreeOn (fun o => P o ∨ (off ≤ o ∧ o < off + w.length)) (store mem off w) (store mem' off w) := by
  intro o ho
  by_cases hin : off ≤ o ∧ o < off + w.length
  · have hget : w[o - off]? = some w[o - off] := List.getElem?_eq_getElem (by omega)
    simp [Wire.store, hin.1, hget]
  · have hold := h o (ho.resolve_right hin)
    rcases Nat.lt_or_ge o off with hlt | hle
    · rw [store_apply_of_lt _ _ _ _ hlt, store_apply_of_lt _ _ _ _ hlt, hold]
    · rw [store_apply_of_le _ _ _ _ (by omega), store_apply_of_le _ _ _ _ (by omega), hold]

theorem slice (h : AgreeOn P mem mem') (off n : Nat) (hin : ∀ o, off ≤ o → o < off + n → P o) :
    slice mem off n = slice mem' off n :=
  slice_congr fun o hle hlt => h o (hin o hle hlt)

end AgreeOn

end Wire
