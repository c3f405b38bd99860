import Mathlib.Algebra.Order.Ring.Int
import PtpMgmt.Json.RoundTrip

set_option autoImplicit false

/-! # Numbers as text

Numbers as `std::to_string` and `snprintf` print them. The parser reads all of them, apart from the names
that are printed for a float that is no number. -/

namespace PtpMgmt.Json

/-! ## Printing -/

/-- `std::to_string` of an unsigned integer. -/
def decimal (n : Nat) : Text := (Nat.toDigits 10 n).map chr

def sign (neg : Bool) : Text := if neg then [chr '-'] else []

/-- `std::to_string` of a signed integer. -/
def decimalInt (i : Int) : Text := sign (decide (i < 0)) ++ decimal i.natAbs

/-- `%.*u`: with zeros in front up to so many digits. -/
def decimalPad (width n : Nat) : Text := List.replicate (width - (decimal n).length) (chr '0') ++ decimal n

/-- `%02x`. -/
def hexOctet (b : UInt8) : Text := [hexDigit (b.toNat / 16), hexDigit (b.toNat % 16)]

theorem exists_hexDigit {b c : UInt8} (h : c ∈ hexOctet b) : ∃ d : Fin 16, c = hexDigit d.val := by
  have hb := b.toNat_lt
  rw [hexOctet, List.mem_cons, List.mem_singleton] at h
  rcases h with h | h
  · exact ⟨⟨b.toNat / 16, by omega⟩, h⟩
  · exact ⟨⟨b.toNat % 16, by omega⟩, h⟩

/-- `a / d`, rounded to the nearest, and half to even. -/
def roundDiv (a d : Nat) : Nat :=
  if 2 * (a % d) < d then a / d else if 2 * (a % d) > d then a / d + 1 else a / d + a / d % 2

/-- The magnitude of a finite double in millionths, rounded. -/
def doubleMicro (bits : UInt64) : Nat :=
  let exp := bits.toNat / 2 ^ 52 % 2 ^ 11
  let mnt := bits.toNat % 2 ^ 52
  -- a subnormal has the exponent of the smallest normal number, without the leading bit
  let m := if exp = 0 then mnt else mnt + 2 ^ 52
  let e := max exp 1
  if e ≥ 1075 then m * 2 ^ (e - 1075) * 10 ^ 6 else roundDiv (m * 10 ^ 6) (2 ^ (1075 - e))

/-- A double that is a number: its exponent is not all ones. -/
def finite (bits : UInt64) : Bool := bits.toNat / 2 ^ 52 % 2 ^ 11 != 2 ^ 11 - 1

/-- `std::to_string` of a double, which is `%f`. -/
def decimalDouble (bits : UInt64) : Text :=
  sign (decide (bits.toNat ≥ 2 ^ 63)) ++
    if finite bits then
      decimal (doubleMicro bits / 10 ^ 6) ++ chr '.' :: decimalPad 6 (doubleMicro bits % 10 ^ 6)
    else if bits.toNat % 2 ^ 52 = 0 then txt "inf"
    else txt "nan"

/-! ## Digits -/

def Digits (t : Text) : Prop := ∀ c ∈ t, isDigit c = true

theorem Digits.append {t t' : Text} (h : Digits t) (h' : Digits t') : Digits (t ++ t') := by
  intro c hc
  rcases List.mem_append.1 hc with hc | hc
  · exact h c hc
  · exact h' c hc

theorem isDigit_spec {c : UInt8} (h : isDigit c = true) :
    isDelim c = false ∧ c ≠ 0 ∧ charToken c = .num ∧ c ≠ chr '-' ∧ c ≠ chr '+' ∧ c ≠ chr '.' ∧
      c ≠ chr 'e' ∧ c ≠ chr 'E' := by
  obtain ⟨d, rfl⟩ := exists_digit h
  clear h
  revert d
  decide

theorem Digits.numChars {t : Text} (h : Digits t) : NumChars t := by
  intro c hc
  obtain ⟨hdelim, h0, -⟩ := isDigit_spec (h c hc)
  exact ⟨hdelim, h0⟩

theorem digitChar_spec : ∀ d : Fin 10, isDigit (chr d.val.digitChar) = true ∧
    (chr d.val.digitChar = chr '0' → d.val = 0) := by
  decide

/-- A number has one digit, or the digits of its tenth before the last one. -/
theorem decimal_eq (n : Nat) : decimal n =
    if n < 10 then [chr n.digitChar] else decimal (n / 10) ++ [chr (n % 10).digitChar] := by
  rw [decimal, Nat.toDigits_eq_if (by decide)]
  split
  · rfl
  · rw [List.map_append]
    rfl

/-- The digits of a number: a zero alone, or no zero in front. -/
theorem decimal_cases (n : Nat) : n = 0 ∧ decimal n = [chr '0'] ∨
    0 < n ∧ ∃ c t, decimal n = c :: t ∧ isDigit c = true ∧ c ≠ chr '0' ∧ Digits t := by
  induction n using Nat.strong_induction_on with
  | _ n ih =>
      rw [decimal_eq]
      split
      · next hn =>
          obtain ⟨hdigit, hzero⟩ := digitChar_spec ⟨n, hn⟩
          rcases Nat.eq_zero_or_pos n with rfl | hpos
          · exact .inl ⟨rfl, rfl⟩
          · refine .inr ⟨hpos, _, [], rfl, hdigit, fun h => ?_, ?_⟩
            · have hz : n = 0 := hzero h
              omega
            · intro c hc
              cases hc
      · next hn =>
          obtain ⟨hdigit, -⟩ := digitChar_spec ⟨n % 10, Nat.mod_lt _ (by decide)⟩
          have hlast : Digits [chr (n % 10).digitChar] := by
            intro c hc
            rw [List.mem_singleton.1 hc]
            exact hdigit
          rcases ih (n / 10) (by omega) with ⟨hzero, -⟩ | ⟨hpos, c, t, ht, hc, hne, hdigits⟩
          · omega
          · refine .inr ⟨by omega, c, t ++ [chr (n % 10).digitChar], ?_, hc, hne, hdigits.append hlast⟩
            rw [ht, List.cons_append]

theorem decimal_digits (n : Nat) : Digits (decimal n) := by
  rcases decimal_cases n with ⟨-, h⟩ | ⟨-, c, t, h, hc, -, ht⟩
  · rw [h]
    intro c hc
    rw [List.mem_singleton.1 hc]
    decide
  · rw [h]
    intro d hd
    rcases List.mem_cons.1 hd with rfl | hd
    · exact hc
    · exact ht d hd

theorem decimal_ne_nil (n : Nat) : decimal n ≠ [] := by
  rcases decimal_cases n with ⟨-, h⟩ | ⟨-, c, t, h, -⟩ <;> simp [h]

theorem decimalPad_digits (width n : Nat) : Digits (decimalPad width n) := by
  refine Digits.append ?_ (decimal_digits n)
  intro c hc
  rw [(List.mem_replicate.1 hc).2]
  decide

/-! ## Numbers are read -/

theorem feed_append (st : NumState) (t t' : Text) :
    feed st (t ++ t') = (feed st t).bind fun st => feed st t' := by
  induction t generalizing st with
  | nil => rfl
  | cons c t ih =>
      rw [List.cons_append, feed, feed]
      cases st.next c with
      | none => rfl
      | some st => exact ih st

/-- A digit where no zero is in the way. -/
theorem next_digit {st : NumState} {c : UInt8} (hc : isDigit c = true)
    (hzero : (st.haveZero && decide (st.loc > st.locZero)) = false) (hprohib : st.zeroProhib = false) :
    st.next c = some { st with
      zeroProhib := false, lastNotDigit := false, ret := st.ret ++ [c], loc := st.loc + 1 } := by
  obtain ⟨-, -, -, hminus, hplus, hdot, he, hE⟩ := isDigit_spec hc
  unfold NumState.next
  rw [if_neg (by simp [he, hE]), if_neg hdot, if_neg (by simp [hminus, hplus]), if_neg]
  simp [hc, hzero, hprohib]

/-- Digits where no zero stands in front. -/
theorem feed_digits {st : NumState} {t : Text} (ht : Digits t) (hzero : st.haveZero = false)
    (hprohib : st.zeroProhib = false) :
    feed st t = some { st with
      ret := st.ret ++ t, loc := st.loc + t.length, lastNotDigit := st.lastNotDigit && t.isEmpty } := by
  induction t generalizing st with
  | nil => simp [feed]
  | cons c t ih =>
      have hc := ht c List.mem_cons_self
      rw [feed, next_digit hc (by simp [hzero]) hprohib, Option.bind_some,
        ih (fun d hd => ht d (List.mem_cons_of_mem _ hd))]
      · simp only [List.append_assoc, List.singleton_append, List.length_cons, List.isEmpty_cons,
          Bool.and_false, Bool.false_and, hprohib]
        congr 2
        omega
      · exact hzero
      · rfl

/-- The scanner after the digits before the dot. -/
structure AfterInt (t : Text) (c : UInt8) (rest : Text) (st₀ st : NumState) : Prop where
  text : t = c :: rest
  start : charToken c = .num
  first : ∀ r, NumState.first c (rest ++ r) = some (st₀, rest ++ r)
  feed : Json.feed st₀ rest = some st
  chars : NumChars rest
  ret : st.ret = t
  loc : st.loc = t.length
  dotLoc : st.dotLoc = 0
  eLoc : st.eLoc = 0
  lastNotDigit : st.lastNotDigit = false

theorem afterInt_decimal (n : Nat) : ∃ c rest st₀ st, AfterInt (decimal n) c rest st₀ st := by
  rcases decimal_cases n with ⟨-, h⟩ | ⟨-, c, t, h, hc, hne, ht⟩
  · rw [h]
    refine ⟨chr '0', [], _, _, rfl, by decide, fun r => by rw [NumState.first, if_pos rfl], rfl, ?_, rfl, rfl,
      rfl, rfl, rfl⟩
    intro c hc
    cases hc
  · rw [h]
    obtain ⟨-, -, hstart, hminus, -⟩ := isDigit_spec hc
    refine ⟨c, t, _, _, rfl, hstart, fun r => by
      rw [NumState.first, if_neg hne, if_neg hminus, if_pos hc], feed_digits ht rfl rfl, ht.numChars, rfl, ?_,
      rfl, rfl, rfl⟩
    exact Nat.add_comm _ _

theorem afterInt_minus (n : Nat) : ∃ c rest st₀ st, AfterInt (chr '-' :: decimal n) c rest st₀ st := by
  have hfirst : ∀ r, NumState.first (chr '-') (decimal n ++ r) =
      some ({ ret := [chr '-'], haveZero := peek (decimal n) = chr '0'
              locZero := if peek (decimal n) = chr '0' then 1 else 0
              lastNotDigit := true, zeroProhib := false }, decimal n ++ r) := by
    intro r
    have hdigits := decimal_digits n
    rcases hdec : decimal n with _ | ⟨d, t⟩
    · exact absurd hdec (decimal_ne_nil n)
    · rw [hdec] at hdigits
      obtain ⟨-, h0, -⟩ := isDigit_spec (hdigits d List.mem_cons_self)
      rw [NumState.first, if_neg (by decide), if_pos rfl, List.cons_append, isEOF_cons h0]
      rfl
  rcases decimal_cases n with ⟨-, h⟩ | ⟨-, c, t, h, hc, hne, ht⟩
  · have hfeed : feed { ret := [chr '-'], haveZero := peek (decimal n) = chr '0'
                        locZero := if peek (decimal n) = chr '0' then 1 else 0
                        lastNotDigit := true, zeroProhib := false } (decimal n) =
        some { ret := [chr '-', chr '0'], haveZero := true, locZero := 1
               lastNotDigit := false, zeroProhib := false, loc := 2 } := by
      rw [h, peek_cons, if_pos rfl, feed, next_digit (by decide) (by decide) rfl]
      rfl
    refine ⟨chr '-', decimal n, _, _, rfl, by decide, hfirst, hfeed, (decimal_digits n).numChars, ?_, ?_, rfl,
      rfl, rfl⟩
    · rw [h]
    · rw [h]
      rfl
  · refine ⟨chr '-', decimal n, _, _, rfl, by decide, hfirst, feed_digits (decimal_digits n) ?_ rfl,
      (decimal_digits n).numChars, rfl, ?_, rfl, rfl, ?_⟩
    · rw [h]
      exact decide_eq_false hne
    · exact Nat.add_comm _ _
    · rw [h]
      rfl

theorem afterInt (neg : Bool) (n : Nat) : ∃ c rest st₀ st, AfterInt (sign neg ++ decimal n) c rest st₀ st := by
  cases neg with
  | false => exact afterInt_decimal n
  | true => exact afterInt_minus n

/-- **An integer is read as it is printed.** -/
theorem numText_int (neg : Bool) (n : Nat) :
    NumText (sign neg ++ decimal n) (sign neg ++ decimal n) 0 0 := by
  obtain ⟨c, rest, st₀, st, h⟩ := afterInt neg n
  have htext := numText_of_feed h.start (fun r _ => h.first r) h.feed h.lastNotDigit h.chars
    (h.ret.trans h.text)
  rw [h.ret, h.dotLoc, h.eLoc] at htext
  exact htext

/-- **A number with a dot is read as it is printed.** -/
theorem numText_frac (neg : Bool) (n : Nat) {f : Text} (hf : Digits f) (hne : f ≠ []) :
    NumText (sign neg ++ decimal n ++ chr '.' :: f) (sign neg ++ decimal n ++ chr '.' :: f)
      (sign neg ++ decimal n).length 0 := by
  obtain ⟨c, rest, st₀, st, h⟩ := afterInt neg n
  have hdot : st.next (chr '.') = some { st with
      dotLoc := st.loc, haveZero := false, zeroProhib := false, lastNotDigit := true
      ret := st.ret ++ [chr '.'], loc := st.loc + 1 } := by
    unfold NumState.next
    rw [if_neg (by decide), if_pos rfl, if_neg (by simp [h.eLoc, h.dotLoc, h.lastNotDigit])]
  have hfeed : feed st₀ (rest ++ chr '.' :: f) = some { st with
      dotLoc := st.loc, haveZero := false, zeroProhib := false, lastNotDigit := false
      ret := st.ret ++ [chr '.'] ++ f, loc := st.loc + 1 + f.length } := by
    rw [feed_append, h.feed, Option.bind_some, feed, hdot, Option.bind_some, feed_digits hf rfl rfl]
    have hempty : f.isEmpty = false := by simpa using hne
    simp only [hempty, Bool.and_false]
  have hchars : NumChars (rest ++ chr '.' :: f) := by
    intro d hd
    rcases List.mem_append.1 hd with hd | hd
    · exact h.chars d hd
    · rcases List.mem_cons.1 hd with rfl | hd
      · decide
      · exact hf.numChars d hd
  have htext := numText_of_feed h.start (fun r _ => by
    rw [List.append_assoc]
    exact h.first _) hfeed rfl hchars (by simp [h.ret, h.text])
  simpa [h.ret, h.loc, h.eLoc] using htext

end PtpMgmt.Json
