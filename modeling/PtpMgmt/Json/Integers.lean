import Mathlib.Algebra.Order.Ring.Int
import Mathlib.Data.List.Induction
import PtpMgmt.Json.Access
import PtpMgmt.Json.NumScan

set_option autoImplicit false

/-! # Integers that are read

What `strtoimax`, `strtoumax` and the accessors of a value make of the text of an integer: its value, as long
as that is in the range of 64 bits, and the end of the range else. -/

namespace PtpMgmt.Json

/-! ## Digits -/

theorem digit_val {c : UInt8} (h : isDigit c = true) :
    digitVal c < 10 ∧ isCSpace c = false ∧ c ≠ 0 ∧ c ≠ chr '-' ∧ c ≠ chr '+' := by
  obtain ⟨d, rfl⟩ := exists_digit h
  clear h
  revert d
  decide

theorem digitChar_val : ∀ d : Fin 10, digitVal (chr d.val.digitChar) = d.val := by
  decide

theorem digit_eq {c : UInt8} (h : isDigit c = true) : chr (digitVal c).digitChar = c := by
  obtain ⟨d, rfl⟩ := exists_digit h
  clear h
  revert d
  decide

theorem IntPart.digits' {t : Text} (h : IntPart t) : Digits t ∧ t ≠ [] := by
  cases h with
  | zero =>
      refine ⟨?_, by simp⟩
      intro c hc
      rw [List.mem_singleton.1 hc]
      decide
  | digits hd hds => exact ⟨hds.cons (isDigit_of_isDigit19 hd), by simp⟩

theorem magnitude_append (base : Nat) (t : Text) (c : UInt8) :
    magnitude base (t ++ [c]) = magnitude base t * base + digitVal c := by
  rw [magnitude, List.foldl_append]
  rfl

/-- Digits denote the number that is printed as these digits. -/
theorem magnitude_decimal (n : Nat) : magnitude 10 (decimal n) = n := by
  induction n using Nat.strong_induction_on with
  | _ n ih =>
      rw [decimal_eq]
      split
      · next hn =>
          have hval := digitChar_val ⟨n, hn⟩
          simpa [magnitude] using hval
      · next hn =>
          have hval : digitVal (chr (n % 10).digitChar) = n % 10 :=
            digitChar_val ⟨n % 10, Nat.mod_lt _ (by decide)⟩
          rw [magnitude_append, ih (n / 10) (by omega), hval]
          omega

theorem intPart_decimal (n : Nat) : IntPart (decimal n) := by
  rcases decimal_cases n with ⟨-, h⟩ | ⟨-, c, t, h, hc, hne, ht⟩
  · rw [h]
    exact .zero
  · rw [h]
    exact .digits (isDigit19_iff.2 ⟨hc, hne⟩) ht

theorem digit19_pos {c : UInt8} (h : isDigit19 c = true) : 0 < digitVal c := by
  obtain ⟨hc, hne⟩ := isDigit19_iff.1 h
  rcases Nat.eq_zero_or_pos (digitVal c) with hzero | hpos
  · have heq := digit_eq hc
    rw [hzero] at heq
    exact absurd heq.symm hne
  · exact hpos

/-- **The integer part of a number is what is printed for its value.** -/
theorem IntPart.eq_decimal {t : Text} (h : IntPart t) : t = decimal (magnitude 10 t) := by
  cases h with
  | zero => decide
  | @digits d ds hd hds =>
      have hpos : ∀ ds : Text, 0 < magnitude 10 (d :: ds) := by
        intro ds
        induction ds using List.reverseRecOn with
        | nil => simpa [magnitude] using digit19_pos hd
        | append_singleton ds c ih =>
            rw [← List.cons_append, magnitude_append]
            omega
      -- a digit more is one digit more behind those that are printed so far
      induction ds using List.reverseRecOn with
      | nil =>
          have hlt := (digit_val (isDigit_of_isDigit19 hd)).1
          have hone : magnitude 10 [d] = digitVal d := by simp [magnitude]
          rw [hone, decimal_eq, if_pos hlt, digit_eq (isDigit_of_isDigit19 hd)]
      | append_singleton ds c ih =>
          have hc := hds c (by simp)
          have hlt := (digit_val hc).1
          have hds' : Digits ds := fun e he => hds e (by simp [he])
          have hrec := ih hds'
          have hge := hpos ds
          rw [← List.cons_append, magnitude_append, decimal_eq, if_neg (by omega)]
          have hdiv : (magnitude 10 (d :: ds) * 10 + digitVal c) / 10 = magnitude 10 (d :: ds) := by omega
          have hmod : (magnitude 10 (d :: ds) * 10 + digitVal c) % 10 = digitVal c := by omega
          rw [hdiv, hmod, ← hrec, digit_eq hc]

/-! ## `strtoimax` and `strtoumax` -/

/-- A magnitude with its sign. -/
def signed (neg : Bool) (n : Nat) : Int := if neg then -(n : Int) else n

theorem takeWhile_digits {p : UInt8 → Bool} {t : Text} (h : ∀ c ∈ t, p c = true) :
    t.takeWhile p = t ∧ t.dropWhile p = [] := by
  refine ⟨List.takeWhile_eq_self_iff.2 h, List.dropWhile_eq_nil_iff.2 h⟩

theorem Digits.below_ten {t : Text} (h : Digits t) : ∀ c ∈ t, decide (digitVal c < 10) = true :=
  fun c hc => decide_eq_true (digit_val (h c hc)).1

theorem strto_sign {t : Text} (ht : Digits t) (hne : t ≠ []) (neg : Bool) :
    strto 10 (sign neg ++ t) = some (neg, magnitude 10 t, []) := by
  obtain ⟨c, r, rfl⟩ : ∃ c r, t = c :: r := List.exists_cons_of_ne_nil hne
  obtain ⟨-, hspace, -, hminus, hplus⟩ := digit_val ht.head
  obtain ⟨htake, hdrop⟩ := takeWhile_digits ht.below_ten
  have hten : ¬ 10 = 0 := by decide
  cases neg with
  | false =>
      have hstart : (c :: r).dropWhile isCSpace = c :: r := by rw [List.dropWhile_cons, hspace]; rfl
      simp only [strto, sign, Bool.false_eq_true, if_false, List.nil_append, hstart, List.head?_cons,
        Option.some.injEq, hminus, hplus, decide_false, Bool.or_self, hten]
      rw [htake, hdrop, if_neg (by simp)]
  | true =>
      have hstart : (chr '-' :: c :: r).dropWhile isCSpace = chr '-' :: c :: r := rfl
      simp only [strto, sign, if_true, List.cons_append, List.nil_append, hstart, List.head?_cons,
        decide_true, Bool.true_or, List.tail_cons, hten, if_false]
      rw [htake, hdrop, if_neg (by simp)]

theorem takeWhile_sign {t : Text} (ht : Digits t) (neg : Bool) :
    (sign neg ++ t).takeWhile (· ≠ 0) = sign neg ++ t := by
  refine (takeWhile_digits ?_).1
  intro c hc
  rw [decide_eq_true_eq]
  rcases List.mem_append.1 hc with hc | hc
  · cases neg with
    | false => cases hc
    | true =>
        rw [List.mem_singleton.1 hc]
        decide
  · exact (digit_val (ht c hc)).2.2.1

/-- What is left of an integer in 64 bits with a sign. -/
def clampInt (i : Int) : Int := max (-2 ^ 63) (min (2 ^ 63 - 1) i)

theorem strtoimax_sign {t : Text} (ht : Digits t) (hne : t ≠ []) (neg : Bool) :
    strtoimax 10 (sign neg ++ t) = (Int64.ofInt (clampInt (signed neg (magnitude 10 t))), []) := by
  unfold strtoimax
  simp only [takeWhile_sign ht neg, strto_sign ht hne neg]
  rfl

theorem strtoumax_digits {t : Text} (ht : Digits t) (hne : t ≠ []) :
    strtoumax 10 t = (UInt64.ofNat (min (2 ^ 64 - 1) (magnitude 10 t)), []) := by
  have htake := takeWhile_sign ht false
  have hto := strto_sign ht hne false
  rw [sign, if_neg Bool.false_ne_true, List.nil_append] at htake hto
  unfold strtoumax
  simp only [htake, hto]
  split
  · next hge => rw [Nat.min_eq_left (by omega)]
  · next hlt => rw [Nat.min_eq_right (by omega), if_neg Bool.false_ne_true]

/-! ## The accessors -/

theorem peek_sign (neg : Bool) {t : Text} (ht : IntPart t) :
    (peek (sign neg ++ t) = chr '0' ↔ neg = false ∧ t = [chr '0']) ∧
      (peek (sign neg ++ t) = chr '-' ↔ neg = true) := by
  cases neg with
  | true => simp [sign, show chr '-' ≠ chr '0' by decide]
  | false =>
      cases ht with
      | zero => simp [sign, show chr '0' ≠ chr '-' by decide]
      | @digits d ds hd hds =>
          obtain ⟨hdigit, hne⟩ := isDigit19_iff.1 hd
          simp [sign, hne, (digit_val hdigit).2.2.2.1]

theorem getInt64_int {t : Text} (ht : IntPart t) (neg flexible : Bool) :
    (Value.num (sign neg ++ t) 0 0).getInt64 flexible =
      some (Int64.ofInt (clampInt (signed neg (magnitude 10 t)))) := by
  rw [Value.getInt64, if_neg (by simp)]
  split
  · next hzero =>
      obtain ⟨rfl, rfl⟩ := (peek_sign neg ht).1.1 hzero
      decide
  · rw [strtoimax_sign ht.digits'.1 ht.digits'.2, if_pos (by rfl)]

theorem getUint64_int {t : Text} (ht : IntPart t) (neg flexible : Bool) :
    (Value.num (sign neg ++ t) 0 0).getUint64 flexible =
      if neg then none else some (UInt64.ofNat (min (2 ^ 64 - 1) (magnitude 10 t))) := by
  have hminus := (peek_sign neg ht).2
  cases neg with
  | true => rw [Value.getUint64, if_pos (.inr (.inr (hminus.2 rfl)))]; rfl
  | false =>
      rw [Value.getUint64, if_neg (by simp [hminus])]
      split
      · next hzero =>
          obtain ⟨-, rfl⟩ := (peek_sign false ht).1.1 hzero
          decide
      · rw [sign, if_neg Bool.false_ne_true, List.nil_append, strtoumax_digits ht.digits'.1 ht.digits'.2,
          if_pos (by rfl), if_neg Bool.false_ne_true]

/-! ## Numbers without a dot and an exponent -/

/-- A scanner that met neither a dot nor an exponent met digits, and none behind a zero. -/
theorem feed_int {st st' : NumState} {t : Text} {ph : Phase} (h : ph.Is st) (hfeed : feed st t = some st')
    (hdot : st'.dotLoc = 0) (he : st'.eLoc = 0) : (ph = .zero ∧ t = []) ∨ (ph = .int ∧ Digits t) := by
  induction t generalizing st ph with
  | nil =>
      cases hfeed
      cases ph with
      | zero => exact .inl ⟨rfl, rfl⟩
      | int => exact .inr ⟨rfl, digits_nil⟩
      | dot => exact absurd h.2.1 (by omega)
      | frac => exact absurd h.2.1 (by omega)
      | exp => exact absurd h.1 (by omega)
      | expSign => exact absurd h.1 (by omega)
      | expDigits => exact absurd h.1 (by omega)
  | cons c t ih =>
      rw [feed, Option.bind_eq_some_iff] at hfeed
      obtain ⟨st₁, hnext, hfeed⟩ := hfeed
      rcases next_steps h c with ⟨hnone, -⟩ | ⟨st₂, ph₁, hst₂, hph₁, his⟩
      · rw [hnone] at hnext
        cases hnext
      · rw [hst₂] at hnext
        cases hnext
        -- only the digits of an integer lead to an integer, and nothing leads to a zero
        have hint : ph₁ = .int → ph = .int ∧ isDigit c = true := by
          rintro rfl
          rcases Phase.next_eq_some hph₁ with ⟨hc, hto⟩ | ⟨-, hto⟩ | ⟨-, hto⟩ | ⟨-, hto⟩ | ⟨-, hto⟩
          · refine ⟨?_, hc⟩
            cases ph <;> simp_all [Phase.onDigit]
          · cases ph <;> cases hto
          · cases ph <;> cases hto
          · cases ph <;> cases hto
          · cases ph <;> cases hto
        have hzero : ph₁ ≠ .zero := by
          rintro rfl
          rcases Phase.next_eq_some hph₁ with ⟨hc, hto⟩ | ⟨-, hto⟩ | ⟨-, hto⟩ | ⟨-, hto⟩ | ⟨-, hto⟩
          · cases ph <;> simp_all [Phase.onDigit]
          · cases ph <;> cases hto
          · cases ph <;> cases hto
          · cases ph <;> cases hto
          · cases ph <;> cases hto
        rcases ih his hfeed with ⟨hph, -⟩ | ⟨hph, ht⟩
        · exact absurd hph hzero
        · obtain ⟨hph', hc⟩ := hint hph
          exact .inr ⟨hph', ht.cons hc⟩

/-- The same behind a minus sign. -/
theorem feed_minus {c d : UInt8} {ds : Text} {st : NumState}
    (hfeed : feed { ret := [c], haveZero := decide (d = chr '0'), locZero := if d = chr '0' then 1 else 0
                    lastNotDigit := true, zeroProhib := false } (d :: ds) = some st)
    (hdot : st.dotLoc = 0) (he : st.eLoc = 0) : IntPart (d :: ds) := by
  rw [feed, Option.bind_eq_some_iff] at hfeed
  obtain ⟨st₁, hnext, hfeed⟩ := hfeed
  by_cases hdigit : isDigit d = true
  case neg =>
    rw [NumState.next_none hdigit rfl rfl] at hnext
    cases hnext
  rw [NumState.next_digit hdigit] at hnext
  by_cases hd0 : d = chr '0'
  · rw [if_neg (by simp [hd0])] at hnext
    cases hnext
    have his : Phase.zero.Is { ret := [c] ++ [d], haveZero := decide (d = chr '0')
                               locZero := if d = chr '0' then 1 else 0
                               lastNotDigit := false, zeroProhib := false, loc := 1 + 1 } := by
      rw [hd0, if_pos rfl]
      exact ⟨rfl, rfl, rfl, Nat.one_lt_two, rfl⟩
    rcases feed_int his hfeed hdot he with ⟨-, rfl⟩ | ⟨hph, -⟩
    · rw [hd0]
      exact .zero
    · cases hph
  · rw [if_neg (by simp [hd0])] at hnext
    cases hnext
    have his : Phase.int.Is { ret := [c] ++ [d], haveZero := decide (d = chr '0')
                              locZero := if d = chr '0' then 1 else 0
                              lastNotDigit := false, zeroProhib := false, loc := 1 + 1 } :=
      ⟨rfl, rfl, decide_eq_false hd0, rfl, rfl, Nat.zero_lt_two⟩
    rcases feed_int his hfeed hdot he with ⟨hph, -⟩ | ⟨-, hds⟩
    · cases hph
    · exact .digits (isDigit19_iff.2 ⟨hdigit, hd0⟩) hds

/-- **A number that was scanned without a dot and an exponent is an integer.** -/
theorem NumText.int {val : Text} (h : NumText val val 0 0) : ∃ neg t, val = sign neg ++ t ∧ IntPart t := by
  obtain ⟨st, hget, hret, hdot, he⟩ := h.scan [] (.inl rfl)
  rw [List.append_nil] at hget
  cases val with
  | nil => cases hget
  | cons c cur =>
      rw [getNum, isEOF_cons (h.plain c List.mem_cons_self)] at hget
      simp only [peek_cons, List.tail_cons] at hget
      by_cases hzero : c = chr '0'
      · rw [NumState.first, if_pos hzero] at hget
        obtain ⟨t, hret', hfeed, -⟩ := getNumLoop_feed sane_first hget
        have his : Phase.zero.Is { ret := [c], haveZero := true, lastNotDigit := false, zeroProhib := true } :=
          ⟨rfl, rfl, rfl, Nat.one_pos, rfl⟩
        rcases feed_int his hfeed hdot he with ⟨-, rfl⟩ | ⟨hph, -⟩
        · refine ⟨false, [chr '0'], ?_, .zero⟩
          rw [← hret, hret', hzero]
          rfl
        · cases hph
      by_cases hminus : c = chr '-'
      · have hplain : Plain cur := fun d hd => h.plain d (List.mem_cons_of_mem _ hd)
        have hne : cur ≠ [] := by
          rintro rfl
          rw [NumState.first, if_neg hzero, if_pos hminus] at hget
          cases hget
        have hrest := isEOF_of_plain hne hplain
        rw [NumState.first, if_neg hzero, if_pos hminus, hrest] at hget
        obtain ⟨t, hret', hfeed, hlast, -, hpeek⟩ := getNumLoop_feed sane_first hget
        have ht : t ≠ [] := by
          rintro rfl
          cases hfeed
          cases hlast
        obtain ⟨cur₁, heof, hsame⟩ := hpeek rfl ht
        rw [hrest] at heof
        cases heof
        obtain ⟨d, ds, rfl⟩ := List.exists_cons_of_ne_nil ht
        rw [peek_cons] at hsame
        refine ⟨true, d :: ds, by rw [← hret, hret', hminus]; rfl, ?_⟩
        rw [hsame] at hfeed
        exact feed_minus hfeed hdot he
      by_cases hdigit : isDigit c = true
      · rw [NumState.first, if_neg hzero, if_neg hminus, if_pos hdigit] at hget
        obtain ⟨t, hret', hfeed, -⟩ := getNumLoop_feed sane_first hget
        have his : Phase.int.Is { ret := [c], haveZero := false, lastNotDigit := false, zeroProhib := false } :=
          ⟨rfl, rfl, rfl, rfl, rfl, Nat.one_pos⟩
        rcases feed_int his hfeed hdot he with ⟨hph, -⟩ | ⟨-, ht⟩
        · cases hph
        · refine ⟨false, c :: t, ?_, .digits (isDigit19_iff.2 ⟨hdigit, hzero⟩) ht⟩
          rw [← hret, hret']
          rfl
      · rw [NumState.first_none hdigit hminus] at hget
        cases hget

end PtpMgmt.Json
