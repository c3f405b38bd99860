import PtpMgmt.Json.FromJson
import PtpMgmt.Json.Integers

set_option autoImplicit false

/-! # Timestamps in JSON

A timestamp is printed as a number, with nine digits behind the dot, and is read from a number with up to
nine of them. -/

namespace PtpMgmt.Json

open JsonProcFrom

/-! ## Fractions -/

/-- A number without a sign and without an exponent. -/
def decimalLiteral (i f : Text) : Text := i ++ if f = [] then [] else chr '.' :: f

/-- Where the dot of such a number stands. -/
def literalDot (i f : Text) : Nat := if f = [] then 0 else i.length

theorem numText_literal {i f : Text} (hi : IntPart i) (hf : Digits f) :
    NumText (decimalLiteral i f) (decimalLiteral i f) (literalDot i f) 0 := by
  rw [hi.eq_decimal, decimalLiteral, literalDot]
  by_cases hne : f = []
  · rw [if_pos hne, if_pos hne, List.append_nil]
    exact numText_int false _
  · rw [if_neg hne, if_neg hne]
    exact numText_frac false _ hf hne

theorem magnitude_lt {f : Text} (hf : Digits f) : magnitude 10 f < 10 ^ f.length := by
  induction f using List.reverseRecOn with
  | nil => decide
  | append_singleton f c ih =>
      have hc := (digit_val (hf c (by simp))).1
      have hlt := ih fun d hd => hf d (by simp [hd])
      rw [magnitude_append, List.length_append, List.length_singleton, Nat.pow_succ]
      omega

/-- The fraction is filled up to nine digits. -/
theorem fraction_lt {f : Text} (hf : Digits f) (hlen : f.length ≤ 9) :
    magnitude 10 f * 10 ^ (9 - f.length) < 10 ^ 9 := by
  calc magnitude 10 f * 10 ^ (9 - f.length)
      < 10 ^ f.length * 10 ^ (9 - f.length) := Nat.mul_lt_mul_of_pos_right (magnitude_lt hf) (by positivity)
    _ = 10 ^ 9 := by rw [← Nat.pow_add, Nat.add_sub_cancel' hlen]

theorem clampInt_nat {n : Nat} (hn : n < 2 ^ 63) : clampInt n = n := by
  unfold clampInt
  omega

theorem getFrac_literal {i f : Text} (hi : IntPart i) (hf : Digits f) (hlen : f.length ≤ 9)
    (hlt : magnitude 10 i < 2 ^ 63) :
    (Value.num (decimalLiteral i f) (literalDot i f) 0).getFrac 9 =
      some (Int64.ofNat (magnitude 10 i), UInt64.ofNat (magnitude 10 f * 10 ^ (9 - f.length))) := by
  obtain ⟨hdigits, hne⟩ := hi.digits'
  have hint : Int64.ofInt (clampInt (signed false (magnitude 10 i))) = Int64.ofNat (magnitude 10 i) := by
    rw [signed, if_neg Bool.false_ne_true, clampInt_nat hlt, Int64.ofInt_eq_ofNat]
  by_cases hfne : f = []
  · subst hfne
    have hread := getInt64_int hi false false
    rw [sign, if_neg Bool.false_ne_true, List.nil_append] at hread
    rw [decimalLiteral, literalDot, if_pos rfl, if_pos rfl, List.append_nil, Value.getFrac,
      if_neg (by simp), if_pos rfl, hread, Option.map_some, hint]
    simp [magnitude]
  · have hdot : i.length ≠ 0 := by simpa using hne
    have hbefore := strtoimax_sign hdigits hne false
    rw [sign, if_neg Bool.false_ne_true, List.nil_append] at hbefore
    have hafter := strtoumax_digits hf hfne
    have hsmall : magnitude 10 f < 2 ^ 64 - 1 := by
      have hlt' := magnitude_lt hf
      have hpow : 10 ^ f.length ≤ 10 ^ 9 := Nat.pow_le_pow_right (by decide) hlen
      omega
    rw [Nat.min_eq_right (by omega)] at hafter
    have haDot : (i ++ chr '.' :: f).length - i.length - 1 = f.length := by
      rw [List.length_append, List.length_cons]
      omega
    have htake : (i ++ chr '.' :: f).take i.length = i := List.take_left
    have hdrop : (i ++ chr '.' :: f).drop (i.length + 1) = f := by
      rw [List.drop_append, List.drop_of_length_le (by omega)]
      simp
    rw [decimalLiteral, literalDot, if_neg hfne, if_neg hfne, Value.getFrac, if_neg (by decide), if_neg hdot]
    simp only [haDot, htake, hdrop, hbefore, hafter, hint]
    rw [if_pos ⟨hlen, trivial, trivial⟩, UInt64.ofNat_mul]

/-! ## The codec -/

/-- A text that the parser takes for a number which, as a member of any object, is read as a timestamp. -/
def ReadsAs (floatTime : Text → Option Timestamp) (text : Text) (d : Timestamp) : Prop :=
  ∃ jval, parseBuffer false text = some (some jval) ∧
    ∀ (obj : Members) (key : String), getVal obj (txt key) = some jval →
      procTimestamp floatTime obj key = some d

theorem numText_parseBuffer {t : Text} {dotLoc eLoc : Nat} (h : NumText t t dotLoc eLoc) :
    parseBuffer false t = some (some (.num t dotLoc eLoc)) := by
  have hparse := (Denotes.num h).parseBuffer spaces_nil spaces_nil false
  rwa [List.nil_append, List.append_nil] at hparse

theorem procTimestamp_frac {floatTime : Text → Option Timestamp} {obj : Members} {key : String}
    {jval : Value} {integer : Int64} {fraction : UInt64} (hval : getVal obj (txt key) = some jval)
    (hfrac : jval.getFrac 9 = some (integer, fraction)) :
    procTimestamp floatTime obj key =
      if integer > 0 then some ⟨integer.toUInt64, fraction.toUInt32⟩ else none := by
  rw [procTimestamp, hval]
  simp only [hfrac]

theorem ofNat_pos_iff {n : Nat} (hn : n < 2 ^ 63) : Int64.ofNat n > 0 ↔ n ≠ 0 := by
  have hval : (Int64.ofNat n).toInt = n := Int64.toInt_ofNat_of_lt hn
  have hzero : (0 : Int64).toInt = 0 := by decide
  rw [gt_iff_lt, Int64.lt_iff_toInt_lt, hval, hzero]
  omega

/-- **A number is read as the timestamp it stands for, unless its integer part is zero.** -/
theorem readsAs_literal_iff (floatTime : Text → Option Timestamp) {i f : Text} (hi : IntPart i)
    (hf : Digits f) (hlen : f.length ≤ 9) (hlt : magnitude 10 i < 2 ^ 63) :
    ReadsAs floatTime (decimalLiteral i f) ⟨UInt64.ofNat (magnitude 10 i),
        UInt32.ofNat (magnitude 10 f * 10 ^ (9 - f.length))⟩ ↔ magnitude 10 i ≠ 0 := by
  have hparse := numText_parseBuffer (numText_literal hi hf)
  have hread := fun (obj : Members) (key : String) (hval : getVal obj (txt key) = _) =>
    @procTimestamp_frac floatTime obj key _ _ _ hval (getFrac_literal hi hf hlen hlt)
  have hsmall := fraction_lt hf hlen
  have hnano : (UInt64.ofNat (magnitude 10 f * 10 ^ (9 - f.length))).toUInt32 =
      UInt32.ofNat (magnitude 10 f * 10 ^ (9 - f.length)) := by
    apply UInt32.toNat.inj
    simp
  constructor
  · rintro ⟨jval, hjval, hall⟩ hzero
    rw [hparse] at hjval
    cases hjval
    -- an object with this number as its one member
    have hval : getVal [(txt "t", .num (decimalLiteral i f) (literalDot i f) 0)] (txt "t") =
        some (.num (decimalLiteral i f) (literalDot i f) 0) := by
      simp [getVal, findMember, count, Value.getVal]
    have hsome := hall _ _ hval
    rw [hread _ _ hval, if_neg (by rw [ofNat_pos_iff hlt]; exact not_not.2 hzero)] at hsome
    cases hsome
  · intro hne
    refine ⟨_, hparse, fun obj key hval => ?_⟩
    rw [hread obj key hval, if_pos ((ofNat_pos_iff hlt).2 hne), Int64.toUInt64_ofNat', hnano]

/-! ## What is printed -/

theorem decimal_length_le {n k : Nat} (hk : 0 < k) (hn : n < 10 ^ k) : (decimal n).length ≤ k := by
  induction k generalizing n with
  | zero => omega
  | succ k ih =>
      rw [decimal_eq]
      split
      · exact hk
      · next hge =>
          have hdiv : n / 10 < 10 ^ k := by
            rw [Nat.pow_succ] at hn
            omega
          rcases Nat.eq_zero_or_pos k with rfl | hpos
          · omega
          · have hlen := ih hpos hdiv
            rw [List.length_append, List.length_singleton]
            omega

theorem magnitude_zeros (k : Nat) (t : Text) :
    magnitude 10 (List.replicate k (chr '0') ++ t) = magnitude 10 t := by
  induction k with
  | zero => rfl
  | succ k ih => exact ih

theorem decimalPad_nine {n : Nat} (hn : n < 10 ^ 9) :
    (decimalPad 9 n).length = 9 ∧ magnitude 10 (decimalPad 9 n) = n := by
  have hlen := decimal_length_le (by decide) hn
  refine ⟨?_, ?_⟩
  · rw [decimalPad, List.length_append, List.length_replicate]
    omega
  · rw [decimalPad, magnitude_zeros, magnitude_decimal]

theorem str_eq_literal (d : Timestamp) :
    d.str = decimalLiteral (decimal d.secondsField.toNat) (decimalPad 9 d.nanosecondsField.toNat) := by
  have hne : decimalPad 9 d.nanosecondsField.toNat ≠ [] := by
    rw [decimalPad]
    simp [decimal_ne_nil]
  rw [decimalLiteral, if_neg hne]
  rfl

/-- **A timestamp is read as it is printed, unless its seconds are zero.** -/
theorem readsAs_str_iff (floatTime : Text → Option Timestamp) {d : Timestamp}
    (hsec : d.secondsField.toNat < 2 ^ 63) (hnano : d.nanosecondsField.toNat < 10 ^ 9) :
    ReadsAs floatTime d.str d ↔ d.secondsField.toNat ≠ 0 := by
  obtain ⟨hlen, hmag⟩ := decimalPad_nine hnano
  have hiff := readsAs_literal_iff floatTime (intPart_decimal d.secondsField.toNat)
    (decimalPad_digits 9 d.nanosecondsField.toNat) (Nat.le_of_eq hlen) (by rwa [magnitude_decimal])
  rw [magnitude_decimal, hmag, hlen, Nat.sub_self, Nat.pow_zero, Nat.mul_one, UInt64.ofNat_toNat,
    UInt32.ofNat_toNat, ← str_eq_literal] at hiff
  exact hiff

/-- **The codec of timestamps fails for the integer part zero alone**: both ways, what is printed and any
    number of up to nine digits behind the dot. -/
theorem timestamp_codec_iff (floatTime : Text → Option Timestamp) :
    (∀ d : Timestamp, d.secondsField.toNat < 2 ^ 48 → d.nanosecondsField.toNat < 10 ^ 9 →
      (ReadsAs floatTime d.str d ↔ d.secondsField.toNat ≠ 0)) ∧
    ∀ i f : Text, IntPart i → Digits f → f.length ≤ 9 → magnitude 10 i < 2 ^ 48 →
      (ReadsAs floatTime (decimalLiteral i f) ⟨UInt64.ofNat (magnitude 10 i),
          UInt32.ofNat (magnitude 10 f * 10 ^ (9 - f.length))⟩ ↔ magnitude 10 i ≠ 0) := by
  constructor
  · intro d hsec hnano
    exact readsAs_str_iff floatTime (by omega) hnano
  · intro i f hi hf hlen hlt
    exact readsAs_literal_iff floatTime hi hf hlen (by omega)

theorem timestamp_codec_iff_one :
    (ReadsAs (fun _ => none) (Timestamp.str ⟨1, 5⟩) ⟨1, 5⟩ ↔ (1 : UInt64).toNat ≠ 0) ∧
      (ReadsAs (fun _ => none) (decimalLiteral [chr '1'] [chr '2']) ⟨1, 200000000⟩ ↔
        magnitude 10 [chr '1'] ≠ 0) :=
  ⟨(timestamp_codec_iff _).1 ⟨1, 5⟩ (by decide) (by decide),
    (timestamp_codec_iff _).2 [chr '1'] [chr '2'] (.digits (by decide) digits_nil)
      (digits_nil.cons (by decide)) (by decide) (by decide)⟩

/-- The first five nanoseconds are printed, and refused. -/
theorem timestamp_codec_zero :
    ¬ ∀ floatTime : Text → Option Timestamp,
      (∀ d : Timestamp, d.secondsField.toNat < 2 ^ 48 → d.nanosecondsField.toNat < 10 ^ 9 →
        ReadsAs floatTime d.str d) ∧
      ∀ i f : Text, IntPart i → Digits f → f.length ≤ 9 → magnitude 10 i < 2 ^ 48 →
        ReadsAs floatTime (decimalLiteral i f)
          ⟨UInt64.ofNat (magnitude 10 i), UInt32.ofNat (magnitude 10 f * 10 ^ (9 - f.length))⟩ := by
  intro h
  have hread := (h fun _ => none).1 ⟨0, 5⟩ (by decide) (by decide)
  exact absurd rfl ((readsAs_str_iff _ (by decide) (by decide)).1 hread)

end PtpMgmt.Json
