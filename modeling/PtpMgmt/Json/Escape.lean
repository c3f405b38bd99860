import PtpMgmt.Json.Print

set_option autoImplicit false

/-! # Strings that are printed are read again

The printer takes the octets of a character back to its code point and prints this as an escape; the parser
makes the same octets of it. -/

namespace PtpMgmt.Json

/-- Well-formed UTF-8: the octets of some characters. -/
def Utf8 (str : Text) : Prop := ∃ cs : List Char, str = cs.flatMap String.utf8EncodeChar

/-! ## Escapes -/

theorem hexDigit_spec : ∀ d : Fin 16,
    isXDigit (hexDigit d.val) = true ∧ hexVal (hexDigit d.val) = d.val ∧ hexDigit d.val ≠ 0 := by
  decide

theorem uToVal_jUtf16 {val : Nat} (hval : val < 0x10000) (r : Text) :
    uToVal ((jUtf16 val ++ r).drop 2) = some (val, r) := by
  have hdigit : ∀ n : Nat, isXDigit (hexDigit (n % 16)) = true ∧ hexVal (hexDigit (n % 16)) = n % 16 := by
    intro n
    have := hexDigit_spec ⟨n % 16, Nat.mod_lt _ (by decide)⟩
    exact ⟨this.1, this.2.1⟩
  simp only [jUtf16, List.cons_append, List.nil_append, List.drop_succ_cons, List.drop_zero, uToVal,
    (hdigit _).1, (hdigit _).2, Bool.and_self, if_true, Option.some.injEq, Prod.mk.injEq, and_true]
  omega

theorem jUtf16_plain (val : Nat) : Plain (jUtf16 val) := by
  have hdigit : ∀ n : Nat, hexDigit (n % 16) ≠ 0 :=
    fun n => (hexDigit_spec ⟨n % 16, Nat.mod_lt _ (by decide)⟩).2.2
  intro c hc
  simp only [jUtf16, List.mem_cons, List.not_mem_nil, or_false] at hc
  rcases hc with rfl | rfl | rfl | rfl | rfl | rfl
  · decide
  · decide
  all_goals exact hdigit _

/-- The parser at an escape. -/
theorem getStrLoop_jUtf16 {val : Nat} {w1 w1' : Option Nat} {octets r : Text} (ret : Text)
    (hproc : uProc w1 ((jUtf16 val ++ r).drop 2) = some (octets, w1', r)) :
    getStrLoop w1 ret (jUtf16 val ++ r) = getStrLoop w1' (ret ++ octets) r :=
  getStrLoop_u (isEOF_cons (by decide) _) rfl (isEOF_cons (by decide) _) rfl hproc

/-- The numbers of the two escapes for a code point above 16 bits. -/
theorem surrogates (val : Nat) (hval : val < 0x100000) :
    ((val >>> 10) &&& 0xbff) ||| 0xd800 = 0xd800 + val / 0x400 ∧
    (val &&& 0xbff) ||| 0xdc00 = 0xdc00 + val % 0x400 := by
  have hlow : ∀ n : Nat, n &&& 0x3ff = n % 0x400 := fun n => Nat.and_two_pow_sub_one_eq_mod n 10
  have hadd : ∀ {a : Nat} (n : Nat), a < 0x400 → a ||| 0x400 * n = 0x400 * n + a := by
    intro a n ha
    rw [Nat.or_comm]
    exact (Nat.two_pow_add_eq_or_of_lt (i := 10) ha n).symm
  refine ⟨?_, ?_⟩
  · have hten : val / 0x400 < 0x400 := by omega
    -- ten bits are all in the mask
    have hmask : val / 0x400 &&& 0xbff = val / 0x400 := by
      calc val / 0x400 &&& 0xbff = (val / 0x400 &&& 0x3ff) &&& 0xbff := by
            rw [hlow, Nat.mod_eq_of_lt hten]
        _ = val / 0x400 &&& 0x3ff := Nat.and_assoc _ _ _
        _ = val / 0x400 := by rw [hlow, Nat.mod_eq_of_lt hten]
    rw [Nat.shiftRight_eq_div_pow]
    show (val / 0x400 &&& 0xbff) ||| 0x400 * 54 = 0x400 * 54 + val / 0x400
    rw [hmask, hadd 54 hten]
  · -- the bit of the mask above the ten is set in the mark of the escape too
    have hmask : (val &&& 0xbff) ||| 0xdc00 = (val &&& 0x3ff) ||| 0xdc00 := by
      have hsame : ∀ i, (val &&& 0xbff ||| 0xdc00).testBit i = (val &&& 0x3ff ||| 0xdc00).testBit i := by
        intro i
        have hbit : (Nat.testBit 0xbff i || Nat.testBit 0xdc00 i) = (Nat.testBit 0x3ff i || Nat.testBit 0xdc00 i) := by
          rw [← Nat.testBit_or, ← Nat.testBit_or]
          rfl
        rw [Nat.testBit_or, Nat.testBit_and, Nat.testBit_or, Nat.testBit_and, Bool.or_and_distrib_right,
          hbit, ← Bool.or_and_distrib_right]
      exact Nat.eq_of_testBit_eq hsame
    rw [hmask, hlow]
    exact hadd 55 (Nat.mod_lt _ (by decide))

/-- A code point that no surrogate has. -/
def Scalar (val : Nat) : Prop := val < 0xd800 ∨ 0xe000 ≤ val ∧ val < 0x110000

theorem getStrLoop_codeEscape {val : Nat} (hval : Scalar val) (ret r : Text) :
    getStrLoop none ret (codeEscape val ++ r) = getStrLoop none (ret ++ codeOctets val) r := by
  unfold codeEscape
  unfold Scalar at hval
  split
  · next hsmall =>
      refine getStrLoop_jUtf16 ret ?_
      rw [uProc, uToVal_jUtf16 (by omega)]
      simp only
      rw [if_pos (by omega)]
  · next hbig =>
      obtain ⟨hfirst, hsecond⟩ := surrogates (val - 0x10000) (by omega)
      have hcode : (val - 0x10000) / 0x400 * 0x400 + (0xdc00 + (val - 0x10000) % 0x400 - 0xdc00) + 0x10000
          = val := by omega
      -- the first escape is kept, and the second one completes the pair
      have hkeep : uProc none ((jUtf16 (0xd800 + (val - 0x10000) / 0x400) ++
            (jUtf16 (0xdc00 + (val - 0x10000) % 0x400) ++ r)).drop 2)
          = some ([], some ((val - 0x10000) / 0x400), jUtf16 (0xdc00 + (val - 0x10000) % 0x400) ++ r) := by
        rw [uProc, uToVal_jUtf16 (by omega)]
        simp only
        rw [if_neg (by omega), if_pos (by omega)]
        simp
      have hpair : uProc (some ((val - 0x10000) / 0x400))
            ((jUtf16 (0xdc00 + (val - 0x10000) % 0x400) ++ r).drop 2)
          = some (codeOctets val, none, r) := by
        rw [uProc, uToVal_jUtf16 (by omega)]
        simp only
        rw [if_neg (by omega), hcode]
      simp only [hfirst, hsecond]
      rw [List.append_assoc, getStrLoop_jUtf16 ret hkeep, getStrLoop_jUtf16 _ hpair, List.append_nil]

theorem codeEscape_plain (val : Nat) : Plain (codeEscape val) := by
  intro c hc
  unfold codeEscape at hc
  split at hc
  · exact jUtf16_plain _ c hc
  · rcases List.mem_append.1 hc with hc | hc
    · exact jUtf16_plain _ c hc
    · exact jUtf16_plain _ c hc

/-! ## Characters -/

/-- What is printed for some octets, and read as these octets again. -/
structure CharPiece (octets piece : Text) : Prop where
  print : ∀ r, strLoop (octets ++ r) = (strLoop r).map (piece ++ ·)
  scan : ∀ ret r, getStrLoop none ret (piece ++ r) = getStrLoop none (ret ++ octets) r
  plain : Plain piece

theorem unescape_escapeChar {v e : UInt8} (h : escapeChar v = some e) :
    unescape e = some v ∧ e ≠ chr 'u' ∧ e ≠ 0 := by
  unfold escapeChar at h
  split_ifs at h with hself hb hf hn hr ht
  · cases h
    rcases hself with rfl | rfl | rfl
    · decide
    · decide
    · decide
  all_goals
    cases h
    subst v
    decide

/-- A character with an escape of its own. -/
theorem charPiece_escape {v e : UInt8} (h : escapeChar v = some e) : CharPiece [v] [chr '\\', e] := by
  obtain ⟨hun, hu, h0⟩ := unescape_escapeChar h
  refine ⟨fun r => ?_, fun ret r => ?_, fun c hc => ?_⟩
  · rw [List.singleton_append, strLoop, h]
  · exact getStrLoop_escape (isEOF_cons (by decide) _) rfl (isEOF_cons h0 r) rfl hu hun
  · simp only [List.mem_cons, List.not_mem_nil, or_false] at hc
    rcases hc with rfl | rfl
    · decide
    · exact h0

/-- A character that stands for itself. -/
theorem charPiece_self {v : UInt8} (h : escapeChar v = none) (hprint : 0x20 ≤ v ∧ v < 0x7f) :
    CharPiece [v] [v] := by
  have h0 : v ≠ 0 := by
    rintro rfl
    exact absurd hprint (by decide)
  have hq : v ≠ chr '"' := by
    rintro rfl
    exact absurd h (by decide)
  have hb : v ≠ chr '\\' := by
    rintro rfl
    exact absurd h (by decide)
  obtain ⟨hcont, hcount⟩ := ascii_alone (UInt8.lt_trans hprint.2 (by decide))
  refine ⟨fun r => ?_, fun ret r => ?_, fun c hc => ?_⟩
  · rw [List.singleton_append, strLoop, h]
    simp only [if_pos hprint]
  · refine getStrLoop_octets (isEOF_cons h0 r) rfl hq hb ?_
    simp [checkUTF8, hcont, hcount]
  · rw [List.mem_singleton] at hc
    rwa [hc]

/-- A control character. -/
theorem charPiece_control {v : UInt8} (h : escapeChar v = none) (hprint : ¬ (0x20 ≤ v ∧ v < 0x7f))
    (hle : v ≤ 0x7f) : CharPiece [v] (codeEscape v.toNat) := by
  have hnat : v.toNat ≤ 127 := UInt8.le_iff_toNat_le.1 hle
  refine ⟨fun r => ?_, fun ret r => ?_, codeEscape_plain _⟩
  · rw [List.singleton_append, strLoop, h]
    simp only [if_neg hprint, if_pos hle]
  · rw [getStrLoop_codeEscape (.inl (by omega)), codeOctets, if_pos (by omega), UInt8.ofNat_toNat]

/-- An octet that follows the first one, with its six bits. -/
def contOctet (k : Nat) : UInt8 := UInt8.ofNat (0x80 + k % 0x40)

theorem contOctet_spec (k : Nat) :
    (contOctet k &&& 0xc0 == 0x80) = true ∧ (contOctet k &&& 0x3f).toNat = k % 0x40 := by
  have hall : ∀ k : Fin 64, (UInt8.ofNat (0x80 + k.val) &&& 0xc0 == 0x80) = true ∧
      (UInt8.ofNat (0x80 + k.val) &&& 0x3f).toNat = k.val := by
    decide
  exact hall ⟨k % 0x40, Nat.mod_lt _ (by decide)⟩

/-- The first octets of sequences. -/
def Leads (v : UInt8) (b k : Nat) : Prop := leadOctet v = some (b, k) ∧ ¬ v ≤ 0x7f ∧ escapeChar v = none

theorem leads_one : ∀ k : Fin 32, Leads (UInt8.ofNat (0xc0 + k.val)) 1 k.val := by
  unfold Leads
  decide

theorem leads_two : ∀ k : Fin 16, Leads (UInt8.ofNat (0xe0 + k.val)) 2 k.val := by
  unfold Leads
  decide

theorem leads_three : ∀ k : Fin 8, Leads (UInt8.ofNat (0xf0 + k.val)) 3 k.val := by
  unfold Leads
  decide

theorem strLoop_sequence {v : UInt8} {k : Nat} {ks : List Nat} (h : Leads v ks.length k) (r : Text) :
    strLoop (v :: (ks.map contOctet ++ r)) =
      (strLoop r).map (codeEscape (codePoint k (ks.map contOctet)) ++ ·) := by
  obtain ⟨hlead, hbig, hescape⟩ := h
  have hprint : ¬ (0x20 ≤ v ∧ v < 0x7f) := by
    rintro ⟨-, hlt⟩
    exact hbig (UInt8.le_of_lt hlt)
  have htake : (ks.map contOctet ++ r).take ks.length = ks.map contOctet := by simp
  have hdrop : (ks.map contOctet ++ r).drop ks.length = r := by simp
  have hlen : ¬ (ks.map contOctet ++ r).length < ks.length := by simp
  have hall : ((ks.map contOctet).all fun o => o &&& 0xc0 == 0x80) = true := by
    rw [List.all_eq_true]
    intro o ho
    obtain ⟨k, -, rfl⟩ := List.mem_map.1 ho
    exact (contOctet_spec k).1
  rw [strLoop, hescape]
  simp only [if_neg hprint, if_neg hbig, hlead, htake, hdrop, hall, hlen, Bool.not_true,
    Bool.false_eq_true, or_self, if_false]

theorem utf8EncodeChar_eq (c : Char) : String.utf8EncodeChar c = codeOctets c.val.toNat := by
  unfold String.utf8EncodeChar codeOctets
  generalize c.val.toNat = val
  by_cases h1 : val ≤ 0x7f
  · simp only [if_pos h1, if_pos (show val < 0x80 by omega)]
  · simp only [if_neg h1, if_neg (show ¬ val < 0x80 by omega)]
    by_cases h2 : val ≤ 0x7ff
    · have hmod : val / 64 % 0x20 = val / 0x40 := Nat.mod_eq_of_lt (by omega)
      simp only [if_pos h2, if_pos (show val < 0x800 by omega), hmod, Nat.add_comm]
    · simp only [if_neg h2, if_neg (show ¬ val < 0x800 by omega)]
      by_cases h3 : val ≤ 0xffff
      · have hmod : val / 4096 % 0x10 = val / 0x1000 := Nat.mod_eq_of_lt (by omega)
        simp only [if_pos h3, if_pos (show val < 0x10000 by omega), hmod, Nat.add_comm]
      · simp only [if_neg h3, if_neg (show ¬ val < 0x10000 by omega), Nat.add_comm]

theorem scalar_char (c : Char) : Scalar c.val.toNat := by
  have hvalid := c.valid
  unfold Scalar
  unfold UInt32.isValidChar Nat.isValidChar at hvalid
  omega

/-- A character of more than one octet. -/
theorem charPiece_sequence {val : Nat} {v : UInt8} (k : Nat) (ks : List Nat) (hval : Scalar val)
    (hlead : Leads v ks.length k) (hoctets : codeOctets val = v :: ks.map contOctet)
    (hcode : ks.foldl (fun x k => x * 64 + k % 0x40) k = val) :
    CharPiece (codeOctets val) (codeEscape val) := by
  have hpoint : codePoint k (ks.map contOctet) = val := by
    rw [codePoint, List.foldl_map]
    simpa only [(contOctet_spec _).2] using hcode
  refine ⟨fun r => ?_, getStrLoop_codeEscape hval, codeEscape_plain val⟩
  rw [hoctets, List.cons_append, strLoop_sequence hlead, hpoint]

/-- The octets of a value of more than seven bits: the first one tells how many follow. -/
theorem codeOctets_sequence {val : Nat} (hval : Scalar val) (h1 : ¬ val < 0x80) :
    ∃ (v : UInt8) (k : Nat) (ks : List Nat), Leads v ks.length k ∧ codeOctets val = v :: ks.map contOctet ∧
      ks.foldl (fun x k => x * 64 + k % 0x40) k = val := by
  unfold Scalar at hval
  by_cases h2 : val < 0x800
  · refine ⟨_, val / 0x40, [val], leads_one ⟨val / 0x40, by omega⟩, ?_, ?_⟩
    · simp only [codeOctets, if_neg h1, if_pos h2]
      rfl
    · simp only [List.foldl_cons, List.foldl_nil]
      omega
  · by_cases h3 : val < 0x10000
    · refine ⟨_, val / 0x1000, [val / 0x40, val], leads_two ⟨val / 0x1000, by omega⟩, ?_, ?_⟩
      · simp only [codeOctets, if_neg h1, if_neg h2, if_pos h3]
        rfl
      · simp only [List.foldl_cons, List.foldl_nil]
        omega
    · refine ⟨_, val / 0x40000, [val / 0x1000, val / 0x40, val], leads_three ⟨val / 0x40000, by omega⟩, ?_, ?_⟩
      · simp only [codeOctets, if_neg h1, if_neg h2, if_neg h3,
          Nat.mod_eq_of_lt (show val / 0x40000 < 8 by omega)]
        rfl
      · simp only [List.foldl_cons, List.foldl_nil]
        omega

/-- **A character is read as it was printed.** -/
theorem charPiece (c : Char) : ∃ piece, CharPiece (String.utf8EncodeChar c) piece := by
  rw [utf8EncodeChar_eq]
  have hval := scalar_char c
  generalize c.val.toNat = val at hval ⊢
  by_cases h1 : val < 0x80
  · have hoctets : codeOctets val = [UInt8.ofNat val] := by rw [codeOctets, if_pos h1]
    have hnat : (UInt8.ofNat val).toNat = val := by
      rw [UInt8.toNat_ofNat']
      omega
    rw [hoctets]
    rcases hescape : escapeChar (UInt8.ofNat val) with _ | e
    · by_cases hprint : 0x20 ≤ UInt8.ofNat val ∧ UInt8.ofNat val < 0x7f
      · exact ⟨_, charPiece_self hescape hprint⟩
      · refine ⟨_, charPiece_control hescape hprint ?_⟩
        rw [UInt8.le_iff_toNat_le, hnat]
        exact Nat.le_of_lt_succ h1
    · exact ⟨_, charPiece_escape hescape⟩
  · obtain ⟨v, k, ks, hlead, hoctets, hcode⟩ := codeOctets_sequence hval h1
    exact ⟨codeEscape val, charPiece_sequence k ks hval hlead hoctets hcode⟩

/-! ## Strings -/

theorem strLoop_utf8 (cs : List Char) : ∃ body,
    strLoop (cs.flatMap String.utf8EncodeChar) = some body ∧ Plain body ∧
    ∀ ret r, getStrLoop none ret (body ++ r) = getStrLoop none (ret ++ cs.flatMap String.utf8EncodeChar) r := by
  induction cs with
  | nil => exact ⟨[], by simp [strLoop], by decide, by simp⟩
  | cons c cs ih =>
      obtain ⟨piece, hpiece⟩ := charPiece c
      obtain ⟨body, hbody, hplain, hscan⟩ := ih
      refine ⟨piece ++ body, ?_, ?_, ?_⟩
      · rw [List.flatMap_cons, hpiece.print, hbody]
        rfl
      · intro d hd
        rcases List.mem_append.1 hd with hd | hd
        · exact hpiece.plain d hd
        · exact hplain d hd
      · intro ret r
        rw [List.append_assoc, hpiece.scan, hscan, List.flatMap_cons, List.append_assoc]

/-- **A string is read as it was printed.** -/
theorem Utf8.strToStr {str : Text} (h : Utf8 str) :
    ∃ body, Json.strToStr str = quote body ∧ StrText body str := by
  obtain ⟨cs, rfl⟩ := h
  obtain ⟨body, hbody, hplain, hscan⟩ := strLoop_utf8 cs
  refine ⟨body, by rw [Json.strToStr, hbody]; rfl, hplain, fun r => ?_⟩
  rw [hscan]
  exact getStrLoop_quote (isEOF_cons (by decide) r) rfl rfl

end PtpMgmt.Json
