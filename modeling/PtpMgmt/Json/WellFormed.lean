import PtpMgmt.Json.Rejected
import PtpMgmt.Json.Texts

set_option autoImplicit false

/-! # Whether a string that is read is well-formed UTF-8

A string is put together from octets that stand in the literal as they are and from code points of its
escapes. An escape always gives a character. Octets are checked by their ranges only: a first octet and as
many octets behind it as it asks for. That lets overlong forms, surrogates and values past the last code
point through. -/

namespace PtpMgmt.Json

/-! ## The octets that stand in a literal as they are -/

/-- What is left of a literal without its escapes, and without the zeros that end the chunks of a file.
    `escape` counts what is still to come of an escape: its letter, and then the digits. -/
def rawOctets : Nat → Text → Text
  | _, [] => []
  | 0, c :: r =>
    if c = chr '"' then []
    else if c = chr '\\' then rawOctets 5 r
    else if c = 0 then rawOctets 0 r
    else c :: rawOctets 0 r
  | 5, c :: r =>
    if c = 0 then rawOctets 5 r
    else if c = chr 'u' then rawOctets 4 r
    else rawOctets 0 r
  | escape + 1, _ :: r => rawOctets escape r

/-- A first octet that starts no character, or none with this octet behind it. -/
def IllFormed (v next : UInt8) : Prop :=
  v = 0xc0 ∨ v = 0xc1 ∨ 0xf5 ≤ v ∨ (v = 0xe0 ∧ next < 0xa0) ∨ (v = 0xed ∧ 0xa0 ≤ next) ∨
    (v = 0xf0 ∧ next < 0x90) ∨ (v = 0xf4 ∧ 0x90 ≤ next)

instance IllFormed.decidable (v next : UInt8) : Decidable (IllFormed v next) :=
  inferInstanceAs (Decidable (_ ∨ _))

def NoneIllFormed : Text → Prop
  | [] => True
  | v :: r => ¬ IllFormed v (peek r) ∧ NoneIllFormed r

instance NoneIllFormed.decidable : (t : Text) → Decidable (NoneIllFormed t)
  | [] => inferInstanceAs (Decidable True)
  | _ :: r => @instDecidableAnd _ _ _ (NoneIllFormed.decidable r)

theorem illFormed_toNat (v next : UInt8) : IllFormed v next ↔
    v.toNat = 0xc0 ∨ v.toNat = 0xc1 ∨ 0xf5 ≤ v.toNat ∨ (v.toNat = 0xe0 ∧ next.toNat < 0xa0) ∨
      (v.toNat = 0xed ∧ 0xa0 ≤ next.toNat) ∨ (v.toNat = 0xf0 ∧ next.toNat < 0x90) ∨
      (v.toNat = 0xf4 ∧ 0x90 ≤ next.toNat) := by
  unfold IllFormed
  simp only [← UInt8.toNat_inj, UInt8.le_iff_toNat_le, UInt8.lt_iff_toNat_lt]
  rfl

theorem not_illFormed_of_low {v : UInt8} (h : v.toNat < 0xc0) (next : UInt8) : ¬ IllFormed v next := by
  rw [illFormed_toNat]
  omega

/-! ## Sequences -/

theorem isCont_toNat (c : UInt8) : isCont c = true ↔ 0x80 ≤ c.toNat ∧ c.toNat < 0xc0 := by
  unfold isCont
  rw [Bool.and_eq_true, decide_eq_true_eq, decide_eq_true_eq, UInt8.le_iff_toNat_le, UInt8.lt_iff_toNat_lt]
  rfl

theorem contCount_cases (c : UInt8) :
    (c.toNat < 0xc0 ∧ contCount c = 0) ∨ (0xc0 ≤ c.toNat ∧ c.toNat < 0xe0 ∧ contCount c = 1) ∨
      (0xe0 ≤ c.toNat ∧ c.toNat < 0xf0 ∧ contCount c = 2) ∨ (0xf0 ≤ c.toNat ∧ contCount c = 3) := by
  have hlt : ∀ d : UInt8, c < d ↔ c.toNat < d.toNat := fun d => UInt8.lt_iff_toNat_lt
  have hc0 : (0xc0 : UInt8).toNat = 0xc0 := rfl
  have he0 : (0xe0 : UInt8).toNat = 0xe0 := rfl
  have hf0 : (0xf0 : UInt8).toNat = 0xf0 := rfl
  unfold contCount
  split_ifs with h1 h2 h3
  all_goals
    rw [hlt] at *
    omega

/-- An octet that may be the first one, and as many behind it as it asks for: what `checkUTF8` takes. -/
structure Sequence (p : Text) : Prop where
  ne_nil : p ≠ []
  first : isCont (peek p) = false
  length_tail : p.tail.length = contCount (peek p)
  tail : ∀ c ∈ p.tail, isCont c = true

theorem checkUTF8_sequence {cur cur' octets : Text} (hne : cur ≠ [])
    (h : checkUTF8 cur = some (octets, cur')) : Sequence octets ∧ cur = octets ++ cur' := by
  obtain ⟨v, r, rfl⟩ := List.exists_cons_of_ne_nil hne
  unfold checkUTF8 at h
  simp only [peek_cons, List.tail_cons, List.take_succ_cons, List.drop_succ_cons] at h
  split at h
  · cases h
  next hfirst =>
    split at h
    · cases h
    next hrest =>
      rw [not_or, Nat.not_lt, Bool.not_eq_true, Bool.not_eq_false', List.all_eq_true] at hrest
      simp only [Option.some.injEq, Prod.mk.injEq] at h
      obtain ⟨rfl, rfl⟩ := h
      refine ⟨⟨List.cons_ne_nil _ _, Bool.eq_false_iff.2 hfirst, ?_, hrest.2⟩, ?_⟩
      · rw [List.tail_cons, List.length_take]
        exact Nat.min_eq_left hrest.1
      · rw [List.cons_append, List.take_append_drop]

/-- The octets behind the first one start nothing. -/
theorem noneIllFormed_conts {t : Text} (ht : ∀ c ∈ t, isCont c = true) (s : Text) :
    NoneIllFormed (t ++ s) ↔ NoneIllFormed s := by
  induction t with
  | nil => rfl
  | cons c t ih =>
    have hcont := (isCont_toNat c).1 (ht c List.mem_cons_self)
    rw [List.cons_append, NoneIllFormed, ih fun d hd => ht d (List.mem_cons_of_mem _ hd)]
    exact and_iff_right (not_illFormed_of_low hcont.2 _)

theorem Sequence.noneIllFormed_append {p : Text} (hp : Sequence p) (s : Text) :
    NoneIllFormed (p ++ s) ↔ ¬ IllFormed (peek p) (peek p.tail) ∧ NoneIllFormed s := by
  obtain ⟨hne, hfirst, hlen, htail⟩ := hp
  obtain ⟨v, t, rfl⟩ := List.exists_cons_of_ne_nil hne
  rw [peek_cons, List.tail_cons] at *
  rw [List.cons_append, NoneIllFormed, noneIllFormed_conts htail]
  cases t with
  | cons c t => rfl
  | nil =>
    -- a sequence of one octet
    have hlow : v.toNat < 0xc0 := by
      have hcases := contCount_cases v
      rw [List.length_nil] at hlen
      omega
    rw [List.nil_append]
    exact and_congr_left' (iff_of_true (not_illFormed_of_low hlow _) (not_illFormed_of_low hlow _))

/-! ## Sequences that are characters -/

theorem utf8EncodeChar_sequence (c : Char) : Sequence (String.utf8EncodeChar c) := by
  rw [utf8EncodeChar_eq]
  by_cases h1 : c.val.toNat < 0x80
  · have hnat : (UInt8.ofNat c.val.toNat).toNat = c.val.toNat := by
      rw [UInt8.toNat_ofNat']
      omega
    rw [codeOctets, if_pos h1]
    refine ⟨List.cons_ne_nil _ _, ?_, ?_, ?_⟩
    · rw [Bool.eq_false_iff, ne_eq, isCont_toNat, peek_cons, hnat]
      omega
    · have hcases := contCount_cases (UInt8.ofNat c.val.toNat)
      rw [List.tail_cons, List.length_nil, peek_cons]
      omega
    · intro d hd
      cases hd
  · obtain ⟨v, k, ks, ⟨hlead, hbig, -⟩, hoctets, -⟩ := codeOctets_sequence (scalar_char c) h1
    obtain ⟨hcount, hfirst, -⟩ := starts_lead hlead hbig
    rw [hoctets]
    refine ⟨List.cons_ne_nil _ _, hfirst, ?_, ?_⟩
    · rw [List.tail_cons, List.length_map, peek_cons, hcount]
    · intro d hd
      obtain ⟨k', -, rfl⟩ := List.mem_map.1 hd
      exact (contOctet_isCont k').1

theorem exists_char {val : Nat} (h : Scalar val) : ∃ c : Char, String.utf8EncodeChar c = codeOctets val := by
  unfold Scalar at h
  have hnat : (UInt32.ofNat val).toNat = val := by
    rw [UInt32.toNat_ofNat']
    omega
  have hvalid : (UInt32.ofNat val).isValidChar := by
    unfold UInt32.isValidChar Nat.isValidChar
    omega
  refine ⟨⟨UInt32.ofNat val, hvalid⟩, ?_⟩
  rw [utf8EncodeChar_eq]
  exact congrArg codeOctets hnat

theorem ofNat_eq_of_toNat {v : UInt8} {n : Nat} (h : n = v.toNat) : UInt8.ofNat n = v := by
  rw [h, UInt8.ofNat_toNat]

/-- The octets of a code point are well formed. -/
theorem codeOctets_wellFormed {val : Nat} (h : Scalar val) :
    ¬ IllFormed (peek (codeOctets val)) (peek (codeOctets val).tail) := by
  unfold Scalar at h
  rw [illFormed_toNat]
  unfold codeOctets
  split_ifs
  · rw [peek_cons, UInt8.toNat_ofNat']
    omega
  all_goals
    rw [peek_cons, List.tail_cons, peek_cons, UInt8.toNat_ofNat', UInt8.toNat_ofNat']
    omega

theorem Sequence.exists_code {p : Text} (hp : Sequence p) (h : ¬ IllFormed (peek p) (peek p.tail)) :
    ∃ val, Scalar val ∧ codeOctets val = p := by
  obtain ⟨hne, hfirst, hlen, htail⟩ := hp
  obtain ⟨v, t, rfl⟩ := List.exists_cons_of_ne_nil hne
  rw [peek_cons, List.tail_cons] at *
  rw [illFormed_toNat] at h
  rw [Bool.eq_false_iff, ne_eq, isCont_toNat] at hfirst
  have hcases := contCount_cases v
  unfold Scalar
  have hcont : ∀ c ∈ t, 0x80 ≤ c.toNat ∧ c.toNat < 0xc0 := fun c hc => (isCont_toNat c).1 (htail c hc)
  have hv := v.toNat_lt
  match t with
  | [] =>
    rw [List.length_nil] at hlen
    have hlow : v.toNat < 0x80 := by omega
    refine ⟨v.toNat, .inl (by omega), ?_⟩
    rw [codeOctets, if_pos hlow, UInt8.ofNat_toNat]
  | [a] =>
    have ha := hcont a List.mem_cons_self
    simp only [List.length_cons, List.length_nil] at hlen
    have hlow : 0xc0 ≤ v.toNat ∧ v.toNat < 0xe0 := by omega
    refine ⟨(v.toNat - 0xc0) * 0x40 + (a.toNat - 0x80), .inl (by omega), ?_⟩
    rw [codeOctets, if_neg (by omega), if_pos (by omega), ofNat_eq_of_toNat (v := v) (by omega),
      ofNat_eq_of_toNat (v := a) (by omega)]
  | [a, b] =>
    have ha := hcont a List.mem_cons_self
    have hb := hcont b (by simp)
    simp only [List.length_cons, List.length_nil] at hlen
    have hlow : 0xe0 ≤ v.toNat ∧ v.toNat < 0xf0 := by omega
    rw [peek_cons] at h
    refine ⟨(v.toNat - 0xe0) * 0x1000 + (a.toNat - 0x80) * 0x40 + (b.toNat - 0x80), by omega, ?_⟩
    rw [codeOctets, if_neg (by omega), if_neg (by omega), if_pos (by omega),
      ofNat_eq_of_toNat (v := v) (by omega), ofNat_eq_of_toNat (v := a) (by omega),
      ofNat_eq_of_toNat (v := b) (by omega)]
  | [a, b, c] =>
    have ha := hcont a List.mem_cons_self
    have hb := hcont b (by simp)
    have hc := hcont c (by simp)
    simp only [List.length_cons, List.length_nil] at hlen
    have hlow : 0xf0 ≤ v.toNat := by omega
    rw [peek_cons] at h
    refine ⟨(v.toNat - 0xf0) * 0x40000 + (a.toNat - 0x80) * 0x1000 + (b.toNat - 0x80) * 0x40 + (c.toNat - 0x80),
      by omega, ?_⟩
    rw [codeOctets, if_neg (by omega), if_neg (by omega), if_neg (by omega),
      ofNat_eq_of_toNat (v := v) (by omega), ofNat_eq_of_toNat (v := a) (by omega),
      ofNat_eq_of_toNat (v := b) (by omega), ofNat_eq_of_toNat (v := c) (by omega)]
  | _ :: _ :: _ :: _ :: _ =>
    exfalso
    simp only [List.length_cons] at hlen
    omega

/-- A sequence in front of a text is well-formed UTF-8 on its own. -/
theorem Sequence.utf8_append {p : Text} (hp : Sequence p) (s : Text) :
    Utf8 (p ++ s) ↔ ¬ IllFormed (peek p) (peek p.tail) ∧ Utf8 s := by
  constructor
  · rintro ⟨cs, hcs⟩
    cases cs with
    | nil => exact absurd (List.append_eq_nil_iff.1 hcs).1 hp.ne_nil
    | cons c cs =>
      rw [List.flatMap_cons] at hcs
      have hc := utf8EncodeChar_sequence c
      obtain ⟨v, t, rfl⟩ := List.exists_cons_of_ne_nil hp.ne_nil
      obtain ⟨w, u, hwu⟩ := List.exists_cons_of_ne_nil hc.ne_nil
      rw [hwu] at hcs hc
      -- both begin with the same octet, and it tells how long they are
      have hhead : v = w := (List.cons.inj hcs).1
      have hlen : t.length = u.length := by
        have hpt := hp.length_tail
        have hct := hc.length_tail
        rw [List.tail_cons, peek_cons] at hpt hct
        rw [hpt, hct, hhead]
      obtain ⟨htail, hs⟩ := List.append_inj (List.cons.inj hcs).2 hlen
      refine ⟨?_, cs, hs⟩
      rw [hhead, htail, ← hwu, utf8EncodeChar_eq]
      exact codeOctets_wellFormed (scalar_char c)
  · rintro ⟨hwell, cs, rfl⟩
    obtain ⟨val, hval, rfl⟩ := hp.exists_code hwell
    obtain ⟨c, hc⟩ := exists_char hval
    refine ⟨c :: cs, ?_⟩
    rw [List.flatMap_cons, hc]

theorem utf8_codeOctets_append {val : Nat} (h : Scalar val) (s : Text) : Utf8 (codeOctets val ++ s) ↔ Utf8 s := by
  obtain ⟨c, hc⟩ := exists_char h
  rw [← hc, (utf8EncodeChar_sequence c).utf8_append, hc]
  exact and_iff_right (codeOctets_wellFormed h)

/-! ## Strings -/

theorem rawOctets_isEOF {cur cur' : Text} (h : isEOF cur = some cur') {escape : Nat}
    (hescape : escape = 0 ∨ escape = 5) : rawOctets escape cur = rawOctets escape cur' := by
  unfold isEOF at h
  split at h
  · cases h
  · split at h
    · cases h
    · cases h
      rcases hescape with rfl | rfl <;> rfl
  · cases h
    rfl

theorem hexVal_lt {c : UInt8} (h : isXDigit c = true) : hexVal c < 16 := by
  rcases exists_xdigit h with ⟨d, rfl⟩ | ⟨d, rfl⟩ | ⟨d, rfl⟩
  · clear h
    revert d
    decide
  · clear h
    revert d
    decide
  · clear h
    revert d
    decide

theorem uToVal_lt {cur cur' : Text} {val : Nat} (h : uToVal cur = some (val, cur')) : val < 0x10000 := by
  obtain ⟨a, b, c, d, rfl, ha, hb, hc, hd⟩ := uToVal_digits h
  have ha' := hexVal_lt ha
  have hb' := hexVal_lt hb
  have hc' := hexVal_lt hc
  have hd' := hexVal_lt hd
  simp only [uToVal, ha, hb, hc, hd, Bool.and_self, if_true, Option.some.injEq, Prod.mk.injEq, and_true] at h
  omega

/-- What `uProc` adds: nothing for the first part of a surrogate pair, else a code point. -/
theorem uProc_spec {w1 w1' : Option Nat} {cur cur' octets : Text} (hw : ∀ w ∈ w1, w < 0x400)
    (h : uProc w1 cur = some (octets, w1', cur')) :
    (∀ w ∈ w1', w < 0x400) ∧ rawOctets 4 cur = rawOctets 0 cur' ∧ ∀ s, Utf8 (octets ++ s) ↔ Utf8 s := by
  obtain ⟨val, hval⟩ := uProc_rest h
  have hlt := uToVal_lt hval
  have hraw : rawOctets 4 cur = rawOctets 0 cur' := by
    obtain ⟨a, b, c, d, rfl, -⟩ := uToVal_digits hval
    rfl
  unfold uProc at h
  rw [hval] at h
  cases w1 with
  | some w =>
    have hlow := hw w rfl
    dsimp only at h
    split at h
    · cases h
    · simp only [Option.some.injEq, Prod.mk.injEq] at h
      obtain ⟨rfl, rfl, -⟩ := h
      refine ⟨nofun, hraw, utf8_codeOctets_append ?_⟩
      unfold Scalar
      omega
  | none =>
    dsimp only at h
    split at h
    · simp only [Option.some.injEq, Prod.mk.injEq] at h
      obtain ⟨rfl, rfl, -⟩ := h
      refine ⟨nofun, hraw, utf8_codeOctets_append ?_⟩
      unfold Scalar
      omega
    · split at h
      · simp only [Option.some.injEq, Prod.mk.injEq] at h
        obtain ⟨rfl, rfl, -⟩ := h
        refine ⟨?_, hraw, fun s => Iff.rfl⟩
        intro w hw'
        rw [Option.mem_some_iff] at hw'
        omega
      · cases h

theorem utf8_unescape_append {e c : UInt8} (h : unescape e = some c) (s : Text) :
    Utf8 ([c] ++ s) ↔ Utf8 s := by
  have hlow : c.toNat < 0x80 := by
    unfold unescape at h
    split_ifs at h with hself hb hf hn hr ht
    · cases h
      rcases hself with rfl | rfl | rfl
      · decide
      · decide
      · decide
    all_goals
      cases h
      decide
  have hcode : [c] = codeOctets c.toNat := by rw [codeOctets, if_pos hlow, UInt8.ofNat_toNat]
  rw [hcode]
  exact utf8_codeOctets_append (.inl (by omega)) s

/-- Octets of the text that the loop takes as they are. -/
theorem rawOctets_sequence {p : Text} (hp : Sequence p) (hq : peek p ≠ chr '"') (hb : peek p ≠ chr '\\')
    (s : Text) :
    NoneIllFormed (rawOctets 0 (p ++ s)) ↔ NoneIllFormed (p ++ rawOctets 0 s) := by
  obtain ⟨v, t, rfl⟩ := List.exists_cons_of_ne_nil hp.ne_nil
  have hconts : ∀ t : Text, (∀ c ∈ t, isCont c = true) → rawOctets 0 (t ++ s) = t ++ rawOctets 0 s := by
    intro t ht
    induction t with
    | nil => rfl
    | cons c t ih =>
      have hcont := (isCont_toNat c).1 (ht c List.mem_cons_self)
      have hne : ∀ d : UInt8, d.toNat < 0x80 → c ≠ d := by
        rintro d hd rfl
        omega
      rw [List.cons_append, rawOctets, if_neg (hne _ (by decide)), if_neg (hne _ (by decide)),
        if_neg (hne _ (by decide)), ih fun d hd => ht d (List.mem_cons_of_mem _ hd), List.cons_append]
  rw [peek_cons] at hq hb
  rw [List.cons_append, rawOctets, if_neg hq, if_neg hb]
  split
  next hzero =>
    -- a zero of the text is a sequence of its own
    have htail : t = [] := by
      have hlen := hp.length_tail
      rw [peek_cons, hzero] at hlen
      exact List.length_eq_zero_iff.1 hlen
    rw [htail, hzero]
    exact (and_iff_right (not_illFormed_of_low (by decide) _)).symm
  next => rw [hconts t hp.tail, List.cons_append]

theorem getStrLoop_utf8 {w1 : Option Nat} {ret cur out rest : Text} (hw : ∀ w ∈ w1, w < 0x400)
    (h : getStrLoop w1 ret cur = some (out, rest)) :
    ∃ body, out = ret ++ body ∧ (Utf8 body ↔ NoneIllFormed (rawOctets 0 cur)) := by
  induction hn : cur.length using Nat.strong_induction_on generalizing w1 ret cur with
  | _ n ih =>
    cases heof : isEOF cur with
    | none =>
      rw [getStrLoop_none heof] at h
      cases h
    | some cur₁ =>
      have hlen := isEOF_length heof
      have hne := isEOF_ne_nil heof
      obtain ⟨c, r, rfl⟩ := List.exists_cons_of_ne_nil hne
      rw [getStrLoop_some heof, peek_cons, List.tail_cons] at h
      rw [rawOctets_isEOF heof (.inl rfl)]
      split at h
      · cases h
      split at h
      next hq =>
        -- the end of the literal
        cases h
        refine ⟨[], (List.append_nil _).symm, iff_of_true ⟨[], rfl⟩ ?_⟩
        rw [rawOctets, if_pos hq]
        trivial
      next hq =>
        split at h
        next hb =>
          rw [rawOctets, if_neg hq, if_pos hb]
          obtain ⟨cur₂, heof', h⟩ := Option.bind_eq_some_iff.1 h
          have hlen' := isEOF_length heof'
          obtain ⟨d, r', rfl⟩ := List.exists_cons_of_ne_nil (isEOF_ne_nil heof')
          rw [peek_cons, List.tail_cons] at h
          rw [rawOctets_isEOF heof' (.inr rfl)]
          split at h
          · cases h
          split at h
          next hu =>
            obtain ⟨⟨octets, w1', cur₃⟩, hproc, h⟩ := Option.bind_eq_some_iff.1 h
            obtain ⟨hw', hraw, hutf8⟩ := uProc_spec hw hproc
            have hlt := uProc_length hproc
            obtain ⟨body, hbody, hiff⟩ := ih cur₃.length (by simp_all; omega) hw' h rfl
            refine ⟨octets ++ body, by rw [hbody, List.append_assoc], ?_⟩
            have hletter : rawOctets 5 (d :: r') = rawOctets 4 r' := by
              rw [hu]
              rfl
            rw [hutf8, hiff, hletter, hraw]
          next hu =>
            obtain ⟨c', hun, h⟩ := Option.bind_eq_some_iff.1 h
            obtain ⟨body, hbody, hiff⟩ := ih r'.length (by simp_all; omega) hw h rfl
            refine ⟨[c'] ++ body, by rw [hbody, List.append_assoc], ?_⟩
            have hletter : rawOctets 5 (d :: r') = rawOctets 0 r' := by
              have hd : d ≠ 0 := by
                rintro rfl
                cases hun
              show (if d = 0 then rawOctets 5 r' else if d = chr 'u' then rawOctets 4 r' else rawOctets 0 r') = _
              rw [if_neg hd, if_neg hu]
            rw [utf8_unescape_append hun, hiff, hletter]
        next hb =>
          obtain ⟨⟨octets, cur₂⟩, hcheck, h⟩ := Option.bind_eq_some_iff.1 h
          obtain ⟨hseq, hcur⟩ := checkUTF8_sequence hne hcheck
          have hlt := checkUTF8_length hne hcheck
          obtain ⟨body, hbody, hiff⟩ := ih cur₂.length (by omega) hw h rfl
          refine ⟨octets ++ body, by rw [hbody, List.append_assoc], ?_⟩
          have hpeek : peek octets = c := by
            obtain ⟨v, t, rfl⟩ := List.exists_cons_of_ne_nil hseq.ne_nil
            exact (List.cons.inj hcur).1.symm
          rw [hcur, rawOctets_sequence hseq (hpeek ▸ hq) (hpeek ▸ hb), hseq.utf8_append,
            hseq.noneIllFormed_append, hiff]

/-- A string that is read is well-formed UTF-8 if and only if no octet of the literal outside its escapes
    starts an overlong form, a surrogate or a value past the last code point. -/
theorem getStr_utf8_iff {cur str rest : Text} (h : getStr cur = some (str, rest)) :
    Utf8 str ↔ NoneIllFormed (rawOctets 0 cur.tail) := by
  have hnone : ∀ w ∈ (none : Option Nat), w < 0x400 := by
    intro w hw
    cases hw
  obtain ⟨body, hbody, hiff⟩ := getStrLoop_utf8 hnone h
  rw [hbody]
  exact hiff

/-- Octets, simple escapes and a surrogate pair in one literal. -/
theorem getStr_utf8_iff_mixed :
    getStr (txt "\"" ++ [0xc3, 0xa9] ++ txt "\\n\\ud83d\\ude00\"")
      = some ([0xc3, 0xa9, 0x0a, 0xf0, 0x9f, 0x98, 0x80], []) ∧
    Utf8 [0xc3, 0xa9, 0x0a, 0xf0, 0x9f, 0x98, 0x80] := by
  have hread : getStr (txt "\"" ++ [0xc3, 0xa9] ++ txt "\\n\\ud83d\\ude00\"")
      = some ([0xc3, 0xa9, 0x0a, 0xf0, 0x9f, 0x98, 0x80], []) := by
    unfold getStr
    refine (getStrLoop_octets (isEOF_cons (c := 0xc3) (by decide) _) rfl (by decide) (by decide) rfl).trans ?_
    refine (getStrLoop_escape (isEOF_cons (c := chr '\\') (by decide) _) rfl
      (isEOF_cons (c := chr 'n') (by decide) _) rfl (by decide) rfl).trans ?_
    refine (getStrLoop_u (isEOF_cons (c := chr '\\') (by decide) _) rfl
      (isEOF_cons (c := chr 'u') (by decide) _) rfl
      (show uProc none (txt "d83d\\ude00\"") = some ([], some 61, txt "\\ude00\"") by decide)).trans ?_
    refine (getStrLoop_u (isEOF_cons (c := chr '\\') (by decide) _) rfl
      (isEOF_cons (c := chr 'u') (by decide) _) rfl
      (show uProc (some 61) (txt "de00\"") = some ([0xf0, 0x9f, 0x98, 0x80], none, txt "\"") by decide)).trans ?_
    exact getStrLoop_quote (isEOF_cons (c := chr '"') (by decide) _) rfl rfl
  exact ⟨hread, (getStr_utf8_iff hread).2 (by decide)⟩

/-- An overlong form of the zero. -/
theorem getStr_utf8_iff_overlong :
    ¬ ∀ cur str rest : Text, getStr cur = some (str, rest) → Utf8 str := by
  intro h
  have hread : getStr (txt "\"" ++ [0xc0, 0x80] ++ txt "\"") = some ([0xc0, 0x80], []) := by
    unfold getStr
    refine (getStrLoop_octets (isEOF_cons (c := 0xc0) (by decide) _) rfl (by decide) (by decide) rfl).trans ?_
    exact getStrLoop_quote (isEOF_cons (c := chr '"') (by decide) _) rfl rfl
  obtain ⟨cs, hcs⟩ := h _ _ _ hread
  cases cs with
  | nil => cases hcs
  | cons c cs =>
    have hseq : Sequence [0xc0, 0x80] :=
      ⟨by decide, by decide, by decide, List.forall_mem_singleton.2 (by decide)⟩
    have hiff := hseq.utf8_append []
    exact absurd ((hiff.1 ⟨c :: cs, hcs⟩).1) (by decide)

end PtpMgmt.Json
