import PtpMgmt.Json.Accepted
import PtpMgmt.Json.FromJson

set_option autoImplicit false

/-! # Texts that are read as they were printed

A text without escapes stands in JSON as it is. Octets are printed as hexadecimal tokens, and the tokens
are read as these octets again. -/

namespace PtpMgmt

namespace Json

/-! ## Texts without escapes -/

/-- A text that stands in a JSON string as it is: characters other than the quotation mark, the reverse
    solidus and the control characters. -/
def Unescaped (t : Text) : Prop :=
  ∃ cs : List Char, t = cs.flatMap String.utf8EncodeChar ∧ ∀ c ∈ cs, 0x20 ≤ c.val ∧ c ≠ '"' ∧ c ≠ '\\'

/-- An octet that starts a character, with so many octets to follow. -/
def Starts (v : UInt8) (n : Nat) : Prop :=
  contCount v = n ∧ isCont v = false ∧ v ≠ 0 ∧ v ≠ chr '"' ∧ v ≠ chr '\\'

instance Starts.decidable (v : UInt8) (n : Nat) : Decidable (Starts v n) :=
  inferInstanceAs (Decidable (_ ∧ _))

theorem starts_self {v : UInt8} (hlow : 0x20 ≤ v ∧ v < 0x80) (hq : v ≠ chr '"') (hb : v ≠ chr '\\') :
    Starts v 0 := by
  obtain ⟨hcont, hcount⟩ := ascii_alone hlow.2
  refine ⟨hcount, hcont, ?_, hq, hb⟩
  rintro rfl
  exact absurd hlow.1 (by decide)

theorem starts_lead {v : UInt8} {n k : Nat} (h : leadOctet v = some (n, k)) (hbig : ¬ v ≤ 0x7f) :
    Starts v n := by
  have hall : ∀ i : Fin 256, ∀ p ∈ leadOctet (UInt8.ofNat i.val), ¬ UInt8.ofNat i.val ≤ 0x7f →
      Starts (UInt8.ofNat i.val) p.1 := by
    decide +kernel
  have hstarts := hall ⟨v.toNat, v.toNat_lt⟩ (n, k) (by simpa using h) (by simpa using hbig)
  simpa using hstarts

theorem contOctet_isCont (k : Nat) : isCont (contOctet k) = true ∧ contOctet k ≠ 0 := by
  have hall : ∀ k : Fin 64, isCont (UInt8.ofNat (0x80 + k.val)) = true ∧ UInt8.ofNat (0x80 + k.val) ≠ 0 := by
    decide
  exact hall ⟨k % 0x40, Nat.mod_lt _ (by decide)⟩

/-- The scanner takes the octets of a character as they are. -/
structure Kept (octets : Text) : Prop where
  plain : Plain octets
  scan : ∀ ret r, getStrLoop none ret (octets ++ r) = getStrLoop none (ret ++ octets) r

theorem Starts.kept {v : UInt8} {ks : List Nat} (h : Starts v ks.length) : Kept (v :: ks.map contOctet) := by
  obtain ⟨hcount, hcont, h0, hq, hb⟩ := h
  refine ⟨?_, ?_⟩
  · intro c hc
    rcases List.mem_cons.1 hc with rfl | hc
    · exact h0
    · obtain ⟨k, -, rfl⟩ := List.mem_map.1 hc
      exact (contOctet_isCont k).2
  · intro ret r
    have htake : (ks.map contOctet ++ r).take ks.length = ks.map contOctet := by simp
    have hdrop : (ks.map contOctet ++ r).drop ks.length = r := by simp
    have hlen : ¬ (ks.map contOctet ++ r).length < ks.length := by simp
    have hall : (ks.map contOctet).all isCont = true := by
      rw [List.all_eq_true]
      intro o ho
      obtain ⟨k, -, rfl⟩ := List.mem_map.1 ho
      exact (contOctet_isCont k).1
    rw [List.cons_append]
    refine getStrLoop_octets (isEOF_cons h0 _) rfl hq hb ?_
    simp only [checkUTF8, peek_cons, hcont, Bool.false_eq_true, if_false, hcount, List.tail_cons, htake,
      hall, hlen, Bool.not_true, or_self, List.take_succ_cons, List.drop_succ_cons, hdrop]

theorem kept_char {c : Char} (hlow : 0x20 ≤ c.val) (hq : c ≠ '"') (hb : c ≠ '\\') :
    Kept (String.utf8EncodeChar c) := by
  rw [utf8EncodeChar_eq]
  by_cases h1 : c.val.toNat < 0x80
  · have hoctets : codeOctets c.val.toNat = [UInt8.ofNat c.val.toNat] := by rw [codeOctets, if_pos h1]
    have hnat : (UInt8.ofNat c.val.toNat).toNat = c.val.toNat := by
      rw [UInt8.toNat_ofNat']
      omega
    -- the character is its octet
    have hne : ∀ d : Char, d.val.toNat < 0x80 → c ≠ d → UInt8.ofNat c.val.toNat ≠ chr d := by
      intro d hd hcd heq
      have hval : c.val.toNat = d.val.toNat := by
        have hchr : (chr d).toNat = d.val.toNat := by
          rw [chr, Char.toUInt8]
          simp only [UInt32.toNat_toUInt8]
          omega
        rw [← hnat, heq, hchr]
      exact hcd (Char.ext (UInt32.toNat.inj hval))
    rw [hoctets]
    have hlow' : 0x20 ≤ c.val.toNat := UInt32.le_iff_toNat_le.1 hlow
    refine @Starts.kept _ [] (starts_self ⟨?_, ?_⟩ (hne _ (by decide) hq) (hne _ (by decide) hb))
    · rw [UInt8.le_iff_toNat_le, hnat]
      exact hlow'
    · rw [UInt8.lt_iff_toNat_lt, hnat]
      exact h1
  · obtain ⟨v, k, ks, ⟨hlead, hbig, -⟩, hoctets, -⟩ := codeOctets_sequence (scalar_char c) h1
    rw [hoctets]
    exact (starts_lead hlead hbig).kept

/-- **A text without escapes is read as it is.** -/
theorem Unescaped.strText {t : Text} (h : Unescaped t) : StrText t t := by
  obtain ⟨cs, rfl, hcs⟩ := h
  have hkept : Kept (cs.flatMap String.utf8EncodeChar) := by
    induction cs with
    | nil => exact ⟨by simp [Plain], by simp⟩
    | cons c cs ih =>
        obtain ⟨hlow, hq, hb⟩ := hcs c List.mem_cons_self
        have hc := kept_char hlow hq hb
        have hrest := ih fun d hd => hcs d (List.mem_cons_of_mem c hd)
        refine ⟨?_, ?_⟩
        · intro d hd
          rw [List.flatMap_cons] at hd
          exact (List.mem_append.1 hd).elim (hc.plain d) (hrest.plain d)
        · intro ret r
          rw [List.flatMap_cons, List.append_assoc, hc.scan, hrest.scan, List.append_assoc]
  refine ⟨hkept.plain, ?_⟩
  intro r
  have hquote : chr '"' ≠ 0 := by decide
  rw [hkept.scan, List.nil_append, getStrLoop_quote (isEOF_cons hquote r) rfl rfl]
  rfl

theorem strVal_isSelf {t : Text} (h : t.all isSelf = true) : strVal t = t := strVal_eq (strText_isSelf h)

theorem cStr_isSelf {t : Text} (h : t.all isSelf = true) : cStr t = t := by
  rw [cStr, List.takeWhile_eq_self_iff]
  intro c hc
  exact decide_eq_true (isSelf_spec (List.all_eq_true.1 h c hc)).1

end Json

open Json

/-! ## Octets -/

namespace Binary

/-- The digits of an octet separate nothing. -/
theorem hexOctet_noSep (b : UInt8) : ∀ c ∈ hexOctet b, isIdSep c = false := by
  intro c hc
  obtain ⟨d, rfl⟩ := exists_hexDigit hc
  clear hc
  revert d
  decide

theorem parseByte_hexOctet (b : UInt8) : parseByte (hexOctet b) = some b := by
  have hall : ∀ n : Fin 256, parseByte (hexOctet (UInt8.ofNat n.val)) = some (UInt8.ofNat n.val) := by
    decide +kernel
  simpa using hall ⟨b.toNat, b.toNat_lt⟩

theorem parseBytes_hexOctet (bs : Binary) : parseBytes (bs.map hexOctet) = some bs := by
  induction bs with
  | nil => rfl
  | cons b bs ih =>
      rw [List.map_cons, parseBytes, parseByte_hexOctet, ih]
      rfl

theorem tokensFrom_word {w : Text} (hw : ∀ c ∈ w, isIdSep c = false) (token r : Text) :
    tokensFrom token (w ++ r) = tokensFrom (token ++ w) r := by
  induction w generalizing token with
  | nil => rw [List.nil_append, List.append_nil]
  | cons c w ih =>
      rw [List.cons_append, tokensFrom, if_neg (by rw [hw c List.mem_cons_self]; decide),
        ih (fun d hd => hw d (List.mem_cons_of_mem c hd)), List.append_assoc]
      rfl

/-- A token ends where a separator comes. -/
theorem tokensFrom_sep {w : Text} (hw : ∀ c ∈ w, isIdSep c = false) (hne : w ≠ []) {sep : UInt8}
    (hsep : isIdSep sep = true) (r : Text) : tokensFrom [] (w ++ sep :: r) = w :: tokensFrom [] r := by
  rw [tokensFrom_word hw, List.nil_append, tokensFrom, if_pos hsep, if_neg hne]

theorem tokensFrom_last {w : Text} (hw : ∀ c ∈ w, isIdSep c = false) (hne : w ≠ []) :
    tokensFrom [] w = [w] := by
  have hword := tokensFrom_word hw [] []
  rw [List.append_nil, List.nil_append] at hword
  rw [hword, tokensFrom, if_neg hne]

theorem tokens_toId (b : UInt8) (bs : Binary) : tokens (toId (b :: bs)) = (b :: bs).map hexOctet := by
  have hne : ∀ b, hexOctet b ≠ [] := by
    intro b h
    cases h
  have hsep : isIdSep (chr ':') = true := by decide
  rw [tokens, cStr_isSelf (toId_self _), toId]
  induction bs generalizing b with
  | nil =>
      rw [List.flatMap_nil, List.append_nil]
      exact tokensFrom_last (hexOctet_noSep b) (hne b)
  | cons b' bs ih =>
      rw [List.flatMap_cons, List.cons_append, tokensFrom_sep (hexOctet_noSep b) (hne b) hsep, ih b']
      rfl

/-- **Octets are read from the id that is printed of them.** -/
theorem fromId_toId {val : Binary} (hne : val ≠ []) : fromId (toId val) = some val := by
  cases val with
  | nil => exact absurd rfl hne
  | cons b bs =>
      have hlen : ¬ (toId (b :: bs)).length < 2 := by simp [toId, hexOctet]
      rw [fromId, if_neg hlen, tokens_toId, parseBytes_hexOctet]

theorem nibbles_hexOctet (bs : Binary) : nibbles (bs.flatMap hexOctet) = bs.map hexOctet := by
  induction bs with
  | nil => rfl
  | cons b bs ih =>
      rw [List.flatMap_cons, List.map_cons, ← ih]
      rfl

end Binary

theorem flatMap_hexOctet_noSep (bs : Binary) : ∀ c ∈ bs.flatMap hexOctet, Binary.isIdSep c = false := by
  intro c hc
  obtain ⟨b, -, hb⟩ := List.mem_flatMap.1 hc
  exact Binary.hexOctet_noSep b c hb

theorem flatMap_hexOctet_ne_nil {bs : Binary} (hne : bs ≠ []) : bs.flatMap hexOctet ≠ [] := by
  cases bs with
  | nil => exact absurd rfl hne
  | cons b bs =>
      intro h
      cases h

/-- **A clock identity is read from the text that is printed of it**: three tokens, of three, two and three
    octets. -/
theorem clockIdentityOf_str (d : ClockIdentity) : JsonProcFrom.clockIdentityOf d.str = some d := by
  have hlen := d.v.toList_length
  have hne : ∀ {k n : Nat}, k < 8 → 0 < n → (d.v.toList.drop k).take n ≠ [] := by
    intro k n hk hn h
    have hzero := congrArg List.length h
    rw [List.length_take, List.length_drop, hlen, List.length_nil] at hzero
    omega
  have hsep : Binary.isIdSep (chr '.') = true := by decide
  have htokens : Binary.tokens d.str = [(d.v.toList.take 3).flatMap hexOctet,
      ((d.v.toList.drop 3).take 2).flatMap hexOctet, (d.v.toList.drop 5).flatMap hexOctet] := by
    have hfirst : d.v.toList.take 3 ≠ [] := hne (k := 0) (by decide) (by decide)
    have hlast : d.v.toList.drop 5 ≠ [] := by
      have h := hne (k := 5) (n := 3) (by decide) (by decide)
      rwa [List.take_of_length_le (by rw [List.length_drop, hlen])] at h
    rw [Binary.tokens, cStr_isSelf (clockIdentityStr_self d), ClockIdentity.str, List.append_assoc,
      List.cons_append, Binary.tokensFrom_sep (flatMap_hexOctet_noSep _) (flatMap_hexOctet_ne_nil hfirst) hsep,
      Binary.tokensFrom_sep (flatMap_hexOctet_noSep _)
        (flatMap_hexOctet_ne_nil (hne (by decide) (by decide))) hsep,
      Binary.tokensFrom_last (flatMap_hexOctet_noSep _) (flatMap_hexOctet_ne_nil hlast)]
  have hall : d.v.toList.take 3 ++ ((d.v.toList.drop 3).take 2 ++ d.v.toList.drop 5) = d.v.toList := by
    have hrest := List.take_append_drop 2 (d.v.toList.drop 3)
    rw [List.drop_drop] at hrest
    rw [hrest, List.take_append_drop]
  have hstr : d.str ≠ [] := by
    intro h
    rw [h] at htokens
    cases htokens
  have hhex : Binary.fromHex d.str = some d.v.toList := by
    rw [Binary.fromHex, if_neg hstr, htokens]
    simp only [List.flatMap_cons, List.flatMap_nil, Binary.nibbles_hexOctet, List.append_nil,
      ← List.map_append, hall, Binary.parseBytes_hexOctet]
  rw [JsonProcFrom.clockIdentityOf, hhex, Option.bind_some, dif_pos hlen]
  rfl

end PtpMgmt
