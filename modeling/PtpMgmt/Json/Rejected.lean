import PtpMgmt.Json.Accepted

set_option autoImplicit false

/-! # Printed messages that are no JSON

A text that does not close, or a float that is no number, makes the parser fail, as long as no text has a
quotation mark. Such a string is broken, or it runs on over the quotation mark behind it. Then it ends at the
next one, which opens a name, and a name is nothing that may follow a value. -/

namespace PtpMgmt.Json

/-! ## Strings that run on -/

/-- The tokens that may follow a value. -/
def Token.follows : Token → Bool
  | .objEnd | .arrEnd | .valSep | .eof => true
  | _ => false

/-- What comes next may follow no value. -/
def Astray (useComments : Bool) (r : Text) : Prop := (getToken useComments r).1.follows = false

/-- A string that runs on into this text leaves the parser astray. -/
def RunsOn (useComments : Bool) (r : Text) : Prop :=
  ∀ ret x, getStrLoop none ret r = some x → Astray useComments x.2

theorem runsOn_nil (useComments : Bool) : RunsOn useComments [] := by
  intro ret x hx
  rw [getStrLoop_none rfl] at hx
  cases hx

theorem getKey_follows (key cur : Text) : (getKey key cur).1.follows = false := by
  fun_induction getKey key cur with
  | case3 _ _ _ _ _ _ ih => exact ih
  | case4 => rfl
  | _ =>
      unfold keyToken
      split
      · rfl
      · split
        · rfl
        · split <;> rfl

/-- A word may follow no value. -/
theorem astray_word {c : UInt8} (hc : isWord c = true) (useComments : Bool) (r : Text) :
    Astray useComments (c :: r) := by
  obtain ⟨hspace, hslash, hfollows⟩ : isSpace c = false ∧ c ≠ chr '/' ∧ (charToken c).follows = false := by
    rcases exists_word hc with ⟨d, rfl⟩ | ⟨d, rfl⟩ | ⟨d, rfl⟩ | rfl
    · clear hc
      revert d
      decide
    · clear hc
      revert d
      decide
    · clear hc
      revert d
      decide
    · decide
  rw [Astray, getToken_some (skipWs_cons (isWord_spec hc).1 hspace r) (by simpa using hslash), peek_cons]
  split
  · exact getKey_follows _ _
  · exact hfollows

theorem runsOn_word {c : UInt8} (hc : isWord c = true) (useComments : Bool) (r : Text) :
    RunsOn useComments (chr '"' :: c :: r) := by
  intro ret x hx
  have h0 : chr '"' ≠ 0 := by decide
  rw [getStrLoop_quote (isEOF_cons h0 _) rfl rfl] at hx
  cases hx
  exact astray_word hc useComments r

/-- What stands between two strings is read as a part of the string. -/
theorem RunsOn.append {w r : Text} (hw : w.all isSelf = true) {useComments : Bool} (h : RunsOn useComments r) :
    RunsOn useComments (w ++ r) := by
  induction w with
  | nil => exact h
  | cons c w ih =>
      rw [List.all_cons, Bool.and_eq_true] at hw
      obtain ⟨h0, hq, hb, hcont, hcount⟩ := isSelf_spec hw.1
      intro ret x hx
      rw [List.cons_append, getStrLoop_self h0 hq hb hcont hcount] at hx
      exact ih hw.2 _ x hx

/-! ## Strings that do not close -/

/-- The string ends at the quotation mark behind it. -/
def Ending (w1 : Option Nat) (t : Text) : Prop :=
  ∃ val, ∀ ret r, getStrLoop w1 ret (t ++ chr '"' :: r) = some (ret ++ val, r)

/-- The string is broken or runs on. -/
def Broken (w1 : Option Nat) (t : Text) : Prop :=
  ∀ useComments r, RunsOn useComments r → ∀ ret x, getStrLoop w1 ret (t ++ chr '"' :: r) = some x →
    Astray useComments x.2

theorem uToVal_digits {cur cur' : Text} {val : Nat} (h : uToVal cur = some (val, cur')) :
    ∃ a b c d, cur = a :: b :: c :: d :: cur' ∧
      (isXDigit a = true ∧ isXDigit b = true ∧ isXDigit c = true ∧ isXDigit d = true) := by
  unfold uToVal at h
  split at h
  · next a b c d r =>
      split at h
      · next hdigits =>
          cases h
          simp only [Bool.and_eq_true] at hdigits
          exact ⟨a, b, c, d, rfl, hdigits.1.1.1, hdigits.1.1.2, hdigits.1.2, hdigits.2⟩
      · cases h
  · cases h

/-- Four digits are there, or the quotation mark comes too early. -/
theorem uToVal_quote (t : Text) :
    (∀ r, uToVal (t ++ chr '"' :: r) = none) ∨
      ∃ val t', t' <:+ t ∧ ∀ r, uToVal (t ++ chr '"' :: r) = some (val, t' ++ chr '"' :: r) := by
  have hquote : isXDigit (chr '"') = false := by decide
  have hshort : ∀ {w : Text} (r : Text), w.length < 4 → uToVal (w ++ chr '"' :: r) = none := by
    intro w r hlen
    rw [Option.eq_none_iff_forall_ne_some]
    rintro ⟨val, cur⟩ hval
    obtain ⟨a, b, c, d, hcur, hdigits⟩ := uToVal_digits hval
    rcases w with _ | ⟨_, _ | ⟨_, _ | ⟨_, _ | ⟨_, w⟩⟩⟩⟩
    all_goals simp only [List.cons_append, List.nil_append, List.cons.injEq] at hcur
    all_goals simp_all
    omega
  rcases t with _ | ⟨a, _ | ⟨b, _ | ⟨c, _ | ⟨d, t⟩⟩⟩⟩
  · exact .inl fun r => hshort r (by simp)
  · exact .inl fun r => hshort r (by simp)
  · exact .inl fun r => hshort r (by simp)
  · exact .inl fun r => hshort r (by simp)
  · by_cases hx : (isXDigit a && isXDigit b && isXDigit c && isXDigit d) = true
    · refine .inr ⟨((hexVal a * 16 + hexVal b) * 16 + hexVal c) * 16 + hexVal d, t,
        ⟨[a, b, c, d], rfl⟩, fun r => ?_⟩
      simp [uToVal, hx]
    · refine .inl fun r => ?_
      simp [uToVal, hx]

theorem uProc_quote (w1 : Option Nat) (t : Text) :
    (∀ r, uProc w1 (t ++ chr '"' :: r) = none) ∨
      ∃ octets w1' t', t' <:+ t ∧
        ∀ r, uProc w1 (t ++ chr '"' :: r) = some (octets, w1', t' ++ chr '"' :: r) := by
  rcases uToVal_quote t with hnone | ⟨val, t', hsuf, hsome⟩
  · refine .inl fun r => ?_
    rw [uProc, hnone]
  -- the rest is about the value alone
  · cases w1 with
    | some w =>
        by_cases hsecond : val ≥ 0xe000 ∨ val < 0xdc00
        · refine .inl fun r => ?_
          simp only [uProc, hsome, if_pos hsecond]
        · refine .inr ⟨codeOctets (w * 0x400 + (val - 0xdc00) + 0x10000), none, t', hsuf, fun r => ?_⟩
          simp only [uProc, hsome, if_neg hsecond]
    | none =>
        by_cases hplane : val < 0xd800 ∨ val ≥ 0xe000
        · refine .inr ⟨codeOctets val, none, t', hsuf, fun r => ?_⟩
          simp only [uProc, hsome, if_pos hplane]
        · by_cases hfirst : val < 0xdc00
          · refine .inr ⟨[], some (val - 0xd800), t', hsuf, fun r => ?_⟩
            simp only [uProc, hsome, if_neg hplane, if_pos hfirst]
          · refine .inl fun r => ?_
            simp only [uProc, hsome, if_neg hplane, if_neg hfirst]

/-- The octets that follow the first one are there, or the quotation mark comes too early. -/
theorem checkUTF8_quote (c : UInt8) (t : Text) :
    (∀ r, checkUTF8 (c :: (t ++ chr '"' :: r)) = none) ∨
      ∃ octets t', t' <:+ t ∧
        ∀ r, checkUTF8 (c :: (t ++ chr '"' :: r)) = some (octets, t' ++ chr '"' :: r) := by
  have hquote : isCont (chr '"') = false := by decide
  by_cases hcont : isCont c = true
  · refine .inl fun r => ?_
    simp [checkUTF8, hcont]
  · by_cases hlen : contCount c ≤ t.length
    · have htake : ∀ r, (t ++ chr '"' :: r).take (contCount c) = t.take (contCount c) :=
        fun r => List.take_append_of_le_length hlen
      by_cases hall : (t.take (contCount c)).all isCont = true
      · refine .inr ⟨c :: t.take (contCount c), t.drop (contCount c), List.drop_suffix _ _, fun r => ?_⟩
        have hdrop : (t ++ chr '"' :: r).drop (contCount c) = t.drop (contCount c) ++ chr '"' :: r :=
          List.drop_append_of_le_length hlen
        rw [checkUTF8, peek_cons, if_neg hcont, List.tail_cons]
        simp only [htake, hall, List.take_succ_cons, List.drop_succ_cons, hdrop]
        rw [if_neg]
        simp only [List.length_append, Bool.not_true, Bool.false_eq_true, or_false]
        omega
      · refine .inl fun r => ?_
        rw [checkUTF8, peek_cons, if_neg hcont, List.tail_cons]
        simp [htake, hall]
    · refine .inl fun r => ?_
      -- the quotation mark stands among the octets
      have hmem : chr '"' ∈ (t ++ chr '"' :: r).take (contCount c) := by
        rw [List.take_append, List.mem_append]
        refine .inr ?_
        obtain ⟨n, hn⟩ := Nat.exists_eq_add_of_lt (Nat.lt_of_not_le hlen)
        have hsub : contCount c - t.length = n + 1 := by omega
        rw [hsub, List.take_succ_cons]
        exact List.mem_cons_self
      have hall : ((t ++ chr '"' :: r).take (contCount c)).all isCont = false := by
        rw [List.all_eq_false]
        exact ⟨_, hmem, by simp [hquote]⟩
      rw [checkUTF8, peek_cons, if_neg hcont, List.tail_cons]
      simp [hall]

theorem getStrLoop_backslash {e : UInt8} (he : e ≠ 0) (w1 : Option Nat) (ret r : Text) :
    getStrLoop w1 ret (chr '\\' :: e :: r) =
      if w1.isSome ∧ e ≠ chr 'u' then none
      else if e = chr 'u' then (uProc w1 r).bind fun x => getStrLoop x.2.1 (ret ++ x.1) x.2.2
      else (unescape e).bind fun c => getStrLoop w1 (ret ++ [c]) r := by
  have h0 : chr '\\' ≠ 0 := by decide
  have hq : chr '\\' ≠ chr '"' := by decide
  rw [getStrLoop_some (isEOF_cons h0 _), peek_cons, if_neg (by simp), if_neg hq, if_pos rfl, List.tail_cons,
    isEOF_cons he]
  rfl

theorem getStrLoop_other {c : UInt8} (hc : c ≠ 0) (hq : c ≠ chr '"') (hb : c ≠ chr '\\') (w1 : Option Nat)
    (ret r : Text) :
    getStrLoop w1 ret (c :: r) =
      if w1.isSome then none else (checkUTF8 (c :: r)).bind fun x => getStrLoop w1 (ret ++ x.1) x.2 := by
  rw [getStrLoop_some (isEOF_cons hc r), peek_cons, if_neg hq, if_neg hb]
  simp [hb]

/-- The quotation mark behind a reverse solidus is taken for one of the text. -/
theorem broken_backslash (w1 : Option Nat) : Broken w1 [chr '\\'] := by
  have h0 : chr '"' ≠ 0 := by decide
  have hu : chr '"' ≠ chr 'u' := by decide
  have hun : unescape (chr '"') = some (chr '"') := by decide
  intro useComments r hr ret x hx
  have hloop := getStrLoop_backslash h0 w1 ret r
  rw [if_neg hu, hun, Option.bind_some] at hloop
  cases w1 with
  | some w =>
      rw [if_pos ⟨rfl, hu⟩] at hloop
      rw [List.singleton_append, hloop] at hx
      cases hx
  | none =>
      rw [if_neg (by simp)] at hloop
      rw [List.singleton_append, hloop] at hx
      exact hr _ x hx

/-- A text without a quotation mark ends where it should, or it is broken or runs on. -/
theorem ending_or_broken (n : Nat) {t : Text} (hlen : t.length ≤ n) (hplain : Plain t) (hquote : chr '"' ∉ t)
    (w1 : Option Nat) : Ending w1 t ∨ Broken w1 t := by
  have h0 : chr '"' ≠ 0 := by decide
  have hbs : chr '"' ≠ chr '\\' := by decide
  induction n using Nat.strong_induction_on generalizing t w1 with
  | _ n ih =>
      -- what is left of the text is shorter
      have hrest : ∀ {t' : Text} (w1' : Option Nat), t' <:+ t → t'.length < t.length →
          Ending w1' t' ∨ Broken w1' t' := by
        intro t' w1' hsuf hlt
        exact ih t'.length (by omega) (Nat.le_refl _) (hplain.of_suffix hsuf)
          (fun hmem => hquote (hsuf.subset hmem)) w1'
      -- a step of the loop that takes the same octets whatever follows
      have hstep : ∀ (octets : Text) (w1' : Option Nat) {t' : Text}, t' <:+ t → t'.length < t.length →
          (∀ ret r, getStrLoop w1 ret (t ++ chr '"' :: r) =
            getStrLoop w1' (ret ++ octets) (t' ++ chr '"' :: r)) → Ending w1 t ∨ Broken w1 t := by
        intro octets w1' t' hsuf hlt hloop
        rcases hrest w1' hsuf hlt with ⟨val, hval⟩ | hbroken
        · refine .inl ⟨octets ++ val, fun ret r => ?_⟩
          rw [hloop, hval, List.append_assoc]
        · refine .inr fun useComments r hr ret x hx => ?_
          rw [hloop] at hx
          exact hbroken useComments r hr _ x hx
      have hfail : (∀ ret r, getStrLoop w1 ret (t ++ chr '"' :: r) = none) → Ending w1 t ∨ Broken w1 t := by
        intro hnone
        refine .inr fun useComments r _ ret x hx => ?_
        rw [hnone] at hx
        cases hx
      cases t with
      | nil =>
          cases w1 with
          | none =>
              refine .inl ⟨[], fun ret r => ?_⟩
              rw [List.nil_append, getStrLoop_quote (isEOF_cons h0 r) rfl rfl, List.append_nil]
              rfl
          | some w =>
              refine hfail fun ret r => ?_
              rw [List.nil_append, getStrLoop_some (isEOF_cons h0 r), if_pos]
              exact ⟨rfl, hbs⟩
      | cons c t =>
          have hc : c ≠ 0 := hplain c List.mem_cons_self
          have hcq : c ≠ chr '"' := fun heq => hquote (heq ▸ List.mem_cons_self)
          by_cases hesc : c = chr '\\'
          · subst hesc
            cases t with
            | nil => exact .inr (broken_backslash w1)
            | cons e t =>
                have hloop := fun ret r => getStrLoop_backslash (hplain e (by simp)) w1 ret (t ++ chr '"' :: r)
                have hsuf : ∀ {t' : Text}, t' <:+ t → t' <:+ chr '\\' :: e :: t :=
                  fun ht' => ht'.trans ⟨[chr '\\', e], rfl⟩
                have hlt : ∀ {t' : Text}, t' <:+ t → t'.length < (chr '\\' :: e :: t).length := by
                  intro t' ht'
                  have := ht'.length_le
                  simp only [List.length_cons]
                  omega
                by_cases hu : e = chr 'u'
                · simp only [hu, ne_eq, not_true, and_false, if_false, if_true] at hloop
                  rcases uProc_quote w1 t with hnone | ⟨octets, w1', t', ht', hsome⟩
                  · refine hfail fun ret r => ?_
                    rw [hu]
                    exact (hloop ret r).trans (by rw [hnone]; rfl)
                  · refine hstep octets w1' (hsuf ht') (hlt ht') fun ret r => ?_
                    rw [hu]
                    exact (hloop ret r).trans (by rw [hsome]; rfl)
                · cases w1 with
                  | some w =>
                      refine hfail fun ret r => (hloop ret r).trans ?_
                      rw [if_pos ⟨rfl, hu⟩]
                  | none =>
                      simp only [Option.isSome_none, Bool.false_eq_true, false_and, if_false, if_neg hu] at hloop
                      rcases hun : unescape e with _ | d
                      · exact hfail fun ret r => (hloop ret r).trans (by rw [hun]; rfl)
                      · exact hstep [d] none (hsuf (List.suffix_refl t)) (hlt (List.suffix_refl t))
                          fun ret r => (hloop ret r).trans (by rw [hun]; rfl)
          · have hloop := fun ret r => getStrLoop_other hc hcq hesc w1 ret (t ++ chr '"' :: r)
            cases w1 with
            | some w => exact hfail fun ret r => (hloop ret r).trans (if_pos rfl)
            | none =>
                simp only [Option.isSome_none, Bool.false_eq_true, if_false] at hloop
                rcases checkUTF8_quote c t with hnone | ⟨octets, t', ht', hsome⟩
                · exact hfail fun ret r => (hloop ret r).trans (by rw [hnone]; rfl)
                · refine hstep octets none (ht'.trans (List.suffix_cons c t)) ?_
                    fun ret r => (hloop ret r).trans (by rw [hsome]; rfl)
                  exact Nat.lt_succ_of_le ht'.length_le

/-! ## What is left of a text -/

/-- What `parseBuffer` takes of a text. -/
def cut (s : Text) : Text := s.takeWhile (· ≠ 0)

theorem cut_append {t : Text} (h : Plain t) (r : Text) : cut (t ++ r) = t ++ cut r :=
  List.takeWhile_append_of_pos fun c hc => by simpa using h c hc

theorem cut_of_not_plain {t : Text} (h : ¬ Plain t) (r : Text) : cut (t ++ r) = cut t := by
  have hlen : (t.takeWhile (· ≠ 0)).length ≠ t.length := by
    intro hlen
    have hall := List.takeWhile_eq_self_iff.1 ((List.takeWhile_prefix _).eq_of_length hlen)
    exact h fun c hc => by simpa using hall c hc
  rw [cut, List.takeWhile_append, if_neg hlen, cut]

theorem cut_subset (t : Text) : cut t ⊆ t := (List.takeWhile_prefix _).subset

/-- What may stand behind a value. -/
structure Tail (r : Text) : Prop where
  ends : Ends (cut r)
  runsOn : ∀ useComments, RunsOn useComments (cut r)

/-- No value is read from the text, or what comes next may follow no value. -/
def Stuck (t : Text) : Prop :=
  ∀ (useComments : Bool) (w : Text), Spaces w → ∃ N, ∀ n ≥ N, ∀ x,
    parserVal useComments n (getToken useComments (w ++ t)).1 (getToken useComments (w ++ t)).2 = some x →
      Astray useComments x.2

theorem Closes.of_ending {t : Text} (hplain : Plain t) (h : Ending none t) : Closes t := by
  obtain ⟨val, hval⟩ := h
  exact StrText.closes ⟨hplain, fun r => by rw [hval, List.nil_append]⟩

theorem stuck_str {t : Text} (hquote : chr '"' ∉ t) (hopen : ¬ Closes t) {r : Text} (hr : Tail r) :
    Stuck (cut (quote t ++ r)) := by
  intro useComments w hw
  refine ⟨0, fun n _ x hx => ?_⟩
  have hq : Plain [chr '"'] := by decide
  have hcut : cut (quote t ++ r) = chr '"' :: cut (t ++ chr '"' :: r) := by
    have := cut_append hq (t ++ chr '"' :: r)
    simpa [quote] using this
  have htk : charToken (chr '"') = .str := by decide
  rw [hcut, getToken_append hw, getToken_char (by decide), htk] at hx
  cases n with
  | zero => cases hx
  | succ n =>
      simp only [parserVal, getStr, List.tail_cons, Option.map_eq_some_iff] at hx
      obtain ⟨⟨val, cur⟩, hscan, rfl⟩ := hx
      by_cases hplain : Plain t
      · rw [cut_append hplain] at hscan
        have hrest : cut (chr '"' :: r) = chr '"' :: cut r := cut_append hq r
        rw [hrest] at hscan
        rcases ending_or_broken t.length (Nat.le_refl _) hplain hquote none with hending | hbroken
        · exact absurd (Closes.of_ending hplain hending) hopen
        · exact hbroken useComments _ (hr.runsOn useComments) _ _ hscan
      · rw [cut_of_not_plain hplain] at hscan
        have hmem := (getStrLoop_suffix hscan).subset List.mem_cons_self
        exact absurd (cut_subset t hmem) hquote

theorem getNum_minus_letter {c : UInt8} (hc : isLower c = true) (he : c ≠ chr 'e') (r : Text) :
    getNum (chr '-' :: c :: r) = none := by
  obtain ⟨h0, hdelim, hdigit, hE, hdot, hplus, hminus⟩ : c ≠ 0 ∧ isDelim c = false ∧ isDigit c = false ∧
      c ≠ chr 'E' ∧ c ≠ chr '.' ∧ c ≠ chr '+' ∧ c ≠ chr '-' := by
    obtain ⟨d, rfl⟩ := exists_lower hc
    clear hc he
    revert d
    decide
  have hnext : ∀ st : NumState, st.next c = none := by
    intro st
    simp [NumState.next, he, hE, hdot, hplus, hminus, hdigit]
  have hm0 : chr '-' ≠ 0 := by decide
  have hmz : chr '-' ≠ chr '0' := by decide
  rw [getNum, isEOF_cons hm0]
  simp only [peek_cons, List.tail_cons, NumState.first, if_neg hmz, if_true, isEOF_cons h0]
  rw [getNumLoop_some (isEOF_cons h0 r)]
  simp [hdelim, hnext]

/-- A float that is no number. -/
theorem stuck_noNum {t : Text} (h : isNoNum t) {r : Text} (hr : Tail r) : Stuck (cut (t ++ r)) := by
  obtain ⟨neg, nan, rfl⟩ := h
  intro useComments w hw
  refine ⟨1, fun n hn x hx => ?_⟩
  obtain ⟨n, rfl⟩ := Nat.exists_eq_add_of_le' hn
  have hplain : ∀ neg nan : Bool, Plain (sign neg ++ if nan then txt "nan" else txt "inf") := by decide
  rw [cut_append (hplain neg nan), getToken_append hw] at hx
  cases neg with
  | false =>
      -- a word that is no keyword
      have hname : ∀ nan : Bool, (if nan then txt "nan" else txt "inf") ≠ [] ∧
          (if nan then txt "nan" else txt "inf").all isLower = true ∧
          keyToken (if nan then txt "nan" else txt "inf") = .inv := by decide
      obtain ⟨hne, hlower, hinv⟩ := hname nan
      have hsign : sign false = [] := rfl
      rw [hsign, List.nil_append, getToken_key hne (List.all_eq_true.1 hlower) hr.ends, hinv] at hx
      cases hx
  | true =>
      -- no digit behind the minus
      have hname : ∃ c cs, (if nan then txt "nan" else txt "inf") = c :: cs ∧ isLower c = true ∧ c ≠ chr 'e' := by
        cases nan
        · exact ⟨chr 'i', txt "nf", by decide, by decide, by decide⟩
        · exact ⟨chr 'n', txt "an", by decide, by decide, by decide⟩
      obtain ⟨c, cs, hcs, hc, he⟩ := hname
      have hsign : sign true = [chr '-'] := rfl
      have h0 : chr '-' ≠ 0 := by decide
      have htk : charToken (chr '-') = .num := by decide
      rw [hsign, hcs, List.cons_append, List.cons_append, List.nil_append, getToken_char (by decide), htk] at hx
      simp only [parserVal, List.cons_append, getNum_minus_letter hc he, Option.map_none] at hx
      cases hx

/-! ## Documents -/

def NoQuote (t : Text) : Prop := chr '"' ∉ t

def NumOrName (t : Text) (dotLoc : Nat) : Prop := IsNum t dotLoc ∨ isNoNum t

/-- What stands between the strings. -/
theorem lines_self (col : Nat) : (chr '\n' :: spaces col).all isSelf = true := by
  have hspace : isSelf (chr ' ') = true := by decide
  have hline : isSelf (chr '\n') = true := by decide
  rw [List.all_cons, hline, spaces, List.all_replicate]
  simp [hspace]

theorem plain_isSelf {t : Text} (h : t.all isSelf = true) : Plain t :=
  fun c hc => (isSelf_spec (List.all_eq_true.1 h c hc)).1

/-- White space, commas and brackets stand behind a value. -/
theorem tail_lines {w r : Text} (hne : w ≠ []) (hdelim : isDelim (peek w) = true) (hw : w.all isSelf = true)
    (h : ∀ useComments, RunsOn useComments (cut r)) : Tail (w ++ r) := by
  have hcut : cut (w ++ r) = w ++ cut r := cut_append (plain_isSelf hw) r
  refine ⟨?_, fun useComments => ?_⟩
  · rw [hcut]
    cases w with
    | nil => exact absurd rfl hne
    | cons c w => exact ends_cons hdelim (plain_isSelf hw c List.mem_cons_self) _
  · rw [hcut]
    exact (h useComments).append hw

theorem name_word {name : String} (h : isName name = true) : ∃ c cs, txt name = c :: cs ∧ isWord c = true := by
  rw [isName, Bool.and_eq_true] at h
  cases hname : txt name with
  | nil =>
      rw [hname] at h
      exact absurd h.2 (by decide)
  | cons c cs =>
      rw [hname, List.all_cons, Bool.and_eq_true] at h
      exact ⟨c, cs, rfl, h.1.1⟩

/-- A string that starts with a word stops the string before it. -/
theorem runsOn_quote {t : Text} (h : isWord (peek t) = true) (useComments : Bool) (r : Text) :
    RunsOn useComments (cut (quote t ++ r)) := by
  have hq : Plain [chr '"'] := by decide
  cases t with
  | nil => exact absurd h (by decide)
  | cons c t =>
      have hc : Plain [c] := by
        intro d hd
        rw [List.mem_singleton.1 hd]
        exact (isWord_spec h).1
      have hcut : cut (quote (c :: t) ++ r) = chr '"' :: c :: cut (t ++ [chr '"'] ++ r) := by
        have h1 := cut_append hq (c :: (t ++ [chr '"'] ++ r))
        have h2 := cut_append hc (t ++ [chr '"'] ++ r)
        simp only [List.singleton_append] at h1 h2
        rw [quote, List.cons_append, List.cons_append, List.cons_append, h1, h2]
      rw [hcut]
      exact runsOn_word h useComments _

theorem comma_self (col : Nat) (first : Bool) : (comma first ++ spaces col).all isSelf = true := by
  have hcomma : isSelf (chr ',') = true := by decide
  have hlines := lines_self col
  cases first with
  | true => exact hlines
  | false =>
      rw [comma, if_neg (by simp), List.cons_append, List.all_cons, hcomma]
      exact hlines

theorem comma_delim (col : Nat) (first : Bool) : isDelim (peek (comma first ++ spaces col)) = true := by
  cases first <;> exact rfl

theorem comma_ne_nil (col : Nat) (first : Bool) : comma first ++ spaces col ≠ [] := by
  cases first <;> simp [comma]

/-- A member opens with its name. -/
theorem tail_members (col : Nat) (first : Bool) {ms : List (String × Doc)} (hnamed : MembersNamed ms) {r : Text}
    (hr : Tail r) : Tail (membersText col first ms ++ r) := by
  cases ms with
  | nil => exact hr
  | cons m ms =>
      obtain ⟨name, d⟩ := m
      obtain ⟨c, cs, hname, hc⟩ := name_word hnamed.1
      have hword : isWord (peek (txt name)) = true := by
        rw [hname]
        exact hc
      have htail := tail_lines (comma_ne_nil col first) (comma_delim col first) (comma_self col first)
        fun useComments => runsOn_quote hword useComments
          (txt " :" ++ d.lead col ++ d.text col ++ membersText col false ms ++ r)
      simpa [membersText] using htail

theorem closing_self (col : Nat) {c : UInt8} (hc : isSelf c = true) :
    (chr '\n' :: (spaces col ++ [c])).all isSelf = true := by
  rw [← List.cons_append, List.all_append, lines_self, List.all_cons, hc]
  rfl

/-- A bracket closes behind the members. -/
theorem tail_closing (col : Nat) {c : UInt8} (hc : isSelf c = true) {r : Text} (hr : Tail r) :
    Tail (chr '\n' :: (spaces col ++ [c]) ++ r) :=
  tail_lines (by simp) rfl (closing_self col hc) hr.runsOn

theorem tail_elements (col : Nat) (first : Bool) {ds : List Doc} (hnamed : ElementsNamed ds) {r : Text}
    (hr : Tail r) : Tail (elementsText col first ds ++ r) := by
  induction ds generalizing first with
  | nil => exact hr
  | cons d ds ih =>
      have hrest := ih false hnamed.2.2
      have htail := fun h => tail_lines (r := d.text col ++ elementsText col false ds ++ r) (comma_ne_nil col first)
        (comma_delim col first) (comma_self col first) h
      rw [elementsText]
      simp only [List.append_assoc] at htail ⊢
      refine htail fun useComments => ?_
      cases d with
      | obj ms =>
          have hcurly : isSelf rightCurly = true := by decide
          have hopen : ([leftCurly]).all isSelf = true := by decide
          have hmembers : Tail (membersText (col + 2) true ms ++ _) :=
            tail_members (col + 2) true hnamed.2.1 (tail_closing col hcurly hrest)
          have hruns := (hmembers.runsOn useComments).append hopen
          rw [← cut_append (plain_isSelf hopen)] at hruns
          simpa [Doc.text] using hruns
      | str t => exact runsOn_quote hnamed.1 useComments _
      | num t dotLoc => exact absurd hnamed.1 id
      | bool b => exact absurd hnamed.1 id
      | arr ds => exact absurd hnamed.1 id

/-! ## The parser -/

/-- What stands before the value of a member. -/
def nameText (col : Nat) (name : String) (d : Doc) : Text :=
  comma true ++ spaces col ++ quote (txt name) ++ txt " :" ++ d.lead col

theorem plain_nameText (col : Nat) {name : String} (hname : isName name = true) (d : Doc) :
    Plain (nameText col name d) := by
  have hcolon : Plain (txt " :") := by decide
  intro c hc
  simp only [nameText, List.mem_append] at hc
  rcases hc with (((hc | hc) | hc) | hc) | hc
  · exact plain_isSelf (comma_self col true) c (List.mem_append_left _ hc)
  · exact plain_isSelf (comma_self col true) c (List.mem_append_right _ hc)
  · exact (strText_name hname).plain_quote c hc
  · exact hcolon c hc
  · exact (spaces_lead col d).plain c hc

theorem getToken_name (col : Nat) (name : String) (useComments : Bool) (t : Text) :
    getToken useComments (comma true ++ spaces col ++ quote (txt name) ++ t) =
      (.str, quote (txt name) ++ t) := by
  have hlines : Spaces (comma true ++ spaces col) := spaces_newline col
  rw [List.append_assoc, getToken_append hlines, quote, List.cons_append, getToken_char (by decide)]
  rfl

/-- Nothing is read of an object with such a member. -/
theorem parserMembers_stuck (col : Nat) {name : String} (hname : isName name = true) (d : Doc) {t : Text}
    (ht : Stuck t) (useComments : Bool) (members : List (Text × Value)) :
    ∃ N, ∀ n ≥ N, parserMembers useComments (n + 1) members (nameText col name d ++ t) = none := by
  obtain ⟨N, hN⟩ := ht useComments (d.lead col) (spaces_lead col d)
  refine ⟨N, fun n hn => ?_⟩
  have hval := hN n hn
  have htext : nameText col name d ++ t =
      comma true ++ spaces col ++ quote (txt name) ++ (chr ' ' :: chr ':' :: (d.lead col ++ t)) := by
    have hcolon : txt " :" = [chr ' ', chr ':'] := by decide
    simp [nameText, hcolon]
  have hcolon : getToken useComments (chr ' ' :: chr ':' :: (d.lead col ++ t)) =
      (.namSep, chr ':' :: (d.lead col ++ t)) := by
    rw [← List.singleton_append, getToken_append spaces_space, getToken_char (by decide)]
    rfl
  rw [htext, parserMembers]
  simp only [getToken_name, (strText_name hname).getStr, hcolon, List.tail_cons, ne_eq, not_true, if_false]
  cases hparse : parserVal useComments n (getToken useComments (d.lead col ++ t)).1
      (getToken useComments (d.lead col ++ t)).2 with
  | none => rfl
  | some x =>
      -- the value is read, and what comes next is none of its object
      have hfollows := hval x hparse
      rw [Astray] at hfollows
      simp only
      rw [if_neg, if_neg]
      · intro hsep
        rw [hsep] at hfollows
        cases hfollows
      · intro hend
        rw [hend] at hfollows
        cases hfollows

theorem parserElements_stuck {w : Text} (hw : Spaces w) {t : Text} (ht : Stuck t) (useComments : Bool)
    (elements : List Value) :
    ∃ N, ∀ n ≥ N, parserElements useComments (n + 1) elements (getToken useComments (w ++ t)).1
      (getToken useComments (w ++ t)).2 = none := by
  obtain ⟨N, hN⟩ := ht useComments w hw
  refine ⟨N, fun n hn => ?_⟩
  rw [parserElements]
  cases hparse : parserVal useComments n (getToken useComments (w ++ t)).1 (getToken useComments (w ++ t)).2 with
  | none => rfl
  | some x =>
      have hfollows := hN n hn x hparse
      rw [Astray] at hfollows
      simp only
      rw [if_neg, if_neg]
      · intro hsep
        rw [hsep] at hfollows
        cases hfollows
      · intro hend
        rw [hend] at hfollows
        cases hfollows

/-- One element, and what comes after the comma. -/
theorem parserElements_element {t : Text} {v : Value} (ht : Reads t v) {w : Text} (hw : Spaces w)
    (useComments : Bool) (elements : List Value) (r : Text) :
    ∃ N, ∀ n ≥ N, parserElements useComments (n + 1) elements
        (getToken useComments (w ++ t ++ chr ',' :: r)).1 (getToken useComments (w ++ t ++ chr ',' :: r)).2 =
      parserElements useComments n (elements ++ [v]) (getToken useComments r).1 (getToken useComments r).2 := by
  have hend : Ends (chr ',' :: r) := ends_cons (by decide) (by decide) r
  obtain ⟨N, hN⟩ := ht useComments w (chr ',' :: r) hw hend
  refine ⟨N, fun n hn => ?_⟩
  have htk : charToken (chr ',') = .valSep := by decide
  rw [parserElements, hN n hn]
  simp [getToken_char, htk]

theorem membersText_cons (col : Nat) (name : String) (d : Doc) (ms : List (String × Doc)) :
    membersText col true ((name, d) :: ms) = nameText col name d ++ (d.text col ++ membersText col false ms) := by
  simp [membersText, nameText]

theorem elementsText_cons (col : Nat) (d : Doc) (ds : List Doc) :
    elementsText col true (d :: ds) = chr '\n' :: spaces col ++ (d.text col ++ elementsText col false ds) := by
  simp [elementsText, comma]

theorem getToken_members (col : Nat) {ms : List (String × Doc)} (hne : ms ≠ []) (hnamed : MembersNamed ms)
    (useComments : Bool) (r : Text) :
    (getToken useComments (cut (membersText col true ms ++ r))).1 = .str := by
  cases ms with
  | nil => exact absurd rfl hne
  | cons m ms =>
      obtain ⟨name, d⟩ := m
      have htk := getToken_name col name useComments
        (txt " :" ++ d.lead col ++ cut (d.text col ++ membersText col false ms ++ r))
      have hcut := cut_append (plain_nameText col hnamed.1 d) (d.text col ++ membersText col false ms ++ r)
      rw [membersText_cons]
      simp only [nameText, List.append_assoc] at hcut htk ⊢
      rw [hcut, htk]

theorem parserVal_arrSta (useComments : Bool) (n : Nat) (cur : Text) :
    parserVal useComments (n + 1) .arrSta cur =
      if (getToken useComments cur.tail).1 = .arrEnd then some (.arr [], (getToken useComments cur.tail).2.tail)
      else parserElements useComments n [] (getToken useComments cur.tail).1 (getToken useComments cur.tail).2 :=
  rfl

theorem getToken_elements (col : Nat) {ds : List Doc} (hne : ds ≠ []) (hnamed : ElementsNamed ds)
    (useComments : Bool) (r : Text) :
    (getToken useComments (cut (elementsText col true ds ++ r))).1 ≠ .arrEnd := by
  cases ds with
  | nil => exact absurd rfl hne
  | cons d ds =>
      have hcut := cut_append (spaces_newline col).plain (d.text col ++ (elementsText col false ds ++ r))
      rw [elementsText_cons, List.append_assoc, List.append_assoc, hcut, getToken_append (spaces_newline col)]
      have hfirst : ∀ {c : UInt8} (t : Text), charToken c ≠ .inv → charToken c ≠ .arrEnd →
          (getToken useComments (cut ([c] ++ t))).1 ≠ .arrEnd := by
        intro c t hinv hend
        have hplain : Plain [c] := by
          intro d hd h0
          rw [List.mem_singleton.1 hd] at h0
          rw [h0] at hinv
          exact hinv (by decide)
        rw [cut_append hplain, List.singleton_append, getToken_char hinv]
        exact hend
      cases d with
      | obj ms =>
          rw [Doc.text, List.cons_append]
          exact hfirst _ (by decide) (by decide)
      | str t =>
          rw [Doc.text, quote, List.cons_append]
          exact hfirst _ (by decide) (by decide)
      | num t dotLoc => exact absurd hnamed.1 id
      | bool b => exact absurd hnamed.1 id
      | arr ds => exact absurd hnamed.1 id

mutual

/-- **A document that is not good is not read**, or it leaves the parser astray. -/
theorem Doc.stuck : (d : Doc) → d.Named → d.All NoQuote NumOrName → ¬ d.Good → (col : Nat) → {r : Text} →
    Tail r → Stuck (cut (d.text col ++ r))
  | .num t dotLoc, _, hall, hbad, col, r, hr => by
      rw [Doc.text]
      rcases hall with hnum | hname
      · exact absurd hnum hbad
      · exact stuck_noNum hname hr
  | .bool b, _, _, hbad, _, _, _ => absurd trivial hbad
  | .str t, _, hall, hbad, col, r, hr => by
      rw [Doc.text]
      exact stuck_str hall hbad hr
  | .obj ms, hnamed, hall, hbad, col, r, hr => by
      intro useComments w hw
      have hcurly : isSelf rightCurly = true := by decide
      obtain ⟨N, hN⟩ := membersText_stuck ms hnamed hall hbad (col + 2) (tail_closing col hcurly hr) useComments []
      refine ⟨N + 1, fun n hn x hx => ?_⟩
      obtain ⟨n, rfl⟩ := Nat.exists_eq_add_of_le' (Nat.le_of_add_left_le hn)
      have hne : ms ≠ [] := by
        rintro rfl
        exact hbad trivial
      have hopen : Plain [leftCurly] := by decide
      have htext : cut ((Doc.obj ms).text col ++ r) =
          leftCurly :: cut (membersText (col + 2) true ms ++ (chr '\n' :: (spaces col ++ [rightCurly]) ++ r)) := by
        have := cut_append hopen (membersText (col + 2) true ms ++ (chr '\n' :: (spaces col ++ [rightCurly]) ++ r))
        rw [Doc.text]
        simpa using this
      -- the opening bracket is read, and what stands behind it is not
      have hnone := hN n (by omega)
      have hstr := getToken_members (col + 2) hne hnamed useComments
        (chr '\n' :: (spaces col ++ [rightCurly]) ++ r)
      rw [parserMembers_congr (getToken_again (by rw [hstr]; rfl)).symm] at hnone
      have htk : charToken leftCurly = .objSta := by decide
      rw [htext, getToken_append hw, getToken_char (by decide), htk, parserVal] at hx
      simp only [List.tail_cons, hstr] at hx
      rw [if_neg (by simp), hnone] at hx
      cases hx
  | .arr ds, hnamed, hall, hbad, col, r, hr => by
      intro useComments w hw
      have hsquare : isSelf (chr ']') = true := by decide
      obtain ⟨N, hN⟩ := elementsText_stuck ds hnamed hall hbad (col + 2) (tail_closing col hsquare hr) useComments []
      refine ⟨N + 1, fun n hn x hx => ?_⟩
      obtain ⟨n, rfl⟩ := Nat.exists_eq_add_of_le' (Nat.le_of_add_left_le hn)
      have hne : ds ≠ [] := by
        rintro rfl
        exact hbad trivial
      have hopen : Plain [chr '['] := by decide
      have htext : cut ((Doc.arr ds).text col ++ r) =
          chr '[' :: cut (elementsText (col + 2) true ds ++ (chr '\n' :: (spaces col ++ [chr ']']) ++ r)) := by
        have := cut_append hopen (elementsText (col + 2) true ds ++ (chr '\n' :: (spaces col ++ [chr ']']) ++ r))
        rw [Doc.text]
        simpa using this
      have hstart := getToken_elements (col + 2) hne hnamed useComments (chr '\n' :: (spaces col ++ [chr ']']) ++ r)
      have htk : charToken (chr '[') = .arrSta := by decide
      rw [htext, getToken_append hw, getToken_char (by decide), htk, parserVal_arrSta,
        List.tail_cons, if_neg hstart, hN n (by omega)] at hx
      cases hx

theorem membersText_stuck : (ms : List (String × Doc)) → MembersNamed ms → MembersAll NoQuote NumOrName ms →
    ¬ MembersGood ms → (col : Nat) → {r : Text} → Tail r → (useComments : Bool) →
    (members : List (Text × Value)) →
    ∃ N, ∀ n ≥ N, parserMembers useComments n members (cut (membersText col true ms ++ r)) = none
  | [], _, _, hbad, _, _, _, _, _ => absurd trivial hbad
  | (name, d) :: ms, hnamed, hall, hbad, col, r, hr, useComments, members => by
      by_cases hgood : d.Good
      · -- the member is read, and a comma stands behind it
        have hrest : ¬ MembersGood ms := fun h => hbad ⟨hgood, h⟩
        obtain ⟨N', hN'⟩ := membersText_stuck ms hnamed.2.2 hall.2 hrest col hr useComments
          (insertMember (txt name) d.value members)
        have hne : ms ≠ [] := by
          rintro rfl
          exact hrest trivial
        have hden := d.denotes hnamed.2.1 hgood col
        obtain ⟨N, hN⟩ := parserMembers_member (member_ok col hnamed.1 d spaces_nil) hden.reads (.inr rfl)
          useComments members (cut (membersText col true ms ++ r))
        refine ⟨N + N' + 1, fun n hn => ?_⟩
        obtain ⟨n, rfl⟩ := Nat.exists_eq_add_of_le' (Nat.le_of_add_left_le hn)
        have hstep := hN n (by omega)
        have hplain : Plain (nameText col name d ++ d.text col ++ [chr ',']) := by
          have hcomma : Plain [chr ','] := by decide
          intro c hc
          simp only [List.mem_append] at hc
          rcases hc with (hc | hc) | hc
          · exact plain_nameText col hnamed.1 d c hc
          · exact hden.plain c hc
          · exact hcomma c hc
        have htext : cut (membersText col true ((name, d) :: ms) ++ r) =
            (d.member col name []).render ++ chr ',' :: cut (membersText col true ms ++ r) := by
          have hcut := cut_append hplain (membersText col true ms ++ r)
          rw [membersText_cons, membersText_comma col hne, member_render]
          simp only [nameText, List.append_assoc, List.singleton_append, List.append_nil] at hcut ⊢
          simpa using hcut
        rw [htext, hstep, if_neg (by decide)]
        exact hN' n (by omega)
      · have htail := tail_members col false hnamed.2.2 hr
        obtain ⟨N, hN⟩ := parserMembers_stuck col hnamed.1 d (d.stuck hnamed.2.1 hall.1 hgood col htail)
          useComments members
        refine ⟨N + 1, fun n hn => ?_⟩
        obtain ⟨n, rfl⟩ := Nat.exists_eq_add_of_le' (Nat.le_of_add_left_le hn)
        have hcut := cut_append (plain_nameText col hnamed.1 d) (d.text col ++ (membersText col false ms ++ r))
        rw [membersText_cons, List.append_assoc, List.append_assoc, hcut]
        exact hN n (by omega)

theorem elementsText_stuck : (ds : List Doc) → ElementsNamed ds → ElementsAll NoQuote NumOrName ds →
    ¬ ElementsAll Closes IsNum ds → (col : Nat) → {r : Text} → Tail r → (useComments : Bool) →
    (elements : List Value) →
    ∃ N, ∀ n ≥ N, parserElements useComments n elements
      (getToken useComments (cut (elementsText col true ds ++ r))).1
      (getToken useComments (cut (elementsText col true ds ++ r))).2 = none
  | [], _, _, hbad, _, _, _, _, _ => absurd trivial hbad
  | d :: ds, hnamed, hall, hbad, col, r, hr, useComments, elements => by
      have hlines : Plain (chr '\n' :: spaces col) := (spaces_newline col).plain
      by_cases hgood : d.Good
      · have hrest : ¬ ElementsAll Closes IsNum ds := fun h => hbad ⟨hgood, h⟩
        obtain ⟨N', hN'⟩ := elementsText_stuck ds hnamed.2.2 hall.2 hrest col hr useComments (elements ++ [d.value])
        have hne : ds ≠ [] := by
          rintro rfl
          exact hrest trivial
        have hden := d.denotes hnamed.2.1 hgood col
        obtain ⟨N, hN⟩ := parserElements_element hden.reads (spaces_newline col) useComments elements
          (cut (elementsText col true ds ++ r))
        refine ⟨N + N' + 1, fun n hn => ?_⟩
        obtain ⟨n, rfl⟩ := Nat.exists_eq_add_of_le' (Nat.le_of_add_left_le hn)
        have hplain : Plain (chr '\n' :: spaces col ++ d.text col ++ [chr ',']) := by
          have hcomma : Plain [chr ','] := by decide
          intro c hc
          simp only [List.mem_append] at hc
          rcases hc with (hc | hc) | hc
          · exact hlines c hc
          · exact hden.plain c hc
          · exact hcomma c hc
        have htext : cut (elementsText col true (d :: ds) ++ r) =
            chr '\n' :: spaces col ++ d.text col ++ chr ',' :: cut (elementsText col true ds ++ r) := by
          have hcut := cut_append hplain (elementsText col true ds ++ r)
          rw [elementsText_cons, elementsText_comma col hne]
          simpa using hcut
        rw [htext, hN n (by omega)]
        exact hN' n (by omega)
      · have htail := tail_elements col false hnamed.2.2 hr
        obtain ⟨N, hN⟩ := parserElements_stuck (spaces_newline col) (d.stuck hnamed.2.1 hall.1 hgood col htail)
          useComments elements
        refine ⟨N + 1, fun n hn => ?_⟩
        obtain ⟨n, rfl⟩ := Nat.exists_eq_add_of_le' (Nat.le_of_add_left_le hn)
        have hcut := cut_append hlines (d.text col ++ (elementsText col false ds ++ r))
        rw [elementsText_cons, List.append_assoc, List.append_assoc, hcut]
        exact hN n (by omega)

end

/-! ## Buffers -/

/-- A buffer with an object that is not good is refused. -/
theorem parseBuffer_bad {ms : List (String × Doc)} (hnamed : MembersNamed ms)
    (hall : MembersAll NoQuote NumOrName ms) (hbad : ¬ MembersGood ms) (indent : Nat) (useComments : Bool) :
    parseBuffer useComments (spaces indent ++ (Doc.obj ms).text indent) = none := by
  have htail : Tail [] := ⟨.inl rfl, runsOn_nil⟩
  have hstuck := Doc.stuck (.obj ms) hnamed hall hbad indent htail useComments (spaces indent) (spaces_spec indent)
  rw [List.append_nil] at hstuck
  have hopen : ∃ t, (Doc.obj ms).text indent = leftCurly :: t := ⟨_, by rw [Doc.text]⟩
  obtain ⟨t, ht⟩ := hopen
  have hplain : Plain (spaces indent ++ [leftCurly]) := by
    intro c hc
    rcases List.mem_append.1 hc with hc | hc
    · exact (spaces_spec indent).plain c hc
    · rw [List.mem_singleton.1 hc]
      decide
  have hcut : cut ((Doc.obj ms).text indent) = leftCurly :: cut t := by
    have hcurly : Plain [leftCurly] := by decide
    rw [ht]
    exact cut_append hcurly t
  have hbuffer : (spaces indent ++ (Doc.obj ms).text indent).takeWhile (· ≠ 0) =
      spaces indent ++ cut ((Doc.obj ms).text indent) := cut_append (spaces_spec indent).plain _
  have hne : spaces indent ++ (Doc.obj ms).text indent ≠ [] := by simp [ht]
  have hbom : skipBOM (spaces indent ++ cut ((Doc.obj ms).text indent)) =
      spaces indent ++ cut ((Doc.obj ms).text indent) := by
    refine skipBOM_of_ne ?_
    rw [hcut]
    cases indent with
    | zero => exact (by decide : leftCurly ≠ 0xef)
    | succ indent => exact (by decide : chr ' ' ≠ 0xef)
  have htk : charToken leftCurly = .objSta := by decide
  rw [parseBuffer, if_neg hne, hbuffer, hbom, paresJson]
  generalize hcur : spaces indent ++ cut ((Doc.obj ms).text indent) = cur at hstuck ⊢
  have htoken : (getToken useComments cur).1 = .objSta := by
    rw [← hcur, hcut, getToken_append (spaces_spec indent), getToken_char (by decide), htk]
  -- the document has more fuel than the parser needs
  obtain ⟨N, hN⟩ := hstuck
  have hlen := getToken_length useComments cur
  have hfuel : parserVal useComments (N + (2 * cur.length + 2)) .objSta (getToken useComments cur).2 =
      parserVal useComments (2 * cur.length + 2) .objSta (getToken useComments cur).2 := by
    rw [← htoken]
    exact parserVal_fuel (getToken_ready useComments cur) (by omega) (by omega)
  simp only [htoken]
  rw [if_neg (by simp)]
  cases hparse : parserVal useComments (2 * cur.length + 2) .objSta (getToken useComments cur).2 with
  | none => rfl
  | some x =>
      have hfollows := hN (N + (2 * cur.length + 2)) (by omega) x (by rw [htoken, hfuel, hparse])
      rw [Astray] at hfollows
      simp only
      rw [if_neg]
      intro heof
      rw [heof] at hfollows
      cases hfollows

theorem noQuote_isSelf {t : Text} (h : t.all isSelf = true) : NoQuote t :=
  fun hmem => (isSelf_spec (List.all_eq_true.1 h _ hmem)).2.1 rfl

theorem fixed_noQuote : Fixed NoQuote NumOrName := ⟨noQuote_isSelf, .inl⟩

theorem double_numOrName (val : Float64) : NumOrName (decimalDouble val) (doubleDot val) := by
  by_cases hfin : finite val = true
  · exact .inl (double_isNum hfin)
  · exact .inr (double_isNoNum hfin)

/-! ## Messages -/

/-- Whether the text is JSON to the parser. -/
def Accepted (useComments : Bool) (buffer : Text) : Prop := (parseBuffer useComments buffer).isSome = true

/-- The texts close. -/
def TextsClose (ts : List Text) : Prop := ∀ t ∈ ts, Closes t

def FloatsFinite (fs : List Float64) : Prop := ∀ f ∈ fs, finite f = true

theorem msg2json_bad {mem : Option BaseMngTlv} {m : Message} (hquote : ∀ t ∈ messageTexts mem m, NoQuote t)
    (hbad : ¬ (TextsClose (messageTexts mem m) ∧ FloatsFinite (messageFloats m))) (indent : Nat)
    (useComments : Bool) : parseBuffer useComments (msg2json mem m indent) = none := by
  rw [msg2json_eq]
  refine parseBuffer_bad (messageMembers_named mem m) ?_ ?_ indent useComments
  · exact (messageMembers_all fixed_noQuote mem m).2 ⟨hquote, fun f _ => double_numOrName f⟩
  · intro hgood
    obtain ⟨htexts, hfloats⟩ := (messageMembers_all fixed_good mem m).1 hgood
    exact hbad ⟨htexts, fun f hf => (double_isNum_iff f).1 (hfloats f hf)⟩

theorem tlv2json_bad {managementId : MngVals} {tlv : Option BaseMngTlv}
    (hquote : ∀ t ∈ tlvTexts managementId tlv, NoQuote t) (hbad : ¬ TextsClose (tlvTexts managementId tlv))
    (indent : Nat) (useComments : Bool) : parseBuffer useComments (tlv2json managementId tlv indent) = none := by
  cases tlv with
  | none =>
      refine absurd (fun t ht => ?_) hbad
      rw [tlvTexts, optDataTexts, ite_self] at ht
      cases ht
  | some tlv =>
      by_cases hid : isEmpty managementId = true
      · refine absurd (fun t ht => ?_) hbad
        rw [tlvTexts, if_pos hid] at ht
        cases ht
      · rw [tlvTexts, if_neg hid, optDataTexts] at hquote hbad
        rw [tlv2json_eq (by simpa using hid)]
        refine parseBuffer_bad (dataMembers_named managementId tlv) ?_ ?_ indent useComments
        · exact (dataMembers_all fixed_noQuote managementId tlv).2 hquote
        · exact fun hgood => hbad ((dataMembers_all fixed_good managementId tlv).1 hgood)

/-- **What is printed is JSON when the texts close and the floats are numbers**, and only then, unless a text
    has a quotation mark of its own. -/
theorem json_accepted (mem : Option BaseMngTlv) (m : Message) (managementId : MngVals) (tlv : Option BaseMngTlv)
    (indent : Nat) (useComments : Bool) :
    ((TextsClose (messageTexts mem m) ∧ FloatsFinite (messageFloats m) →
        Accepted useComments (msg2json mem m indent)) ∧
      (Accepted useComments (msg2json mem m indent) →
        TextsClose (messageTexts mem m) ∧ FloatsFinite (messageFloats m) ∨
          ∃ t ∈ messageTexts mem m, chr '"' ∈ t)) ∧
    (TextsClose (tlvTexts managementId tlv) → Accepted useComments (tlv2json managementId tlv indent)) ∧
    (Accepted useComments (tlv2json managementId tlv indent) →
      TextsClose (tlvTexts managementId tlv) ∨ ∃ t ∈ tlvTexts managementId tlv, chr '"' ∈ t) := by
  refine ⟨⟨?_, ?_⟩, ?_, ?_⟩
  · rintro ⟨htexts, hfloats⟩
    obtain ⟨v, hv⟩ := msg2json_parseBuffer htexts hfloats indent useComments
    rw [Accepted, hv]
    rfl
  · intro haccepted
    by_contra hno
    simp only [not_or, not_exists, not_and] at hno
    rw [Accepted, msg2json_bad hno.2 (fun h => hno.1 h.1 h.2) indent useComments] at haccepted
    cases haccepted
  · intro htexts
    obtain ⟨v, hv⟩ := tlv2json_parseBuffer htexts indent useComments
    rw [Accepted, hv]
    rfl
  · intro haccepted
    by_contra hno
    simp only [not_or, not_exists, not_and] at hno
    rw [Accepted, tlv2json_bad hno.2 hno.1 indent useComments] at haccepted
    cases haccepted

/-! ## A reverse solidus -/

/-- A parse of a user description that is one reverse solidus. -/
def backslashParse : MsgProc where
  build := false
  cur := 0
  left := 2
  size := 0
  err := .tooSmall
  mem := fun i => if i = 0 then 1 else 0x5c
  reads := []
  writes := []
  stuck := false

theorem backslash_open : ¬ Closes [chr '\\'] := by
  have h0 : chr '"' ≠ 0 := by decide
  have hu : chr '"' ≠ chr 'u' := by decide
  have hun : unescape (chr '"') = some (chr '"') := by decide
  intro hcloses
  have hscan := hcloses.scan []
  have hloop := getStrLoop_backslash h0 none [] []
  have hend : getStrLoop none ([] ++ [chr '"']) [] = none := getStrLoop_none rfl
  rw [if_neg (by simp), if_neg hu, hun, Option.bind_some, hend] at hloop
  rw [List.singleton_append, hloop] at hscan
  cases hscan

/-- The parser of messages gives such a TLV, and no layout of it is JSON. -/
theorem backslash_not_accepted :
    ∃ tlv : Tlv .userDescription,
      (callTlvData .userDescription .wild backslashParse).1 = .ok ∧
      (callTlvData .userDescription .wild backslashParse).2.1 = .obj (.tlv .userDescription tlv) ∧
      ∀ indent useComments,
        ¬ Accepted useComments (tlv2json (.mng .userDescription) (some (.tlv .userDescription tlv)) indent) := by
  refine ⟨⟨⟨1, [chr '\\']⟩⟩, rfl, rfl, fun indent useComments haccepted => ?_⟩
  have htexts : tlvTexts (.mng .userDescription) (some (.tlv .userDescription ⟨⟨1, [chr '\\']⟩⟩)) =
      [[chr '\\']] := rfl
  have hquote : ∀ t ∈ tlvTexts (.mng .userDescription) (some (.tlv .userDescription ⟨⟨1, [chr '\\']⟩⟩)),
      NoQuote t := by
    rw [htexts]
    intro t ht
    rw [List.mem_singleton.1 ht]
    exact (by decide : chr '"' ∉ [chr '\\'])
  have hopen : ¬ TextsClose (tlvTexts (.mng .userDescription)
      (some (.tlv .userDescription ⟨⟨1, [chr '\\']⟩⟩))) := by
    rw [htexts]
    exact fun h => backslash_open (h _ (List.mem_singleton_self _))
  rw [Accepted, tlv2json_bad hquote hopen indent useComments] at haccepted
  cases haccepted

end PtpMgmt.Json
