import PtpMgmt.Json.Numbers

set_option autoImplicit false

/-! # The numbers that are scanned (`getNum`)

The grammar of JSON numbers, and the language of the scanner. They agree up to the exponent: the scanner
drops a plus sign without moving on, so it takes any number of them and a minus sign behind them, and it
refuses an exponent that starts with a zero. -/

namespace PtpMgmt.Json

/-! ## The grammar -/

/-- A digit other than zero. -/
def isDigit19 (c : UInt8) : Bool := isDigit c && c != chr '0'

def isExp (c : UInt8) : Bool := c == chr 'e' || c == chr 'E'

/-- The integer part: no zero leads other digits. -/
inductive IntPart : Text → Prop
  | zero : IntPart [chr '0']
  | digits {d : UInt8} {ds : Text} (hd : isDigit19 d = true) (hds : Digits ds) : IntPart (d :: ds)

/-- The fraction, with its dot, if there is one. -/
inductive FracPart : Text → Prop
  | none : FracPart []
  | some {d : UInt8} {ds : Text} (hd : isDigit d = true) (hds : Digits ds) :
      FracPart (chr '.' :: d :: ds)

/-- A number without an exponent. -/
inductive Mantissa : Text → Prop
  | pos {i f : Text} (hi : IntPart i) (hf : FracPart f) : Mantissa (i ++ f)
  | neg {i f : Text} (hi : IntPart i) (hf : FracPart f) : Mantissa (chr '-' :: (i ++ f))

/-- A number whose exponent, behind the letter, is as `E` says. -/
inductive Number (E : Text → Prop) : Text → Prop
  | plain {m : Text} (hm : Mantissa m) : Number E m
  | exp {m x : Text} {e : UInt8} (hm : Mantissa m) (he : isExp e = true) (hx : E x) :
      Number E (m ++ e :: x)

/-- The exponent of RFC 8259: one sign or none, and at least one digit. -/
inductive Exponent : Text → Prop
  | digits {d : UInt8} {ds : Text} (hd : isDigit d = true) (hds : Digits ds) : Exponent (d :: ds)
  | plus {d : UInt8} {ds : Text} (hd : isDigit d = true) (hds : Digits ds) : Exponent (chr '+' :: d :: ds)
  | minus {d : UInt8} {ds : Text} (hd : isDigit d = true) (hds : Digits ds) :
      Exponent (chr '-' :: d :: ds)

/-- A number of RFC 8259. -/
def RfcNumber (t : Text) : Prop := Number Exponent t

/-- The exponents that are scanned. -/
inductive ScanExponent : Text → Prop
  | digits {d : UInt8} {ds : Text} (hd : isDigit19 d = true) (hds : Digits ds) : ScanExponent (d :: ds)
  | minus {d : UInt8} {ds : Text} (hd : isDigit19 d = true) (hds : Digits ds) :
      ScanExponent (chr '-' :: d :: ds)
  | plus {x : Text} (hx : ScanExponent x) : ScanExponent (chr '+' :: x)

/-! ## Phases -/

/-- How far a number is. -/
inductive Phase
  | zero
  | int
  | dot
  | frac
  | exp
  | expSign
  | expDigits
deriving DecidableEq

namespace Phase

/-- The number may end here. -/
def done : Phase → Bool
  | .zero | .int | .frac | .expDigits => true
  | .dot | .exp | .expSign => false

/-- Behind the letter of an exponent. -/
def onExp : Phase → Option Phase
  | .zero | .int | .frac => some .exp
  | _ => none

def onDot : Phase → Option Phase
  | .zero | .int => some .dot
  | _ => none

/-- A plus sign leaves the scanner where it was. -/
def onPlus : Phase → Option Phase
  | .exp => some .exp
  | _ => none

def onMinus : Phase → Option Phase
  | .exp => some .expSign
  | _ => none

def onDigit (c : UInt8) : Phase → Option Phase
  | .zero => none
  | .int => some .int
  | .dot | .frac => some .frac
  | .exp | .expSign => if c = chr '0' then none else some .expDigits
  | .expDigits => some .expDigits

def next (ph : Phase) (c : UInt8) : Option Phase :=
  if isExp c then ph.onExp
  else if c = chr '.' then ph.onDot
  else if c = chr '+' then ph.onPlus
  else if c = chr '-' then ph.onMinus
  else if isDigit c then ph.onDigit c
  else none

/-- The rest of a number. -/
def run : Phase → Text → Bool
  | ph, [] => ph.done
  | ph, c :: t =>
    match ph.next c with
    | none => false
    | some ph => run ph t

/-- What the variables of the scanner are in a phase. -/
def Is (st : NumState) : Phase → Prop
  | .zero => st.eLoc = 0 ∧ st.dotLoc = 0 ∧ st.haveZero = true ∧ st.locZero < st.loc ∧
      st.lastNotDigit = false
  | .int => st.eLoc = 0 ∧ st.dotLoc = 0 ∧ st.haveZero = false ∧ st.zeroProhib = false ∧
      st.lastNotDigit = false ∧ 0 < st.loc
  | .dot => st.eLoc = 0 ∧ 0 < st.dotLoc ∧ st.haveZero = false ∧ st.zeroProhib = false ∧
      st.lastNotDigit = true ∧ 0 < st.loc
  | .frac => st.eLoc = 0 ∧ 0 < st.dotLoc ∧ st.haveZero = false ∧ st.zeroProhib = false ∧
      st.lastNotDigit = false ∧ 0 < st.loc
  | .exp => 0 < st.eLoc ∧ st.loc = st.eLoc + 1 ∧ st.haveZero = false ∧ st.zeroProhib = true ∧
      st.lastNotDigit = true
  | .expSign => 0 < st.eLoc ∧ st.eLoc + 1 < st.loc ∧ st.haveZero = false ∧ st.zeroProhib = true ∧
      st.lastNotDigit = true
  | .expDigits => 0 < st.eLoc ∧ st.eLoc + 1 < st.loc ∧ st.haveZero = false ∧ st.zeroProhib = false ∧
      st.lastNotDigit = false

theorem Is.done {st : NumState} {ph : Phase} (h : Is st ph) : st.lastNotDigit = !ph.done := by
  cases ph <;> simp_all [Is, Phase.done]

end Phase

theorem isExp_iff {c : UInt8} : isExp c = true ↔ c = chr 'e' ∨ c = chr 'E' := by
  simp [isExp]

section Next

variable {st : NumState} {ph : Phase} {c : UInt8}

/-- What one character does: both refuse it, or both go on, with the scanner in the phase. -/
def Steps (st : NumState) (ph : Phase) (c : UInt8) : Prop :=
  (st.next c = none ∧ ph.next c = none) ∨
    ∃ st' ph', st.next c = some st' ∧ ph.next c = some ph' ∧ ph'.Is st'

theorem steps_exp (h : ph.Is st) (hc : isExp c = true) : Steps st ph c := by
  rw [Steps, NumState.next, if_pos (isExp_iff.1 hc), Phase.next, if_pos hc]
  cases ph with
  | zero =>
      obtain ⟨heLoc, -, -, hloc, hlast⟩ := h
      rw [if_neg (by simp [heLoc, hlast])]
      exact .inr ⟨_, _, rfl, rfl, Nat.zero_lt_of_lt hloc, rfl, rfl, rfl, rfl⟩
  | int =>
      obtain ⟨heLoc, -, -, -, hlast, hloc⟩ := h
      rw [if_neg (by simp [heLoc, hlast])]
      exact .inr ⟨_, _, rfl, rfl, hloc, rfl, rfl, rfl, rfl⟩
  | frac =>
      obtain ⟨heLoc, -, -, -, hlast, hloc⟩ := h
      rw [if_neg (by simp [heLoc, hlast])]
      exact .inr ⟨_, _, rfl, rfl, hloc, rfl, rfl, rfl, rfl⟩
  | dot =>
      obtain ⟨-, -, -, -, hlast, -⟩ := h
      exact .inl ⟨if_pos (.inr hlast), rfl⟩
  | exp => exact .inl ⟨if_pos (.inl h.1), rfl⟩
  | expSign => exact .inl ⟨if_pos (.inl h.1), rfl⟩
  | expDigits => exact .inl ⟨if_pos (.inl h.1), rfl⟩

theorem steps_dot (h : ph.Is st) : Steps st ph (chr '.') := by
  have hexp : ¬ (chr '.' = chr 'e' ∨ chr '.' = chr 'E') := by decide
  have hexp' : isExp (chr '.') ≠ true := by decide
  rw [Steps, NumState.next, if_neg hexp, if_pos rfl, Phase.next, if_neg hexp', if_pos rfl]
  cases ph with
  | zero =>
      obtain ⟨heLoc, hdotLoc, -, hloc, hlast⟩ := h
      rw [if_neg (by simp [heLoc, hdotLoc, hlast])]
      exact .inr ⟨_, _, rfl, rfl, heLoc, Nat.zero_lt_of_lt hloc, rfl, rfl, rfl, Nat.succ_pos _⟩
  | int =>
      obtain ⟨heLoc, hdotLoc, -, -, hlast, hloc⟩ := h
      rw [if_neg (by simp [heLoc, hdotLoc, hlast])]
      exact .inr ⟨_, _, rfl, rfl, heLoc, hloc, rfl, rfl, rfl, Nat.succ_pos _⟩
  | dot => exact .inl ⟨if_pos (.inr (.inl h.2.1)), rfl⟩
  | frac => exact .inl ⟨if_pos (.inr (.inl h.2.1)), rfl⟩
  | exp => exact .inl ⟨if_pos (.inl h.1), rfl⟩
  | expSign => exact .inl ⟨if_pos (.inl h.1), rfl⟩
  | expDigits => exact .inl ⟨if_pos (.inl h.1), rfl⟩

/-- A sign is taken right behind the letter of the exponent only; a plus sign leaves the place. -/
theorem steps_sign (h : ph.Is st) (hc : c = chr '+' ∨ c = chr '-') : Steps st ph c := by
  have hexp : ¬ (c = chr 'e' ∨ c = chr 'E') := by rcases hc with rfl | rfl <;> decide
  have hexp' : isExp c ≠ true := fun he => hexp (isExp_iff.1 he)
  have hdot : c ≠ chr '.' := by rcases hc with rfl | rfl <;> decide
  have hrefused : ∀ {ph' : Phase}, ph'.Is st → ph' ≠ .exp → st.eLoc = 0 ∨ st.loc ≠ st.eLoc + 1 := by
    intro ph' his hne
    cases ph' with
    | exp => exact absurd rfl hne
    | expSign | expDigits => exact .inr (Nat.ne_of_gt his.2.1)
    | zero | int | dot | frac => exact .inl his.1
  rw [Steps, NumState.next, if_neg hexp, if_neg hdot, if_pos hc, Phase.next, if_neg hexp', if_neg hdot]
  by_cases hph : ph = .exp
  · subst hph
    obtain ⟨heLoc, hloc, hzero, -, -⟩ := h
    rw [if_neg (by omega)]
    rcases hc with rfl | rfl
    · exact .inr ⟨_, _, rfl, rfl, heLoc, hloc, hzero, rfl, rfl⟩
    · exact .inr ⟨_, _, rfl, rfl, heLoc, Nat.lt_succ_of_le hloc.ge, hzero, rfl, rfl⟩
  · refine .inl ⟨if_pos (hrefused h hph), ?_⟩
    rcases hc with rfl | rfl <;> cases ph <;> first | rfl | exact absurd rfl hph

theorem isDigit_ne (hc : isDigit c = true) {d : UInt8} (hd : isDigit d = false) : c ≠ d := by
  rintro rfl
  rw [hc] at hd
  cases hd

theorem NumState.next_digit (hc : isDigit c = true) :
    st.next c = if (st.haveZero && decide (st.loc > st.locZero)) || (c == chr '0' && st.zeroProhib)
      then none
      else some { st with
        zeroProhib := false, lastNotDigit := false, ret := st.ret ++ [c], loc := st.loc + 1 } := by
  have hexp : ¬ (c = chr 'e' ∨ c = chr 'E') :=
    not_or.2 ⟨isDigit_ne hc (by decide), isDigit_ne hc (by decide)⟩
  have hsign : ¬ (c = chr '+' ∨ c = chr '-') :=
    not_or.2 ⟨isDigit_ne hc (by decide), isDigit_ne hc (by decide)⟩
  rw [NumState.next, if_neg hexp, if_neg (isDigit_ne hc (by decide)), if_neg hsign, hc]
  rfl

/-- In front of the first digit nothing else is taken. -/
theorem NumState.next_none (hc : ¬ isDigit c = true) (heLoc : st.eLoc = 0)
    (hlast : st.lastNotDigit = true) : st.next c = none := by
  rw [NumState.next]
  by_cases hexp : c = chr 'e' ∨ c = chr 'E'
  · rw [if_pos hexp, if_pos (.inr hlast)]
  by_cases hdot : c = chr '.'
  · rw [if_neg hexp, if_pos hdot, if_pos (.inr (.inr hlast))]
  by_cases hsign : c = chr '+' ∨ c = chr '-'
  · rw [if_neg hexp, if_neg hdot, if_pos hsign, if_pos (.inl heLoc)]
  · rw [if_neg hexp, if_neg hdot, if_neg hsign, if_pos (by simp [hc])]

theorem NumState.first_none (hc : ¬ isDigit c = true) (hminus : c ≠ chr '-') (cur : Text) :
    NumState.first c cur = none := by
  have hzero : c ≠ chr '0' := by
    rintro rfl
    exact hc (by decide)
  rw [NumState.first, if_neg hzero, if_neg hminus, if_neg hc]

theorem isDigit_of_delim (h : isDelim c = true) : ¬ isDigit c = true := by
  intro hc
  have hne : ∀ d, isDigit d = false → (c == d) = false := fun d hd => beq_false_of_ne (isDigit_ne hc hd)
  have hspace : isSpace c = false := by
    rw [isSpace, hne _ (by decide), hne _ (by decide), hne _ (by decide), hne _ (by decide)]
    rfl
  rw [isDelim, hne _ (by decide), hne _ (by decide), hne _ (by decide), hspace, hne _ (by decide)] at h
  cases h

theorem Phase.next_digit (hc : isDigit c = true) : ph.next c = ph.onDigit c := by
  have hexp : ¬ isExp c = true := by
    rw [isExp_iff, not_or]
    exact ⟨isDigit_ne hc (by decide), isDigit_ne hc (by decide)⟩
  rw [Phase.next, if_neg hexp, if_neg (isDigit_ne hc (by decide)), if_neg (isDigit_ne hc (by decide)),
    if_neg (isDigit_ne hc (by decide)), if_pos hc]

theorem steps_digit (h : ph.Is st) (hc : isDigit c = true) : Steps st ph c := by
  rw [Steps, NumState.next_digit hc, Phase.next_digit hc]
  cases ph with
  | zero =>
      obtain ⟨-, -, hzero, hloc, -⟩ := h
      exact .inl ⟨if_pos (by simp [hzero, hloc]), rfl⟩
  | int =>
      obtain ⟨heLoc, hdotLoc, hzero, hprohib, -, hloc⟩ := h
      rw [if_neg (by simp [hzero, hprohib])]
      exact .inr ⟨_, _, rfl, rfl, heLoc, hdotLoc, hzero, rfl, rfl, Nat.succ_pos _⟩
  | dot =>
      obtain ⟨heLoc, hdotLoc, hzero, hprohib, -, hloc⟩ := h
      rw [if_neg (by simp [hzero, hprohib])]
      exact .inr ⟨_, _, rfl, rfl, heLoc, hdotLoc, hzero, rfl, rfl, Nat.succ_pos _⟩
  | frac =>
      obtain ⟨heLoc, hdotLoc, hzero, hprohib, -, hloc⟩ := h
      rw [if_neg (by simp [hzero, hprohib])]
      exact .inr ⟨_, _, rfl, rfl, heLoc, hdotLoc, hzero, rfl, rfl, Nat.succ_pos _⟩
  | exp =>
      obtain ⟨heLoc, hloc, hzero, hprohib, -⟩ := h
      by_cases hc0 : c = chr '0'
      · exact .inl ⟨if_pos (by simp [hc0, hprohib]), if_pos hc0⟩
      · rw [if_neg (by simp [hzero, hc0])]
        exact .inr ⟨_, _, rfl, if_neg hc0, heLoc, Nat.lt_succ_of_le hloc.ge, hzero, rfl, rfl⟩
  | expSign =>
      obtain ⟨heLoc, hloc, hzero, hprohib, -⟩ := h
      by_cases hc0 : c = chr '0'
      · exact .inl ⟨if_pos (by simp [hc0, hprohib]), if_pos hc0⟩
      · rw [if_neg (by simp [hzero, hc0])]
        exact .inr ⟨_, _, rfl, if_neg hc0, heLoc, Nat.lt_succ_of_lt hloc, hzero, rfl, rfl⟩
  | expDigits =>
      obtain ⟨heLoc, hloc, hzero, hprohib, -⟩ := h
      rw [if_neg (by simp [hzero, hprohib])]
      exact .inr ⟨_, _, rfl, rfl, heLoc, Nat.lt_succ_of_lt hloc, hzero, rfl, rfl⟩

/-- The next character takes the scanner from phase to phase. -/
theorem next_steps (h : ph.Is st) (c : UInt8) : Steps st ph c := by
  by_cases hexp : isExp c = true
  · exact steps_exp h hexp
  by_cases hdot : c = chr '.'
  · rw [hdot]
    exact steps_dot h
  by_cases hplus : c = chr '+'
  · exact steps_sign h (.inl hplus)
  by_cases hminus : c = chr '-'
  · exact steps_sign h (.inr hminus)
  by_cases hdigit : isDigit c = true
  · exact steps_digit h hdigit
  · refine .inl ⟨?_, ?_⟩
    · rw [NumState.next, if_neg fun he => hexp (isExp_iff.2 he), if_neg hdot,
        if_neg (not_or.2 ⟨hplus, hminus⟩), if_pos (by simp [hdigit])]
    · rw [Phase.next, if_neg hexp, if_neg hdot, if_neg hplus, if_neg hminus, if_neg hdigit]

end Next

/-- **The scanner goes through the phases.** -/
theorem getNumLoop_run {t r : Text} (ht : ∀ c ∈ t, isDelim c = false) (hr : Ends r) {st : NumState}
    {ph : Phase} (h : ph.Is st) : (getNumLoop st (t ++ r)).isSome = ph.run t := by
  induction t generalizing st ph with
  | nil =>
      rw [List.nil_append, Phase.run]
      rcases hr with rfl | ⟨hdelim, hne⟩
      · rw [getNumLoop_none rfl, h.done]
        cases ph.done <;> rfl
      · cases r with
        | nil =>  exact absurd rfl hne
        | cons c r =>
            rw [peek_cons] at hdelim hne
            rw [getNumLoop_some (isEOF_cons hne _), peek_cons, if_pos hdelim, h.done]
            cases ph.done <;> rfl
  | cons c t ih =>
      have hc : isDelim c = false := ht c List.mem_cons_self
      have hne : c ≠ 0 := by
        rintro rfl
        exact absurd hc (by decide)
      rw [List.cons_append, getNumLoop_some (isEOF_cons hne _), peek_cons, hc, if_neg Bool.false_ne_true,
        List.tail_cons, Phase.run]
      rcases next_steps h c with ⟨hst, hph⟩ | ⟨st', ph', hst, hph, his⟩
      · rw [hst, hph]
        rfl
      · rw [hst, hph]
        exact ih (fun d hd => ht d (List.mem_cons_of_mem c hd)) his

/-! ## The language of a phase -/

theorem digits_nil : Digits [] := by
  intro c hc
  cases hc

theorem Digits.cons {c : UInt8} {w : Text} (hc : isDigit c = true) (hw : Digits w) : Digits (c :: w) := by
  intro d hd
  rcases List.mem_cons.1 hd with rfl | hd
  · exact hc
  · exact hw d hd

theorem Digits.head {c : UInt8} {w : Text} (h : Digits (c :: w)) : isDigit c = true :=
  h c List.mem_cons_self

theorem Digits.tail {c : UInt8} {w : Text} (h : Digits (c :: w)) : Digits w :=
  fun d hd => h d (List.mem_cons_of_mem c hd)

theorem isDigit19_iff {c : UInt8} : isDigit19 c = true ↔ isDigit c = true ∧ c ≠ chr '0' := by
  simp [isDigit19]

namespace Phase

variable {ph ph' : Phase} {c : UInt8} {t : Text}

theorem next_exp (hc : isExp c = true) : ph.next c = ph.onExp := if_pos hc

/-- What a step of a phase is. -/
theorem next_eq_some (h : ph.next c = some ph') :
    (isDigit c = true ∧ ph.onDigit c = some ph') ∨ (isExp c = true ∧ ph.onExp = some ph') ∨
    (c = chr '.' ∧ ph.onDot = some ph') ∨ (c = chr '+' ∧ ph.onPlus = some ph') ∨
    (c = chr '-' ∧ ph.onMinus = some ph') := by
  rw [next] at h
  split_ifs at h with hexp hdot hplus hminus hdigit
  · exact .inr (.inl ⟨hexp, h⟩)
  · exact .inr (.inr (.inl ⟨hdot, h⟩))
  · exact .inr (.inr (.inr (.inl ⟨hplus, h⟩)))
  · exact .inr (.inr (.inr (.inr ⟨hminus, h⟩)))
  · exact .inl ⟨hdigit, h⟩

theorem run_some (h : ph.next c = some ph') : ph.run (c :: t) = ph'.run t := by
  rw [run, h]

theorem run_cons (h : ph.run (c :: t) = true) : ∃ ph', ph.next c = some ph' ∧ ph'.run t = true := by
  rw [run] at h
  split at h
  · cases h
  · next ph' hnext => exact ⟨ph', hnext, h⟩

/-- A phase that digits do not leave. -/
theorem run_digits (hph : ∀ c, ph.onDigit c = some ph) {ds : Text} (hds : Digits ds) (x : Text) :
    ph.run (ds ++ x) = ph.run x := by
  induction ds with
  | nil => rfl
  | cons d ds ih =>
      rw [List.cons_append, run_some ((next_digit hds.head).trans (hph d))]
      exact ih hds.tail

theorem run_expDigits : Phase.expDigits.run t = true ↔ Digits t := by
  constructor
  · intro h
    induction t with
    | nil => exact digits_nil
    | cons c t ih =>
        obtain ⟨ph', hnext, hrun⟩ := run_cons h
        rcases next_eq_some hnext with ⟨hc, ⟨⟩⟩ | ⟨-, ⟨⟩⟩ | ⟨-, ⟨⟩⟩ | ⟨-, ⟨⟩⟩ | ⟨-, ⟨⟩⟩
        exact (ih hrun).cons hc
  · intro h
    have hrun := @run_digits .expDigits (fun _ => rfl) t h []
    rw [List.append_nil] at hrun
    rw [hrun]
    rfl

/-- The first digit of an exponent is not zero. -/
theorem onDigit_exp {ph₀ : Phase} (hph : ph₀ = .exp ∨ ph₀ = .expSign) :
    ph₀.onDigit c = some ph' ↔ c ≠ chr '0' ∧ ph' = .expDigits := by
  have hdigit : ph₀.onDigit c = if c = chr '0' then none else some .expDigits := by
    rcases hph with rfl | rfl <;> rfl
  rw [hdigit]
  split
  · next hc => exact iff_of_false (by simp) fun h => h.1 hc
  · next hc => exact ⟨fun h => ⟨hc, (Option.some.inj h).symm⟩, fun h => by rw [h.2]⟩

theorem run_digit19 {ph₀ : Phase} (hph : ph₀ = .exp ∨ ph₀ = .expSign) (hc : isDigit19 c = true) :
    ph₀.run (c :: t) = Phase.expDigits.run t := by
  rw [isDigit19_iff] at hc
  exact run_some ((next_digit hc.1).trans ((onDigit_exp hph).2 ⟨hc.2, rfl⟩))

theorem run_expSign :
    Phase.expSign.run t = true ↔ ∃ d ds, t = d :: ds ∧ isDigit19 d = true ∧ Digits ds := by
  constructor
  · intro h
    cases t with
    | nil => cases h
    | cons c t =>
        obtain ⟨ph', hnext, hrun⟩ := run_cons h
        rcases next_eq_some hnext with ⟨hc, hdigit⟩ | ⟨-, ⟨⟩⟩ | ⟨-, ⟨⟩⟩ | ⟨-, ⟨⟩⟩ | ⟨-, ⟨⟩⟩
        obtain ⟨hne, rfl⟩ := (onDigit_exp (.inr rfl)).1 hdigit
        exact ⟨c, t, rfl, isDigit19_iff.2 ⟨hc, hne⟩, run_expDigits.1 hrun⟩
  · rintro ⟨d, ds, rfl, hd, hds⟩
    rw [run_digit19 (.inr rfl) hd]
    exact run_expDigits.2 hds

theorem run_exp : Phase.exp.run t = true ↔ ScanExponent t := by
  constructor
  · intro h
    induction t with
    | nil => cases h
    | cons c t ih =>
        obtain ⟨ph', hnext, hrun⟩ := run_cons h
        rcases next_eq_some hnext with ⟨hc, hdigit⟩ | ⟨-, ⟨⟩⟩ | ⟨-, ⟨⟩⟩ | ⟨rfl, ⟨⟩⟩ | ⟨rfl, ⟨⟩⟩
        · obtain ⟨hne, rfl⟩ := (onDigit_exp (.inl rfl)).1 hdigit
          exact .digits (isDigit19_iff.2 ⟨hc, hne⟩) (run_expDigits.1 hrun)
        · exact .plus (ih hrun)
        · obtain ⟨d, ds, rfl, hd, hds⟩ := run_expSign.1 hrun
          exact .minus hd hds
  · intro h
    induction h with
    | digits hd hds =>
        rw [run_digit19 (.inl rfl) hd]
        exact run_expDigits.2 hds
    | @minus d ds hd hds =>
        rw [run_some (show Phase.exp.next (chr '-') = some .expSign by decide)]
        exact run_expSign.2 ⟨d, ds, rfl, hd, hds⟩
    | plus _ ih =>
        rw [run_some (show Phase.exp.next (chr '+') = some .exp by decide)]
        exact ih

end Phase

/-- Nothing, or the letter of an exponent and an exponent that is scanned. -/
inductive ExpPart : Text → Prop
  | none : ExpPart []
  | some {e : UInt8} {x : Text} (he : isExp e = true) (hx : ScanExponent x) : ExpPart (e :: x)

namespace Phase

variable {ph ph' : Phase} {c : UInt8} {t : Text}

/-- A phase in which the mantissa may end. -/
theorem run_expPart (hph : ph.onExp = some .exp) (hdone : ph.done = true) (h : ExpPart t) :
    ph.run t = true := by
  cases h with
  | none => exact hdone
  | some he hx =>
      rw [run_some ((next_exp he).trans hph)]
      exact run_exp.2 hx

theorem run_frac : Phase.frac.run t = true ↔ ∃ ds x, t = ds ++ x ∧ Digits ds ∧ ExpPart x := by
  constructor
  · intro h
    induction t with
    | nil => exact ⟨[], [], rfl, digits_nil, .none⟩
    | cons c t ih =>
        obtain ⟨ph', hnext, hrun⟩ := run_cons h
        rcases next_eq_some hnext with ⟨hc, ⟨⟩⟩ | ⟨hc, ⟨⟩⟩ | ⟨-, ⟨⟩⟩ | ⟨-, ⟨⟩⟩ | ⟨-, ⟨⟩⟩
        · obtain ⟨ds, x, rfl, hds, hx⟩ := ih hrun
          exact ⟨c :: ds, x, rfl, hds.cons hc, hx⟩
        · exact ⟨[], c :: t, rfl, digits_nil, .some hc (run_exp.1 hrun)⟩
  · rintro ⟨ds, x, rfl, hds, hx⟩
    rw [run_digits (fun _ => rfl) hds]
    exact run_expPart rfl rfl hx

theorem run_dot :
    Phase.dot.run t = true ↔ ∃ d ds x, t = d :: (ds ++ x) ∧ isDigit d = true ∧ Digits ds ∧ ExpPart x := by
  constructor
  · intro h
    cases t with
    | nil => cases h
    | cons c t =>
        obtain ⟨ph', hnext, hrun⟩ := run_cons h
        rcases next_eq_some hnext with ⟨hc, ⟨⟩⟩ | ⟨-, ⟨⟩⟩ | ⟨-, ⟨⟩⟩ | ⟨-, ⟨⟩⟩ | ⟨-, ⟨⟩⟩
        obtain ⟨ds, x, rfl, hds, hx⟩ := run_frac.1 hrun
        exact ⟨c, ds, x, rfl, hc, hds, hx⟩
  · rintro ⟨d, ds, x, rfl, hd, hds, hx⟩
    rw [run_some (show Phase.dot.next d = some .frac from next_digit hd)]
    exact run_frac.2 ⟨ds, x, rfl, hds, hx⟩

/-- The integer part is behind. -/
theorem run_zero : Phase.zero.run t = true ↔ ∃ f x, t = f ++ x ∧ FracPart f ∧ ExpPart x := by
  constructor
  · intro h
    cases t with
    | nil => exact ⟨[], [], rfl, .none, .none⟩
    | cons c t =>
        obtain ⟨ph', hnext, hrun⟩ := run_cons h
        rcases next_eq_some hnext with ⟨-, ⟨⟩⟩ | ⟨hc, ⟨⟩⟩ | ⟨rfl, ⟨⟩⟩ | ⟨-, ⟨⟩⟩ | ⟨-, ⟨⟩⟩
        · exact ⟨[], c :: t, rfl, .none, .some hc (run_exp.1 hrun)⟩
        · obtain ⟨d, ds, x, rfl, hd, hds, hx⟩ := run_dot.1 hrun
          exact ⟨chr '.' :: d :: ds, x, rfl, .some hd hds, hx⟩
  · rintro ⟨f, x, rfl, hf, hx⟩
    cases hf with
    | none => exact run_expPart rfl rfl hx
    | some hd hds =>
        rw [List.cons_append, run_some (show Phase.zero.next (chr '.') = some .dot by decide)]
        exact run_dot.2 ⟨_, _, x, rfl, hd, hds, hx⟩

theorem run_int :
    Phase.int.run t = true ↔ ∃ ds f x, t = ds ++ (f ++ x) ∧ Digits ds ∧ FracPart f ∧ ExpPart x := by
  constructor
  · intro h
    induction t with
    | nil => exact ⟨[], [], [], rfl, digits_nil, .none, .none⟩
    | cons c t ih =>
        obtain ⟨ph', hnext, hrun⟩ := run_cons h
        rcases next_eq_some hnext with ⟨hc, ⟨⟩⟩ | ⟨hc, ⟨⟩⟩ | ⟨rfl, ⟨⟩⟩ | ⟨-, ⟨⟩⟩ | ⟨-, ⟨⟩⟩
        · obtain ⟨ds, f, x, rfl, hds, hf, hx⟩ := ih hrun
          exact ⟨c :: ds, f, x, rfl, hds.cons hc, hf, hx⟩
        · exact ⟨[], [], c :: t, rfl, digits_nil, .none, .some hc (run_exp.1 hrun)⟩
        · obtain ⟨d, ds, x, rfl, hd, hds, hx⟩ := run_dot.1 hrun
          exact ⟨[], chr '.' :: d :: ds, x, rfl, digits_nil, .some hd hds, hx⟩
  · rintro ⟨ds, f, x, rfl, hds, hf, hx⟩
    rw [run_digits (fun _ => rfl) hds]
    cases hf with
    | none => exact run_expPart rfl rfl hx
    | some hd hds =>
        rw [List.cons_append, run_some (show Phase.int.next (chr '.') = some .dot by decide)]
        exact run_dot.2 ⟨_, _, x, rfl, hd, hds, hx⟩

end Phase

/-! ## The language of the scanner -/

/-- A number behind its minus sign. -/
def Unsigned (t : Text) : Prop := ∃ i f x, t = i ++ f ++ x ∧ IntPart i ∧ FracPart f ∧ ExpPart x

theorem number_scan_iff {t : Text} :
    Number ScanExponent t ↔ Unsigned t ∨ ∃ u, t = chr '-' :: u ∧ Unsigned u := by
  constructor
  · intro h
    cases h with
    | plain hm =>
        cases hm with
        | @pos i f hi hf => exact .inl ⟨i, f, [], (List.append_nil _).symm, hi, hf, .none⟩
        | @neg i f hi hf => exact .inr ⟨_, rfl, i, f, [], (List.append_nil _).symm, hi, hf, .none⟩
    | @exp m x e hm he hx =>
        cases hm with
        | @pos i f hi hf => exact .inl ⟨i, f, e :: x, rfl, hi, hf, .some he hx⟩
        | @neg i f hi hf => exact .inr ⟨_, rfl, i, f, e :: x, rfl, hi, hf, .some he hx⟩
  · rintro (⟨i, f, x, rfl, hi, hf, hx⟩ | ⟨u, rfl, i, f, x, rfl, hi, hf, hx⟩)
    · cases hx with
      | none =>
          rw [List.append_nil]
          exact .plain (.pos hi hf)
      | some he hx => exact .exp (.pos hi hf) he hx
    · cases hx with
      | none =>
          rw [List.append_nil]
          exact .plain (.neg hi hf)
      | some he hx => exact .exp (.neg hi hf) he hx

theorem unsigned_cons {c : UInt8} {t : Text} : Unsigned (c :: t) ↔
    (c = chr '0' ∧ Phase.zero.run t = true) ∨ (isDigit19 c = true ∧ Phase.int.run t = true) := by
  constructor
  · rintro ⟨i, f, x, heq, hi, hf, hx⟩
    cases hi with
    | zero =>
        obtain ⟨rfl, rfl⟩ := List.cons.inj heq
        exact .inl ⟨rfl, Phase.run_zero.2 ⟨f, x, rfl, hf, hx⟩⟩
    | @digits d ds hd hds =>
        obtain ⟨rfl, rfl⟩ := List.cons.inj heq
        exact .inr ⟨hd, Phase.run_int.2 ⟨ds, f, x, List.append_assoc _ _ _, hds, hf, hx⟩⟩
  · rintro (⟨rfl, hrun⟩ | ⟨hc, hrun⟩)
    · obtain ⟨f, x, rfl, hf, hx⟩ := Phase.run_zero.1 hrun
      exact ⟨[chr '0'], f, x, rfl, .zero, hf, hx⟩
    · obtain ⟨ds, f, x, rfl, hds, hf, hx⟩ := Phase.run_int.1 hrun
      exact ⟨c :: ds, f, x, by simp, .digits hc hds, hf, hx⟩

theorem not_unsigned_nil : ¬ Unsigned [] := by
  rintro ⟨i, f, x, heq, hi, -, -⟩
  cases hi <;> cases heq

section Scan

variable {t r : Text} (ht : ∀ c ∈ t, isDelim c = false) (hr : Ends r)

include ht hr

theorem isEOF_rest : (t = [] ∧ r = []) ∨ isEOF (t ++ r) = some (t ++ r) := by
  cases t with
  | nil =>
      rcases hr with rfl | ⟨hdelim, hne⟩
      · exact .inl ⟨rfl, rfl⟩
      · cases r with
        | nil => exact absurd rfl hne
        | cons c r => exact .inr (isEOF_cons hne r)
  | cons c t =>
      have hne : c ≠ 0 := by
        rintro rfl
        exact absurd (ht 0 List.mem_cons_self) (by decide)
      exact .inr (isEOF_cons hne _)

/-- Behind a minus sign. -/
theorem getNumLoop_minus {st : NumState} (heLoc : st.eLoc = 0) (hdotLoc : st.dotLoc = 0)
    (hzero : st.haveZero = decide (peek (t ++ r) = chr '0'))
    (hlocZero : st.locZero = if peek (t ++ r) = chr '0' then 1 else 0) (hlast : st.lastNotDigit = true)
    (hprohib : st.zeroProhib = false) (hloc : st.loc = 1) :
    (getNumLoop st (t ++ r)).isSome = true ↔ Unsigned t := by
  cases t with
  | nil =>
      refine iff_of_false ?_ not_unsigned_nil
      rw [List.nil_append]
      rcases hr with rfl | ⟨hdelim, hne⟩
      · rw [getNumLoop_none rfl, hlast]
        simp
      · cases r with
        | nil => exact absurd rfl hne
        | cons c r =>
            rw [peek_cons] at hdelim hne
            rw [getNumLoop_some (isEOF_cons hne _), peek_cons, if_pos hdelim, hlast]
            simp
  | cons c t =>
      have hc : isDelim c = false := ht c List.mem_cons_self
      have hne : c ≠ 0 := by
        rintro rfl
        exact absurd hc (by decide)
      have ht' : ∀ d ∈ t, isDelim d = false := fun d hd => ht d (List.mem_cons_of_mem c hd)
      rw [List.cons_append, peek_cons] at hzero hlocZero
      rw [List.cons_append, getNumLoop_some (isEOF_cons hne _), peek_cons, hc, if_neg Bool.false_ne_true,
        List.tail_cons, unsigned_cons]
      -- a zero must stand alone, another digit starts an integer, and nothing else may follow
      by_cases hdigit : isDigit c = true
      case pos =>
          rw [NumState.next_digit hdigit]
          by_cases hc0 : c = chr '0'
          · rw [if_pos hc0] at hlocZero
            rw [if_neg (by simp [hloc, hlocZero, hprohib])]
            have his : Phase.zero.Is { st with
                zeroProhib := false, lastNotDigit := false, ret := st.ret ++ [c], loc := st.loc + 1 } :=
              ⟨heLoc, hdotLoc, hzero.trans (decide_eq_true hc0),
                show st.locZero < st.loc + 1 by omega, rfl⟩
            rw [Option.bind_some, getNumLoop_run ht' hr his]
            have hno : isDigit19 c = false := by simp [isDigit19, hc0]
            simp [hc0, show isDigit19 (chr '0') = false by decide]
          · have hnz : st.haveZero = false := hzero.trans (decide_eq_false hc0)
            rw [if_neg (by simp [hnz, hprohib])]
            have his : Phase.int.Is { st with
                zeroProhib := false, lastNotDigit := false, ret := st.ret ++ [c], loc := st.loc + 1 } :=
              ⟨heLoc, hdotLoc, hnz, rfl, rfl, Nat.succ_pos _⟩
            rw [Option.bind_some, getNumLoop_run ht' hr his]
            simp [hc0, isDigit19_iff, hdigit]
      case neg =>
          have hnone : st.next c = none := NumState.next_none hdigit heLoc hlast
          rw [hnone]
          refine iff_of_false (by simp) ?_
          rintro (⟨rfl, -⟩ | ⟨hc19, -⟩)
          · exact hdigit (by decide)
          · exact hdigit (isDigit19_iff.1 hc19).1

/-- **The language of the scanner.** -/
theorem getNum_isSome_iff : (getNum (t ++ r)).isSome = true ↔ Number ScanExponent t := by
  rw [number_scan_iff]
  cases t with
  | nil =>
      refine iff_of_false ?_ ?_
      · rw [List.nil_append]
        rcases hr with rfl | ⟨hdelim, hne⟩
        · simp [getNum, isEOF]
        · cases r with
          | nil => exact absurd rfl hne
          | cons c r =>
              rw [peek_cons] at hdelim hne
              have hminus : c ≠ chr '-' := by
                rintro rfl
                exact absurd hdelim (by decide)
              rw [getNum, isEOF_cons hne]
              simp only
              rw [peek_cons, NumState.first_none (isDigit_of_delim hdelim) hminus]
              simp
      · rintro (h | ⟨u, heq, -⟩)
        · exact not_unsigned_nil h
        · cases heq
  | cons c t =>
      have hc : isDelim c = false := ht c List.mem_cons_self
      have hne : c ≠ 0 := by
        rintro rfl
        exact absurd hc (by decide)
      have ht' : ∀ d ∈ t, isDelim d = false := fun d hd => ht d (List.mem_cons_of_mem c hd)
      have hminus : (∃ u, c :: t = chr '-' :: u ∧ Unsigned u) ↔ c = chr '-' ∧ Unsigned t := by
        constructor
        · rintro ⟨u, heq, hu⟩
          obtain ⟨rfl, rfl⟩ := List.cons.inj heq
          exact ⟨rfl, hu⟩
        · rintro ⟨rfl, hu⟩
          exact ⟨t, rfl, hu⟩
      rw [getNum, List.cons_append, isEOF_cons hne, unsigned_cons, hminus]
      simp only
      rw [peek_cons, List.tail_cons]
      -- the first character sets the phase that the loop goes on in
      by_cases hc0 : c = chr '0'
      · subst hc0
        have his : Phase.zero.Is { ret := [chr '0'], haveZero := true, lastNotDigit := false, zeroProhib := true } :=
          ⟨rfl, rfl, rfl, Nat.one_pos, rfl⟩
        rw [NumState.first, if_pos rfl]
        simp only
        rw [getNumLoop_run ht' hr his]
        simp [show isDigit19 (chr '0') = false by decide, show chr '0' ≠ chr '-' by decide]
      by_cases hcm : c = chr '-'
      · subst hcm
        have hfalse : isDigit19 (chr '-') = false := by decide
        have hne0 : chr '-' ≠ chr '0' := by decide
        rw [NumState.first, if_neg hne0, if_pos rfl]
        rcases isEOF_rest ht' hr with ⟨rfl, rfl⟩ | hrest
        · simp [isEOF, hne0, hfalse, not_unsigned_nil]
        · rw [hrest]
          simp only
          rw [getNumLoop_minus ht' hr rfl rfl rfl rfl rfl rfl rfl]
          simp [hne0, hfalse]
      by_cases hdigit : isDigit c = true
      · have his : Phase.int.Is { ret := [c], haveZero := false, lastNotDigit := false, zeroProhib := false } :=
          ⟨rfl, rfl, rfl, rfl, rfl, Nat.one_pos⟩
        rw [NumState.first, if_neg hc0, if_neg hcm, if_pos hdigit]
        simp only
        rw [getNumLoop_run ht' hr his]
        simp [hc0, hcm, isDigit19_iff, hdigit]
      · rw [NumState.first_none hdigit hcm]
        simp [hc0, hcm, isDigit19_iff, hdigit]

end Scan

/-! ## Against the grammar -/

/-- An exponent with a sign or none and a first digit that is zero. -/
inductive ZeroExponent : Text → Prop
  | digits {ds : Text} (hds : Digits ds) : ZeroExponent (chr '0' :: ds)
  | plus {ds : Text} (hds : Digits ds) : ZeroExponent (chr '+' :: chr '0' :: ds)
  | minus {ds : Text} (hds : Digits ds) : ZeroExponent (chr '-' :: chr '0' :: ds)

/-- An exponent with a plus sign and at least one more sign: any number of plus signs and then at most one
    minus sign, in front of a digit other than zero. -/
inductive SignsExponent : Text → Prop
  | minus {d : UInt8} {ds : Text} (hd : isDigit19 d = true) (hds : Digits ds) :
      SignsExponent (chr '+' :: chr '-' :: d :: ds)
  | two {d : UInt8} {ds : Text} (hd : isDigit19 d = true) (hds : Digits ds) :
      SignsExponent (chr '+' :: chr '+' :: d :: ds)
  | plus {x : Text} (hx : SignsExponent x) : SignsExponent (chr '+' :: x)

/-- An exponent that the scanner and the grammar do not agree on. -/
def BadExponent (x : Text) : Prop := ZeroExponent x ∨ SignsExponent x

theorem isDigit_of_isDigit19 {d : UInt8} (h : isDigit19 d = true) : isDigit d = true :=
  (isDigit19_iff.1 h).1

theorem SignsExponent.scan {x : Text} (h : SignsExponent x) : ScanExponent x := by
  induction h with
  | minus hd hds => exact .plus (.minus hd hds)
  | two hd hds => exact .plus (.plus (.digits hd hds))
  | plus _ ih => exact .plus ih

theorem ZeroExponent.exponent {x : Text} (h : ZeroExponent x) : Exponent x := by
  cases h with
  | digits hds => exact .digits (by decide) hds
  | plus hds => exact .plus (by decide) hds
  | minus hds => exact .minus (by decide) hds

/-- What is scanned is an exponent, or has too many signs. -/
theorem ScanExponent.exponent_or {x : Text} (h : ScanExponent x) : Exponent x ∨ SignsExponent x := by
  induction h with
  | digits hd hds => exact .inl (.digits (isDigit_of_isDigit19 hd) hds)
  | minus hd hds => exact .inl (.minus (isDigit_of_isDigit19 hd) hds)
  | @plus x hx ih =>
      cases hx with
      | digits hd hds => exact .inl (.plus (isDigit_of_isDigit19 hd) hds)
      | minus hd hds => exact .inr (.minus hd hds)
      | plus hx =>
          rcases ih with hexp | hsigns
          · cases hexp with
            | digits hd _ => exact absurd hd (by decide)
            | plus hd hds =>
                cases hx with
                | digits hd19 hds => exact .inr (.two hd19 hds)
                | minus _ _ => exact absurd hd (by decide)
                | plus _ => exact absurd hd (by decide)
          · exact .inr (.plus hsigns)

/-- An exponent is scanned, or starts with a zero. -/
theorem Exponent.scan_or {x : Text} (h : Exponent x) : ScanExponent x ∨ ZeroExponent x := by
  cases h with
  | @digits d ds hd hds =>
      by_cases hne : d = chr '0'
      · exact .inr (hne ▸ .digits hds)
      · exact .inl (.digits (isDigit19_iff.2 ⟨hd, hne⟩) hds)
  | @plus d ds hd hds =>
      by_cases hne : d = chr '0'
      · exact .inr (hne ▸ .plus hds)
      · exact .inl (.plus (.digits (isDigit19_iff.2 ⟨hd, hne⟩) hds))
  | @minus d ds hd hds =>
      by_cases hne : d = chr '0'
      · exact .inr (hne ▸ .minus hds)
      · exact .inl (.minus (isDigit19_iff.2 ⟨hd, hne⟩) hds)

theorem ZeroExponent.not_scan {x : Text} (h : ZeroExponent x) : ¬ ScanExponent x := by
  intro hscan
  cases h with
  | digits hds =>
      cases hscan with
      | digits hd _ => exact absurd hd (by decide)
  | plus hds =>
      cases hscan with
      | digits hd _ => exact absurd hd (by decide)
      | plus hx =>
          cases hx with
          | digits hd _ => exact absurd hd (by decide)
  | minus hds =>
      cases hscan with
      | digits hd _ => exact absurd hd (by decide)
      | minus hd _ => exact absurd hd (by decide)

theorem SignsExponent.not_exponent {x : Text} (h : SignsExponent x) : ¬ Exponent x := by
  intro hexp
  cases h with
  | minus hd hds =>
      cases hexp with
      | digits hd _ => exact absurd hd (by decide)
      | plus hd _ => exact absurd hd (by decide)
  | two hd hds =>
      cases hexp with
      | digits hd _ => exact absurd hd (by decide)
      | plus hd _ => exact absurd hd (by decide)
  | plus hx =>
      cases hexp with
      | digits hd _ => exact absurd hd (by decide)
      | plus hd _ =>
          cases hx with
          | minus _ _ => exact absurd hd (by decide)
          | two _ _ => exact absurd hd (by decide)
          | plus _ => exact absurd hd (by decide)

/-- The exponents that the scanner and the grammar agree on. -/
theorem badExponent_iff (x : Text) : BadExponent x ↔ ¬ (ScanExponent x ↔ Exponent x) := by
  constructor
  · rintro (hzero | hsigns) hiff
    · exact hzero.not_scan (hiff.2 hzero.exponent)
    · exact hsigns.not_exponent (hiff.1 hsigns.scan)
  · intro hne
    by_contra hgood
    refine hne ⟨fun hscan => ?_, fun hexp => ?_⟩
    · exact hscan.exponent_or.resolve_right fun hsigns => hgood (.inr hsigns)
    · exact hexp.scan_or.resolve_right fun hzero => hgood (.inl hzero)

/-! ### The letter splits the number -/

theorem Digits.no_exp {w : Text} (h : Digits w) : ∀ c ∈ w, isExp c = false := by
  intro c hc
  rw [Bool.eq_false_iff]
  intro hexp
  rcases isExp_iff.1 hexp with rfl | rfl <;> exact absurd (h _ hc) (by decide)

theorem Mantissa.no_exp {m : Text} (h : Mantissa m) : ∀ c ∈ m, isExp c = false := by
  have hint : ∀ {i : Text}, IntPart i → ∀ c ∈ i, isExp c = false := by
    intro i hi
    cases hi with
    | zero => exact List.forall_mem_singleton.2 (by decide)
    | digits hd hds => exact (hds.cons (isDigit_of_isDigit19 hd)).no_exp
  have hfrac : ∀ {f : Text}, FracPart f → ∀ c ∈ f, isExp c = false := by
    intro f hf
    cases hf with
    | none =>
        intro c hc
        cases hc
    | some hd hds =>
        intro c hc
        rcases List.mem_cons.1 hc with rfl | hc
        · decide
        · exact (hds.cons hd).no_exp c hc
  have hboth : ∀ {i f : Text}, IntPart i → FracPart f → ∀ c ∈ i ++ f, isExp c = false := by
    intro i f hi hf c hc
    rcases List.mem_append.1 hc with hc | hc
    · exact hint hi c hc
    · exact hfrac hf c hc
  cases h with
  | pos hi hf => exact hboth hi hf
  | neg hi hf =>
      intro c hc
      rcases List.mem_cons.1 hc with rfl | hc
      · decide
      · exact hboth hi hf c hc

theorem split_at_exp {m m' x x' : Text} {e e' : UInt8} (hm : ∀ c ∈ m, isExp c = false)
    (hm' : ∀ c ∈ m', isExp c = false) (he : isExp e = true) (he' : isExp e' = true)
    (h : m ++ e :: x = m' ++ e' :: x') : m = m' ∧ x = x' := by
  induction m generalizing m' with
  | nil =>
      cases m' with
      | nil => exact ⟨rfl, (List.cons.inj h).2⟩
      | cons c m' =>
          obtain ⟨rfl, -⟩ := List.cons.inj h
          rw [hm' e List.mem_cons_self] at he
          cases he
  | cons c m ih =>
      cases m' with
      | nil =>
          obtain ⟨rfl, -⟩ := List.cons.inj h
          rw [hm c List.mem_cons_self] at he'
          cases he'
      | cons c' m' =>
          obtain ⟨rfl, hrest⟩ := List.cons.inj h
          obtain ⟨rfl, rfl⟩ := ih (fun d hd => hm d (List.mem_cons_of_mem c hd))
            (fun d hd => hm' d (List.mem_cons_of_mem c hd)) hrest
          exact ⟨rfl, rfl⟩

/-- With this mantissa and this letter the exponent decides. -/
theorem Number.exp_iff {E : Text → Prop} {m x : Text} {e : UInt8} (hm : Mantissa m)
    (he : isExp e = true) : Number E (m ++ e :: x) ↔ E x := by
  refine ⟨fun h => ?_, .exp hm he⟩
  generalize ht : m ++ e :: x = t at h
  cases h with
  | plain hplain =>
      subst ht
      have hno := hplain.no_exp e (List.mem_append_right _ List.mem_cons_self)
      rw [hno] at he
      cases he
  | exp hm' he' hx =>
      obtain ⟨rfl, rfl⟩ := split_at_exp hm.no_exp hm'.no_exp he he' ht
      exact hx

/-- A number with an exponent that is not agreed on. -/
def BadNumber (t : Text) : Prop :=
  ∃ m e x, t = m ++ e :: x ∧ Mantissa m ∧ isExp e = true ∧ BadExponent x

/-- **The scanner takes the numbers of the grammar, up to the exponent**: on a text with none of the
    characters that end it, it agrees with the grammar exactly when the text is not a mantissa with an
    exponent that starts with a zero or has a plus sign and more signs. -/
theorem getNum_rfc_iff {t r : Text} (ht : ∀ c ∈ t, isDelim c = false) (hr : Ends r) :
    ((getNum (t ++ r)).isSome = true ↔ RfcNumber t) ↔ ¬ BadNumber t := by
  rw [getNum_isSome_iff ht hr]
  constructor
  · rintro hiff ⟨m, e, x, rfl, hm, he, hbad⟩
    rw [RfcNumber, Number.exp_iff hm he, Number.exp_iff hm he] at hiff
    exact (badExponent_iff x).1 hbad hiff
  · intro hgood
    have hexp : ∀ {m x : Text} {e : UInt8}, t = m ++ e :: x → Mantissa m → isExp e = true →
        (ScanExponent x ↔ Exponent x) := by
      intro m x e heq hm he
      by_contra hne
      exact hgood ⟨m, e, x, heq, hm, he, (badExponent_iff x).2 hne⟩
    constructor
    · intro h
      cases h with
      | plain hm => exact .plain hm
      | exp hm he hx => exact .exp hm he ((hexp rfl hm he).1 hx)
    · intro h
      cases h with
      | plain hm => exact .plain hm
      | exp hm he hx => exact .exp hm he ((hexp rfl hm he).2 hx)

theorem mantissa_one : Mantissa [chr '1'] := .pos (f := []) (.digits (by decide) digits_nil) .none

/-- An exponent of zero is refused, and one with two plus signs is taken. -/
theorem getNum_not_rfc :
    ((getNum [chr '1', chr 'e', chr '0']).isSome = false ∧ RfcNumber [chr '1', chr 'e', chr '0']) ∧
    ((getNum [chr '1', chr 'e', chr '+', chr '+', chr '5']).isSome = true ∧
      ¬ RfcNumber [chr '1', chr 'e', chr '+', chr '+', chr '5']) := by
  have hzero : ZeroExponent [chr '0'] := .digits digits_nil
  have hsigns : SignsExponent [chr '+', chr '+', chr '5'] := .two (by decide) digits_nil
  have hletter : isExp (chr 'e') = true := by decide
  have hplain : ∀ {c t}, isDelim c = false → (∀ d ∈ t, isDelim d = false) → ∀ d ∈ c :: t, isDelim d = false :=
    fun hc ht => List.forall_mem_cons.2 ⟨hc, ht⟩
  have hrefused := @getNum_isSome_iff [chr '1', chr 'e', chr '0'] []
    (hplain (by decide) (hplain (by decide) (List.forall_mem_singleton.2 (by decide)))) (.inl rfl)
  have htaken := @getNum_isSome_iff [chr '1', chr 'e', chr '+', chr '+', chr '5'] []
    (hplain (by decide) (hplain (by decide) (hplain (by decide) (hplain (by decide)
      (List.forall_mem_singleton.2 (by decide)))))) (.inl rfl)
  rw [List.append_nil] at hrefused htaken
  refine ⟨⟨?_, .exp mantissa_one hletter hzero.exponent⟩, ?_, ?_⟩
  · rw [Bool.eq_false_iff, ne_eq, hrefused]
    exact fun h => hzero.not_scan ((Number.exp_iff mantissa_one hletter).1 h)
  · exact htaken.2 (.exp mantissa_one hletter hsigns.scan)
  · exact fun h => hsigns.not_exponent ((Number.exp_iff mantissa_one hletter).1 h)

theorem getNum_rfc_iff_one :
    (getNum ([chr '1'] ++ [chr ','])).isSome = true ↔ RfcNumber [chr '1'] := by
  refine (getNum_rfc_iff (List.forall_mem_singleton.2 (by decide)) (.inr ⟨by decide, by decide⟩)).2 ?_
  rintro ⟨m, e, x, heq, hm, he, -⟩
  have hmem : e ∈ [chr '1'] := heq ▸ List.mem_append_right m List.mem_cons_self
  rw [mantissa_one.no_exp e hmem] at he
  cases he

end PtpMgmt.Json
