import PtpMgmt.Json.Texts

set_option autoImplicit false

/-! # Octets in hexadecimal text (`bin.cpp`)

`fromHex` and `fromId` cut a text into tokens and give the pieces to `strtol`, which reads more than digits:
white space and a sign before them, and a prefix. What is accepted so is told exactly, and beside it what the
text is to be: digits, in runs between separators. -/

namespace PtpMgmt

open Json

namespace Binary

/-! ## The functions of the object -/

/-- `Binary::toHex` and `Binary::bufToHex`. -/
def toHex (b : Binary) : Text := b.flatMap hexOctet

/-- `Binary::fromHex`: whether it succeeds, and the object after it. -/
def setHex (self : Binary) (hex : Text) : Bool × Binary :=
  match fromHex hex with
  | none => (false, self)
  | some id => (true, id)

/-- `Binary::fromId`. -/
def setId (self : Binary) (str : Text) : Bool × Binary :=
  match fromId str with
  | none => (false, self)
  | some id => (true, id)

/-! ## What the text is to be -/

/-- The runs of a text between its separators. -/
def runs (str : Text) : List Text := (str.splitOnP isIdSep).filter fun run => decide (run ≠ [])

/-- The octet that digits denote. -/
def octetOf (digits : Text) : UInt8 := UInt8.ofNat (magnitude 16 digits)

/-- Digits and separators, and nothing else. -/
def Clean (str : Text) : Prop := ∀ c ∈ str, isXDigit c = true ∨ isIdSep c = true

/-- Digits in runs, at least one, and the octets of two digits that each run is cut into. -/
structure HexText (str : Text) (b : Binary) : Prop where
  clean : Clean str
  digit : ∃ c ∈ str, isXDigit c = true
  octets : b = ((runs str).flatMap nibbles).map octetOf

/-- Digits in runs, each of which is an octet. -/
structure IdText (str : Text) (b : Binary) : Prop where
  clean : Clean str
  small : ∀ run ∈ runs str, magnitude 16 run ≤ 0xff
  octets : b = (runs str).map octetOf

/-! ## What is accepted -/

/-- What `strtol` takes for an octet: digits, and before them white space, a sign and a prefix. -/
structure Lax (t : Text) (v : UInt8) : Prop where
  shape : ∃ space sign pre digits, t = space ++ sign ++ pre ++ digits ∧
    (∀ c ∈ space, isCSpace c = true) ∧ (sign = [] ∨ sign = [chr '+']) ∧
    (pre = [] ∨ pre = [chr '0', chr 'x'] ∨ pre = [chr '0', chr 'X']) ∧
    digits ≠ [] ∧ (∀ c ∈ digits, isXDigit c = true) ∧ magnitude 16 digits ≤ 0xff ∧ v = octetOf digits

/-! ## Characters -/

/-- The classes of a character that `strtol` tells apart. -/
theorem xdigit_spec {c : UInt8} (h : isXDigit c = true) : digitVal c < 16 ∧ isCSpace c = false ∧
    isIdSep c = false ∧ c ≠ chr '+' ∧ c ≠ chr 'x' ∧ c ≠ chr 'X' ∧ c ≠ 0 := by
  rcases exists_xdigit h with ⟨d, rfl⟩ | ⟨d, rfl⟩ | ⟨d, rfl⟩
  · clear h
    revert d
    decide
  · clear h
    revert d
    decide
  · clear h
    revert d
    decide

theorem digitVal_lt_iff (c : UInt8) : digitVal c < 16 ↔ isXDigit c = true := by
  have hall : ∀ n : Fin 256, digitVal (UInt8.ofNat n.val) < 16 ↔ isXDigit (UInt8.ofNat n.val) = true := by
    decide +kernel
  simpa using hall ⟨c.toNat, c.toNat_lt⟩

theorem space_spec {c : UInt8} (h : isCSpace c = true) : c ≠ chr '+' ∧ c ≠ chr '-' ∧ isXDigit c = false ∧
    isIdSep c = false := by
  simp only [isCSpace, Bool.or_eq_true, beq_iff_eq, Bool.and_eq_true, decide_eq_true_eq] at h
  rcases h with rfl | ⟨hlo, hhi⟩
  · decide
  · obtain ⟨k, rfl⟩ := @exists_between 0x09 0x0d c hlo hhi
    clear hlo hhi
    revert k
    decide

/-! ## One octet -/

/-- A text of digits only. -/
def readDigits (digits : Text) : Option UInt8 :=
  if digits ≠ [] ∧ digits.all isXDigit = true ∧ magnitude 16 digits ≤ 0xff then some (octetOf digits)
  else none

def skipPlus (t : Text) : Text := if t.head? = some (chr '+') then t.tail else t

theorem takeWhile_digits {digits : Text} (h : ∀ c ∈ digits, isXDigit c = true) :
    digits.takeWhile (fun c => decide (digitVal c < 16)) = digits := by
  rw [List.takeWhile_eq_self_iff]
  intro c hc
  exact decide_eq_true ((digitVal_lt_iff c).2 (h c hc))

theorem dropWhile_digits_iff (digits : Text) :
    digits.dropWhile (fun c => decide (digitVal c < 16)) = [] ↔ ∀ c ∈ digits, isXDigit c = true := by
  rw [List.dropWhile_eq_nil_iff]
  simp only [decide_eq_true_eq, digitVal_lt_iff]

/-- Without a minus the steps of `strtol` follow one another. -/
theorem parseByte_eq {t : Text} (hminus : chr '-' ∉ t) :
    parseByte t = readDigits (skipHexPrefix (skipPlus (t.dropWhile isCSpace))) := by
  have hhead : (t.dropWhile isCSpace).head? ≠ some (chr '-') := by
    intro h
    exact hminus ((List.dropWhile_sublist _).subset (List.mem_of_head? h))
  have hneg : decide ((t.dropWhile isCSpace).head? = some (chr '-')) = false := decide_eq_false hhead
  unfold parseByte readDigits
  simp only [hneg, Bool.false_or, Bool.false_and, Bool.false_eq_true, false_or, decide_eq_true_eq]
  rw [show (if (t.dropWhile isCSpace).head? = some (chr '+') then (t.dropWhile isCSpace).tail
    else t.dropWhile isCSpace) = skipPlus (t.dropWhile isCSpace) from rfl]
  generalize skipHexPrefix (skipPlus (t.dropWhile isCSpace)) = z
  by_cases hdigits : ∀ c ∈ z, isXDigit c = true
  · have hdrop := (dropWhile_digits_iff z).2 hdigits
    rw [takeWhile_digits hdigits, hdrop]
    by_cases hz : z = []
    · simp [hz]
    · by_cases hbig : magnitude 16 z > 0xff
      · rw [if_pos (.inr (.inr hbig)), if_neg (fun h => Nat.not_lt.2 h.2.2 hbig)]
      · rw [if_neg (by simp [hz, hbig]), if_pos ⟨hz, List.all_eq_true.2 hdigits, Nat.not_lt.1 hbig⟩]
        rfl
  · rw [if_pos (.inr (.inl (mt (dropWhile_digits_iff z).1 hdigits))),
      if_neg (fun h => hdigits (List.all_eq_true.1 h.2.1))]

theorem skipHexPrefix_digits {digits : Text} (h : ∀ c ∈ digits, isXDigit c = true) :
    skipHexPrefix digits = digits := by
  unfold skipHexPrefix
  split
  · next c x d r =>
    refine if_neg ?_
    rintro ⟨-, hx, -⟩
    obtain ⟨-, -, -, -, hlower, hupper, -⟩ := xdigit_spec (h x (by simp))
    exact hx.elim hlower hupper
  · rfl

/-- The tail of a prefix, or nothing is skipped. -/
theorem skipHexPrefix_cases (t : Text) : ∃ pre, t = pre ++ skipHexPrefix t ∧
    (pre = [] ∨ pre = [chr '0', chr 'x'] ∨ pre = [chr '0', chr 'X']) := by
  unfold skipHexPrefix
  split
  · next c x d r =>
    split_ifs with hpre
    · obtain ⟨rfl, hx, -⟩ := hpre
      refine ⟨[chr '0', x], rfl, .inr ?_⟩
      rcases hx with rfl | rfl
      · exact .inl rfl
      · exact .inr rfl
    · exact ⟨[], rfl, .inl rfl⟩
  · exact ⟨[], rfl, .inl rfl⟩

theorem skipHexPrefix_append {pre digits : Text}
    (hpre : pre = [] ∨ pre = [chr '0', chr 'x'] ∨ pre = [chr '0', chr 'X']) (hne : digits ≠ [])
    (h : ∀ c ∈ digits, isXDigit c = true) : skipHexPrefix (pre ++ digits) = digits := by
  obtain ⟨d, r, rfl⟩ := List.exists_cons_of_ne_nil hne
  have hd := h d List.mem_cons_self
  rcases hpre with rfl | rfl | rfl
  · exact skipHexPrefix_digits h
  · exact if_pos ⟨rfl, .inl rfl, hd⟩
  · exact if_pos ⟨rfl, .inr rfl, hd⟩

theorem prefixed_head {pre digits : Text}
    (hpre : pre = [] ∨ pre = [chr '0', chr 'x'] ∨ pre = [chr '0', chr 'X']) (hne : digits ≠ [])
    (h : ∀ c ∈ digits, isXDigit c = true) : ∃ c r, pre ++ digits = c :: r ∧ isXDigit c = true := by
  obtain ⟨d, r, rfl⟩ := List.exists_cons_of_ne_nil hne
  rcases hpre with rfl | rfl | rfl
  · exact ⟨d, r, rfl, h d List.mem_cons_self⟩
  · exact ⟨_, _, rfl, by decide⟩
  · exact ⟨_, _, rfl, by decide⟩

theorem skipPlus_cases (t : Text) : ∃ sign, t = sign ++ skipPlus t ∧ (sign = [] ∨ sign = [chr '+']) := by
  unfold skipPlus
  split_ifs with hplus
  · obtain ⟨r, rfl⟩ := List.head?_eq_some_iff.1 hplus
    exact ⟨[chr '+'], rfl, .inr rfl⟩
  · exact ⟨[], rfl, .inl rfl⟩

/-- **One octet**: what is accepted, and the octet it is read as. -/
theorem parseByte_iff {t : Text} (hminus : chr '-' ∉ t) (v : UInt8) : parseByte t = some v ↔ Lax t v := by
  rw [parseByte_eq hminus, readDigits]
  constructor
  · intro h
    split_ifs at h with hread
    obtain ⟨hne, hdigits, hsmall⟩ := hread
    obtain ⟨sign, hsign, hplus⟩ := skipPlus_cases (t.dropWhile isCSpace)
    obtain ⟨pre, hpre, hx⟩ := skipHexPrefix_cases (skipPlus (t.dropWhile isCSpace))
    refine ⟨t.takeWhile isCSpace, sign, pre, _, ?_, fun c hc => List.mem_takeWhile_imp hc, hplus, hx, hne,
      List.all_eq_true.1 hdigits, hsmall, (Option.some.inj h).symm⟩
    rw [List.append_assoc, List.append_assoc, ← hpre, ← hsign, List.takeWhile_append_dropWhile]
  · rintro ⟨space, sign, pre, digits, rfl, hspace, hsign, hpre, hne, hdigits, hsmall, rfl⟩
    obtain ⟨c, r, hbody, hc⟩ := prefixed_head hpre hne hdigits
    obtain ⟨-, hcspace, -, hcplus, -⟩ := xdigit_spec hc
    have hspaces : (space ++ sign ++ pre ++ digits).dropWhile isCSpace = sign ++ (pre ++ digits) := by
      rw [List.append_assoc, List.append_assoc, List.dropWhile_append_of_pos hspace, hbody]
      rcases hsign with rfl | rfl
      · exact List.dropWhile_cons_of_neg (by simp [hcspace])
      · exact List.dropWhile_cons_of_neg (by decide)
    have hplus : skipPlus (sign ++ (pre ++ digits)) = pre ++ digits := by
      unfold skipPlus
      rcases hsign with rfl | rfl
      · rw [List.nil_append, hbody, List.head?_cons, if_neg (fun h => hcplus (Option.some.inj h))]
      · rfl
    rw [hspaces, hplus, skipHexPrefix_append hpre hne hdigits,
      if_pos ⟨hne, List.all_eq_true.2 hdigits, hsmall⟩]

/-- Nothing but digits is left of what is accepted when none of its other characters are there. -/
theorem Lax.digits {t : Text} {v : UInt8} (h : Lax t v) (hclean : ∀ c ∈ t, isXDigit c = true) :
    magnitude 16 t ≤ 0xff ∧ v = octetOf t := by
  obtain ⟨space, sign, pre, digits, rfl, hspace, hsign, hpre, -, -, hsmall, rfl⟩ := h
  have hnone : space = [] ∧ sign = [] ∧ pre = [] := by
    refine ⟨?_, ?_, ?_⟩
    · refine List.eq_nil_iff_forall_not_mem.2 fun c hc => ?_
      obtain ⟨-, -, hdigit, -⟩ := space_spec (hspace c hc)
      rw [hclean c (by simp [hc])] at hdigit
      cases hdigit
    · rcases hsign with rfl | rfl
      · rfl
      · exact absurd (hclean (chr '+') (by simp)) (by decide)
    · rcases hpre with rfl | rfl | rfl
      · rfl
      · exact absurd (hclean (chr 'x') (by simp)) (by decide)
      · exact absurd (hclean (chr 'X') (by simp)) (by decide)
  obtain ⟨rfl, rfl, rfl⟩ := hnone
  exact ⟨hsmall, rfl⟩

/-! ## Tokens -/

theorem tokensFrom_eq {token : Text} (h : ∀ c ∈ token, isIdSep c = false) (str : Text) :
    tokensFrom token str = ((token ++ str).splitOnP isIdSep).filter fun run => decide (run ≠ []) := by
  induction str generalizing token with
  | nil =>
    rw [List.append_nil, List.splitOnP_eq_singleton h, tokensFrom]
    by_cases htoken : token = [] <;> simp [htoken]
  | cons c r ih =>
    rw [tokensFrom]
    by_cases hsep : isIdSep c = true
    · rw [if_pos hsep, List.splitOnP_append_cons_of_forall_mem h _ hsep, @ih [] (fun _ hc => absurd hc List.not_mem_nil), List.nil_append]
      by_cases htoken : token = [] <;> simp [htoken]
    · rw [if_neg hsep, ih, List.append_assoc]
      · rfl
      · intro d hd
        rcases List.mem_append.1 hd with hd | hd
        · exact h d hd
        · rw [List.mem_singleton.1 hd]
          exact Bool.eq_false_iff.2 hsep

/-- The tokens of `strtok_r` are the runs, up to the first NUL. -/
theorem tokens_eq (str : Text) : tokens str = runs (cStr str) :=
  @tokensFrom_eq [] (fun _ hc => absurd hc List.not_mem_nil) _

/-- The pieces between the separators have the characters of the text that separate nothing. -/
theorem mem_splitOnP (str : Text) (c : UInt8) :
    (∃ run ∈ str.splitOnP isIdSep, c ∈ run) ↔ c ∈ str ∧ isIdSep c = false := by
  induction str with
  | nil => simp
  | cons d r ih =>
    rw [List.splitOnP_cons_eq_if_modifyHead]
    by_cases hsep : isIdSep d = true
    · rw [if_pos hsep]
      have hother : c = d → isIdSep c = true := fun h => h ▸ hsep
      simp only [List.mem_cons, exists_eq_or_imp, List.not_mem_nil, false_or, ih]
      constructor
      · rintro ⟨hc, hno⟩
        exact ⟨.inr hc, hno⟩
      · rintro ⟨rfl | hc, hno⟩
        · rw [hother rfl] at hno
          cases hno
        · exact ⟨hc, hno⟩
    · rw [if_neg hsep]
      have hno : isIdSep d = false := Bool.eq_false_iff.2 hsep
      obtain ⟨head, tail, hsplit⟩ := List.exists_cons_of_ne_nil (List.splitOnP_ne_nil isIdSep r)
      rw [hsplit] at ih ⊢
      simp only [List.modifyHead_cons, List.mem_cons, exists_eq_or_imp] at ih ⊢
      rw [or_assoc, ih]
      constructor
      · rintro (rfl | ⟨hc, hclean⟩)
        · exact ⟨.inl rfl, hno⟩
        · exact ⟨.inr hc, hclean⟩
      · rintro ⟨rfl | hc, hclean⟩
        · exact .inl rfl
        · exact .inr ⟨hc, hclean⟩

theorem mem_runs (str : Text) (c : UInt8) : (∃ run ∈ runs str, c ∈ run) ↔ c ∈ str ∧ isIdSep c = false := by
  rw [← mem_splitOnP]
  constructor
  · rintro ⟨run, hrun, hc⟩
    exact ⟨run, (List.mem_filter.1 hrun).1, hc⟩
  · rintro ⟨run, hrun, hc⟩
    exact ⟨run, List.mem_filter.2 ⟨hrun, decide_eq_true (List.ne_nil_of_mem hc)⟩, hc⟩

/-- The pieces of a token have its characters. -/
theorem mem_nibbles (token : Text) (c : UInt8) : (∃ window ∈ nibbles token, c ∈ window) ↔ c ∈ token := by
  induction token using nibbles.induct with
  | case1 a b r ih =>
    rw [nibbles]
    simp only [List.mem_cons, exists_eq_or_imp, ih, List.not_mem_nil, or_false]
    exact or_assoc
  | case2 a => simp [nibbles]
  | case3 => simp [nibbles]

theorem parseBytes_iff (tokens : List Text) (b : Binary) :
    parseBytes tokens = some b ↔ List.Forall₂ (fun token v => parseByte token = some v) tokens b := by
  induction tokens generalizing b with
  | nil =>
    rw [parseBytes, List.forall₂_nil_left_iff, Option.some.injEq]
    exact eq_comm
  | cons token tokens ih =>
    rw [parseBytes, List.forall₂_cons_left_iff, Option.bind_eq_some_iff]
    simp only [Option.map_eq_some_iff, ih]
    constructor
    · rintro ⟨v, hv, r, hr, rfl⟩
      exact ⟨v, r, hv, hr, rfl⟩
    · rintro ⟨v, r, hv, hr, rfl⟩
      exact ⟨v, hv, r, hr, rfl⟩

theorem parseBytes_isSome_iff (tokens : List Text) :
    (∃ b, parseBytes tokens = some b) ↔ ∀ token ∈ tokens, ∃ v, parseByte token = some v := by
  induction tokens with
  | nil => exact iff_of_true ⟨[], rfl⟩ nofun
  | cons token tokens ih =>
    rw [List.forall_mem_cons, ← ih]
    simp only [parseBytes, Option.bind_eq_some_iff, Option.map_eq_some_iff]
    constructor
    · rintro ⟨_, v, hv, r, hr, -⟩
      exact ⟨⟨v, hv⟩, r, hr⟩
    · rintro ⟨⟨v, hv⟩, r, hr⟩
      exact ⟨v :: r, v, hv, r, hr, rfl⟩

/-! ## What goes wrong -/

/-- Every octet that `fromHex` cuts out of the text, up to its first NUL, is one for `strtol`. -/
def HexAccepted (str : Text) : Prop :=
  str ≠ [] ∧ ∀ window ∈ (runs (cStr str)).flatMap nibbles, ∃ v, Lax window v

/-- Every run of the text, up to its first NUL, is an octet for `strtol`. -/
def IdAccepted (str : Text) : Prop := 2 ≤ str.length ∧ ∀ run ∈ runs (cStr str), ∃ v, Lax run v

/-- A NUL, white space, a plus or the letter of a prefix. -/
def Foreign (str : Text) : Prop :=
  ∃ c ∈ str, c = 0 ∨ c = chr '+' ∨ c = chr 'x' ∨ c = chr 'X' ∨ isCSpace c = true

theorem Foreign.not_clean {str : Text} (h : Foreign str) : ¬ Clean str := by
  obtain ⟨c, hc, hforeign⟩ := h
  intro hclean
  have hno : isXDigit c = false ∧ isIdSep c = false := by
    rcases hforeign with rfl | rfl | rfl | rfl | hspace
    · decide
    · decide
    · decide
    · decide
    · exact (space_spec hspace).2.2
  rcases hclean c hc with hdigit | hsep
  · rw [hno.1] at hdigit
    cases hdigit
  · rw [hno.2] at hsep
    cases hsep

theorem Lax.mem {t : Text} {v c : UInt8} (h : Lax t v) (hc : c ∈ t) : isXDigit c = true ∨
    c = chr '+' ∨ c = chr 'x' ∨ c = chr 'X' ∨ isCSpace c = true := by
  obtain ⟨space, sign, pre, digits, rfl, hspace, hsign, hpre, -, hdigits, -, -⟩ := h
  simp only [List.mem_append] at hc
  rcases hc with ((hc | hc) | hc) | hc
  · exact .inr (.inr (.inr (.inr (hspace c hc))))
  · rcases hsign with rfl | rfl
    · cases hc
    · exact .inr (.inl (List.mem_singleton.1 hc))
  · rcases hpre with rfl | rfl | rfl <;> simp only [List.mem_cons, List.not_mem_nil, or_false] at hc
    · rcases hc with rfl | rfl
      · exact .inl (by decide)
      · exact .inr (.inr (.inl rfl))
    · rcases hc with rfl | rfl
      · exact .inl (by decide)
      · exact .inr (.inr (.inr (.inl rfl)))
  · exact .inl (hdigits c hc)

/-- The cuts of a text that only has the characters of its runs, each in one of them. -/
structure Cuts (str : Text) (pieces : List Text) : Prop where
  mem : ∀ c, (∃ piece ∈ pieces, c ∈ piece) ↔ c ∈ str ∧ isIdSep c = false

theorem runs_cuts (str : Text) : Cuts str (runs str) := ⟨mem_runs str⟩

theorem windows_cuts (str : Text) : Cuts str ((runs str).flatMap nibbles) where
  mem c := by
    rw [← mem_runs]
    simp only [List.mem_flatMap]
    constructor
    · rintro ⟨window, ⟨run, hrun, hwindow⟩, hc⟩
      exact ⟨run, hrun, (mem_nibbles run c).1 ⟨window, hwindow, hc⟩⟩
    · rintro ⟨run, hrun, hc⟩
      obtain ⟨window, hwindow, hc⟩ := (mem_nibbles run c).2 hc
      exact ⟨window, ⟨run, hrun, hwindow⟩, hc⟩

theorem Cuts.no_minus {str : Text} {pieces : List Text} (h : Cuts str pieces) {piece : Text}
    (hpiece : piece ∈ pieces) : chr '-' ∉ piece := by
  intro hc
  have hsep := ((h.mem _).1 ⟨piece, hpiece, hc⟩).2
  exact absurd hsep (by decide)

theorem cStr_eq_self {str : Text} (h : (0 : UInt8) ∉ str) : cStr str = str := by
  rw [cStr, List.takeWhile_eq_self_iff]
  intro c hc
  exact decide_eq_true fun h0 => h (h0 ▸ hc)

/-- A text whose pieces are all accepted is clean when nothing foreign is in it. -/
theorem Cuts.clean {str : Text} {pieces : List Text} (h : Cuts str pieces)
    (hlax : ∀ piece ∈ pieces, ∃ v, Lax piece v) (hforeign : ¬ Foreign str) : Clean str := by
  intro c hc
  by_cases hsep : isIdSep c = true
  · exact .inr hsep
  · obtain ⟨piece, hpiece, hmem⟩ := (h.mem c).2 ⟨hc, Bool.eq_false_iff.2 hsep⟩
    obtain ⟨v, hv⟩ := hlax piece hpiece
    rcases hv.mem hmem with hdigit | hother
    · exact .inl hdigit
    · exact absurd ⟨c, hc, .inr hother⟩ hforeign

theorem Cuts.digits {str : Text} {pieces : List Text} (h : Cuts str pieces) (hclean : Clean str)
    {piece : Text} (hpiece : piece ∈ pieces) : ∀ c ∈ piece, isXDigit c = true := by
  intro c hc
  obtain ⟨hmem, hsep⟩ := (h.mem c).1 ⟨piece, hpiece, hc⟩
  rcases hclean c hmem with hdigit | hno
  · exact hdigit
  · rw [hsep] at hno
    cases hno

/-- The octets of clean pieces are those that their digits denote. -/
theorem Cuts.octets {str : Text} {pieces : List Text} (h : Cuts str pieces) (hclean : Clean str)
    {b : Binary} (hread : parseBytes pieces = some b) :
    b = pieces.map octetOf ∧ ∀ piece ∈ pieces, magnitude 16 piece ≤ 0xff := by
  have hpieces : ∀ piece ∈ pieces, ∀ v, parseByte piece = some v →
      magnitude 16 piece ≤ 0xff ∧ v = octetOf piece := by
    intro piece hpiece v hv
    exact ((parseByte_iff (h.no_minus hpiece) v).1 hv).digits (h.digits hclean hpiece)
  have hall := (parseBytes_iff pieces b).1 hread
  constructor
  · clear h hread
    induction hall with
    | nil => rfl
    | cons hv _ ih =>
      rw [List.map_cons, ← (hpieces _ List.mem_cons_self _ hv).2,
        ← ih fun piece hpiece => hpieces piece (List.mem_cons_of_mem _ hpiece)]
  · intro piece hpiece
    obtain ⟨v, hv⟩ := (parseBytes_isSome_iff pieces).1 ⟨b, hread⟩ piece hpiece
    exact (hpieces piece hpiece v hv).1

theorem Cuts.accepted_iff {str : Text} {pieces : List Text} (h : Cuts str pieces) :
    (∃ b, parseBytes pieces = some b) ↔ ∀ piece ∈ pieces, ∃ v, Lax piece v := by
  rw [parseBytes_isSome_iff]
  refine forall₂_congr fun piece hpiece => exists_congr fun v => ?_
  exact parseByte_iff (h.no_minus hpiece) v

theorem fromHex_isSome_iff (str : Text) : (∃ b, fromHex str = some b) ↔ HexAccepted str := by
  rw [HexAccepted, ← (windows_cuts (cStr str)).accepted_iff, fromHex, tokens_eq]
  by_cases hne : str = [] <;> simp [hne]

theorem fromId_isSome_iff (str : Text) : (∃ b, fromId str = some b) ↔ IdAccepted str := by
  rw [IdAccepted, ← (runs_cuts (cStr str)).accepted_iff, fromId, tokens_eq, ← Nat.not_lt]
  by_cases hshort : str.length < 2 <;> simp [hshort]

/-- `fromHex` does what it is to do: it takes a text of digits, as its octets, and else leaves the object as
    it is. -/
def HexRight (self : Binary) (str : Text) : Prop :=
  ((setHex self str).1 = true → HexText str (setHex self str).2) ∧
    ((setHex self str).1 = false → (setHex self str).2 = self)

/-- `fromId` does. -/
def IdRight (self : Binary) (str : Text) : Prop :=
  ((setId self str).1 = true → IdText str (setId self str).2) ∧
    ((setId self str).1 = false → (setId self str).2 = self)

theorem hexRight_iff (self : Binary) (str : Text) :
    HexRight self str ↔ ¬ (HexAccepted str ∧ (Foreign str ∨ ∀ c ∈ str, isIdSep c = true)) := by
  rw [HexRight, setHex, ← fromHex_isSome_iff]
  cases hread : fromHex str with
  | none => simp
  | some b =>
    have haccepted := (fromHex_isSome_iff str).1 ⟨b, hread⟩
    simp only [forall_const, Bool.true_eq_false, false_implies, and_true, Option.some.injEq, exists_eq',
      true_and, not_or]
    constructor
    · intro h
      refine ⟨fun hforeign => hforeign.not_clean h.clean, fun hseps => ?_⟩
      obtain ⟨c, hc, hdigit⟩ := h.digit
      have hno := (xdigit_spec hdigit).2.2.1
      rw [hseps c hc] at hno
      cases hno
    · rintro ⟨hforeign, hseps⟩
      have hself : cStr str = str := cStr_eq_self fun h0 => hforeign ⟨0, h0, .inl rfl⟩
      have hlax := haccepted.2
      rw [hself] at hlax
      have hclean := (windows_cuts str).clean hlax hforeign
      have hparse : parseBytes ((runs str).flatMap nibbles) = some b := by
        rw [fromHex, if_neg haccepted.1, tokens_eq, hself] at hread
        exact hread
      refine ⟨hclean, ?_, ((windows_cuts str).octets hclean hparse).1⟩
      push Not at hseps
      obtain ⟨c, hc, hsep⟩ := hseps
      exact ⟨c, hc, (hclean c hc).resolve_right hsep⟩

theorem idRight_iff (self : Binary) (str : Text) :
    IdRight self str ↔ ¬ (IdAccepted str ∧ Foreign str) := by
  rw [IdRight, setId, ← fromId_isSome_iff]
  cases hread : fromId str with
  | none => simp
  | some b =>
    have haccepted := (fromId_isSome_iff str).1 ⟨b, hread⟩
    simp only [forall_const, Bool.true_eq_false, false_implies, and_true, Option.some.injEq, exists_eq',
      true_and]
    constructor
    · intro h hforeign
      exact hforeign.not_clean h.clean
    · intro hforeign
      have hself : cStr str = str := cStr_eq_self fun h0 => hforeign ⟨0, h0, .inl rfl⟩
      have hlax := haccepted.2
      rw [hself] at hlax
      have hclean := (runs_cuts str).clean hlax hforeign
      have hparse : parseBytes (runs str) = some b := by
        rw [fromId, if_neg (Nat.not_lt.2 haccepted.1), tokens_eq, hself] at hread
        exact hread
      obtain ⟨hoctets, hsmall⟩ := (runs_cuts str).octets hclean hparse
      exact ⟨hclean, hsmall, hoctets⟩

/-! ## Round trips -/

theorem fromHex_toHex {b : Binary} (hne : b ≠ []) : fromHex (toHex b) = some b := by
  have htext : toHex b ≠ [] := flatMap_hexOctet_ne_nil hne
  have htokens : tokens (toHex b) = [toHex b] := by
    rw [tokens, cStr_isSelf (t := toHex b) (flatMap_self hexOctet_self b)]
    exact tokensFrom_last (flatMap_hexOctet_noSep b) htext
  rw [fromHex, if_neg htext, htokens, List.flatMap_cons, List.flatMap_nil, List.append_nil, toHex,
    nibbles_hexOctet, parseBytes_hexOctet]

/-! ## The parsers of octets -/

/-- For every text: `fromHex` does what it is to do unless it accepts a text with a foreign character or
    without digits, and `fromId` unless it accepts one with a foreign character. And every object is read
    back from both its texts. -/
theorem hexId_iff (self : Binary) :
    (∀ str : Text,
      (HexRight self str ↔ ¬ (HexAccepted str ∧ (Foreign str ∨ ∀ c ∈ str, isIdSep c = true))) ∧
      (IdRight self str ↔ ¬ (IdAccepted str ∧ Foreign str))) ∧
    ∀ b : Binary, b ≠ [] → setHex self (toHex b) = (true, b) ∧ setId self (toId b) = (true, b) := by
  refine ⟨fun str => ⟨hexRight_iff self str, idRight_iff self str⟩, fun b hne => ?_⟩
  rw [setHex, setId, fromHex_toHex hne, fromId_toId hne]
  exact ⟨rfl, rfl⟩

/-- A MAC address in both texts. -/
theorem hexId_iff_mac : setHex [] (toHex [0, 0x1b, 0x19]) = (true, [0, 0x1b, 0x19]) ∧
    setId [] (toId [0, 0x1b, 0x19]) = (true, [0, 0x1b, 0x19]) :=
  (hexId_iff []).2 [0, 0x1b, 0x19] (List.cons_ne_nil _ _)

/-- A plus counts as a digit, a separator alone as a text of octets, and a prefix as part of an octet. -/
theorem hexId_lax : ¬ HexRight [] (txt "+a") ∧ ¬ HexRight [] (txt ":") ∧ ¬ IdRight [] (txt "0xff") := by
  refine ⟨fun h => ?_, fun h => ?_, fun h => ?_⟩
  · have hclean := (h.1 (by decide)).clean (chr '+') (by decide)
    exact absurd hclean (by decide)
  · obtain ⟨c, hc, hdigit⟩ := (h.1 (by decide)).digit
    rw [List.mem_singleton.1 hc] at hdigit
    exact absurd hdigit (by decide)
  · have hclean := (h.1 (by decide)).clean (chr 'x') (by decide)
    exact absurd hclean (by decide)

end Binary

end PtpMgmt
