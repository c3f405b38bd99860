import Mathlib.Tactic.Common

set_option autoImplicit false

/-! # The JSON parser (`jsonParser.cpp`)

A text is a `std::string`, any octets. The cursor of the parser is the text from `*cur` on. A file is read
in chunks, each of which ends with a zero in the buffer of the reader; the cursor of a file therefore is
the rest of all chunks with a zero after each of them, and a buffer is a text without a zero. So the one
`isEOF` below does for both: a zero asks for the next chunk, and the end comes with the last one. -/

namespace PtpMgmt.Json

/-- `std::string`. -/
abbrev Text := List UInt8

/-- A character of the source. -/
def chr (c : Char) : UInt8 := c.toUInt8

/-- A text of the source. -/
def txt (s : String) : Text := s.toList.map chr

/-- The kernel takes a literal apart at once this way. -/
theorem txt_ofList (l : List Char) : txt (String.ofList l) = l.map chr := by
  rw [txt, String.toList_ofList]

/-- The brackets of an object. -/
def leftCurly : UInt8 := 0x7b

def rightCurly : UInt8 := 0x7d

/-! ## Values -/

/-- `jsonValue`, `jsonObject` and `jsonArray`. A number is kept as its text, with the places of the dot and
    of the exponent; the members of an object are a `std::multimap`: in the order of the keys, and those
    with the same key in the order they came. -/
inductive Value
  | str (val : Text)
  | num (val : Text) (dotLoc eLoc : Nat)
  | bool (val : Bool)
  | null
  | obj (members : List (Text × Value))
  | arr (elements : List Value)

/-- `members.insert`: after the members with keys that are not larger. The keys are compared as lists of
    octets, as `std::string` does. -/
def insertMember (key : Text) (e : Value) : List (Text × Value) → List (Text × Value)
  | [] => [(key, e)]
  | m :: ms => if key < m.1 then (key, e) :: m :: ms else m :: insertMember key e ms

/-! ## The cursor -/

/-- `*cur`. -/
def peek (cur : Text) : UInt8 := cur.headD 0

@[simp] theorem peek_cons (c : UInt8) (r : Text) : peek (c :: r) = c := rfl

/-- `isEOF`: nothing at the end, else the cursor, in the next chunk when this one is done. -/
def isEOF : Text → Option Text
  | [] => none
  | 0 :: r => if r = [] then none else some r
  | c :: r => some (c :: r)

theorem isEOF_cons {c : UInt8} (hc : c ≠ 0) (r : Text) : isEOF (c :: r) = some (c :: r) := by
  unfold isEOF
  split
  · next h => cases h
  · next h =>
      cases h
      exact absurd rfl hc
  · next h => rw [h]

theorem isEOF_length {cur cur' : Text} (h : isEOF cur = some cur') : cur'.length ≤ cur.length := by
  unfold isEOF at h
  split at h
  · cases h
  · split at h
    · cases h
    · cases h
      simp
  · cases h
    exact Nat.le_refl _

theorem isEOF_ne_nil {cur cur' : Text} (h : isEOF cur = some cur') : cur' ≠ [] := by
  unfold isEOF at h
  split at h
  · cases h
  · split at h
    · cases h
    · next hr =>
        cases h
        exact hr
  · cases h
    simp

/-- A text without a zero, as in a buffer. -/
def Plain (cur : Text) : Prop := ∀ c ∈ cur, c ≠ 0

instance Plain.decidable (cur : Text) : Decidable (Plain cur) :=
  decidable_of_iff (cur.all (fun c => decide (c ≠ 0)) = true) (by simp [Plain])

theorem Plain.of_suffix {cur cur' : Text} (h : Plain cur) (hsuf : cur' <:+ cur) : Plain cur' :=
  fun c hc => h c (hsuf.subset hc)

/-- `skipBOM`. -/
def skipBOM : Text → Text
  | 0xef :: 0xbb :: 0xbf :: r => r
  | cur => cur

/-- White space. -/
def isSpace (c : UInt8) : Bool := c == chr '\n' || c == chr '\r' || c == chr '\t' || c == chr ' '

/-- `skip_ws`: nothing at the end. -/
def skipWs (cur : Text) : Option Text :=
  match _h : isEOF cur with
  | none => none
  | some cur' => if isSpace (peek cur') then skipWs cur'.tail else some cur'
termination_by cur.length
decreasing_by
  have hlen := isEOF_length _h
  have hpos := List.length_pos_iff.2 (isEOF_ne_nil _h)
  rw [List.length_tail]
  omega

theorem skipWs_none {cur : Text} (h : isEOF cur = none) : skipWs cur = none := by
  rw [skipWs]
  split <;> simp_all

theorem skipWs_some {cur cur' : Text} (h : isEOF cur = some cur') :
    skipWs cur = if isSpace (peek cur') then skipWs cur'.tail else some cur' := by
  rw [skipWs]
  split <;> simp_all

/-- The rest of a comment until the end of the line. -/
def skipLine : Text → Text
  | [] => []
  | c :: r => if c = 0 ∨ c = chr '\n' then c :: r else skipLine r

/-- The rest of a comment until its closing, with whether there is none. The first character of a new chunk
    is not looked at. -/
def skipBlock (haveCloseStar : Bool) : Text → Bool × Text
  | [] => (true, [])
  | 0 :: r =>
    match r with
    | [] => (true, [])
    | _ :: r' => skipBlock false r'
  | c :: r =>
    if c = chr '*' then skipBlock true r
    else if c = chr '/' ∧ haveCloseStar then (false, r)
    else if c = chr '/' then skipBlock haveCloseStar r
    else skipBlock false r

theorem skipBlock_cons {c : UInt8} (hc : c ≠ 0) (haveCloseStar : Bool) (r : Text) :
    skipBlock haveCloseStar (c :: r) =
      if c = chr '*' then skipBlock true r
      else if c = chr '/' ∧ haveCloseStar then (false, r)
      else if c = chr '/' then skipBlock haveCloseStar r
      else skipBlock false r := by
  rw [skipBlock]
  exact hc

/-- `skipComments`, with whether it is broken. The cursor moves on in any case. -/
def skipComments (cur : Text) : Bool × Text :=
  match cur.tail with
  | [] => (true, [])
  | c :: r =>
    if c = chr '/' then (false, skipLine r)
    else if c = chr '*' then skipBlock false r
    else (true, c :: r)

/-! ## Tokens -/

/-- `e_token`. -/
inductive Token
  | objSta
  | objEnd
  | arrSta
  | arrEnd
  | valSep
  | namSep
  | str
  | num
  | trueKey
  | falseKey
  | nullKey
  | eof
  | inv
deriving DecidableEq

def isDigit (c : UInt8) : Bool := decide (chr '0' ≤ c) && decide (c ≤ chr '9')

def isLower (c : UInt8) : Bool := decide (chr 'a' ≤ c) && decide (c ≤ chr 'z')

def isXDigit (c : UInt8) : Bool :=
  isDigit c || (decide (chr 'a' ≤ c) && decide (c ≤ chr 'f')) ||
    (decide (chr 'A' ≤ c) && decide (c ≤ chr 'F'))

/-- A character of a range has a place in it. -/
theorem exists_between {lo hi : Nat} {c : UInt8} (hlo : lo ≤ c.toNat) (hhi : c.toNat ≤ hi) :
    ∃ k : Fin (hi + 1 - lo), c = UInt8.ofNat (lo + k.val) :=
  ⟨⟨c.toNat - lo, by omega⟩, by rw [Nat.add_sub_cancel' hlo, UInt8.ofNat_toNat]⟩

theorem exists_digit {c : UInt8} (h : isDigit c = true) : ∃ d : Fin 10, c = UInt8.ofNat (0x30 + d.val) := by
  unfold isDigit at h
  rw [Bool.and_eq_true, decide_eq_true_eq, decide_eq_true_eq] at h
  exact @exists_between 0x30 0x39 c h.1 h.2

theorem exists_lower {c : UInt8} (h : isLower c = true) : ∃ d : Fin 26, c = UInt8.ofNat (0x61 + d.val) := by
  unfold isLower at h
  rw [Bool.and_eq_true, decide_eq_true_eq, decide_eq_true_eq] at h
  exact @exists_between 0x61 0x7a c h.1 h.2

/-- The digits and the letters of a hexadecimal number. -/
theorem exists_xdigit {c : UInt8} (h : isXDigit c = true) : (∃ d : Fin 10, c = UInt8.ofNat (0x30 + d.val)) ∨
    (∃ d : Fin 6, c = UInt8.ofNat (0x61 + d.val)) ∨ ∃ d : Fin 6, c = UInt8.ofNat (0x41 + d.val) := by
  simp only [isXDigit, Bool.or_eq_true, Bool.and_eq_true, decide_eq_true_eq] at h
  rcases h with (hdigit | ⟨hlo, hhi⟩) | ⟨hlo, hhi⟩
  · exact .inl (exists_digit hdigit)
  · exact .inr (.inl (@exists_between 0x61 0x66 c hlo hhi))
  · exact .inr (.inr (@exists_between 0x41 0x46 c hlo hhi))

/-- What ends a keyword or a number. `strchr` finds the zero too. -/
def isDelim (c : UInt8) : Bool :=
  c == chr ']' || c == rightCurly || c == chr ',' || isSpace c || c == 0

/-- The token of a keyword. -/
def keyToken (key : Text) : Token :=
  if key = txt "true" then .trueKey
  else if key = txt "false" then .falseKey
  else if key = txt "null" then .nullKey
  else .inv

/-- `getKey`. -/
def getKey (key : Text) (cur : Text) : Token × Text :=
  match _h : isEOF cur with
  | none => (keyToken key, cur)
  | some cur' =>
    if isDelim (peek cur') then (keyToken key, cur')
    else if isLower (peek cur') then getKey (key ++ [peek cur']) cur'.tail
    else (.inv, cur')
termination_by cur.length
decreasing_by
  have hlen := isEOF_length _h
  have hpos := List.length_pos_iff.2 (isEOF_ne_nil _h)
  rw [List.length_tail]
  omega

theorem getKey_none {key cur : Text} (h : isEOF cur = none) : getKey key cur = (keyToken key, cur) := by
  rw [getKey]
  split <;> simp_all

theorem getKey_some {key cur cur' : Text} (h : isEOF cur = some cur') :
    getKey key cur =
      if isDelim (peek cur') then (keyToken key, cur')
      else if isLower (peek cur') then getKey (key ++ [peek cur']) cur'.tail
      else (.inv, cur') := by
  rw [getKey]
  split <;> simp_all

theorem skipWs_length {cur cur' : Text} (h : skipWs cur = some cur') :
    cur'.length ≤ cur.length ∧ cur' ≠ [] := by
  fun_induction skipWs cur with
  | case1 => cases h
  | case2 cur cur₁ heof _ ih =>
      obtain ⟨hlen, hne⟩ := ih h
      have hlen' := isEOF_length heof
      rw [List.length_tail] at hlen
      exact ⟨by omega, hne⟩
  | case3 cur cur₁ heof =>
      cases h
      exact ⟨isEOF_length heof, isEOF_ne_nil heof⟩

theorem skipLine_length (cur : Text) : (skipLine cur).length ≤ cur.length := by
  induction cur with
  | nil => exact Nat.le_refl _
  | cons c r ih =>
      unfold skipLine
      split
      · exact Nat.le_refl _
      · exact Nat.le_succ_of_le ih

theorem skipBlock_length (haveCloseStar : Bool) (cur : Text) :
    (skipBlock haveCloseStar cur).2.length ≤ cur.length := by
  fun_induction skipBlock haveCloseStar cur with
  | case1 => exact Nat.le_refl _
  | case2 => exact Nat.zero_le _
  | case3 _ _ _ ih => exact Nat.le_trans ih (by simp only [List.length_cons]; omega)
  | case5 => exact Nat.le_succ _
  | _ => rename_i ih; exact Nat.le_succ_of_le ih

theorem skipComments_length {cur : Text} (hne : cur ≠ []) : (skipComments cur).2.length < cur.length := by
  have hpos := List.length_pos_iff.2 hne
  unfold skipComments
  split
  · exact hpos
  · next c r heq =>
      have hlen : cur.length = r.length + 2 := by
        have := congrArg List.length heq
        rw [List.length_tail] at this
        simp only [List.length_cons] at this
        omega
      split
      · have := skipLine_length r
        simp only
        omega
      · split
        · have := skipBlock_length false r
          omega
        · simp only [List.length_cons]
          omega

/-- The tokens that one character tells. -/
def charToken (c : UInt8) : Token :=
  if c = leftCurly then .objSta
  else if c = rightCurly then .objEnd
  else if c = chr '[' then .arrSta
  else if c = chr ']' then .arrEnd
  else if c = chr ',' then .valSep
  else if c = chr ':' then .namSep
  else if c = chr '"' then .str
  else if c = chr '-' || isDigit c then .num
  else .inv

theorem charToken_digit {c : UInt8} (h : isDigit c = true) : charToken c = .num := by
  obtain ⟨d, rfl⟩ := exists_digit h
  revert d
  decide

theorem charToken_lower {c : UInt8} (h : isLower c = true) : charToken c = .inv := by
  obtain ⟨d, rfl⟩ := exists_lower h
  revert d
  decide

/-- `getToken`. The token itself stays, except for a keyword. -/
def getToken (useComments : Bool) (cur : Text) : Token × Text :=
  match _hws : skipWs cur with
  | none => (.eof, [])
  | some cur' =>
    if peek cur' = chr '/' then
      if useComments then
        if (skipComments cur').1 then (.inv, (skipComments cur').2)
        else getToken useComments (skipComments cur').2
      else (.inv, cur')
    else if isLower (peek cur') then getKey [] cur'
    else (charToken (peek cur'), cur')
termination_by cur.length
decreasing_by
  obtain ⟨hlen, hne⟩ := skipWs_length _hws
  have hlt := skipComments_length hne
  omega

theorem getToken_none {useComments : Bool} {cur : Text} (h : skipWs cur = none) :
    getToken useComments cur = (.eof, []) := by
  rw [getToken]
  split <;> simp_all

theorem getToken_some {useComments : Bool} {cur cur' : Text} (h : skipWs cur = some cur')
    (hslash : peek cur' ≠ chr '/') :
    getToken useComments cur =
      if isLower (peek cur') then getKey [] cur' else (charToken (peek cur'), cur') := by
  rw [getToken]
  split <;> simp_all

theorem getToken_slash {useComments : Bool} {cur cur' : Text} (h : skipWs cur = some cur')
    (hslash : peek cur' = chr '/') :
    getToken useComments cur =
      if useComments then
        if (skipComments cur').1 then (.inv, (skipComments cur').2)
        else getToken useComments (skipComments cur').2
      else (.inv, cur') := by
  rw [getToken]
  split
  · simp_all
  · next hws =>
      rw [h] at hws
      cases hws
      rw [if_pos hslash]

/-! ## Strings -/

/-- The value of a hexadecimal digit. -/
def hexVal (c : UInt8) : Nat :=
  if isDigit c then c.toNat - 0x30 else if chr 'a' ≤ c then c.toNat - 0x57 else c.toNat - 0x37

/-- `uToVal`. A zero is no digit, so the digits must stand in one chunk. -/
def uToVal : Text → Option (Nat × Text)
  | a :: b :: c :: d :: r =>
    if isXDigit a && isXDigit b && isXDigit c && isXDigit d then
      some (((hexVal a * 16 + hexVal b) * 16 + hexVal c) * 16 + hexVal d, r)
    else none
  | _ => none

/-- The octets that stand for a code point. -/
def codeOctets (val : Nat) : Text :=
  if val < 0x80 then [UInt8.ofNat val]
  else if val < 0x800 then [UInt8.ofNat (0xc0 + val / 0x40), UInt8.ofNat (0x80 + val % 0x40)]
  else if val < 0x10000 then
    [UInt8.ofNat (0xe0 + val / 0x1000), UInt8.ofNat (0x80 + val / 0x40 % 0x40),
      UInt8.ofNat (0x80 + val % 0x40)]
  else
    [UInt8.ofNat (0xf0 + val / 0x40000 % 8), UInt8.ofNat (0x80 + val / 0x1000 % 0x40),
      UInt8.ofNat (0x80 + val / 0x40 % 0x40), UInt8.ofNat (0x80 + val % 0x40)]

/-- `uProc`: the octets to add, and the first part of a surrogate pair when its second part is to come. -/
def uProc (w1 : Option Nat) (cur : Text) : Option (Text × Option Nat × Text) :=
  match uToVal cur with
  | none => none
  | some (val16, cur) =>
    match w1 with
    | some w1 =>
      if val16 ≥ 0xe000 ∨ val16 < 0xdc00 then none
      else some (codeOctets (w1 * 0x400 + (val16 - 0xdc00) + 0x10000), none, cur)
    | none =>
      if val16 < 0xd800 ∨ val16 ≥ 0xe000 then some (codeOctets val16, none, cur)
      else if val16 < 0xdc00 then some ([], some (val16 - 0xd800), cur)
      else none

/-- The octets that may follow the first one of a sequence. -/
def isCont (c : UInt8) : Bool := decide (0x80 ≤ c) && decide (c < 0xc0)

/-- How many octets follow the first one, by its value. -/
def contCount (c : UInt8) : Nat := if c < 0xc0 then 0 else if c < 0xe0 then 1 else if c < 0xf0 then 2 else 3

/-- An octet of ASCII stands alone. -/
theorem ascii_alone {c : UInt8} (h : c < 0x80) : isCont c = false ∧ contCount c = 0 := by
  constructor
  · rw [isCont, Bool.and_eq_false_iff, decide_eq_false_iff_not]
    exact .inl (UInt8.not_le.2 h)
  · exact if_pos (UInt8.lt_trans h (by decide))

/-- `checkUTF8`. A zero is no octet that may follow, so all of them must stand in one chunk. -/
def checkUTF8 (cur : Text) : Option (Text × Text) :=
  if isCont (peek cur) then none
  else
    let n := contCount (peek cur)
    if cur.tail.length < n ∨ !(cur.tail.take n).all isCont then none
    else some (cur.take (n + 1), cur.drop (n + 1))

/-- What a character after a reverse solidus stands for, except for `u`. -/
def unescape (c : UInt8) : Option UInt8 :=
  if c = chr '"' ∨ c = chr '\\' ∨ c = chr '/' then some c
  else if c = chr 'b' then some 0x08
  else if c = chr 'f' then some 0x0c
  else if c = chr 'n' then some 0x0a
  else if c = chr 'r' then some 0x0d
  else if c = chr 't' then some 0x09
  else none

theorem uToVal_length {cur cur' : Text} {val : Nat} (h : uToVal cur = some (val, cur')) :
    cur'.length < cur.length := by
  unfold uToVal at h
  split at h
  · split at h
    · cases h
      simp only [List.length_cons]
      omega
    · cases h
  · cases h

theorem uProc_rest {w1 w1' : Option Nat} {cur cur' ret : Text}
    (h : uProc w1 cur = some (ret, w1', cur')) : ∃ val, uToVal cur = some (val, cur') := by
  unfold uProc at h
  split at h
  · cases h
  · next val cur₁ hval =>
      have hcur : ∀ {octets : Text} {w : Option Nat} {cur₂ : Text},
          some (octets, w, cur₂) = some (ret, w1', cur') → cur₂ = cur' := by
        intro octets w cur₂ heq
        simp only [Option.some.injEq, Prod.mk.injEq] at heq
        exact heq.2.2
      refine ⟨val, ?_⟩
      split at h
      · split at h
        · cases h
        · exact hcur h ▸ hval
      · split at h
        · exact hcur h ▸ hval
        · split at h
          · exact hcur h ▸ hval
          · cases h

theorem uProc_length {w1 w1' : Option Nat} {cur cur' ret : Text}
    (h : uProc w1 cur = some (ret, w1', cur')) : cur'.length < cur.length := by
  obtain ⟨val, hval⟩ := uProc_rest h
  exact uToVal_length hval

theorem checkUTF8_length {cur cur' ret : Text} (hne : cur ≠ []) (h : checkUTF8 cur = some (ret, cur')) :
    cur'.length < cur.length := by
  have hpos := List.length_pos_iff.2 hne
  unfold checkUTF8 at h
  split at h
  · cases h
  · simp only at h
    split at h
    · cases h
    · simp only [Option.some.injEq, Prod.mk.injEq] at h
      rw [← h.2, List.length_drop]
      omega

/-- The loop of `getStr`. `w1` is the first part of a surrogate pair, of which the second must follow. -/
def getStrLoop (w1 : Option Nat) (ret : Text) (cur : Text) : Option (Text × Text) :=
  match _h : isEOF cur with
  | none => none
  | some cur₁ =>
    if w1.isSome && peek cur₁ ≠ chr '\\' then none
    else if peek cur₁ = chr '"' then some (ret, cur₁.tail)
    else if peek cur₁ = chr '\\' then
      match _he : isEOF cur₁.tail with
      | none => none
      | some cur₂ =>
        if w1.isSome && peek cur₂ ≠ chr 'u' then none
        else if peek cur₂ = chr 'u' then
          match _hu : uProc w1 cur₂.tail with
          | none => none
          | some (octets, w1', cur₃) => getStrLoop w1' (ret ++ octets) cur₃
        else
          match unescape (peek cur₂) with
          | none => none
          | some c => getStrLoop w1 (ret ++ [c]) cur₂.tail
    else
      match _hc : checkUTF8 cur₁ with
      | none => none
      | some (octets, cur₂) => getStrLoop w1 (ret ++ octets) cur₂
termination_by cur.length
decreasing_by
  all_goals have hlen := isEOF_length _h
  all_goals have hpos := List.length_pos_iff.2 (isEOF_ne_nil _h)
  · have hlen' := isEOF_length _he
    have hlt := uProc_length _hu
    rw [List.length_tail] at hlen' hlt
    omega
  · have hlen' := isEOF_length _he
    have hpos' := List.length_pos_iff.2 (isEOF_ne_nil _he)
    rw [List.length_tail] at hlen' ⊢
    omega
  · have hlt := checkUTF8_length (isEOF_ne_nil _h) _hc
    omega

theorem getStrLoop_none {w1 : Option Nat} {ret cur : Text} (h : isEOF cur = none) :
    getStrLoop w1 ret cur = none := by
  rw [getStrLoop]
  split <;> simp_all

theorem getStrLoop_some {w1 : Option Nat} {ret cur cur₁ : Text} (h : isEOF cur = some cur₁) :
    getStrLoop w1 ret cur =
      if w1.isSome ∧ peek cur₁ ≠ chr '\\' then none
      else if peek cur₁ = chr '"' then some (ret, cur₁.tail)
      else if peek cur₁ = chr '\\' then
        (isEOF cur₁.tail).bind fun cur₂ =>
          if w1.isSome ∧ peek cur₂ ≠ chr 'u' then none
          else if peek cur₂ = chr 'u' then
            (uProc w1 cur₂.tail).bind fun x => getStrLoop x.2.1 (ret ++ x.1) x.2.2
          else (unescape (peek cur₂)).bind fun c => getStrLoop w1 (ret ++ [c]) cur₂.tail
      else (checkUTF8 cur₁).bind fun x => getStrLoop w1 (ret ++ x.1) x.2 := by
  rw [getStrLoop]
  split
  · simp_all
  · next hcur =>
      rw [h] at hcur
      cases hcur
      simp only [Bool.and_eq_true, decide_eq_true_eq]
      split
      · rfl
      · split
        · rfl
        · split
          · split
            · next heof =>
                rw [heof]
                rfl
            · next heof =>
                rw [heof, Option.bind_some]
                split
                · rfl
                · split
                  · split
                    · next hproc =>
                        rw [hproc]
                        rfl
                    · next hproc =>
                        rw [hproc]
                        rfl
                  · split
                    · next hun =>
                        rw [hun]
                        rfl
                    · next hun =>
                        rw [hun]
                        rfl
          · split
            · next hcheck =>
                rw [hcheck]
                rfl
            · next hcheck =>
                rw [hcheck]
                rfl

theorem getStrLoop_quote {w1 : Option Nat} {ret cur cur₁ : Text} (h : isEOF cur = some cur₁)
    (hw : w1 = none) (hc : peek cur₁ = chr '"') : getStrLoop w1 ret cur = some (ret, cur₁.tail) := by
  have hne : chr '"' ≠ chr '\\' := by decide
  rw [getStrLoop]
  split <;> simp_all

theorem getStrLoop_escape {w1 : Option Nat} {ret cur cur₁ cur₂ : Text} {c : UInt8}
    (h : isEOF cur = some cur₁) (hc : peek cur₁ = chr '\\') (he : isEOF cur₁.tail = some cur₂)
    (hw : w1 = none) (hu : peek cur₂ ≠ chr 'u') (hun : unescape (peek cur₂) = some c) :
    getStrLoop w1 ret cur = getStrLoop none (ret ++ [c]) cur₂.tail := by
  have hne : chr '\\' ≠ chr '"' := by decide
  rw [getStrLoop]
  split
  · simp_all
  · next hcur =>
      rw [h] at hcur
      cases hcur
      simp only [hc, hw, hne, Option.isSome_none, Bool.false_and, Bool.false_eq_true, if_false, if_true]
      split
      · simp_all
      · next hcur =>
          rw [he] at hcur
          cases hcur
          simp [hu, hun]

theorem getStrLoop_u {w1 w1' : Option Nat} {ret cur cur₁ cur₂ cur₃ octets : Text}
    (h : isEOF cur = some cur₁) (hc : peek cur₁ = chr '\\') (he : isEOF cur₁.tail = some cur₂)
    (hu : peek cur₂ = chr 'u') (hproc : uProc w1 cur₂.tail = some (octets, w1', cur₃)) :
    getStrLoop w1 ret cur = getStrLoop w1' (ret ++ octets) cur₃ := by
  have hne : chr '\\' ≠ chr '"' := by decide
  rw [getStrLoop]
  split
  · simp_all
  · next hcur =>
      rw [h] at hcur
      cases hcur
      simp only [hc, hne, ne_eq, not_true, decide_false, Bool.and_false, Bool.false_eq_true, if_false,
        if_true]
      split
      · simp_all
      · next hcur =>
          rw [he] at hcur
          cases hcur
          simp only [hu, not_true, decide_false, Bool.and_false, Bool.false_eq_true, if_false, if_true]
          split <;> simp_all

theorem getStrLoop_octets {w1 : Option Nat} {ret cur cur₁ cur₂ octets : Text}
    (h : isEOF cur = some cur₁) (hw : w1 = none) (hq : peek cur₁ ≠ chr '"') (hb : peek cur₁ ≠ chr '\\')
    (hcheck : checkUTF8 cur₁ = some (octets, cur₂)) :
    getStrLoop w1 ret cur = getStrLoop none (ret ++ octets) cur₂ := by
  rw [getStrLoop]
  split
  · simp_all
  · next hcur =>
      rw [h] at hcur
      cases hcur
      simp only [hw, Option.isSome_none, Bool.false_and, Bool.false_eq_true, if_false, if_neg hq, if_neg hb]
      split <;> simp_all

/-- `getStr`, from the opening quotation mark on. -/
def getStr (cur : Text) : Option (Text × Text) := getStrLoop none [] cur.tail

/-! ## Numbers -/

/-- The variables of `getNum`. -/
structure NumState where
  ret : Text
  dotLoc : Nat := 0
  eLoc : Nat := 0
  haveZero : Bool
  locZero : Nat := 0
  lastNotDigit : Bool
  zeroProhib : Bool
  loc : Nat := 1

/-- The next character of a number. The plus sign is not kept. -/
def NumState.next (st : NumState) (c : UInt8) : Option NumState :=
  if c = chr 'e' ∨ c = chr 'E' then
    if st.eLoc > 0 ∨ st.lastNotDigit then none
    else some { st with
      eLoc := st.loc, haveZero := false, zeroProhib := true, lastNotDigit := true
      ret := st.ret ++ [c], loc := st.loc + 1 }
  else if c = chr '.' then
    if st.eLoc > 0 ∨ st.dotLoc > 0 ∨ st.lastNotDigit then none
    else some { st with
      dotLoc := st.loc, haveZero := false, zeroProhib := false, lastNotDigit := true
      ret := st.ret ++ [c], loc := st.loc + 1 }
  else if c = chr '+' ∨ c = chr '-' then
    if st.eLoc = 0 ∨ st.loc ≠ st.eLoc + 1 then none
    else if c = chr '+' then some { st with zeroProhib := true, lastNotDigit := true }
    else some { st with
      zeroProhib := true, lastNotDigit := true, ret := st.ret ++ [c], loc := st.loc + 1 }
  else if !isDigit c || (st.haveZero && decide (st.loc > st.locZero)) || (c == chr '0' && st.zeroProhib) then
    none
  else some { st with
    zeroProhib := false, lastNotDigit := false, ret := st.ret ++ [c], loc := st.loc + 1 }

/-- The first character of a number, with the cursor after it. -/
def NumState.first (c : UInt8) (cur : Text) : Option (NumState × Text) :=
  if c = chr '0' then
    some ({ ret := [c], haveZero := true, lastNotDigit := false, zeroProhib := true }, cur)
  else if c = chr '-' then
    match isEOF cur with
    | none => none
    | some cur =>
      some ({ ret := [c], haveZero := peek cur = chr '0', locZero := if peek cur = chr '0' then 1 else 0
              lastNotDigit := true, zeroProhib := false }, cur)
  else if isDigit c then
    some ({ ret := [c], haveZero := false, lastNotDigit := false, zeroProhib := false }, cur)
  else none

/-- The loop of `getNum`. -/
def getNumLoop (st : NumState) (cur : Text) : Option (NumState × Text) :=
  match _h : isEOF cur with
  | none => if st.lastNotDigit then none else some (st, cur)
  | some cur' =>
    if isDelim (peek cur') then if st.lastNotDigit then none else some (st, cur')
    else
      match st.next (peek cur') with
      | none => none
      | some st => getNumLoop st cur'.tail
termination_by cur.length
decreasing_by
  have hlen := isEOF_length _h
  have hpos := List.length_pos_iff.2 (isEOF_ne_nil _h)
  rw [List.length_tail]
  omega

theorem getNumLoop_none {st : NumState} {cur : Text} (h : isEOF cur = none) :
    getNumLoop st cur = if st.lastNotDigit then none else some (st, cur) := by
  rw [getNumLoop]
  split <;> simp_all

theorem getNumLoop_some {st : NumState} {cur cur' : Text} (h : isEOF cur = some cur') :
    getNumLoop st cur =
      if isDelim (peek cur') then if st.lastNotDigit then none else some (st, cur')
      else (st.next (peek cur')).bind fun st => getNumLoop st cur'.tail := by
  rw [getNumLoop]
  split
  · simp_all
  · next hcur =>
      rw [h] at hcur
      cases hcur
      split
      · rfl
      · split <;> simp_all

/-- `getNum`. -/
def getNum (cur : Text) : Option (NumState × Text) :=
  match isEOF cur with
  | none => none
  | some cur =>
    match NumState.first (peek cur) cur.tail with
    | none => none
    | some (st, cur) => getNumLoop st cur

/-! ## Documents -/

mutual

/-- `ParserCreate` and `parserVal` of what it creates. The fuel counts the values and members that are left;
    a text never has more of them than characters. -/
def parserVal (useComments : Bool) : Nat → Token → Text → Option (Value × Text)
  | 0, _, _ => none
  | n + 1, tk, cur =>
    match tk with
    | .objSta =>
      let (tk, cur) := getToken useComments cur.tail
      if tk = .objEnd then some (.obj [], cur.tail) else parserMembers useComments n [] cur
    | .arrSta =>
      let (tk, cur) := getToken useComments cur.tail
      if tk = .arrEnd then some (.arr [], cur.tail) else parserElements useComments n [] tk cur
    | .str => (getStr cur).map fun (val, cur) => (.str val, cur)
    | .num => (getNum cur).map fun (st, cur) => (.num st.ret st.dotLoc st.eLoc, cur)
    | .trueKey => some (.bool true, cur)
    | .falseKey => some (.bool false, cur)
    | .nullKey => some (.null, cur)
    | _ => none

/-- The loop of `jsonObject::parserVal`. -/
def parserMembers (useComments : Bool) : Nat → List (Text × Value) → Text → Option (Value × Text)
  | 0, _, _ => none
  | n + 1, members, cur =>
    let (tk, cur) := getToken useComments cur
    if tk ≠ .str then none
    else
      match getStr cur with
      | none => none
      | some (key, cur) =>
        let (tk, cur) := getToken useComments cur
        if tk ≠ .namSep then none
        else
          let (tk, cur) := getToken useComments cur.tail
          match parserVal useComments n tk cur with
          | none => none
          | some (e, cur) =>
            let members := insertMember key e members
            let (tk, cur) := getToken useComments cur
            if tk = .objEnd then some (.obj members, cur.tail)
            else if tk = .valSep then parserMembers useComments n members cur.tail
            else none

/-- The loop of `jsonArray::parserVal`. -/
def parserElements (useComments : Bool) : Nat → List Value → Token → Text → Option (Value × Text)
  | 0, _, _, _ => none
  | n + 1, elements, tk, cur =>
    match parserVal useComments n tk cur with
    | none => none
    | some (e, cur) =>
      let elements := elements ++ [e]
      let (tk, cur) := getToken useComments cur
      if tk = .arrEnd then some (.arr elements, cur.tail)
      else if tk = .valSep then
        let (tk, cur) := getToken useComments cur.tail
        parserElements useComments n elements tk cur
      else none

end

/-- `jsonMain::paresJson`: nothing when it fails, and no value for an empty document. -/
def paresJson (useComments : Bool) (cur : Text) : Option (Option Value) :=
  let (tk, cur') := getToken useComments cur
  if tk = .eof then some none
  else
    match parserVal useComments (2 * cur.length + 2) tk cur' with
    | none => none
    | some (m, cur'') => if (getToken useComments cur'').1 = .eof then some (some m) else none

/-- `jsonMain::parseBuffer`. The text of a buffer ends at the first zero. -/
def parseBuffer (useComments : Bool) (buffer : Text) : Option (Option Value) :=
  if buffer = [] then none else paresJson useComments (skipBOM (buffer.takeWhile (· ≠ 0)))

/-! ## Files -/

/-- `lineSize`. -/
def lineSize : Nat := 512

/-- `fgets`: at most so many characters, until the end of a line, and the rest of the file. -/
def fgets : Nat → Text → Text × Text
  | 0, file => ([], file)
  | _ + 1, [] => ([], [])
  | n + 1, c :: file =>
    if c = chr '\n' then ([c], file) else ((c :: (fgets n file).1), (fgets n file).2)

theorem fgets_length (n : Nat) (file : Text) : (fgets n file).2.length ≤ file.length := by
  fun_induction fgets n file with
  | case1 => exact Nat.le_refl _
  | case2 => exact Nat.le_refl _
  | case3 => exact Nat.le_succ _
  | case4 _ _ _ _ ih => exact Nat.le_succ_of_le ih

/-- The text that the buffer of the reader holds one after the other: a chunk ends at its first zero. -/
def fileText : Text → Text
  | [] => []
  | c :: r =>
    (fgets (lineSize - 1) (c :: r)).1.takeWhile (· ≠ 0) ++ 0 :: fileText (fgets (lineSize - 1) (c :: r)).2
termination_by file => file.length
decreasing_by
  have hlen := fgets_length 510 r
  simp only [lineSize, fgets, List.length_cons]
  split
  · exact Nat.lt_succ_self _
  · exact Nat.lt_succ_of_le hlen

/-- `jsonMain::parseFile` of a file with these octets. -/
def parseFile (useComments : Bool) (file : Text) : Option (Option Value) :=
  if file = [] then none else paresJson useComments (skipBOM (fileText file))

end PtpMgmt.Json
