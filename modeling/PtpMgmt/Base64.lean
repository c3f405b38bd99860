import PtpMgmt.Json.FromJson

set_option autoImplicit false

/-! # Base64 (`bin.cpp`)

Three alphabets are read, and which one a text is in shows in the characters for 62 and 63 only: the
reader keeps in a few bits which of them the characters so far leave open. -/

namespace PtpMgmt

open Json

namespace Binary

/-! ## The tables -/

/-- `toB64`. -/
def toB64 : Text := txt "ABCDEFGHIJKLMNOPQRSTUVWXYZabcdefghijklmnopqrstuvwxyz0123456789"

/-- `B64`, from '+' on: -1 is no character of an alphabet, 73 is 63 of IMAP, 82 and 83 are 62 and 63 for
    URLs. -/
def b64 : List Int :=
  [62, 73, 82, -1, 63, 52, 53, 54, 55, 56, 57, 58, 59, 60, 61, -1, -1, -1, -1, -1, -1, -1,
    0, 1, 2, 3, 4, 5, 6, 7, 8, 9, 10, 11, 12, 13, 14, 15, 16, 17, 18, 19, 20, 21, 22, 23, 24, 25,
    -1, -1, -1, -1, 83, -1,
    26, 27, 28, 29, 30, 31, 32, 33, 34, 35, 36, 37, 38, 39, 40, 41, 42, 43, 44, 45, 46, 47, 48, 49, 50, 51]

/-- `URL`: the text is in the alphabet for URLs. -/
def safeUrl : UInt8 := 0x1

/-- `BOTH`: the standard alphabet or that of IMAP. -/
def safeBoth : UInt8 := 0x2

/-- `STAND`: the standard alphabet. -/
def safeStand : UInt8 := 0x4

/-- `IMAP`: the alphabet of mailboxes. -/
def safeImap : UInt8 := 0x8

/-- `parseB64`: the value of the character, and `safe` after it. -/
def parseB64 (c safe : UInt8) : Option (UInt8 × UInt8) :=
  if c < chr '+' ∨ c > chr 'z' then none
  else
    let r := b64.getD (c - chr '+').toNat (-1)
    if r = -1 then none
    else if r = 62 then if (safe &&& safeUrl) > 0 then none else some (62, safe ||| safeBoth)
    else if r = 63 then
      if (safe &&& (safeUrl ||| safeImap)) > 0 then none else some (63, safeBoth ||| safeStand)
    else if r = 73 then
      if (safe &&& (safeUrl ||| safeStand)) > 0 then none else some (63, safeBoth ||| safeImap)
    else if r = 82 ∨ r = 83 then
      if (safe &&& safeBoth) > 0 then none else some (UInt8.ofNat (r - 20).toNat, safeUrl)
    else some (UInt8.ofNat r.toNat, safe)

/-! ## Reading -/

def firstOctet (a0 a1 : UInt8) : UInt8 := ((a0 <<< 2) &&& (0xfc : UInt8)) ||| ((a1 >>> 4) &&& 0x03)

def secondOctet (a1 a2 : UInt8) : UInt8 := ((a1 <<< 4) &&& (0xf0 : UInt8)) ||| ((a2 >>> 2) &&& 0x0f)

def thirdOctet (a2 a3 : UInt8) : UInt8 := ((a2 <<< 6) &&& (0xc0 : UInt8)) ||| (a3 &&& 0x3f)

/-- The loop of `Binary::fromBase64`: 4 characters are 3 octets, while more than 4 are left. -/
def base64Loop : Text → UInt8 → Binary → Option (Text × UInt8 × Binary)
  | c0 :: c1 :: c2 :: c3 :: c4 :: cur, safe, id => do
    let (a0, safe) ← parseB64 c0 safe
    let (a1, safe) ← parseB64 c1 safe
    let (a2, safe) ← parseB64 c2 safe
    let (a3, safe) ← parseB64 c3 safe
    base64Loop (c4 :: cur) safe (id ++ [firstOctet a0 a1, secondOctet a1 a2, thirdOctet a2 a3])
  | cur, safe, id => some (cur, safe, id)

/-- The last 2 to 4 characters without their padding. -/
def stripPad : Text → Text
  | [c0, c1, c2, c3] =>
    if c3 = chr '=' then if c2 = chr '=' then [c0, c1] else [c0, c1, c2] else [c0, c1, c2, c3]
  | [c0, c1, c2] => if c2 = chr '=' then [c0, c1] else [c0, c1, c2]
  | cur => cur

/-- What is left behind the loop. -/
def base64Tail (cur : Text) (safe : UInt8) (id : Binary) : Option Binary :=
  match cur with
  | [c0, c1] => do
    let (a0, safe) ← parseB64 c0 safe
    let (a1, _) ← parseB64 c1 safe
    some (id ++ [firstOctet a0 a1])
  | [c0, c1, c2] => do
    let (a0, safe) ← parseB64 c0 safe
    let (a1, safe) ← parseB64 c1 safe
    let (a2, _) ← parseB64 c2 safe
    some (id ++ [firstOctet a0 a1, secondOctet a1 a2])
  | [c0, c1, c2, c3] => do
    let (a0, safe) ← parseB64 c0 safe
    let (a1, safe) ← parseB64 c1 safe
    let (a2, safe) ← parseB64 c2 safe
    let (a3, _) ← parseB64 c3 safe
    some (id ++ [firstOctet a0 a1, secondOctet a1 a2, thirdOctet a2 a3])
  | _ => none

/-- The octets of a text that is not empty, from a group on. -/
def base64From (cur : Text) (safe : UInt8) (id : Binary) (pad : Bool) : Option Binary := do
  let (cur, safe, id) ← base64Loop cur safe id
  if cur.length < 2 ∨ (pad = true ∧ cur.length ≠ 4) then none
  else base64Tail (stripPad cur) safe id

/-- `Binary::fromBase64`: whether it succeeds, and the object after it. -/
def fromBase64 (self : Binary) (bin64 : Text) (pad : Bool) : Bool × Binary :=
  if bin64 = [] then (true, [])
  else
    match base64From bin64 0 [] pad with
    | none => (false, self)
    | some id => (true, id)

/-! ## Writing -/

def firstSextet (v0 : UInt8) : UInt8 := (v0 >>> 2) &&& 0x3f

def secondSextet (v0 v1 : UInt8) : UInt8 := (((v0 &&& 0x03) <<< 4) &&& (0x30 : UInt8)) ||| ((v1 >>> 4) &&& 0x0f)

def thirdSextet (v1 v2 : UInt8) : UInt8 := (((v1 &&& 0x0f) <<< 2) &&& (0x3c : UInt8)) ||| ((v2 >>> 6) &&& 0x03)

def fourthSextet (v2 : UInt8) : UInt8 := v2 &&& 0x3f

/-- The character of a value, with those of 62 and 63. -/
def b64Char (v62 v63 : UInt8) (v : UInt8) : UInt8 := (toB64 ++ [v62, v63]).getD v.toNat 0

/-- `Binary::toBase64`. The last group is the one of 1 to 3 octets, an octet that it lacks counts as 0. -/
def toBase64 (pad : Bool) (v62 v63 : UInt8) : Binary → Text
  | [] => []
  | [x] =>
    [b64Char v62 v63 (firstSextet x), b64Char v62 v63 (secondSextet x 0)] ++
      if pad then [chr '=', chr '='] else []
  | [x, y] =>
    [b64Char v62 v63 (firstSextet x), b64Char v62 v63 (secondSextet x y),
      b64Char v62 v63 (thirdSextet y 0)] ++ if pad then [chr '='] else []
  | [x, y, z] =>
    [b64Char v62 v63 (firstSextet x), b64Char v62 v63 (secondSextet x y),
      b64Char v62 v63 (thirdSextet y z), b64Char v62 v63 (fourthSextet z)]
  | x :: y :: z :: w :: r =>
    [b64Char v62 v63 (firstSextet x), b64Char v62 v63 (secondSextet x y),
      b64Char v62 v63 (thirdSextet y z), b64Char v62 v63 (fourthSextet z)] ++ toBase64 pad v62 v63 (w :: r)

example : toBase64 true (chr '+') (chr '/') [0xfb, 0xff, 0x41, 0x42] = txt "+/9BQg==" := by decide

/-! ## Octets and values -/

theorem exists_octet (v : UInt8) : ∃ n : Fin 256, v = UInt8.ofNat n.val :=
  ⟨⟨v.toNat, v.toNat_lt⟩, UInt8.ofNat_toNat.symm⟩

theorem exists_two_bits (v : UInt8) : ∃ k : Fin 4, v &&& 0x03 = UInt8.ofNat k.val := by
  refine ⟨⟨v.toNat % 4, Nat.mod_lt _ (by decide)⟩, UInt8.toNat_inj.1 ?_⟩
  rw [UInt8.toNat_and, UInt8.toNat_ofNat']
  show v.toNat &&& (2 ^ 2 - 1) = v.toNat % 4 % 256
  rw [Nat.and_two_pow_sub_one_eq_mod]
  omega

theorem exists_four_bits (v : UInt8) : ∃ k : Fin 16, v &&& 0x0f = UInt8.ofNat k.val := by
  refine ⟨⟨v.toNat % 16, Nat.mod_lt _ (by decide)⟩, UInt8.toNat_inj.1 ?_⟩
  rw [UInt8.toNat_and, UInt8.toNat_ofNat']
  show v.toNat &&& (2 ^ 4 - 1) = v.toNat % 16 % 256
  rw [Nat.and_two_pow_sub_one_eq_mod]
  omega

theorem or_and_distrib (u v w : UInt8) : (u ||| v) &&& w = (u &&& w) ||| (v &&& w) := by
  apply UInt8.toNat_inj.1
  simp only [UInt8.toNat_and, UInt8.toNat_or, Nat.and_or_distrib_right]

/-! The bits that one character has of two octets come apart again. -/

theorem firstOctet_sextets (x y : UInt8) : firstOctet (firstSextet x) (secondSextet x y) = x := by
  obtain ⟨k, hk⟩ := exists_four_bits (y >>> 4)
  obtain ⟨n, rfl⟩ := exists_octet x
  have hlow : ∀ k : Fin 16, UInt8.ofNat k.val >>> 4 &&& 0x03 = 0 := by decide
  have hhigh : ∀ n : Fin 256, ((firstSextet (UInt8.ofNat n.val) <<< 2) &&& (0xfc : UInt8)) |||
      ((((UInt8.ofNat n.val &&& 0x03) <<< 4) &&& (0x30 : UInt8)) >>> 4 &&& 0x03) = UInt8.ofNat n.val := by
    decide +kernel
  rw [firstOctet, secondSextet, hk, UInt8.shiftRight_or, or_and_distrib, hlow, UInt8.or_zero, hhigh]

theorem secondOctet_sextets (x y z : UInt8) : secondOctet (secondSextet x y) (thirdSextet y z) = y := by
  obtain ⟨i, hi⟩ := exists_two_bits x
  obtain ⟨k, hk⟩ := exists_two_bits (z >>> 6)
  obtain ⟨n, rfl⟩ := exists_octet y
  have hx : ∀ i : Fin 4, ((UInt8.ofNat i.val <<< 4) &&& (0x30 : UInt8)) <<< 4 &&& (0xf0 : UInt8) = 0 := by decide
  have hz : ∀ k : Fin 4, UInt8.ofNat k.val >>> 2 &&& 0x0f = 0 := by decide
  have hy : ∀ n : Fin 256, (((UInt8.ofNat n.val >>> 4) &&& (0x0f : UInt8)) <<< 4 &&& (0xf0 : UInt8)) |||
      ((((UInt8.ofNat n.val &&& 0x0f) <<< 2) &&& (0x3c : UInt8)) >>> 2 &&& 0x0f) = UInt8.ofNat n.val := by
    decide +kernel
  rw [secondOctet, secondSextet, thirdSextet, hi, hk, UInt8.shiftLeft_or, or_and_distrib, hx, UInt8.zero_or,
    UInt8.shiftRight_or, or_and_distrib, hz, UInt8.or_zero, hy]

theorem thirdOctet_sextets (y z : UInt8) : thirdOctet (thirdSextet y z) (fourthSextet z) = z := by
  obtain ⟨i, hi⟩ := exists_four_bits y
  obtain ⟨n, rfl⟩ := exists_octet z
  have hlow : ∀ i : Fin 16, ((UInt8.ofNat i.val <<< 2) &&& (0x3c : UInt8)) <<< 6 &&& (0xc0 : UInt8) = 0 := by decide
  have hhigh : ∀ n : Fin 256, (((UInt8.ofNat n.val >>> 6) &&& (0x03 : UInt8)) <<< 6 &&& (0xc0 : UInt8)) |||
      (fourthSextet (UInt8.ofNat n.val) &&& (0x3f : UInt8)) = UInt8.ofNat n.val := by
    decide +kernel
  rw [thirdOctet, thirdSextet, hi, UInt8.shiftLeft_or, or_and_distrib, hlow, UInt8.zero_or, hhigh]

/-! ## Alphabets -/

/-- The alphabets that are supported. -/
inductive Alphabet
  | standard
  | url
  | imap
deriving DecidableEq

namespace Alphabet

/-- The character for 62. -/
def v62 : Alphabet → UInt8
  | standard => chr '+'
  | url => chr '-'
  | imap => chr '+'

/-- The character for 63. -/
def v63 : Alphabet → UInt8
  | standard => chr '/'
  | url => chr '_'
  | imap => chr ','

/-- The 64 characters. -/
def chars (a : Alphabet) : Text := toB64 ++ [a.v62, a.v63]

/-- The alphabets that `safe` leaves open. -/
def Open (safe : UInt8) : Alphabet → Prop
  | standard => safe = 0 ∨ safe = safeBoth ∨ safe = safeBoth ||| safeStand
  | url => safe = 0 ∨ safe = safeUrl
  | imap => safe = 0 ∨ safe = safeBoth ∨ safe = safeBoth ||| safeImap

instance decidableOpen (safe : UInt8) (a : Alphabet) : Decidable (a.Open safe) := by
  cases a <;> unfold Open <;> infer_instance

end Alphabet

/-! ## Every alphabet is read back -/

/-- A value of 6 bits. -/
def IsSextet (v : UInt8) : Prop := ∃ n : Fin 64, v = UInt8.ofNat n.val

theorem isSextet_of_lt {v : UInt8} (h : v.toNat < 64) : IsSextet v := ⟨⟨v.toNat, h⟩, UInt8.ofNat_toNat.symm⟩

theorem firstSextet_isSextet (x : UInt8) : IsSextet (firstSextet x) := by
  refine isSextet_of_lt ?_
  rw [firstSextet, UInt8.toNat_and]
  exact Nat.lt_succ_of_le Nat.and_le_right

theorem secondSextet_isSextet (x y : UInt8) : IsSextet (secondSextet x y) := by
  refine isSextet_of_lt ?_
  rw [secondSextet, UInt8.toNat_or, UInt8.toNat_and, UInt8.toNat_and (y >>> 4)]
  exact Nat.or_lt_two_pow (n := 6) (Nat.lt_of_le_of_lt Nat.and_le_right (by decide))
    (Nat.lt_of_le_of_lt Nat.and_le_right (by decide))

theorem thirdSextet_isSextet (y z : UInt8) : IsSextet (thirdSextet y z) := by
  refine isSextet_of_lt ?_
  rw [thirdSextet, UInt8.toNat_or, UInt8.toNat_and, UInt8.toNat_and (z >>> 6)]
  exact Nat.or_lt_two_pow (n := 6) (Nat.lt_of_le_of_lt Nat.and_le_right (by decide))
    (Nat.lt_of_le_of_lt Nat.and_le_right (by decide))

theorem fourthSextet_isSextet (z : UInt8) : IsSextet (fourthSextet z) := by
  refine isSextet_of_lt ?_
  rw [fourthSextet, UInt8.toNat_and]
  exact Nat.lt_succ_of_le Nat.and_le_right

/-- What the table has for a character. -/
def b64Code (c : UInt8) : Int :=
  if c < chr '+' ∨ c > chr 'z' then -1 else b64.getD (c - chr '+').toNat (-1)

/-- The value of what the table has, and `safe` after it. -/
def codeValue (r : Int) (safe : UInt8) : Option (UInt8 × UInt8) :=
  if r = -1 then none
  else if r = 62 then if (safe &&& safeUrl) > 0 then none else some (62, safe ||| safeBoth)
  else if r = 63 then
    if (safe &&& (safeUrl ||| safeImap)) > 0 then none else some (63, safeBoth ||| safeStand)
  else if r = 73 then
    if (safe &&& (safeUrl ||| safeStand)) > 0 then none else some (63, safeBoth ||| safeImap)
  else if r = 82 ∨ r = 83 then
    if (safe &&& safeBoth) > 0 then none else some (UInt8.ofNat (r - 20).toNat, safeUrl)
  else some (UInt8.ofNat r.toNat, safe)

theorem parseB64_eq (c safe : UInt8) : parseB64 c safe = codeValue (b64Code c) safe := by
  unfold parseB64 b64Code
  split
  · rfl
  · rfl

/-- A value that every alphabet has the same character for. -/
theorem codeValue_common {r : Int} (hlo : 0 ≤ r) (hhi : r < 62) (safe : UInt8) :
    codeValue r safe = some (UInt8.ofNat r.toNat, safe) := by
  rw [codeValue, if_neg (by omega), if_neg (by omega), if_neg (by omega), if_neg (by omega), if_neg (by omega)]

theorem b64Code_toB64 : ∀ n : Fin 62, b64Code (toB64.getD n.val 0) = n.val := by
  rw [toB64, txt_ofList]
  decide

/-- The characters that the alphabets have for 62 and 63, with what the table has for them. -/
def ownCodes : List (Int × UInt8) :=
  [(62, chr '+'), (63, chr '/'), (73, chr ','), (82, chr '-'), (83, chr '_')]

theorem toB64_length : toB64.length = 62 := by
  rw [toB64, txt_ofList]
  rfl

/-- The character of a value: a common one, or one of the two. -/
theorem b64Char_cases (v62 v63 : UInt8) (n : Fin 64) :
    (n.val < 62 ∧ b64Char v62 v63 (UInt8.ofNat n.val) = toB64.getD n.val 0) ∨
    (n.val = 62 ∧ b64Char v62 v63 (UInt8.ofNat n.val) = v62) ∨
      (n.val = 63 ∧ b64Char v62 v63 (UInt8.ofNat n.val) = v63) := by
  have hn := n.isLt
  have hval : (UInt8.ofNat n.val).toNat = n.val := UInt8.toNat_ofNat_of_lt (Nat.lt_trans hn (by decide))
  unfold b64Char
  rw [hval]
  by_cases hlt : n.val < 62
  · refine .inl ⟨hlt, ?_⟩
    rw [List.getD_eq_getElem?_getD, List.getElem?_append_left (by rw [toB64_length]; exact hlt),
      ← List.getD_eq_getElem?_getD]
  · rw [List.getD_eq_getElem?_getD, List.getElem?_append_right (by rw [toB64_length]; omega), toB64_length]
    by_cases heq : n.val = 62
    · refine .inr (.inl ⟨heq, ?_⟩)
      rw [heq]
      rfl
    · have heq : n.val = 63 := by omega
      refine .inr (.inr ⟨heq, ?_⟩)
      rw [heq]
      rfl

/-- What the table has is nothing, a common character or one of the own characters. -/
theorem b64Code_cases (c : UInt8) : b64Code c = -1 ∨ (0 ≤ b64Code c ∧ b64Code c < 62 ∧ c ∈ toB64) ∨
    (b64Code c, c) ∈ ownCodes := by
  by_cases hout : c < chr '+' ∨ c > chr 'z'
  · exact .inl (if_pos hout)
  · rw [not_or, UInt8.not_lt, gt_iff_lt, UInt8.not_lt] at hout
    obtain ⟨k, rfl⟩ := @exists_between 43 122 c hout.1 hout.2
    have hrows : ∀ (i : Fin 8) (j : Fin 10), b64Code (UInt8.ofNat (43 + (10 * i.val + j.val))) = -1 ∨
        (0 ≤ b64Code (UInt8.ofNat (43 + (10 * i.val + j.val))) ∧
          b64Code (UInt8.ofNat (43 + (10 * i.val + j.val))) < 62 ∧
          UInt8.ofNat (43 + (10 * i.val + j.val)) ∈ toB64) ∨
        (b64Code (UInt8.ofNat (43 + (10 * i.val + j.val))), UInt8.ofNat (43 + (10 * i.val + j.val))) ∈ ownCodes := by
      rw [toB64, txt_ofList]
      decide
    have hk := k.isLt
    have hrow := hrows ⟨k.val / 10, by omega⟩ ⟨k.val % 10, by omega⟩
    have hsplit : 10 * (k.val / 10) + k.val % 10 = k.val := by omega
    dsimp only at hrow
    rwa [hsplit] at hrow

/-- A character of an alphabet that is open has its value, and the alphabet stays open. -/
theorem parseB64_b64Char {a : Alphabet} {safe : UInt8} (h : a.Open safe) {v : UInt8} (hv : IsSextet v) :
    ∃ safe', parseB64 (b64Char a.v62 a.v63 v) safe = some (v, safe') ∧ a.Open safe' := by
  obtain ⟨n, rfl⟩ := hv
  rw [parseB64_eq]
  rcases b64Char_cases a.v62 a.v63 n with ⟨hlt, hchar⟩ | ⟨hval, hchar⟩ | ⟨hval, hchar⟩
  · -- a common character
    have hcode := b64Code_toB64 ⟨n.val, hlt⟩
    rw [hchar, hcode, codeValue_common (Int.natCast_nonneg _) (by omega), Int.toNat_natCast]
    exact ⟨safe, rfl, h⟩
  · rw [hchar, hval]
    cases a with
    | standard => rcases h with rfl | rfl | rfl <;> exact ⟨_, rfl, by decide⟩
    | url => rcases h with rfl | rfl <;> exact ⟨_, rfl, by decide⟩
    | imap => rcases h with rfl | rfl | rfl <;> exact ⟨_, rfl, by decide⟩
  · rw [hchar, hval]
    cases a with
    | standard => rcases h with rfl | rfl | rfl <;> exact ⟨_, rfl, by decide⟩
    | url => rcases h with rfl | rfl <;> exact ⟨_, rfl, by decide⟩
    | imap => rcases h with rfl | rfl | rfl <;> exact ⟨_, rfl, by decide⟩

theorem toBase64_ne_nil (pad : Bool) (v62 v63 : UInt8) (x : UInt8) (r : Binary) :
    ∃ c cs, toBase64 pad v62 v63 (x :: r) = c :: cs := by
  match r with
  | [] => exact ⟨_, _, rfl⟩
  | [_] => exact ⟨_, _, rfl⟩
  | [_, _] => exact ⟨_, _, rfl⟩
  | _ :: _ :: _ :: _ => exact ⟨_, _, rfl⟩

theorem base64Char_ne_pad (a : Alphabet) {v : UInt8} (hv : IsSextet v) :
    b64Char a.v62 a.v63 v ≠ chr '=' := by
  obtain ⟨n, rfl⟩ := hv
  rcases b64Char_cases a.v62 a.v63 n with ⟨hlt, hchar⟩ | ⟨-, hchar⟩ | ⟨-, hchar⟩
  · -- the table has nothing for the padding
    have hcode := b64Code_toB64 ⟨n.val, hlt⟩
    rw [hchar]
    intro hpad
    rw [hpad] at hcode
    have hnone : b64Code (chr '=') = -1 := by decide
    omega
  · rw [hchar]
    cases a <;> decide
  · rw [hchar]
    cases a <;> decide

section Groups

variable {a : Alphabet} {safe : UInt8} (h : a.Open safe) (id : Binary)
include h

theorem base64Tail_two (x : UInt8) :
    base64Tail [b64Char a.v62 a.v63 (firstSextet x), b64Char a.v62 a.v63 (secondSextet x 0)] safe id =
      some (id ++ [x]) := by
  obtain ⟨safe₁, h₁, ho₁⟩ := parseB64_b64Char h (firstSextet_isSextet x)
  obtain ⟨safe₂, h₂, -⟩ := parseB64_b64Char ho₁ (secondSextet_isSextet x 0)
  simp only [base64Tail, h₁, h₂, Option.bind_eq_bind, Option.bind_some, firstOctet_sextets]

theorem base64Tail_three (x y : UInt8) :
    base64Tail [b64Char a.v62 a.v63 (firstSextet x), b64Char a.v62 a.v63 (secondSextet x y),
      b64Char a.v62 a.v63 (thirdSextet y 0)] safe id = some (id ++ [x, y]) := by
  obtain ⟨safe₁, h₁, ho₁⟩ := parseB64_b64Char h (firstSextet_isSextet x)
  obtain ⟨safe₂, h₂, ho₂⟩ := parseB64_b64Char ho₁ (secondSextet_isSextet x y)
  obtain ⟨safe₃, h₃, -⟩ := parseB64_b64Char ho₂ (thirdSextet_isSextet y 0)
  simp only [base64Tail, h₁, h₂, h₃, Option.bind_eq_bind, Option.bind_some, firstOctet_sextets,
    secondOctet_sextets]

theorem base64Tail_four (x y z : UInt8) :
    base64Tail [b64Char a.v62 a.v63 (firstSextet x), b64Char a.v62 a.v63 (secondSextet x y),
      b64Char a.v62 a.v63 (thirdSextet y z), b64Char a.v62 a.v63 (fourthSextet z)] safe id =
        some (id ++ [x, y, z]) := by
  obtain ⟨safe₁, h₁, ho₁⟩ := parseB64_b64Char h (firstSextet_isSextet x)
  obtain ⟨safe₂, h₂, ho₂⟩ := parseB64_b64Char ho₁ (secondSextet_isSextet x y)
  obtain ⟨safe₃, h₃, ho₃⟩ := parseB64_b64Char ho₂ (thirdSextet_isSextet y z)
  obtain ⟨safe₄, h₄, -⟩ := parseB64_b64Char ho₃ (fourthSextet_isSextet z)
  simp only [base64Tail, h₁, h₂, h₃, h₄, Option.bind_eq_bind, Option.bind_some, firstOctet_sextets,
    secondOctet_sextets, thirdOctet_sextets]

/-- A group with others behind it. -/
theorem base64From_group (x y z c : UInt8) (cs : Text) (demanded : Bool) :
    ∃ safe', a.Open safe' ∧
      base64From (b64Char a.v62 a.v63 (firstSextet x) :: b64Char a.v62 a.v63 (secondSextet x y) ::
        b64Char a.v62 a.v63 (thirdSextet y z) :: b64Char a.v62 a.v63 (fourthSextet z) :: c :: cs)
        safe id demanded = base64From (c :: cs) safe' (id ++ [x, y, z]) demanded := by
  obtain ⟨safe₁, h₁, ho₁⟩ := parseB64_b64Char h (firstSextet_isSextet x)
  obtain ⟨safe₂, h₂, ho₂⟩ := parseB64_b64Char ho₁ (secondSextet_isSextet x y)
  obtain ⟨safe₃, h₃, ho₃⟩ := parseB64_b64Char ho₂ (thirdSextet_isSextet y z)
  obtain ⟨safe₄, h₄, ho₄⟩ := parseB64_b64Char ho₃ (fourthSextet_isSextet z)
  refine ⟨safe₄, ho₄, ?_⟩
  simp only [base64From, base64Loop, h₁, h₂, h₃, h₄, Option.bind_eq_bind, Option.bind_some,
    firstOctet_sextets, secondOctet_sextets, thirdOctet_sextets]

end Groups

theorem base64From_four (c0 c1 c2 c3 safe : UInt8) (id : Binary) (pad : Bool) :
    base64From [c0, c1, c2, c3] safe id pad = base64Tail (stripPad [c0, c1, c2, c3]) safe id := by
  simp [base64From, base64Loop]

/-- **Round trip**: from every group on, by the groups of the octets. Padding may be demanded where it is
    written. -/
theorem base64From_toBase64 (a : Alphabet) (pad demanded : Bool) (hpad : demanded = true → pad = true)
    {b : Binary} (hne : b ≠ []) {safe : UInt8} (hopen : a.Open safe) (id : Binary) :
    base64From (toBase64 pad a.v62 a.v63 b) safe id demanded = some (id ++ b) := by
  have hfree : pad = false → demanded = false := by
    intro hno
    rw [hno] at hpad
    simpa using hpad
  induction b using toBase64.induct generalizing safe id with
  | case1 => exact absurd rfl hne
  | case2 x =>
    have htail := base64Tail_two hopen id x
    cases pad with
    | true => exact (base64From_four _ _ _ _ _ _ _).trans htail
    | false =>
      rw [hfree rfl]
      simpa [toBase64, base64From, base64Loop, stripPad] using htail
  | case3 x y =>
    have htail := base64Tail_three hopen id x y
    have hchar := base64Char_ne_pad a (thirdSextet_isSextet y 0)
    cases pad with
    | true =>
      refine (base64From_four _ _ _ (chr '=') _ _ _).trans ?_
      rw [stripPad, if_pos rfl, if_neg hchar]
      exact htail
    | false =>
      rw [hfree rfl]
      simpa [toBase64, base64From, base64Loop, stripPad, hchar] using htail
  | case4 x y z =>
    refine (base64From_four _ _ _ _ _ _ _).trans ?_
    rw [stripPad, if_neg (base64Char_ne_pad a (fourthSextet_isSextet z))]
    exact base64Tail_four hopen id x y z
  | case5 x y z w r ih =>
    obtain ⟨c, cs, hrest⟩ := toBase64_ne_nil pad a.v62 a.v63 w r
    obtain ⟨safe', hopen', hgroup⟩ := base64From_group hopen id x y z c cs demanded
    have hnext := ih (List.cons_ne_nil w r) hopen' (id ++ [x, y, z])
    rw [hrest] at hnext
    show base64From (_ :: _ :: _ :: _ :: toBase64 pad a.v62 a.v63 (w :: r)) safe id demanded = _
    rw [hrest, hgroup, hnext, List.append_assoc]
    rfl

/-! ## One alphabet for every text that is read -/

/-- The characters were read: what is open behind them was open before, and has them all. -/
structure Reads (cs : Text) (safe safe' : UInt8) : Prop where
  exists_open : ∃ a : Alphabet, a.Open safe'
  has : ∀ a : Alphabet, a.Open safe' → a.Open safe ∧ ∀ c ∈ cs, c ∈ a.chars

theorem Reads.nil {safe : UInt8} (h : ∃ a : Alphabet, a.Open safe) : Reads [] safe safe :=
  ⟨h, fun _ ha => ⟨ha, nofun⟩⟩

theorem Reads.append {cs cs' : Text} {safe safe' safe'' : UInt8} (h : Reads cs safe safe')
    (h' : Reads cs' safe' safe'') : Reads (cs ++ cs') safe safe'' := by
  refine ⟨h'.exists_open, fun a ha => ?_⟩
  obtain ⟨ha', hcs'⟩ := h'.has a ha
  obtain ⟨ha₀, hcs⟩ := h.has a ha'
  refine ⟨ha₀, fun c hc => ?_⟩
  rcases List.mem_append.1 hc with hc | hc
  · exact hcs c hc
  · exact hcs' c hc

theorem open_states {safe : UInt8} (h : ∃ a : Alphabet, a.Open safe) :
    safe = 0 ∨ safe = safeUrl ∨ safe = safeBoth ∨ safe = safeBoth ||| safeStand ∨
      safe = safeBoth ||| safeImap := by
  obtain ⟨a, ha⟩ := h
  cases a with
  | standard => rcases ha with h | h | h <;> simp [h]
  | url => rcases ha with h | h <;> simp [h]
  | imap => rcases ha with h | h | h <;> simp [h]

/-- **Step**: one character. -/
theorem parseB64_reads {c safe v safe' : UInt8} (h : parseB64 c safe = some (v, safe'))
    (hopen : ∃ a : Alphabet, a.Open safe) : Reads [c] safe safe' := by
  rw [parseB64_eq] at h
  rcases b64Code_cases c with hnone | ⟨hlo, hhi, hmem⟩ | hown
  · rw [hnone] at h
    cases h
  · -- every alphabet has it, and none is shut
    rw [codeValue_common hlo hhi] at h
    cases h
    refine ⟨hopen, fun a ha => ⟨ha, fun d hd => ?_⟩⟩
    rw [List.mem_singleton.1 hd]
    exact List.mem_append_left _ hmem
  · have hall : (ownCodes.all fun p => [0, safeUrl, safeBoth, safeBoth ||| safeStand, safeBoth ||| safeImap].all
        fun s => (codeValue p.1 s).all fun q =>
          [Alphabet.standard, .url, .imap].any (fun a => decide (a.Open q.2)) &&
          [Alphabet.standard, .url, .imap].all (fun a => decide (a.Open q.2 →
            a.Open s ∧ p.2 ∈ [a.v62, a.v63]))) = true := by
      decide
    have hsafe : safe ∈ [0, safeUrl, safeBoth, safeBoth ||| safeStand, safeBoth ||| safeImap] := by
      simpa using open_states hopen
    have hc := List.all_eq_true.1 (List.all_eq_true.1 hall _ hown) safe hsafe
    rw [h, Option.all_some, Bool.and_eq_true, List.any_eq_true, List.all_eq_true] at hc
    obtain ⟨⟨a, -, ha⟩, hstep⟩ := hc
    refine ⟨⟨a, of_decide_eq_true ha⟩, fun a ha => ?_⟩
    have hmem : a ∈ [Alphabet.standard, .url, .imap] := by cases a <;> simp
    obtain ⟨hbefore, hhas⟩ := of_decide_eq_true (hstep a hmem) ha
    refine ⟨hbefore, fun d hd => ?_⟩
    rw [List.mem_singleton.1 hd]
    exact List.mem_append_right _ hhas

theorem base64Loop_reads {cur cur' : Text} {safe safe' : UInt8} {id id' : Binary}
    (h : base64Loop cur safe id = some (cur', safe', id')) (hopen : ∃ a : Alphabet, a.Open safe) :
    ∃ cs, cur = cs ++ cur' ∧ Reads cs safe safe' := by
  induction cur, safe, id using base64Loop.induct with
  | case1 c0 c1 c2 c3 c4 cur safe id ih =>
    simp only [base64Loop, Option.bind_eq_bind, Option.bind_eq_some_iff, Prod.exists] at h
    obtain ⟨a0, safe₀, h₀, a1, safe₁, h₁, a2, safe₂, h₂, a3, safe₃, h₃, hrest⟩ := h
    have r₀ := parseB64_reads h₀ hopen
    have r₁ := parseB64_reads h₁ r₀.exists_open
    have r₂ := parseB64_reads h₂ r₁.exists_open
    have r₃ := parseB64_reads h₃ r₂.exists_open
    obtain ⟨cs, heq, hreads⟩ := ih _ _ _ _ _ hrest r₃.exists_open
    refine ⟨[c0] ++ [c1] ++ [c2] ++ [c3] ++ cs, ?_, (((r₀.append r₁).append r₂).append r₃).append hreads⟩
    rw [heq]
    rfl
  | case2 cur safe id hshort =>
    rw [base64Loop.eq_2 _ _ _ hshort] at h
    cases h
    exact ⟨[], rfl, Reads.nil hopen⟩

theorem base64Tail_reads {cur : Text} {safe : UInt8} {id id' : Binary}
    (h : base64Tail cur safe id = some id') (hopen : ∃ a : Alphabet, a.Open safe) :
    ∃ safe', Reads cur safe safe' := by
  unfold base64Tail at h
  split at h
  · simp only [Option.bind_eq_bind, Option.bind_eq_some_iff, Prod.exists] at h
    obtain ⟨a0, safe₀, h₀, a1, safe₁, h₁, -⟩ := h
    have r₀ := parseB64_reads h₀ hopen
    have r₁ := parseB64_reads h₁ r₀.exists_open
    exact ⟨_, r₀.append r₁⟩
  · simp only [Option.bind_eq_bind, Option.bind_eq_some_iff, Prod.exists] at h
    obtain ⟨a0, safe₀, h₀, a1, safe₁, h₁, a2, safe₂, h₂, -⟩ := h
    have r₀ := parseB64_reads h₀ hopen
    have r₁ := parseB64_reads h₁ r₀.exists_open
    have r₂ := parseB64_reads h₂ r₁.exists_open
    exact ⟨_, (r₀.append r₁).append r₂⟩
  · simp only [Option.bind_eq_bind, Option.bind_eq_some_iff, Prod.exists] at h
    obtain ⟨a0, safe₀, h₀, a1, safe₁, h₁, a2, safe₂, h₂, a3, safe₃, h₃, -⟩ := h
    have r₀ := parseB64_reads h₀ hopen
    have r₁ := parseB64_reads h₁ r₀.exists_open
    have r₂ := parseB64_reads h₂ r₁.exists_open
    have r₃ := parseB64_reads h₃ r₂.exists_open
    exact ⟨_, ((r₀.append r₁).append r₂).append r₃⟩
  · cases h

theorem mem_stripPad {cur : Text} {c : UInt8} (h : c ∈ cur) : c = chr '=' ∨ c ∈ stripPad cur := by
  unfold stripPad
  split
  · split_ifs with h3 h2 <;> simp only [List.mem_cons] at h ⊢ <;> aesop
  · split_ifs with h2 <;> simp only [List.mem_cons] at h ⊢ <;> aesop
  · exact .inr h

/-- **What is read**: every text that is accepted has all its characters, but for the padding, from one
    alphabet. -/
theorem base64From_chars {bin64 : Text} {pad : Bool} {id : Binary}
    (h : base64From bin64 0 [] pad = some id) :
    ∃ a : Alphabet, ∀ c ∈ bin64, c = chr '=' ∨ c ∈ a.chars := by
  rw [base64From, Option.bind_eq_bind, Option.bind_eq_some_iff] at h
  obtain ⟨⟨cur, safe, id'⟩, hloop, htail⟩ := h
  obtain ⟨cs, heq, hreads⟩ := base64Loop_reads hloop ⟨.standard, .inl rfl⟩
  dsimp only at htail
  split_ifs at htail
  obtain ⟨safe', hlast⟩ := base64Tail_reads htail hreads.exists_open
  obtain ⟨a, ha⟩ := hlast.exists_open
  obtain ⟨hopen, hcur⟩ := hlast.has a ha
  refine ⟨a, fun c hc => ?_⟩
  rw [heq, List.mem_append] at hc
  rcases hc with hc | hc
  · exact .inr ((hreads.has a hopen).2 c hc)
  · exact (mem_stripPad hc).imp_right (hcur c)

theorem pad_notMem_chars (a : Alphabet) : chr '=' ∉ a.chars := by cases a <;> decide

/-- Two characters that no alphabet has together, each of which is one of some alphabet. -/
structure Mixed (c d : UInt8) : Prop where
  left : ∃ a : Alphabet, c ∈ a.chars
  right : ∃ a : Alphabet, d ∈ a.chars
  none_has : ∀ a : Alphabet, ¬ (c ∈ a.chars ∧ d ∈ a.chars)

theorem base64From_mixed {bin64 : Text} {c d : UInt8} (hc : c ∈ bin64) (hd : d ∈ bin64) (hmix : Mixed c d)
    (pad : Bool) : base64From bin64 0 [] pad = none := by
  rw [Option.eq_none_iff_forall_ne_some]
  intro id hid
  obtain ⟨a, ha⟩ := base64From_chars hid
  have hhas : ∀ e ∈ bin64, (∃ b : Alphabet, e ∈ b.chars) → e ∈ a.chars := by
    rintro e he ⟨b, hb⟩
    rcases ha e he with rfl | hmem
    · exact absurd hb (pad_notMem_chars b)
    · exact hmem
  exact hmix.none_has a ⟨hhas c hc hmix.left, hhas d hd hmix.right⟩

/-! ## The functions of the object -/

theorem fromBase64_toBase64 (self b : Binary) (a : Alphabet) (pad : Bool) :
    fromBase64 self (toBase64 pad a.v62 a.v63 b) pad = (true, b) := by
  cases b with
  | nil => rfl
  | cons x r =>
    obtain ⟨c, cs, htext⟩ := toBase64_ne_nil pad a.v62 a.v63 x r
    have hne : toBase64 pad a.v62 a.v63 (x :: r) ≠ [] := by
      rw [htext]
      exact List.cons_ne_nil c cs
    have hopen : a.Open 0 := by cases a <;> exact .inl rfl
    rw [fromBase64, if_neg hne, base64From_toBase64 a pad pad id (List.cons_ne_nil x r) hopen []]
    rfl

theorem fromBase64_refused (self : Binary) (bin64 : Text) (pad : Bool)
    (h : (fromBase64 self bin64 pad).1 = false) : (fromBase64 self bin64 pad).2 = self := by
  unfold fromBase64 at h ⊢
  split_ifs at h ⊢ with hempty
  split at h
  · rfl
  · cases h

theorem fromBase64_mixed (self : Binary) {bin64 : Text} {c d : UInt8} (hc : c ∈ bin64) (hd : d ∈ bin64)
    (hmix : Mixed c d) (pad : Bool) : fromBase64 self bin64 pad = (false, self) := by
  have hne : bin64 ≠ [] := List.ne_nil_of_mem hc
  rw [fromBase64, if_neg hne, base64From_mixed hc hd hmix]

/-- Every object is read back from its text, in each alphabet and with or without padding; a text that mixes
    two alphabets is refused; and a text that is refused leaves the object as it is. -/
theorem base64_spec :
    (∀ (self b : Binary) (a : Alphabet) (pad : Bool),
      fromBase64 self (toBase64 pad a.v62 a.v63 b) pad = (true, b)) ∧
    (∀ (self : Binary) (bin64 : Text) (pad : Bool) (c d : UInt8), c ∈ bin64 → d ∈ bin64 → Mixed c d →
      (fromBase64 self bin64 pad).1 = false) ∧
    ∀ (self : Binary) (bin64 : Text) (pad : Bool),
      (fromBase64 self bin64 pad).1 = false → (fromBase64 self bin64 pad).2 = self := by
  refine ⟨fromBase64_toBase64, fun self bin64 pad c d hc hd hmix => ?_, fromBase64_refused⟩
  rw [fromBase64_mixed self hc hd hmix]

/-- The text of the standard alphabet with a character of IMAP, and one with none at all. -/
theorem base64_spec_mixed :
    (fromBase64 [1] (txt "a/b,") false).1 = false ∧ (fromBase64 [1] (txt "a!bc") true).2 = [1] :=
  ⟨base64_spec.2.1 [1] (txt "a/b,") false (chr '/') (chr ',') (by decide) (by decide)
      ⟨⟨.standard, by decide⟩, ⟨.imap, by decide⟩, fun a => by cases a <;> decide⟩,
    base64_spec.2.2 [1] (txt "a!bc") true (by decide)⟩

end Binary

end PtpMgmt
