import Mathlib.Data.List.Basic
import PtpMgmt.Json.Grammar

set_option autoImplicit false

/-! # Values as text (`jsonValueBase::strToStr`, `toString`) -/

namespace PtpMgmt.Json

/-! ## Strings -/

/-- A digit as `%x` prints it. -/
def hexDigit (d : Nat) : UInt8 := if d < 10 then UInt8.ofNat (0x30 + d) else UInt8.ofNat (0x57 + d)

/-- `jUtf16`. -/
def jUtf16 (val : Nat) : Text :=
  [chr '\\', chr 'u', hexDigit (val / 0x1000 % 16), hexDigit (val / 0x100 % 16),
    hexDigit (val / 0x10 % 16), hexDigit (val % 16)]

/-- A code point as one or two escapes. -/
def codeEscape (val : Nat) : Text :=
  if val ≤ 0xffff then jUtf16 val
  else
    let val := val - 0x10000
    jUtf16 (((val >>> 10) &&& 0xbff) ||| 0xd800) ++ jUtf16 ((val &&& 0xbff) ||| 0xdc00)

/-- The characters that have an escape of their own, with the character after the reverse solidus. -/
def escapeChar (c : UInt8) : Option UInt8 :=
  if c = chr '\\' ∨ c = chr '"' ∨ c = chr '/' then some c
  else if c = 0x08 then some (chr 'b')
  else if c = 0x0c then some (chr 'f')
  else if c = 0x0a then some (chr 'n')
  else if c = 0x0d then some (chr 'r')
  else if c = 0x09 then some (chr 't')
  else none

/-- The octets that follow the first one of a sequence, and the bits of the first one; nothing for an octet
    that no sequence starts with. -/
def leadOctet (v : UInt8) : Option (Nat × Nat) :=
  if v &&& 0xe0 = 0xc0 then some (1, (v &&& 0x1f).toNat)
  else if v &&& 0xf0 = 0xe0 then some (2, (v &&& 0xf).toNat)
  else if v &&& 0xf8 = 0xf0 then some (3, (v &&& 7).toNat)
  else none

/-- The code point of a sequence, with the bits of its first octet. -/
def codePoint (val : Nat) (octets : Text) : Nat :=
  octets.foldl (fun val o => val * 64 + (o &&& 0x3f).toNat) val

/-- The loop of `strToStr`; nothing when the text is no proper UTF-8. -/
def strLoop : Text → Option Text
  | [] => some []
  | v :: r =>
    match escapeChar v with
    | some e => (strLoop r).map ([chr '\\', e] ++ ·)
    | none =>
      if 0x20 ≤ v ∧ v < 0x7f then (strLoop r).map ([v] ++ ·)
      else if v ≤ 0x7f then (strLoop r).map (codeEscape v.toNat ++ ·)
      else
        match leadOctet v with
        | none => none
        | some (b, val) =>
          if r.length < b ∨ !(r.take b).all (fun o => o &&& 0xc0 == 0x80) then none
          else (strLoop (r.drop b)).map (codeEscape (codePoint val (r.take b)) ++ ·)
termination_by str => str.length
decreasing_by
  all_goals simp only [List.length_cons, List.length_drop]
  all_goals omega

/-- `strToStr`. A text that is no proper UTF-8 is passed as it is. -/
def strToStr (str : Text) : Text := quote ((strLoop str).getD str)

/-! ## Values -/

def spaces (n : Nat) : Text := List.replicate n (chr ' ')

mutual

/-- `toString`. The comma after the last member or element is left out. -/
def toString (ident : Nat) : Value → Text
  | .str val => strToStr val
  | .num val _ _ => val
  | .bool val => if val then txt "true" else txt "false"
  | .null => txt "null"
  | .obj members =>
    spaces (2 * ident) ++ leftCurly :: chr '\n' :: (memberLines ident members ++ spaces (2 * ident) ++
      [rightCurly])
  | .arr elements =>
    spaces (2 * ident) ++ chr '[' :: chr '\n' :: (elementLines ident elements ++ spaces (2 * ident) ++
      [chr ']'])

/-- The lines of the members of an object. -/
def memberLines (ident : Nat) : List (Text × Value) → Text
  | [] => []
  | (key, v) :: ms =>
    spaces (2 * ident) ++ txt "  " ++ strToStr key ++ txt " : " ++ toString (ident + 2) v ++
      (if ms.isEmpty then txt "\n" else txt ",\n") ++ memberLines ident ms

/-- The lines of the elements of an array. -/
def elementLines (ident : Nat) : List Value → Text
  | [] => []
  | e :: es =>
    spaces (2 * ident) ++ txt "  " ++ toString (ident + 2) e ++
      (if es.isEmpty then txt "\n" else txt ",\n") ++ elementLines ident es

end

end PtpMgmt.Json
