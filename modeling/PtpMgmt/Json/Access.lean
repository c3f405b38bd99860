import Mathlib.Algebra.Order.Ring.Int
import PtpMgmt.Json.Numbers

set_option autoImplicit false

/-! # Access to parsed values (`jsonParser.cpp`)

What the users of the parser ask for: a member by its key, and a value as a number. A key that stands more
than once in an object finds nothing. -/

namespace PtpMgmt.Json

/-! ## Values -/

/-- `getVal` of a value: an object and an array are none. -/
def Value.getVal : Value → Option Value
  | .obj _ => none
  | .arr _ => none
  | v => some v

/-- `getObj`. -/
def Value.getObj : Value → Option (List (Text × Value))
  | .obj members => some members
  | _ => none

/-- `getArr`. -/
def Value.getArr : Value → Option (List Value)
  | .arr elements => some elements
  | _ => none

/-! ## Members -/

/-- `count(key)`. -/
def count (members : List (Text × Value)) (key : Text) : Nat := members.countP fun m => m.1 == key

/-- `find(key)`, where the key stands once. -/
def findMember (members : List (Text × Value)) (key : Text) : Option Value :=
  if count members key = 1 then (members.find? fun m => m.1 == key).map Prod.snd else none

/-- `getVal(key)`. -/
def getVal (members : List (Text × Value)) (key : Text) : Option Value :=
  (findMember members key).bind Value.getVal

/-- `getObj(key)`. -/
def getObj (members : List (Text × Value)) (key : Text) : Option (List (Text × Value)) :=
  (findMember members key).bind Value.getObj

/-- `getArr(key)`. -/
def getArr (members : List (Text × Value)) (key : Text) : Option (List Value) :=
  (findMember members key).bind Value.getArr

/-! ## `strtoimax` and `strtoumax` -/

/-- `isspace`. -/
def isCSpace (c : UInt8) : Bool := c == 0x20 || (decide (0x09 ≤ c) && decide (c ≤ 0x0d))

/-- The value of a digit in a base up to 36. -/
def digitVal (c : UInt8) : Nat :=
  if isDigit c then c.toNat - 0x30
  else if isLower c then c.toNat - 0x57
  else if chr 'A' ≤ c ∧ c ≤ chr 'Z' then c.toNat - 0x37
  else 36

/-- The number that digits denote. -/
def magnitude (base : Nat) (digits : Text) : Nat := digits.foldl (fun n c => n * base + digitVal c) 0

/-- A base of 0 is told by the prefix. -/
def prefixBase : Text → Nat × Text
  | c :: x :: d :: r =>
    if c = chr '0' then
      if (x = chr 'x' ∨ x = chr 'X') ∧ isXDigit d then (16, d :: r) else (8, c :: x :: d :: r)
    else (10, c :: x :: d :: r)
  | c :: r => if c = chr '0' then (8, c :: r) else (10, c :: r)
  | [] => (10, [])

/-- The sign, the magnitude, and what is left. Nothing without a digit. -/
def strto (base : Nat) (t : Text) : Option (Bool × Nat × Text) :=
  let t := t.dropWhile isCSpace
  let neg := decide (t.head? = some (chr '-'))
  let t := if neg || decide (t.head? = some (chr '+')) then t.tail else t
  let (base, t) := if base = 0 then prefixBase t else (base, t)
  let digits := t.takeWhile fun c => decide (digitVal c < base)
  if digits = [] then none
  else some (neg, magnitude base digits, t.dropWhile fun c => decide (digitVal c < base))

/-- `strtoimax` of a string: its value, and what `*endptr` is. -/
def strtoimax (base : Nat) (val : Text) : Int64 × Text :=
  let s := val.takeWhile (· ≠ 0)
  match strto base s with
  | none => (0, s)
  | some (neg, n, r) =>
    (Int64.ofInt (max (-2 ^ 63) (min (2 ^ 63 - 1) (if neg then -(n : Int) else n))), r)

/-- `strtoumax`. A sign negates the result. -/
def strtoumax (base : Nat) (val : Text) : UInt64 × Text :=
  let s := val.takeWhile (· ≠ 0)
  match strto base s with
  | none => (0, s)
  | some (neg, n, r) =>
    if n ≥ 2 ^ 64 then (UInt64.ofNat (2 ^ 64 - 1), r)
    else (if neg then -(UInt64.ofNat n) else UInt64.ofNat n, r)

/-- `*endptr`: the end, or with `flexible` white space. -/
def endsWell (flexible : Bool) (r : Text) : Bool := decide (r = []) || (flexible && isSpace (peek r))

/-! ## Numbers -/

/-- `getInt64`. -/
def Value.getInt64 (flexible : Bool) : Value → Option Int64
  | .num val dotLoc eLoc =>
    if dotLoc > 0 ∨ eLoc > 0 then none
    else if peek val = chr '0' then some 0
    else if endsWell flexible (strtoimax 10 val).2 then some (strtoimax 10 val).1 else none
  | .str val =>
    if flexible && endsWell flexible (strtoimax 0 val).2 then some (strtoimax 0 val).1 else none
  | .bool val => if flexible then some (if val then 1 else 0) else none
  | .null => if flexible then some 0 else none
  | _ => none

/-- `getUint64`. -/
def Value.getUint64 (flexible : Bool) : Value → Option UInt64
  | .num val dotLoc eLoc =>
    if dotLoc > 0 ∨ eLoc > 0 ∨ peek val = chr '-' then none
    else if peek val = chr '0' then some 0
    else if endsWell flexible (strtoumax 10 val).2 then some (strtoumax 10 val).1 else none
  | .str val =>
    if flexible && endsWell flexible (strtoumax 0 val).2 then some (strtoumax 0 val).1 else none
  | .bool val => if flexible then some (if val then 1 else 0) else none
  | .null => if flexible then some 0 else none
  | _ => none

/-- `getFrac`: the integer, and the fraction in units of the last of so many digits. -/
def Value.getFrac (fracSize : Nat) : Value → Option (Int64 × UInt64)
  | .num val dotLoc eLoc =>
    if eLoc ≠ 0 then none
    else if dotLoc = 0 then ((Value.num val dotLoc eLoc).getInt64 false).map fun integer => (integer, 0)
    else
      let aDot := val.length - dotLoc - 1
      let before := strtoimax 10 (val.take dotLoc)
      let after := strtoumax 10 (val.drop (dotLoc + 1))
      if aDot ≤ fracSize ∧ before.2 = [] ∧ after.2 = [] then
        some (before.1, after.1 * UInt64.ofNat (10 ^ (fracSize - aDot)))
      else none
  | _ => none

end PtpMgmt.Json
