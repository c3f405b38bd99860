import PtpMgmt.Cfg.ReadSa
import PtpMgmt.Message.Lookup

set_option autoImplicit false

/-! # The keys of a command line (`parse_quote` and `parseKeysFunc` of `pmc_dump.cpp`)

What follows the id on a command line is a list of keys with their values, cut out of the line by `strtok_r`
and, where a text may stand, by a scanner of quoted text. Both walk the memory of the line from where the other
one stopped: `lastStr` and `l_save` are one place here, and the memory is what follows it, the zero at the end of
the line included. Nothing is the result where the walk leaves that memory. -/

namespace PtpMgmt.MsgBuild

open Json
open Cfg.SppKeys (isSpaceToken)

/-! ## Quoted text -/

/-- What `parse_quote` returns: 0, 1, 2 with the token and the place behind it, and -1. -/
inductive Quote
  | noMore
  | plain
  | found (tkn : Text) (lastStr : Text)
  | error
  deriving DecidableEq

/-- The loop over separators. `strchr` finds the zero of `spaceToken` as well. -/
def skipSeparators : Text → Option Text
  | [] => none
  | c :: r => if isSpaceToken c || c == 0 then skipSeparators r else some (c :: r)

/-- The search for the close of a quoted text, after a character. Nothing is found at the end of the line. -/
def findClose (close prev : UInt8) : Text → Option (Option (Text × Text))
  | [] => none
  | c :: r =>
    if c = 0 then some none
    else if c = close ∧ prev ≠ chr '\\' then some (some ([], r))
    else (findClose close c r).map fun found => found.map fun (start, rest) => (c :: start, rest)

/-- What is written for a backslash and the character behind it. -/
def escaped (c : UInt8) : Text :=
  if c = chr 't' then [chr '\t']
  else if c = chr 'n' then [chr '\n']
  else if c = chr 'r' then [chr '\r']
  else if c = chr 'a' then [0x07]
  else if c = chr 'b' then [0x08]
  else if c = chr 'e' then [0x1b]
  else if c = chr 'f' then [0x0c]
  else if c = chr 'v' then [0x0b]
  else if c = chr ' ' ∨ c = chr '"' ∨ c = chr '?' ∨ c = chr '\'' ∨ c = chr '\\' then [c]
  else [chr '\\', c]

/-- The escapes of a quoted text. Behind a backslash at its end the walk would go on over the zero. -/
def unescape : Text → Option Text
  | [] => some []
  | c :: r =>
    if c = chr '\\' then
      match r with
      | [] => none
      | d :: r => (unescape r).map (escaped d ++ ·)
    else (unescape r).map (c :: ·)

/-- `parse_quote`. -/
def parseQuote (cur : Text) : Option Quote :=
  match skipSeparators cur with
  | none => none
  | some [] => none
  | some (c :: r) =>
    if c = 0 then some .noMore
    else if c ≠ chr '"' ∧ c ≠ chr '\'' then some .plain
    else
      match findClose c c r with
      | none => none
      | some none => some .error
      | some (some (start, lastStr)) => (unescape start).map fun tkn => .found tkn lastStr

/-- `strtok_r` with `spaceToken`: the token with the memory behind the zero that closes it, if there is one, and the
    new place. -/
def strtok (cur : Text) : Option (Option (Text × Text) × Text) :=
  let ends := fun c => isSpaceToken c || c == 0
  match cur.dropWhile isSpaceToken with
  | [] => none
  | c :: r =>
    if c = 0 then some (none, c :: r)
    else
      match (c :: r).dropWhile (fun c => !ends c) with
      | [] => none
      | d :: behind =>
        some (some ((c :: r).takeWhile fun c => !ends c, behind), if d = 0 then d :: behind else behind)

/-! ## Values -/

/-- `strtoll` with base 16. -/
def strtoll16 (tkn : Text) : Int × Text :=
  let t := tkn.dropWhile isCSpace
  let neg := decide (t.head? = some (chr '-'))
  let t := Binary.skipHexPrefix (if neg || decide (t.head? = some (chr '+')) then t.tail else t)
  let isHex := fun c => decide (digitVal c < 16)
  let a := magnitude 16 (t.takeWhile isHex)
  if t.takeWhile isHex = [] then (0, tkn)
  else (clampInt (if neg then -(a : Int) else a), t.dropWhile isHex)

/-- `strtoll`, for the bases of the keys. -/
def strtoll (base : Nat) (tkn : Text) : Int × Text :=
  if base = 16 then strtoll16 tkn else ((strtoimax base tkn).1.toInt, (strtoimax base tkn).2)

/-- The words that turn a flag on. -/
def isOn (tkn : Text) : Bool :=
  sameName false tkn (txt "enable") || sameName false tkn (txt "enabled") || sameName false tkn (txt "on") ||
    sameName false tkn (txt "true")

/-- `strcasecmp` of a name with the memory from a place on. -/
def sameMem : Text → Text → Option Bool
  | [], c :: _ => some (c == 0)
  | _, [] => none
  | d :: name, c :: mem => if c ≠ 0 ∧ toLower c = toLower d then sameMem name mem else some false

/-- The parsers of values of their own kind. -/
inductive Handle
  | getTimeSource
  | getPortState
  | getDelayMech
  | getPwrVer
  | isClockIdentity
  deriving DecidableEq

def getTimeSource (tkn : Text) : Option Int :=
  match findTimeSrc tkn 0 false with
  | (true, type) => some type.toNat
  | (false, _) =>
    let num := strtoll 16 tkn
    if num.2 ≠ [] ∨ num.1 < 0 ∨ num.1 > 255 then none else some num.1

def getPortState (tkn : Text) : Option Int :=
  match findPortState tkn 0 false with
  | (true, state) => some state.toNat
  | (false, _) =>
    let num := strtoll 16 tkn
    if num.2 ≠ [] ∨ num.1 < 1 ∨ num.1 > 9 then none else some num.1

def getDelayMech (tkn : Text) : Option Int :=
  match findDelayMech tkn 0 false with
  | (true, type) => some type.toNat
  | (false, _) =>
    let num := strtoll 0 tkn
    if num.2 = tkn ∨ num.2 ≠ [] ∨ num.1 < 0 ∨ num.1 > 0xfe then none else some num.1

/-- The start of the names of the versions. -/
def pwrVerBase : Text := txt "IEEE_C37_238_VERSION_"

/-- `getPwrVer`. Where the value is the bare start of a name, what stands behind its zero is taken for the rest. -/
def getPwrVer (tkn behind : Text) : Option (Option Int) := do
  let t2 := if sameName false tkn pwrVerBase then behind else tkn ++ [0]
  if ← sameMem (txt "NONE") t2 then return some 0
  else if ← sameMem (txt "2011") t2 then return some 1
  else if ← sameMem (txt "2017") t2 then return some 2
  else
    let num := strtoll 0 tkn
    return if num.2 = tkn ∨ num.2 ≠ [] ∨ num.1 < 0 ∨ num.1 > 2 then none else some num.1

/-- It leaves the number as it is. -/
def isClockIdentity (tkn : Text) (num : Int) : Option Int :=
  match Binary.fromHex tkn with
  | some id => if id.length = 8 then some num else none
  | none => none

/-- The number that a parser leaves, inside the memory, or an error. -/
def Handle.run (tkn behind : Text) (num : Int) : Handle → Option (Option Int)
  | getTimeSource => some (MsgBuild.getTimeSource tkn)
  | getPortState => some (MsgBuild.getPortState tkn)
  | getDelayMech => some (MsgBuild.getDelayMech tkn)
  | getPwrVer => MsgBuild.getPwrVer tkn behind
  | isClockIdentity => some (MsgBuild.isClockIdentity tkn num)

/-! ## Keys -/

/-- `val_key_t`. -/
structure Key where
  canStr : Bool
  base : Nat
  default : Int
  max : Int
  min : Int
  req : Bool
  flag : Bool
  num : Int
  strVal : Text
  handle : Option Handle
  deriving DecidableEq

/-- A new `val_key_t`. -/
def Key.init : Key := ⟨false, 0, 0, 0, 0, false, false, 0, [], none⟩

namespace Key

/-- The range of a flag is set where its value is read. -/
def ranged (key : Key) : Key := if key.flag then { key with min := 0, max := 255 } else key

/-- A value of a key, with the memory behind it. Nothing inside is an error. -/
def take (key : Key) (tkn behind : Text) : Option (Option Key) :=
  match key.handle with
  | none =>
    let key := key.ranged
    let num := strtoll key.base tkn
    some <|
      if num.2 = [] ∧ key.min ≤ num.1 ∧ num.1 ≤ key.max then
        some { key with strVal := tkn, num := num.1, req := false }
      else if key.flag then some { key with strVal := tkn, num := if isOn tkn then 1 else 0, req := false }
      else if key.canStr then some { key with strVal := tkn, req := false }
      else none
  | some handle =>
    if tkn = [] then some none
    else (handle.run tkn behind key.num).map fun num =>
      num.map fun num => { key with strVal := tkn, num, req := false }

end Key

/-- The keys of a builder by their names. -/
abbrev Keys := List (Text × Key)

namespace Keys

/-- The values of the keys that may be left out. -/
def withDefaults (keys : Keys) : Keys :=
  keys.map fun k => (k.1, if k.2.req then k.2 else { k.2 with strVal := [], num := k.2.default })

/-- `keys.size() == 1`. -/
def singleKey (keys : Keys) : Bool := keys.length == 1

/-- The key that a token names; a single key needs no name. -/
def find (keys : Keys) (tkn : Text) : Option Nat :=
  if keys.singleKey then some 0 else keys.findIdx? fun k => sameName false tkn k.1

/-- `it.second.req` of some key. -/
def missing (keys : Keys) : Bool := keys.any fun k => k.2.req

/-- `keys[name]`. -/
def get (keys : Keys) (name : String) : Key := ((keys.find? fun k => k.1 == txt name).map (·.2)).getD .init

/-- `keys[name].num`. -/
def num (keys : Keys) (name : String) : Int := (keys.get name).num

end Keys

/-! ## The parser -/

/-- A token with the memory behind it and the place that follows, an error, or the end of the tokens. Only the
    parsers of values look behind a token, and a quoted text is never theirs. -/
inductive Taken
  | stop
  | error
  | token (tkn behind cur : Text)
  deriving DecidableEq

/-- A token that `strtok_r` finds, or what there is where it finds none. -/
def takeNormal (cur : Text) (last : Text → Taken) : Option Taken :=
  (strtok cur).map fun (tkn, cur) =>
    match tkn with
    | none => last cur
    | some (tkn, behind) => .token tkn behind cur

/-- A quoted text, or else a token that `strtok_r` finds. -/
def takeQuoted (cur : Text) (last : Text → Taken) : Option Taken :=
  match parseQuote cur with
  | none => none
  | some .error => some .error
  | some .noMore => some (last cur)
  | some .plain => takeNormal cur last
  | some (.found tkn cur) => some (.token tkn cur cur)

/-- The first token of a pass of the loop. -/
def takeName (keys : Keys) (cur : Text) : Option Taken :=
  if keys.singleKey && keys.any (·.2.canStr) then takeQuoted cur fun _ => .stop else takeNormal cur fun _ => .stop

/-- The token of the value. For a single key the first token is the value where no other one follows. -/
def takeValue (keys : Keys) (key : Key) (tkn behind cur : Text) : Option Taken :=
  let last := fun cur => if keys.singleKey then Taken.token tkn behind cur else .stop
  if key.canStr then takeQuoted cur last else takeNormal cur last

/-- A pass of the loop: an error, the end, or the keys and the place for the next pass. -/
inductive Pass
  | stop
  | error
  | next (keys : Keys) (cur : Text)
  deriving DecidableEq

/-- One pass of the loop. -/
def pass (keys : Keys) (cur : Text) : Option Pass :=
  match takeName keys cur with
  | none => none
  | some .error => some .error
  | some .stop => some .stop
  | some (.token tkn behind cur) =>
    match keys.find tkn with
    | none => some .error
    | some i =>
      match keys[i]? with
      | none => some .error
      | some (name, key) =>
        match takeValue keys key tkn behind cur with
        | none => none
        | some .error => some .error
        | some .stop => some .stop
        | some (.token tkn behind cur) =>
          match key.take tkn behind with
          | none => none
          | some none => some .error
          | some (some key) => some (.next (keys.set i (name, key)) cur)

/-- The loop, with room for so many passes. It gives the keys, or nothing inside for an error. -/
def loop : Nat → Keys → Text → Option (Option Keys)
  | 0, _, _ => some none
  | n + 1, keys, cur =>
    match pass keys cur with
    | none => none
    | some .error => some none
    | some .stop => some (if keys.missing then none else some keys)
    | some (.next keys cur) => loop n keys cur

/-- `parseKeysFunc`. Every pass takes a character at least. -/
def parseKeys (keys : Keys) (save : Text) : Option (Option Keys) := loop (save.length + 1) keys.withDefaults save

end PtpMgmt.MsgBuild
