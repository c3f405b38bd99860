import PtpMgmt.Json.Access
import PtpMgmt.Types

set_option autoImplicit false

/-! # The configuration of the proxy (`config_parser.cpp`)

The configuration file names the time bases in an array. Every element makes a row; nothing bounds how
many there are. -/

namespace PtpMgmt.ClkMgr

open Json

/-! ## Rows (`timebase.hpp`, `config_parser.hpp`) -/

/-- `STRING_SIZE_MAX`. -/
def stringSizeMax : Nat := 64

structure TimeBaseCfg where
  timeBaseIndex : UInt64
  timeBaseName : Octets 64
  interfaceName : Octets 64
  transportSpecific : UInt8
  domainNumber : UInt8
  haveSys : Bool
  havePtp : Bool
deriving DecidableEq

structure TimeBaseCfgFull where
  base : TimeBaseCfg
  udsAddrChrony : Text
  udsAddrPtp4l : Text
deriving DecidableEq

/-! ## Members -/

/-- `get_Str_Val` into a string. -/
def getStrVal (obj : List (Text × Value)) (key : Text) (defaultVal : Option Text) : Option Text :=
  match getVal obj key with
  | none => defaultVal
  | some (.str r) => if r = [] then none else some r
  | some _ => none

/-- `get_Str_Val` into characters. The text ends at its first zero, and zeros fill the rest. -/
def getCharsVal (obj : List (Text × Value)) (key : Text) (defaultVal : Option Text) : Option (Octets 64) :=
  match getStrVal obj key defaultVal with
  | none => none
  | some r =>
    if r.length ≥ stringSizeMax then none
    else some (Octets.ofList 64 ((r.takeWhile (· ≠ 0)).take (stringSizeMax - 1)))

/-- `get_Int_Val`. -/
def getIntVal (obj : List (Text × Value)) (key : Text) (defaultVal : Option UInt8) : Option UInt8 :=
  match getVal obj key with
  | none => defaultVal
  | some val =>
    match val.getInt64 false with
    | none => none
    | some i => if i < 0 ∨ i > 255 then none else some i.toUInt64.toUInt8

/-! ## Time bases -/

def defaultUdsPtp4l : Text := txt "/var/run/ptp/ptp4l"

def defaultUdsChrony : Text := txt "/var/run/chrony/chronyd.sock"

/-- `TimeBaseCfgFull row = {}`. -/
def emptyRow : TimeBaseCfgFull :=
  ⟨⟨0, Octets.ofList 64 [], Octets.ofList 64 [], 0, 0, false, false⟩, [], []⟩

/-- The part of a row for ptp4l. -/
def ptp4lRow (row : TimeBaseCfgFull) (ptp4lObj : List (Text × Value)) : Option TimeBaseCfgFull := do
  let interfaceName ← getCharsVal ptp4lObj (txt "interfaceName") none
  let udsAddrPtp4l ← getStrVal ptp4lObj (txt "udsAddr") (some defaultUdsPtp4l)
  let domainNumber ← getIntVal ptp4lObj (txt "domainNumber") (some 0)
  let transportSpecific ← getIntVal ptp4lObj (txt "transportSpecific") (some 0)
  pure { row with
    base := { row.base with interfaceName, domainNumber, transportSpecific, havePtp := true }
    udsAddrPtp4l }

/-- The part of a row for chrony. -/
def chronyRow (row : TimeBaseCfgFull) (chronyObj : List (Text × Value)) : Option TimeBaseCfgFull := do
  let udsAddrChrony ← getStrVal chronyObj (txt "udsAddr") (some defaultUdsChrony)
  pure { row with base := { row.base with haveSys := true }, udsAddrChrony }

/-- The body of the loop of `process_json`. -/
def processRow (currentIndex : UInt64) (it : Value) : Option TimeBaseCfgFull := do
  let timeBaseObj ← it.getObj
  let timeBaseName ← getCharsVal timeBaseObj (txt "timeBaseName") none
  let row := { emptyRow with base := { emptyRow.base with timeBaseName } }
  let row ← match getObj timeBaseObj (txt "ptp4l") with
    | none => some row
    | some ptp4lObj => ptp4lRow row ptp4lObj
  let row ← match getObj timeBaseObj (txt "chrony") with
    | none => some row
    | some chronyObj => chronyRow row chronyObj
  pure { row with base := { row.base with timeBaseIndex := currentIndex } }

/-- The loop of `process_json`. -/
def processRows (currentIndex : UInt64) : List Value → Option (List TimeBaseCfgFull)
  | [] => some []
  | it :: its => do
    let row ← processRow currentIndex it
    let rows ← processRows (currentIndex + 1) its
    pure (row :: rows)

/-- `process_json` of a file with these octets. A document that is no object ends the program. -/
def processJson (file : Text) : Option (List TimeBaseCfgFull) :=
  match parseFile true file with
  | some (some main) => do
    let obj ← main.getObj
    let timeBaseArray ← getArr obj (txt "timeBases")
    processRows 1 timeBaseArray
  | _ => none

end PtpMgmt.ClkMgr
