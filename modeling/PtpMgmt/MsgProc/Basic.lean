import PtpMgmt.Types

set_option autoImplicit false

/-! # The field codec (`MsgProc` in `comp.h`, the `proc` overloads in `mngTlvs.cpp`)

`MsgProc` walks over the dataField of a TLV. In the source every `proc` returns true on error and
copies between the value and the buffer in the direction `m_build` says; here a `Proc` answers the
value as it stands after the call, and `none` is the error.

A parse starts from a newly made value in the source, whose scalar members are not initialised. None
of them is read before it is set, so `default` stands for it. -/

namespace PtpMgmt

open Wire Codec

/-- `MsgProc`: `m_build`, `m_cur`, `m_left`, `m_size` and `m_err` over a buffer. -/
abbrev MsgProc := Cursor MngParseError

/-- A function of `MsgProc` reports an error, and never how a message ended. -/
instance : Faults MngParseError where
  IsFault e := e ≠ .ok ∧ e ≠ .msg ∧ e ≠ .sig ∧ e ≠ .smpte

instance (e : MngParseError) : Decidable (IsFault e) :=
  inferInstanceAs (Decidable (e ≠ .ok ∧ e ≠ .msg ∧ e ≠ .sig ∧ e ≠ .smpte))

/-- A function of `MsgProc` that may report an error. -/
abbrev Proc (α : Type) := Codec MngParseError α

/-- The overloads `proc(T &)`. -/
class HasProc (α : Type) where
  proc : α → Proc α

export HasProc (proc)

/-! ## Numbers -/

/-- `procB8`, `procBU` and `procBN`: a number of `len` octets in network order. -/
def procBU {α : Type} (len : Nat) (toNat : α → Nat) (ofNat : Nat → α) (val : α) : Proc α :=
  field len (fun v => beOctets len (toNat v)) (fun w => ofNat (ofBe w)) val

instance : HasProc UInt8 := ⟨procBU 1 UInt8.toNat UInt8.ofNat⟩
instance : HasProc UInt16 := ⟨procBU 2 UInt16.toNat UInt16.ofNat⟩
instance : HasProc UInt32 := ⟨procBU 4 UInt32.toNat UInt32.ofNat⟩
instance : HasProc UInt64 := ⟨procBU 8 UInt64.toNat UInt64.ofNat⟩
instance : HasProc Int8 := ⟨procBU 1 (·.toUInt8.toNat) (fun n => (UInt8.ofNat n).toInt8)⟩
instance : HasProc Int16 := ⟨procBU 2 (·.toUInt16.toNat) (fun n => (UInt16.ofNat n).toInt16)⟩
instance : HasProc Int32 := ⟨procBU 4 (·.toUInt32.toNat) (fun n => (UInt32.ofNat n).toInt32)⟩
instance : HasProc Int64 := ⟨procBU 8 (·.toUInt64.toNat) (fun n => (UInt64.ofNat n).toInt64)⟩

/-- A reserved octet: zero on build, whatever it is on parse. -/
def procRes : Proc Unit := do
  let _ ← proc (0 : UInt8)

/-- `sizeof_UInteger48_t`. -/
def sizeofUInteger48 : Nat := 6

/-- The 48 bits of a `UInteger48_t`, the high 16 before the low 32. -/
def proc48 (val : UInt64) : Proc UInt64 := do
  need sizeofUInteger48
  let build ← isBuild
  if build && val > uint48Max then failWith .val (by decide)
  else do
    let high ← proc (if build then ((val >>> 32) &&& 0xffff).toUInt16 else 0)
    let low ← proc (if build then (val &&& 0xffffffff).toUInt32 else 0)
    return if build then val else low.toUInt64 ||| (high.toUInt64 <<< 32)

/-- `procFlags`: a build keeps the bits of the mask, and makes a single flag 0 or 1. -/
def procFlags (flags flagsMask : UInt8) : Proc UInt8 := do
  if ← isBuild then
    proc (if flagsMask > 1 then flags &&& flagsMask else if flags > 0 then 1 else flags)
  else proc flags

/-- A counter in little-endian order. -/
def procLe (val : UInt64) : Proc UInt64 :=
  field 8 (fun v => leOctets 8 v.toNat) (fun w => UInt64.ofNat (ofLe w)) val

/-! ## Texts and octet strings -/

/-- `proc(string &, uint16_t)`. A build takes the length of the text, cut to 16 bits. -/
def procString (str : List UInt8) (len : UInt16) : Proc (List UInt8) := do
  let len := if ← isBuild then UInt16.ofNat str.length else len
  xfer len.toNat (str.take len.toNat)

/-- `proc(Binary &, uint16_t)`. The check and the move use the length cut to 16 bits, but
    `Binary::copy` copies every octet. -/
def procBinary (bin : Binary) (len : UInt16) : Proc Binary := do
  let len := if ← isBuild then UInt16.ofNat bin.length else len
  xfer len.toNat bin

/-- `proc(uint8_t *, size_t)`, over an array of the given size. -/
def procOctets {n : Nat} (val : Octets n) : Proc (Octets n) :=
  field n List.Vector.toList (Octets.ofList n) val

/-- The loop of `procLe` over an array of counters. -/
def procLeArr {n : Nat} (val : List.Vector UInt64 n) : Proc (List.Vector UInt64 n) := do
  let vals ← each procLe val.toList
  return List.Vector.ofFn fun i => vals.getD i 0

/-! ## Records -/

instance : HasProc TimeInterval where
  proc v := do
    return { scaledNanoseconds := ← proc v.scaledNanoseconds }

instance : HasProc Timestamp where
  proc d := do
    return { secondsField := ← proc48 d.secondsField
             nanosecondsField := ← proc d.nanosecondsField }

instance : HasProc ClockIdentity where
  proc v := do
    return { v := ← procOctets v.v }

instance : HasProc PortIdentity where
  proc d := do
    return { clockIdentity := ← proc d.clockIdentity
             portNumber := ← proc d.portNumber }

instance : HasProc PortAddress where
  proc d := do
    let networkProtocol ← proc d.networkProtocol
    let addressLength ← proc (UInt16.ofNat d.addressField.length)
    let addressField ← procBinary d.addressField addressLength
    return { networkProtocol, addressLength, addressField }

instance : HasProc ClockQuality where
  proc d := do
    return { clockClass := ← proc d.clockClass
             clockAccuracy := ← proc d.clockAccuracy
             offsetScaledLogVariance := ← proc d.offsetScaledLogVariance }

/-- The text is refused when its length does not fit an octet. -/
instance : HasProc PTPText where
  proc d := do
    if d.textField.length > 255 then fail
    else do
      let lengthField ← proc (UInt8.ofNat d.textField.length)
      let textField ← procString d.textField lengthField.toUInt16
      return { lengthField, textField }

/-- A parse checks that the length of the record is what its parts add up to. -/
instance : HasProc FaultRecord where
  proc d := do
    let build ← isBuild
    let d : FaultRecord :=
      { faultRecordLength :=
          ← proc (if build then UInt16.ofNat d.size else d.faultRecordLength)
        faultTime := ← proc d.faultTime
        severityCode := ← proc d.severityCode
        faultName := ← proc d.faultName
        faultValue := ← proc d.faultValue
        faultDescription := ← proc d.faultDescription }
    if !build && d.faultRecordLength.toNat != d.size then failWith .sizeMiss (by decide)
    else return d

instance : HasProc AcceptableMaster where
  proc d := do
    return { acceptablePortIdentity := ← proc d.acceptablePortIdentity
             alternatePriority1 := ← proc d.alternatePriority1 }

instance : HasProc LinuxptpUnicastMaster where
  proc d := do
    return { portIdentity := ← proc d.portIdentity
             clockQuality := ← proc d.clockQuality
             selected := ← proc d.selected
             portState := ← proc d.portState
             priority1 := ← proc d.priority1
             priority2 := ← proc d.priority2
             portAddress := ← proc d.portAddress }

/-! ## Tables -/

/-- `vector_f`: a table with a count. -/
def vectorF {α : Type} [Inhabited α] [HasProc α] (count : UInt32) (vec : List α) :
    Proc (List α) := do
  if ← isBuild then each proc vec
  else return vec ++ (← times (proc default) count.toNat)

/-- A parse of the record passes at least one octet. -/
abbrev Progress (α : Type) [Inhabited α] [HasProc α] : Prop := Consumes (proc (default : α))

/-- `vector_o`: a table that goes on as long as one more record of `size` octets fits. -/
def vectorO {α : Type} [Inhabited α] [HasProc α] [Progress α] (size : Nat) (hsize : 0 < size)
    (vec : List α) : Proc (List α) := do
  if ← isBuild then each proc vec
  else return vec ++ (← whileLeft size hsize (proc default))

instance consumes_procBU {α : Type} {len : Nat} [NeZero len] (toNat : α → Nat) (ofNat : Nat → α)
    (val : α) : Consumes (procBU len toNat ofNat val) :=
  consumes_field _ _ val

instance : Progress ClockIdentity :=
  inferInstanceAs (Consumes (field 8 List.Vector.toList (Octets.ofList 8) _ >>= _))

end PtpMgmt
