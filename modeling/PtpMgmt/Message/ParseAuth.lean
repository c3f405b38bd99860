import PtpMgmt.Message.Basic

set_option autoImplicit false

/-! # Verifying an authentication TLV (`Message::parseAuth`)

A parse reads a buffer of the caller, modelled as a memory that goes on behind the end of the buffer.
`ParseLog` records what is examined, also when the parse fails. It is ghost state, no branch looks at
it. -/

namespace PtpMgmt

open Wire Codec

/-- What the decoder of one TLV examined of the `length` octets behind the header of the TLV. -/
structure Window where
  start : Nat
  length : Nat
  reads : List Nat

/-- What a parse did with the buffer. -/
structure ParseLog where
  /-- Offsets examined, in order. -/
  reads : List Nat
  /-- The decoders of TLVs. -/
  windows : List Window
  /-- Where the cursor stood at each head of the loop over the signalling TLVs. -/
  heads : List Nat
  /-- A loop was given up before its condition became false. -/
  stuck : Bool
  /-- A pointer that was never assigned was deleted. -/
  freesWild : Bool

namespace ParseLog

def init : ParseLog := ⟨[], [], [], false, false⟩

/-- Examine `n` octets. -/
def look (log : ParseLog) (off n : Nat) : ParseLog :=
  { log with reads := log.reads ++ List.range' off n }

/-- A decoder examined octets behind the header of its TLV. -/
def decoder (log : ParseLog) (start length : Nat) (mp : MsgProc) : ParseLog :=
  { log with
    reads := log.reads ++ mp.reads
    windows := log.windows ++ [⟨start, length, mp.reads⟩]
    stuck := log.stuck || mp.stuck }

/-- The cursor is at the head of the loop. -/
def head (log : ParseLog) (cur : Nat) : ParseLog :=
  { log with heads := log.heads ++ [cur] }

/-- Delete what a pointer points to. -/
def delete (log : ParseLog) (ptr : TlvPtr) : ParseLog :=
  { log with freesWild := log.freesWild || ptr.isWild }

/-- Delete the TLVs of a signalling message, with their data. -/
def deleteTlvs (log : ParseLog) (tlvs : List (TlvType × BaseSigTlv)) : ParseLog :=
  { log with freesWild := log.freesWild || tlvs.any fun t => t.2.isWild }

end ParseLog

/-- The `MsgProc` of a parse, in front of `left` octets. Its `m_err` is still the initial one wherever a
    decoder starts, because a decoder that sets it fails and ends the parse. -/
def MsgProc.parseAt (buf : Nat → UInt8) (cur : Nat) (left : Int) : MsgProc where
  build := false
  cur
  left
  size := 0
  err := .tooSmall
  mem := buf
  reads := []
  writes := []
  stuck := false

@[simp] theorem MsgProc.parseAt_cur (buf : Nat → UInt8) (cur : Nat) (left : Int) :
    (parseAt buf cur left).cur = cur := rfl
@[simp] theorem MsgProc.parseAt_left (buf : Nat → UInt8) (cur : Nat) (left : Int) :
    (parseAt buf cur left).left = left := rfl

/-- Examine octets outside of the walk. -/
def MsgProc.peek (mp : MsgProc) (off n : Nat) : MsgProc :=
  { mp with reads := mp.reads ++ List.range' off n }

/-- Pass `n` octets of a parse. -/
def MsgProc.skip (mp : MsgProc) (n : Nat) : MsgProc :=
  { mp with cur := mp.cur + n, left := mp.left - n }

namespace Message

/-- The HMAC object for a key that is named in a message: the one in use, or a new one. -/
def receiveKey (lib : HmacLib) (a : Auth) (spp : UInt8) (keyID : UInt32) : Option HmacKey :=
  if a.sppID = spp ∧ a.keyID = keyID then some a.hmac
  else hmacAllocHMAC lib ((a.sa.spp spp).htype keyID) ((a.sa.spp spp).key keyID)

/-- The ICV of `len` octets at the end of the TLV at `auth`. -/
def verifyIcv (lib : HmacLib) (a : Auth) (buf : Nat → UInt8) (auth : Nat) (spp : UInt8)
    (keyID : UInt32) (len : Nat) (log : ParseLog) : MngParseError × ParseLog :=
  -- only the length under the own key bounds the ICV
  if len > (a.sa.spp spp).macSize a.keyID then (.authWrong, log)
  else
    match receiveKey lib a spp keyID with
    | none => (.auth, log)
    | some hmac =>
      let log := (log.look (auth + authTlvSize) len).look 0 (auth + authTlvSize)
      if hmac.verify lib (slice buf 0 (auth + authTlvSize)) (slice buf (auth + authTlvSize) len)
      then (.ok, log)
      else (.authWrong, log)

/-- `Message::parseAuth`, for a message that uses authentication. `auth` is the offset of the TLV. -/
def parseAuth (lib : HmacLib) (a : Auth) (buf : Nat → UInt8) (auth : Nat) (left : Int) (check : Bool)
    (log : ParseLog) : MngParseError × ParseLog :=
  if left < authTlvSize then (.authNone, log)
  else
    let log := if check then log.look auth 2 else log
    if check && TlvType.ofVal (UInt16.ofNat (beAt buf auth 2)) != .authentication
    then (.authNone, log)
    else
      let spp := buf (auth + 4)
      let keyID := UInt32.ofNat (beAt buf (auth + 6) 4)
      let log := (log.look (auth + 4) 1).look (auth + 6) 4
      if !a.sa.haveKey spp keyID then (.authNokey, log)
      else
        let log := if check then log.look (auth + 2) 2 else log
        let len := if check then beAt buf (auth + 2) 2 + tlvSizeHdr else left.toNat
        if check && (len : Int) > left then (.auth, log)
        else if check && len < authTlvSize then (.auth, log)
        else
          let len := len - authTlvSize
          let log := log.look (auth + 5) 1
          if buf (auth + 5) ≠ 0 then (.auth, log)
          else if len % 2 = 1 ∨ len < 2 then (.auth, log)
          else verifyIcv lib a buf auth spp keyID len log

end Message

end PtpMgmt
