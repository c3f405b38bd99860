import PtpMgmt.ClkMgr.Config
import PtpMgmt.ClkMgr.Sessions
import PtpMgmt.ClkMgr.TimeBase
import PtpMgmt.Wire.Octets

set_option autoImplicit false

/-! # The messages between the clients and the proxy (`message.cpp` and the classes derived from it)

A message is written to a buffer of 8192 octets and read from what was received, structure after structure
as the machine holds them: little-endian, with `size_t` of eight octets and each structure padded to a
multiple of eight. What the padding holds is left open: it is given by its place in the buffer. -/

namespace PtpMgmt.ClkMgr

open Wire

/-! ## Buffers (`serialize.hpp`) -/

/-- `MAX_BUFFER_LENGTH`. -/
def maxBufferLength : Nat := 8192

/-- A reader of what is left of a received message. -/
abbrev Rx := StateT (List UInt8) Option

/-- `PARSE_RX`, of so many octets. -/
def parseRx (n : Nat) : Rx (List UInt8) := fun rx =>
  if n ≤ rx.length then some (rx.take n, rx.drop n) else none

/-- `PARSE_RX` of an integer. -/
def parseInt (n : Nat) : Rx Nat := do
  let w ← parseRx n
  pure (ofLe w)

/-- `WRITE_TX`, behind what is written already. -/
def writeTx (w tx : List UInt8) : Option (List UInt8) :=
  if tx.length + w.length ≤ maxBufferLength then some (tx ++ w) else none

theorem parseRx_bind {α : Type} (n : Nat) (f : List UInt8 → Rx α) (rx : List UInt8) :
    (parseRx n >>= f) rx = if n ≤ rx.length then f (rx.take n) (rx.drop n) else none := by
  show (parseRx n rx).bind (fun p => f p.1 p.2) = _
  rw [parseRx]
  split <;> rfl

theorem parseInt_bind {α : Type} (n : Nat) (f : Nat → Rx α) (rx : List UInt8) :
    (parseInt n >>= f) rx = if n ≤ rx.length then f (ofLe (rx.take n)) (rx.drop n) else none := by
  rw [parseInt, bind_assoc, parseRx_bind]
  rfl

/-- What was written is read back. -/
theorem parseRx_append {w : List UInt8} {n : Nat} (hw : w.length = n) (r : List UInt8) :
    parseRx n (w ++ r) = some (w, r) := by
  subst hw
  rw [parseRx, if_pos (by simp), List.take_left, List.drop_left]

theorem parseInt_append {n v : Nat} (hv : v < 256 ^ n) (r : List UInt8) :
    parseInt n (leOctets n v ++ r) = some (v, r) := by
  have hread : ofLe (leOctets n v) = v := by rw [ofLe_leOctets, Nat.mod_eq_of_lt hv]
  show (parseRx n (leOctets n v ++ r)).bind (fun p => some (ofLe p.1, p.2)) = _
  rw [parseRx_append (length_leOctets n v), Option.bind_some, hread]

theorem writeTx_eq_some {w tx tx' : List UInt8} :
    writeTx w tx = some tx' ↔ tx.length + w.length ≤ maxBufferLength ∧ tx' = tx ++ w := by
  rw [writeTx]
  split
  · next h =>
      constructor
      · intro heq
        cases heq
        exact ⟨h, rfl⟩
      · rintro ⟨-, rfl⟩
        rfl
  · next h =>
      constructor
      · intro heq
        cases heq
      · rintro ⟨hfits, -⟩
        exact absurd hfits h

/-! ## Structures -/

/-- `CLIENTID_LENGTH`. -/
def clientIdLength : Nat := 512

def boolOctet (b : Bool) : UInt8 := if b then 1 else 0

/-- The octets of a `TimeBaseCfg` at an offset. -/
def TimeBaseCfg.octets (pad : Nat → UInt8) (off : Nat) (cfg : TimeBaseCfg) : List UInt8 :=
  leOctets 8 cfg.timeBaseIndex.toNat ++ (cfg.timeBaseName.toList ++ (cfg.interfaceName.toList ++
    ([cfg.transportSpecific] ++ ([cfg.domainNumber] ++ ([boolOctet cfg.haveSys] ++
      ([boolOctet cfg.havePtp] ++ slice pad (off + 140) 4))))))

/-- The octets of a `ptp_event`. -/
def ptpEventOctets (pad : Nat → UInt8) (off : Nat) (event : PtpEvent) : List UInt8 :=
  leOctets 8 event.clockOffset.toUInt64.toNat ++ (leOctets 8 event.gmClockUUID.toNat ++
    (leOctets 8 event.syncInterval.toNat ++ ([boolOctet event.asCapable] ++
      ([boolOctet event.syncedWithGm] ++ slice pad (off + 26) 6))))

/-- The octets of a `chrony_event`, which has no padding. -/
def chronyEventOctets (event : ChronyEvent) : List UInt8 :=
  leOctets 8 event.clockOffset.toUInt64.toNat ++ (leOctets 8 event.gmClockUUID.toNat ++
    leOctets 8 event.syncInterval.toNat)

def parseOctet : Rx UInt8 := do
  let v ← parseInt 1
  pure (UInt8.ofNat v)

def parseChars : Rx (Octets 64) := do
  let w ← parseRx 64
  pure (Octets.ofList 64 w)

def parseTimeBaseCfg : Rx TimeBaseCfg := do
  let timeBaseIndex ← parseInt 8
  let timeBaseName ← parseChars
  let interfaceName ← parseChars
  let transportSpecific ← parseOctet
  let domainNumber ← parseOctet
  let haveSys ← parseOctet
  let havePtp ← parseOctet
  let _ ← parseRx 4
  pure
    { timeBaseIndex := UInt64.ofNat timeBaseIndex
      timeBaseName
      interfaceName
      transportSpecific
      domainNumber
      haveSys := haveSys != 0
      havePtp := havePtp != 0 }

def parsePtpEvent : Rx PtpEvent := do
  let clockOffset ← parseInt 8
  let gmClockUUID ← parseInt 8
  let syncInterval ← parseInt 8
  let asCapable ← parseOctet
  let syncedWithGm ← parseOctet
  let _ ← parseRx 6
  pure
    { clockOffset := (UInt64.ofNat clockOffset).toInt64
      gmClockUUID := UInt64.ofNat gmClockUUID
      syncInterval := UInt64.ofNat syncInterval
      asCapable := asCapable != 0
      syncedWithGm := syncedWithGm != 0 }

def parseChronyEvent : Rx ChronyEvent := do
  let clockOffset ← parseInt 8
  let gmClockUUID ← parseInt 8
  let syncInterval ← parseInt 8
  pure
    { clockOffset := (UInt64.ofNat clockOffset).toInt64
      gmClockUUID := UInt64.ofNat gmClockUUID
      syncInterval := UInt64.ofNat syncInterval }

/-! ## Messages (`message.hpp`) -/

/-- `msgId_t`. -/
inductive MsgId
  | connectMsg
  | subscribeMsg
  | notifyMessage
  | disconnectMsg
deriving DecidableEq

def MsgId.val : MsgId → UInt8
  | .connectMsg => 0
  | .subscribeMsg => 1
  | .notifyMessage => 2
  | .disconnectMsg => 3

/-- `msgAck_t`. -/
def ackNone : UInt8 := 0

def ackSuccess : UInt8 := 1

/-- `ClockType`. -/
def ptpClock : UInt8 := 1

def sysClock : UInt8 := 2

/-- The fields of all the classes. Each uses some of them and leaves the others as they are at first. -/
structure Message where
  msgId : MsgId
  msgAck : UInt8 := ackNone
  sessionId : SessionId := invalidSessionId
  clientId : List UInt8 := []
  timeBaseIndex : UInt64 := 0
  clockType : UInt8 := ptpClock

/-- What the messages of the proxy take from it: the configuration and the events of the time bases. -/
structure ProxyData where
  rows : List TimeBaseCfgFull
  ptpEvent : UInt64 → PtpEvent
  chronyEvent : UInt64 → ChronyEvent
  pad : Nat → UInt8

/-! ## Building -/

/-- `makeBufferComm`. -/
def makeBufferComm (msg : Message) (tx : List UInt8) : Option (List UInt8) :=
  match msg.msgId with
  | .connectMsg => do
    let tx ← writeTx (leOctets 2 msg.sessionId.toNat) tx
    writeTx (Octets.ofList clientIdLength msg.clientId).toList tx
  | .subscribeMsg => do
    let tx ← writeTx (leOctets 2 msg.sessionId.toNat) tx
    writeTx (leOctets 8 msg.timeBaseIndex.toNat) tx
  | .notifyMessage => writeTx (leOctets 8 msg.timeBaseIndex.toNat) tx
  | .disconnectMsg => writeTx (leOctets 2 msg.sessionId.toNat) tx

/-- The loop of `ProxyConnectMessage::makeBufferTail`. -/
def writeCfgs (pad : Nat → UInt8) : List TimeBaseCfgFull → List UInt8 → Option (List UInt8)
  | [], tx => some tx
  | row :: rows, tx => (writeTx (row.base.octets pad tx.length) tx).bind (writeCfgs pad rows)

/-- `makeBufferTail` of the classes of the proxy. -/
def proxyMakeBufferTail (data : ProxyData) (msg : Message) (tx : List UInt8) : Option (List UInt8) :=
  match msg.msgId with
  | .connectMsg => do
    let tx ← writeTx (leOctets 8 data.rows.length) tx
    writeCfgs data.pad data.rows tx
  | .subscribeMsg => do
    let tx ← writeTx (ptpEventOctets data.pad tx.length (data.ptpEvent msg.timeBaseIndex)) tx
    writeTx (chronyEventOctets (data.chronyEvent msg.timeBaseIndex)) tx
  | .notifyMessage => do
    let tx ← writeTx [msg.clockType] tx
    if msg.clockType = ptpClock then
      writeTx (ptpEventOctets data.pad tx.length (data.ptpEvent msg.timeBaseIndex)) tx
    else if msg.clockType = sysClock then
      writeTx (chronyEventOctets (data.chronyEvent msg.timeBaseIndex)) tx
    else some tx
  | .disconnectMsg => some tx

/-- What both sides write first. -/
def makeBufferHead (msg : Message) : Option (List UInt8) := do
  let tx ← writeTx [msg.msgId.val] []
  let tx ← writeTx [msg.msgAck] tx
  makeBufferComm msg tx

/-- `Message::makeBuffer` of the proxy. -/
def proxyMakeBuffer (data : ProxyData) (msg : Message) : Option (List UInt8) :=
  (makeBufferHead msg).bind (proxyMakeBufferTail data msg)

/-- `Message::makeBuffer` of a client, whose classes write no more than that. -/
def clientMakeBuffer (msg : Message) : Option (List UInt8) := makeBufferHead msg

/-! ## Parsing -/

/-- The classes that are registered for the ids: the proxy takes no notifications. -/
def proxyClass (msgId : UInt8) : Option MsgId :=
  if msgId = 0 then some .connectMsg
  else if msgId = 1 then some .subscribeMsg
  else if msgId = 3 then some .disconnectMsg
  else none

def clientClass (msgId : UInt8) : Option MsgId :=
  if msgId = 2 then some .notifyMessage else proxyClass msgId

/-- `parseBufferComm`. -/
def parseBufferComm (msg : Message) : Rx Message :=
  match msg.msgId with
  | .connectMsg => do
    let sessionId ← parseInt 2
    let clientId ← parseRx clientIdLength
    pure { msg with sessionId := UInt16.ofNat sessionId, clientId }
  | .subscribeMsg => do
    let sessionId ← parseInt 2
    let timeBaseIndex ← parseInt 8
    pure { msg with sessionId := UInt16.ofNat sessionId, timeBaseIndex := UInt64.ofNat timeBaseIndex }
  | .notifyMessage => do
    let timeBaseIndex ← parseInt 8
    pure { msg with timeBaseIndex := UInt64.ofNat timeBaseIndex }
  | .disconnectMsg => do
    let sessionId ← parseInt 2
    pure { msg with sessionId := UInt16.ofNat sessionId }

/-- `Message::parseBuffer`, up to the last callback of the class. -/
def parseBufferHead (class' : UInt8 → Option MsgId) : Rx Message := do
  let msgId ← parseOctet
  match class' msgId with
  | none => failure
  | some msgId =>
    let msgAck ← parseOctet
    parseBufferComm { msgId, msgAck }

/-- What the messages call on a client. None of these functions refuses. `addTimeBaseCfg` takes the names as
    C strings: where the 64 octets of a field have no zero it reads on behind them, which is not modelled. -/
inductive ClientDone
  | connectReply (sessionId : SessionId) (cfgs : List TimeBaseCfg)
  | subscribeReply (timeBaseIndex : UInt64) (ptpData : PtpEvent) (chronyData : ChronyEvent)
  | setTimeBaseStatePtp (timeBaseIndex : UInt64) (ptpData : PtpEvent)
  | setTimeBaseStateSys (timeBaseIndex : UInt64) (chronyData : ChronyEvent)
  | ignored
  | disconnected

/-- The loop of `ClientConnectMessage::parseBufferTail`: what goes to `addTimeBaseCfg`, in this order. -/
def parseCfgs : Nat → Rx (List TimeBaseCfg)
  | 0 => pure []
  | mapSize + 1 => do
    let newCfg ← parseTimeBaseCfg
    let cfgs ← parseCfgs mapSize
    pure (newCfg :: cfgs)

/-- `parseBufferTail` of the classes of a client. The replies that they take are not answered. -/
def clientParseBufferTail (msg : Message) : Rx (Message × ClientDone) :=
  match msg.msgId with
  | .connectMsg => do
    let mapSize ← parseInt 8
    let cfgs ← parseCfgs mapSize
    pure ({ msg with msgAck := ackNone }, .connectReply msg.sessionId cfgs)
  | .subscribeMsg => do
    let ptpData ← parsePtpEvent
    let chronyData ← parseChronyEvent
    pure ({ msg with msgAck := ackNone }, .subscribeReply msg.timeBaseIndex ptpData chronyData)
  | .notifyMessage => do
    let clockType ← parseOctet
    if clockType = ptpClock then
      let ptpData ← parsePtpEvent
      pure (msg, .setTimeBaseStatePtp msg.timeBaseIndex ptpData)
    else if clockType = sysClock then
      let chronyData ← parseChronyEvent
      pure (msg, .setTimeBaseStateSys msg.timeBaseIndex chronyData)
    else pure (msg, .ignored)
  | .disconnectMsg => pure (msg, .disconnected)

/-- `Message::parseBuffer` of a client. -/
def clientParseBuffer : Rx (Message × ClientDone) := do
  let msg ← parseBufferHead clientClass
  clientParseBufferTail msg

end PtpMgmt.ClkMgr
