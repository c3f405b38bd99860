import PtpMgmt.ClkMgr.Delivery

set_option autoImplicit false

/-! # The messages that carry events

A notification carries the event of one clock of one time base, and the reply to a subscription those of
both clocks. A client reads what the proxy wrote, so it is told exactly what the proxy read when it made the
message. -/

namespace PtpMgmt.ClkMgr

open Wire

/-! ## Reading back -/

theorem parsePtpEvent_octets (pad : Nat → UInt8) (off : Nat) (event : PtpEvent) (r : List UInt8) :
    parsePtpEvent (ptpEventOctets pad off event ++ r) = some (event, r) := by
  simp only [ptpEventOctets, List.append_assoc]
  rw [parsePtpEvent, rx_bind (parseInt_append event.clockOffset.toUInt64.toNat_lt _),
    rx_bind (parseInt_append event.gmClockUUID.toNat_lt _),
    rx_bind (parseInt_append event.syncInterval.toNat_lt _), rx_bind (parseOctet_append _ _),
    rx_bind (parseOctet_append _ _), rx_bind (parseRx_append (length_slice pad _ 6) r)]
  simp only [UInt64.ofNat_toNat, boolOctet_ne_zero, Int64.toInt64_toUInt64]
  rfl

theorem parseChronyEvent_octets (event : ChronyEvent) (r : List UInt8) :
    parseChronyEvent (chronyEventOctets event ++ r) = some (event, r) := by
  simp only [chronyEventOctets, List.append_assoc]
  rw [parseChronyEvent, rx_bind (parseInt_append event.clockOffset.toUInt64.toNat_lt _),
    rx_bind (parseInt_append event.gmClockUUID.toNat_lt _),
    rx_bind (parseInt_append event.syncInterval.toNat_lt _)]
  simp only [UInt64.ofNat_toNat, Int64.toInt64_toUInt64]
  rfl

@[simp] theorem length_ptpEventOctets (pad : Nat → UInt8) (off : Nat) (event : PtpEvent) :
    (ptpEventOctets pad off event).length = 32 := by
  simp [ptpEventOctets]

@[simp] theorem length_chronyEventOctets (event : ChronyEvent) : (chronyEventOctets event).length = 24 := by
  simp [chronyEventOctets]

/-! ## Notifications -/

/-- What a client is told by a notification of the clock. -/
def notified : (c : Clock) → UInt64 → c.Event → ClientDone
  | .ptp, timeBaseIndex, event => .setTimeBaseStatePtp timeBaseIndex event
  | .sys, timeBaseIndex, event => .setTimeBaseStateSys timeBaseIndex event

/-- The events that a message takes from the proxy. -/
def ProxyData.event (data : ProxyData) : (c : Clock) → UInt64 → c.Event
  | .ptp => data.ptpEvent
  | .sys => data.chronyEvent

/-- What stands before the event. -/
def notifyHead (c : Clock) (timeBaseIndex : UInt64) : List UInt8 :=
  [MsgId.notifyMessage.val] ++ ([ackNone] ++ leOctets 8 timeBaseIndex.toNat) ++ [c.type]

def eventOctets (pad : Nat → UInt8) : (c : Clock) → c.Event → List UInt8
  | .ptp, event => ptpEventOctets pad 11 event
  | .sys, event => chronyEventOctets event

theorem proxyMakeBuffer_notify (data : ProxyData) (c : Clock) (timeBaseIndex : UInt64) :
    proxyMakeBuffer data { msgId := .notifyMessage, timeBaseIndex, clockType := c.type } =
      some (notifyHead c timeBaseIndex ++ eventOctets data.pad c (data.event c timeBaseIndex)) := by
  cases c <;>
    simp [proxyMakeBuffer, makeBufferHead, makeBufferComm, proxyMakeBufferTail, writeTx, maxBufferLength,
      notifyHead, eventOctets, ProxyData.event, Clock.type, ptpClock, sysClock]

/-- A client takes the notification, and does not answer it. -/
theorem clientParseBuffer_notify (pad : Nat → UInt8) (c : Clock) (timeBaseIndex : UInt64) (event : c.Event) :
    clientParseBuffer (notifyHead c timeBaseIndex ++ eventOctets pad c event) =
      some (({ msgId := .notifyMessage, timeBaseIndex }, notified c timeBaseIndex event), []) := by
  have hhead : parseBufferHead clientClass (notifyHead c timeBaseIndex ++ eventOctets pad c event) =
      some ({ msgId := .notifyMessage, timeBaseIndex }, [c.type] ++ eventOctets pad c event) := by
    simp only [notifyHead, List.append_assoc]
    rw [parseBufferHead, rx_bind (parseOctet_append _ _)]
    show (parseOctet >>= _) _ = _
    rw [rx_bind (parseOctet_append _ _)]
    show (parseInt 8 >>= _) _ = _
    rw [rx_bind (parseInt_append timeBaseIndex.toNat_lt _)]
    simp only [UInt64.ofNat_toNat]
    rfl
  rw [clientParseBuffer, rx_bind hhead]
  simp only [clientParseBufferTail]
  rw [rx_bind (parseOctet_append _ _)]
  cases c with
  | ptp =>
      have hread := parsePtpEvent_octets pad 11 event []
      rw [List.append_nil] at hread
      show (parsePtpEvent >>= _) _ = _
      rw [eventOctets, rx_bind hread]
      rfl
  | sys =>
      have hread := parseChronyEvent_octets event []
      rw [List.append_nil] at hread
      show (parseChronyEvent >>= _) _ = _
      rw [eventOctets, rx_bind hread]
      rfl

/-! ## Replies to subscriptions -/

/-- What stands before the events. -/
def subscribeHead (msg : Message) : List UInt8 :=
  [MsgId.subscribeMsg.val] ++ ([msg.msgAck] ++ (leOctets 2 msg.sessionId.toNat ++
    leOctets 8 msg.timeBaseIndex.toNat))

theorem proxyMakeBuffer_reply (data : ProxyData) {msg : Message} (hid : msg.msgId = .subscribeMsg) :
    proxyMakeBuffer data msg =
      some (subscribeHead msg ++ (ptpEventOctets data.pad 12 (data.ptpEvent msg.timeBaseIndex) ++
        chronyEventOctets (data.chronyEvent msg.timeBaseIndex))) := by
  simp [proxyMakeBuffer, makeBufferHead, makeBufferComm, proxyMakeBufferTail, hid, writeTx, maxBufferLength,
    subscribeHead]

theorem clientParseBuffer_reply (pad : Nat → UInt8) (msg : Message) (ptpEvent : PtpEvent)
    (chronyEvent : ChronyEvent) :
    clientParseBuffer (subscribeHead msg ++ (ptpEventOctets pad 12 ptpEvent ++
        chronyEventOctets chronyEvent)) =
      some (({ msgId := .subscribeMsg, sessionId := msg.sessionId, timeBaseIndex := msg.timeBaseIndex },
        .subscribeReply msg.timeBaseIndex ptpEvent chronyEvent), []) := by
  have hhead : ∀ r, parseBufferHead clientClass (subscribeHead msg ++ r) =
      some ({ msgId := .subscribeMsg, msgAck := msg.msgAck, sessionId := msg.sessionId,
              timeBaseIndex := msg.timeBaseIndex }, r) := by
    intro r
    simp only [subscribeHead, List.append_assoc]
    rw [parseBufferHead, rx_bind (parseOctet_append _ _)]
    show (parseOctet >>= _) _ = _
    rw [rx_bind (parseOctet_append _ _)]
    show (parseInt 2 >>= _) _ = _
    rw [rx_bind (parseInt_append msg.sessionId.toNat_lt _),
      rx_bind (parseInt_append msg.timeBaseIndex.toNat_lt _)]
    simp only [UInt16.ofNat_toNat, UInt64.ofNat_toNat]
    rfl
  have hread := parseChronyEvent_octets chronyEvent []
  rw [List.append_nil] at hread
  rw [clientParseBuffer, rx_bind (hhead _)]
  simp only [clientParseBufferTail]
  rw [rx_bind (parsePtpEvent_octets pad 12 ptpEvent _), rx_bind hread]
  rfl

/-! ## Replies to a client that disconnects -/

def disconnectHead (msg : Message) : List UInt8 :=
  [MsgId.disconnectMsg.val] ++ ([msg.msgAck] ++ leOctets 2 msg.sessionId.toNat)

theorem proxyMakeBuffer_disconnect (data : ProxyData) {msg : Message} (hid : msg.msgId = .disconnectMsg) :
    proxyMakeBuffer data msg = some (disconnectHead msg) := by
  simp [proxyMakeBuffer, makeBufferHead, makeBufferComm, proxyMakeBufferTail, hid, writeTx, maxBufferLength,
    disconnectHead]

theorem clientParseBuffer_disconnect (msg : Message) :
    clientParseBuffer (disconnectHead msg) =
      some (({ msgId := .disconnectMsg, msgAck := msg.msgAck, sessionId := msg.sessionId },
        .disconnected), []) := by
  have hread := parseInt_append (n := 2) msg.sessionId.toNat_lt []
  rw [List.append_nil] at hread
  have hhead : parseBufferHead clientClass (disconnectHead msg) =
      some ({ msgId := .disconnectMsg, msgAck := msg.msgAck, sessionId := msg.sessionId }, []) := by
    rw [disconnectHead, parseBufferHead, rx_bind (parseOctet_append _ _)]
    show (parseOctet >>= _) _ = _
    rw [rx_bind (parseOctet_append _ _)]
    show (parseInt 2 >>= _) _ = _
    rw [rx_bind hread]
    simp only [UInt16.ofNat_toNat]
    rfl
  rw [clientParseBuffer, rx_bind hhead]
  rfl

end PtpMgmt.ClkMgr
