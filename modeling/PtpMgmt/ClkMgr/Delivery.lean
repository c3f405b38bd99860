import PtpMgmt.ClkMgr.Listener
import PtpMgmt.ClkMgr.Proxy
import PtpMgmt.ClkMgr.Range
import PtpMgmt.Runs

set_option autoImplicit false

/-! # The proxy and its clients as one system

Every clock of a time base has a thread of its own, which copies an event to the data of the time base and
then notifies the clients; the listener of the proxy handles the messages of the clients, one at a time; and
every client takes the messages of its queue. Here a section of a thread, an access to the events and a
message put in a queue are one step each, and the steps of all the threads interleave.

The messages that arrive at the proxy are any octets. A queue is known by its name, and a name stands for
one client for good: the library makes it from the process. `removeClient` unlinks the queue of the client;
this is not modelled, so a queue keeps the messages that are not read yet, for a client that has it open. The
disconnecting at the end of the proxy is left out. -/

namespace PtpMgmt.ClkMgr

deriving instance DecidableEq for Clock

/-! ## Events of the clocks -/

namespace Clock

/-- What the thread of a clock keeps for a time base. -/
abbrev Event : Clock → Type
  | .ptp => PtpEvent
  | .sys => ChronyEvent

/-- `clear` of the event. -/
def clear : (c : Clock) → c.Event
  | .ptp => PtpSet.clearEvent
  | .sys => ⟨0, 0, 0⟩

instance decidableEqEvent : (c : Clock) → DecidableEq c.Event
  | .ptp => inferInstanceAs (DecidableEq PtpEvent)
  | .sys => inferInstanceAs (DecidableEq ChronyEvent)

/-- The `ClockType` of its notifications. -/
def type : Clock → UInt8
  | .ptp => ptpClock
  | .sys => sysClock

end Clock

/-- The events of all the time bases. -/
abbrev Events := (c : Clock) → UInt64 → c.Event

def Events.set (events : Events) (c : Clock) (timeBaseIndex : UInt64) (event : c.Event) : Events :=
  Function.update events c (Function.update (events c) timeBaseIndex event)

/-! ## Calls of the messages on a client -/

/-- `ClientDone` of a received message. -/
def said (octets : List UInt8) : Option ClientDone := (clientParseBuffer octets).map fun p => p.1.2

/-- The event that a call sets for a time base. `subscribeReply` passes over an event that is clear. -/
def ClientDone.tells : (c : Clock) → UInt64 → ClientDone → Option c.Event
  | .ptp, i, .setTimeBaseStatePtp timeBaseIndex ptpData => if timeBaseIndex = i then some ptpData else none
  | .sys, i, .setTimeBaseStateSys timeBaseIndex chronyData =>
    if timeBaseIndex = i then some chronyData else none
  | .ptp, i, .subscribeReply timeBaseIndex ptpData _ =>
    if timeBaseIndex = i ∧ ptpData ≠ Clock.ptp.clear then some ptpData else none
  | .sys, i, .subscribeReply timeBaseIndex _ chronyData =>
    if timeBaseIndex = i ∧ chronyData ≠ Clock.sys.clear then some chronyData else none
  | _, _, _ => none

/-- The event that a client holds for a time base behind these calls: the last one that it was told. -/
def heard (c : Clock) (timeBaseIndex : UInt64) (calls : List ClientDone) : c.Event :=
  calls.foldl (fun event done => (done.tells c timeBaseIndex).getD event) c.clear

/-! ## The state -/

/-- A proxy whose time bases are counted by an `int`, as the notifications do. -/
structure Serving extends Proxy where
  timeBases_lt : ∀ idx ∈ timeBases, idx < 2 ^ 31

/-- A thread of the proxy. -/
inductive Thread
  | listener
  | worker (c : Clock) (timeBaseIndex : UInt64)

def Thread.id : Thread → Nat
  | .listener => 0
  | .worker .ptp timeBaseIndex => 2 * timeBaseIndex.toNat + 1
  | .worker .sys timeBaseIndex => 2 * timeBaseIndex.toNat + 2

/-- Where the listener is in `MqListenerWork`: it waits for a message, it is in the call of
    `parseBufferTail`, in front of one of the two accesses of `makeBufferTail` to the events, or in front of
    `sendBuffer`; or its loop has ended, at some message. -/
inductive ListenerPc
  | receive
  | called (msg : Message)
  | getPTPEvent (msg : Message)
  | getChronyEvent (msg : Message) (event : PtpEvent)
  | sendBuffer (msg : Message) (rxBuff : List UInt8)
  | ended (msg : Option Message)

/-- The proxy, the queues of its clients, and what their messages called on each client. -/
structure World where
  clients : Clients
  clientId : SessionId → List UInt8
  events : Events
  notifyBuff : Clock → UInt64 → List UInt8
  listener : ListenerPc
  queue : List UInt8 → List (List UInt8)
  calls : List UInt8 → List ClientDone

namespace World

def init : World where
  clients := .init
  clientId _ := []
  events c _ := c.clear
  notifyBuff _ _ := []
  listener := .receive
  queue _ := []
  calls _ := []

/-- `setTimeBaseIndex` takes an `int`. -/
def notification (c : Clock) (timeBaseIndex : UInt64) : Message where
  msgId := .notifyMessage
  timeBaseIndex := timeBaseIndex.toUInt32.toInt32.toInt64.toUInt64
  clockType := c.type

def data (p : Serving) (w : World) : ProxyData := ⟨p.rows, w.events .ptp, w.events .sys, p.pad⟩

/-- The messages that a client leaves in its queue at most. -/
def queueSize : Nat := 2

/-- `mq_send`, where the queue has room and nothing else fails. -/
def sendsTo (w : World) (ok : Bool) (name : List UInt8) : Bool :=
  ok && decide ((w.queue name).length < queueSize)

def push (w : World) (name octets : List UInt8) : World :=
  { w with queue := Function.update w.queue name (w.queue name ++ [octets]) }

/-! ## The threads of the clocks -/

/-- An event is copied to the time base, and `notifyClients` is called. -/
def publish (p : Serving) (w : World) (c : Clock) (timeBaseIndex : UInt64) (event : c.Event) : World :=
  { w with
    events := w.events.set c timeBaseIndex event
    clients := w.clients.start p.timeBases (Thread.worker c timeBaseIndex).id
      (.notifyClients timeBaseIndex.toNat) }

/-- The next section of the thread of a clock. In front of the loop it makes the message, in the loop it
    sends it. -/
def work (p : Serving) (w : World) (c : Clock) (timeBaseIndex : UInt64) (ok : Bool) : Option World :=
  let t := (Thread.worker c timeBaseIndex).id
  match w.clients.pc t with
  | .notify _ =>
    match proxyMakeBuffer (w.data p) (notification c timeBaseIndex) with
    | none => (w.clients.advance p.timeBases t false).map fun clients => { w with clients }
    | some buff => (w.clients.advance p.timeBases t true).map fun clients =>
        { w with
          clients
          notifyBuff := Function.update w.notifyBuff c (Function.update (w.notifyBuff c) timeBaseIndex buff) }
  | .notifying _ (sessionId :: _) _ =>
    let sends := w.sendsTo ok (w.clientId sessionId)
    (w.clients.advance p.timeBases t sends).map fun clients =>
      if w.clients.HasTransmitter sessionId ∧ sends = true then
        { w.push (w.clientId sessionId) (w.notifyBuff c timeBaseIndex) with clients }
      else { w with clients }
  | _ => (w.clients.advance p.timeBases t ok).map fun clients => { w with clients }

/-! ## The listener -/

/-- What `parseBufferTail` of the message calls. -/
def callOf (msg : Message) : Option ClientCall :=
  match msg.msgId with
  | .connectMsg => some (.connect msg.sessionId)
  | .subscribeMsg => some (.subscribe msg.timeBaseIndex.toNat msg.sessionId)
  | .notifyMessage => none
  | .disconnectMsg => some (.removeClient msg.sessionId)

/-- What `parseBufferTail` makes of the answer, if it does not fail. -/
def answered (msg : Message) (r : ClientReply) : Option Message :=
  match msg.msgId, r with
  | .connectMsg, .session sessionId =>
    if sessionId = invalidSessionId then none else some { msg with sessionId, msgAck := ackSuccess }
  | .subscribeMsg, .subscribed true => some { msg with msgAck := ackSuccess }
  | .disconnectMsg, .done => some msg
  | _, _ => none

/-- The name of a queue ends at the first zero. -/
def queueName (clientId : List UInt8) : List UInt8 := clientId.takeWhile (· ≠ 0)

/-- The queue of a new session is that of the message. -/
def named (w : World) (msg : Message) (clients : Clients) : SessionId → List UInt8 :=
  match w.clients.pc Thread.listener.id, clients.reply Thread.listener.id with
  | .connect sessionId, some (.session cur) =>
    if sessionId = invalidSessionId ∧ cur ≠ invalidSessionId then
      Function.update w.clientId cur (queueName msg.clientId)
    else w.clientId
  | _, _ => w.clientId

/-- The echo of a message. Only the reply to a subscription takes the events. -/
def echo (p : Serving) (w : World) (msg : Message) : World :=
  if msg.msgAck = ackNone then { w with listener := .receive }
  else if msg.msgId = .subscribeMsg then { w with listener := .getPTPEvent msg }
  else
    match proxyMakeBuffer (w.data p) msg with
    | none => { w with listener := .ended (some msg) }
    | some buff => { w with listener := .sendBuffer msg buff }

/-- A message is received. -/
def receive (p : Serving) (w : World) (octets : List UInt8) : World :=
  if octets = [] then w
  else
    match parseBufferHead proxyClass octets with
    | none => { w with listener := .ended none }
    | some (msg, _) =>
      match callOf msg with
      | none => w.echo p msg
      | some call =>
        { w with listener := .called msg, clients := w.clients.start p.timeBases Thread.listener.id call }

/-- The call of `parseBufferTail` is back. -/
def answer (p : Serving) (w : World) (msg : Message) : World :=
  match (w.clients.reply Thread.listener.id).bind (answered msg) with
  | none => { w with listener := .ended (some msg) }
  | some msg => w.echo p msg

/-- The reply to a subscription, with the events that were read for it. -/
def makeReply (p : Serving) (w : World) (msg : Message) (ptpEvent : PtpEvent) (chronyEvent : ChronyEvent) :
    World :=
  match proxyMakeBuffer ⟨p.rows, fun _ => ptpEvent, fun _ => chronyEvent, p.pad⟩ msg with
  | none => { w with listener := .ended (some msg) }
  | some buff => { w with listener := .sendBuffer msg buff }

/-- `sendBuffer` of the reply. -/
def reply (w : World) (msg : Message) (rxBuff : List UInt8) (ok : Bool) : World :=
  if w.clients.HasTransmitter msg.sessionId ∧ w.sendsTo ok (w.clientId msg.sessionId) = true then
    { w.push (w.clientId msg.sessionId) rxBuff with listener := .receive }
  else { w with listener := .ended (some msg) }

/-- The next step of the listener, but for the receiving. -/
def listen (p : Serving) (w : World) (ok : Bool) : Option World :=
  match w.listener with
  | .receive => none
  | .called msg =>
    if w.clients.pc Thread.listener.id = .idle then some (w.answer p msg)
    else (w.clients.advance p.timeBases Thread.listener.id ok).map fun clients =>
      { w with clients, clientId := w.named msg clients }
  | .getPTPEvent msg => some { w with listener := .getChronyEvent msg (w.events .ptp msg.timeBaseIndex) }
  | .getChronyEvent msg event => some (w.makeReply p msg event (w.events .sys msg.timeBaseIndex))
  | .sendBuffer msg rxBuff => some (w.reply msg rxBuff ok)
  | .ended _ => none

/-! ## Steps -/

/-- A clock has a new event, a thread goes on, a message arrives at the proxy, or a client takes the next
    message of its queue. -/
inductive Event
  | publish (c : Clock) (timeBaseIndex : UInt64) (event : c.Event)
  | go (t : Thread) (ok : Bool)
  | receive (octets : List UInt8)
  | take (name : List UInt8)

def take (w : World) (name : List UInt8) : Option World :=
  match w.queue name with
  | [] => none
  | octets :: rest => (said octets).map fun done =>
      { w with
        queue := Function.update w.queue name rest
        calls := Function.update w.calls name (w.calls name ++ [done]) }

def step (p : Serving) (w : World) : Event → Option World
  | .publish c timeBaseIndex event =>
    if timeBaseIndex.toNat ∈ p.timeBases ∧ w.clients.pc (Thread.worker c timeBaseIndex).id = .idle then
      some (w.publish p c timeBaseIndex event)
    else none
  | .go .listener ok => w.listen p ok
  | .go (.worker c timeBaseIndex) ok => w.work p c timeBaseIndex ok
  | .receive octets =>
    match w.listener with
    | .receive => some (w.receive p octets)
    | _ => none
  | .take name => w.take name

def run (p : Serving) (w : World) (es : List Event) : Option World := Runs.run (step p) w es

end World

end PtpMgmt.ClkMgr
