import PtpMgmt.ClkMgr.Config
import PtpMgmt.ClkMgr.Proxy
import PtpMgmt.Message.Build
import PtpMgmt.Pmc.Builders
import PtpMgmt.Pmc.Receive

set_option autoImplicit false

/-! # The thread of a ptp4l daemon (`connect_ptp4l.cpp`)

The thread subscribes at ptp4l, waits for its messages and hands them to the callbacks. When nothing comes for
a time it subscribes again, until that is sent.

A step is what the thread does from one check of `stopThread` to the next. What it cannot know comes from
outside: whether a message can be sent, what is received, and where the flag is seen set. `rcv` checks that
a message is from ptp4l. -/

namespace PtpMgmt.ClkMgr

open Wire

namespace PtpSet

/-- The callback of a message; the loss of the connection has none. -/
def callback (s : PtpSet) : PtpMsg → PtpSet
  | .timeStatusNp tlv => s.timeStatusNp tlv
  | .portDataSet tlv => s.portDataSet tlv
  | .logSyncInterval tlv => s.logSyncInterval tlv
  | .cmldsInfoNp portNumber tlv => s.cmldsInfoNp portNumber tlv
  | .lostConnection => s

end PtpSet

/-- The callback of the class that has one for the id. -/
def callbackOf (portNumber : UInt16) : (id : MngId) → Tlv id → Option PtpMsg
  | .timeStatusNp, tlv => some (.timeStatusNp tlv)
  | .portDataSet, tlv => some (.portDataSet tlv)
  | .logSyncInterval, tlv => some (.logSyncInterval tlv)
  | .cmldsInfoNp, tlv => some (.cmldsInfoNp portNumber tlv)
  | _, _ => none

/-- `callHadler`: the callback that is called for the last message, if there is one. -/
def callHadler (m : PtpMgmt.Message) : Option PtpMsg :=
  match m.getTlvId with
  | .mng id =>
    if !m.isValidId (.mng id) || PtpMgmt.Message.isEmpty (.mng id) then none
    else (m.getData.cast? id).bind (callbackOf m.hdr.peer.portNumber id)
  | _ => none

/-- `eventsTlv`, as `connect_ptp4l` sets it. -/
def eventsTlv : SubscribeEventsNp :=
  [Json.notifyTimeSync, Json.notifyPortState, Json.notifyCmlds].foldl MsgBuild.setEvent
    { duration := 0xffff, bitmask := .ofList 64 [] }

/-- `bufSize`. -/
def ptpBufSize : Nat := 2000

/-! ## State -/

/-- Where the thread stands. -/
inductive PtpPc
  | start
  /-- In front of `poll`. -/
  | wait
  /-- In front of a further subscription. -/
  | retry
  | ended
deriving DecidableEq

/-- What is seen of the thread. -/
inductive PtpAct
  | sent (octets : List UInt8)
  /-- `Client::notifyClients`, with the event that the clients get. -/
  | told (event : PtpEvent)
  /-- What is printed of the connection. -/
  | connected
  | failed
  | lost
  | reconnected
  | buildError (err : MngParseError)

/-- `ptpSet`, with the variable of `thread_loop`. `seq` is an `int` of which `build` takes 16 bits. -/
structure PtpThread where
  set : PtpSet
  msg : PtpMgmt.Message
  buf : Nat → UInt8
  seq : Nat
  lostConnection : Bool
  pc : PtpPc
  acts : List PtpAct

namespace PtpThread

/-- The message of `ptpSet::init`, if `updateParams` takes the parameters. -/
def initMsg (param : TimeBaseCfg) : Option PtpMgmt.Message :=
  let msg := PtpMgmt.Message.init MsgParams.init
  let (ok, msg) := msg.updateParams
    { msg.prms with transportSpecific := param.transportSpecific, domainNumber := param.domainNumber }
  if ok then some msg else none

/-- The thread behind `ptpSet::init`. The identity and the buffer hold anything. -/
def init (gmIdentity : ClockIdentity) (buf : Nat → UInt8) (msg : PtpMgmt.Message) : PtpThread where
  set := .init gmIdentity
  msg := msg
  buf := buf
  seq := 0
  lostConnection := false
  pc := .start
  acts := []

def act (t : PtpThread) (a : PtpAct) : PtpThread := { t with acts := t.acts ++ [a] }

/-! ## Sending -/

section Sending

variable (lib : HmacLib)

/-- `msg_send`. -/
def msgSend (t : PtpThread) (ok : Bool) : Bool × PtpThread :=
  match t.msg.build lib t.buf ptpBufSize (UInt16.ofNat t.seq) with
  | (.ok, msg, mp) =>
    let t := { t with msg, buf := mp.mem }
    if ok then (true, { t.act (.sent (slice mp.mem 0 msg.msgLen)) with seq := t.seq + 1 }) else (false, t)
  | (err, msg, mp) => (false, { t.act (.buildError err) with msg, buf := mp.mem })

/-- `msg_set_action`. -/
def msgSetAction (t : PtpThread) (id : MngId) (ok : Bool) : Bool × PtpThread :=
  match t.msg.setAction .get (.mng id) none with
  | (true, msg) => { t with msg }.msgSend lib ok
  | (false, _) => (false, t)

/-- `event_subscription`. -/
def eventSubscription (t : PtpThread) (ok : Bool) : Bool × PtpThread :=
  match t.msg.setAction .set (.mng .subscribeEventsNp) (some (.tlv .subscribeEventsNp eventsTlv)) with
  | (true, msg) => { t with msg }.msgSend lib ok
  | (false, _) => (false, t)

/-! ## Steps -/

/-- `thread_loop`, in front of its loop. -/
def start (t : PtpThread) (ok : Nat → Bool) : PtpThread :=
  match t.eventSubscription lib (ok 0) with
  | (false, t) => { t.act .failed with lostConnection := true, pc := .wait }
  | (true, t) =>
    let t := t.act .connected
    let t := (t.msgSetAction lib .timeStatusNp (ok 1)).2
    let t := (t.msgSetAction lib .portDataSet (ok 2)).2
    let t := (t.msgSetAction lib .logSyncInterval (ok 3)).2
    { t with pc := .wait }

/-- The callbacks that `callHadler` calls. One of them may ask for LOG_SYNC_INTERVAL, and goes on whether that
    is sent or not. -/
def callbacks (t : PtpThread) (msg : PtpMsg) (ok : Bool) : PtpThread :=
  let set := t.set.callback msg
  if set.asked = t.set.asked then { t with set }
  else ({ t with set }.msgSetAction lib .logSyncInterval ok).2

/-- Where the flag is seen set while a message is handled. -/
inductive Stop
  | front
  | behind
deriving DecidableEq

/-- `event_handle`. -/
def eventHandle (t : PtpThread) (ok : Bool) (stop : Option Stop) : PtpThread :=
  if stop = some .front then { t with pc := .ended }
  else
    let t := { t with set := { t.set with doNotify := false } }
    let t := match callHadler t.msg with
      | some msg => t.callbacks lib msg ok
      | none => t
    if stop = some .behind then { t with pc := .ended }
    else if t.set.doNotify then { t with set := t.set.publish }.act (.told t.set.event)
    else t

/-- `rcv` of a datagram, or of none, and what becomes of it. -/
def packet (t : PtpThread) (data : List UInt8) (ok : Bool) (stop : Option Stop) : PtpThread :=
  let data := data.take ptpBufSize
  if data = [] then t
  else
    let t := { t with buf := store t.buf 0 data }
    match t.msg.parse lib t.buf data.length with
    | (.ok, msg, _) => { t with msg }.eventHandle lib ok stop
    | (_, msg, _) => { t with msg }

/-- One round of the loop that subscribes again. -/
def retry (t : PtpThread) (ok stop : Bool) : PtpThread :=
  match t.eventSubscription lib ok with
  | (true, t) =>
    let t := if t.lostConnection then t.act .reconnected else t
    { t with lostConnection := false, pc := .wait }
  | (false, t) =>
    if t.lostConnection then t
    else
      let t := { t.act .lost with set := t.set.portReset, lostConnection := true }
      if stop then { t with pc := .ended }
      else { t with set := { t.set with published := t.set.event } }.act (.told t.set.event)

/-- What comes from outside. -/
inductive Input
  /-- The flag is seen set in front of the next thing to do. -/
  | stop
  /-- The thread runs on, and `ok` says of the messages, one after the other, whether they can be sent. -/
  | run (ok : Nat → Bool) (stop : Bool)
  /-- `poll` finds nothing to read. -/
  | timeout
  | packet (data : List UInt8) (ok : Bool) (stop : Option Stop)

/-- `thread_loop`, from one check of the flag to the next. -/
def step (t : PtpThread) : Input → Option PtpThread
  | .stop => if t.pc = .ended then none else some { t with pc := .ended }
  | .run ok stop =>
    match t.pc with
    | .start => some (t.start lib ok)
    | .retry => some (t.retry lib (ok 0) stop)
    | _ => none
  | .timeout => if t.pc = .wait then some { t with pc := .retry } else none
  | .packet data ok stop => if t.pc = .wait then some (t.packet lib data ok stop) else none

end Sending

end PtpThread

end PtpMgmt.ClkMgr
