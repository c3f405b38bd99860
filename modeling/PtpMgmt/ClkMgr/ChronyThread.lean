import PtpMgmt.ClkMgr.TimeBase
import PtpMgmt.Handles

set_option autoImplicit false

/-! # The thread of a chrony daemon (`connect_chrony.cpp`)

The thread keeps a socket and a session of the chrony library, asks for a record from time to time, and when
that fails it closes both and connects again. What the library and the system answer comes from outside, and
so does where `stopThread` is seen set.

The loop that connects again does not close a socket whose session it cannot have. -/

namespace PtpMgmt.ClkMgr

/-- Where the thread stands. -/
inductive ChronyPc
  | start
  | subscribe
  | reconnect
  | ended
deriving DecidableEq

/-- What is seen of the thread. -/
inductive ChronyAct
  /-- `chrony_open_socket`, and the descriptor if there is one. -/
  | openSocket (ans : Option Nat)
  /-- `chrony_init_session`, when it has one. -/
  | initSession (fd : Nat)
  | initFailed (fd : Nat)
  /-- What is asked in the session of the descriptor. -/
  | request (fd : Nat)
  | closeSocket (fd : Nat)
  | deinitSession (fd : Nat)
  /-- `Client::notifyClients`, with the event that the clients get. -/
  | told (event : ChronyEvent)
deriving DecidableEq

/-- `ChronyThreadSet`. A session knows its descriptor. -/
structure ChronyThread where
  chronyFd : Option Nat
  session : Option Nat
  event : ChronyEvent
  /-- The copy of the event that the clients get. -/
  published : ChronyEvent
  pc : ChronyPc
  acts : List ChronyAct

namespace ChronyThread

/-- `event = { 0 }`. -/
def clearEvent : ChronyEvent := ⟨0, 0, 0⟩

/-- The constructor. -/
def init : ChronyThread := ⟨none, none, clearEvent, clearEvent, .start, []⟩

def act (t : ChronyThread) (acts : List ChronyAct) : ChronyThread := { t with acts := t.acts ++ acts }

/-- `ChronyThreadSet::close`: what it does. -/
def closeActs (t : ChronyThread) : List ChronyAct :=
  (t.chronyFd.map ChronyAct.closeSocket).toList ++ (t.session.map ChronyAct.deinitSession).toList

/-- `ChronyThreadSet::close`. -/
def close (t : ChronyThread) : ChronyThread :=
  { t.act t.closeActs with chronyFd := none, session := none }

/-- `event.copy()` and `Client::notifyClients`. -/
def tell (t : ChronyThread) : ChronyThread :=
  { t.act [.told t.event] with published := t.event }

/-- `chrony_open_socket`, and `chrony_init_session` of a socket that there is. -/
def connect (t : ChronyThread) (ans : Option Nat) (ok : Bool) : ChronyThread :=
  let t := { t.act [.openSocket ans] with chronyFd := ans }
  match ans with
  | none => t
  | some fd => if ok then { t.act [.initSession fd] with session := some fd } else t.act [.initFailed fd]

/-- What `subscribe_to_chronyd` comes to, with a session: the flag is seen set on the way, when a field of the
    event may be set already, something fails, or the values of the record are there. -/
inductive Answer
  | stopped (event : ChronyEvent)
  | failed
  | record (event : ChronyEvent)

/-- The part of `thread_loop` behind a subscription that failed. -/
def fail (t : ChronyThread) (stop : Bool) : ChronyThread :=
  let t := t.close
  if stop then { t with pc := .ended }
  else { ({ t with event := clearEvent }).tell with pc := .reconnect }

/-- A round of `thread_loop`. -/
def subscribe (t : ChronyThread) (ans : Answer) (stop : Bool) : ChronyThread :=
  match t.session with
  | none => t.fail stop
  | some fd =>
    let t := t.act [.request fd]
    match ans with
    | .stopped event => { t with event, pc := .ended }
    | .failed => t.fail stop
    | .record event => ({ t with event }).tell

/-- What comes from outside. -/
inductive Input
  /-- The flag is seen set in front of the next thing to do. -/
  | stop
  | connect (ans : Option Nat) (ok : Bool)
  | subscribe (ans : Answer) (stop : Bool)

/-- `thread_loop`, from one check of the flag to the next. -/
def step (t : ChronyThread) : Input → Option ChronyThread
  | .stop => if t.pc = .ended then none else some { t with pc := .ended }
  | .connect ans ok =>
    match t.pc with
    | .start => some { t.connect ans ok with pc := .subscribe }
    | .reconnect =>
      let t := t.connect ans ok
      -- the loop ends with a session
      some (if t.session.isSome then { t with pc := .subscribe } else t)
    | _ => none
  | .subscribe ans stop => if t.pc = .subscribe then some (t.subscribe ans stop) else none

/-! ## Handles -/

end ChronyThread

/-- What an act does with a descriptor. -/
def ChronyAct.fdUse : ChronyAct → Option (Handles.Use Nat)
  | .openSocket ans => ans.map .opened
  | .initSession fd | .initFailed fd | .request fd => some (.used fd)
  | .closeSocket fd => some (.closed fd)
  | _ => none

/-- What an act does with a session. -/
def ChronyAct.sessionUse : ChronyAct → Option (Handles.Use Nat)
  | .initSession fd => some (.opened fd)
  | .request fd => some (.used fd)
  | .deinitSession fd => some (.closed fd)
  | _ => none

end PtpMgmt.ClkMgr
