import PtpMgmt.Pmc.Unset
import PtpMgmt.Runs

set_option autoImplicit false

/-! # The lines of `pmc` (`pmc.cpp`)

The tool takes lines, from its command line or its input, and sends the message of a line that is a command.
In batch mode all lines come first, and then it waits for a reply of each message that was sent. Otherwise it
waits behind each one over UDS, and takes lines and messages as they come on a network. The socket lies outside:
whether it takes a message, what it receives, and what `tpoll` leaves of the time. -/

namespace PtpMgmt

open Json Wire MsgBuild

/-- `Message::setAllClocks`. -/
def Message.setAllClocks (m : Message) : Message :=
  { m with prms := { m.prms with target := ⟨⟨List.Vector.replicate 8 0xff⟩, 0xffff⟩ } }

namespace Pmc

/-- `bufSize`. -/
def bufSize : Nat := 2000

/-- What is seen of the tool. -/
inductive Shown
  /-- A message that the socket took. -/
  | sent (octets : List UInt8)
  /-- "sending". -/
  | sending (action : ActionField) (id : MngId)
  | buildError (err : MngParseError)
  /-- `PMCLERR` behind a message that the socket did not take. -/
  | sendError
  /-- "Wrong clock ID". -/
  | wrongClock
  /-- `rcv_timeout` starts. -/
  | waits
  /-- `PMCLERR` behind a `tpoll` without a message. -/
  | pollError
  /-- What `rcv` prints. -/
  | printed (printed : List Printed)

/-- Where `main` stands. -/
inductive Place
  /-- In front of a line, with the messages that were sent so far in batch mode. -/
  | lines (pkts : Nat)
  /-- In `rcv_timeout`, with the replies that are still to come. -/
  | waits (pkts : Nat)
  | ended
deriving DecidableEq

end Pmc

/-- The tool in its loop. -/
structure Shell where
  pmc : Pmc
  batch : Bool
  buf : Nat → UInt8
  /-- `seq` of `sendAction`. -/
  seq : Nat
  place : Pmc.Place
  log : List Pmc.Shown

namespace Shell

open Pmc

/-- `main` in front of its loop. -/
def init (pmc : Pmc) (batch : Bool) : Shell := ⟨pmc, batch, fun _ => 0, 0, .lines 0, []⟩

def note (s : Shell) (shown : List Shown) : Shell := { s with log := s.log ++ shown }

/-- Another message in the tool. -/
def withMsg (s : Shell) (msg : Message) : Shell := { s with pmc := { s.pmc with msg } }

/-! ## Commands -/

/-- `updatePortIdentity`: the port that a text names. -/
def updatePortIdentity (prms : MsgParams) (str : Text) : Option MsgParams :=
  match str.dropWhile (· ≠ chr '-') with
  | [] => none
  | _ :: port =>
    match Binary.fromHex (str.takeWhile (· ≠ chr '-')) with
    | none => none
    | some nc =>
      let val := strtoimax 0 port
      if nc.length ≠ ClockIdentity.size then none
      else if val.2 = port ∨ val.2 ≠ [] ∨ val.1 < 0 ∨ val.1 > 0xffff then none
      else some { prms with target := ⟨⟨.ofList 8 nc⟩, val.1.toUInt64.toUInt16⟩ }

section Commands

variable (lib : HmacLib) (s : Shell)

/-- `sendAction`, and whether the socket takes the message. -/
def sendAction (taken : Bool) : Bool × Shell :=
  let (err, msg, mp) := s.pmc.msg.build lib s.buf bufSize (UInt16.ofNat s.seq)
  let s := { s.withMsg msg with buf := mp.mem }
  if err ≠ .ok then (false, s.note [.buildError err])
  else if taken then (true, { s.note [.sent (slice s.buf 0 msg.msgLen)] with seq := s.seq + 1 })
  else (false, s.note [.sendError])

/-- `call_data`, with the memory that a new TLV is made in. Nothing where the line is left. -/
def callData (action : ActionField) (id : MngId) (mem : (id : MngId) → Tlv id) (save : Text) (taken : Bool) :
    Option (Bool × Shell) :=
  (buildTlv s.pmc.msg action (.mng id) mem save).map fun (ok, msg) =>
    let s := s.withMsg msg
    if ok then
      match s.sendAction lib taken with
      | (true, s) => (true, s.note [.sending s.pmc.msg.sendAction id])
      | (false, s) => (false, s)
    else (false, s)

/-- The part of `run_line` behind `target`. -/
def runTarget (cur : Text) : Option Shell :=
  (strtok cur).map fun (tkn, _) =>
    match tkn with
    | none => s
    | some (cur, _) =>
      if cur = [] then s
      else if cur.head? = some (chr '*') then s.withMsg s.pmc.msg.setAllClocks
      else
        match updatePortIdentity s.pmc.msg.prms cur with
        | some prms => s.withMsg (s.pmc.msg.updateParams prms).2
        | none => s.note [.wrongClock]

/-- The part of `run_line` behind the word of an action. -/
def runAction (action : ActionField) (cur : Text) (mem : (id : MngId) → Tlv id) (taken : Bool) :
    Option (Bool × Shell) :=
  match strtok cur with
  | none => none
  | some (none, _) => some (false, s)
  | some (some (cur, _), save) =>
    match findMngID cur .nullPtpManagement false with
    | (false, _) => some (false, s)
    | (true, id) => s.callData lib action id mem save taken

/-- The word of an action. -/
def action? (cur : Text) : Option ActionField :=
  if sameName false cur (txt "get") then some .get
  else if sameName false cur (txt "set") then some .set
  else if sameName false cur (txt "cmd") || sameName false cur (txt "command") then some .command
  else none

/-- `run_line`: whether a message was sent. -/
def runLine (line : Text) (mem : (id : MngId) → Tlv id) (taken : Bool) : Option (Bool × Shell) :=
  match strtok (line ++ [0]) with
  | none => none
  | some (none, _) => some (false, s)
  | some (some (cur, _), save) =>
    match action? cur with
    | some action => s.runAction lib action save mem taken
    | none => if sameName false cur (txt "target") then (s.runTarget save).map (false, ·) else some (false, s)

end Commands

/-! ## Receiving -/

/-- `rcv`: what it answers, of the octets that the socket has or of its error. -/
def rcv (lib : HmacLib) (s : Shell) (got : Option (List UInt8)) : Int × Shell :=
  match got with
  | none =>
    let (ret, printed, pmc) := s.pmc.rcv lib s.buf (-1)
    (ret, { s.note [.printed printed] with pmc })
  | some octets =>
    let buf := store s.buf 0 octets
    let (ret, printed, pmc) := s.pmc.rcv lib buf octets.length
    (ret, { s.note [.printed printed] with pmc, buf })

/-- `rcv_timeout` starts, if there is a reply to wait for. -/
def wait (s : Shell) : Nat → Shell
  | 0 => { s with place := .ended }
  | pkts + 1 => { s.note [.waits] with place := .waits (pkts + 1) }

/-- `rcv_timeout` is over. -/
def waited (s : Shell) (pkts : Nat) : Shell :=
  if s.batch then s.wait (pkts - 1) else { s with place := .lines 0 }

/-! ## The loop -/

/-- What comes from outside. -/
inductive Input
  /-- A line, with the memory that a new TLV is made in, and whether the socket takes a message. -/
  | line (line : Text) (mem : (id : MngId) → Tlv id) (taken : Bool)
  /-- There are no more lines. -/
  | eof
  /-- `tpoll` in `rcv_timeout`, the time that it leaves, and what the socket has. -/
  | answer (ready : Bool) (timeout : UInt64) (got : Option (List UInt8))
  /-- A message on the network. -/
  | packet (got : Option (List UInt8))

/-- A line is taken. -/
def takeLine (lib : HmacLib) (s : Shell) (pkts : Nat) (line : Text) (mem : (id : MngId) → Tlv id) (taken : Bool) :
    Option Shell :=
  (s.runLine lib line mem taken).map fun (sent, s) =>
    if s.batch then { s with place := .lines (if sent then pkts + 1 else pkts) }
    else if sent && s.pmc.useUds then s.wait 1
    else s

/-- A pass of the loop in `rcv_timeout`. -/
def takeAnswer (lib : HmacLib) (s : Shell) (pkts : Nat) (ready : Bool) (timeout : UInt64)
    (got : Option (List UInt8)) : Shell :=
  if ready then
    let (ret, s) := s.rcv lib got
    if ret = 1 ∧ timeout > 0 then s else s.waited pkts
  else (s.note [.pollError]).waited pkts

def step (lib : HmacLib) (s : Shell) (input : Input) : Option Shell :=
  match s.place, input with
  | .lines pkts, .line line mem taken => s.takeLine lib pkts line mem taken
  | .lines pkts, .eof => some (if s.batch then s.wait pkts else { s with place := .ended })
  | .lines _, .packet got => if s.batch || s.pmc.useUds then none else some (s.rcv lib got).2
  | .waits pkts, .answer ready timeout got => some (s.takeAnswer lib pkts ready timeout got)
  | _, _ => none

end Shell

end PtpMgmt
