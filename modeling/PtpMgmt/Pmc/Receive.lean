import PtpMgmt.Message.Parse

set_option autoImplicit false

/-! # Receiving in `pmc` (`pmc.cpp`, `pmc_dump.cpp`, `msgCall.cpp`, `Init::process`)

The part of the tool that prints what it receives, with the set up that decides how much of it is
printed. What is printed is followed as values: which fields and which TLV are put out, not the text
they are put out with. Every id with a codec function has a handler in `pmc_dump.cpp` that prints its
TLV. -/

namespace PtpMgmt

namespace Message

/-- `Message::isEmpty`. -/
def isEmpty : MngVals → Bool
  | .mng id => (mngAllVals id).size = 0
  | _ => false

/-- `Message::isValidId`. -/
def isValidId (m : Message) : MngVals → Bool
  | .mng id => !(m.prms.implementSpecific != .linuxptp && (mngAllVals id).allowed &&& aUseLinuxptp != 0)
  | _ => false

end Message

namespace Pmc

/-! ## Printing -/

/-- What is printed. -/
inductive Printed
  /-- `PMCLERR`, the last error of the library. -/
  | lastError
  /-- "Parse error". -/
  | parseError (err : MngParseError)
  /-- "Authentication ignore". -/
  | authIgnore (err : MngParseError)
  /-- The line in front of a management TLV. -/
  | head (peer : PortIdentity) (sequence : UInt16) (action : ActionField) (tlvId : MngVals)
  /-- A management TLV, by the handler of its id. -/
  | tlv (tlv : BaseMngTlv)
  /-- Whatever a handler finds behind a pointer that was never assigned. -/
  | wild
  /-- The line in front of the TLVs of a signalling message. -/
  | sig (peer : PortIdentity) (sequence : UInt16)
  | sigTlv (tlv : BaseSigTlv)
  /-- A MANAGEMENT_ERROR_STATUS. -/
  | err (peer : PortIdentity) (sequence : UInt16) (action : ActionField) (tlvId : MngVals)
      (errId : ManagementErrorId) (errDisplay : List UInt8)

/-- It is of a message that was received. -/
def Printed.isContent : Printed → Bool
  | lastError | parseError _ | authIgnore _ => false
  | _ => true

def dumpHead (m : Message) (action : ActionField) : List Printed :=
  [.head m.hdr.peer m.hdr.sequence action m.getTlvId]

def dumpSig (m : Message) : List Printed := [.sig m.hdr.peer m.hdr.sequence]

def dumpErr (m : Message) : List Printed :=
  [.err m.hdr.peer m.hdr.sequence m.replyAction m.getTlvId m.getErrId m.getErrDisplay]

/-- `BaseMngDispatchCallback::iCallHandler`: the handler is called for an object of its own class. -/
def iCallHandler (id : MngId) : TlvPtr → List Printed
  | .null => []
  | .wild => [.wild]
  | .obj tlv => if (tlv.cast? id).isSome then [.tlv tlv] else []

/-- `MessageDispatcher::callHadler` of the dumping dispatcher, which prints nothing where there is no
    TLV. -/
def callHadler (m : Message) (tlvId : MngVals) (tlv : TlvPtr) : List Printed :=
  match tlvId with
  | .mng id =>
    if !m.isValidId (.mng id) || Message.isEmpty (.mng id) then [] else iCallHandler id tlv
  | _ => []

/-- `call_dump`. -/
def callDump (m : Message) : List Printed := callHadler m m.getTlvId m.getData

/-- `call_dumpSig`: two types are printed. -/
def callDumpSig : TlvType × BaseSigTlv → Option Printed
  | (.slaveRxSyncTimingData, tlv) => some (.sigTlv tlv)
  | (.slaveDelayTimingDataNp, tlv) => some (.sigTlv tlv)
  | _ => none

/-! ## Set up -/

/-- What `Init::process` and `main` take from the options and the configuration file. -/
structure Options where
  /-- The association, the spp and the key, where an spp is given. -/
  spp : Option (SaFile × UInt8 × UInt32)
  allowUnauth : UInt8
  /-- The transport is UDS. -/
  uds : Bool
  selfId : PortIdentity
  boundaryHops : UInt8
  domainNumber : UInt8
  transportSpecific : UInt8
  useZeroGet : Bool
  /-- The commands are on the command line. -/
  batch : Bool

end Pmc

/-- The state of the tool. -/
structure Pmc where
  msg : Message
  useUds : Bool
  allowUnauth : UInt8

namespace Pmc

/-- The authentication part of `Init::process`: the message, `m_allow_unauth` and the parameters. -/
def processAuth (lib : HmacLib) (opt : Options) (m : Message) :
    Option (Message × UInt8 × MsgParams) :=
  match opt.spp with
  | none => some (m, 0, m.prms)
  | some (sa, spp, keyId) =>
    if keyId < 1 then none
    else
      match m.useAuth lib sa spp keyId with
      | (false, _) => none
      | (true, m) =>
        let rcvAuth :=
          if opt.allowUnauth > 0 then m.prms.rcvAuth ||| rcvAuthIgnore else m.prms.rcvAuth
        let minorVersion := if m.prms.minorVersion < 1 then 1 else m.prms.minorVersion
        some (m, opt.allowUnauth, { m.prms with rcvAuth, minorVersion })

/-- `Init::process`, of sockets that open. Whether the parameters are accepted is not looked at. -/
def process (lib : HmacLib) (opt : Options) : Option Pmc := do
  let (m, allowUnauth, prms) ← processAuth lib opt (Message.init .init)
  let prms := { prms with
    selfId := opt.selfId
    boundaryHops := opt.boundaryHops
    domainNumber := opt.domainNumber
    transportSpecific := opt.transportSpecific
    useZeroGet := opt.useZeroGet }
  return { msg := (m.updateParams prms).2, useUds := opt.uds, allowUnauth }

/-- `main`, up to the first command: signalling messages are received in run mode on a network. -/
def start (lib : HmacLib) (opt : Options) : Option Pmc := do
  let s ← process lib opt
  let prms := s.msg.prms
  let prms := { prms with
    allowSigTlvs := prms.allowSigTlvs ++ [.slaveRxSyncTimingData, .slaveDelayTimingDataNp]
    rcvSignaling := if !opt.batch && !s.useUds then true else prms.rcvSignaling }
  return { s with msg := (s.msg.updateParams prms).2 }

/-! ## Receiving -/

section Rcv

variable (s : Pmc)

/-- The branch for the errors that `allow_unauth` may let pass, above the threshold. -/
def rcvUnauth (m : Message) (err : MngParseError) (unauthTrsh : UInt8) : Int × List Printed :=
  if s.allowUnauth > unauthTrsh then
    if m.hdr.type = MsgType.signaling then
      (1, .authIgnore err :: dumpSig m ++ m.traversSigTlvs.filterMap callDumpSig)
    else if m.hdr.type = MsgType.management then
      match m.mngType with
      | .management => (0, .authIgnore err :: dumpHead m m.replyAction ++ callDump m)
      | .managementErrorStatus => (-1, .authIgnore err :: dumpErr m)
      | _ => (-1, [.authIgnore err])
    else (-1, [.authIgnore err])
  else (-1, [.parseError err])

/-- The switch over the code of the parse. -/
def rcvSwitch (m : Message) (err : MngParseError) : Int × List Printed :=
  match err with
  | .msg => (-1, dumpErr m)
  | .ok => (0, dumpHead m m.replyAction ++ callDump m)
  | .sig => (1, dumpSig m ++ m.traversSigTlvs.filterMap callDumpSig)
  | .action | .header =>
    -- over UDS the case goes on into the next one
    if !s.useUds then (1, []) else s.rcvUnauth m err 0
  | .authNone => s.rcvUnauth m err 0
  | .auth | .authNokey | .authWrong => s.rcvUnauth m err 1
  | err => (-1, [.parseError err])

/-- `rcv`, of the `cnt` octets that the socket put into the buffer, or of its error. -/
def rcv (lib : HmacLib) (buf : Nat → UInt8) (cnt : Int) : Int × List Printed × Pmc :=
  if cnt < 0 then (-1, [.lastError], s)
  else
    let (err, msg, _) := s.msg.parse lib buf cnt
    let (ret, printed) := s.rcvSwitch msg err
    (ret, printed, { s with msg })

end Rcv

/-! ## Runs -/

/-- What happens to the tool. -/
inductive Input
  | packet (buf : Nat → UInt8) (cnt : Int)
  /-- The command `target`. -/
  | target (port : PortIdentity)
  /-- A command that is sent. -/
  | action (actionField : ActionField) (tlvId : MngVals) (dataSend : Option BaseMngTlv)

def step (lib : HmacLib) (s : Pmc) : Input → Pmc
  | .packet buf cnt => (s.rcv lib buf cnt).2.2
  | .target target => { s with msg := (s.msg.updateParams { s.msg.prms with target }).2 }
  | .action actionField tlvId dataSend =>
    { s with msg := (s.msg.setAction actionField tlvId dataSend).2 }

def run (lib : HmacLib) (s : Pmc) (inputs : List Input) : Pmc := inputs.foldl (step lib) s

end Pmc

end PtpMgmt
