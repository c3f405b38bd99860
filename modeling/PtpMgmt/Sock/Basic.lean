import PtpMgmt.Cfg.Sections

set_option autoImplicit false

/-! # Sockets (`sock.cpp`)

The four kinds of sockets, and what they ask of the system: every method answers the object after it and the
system calls that it made, with what the system answered. A system call may fail anywhere; which of them fail
is up to the caller of the model. -/

/-! ## Packet filters (classic BPF)

A filter is a program without loops: its jumps skip instructions that follow. It answers how many octets of a
packet to keep, none to drop it. -/

namespace Bpf

open Wire

/-- The instructions, with the accumulator as their only register. -/
inductive Insn
  /-- Load `n` octets at the offset, in network order. -/
  | ldAbs (n off : Nat)
  | jeq (k jt jf : Nat)
  | ret (k : Nat)
deriving DecidableEq, Repr

/-- The answer of a program, `skip` instructions further on. A load from behind the end drops the packet. -/
def run (packet : List UInt8) : Nat → Nat → List Insn → Option Nat
  | _, _, [] => none
  | acc, skip + 1, _ :: rest => run packet acc skip rest
  | _, 0, .ldAbs n off :: rest =>
    if off + n ≤ packet.length then run packet (ofBe ((packet.drop off).take n)) 0 rest else some 0
  | acc, 0, .jeq k jt jf :: rest => run packet acc (if acc = k then jt else jf) rest
  | _, 0, .ret k :: _ => some k

/-- The packet behind a filter: cut to what the filter keeps of it, or dropped. -/
def filter (prog : List Insn) (packet : List UInt8) : Option (List UInt8) :=
  match run packet 0 0 prog with
  | some (k + 1) => some (packet.take (k + 1))
  | _ => none

end Bpf

namespace PtpMgmt

open Wire Json

namespace Sock

/-! ## System calls -/

/-- The address families. -/
inductive Domain
  | unix
  | inet
  | inet6
  | packet
deriving DecidableEq, Repr

/-- `sockaddr_ll`, as far as it is set for a bind. -/
structure LinkAddr where
  ifIndex : Int
  protocol : UInt16
deriving DecidableEq, Repr

inductive SockAddr
  /-- `sun_path`, all of its octets. -/
  | un (sunPath : Text)
  | inet (addr : Binary) (port : UInt16)
  | inet6 (addr : Binary) (port : UInt16) (scopeId : Int)
  | ll (addr : LinkAddr)
deriving DecidableEq, Repr

/-- What `setsockopt` sets. -/
inductive SockOpt
  | reuseAddr
  | bindToDevice (ifName : Text)
  | ipMulticastTtl (ttl : Int)
  | ipAddMembership (addr : Binary) (ifIndex : Int)
  | ipMulticastLoop (on : Bool)
  | ipMulticastIf (ifIndex : Int)
  | ipv6MulticastHops (ttl : Int)
  | ipv6AddMembership (addr : Binary) (ifIndex : Int)
  | ipv6MulticastLoop (on : Bool)
  | ipv6MulticastIf (ifIndex : Int)
  | priority (priority : Int)
  | attachFilter (filter : List Bpf.Insn)
  | packetAddMembership (addr : Binary) (ifIndex : Int)
deriving DecidableEq, Repr

/-- A system call, and whether it succeeded. -/
inductive SysCall
  | socket (domain : Domain) (fd : Nat)
  | setsockopt (fd : Nat) (opt : SockOpt) (ok : Bool)
  | bind (fd : Nat) (addr : SockAddr) (ok : Bool)
  /-- `sendto`, `sendmsg`, `recv`, `recvfrom`, `recvmsg` and `poll`. -/
  | transfer (fd : Nat)
  | close (fd : Nat)
  | unlink (path : Text)
deriving DecidableEq, Repr

/-- What the system answers while a socket is set up: the descriptor, if there is one, and whether each of
    the calls behind it succeeds. -/
structure Answers where
  fd : Option Nat
  ok : Nat → Bool

/-- Calls one behind the other, up to the first that fails. -/
def tryCalls (ok : Nat → Bool) : List (Bool → SysCall) → Bool × List SysCall
  | [] => (true, [])
  | c :: rest =>
    if ok 0 then
      let (done, calls) := tryCalls (fun n => ok (n + 1)) rest
      (done, c true :: calls)
    else (false, [c false])

/-! ## All sockets -/

/-- `SockBase`; no descriptor is -1. -/
structure SockBase where
  fd : Option Nat := none
  isInit : Bool := false
deriving DecidableEq, Repr

/-- `SockBase::closeBase`, with what `closeChild` does in front of the last assignment. -/
def SockBase.closeBase (s : SockBase) (closeChild : List SysCall) : SockBase × List SysCall :=
  ({ fd := none, isInit := false }, (s.fd.map SysCall.close).toList ++ closeChild)

/-- `SockBase::poll`: whether there is something to read, and the time that it waits, -1 for ever. The
    timeout is cut to an `int`. -/
def SockBase.poll (s : SockBase) (timeoutMs : UInt64) (ready : Bool) : Bool × Int × List SysCall :=
  if !s.isInit then (false, 0, [])
  else
    let wait : Int := if timeoutMs > 0 then timeoutMs.toUInt32.toInt32.toInt else -1
    (ready, wait, (s.fd.map SysCall.transfer).toList)

/-! ## Unix sockets -/

/-- `unix_path_max`: one octet is left for the end of the text. -/
def unixPathMax : Nat := 107

/-- `testUnix`. -/
def testUnix (str : Text) (extra : Nat) : Bool :=
  !(str.length == 0 || str.length > unixPathMax - extra)

/-- `SockUnix::setUnixAddr`: the octets of `sun_path`. -/
def setUnixAddr (str : Text) : Text :=
  str.take unixPathMax ++ List.replicate (unixPathMax + 1 - (str.take unixPathMax).length) 0

/-- `SockUnix::isAddressAbstract`. -/
def isAddressAbstract (addr : Text) : Bool := addr.head? == some 0

structure SockUnix extends SockBase where
  me : Text := []
  peer : Text := []
  lastFrom : Text := []
  peerAddr : Text := setUnixAddr []
deriving DecidableEq, Repr

namespace SockUnix

/-- `SockUnix::closeChild`. -/
def closeChild (s : SockUnix) : List SysCall :=
  if s.isInit && !isAddressAbstract s.me then [.unlink (cStr s.me)] else []

/-- `SockBase::close`. -/
def close (s : SockUnix) : SockUnix × List SysCall :=
  let (base, calls) := s.toSockBase.closeBase s.closeChild
  ({ s with toSockBase := base }, calls)

/-- The call of `SockUnix::initBase` behind that of `socket`. -/
def steps (s : SockUnix) (fd : Nat) : List (Bool → SysCall) :=
  [.bind fd (.un (setUnixAddr s.me))]

/-- `SockUnix::initBase`. -/
def initBase (s : SockUnix) (ans : Answers) : Bool × SockUnix × List SysCall :=
  if s.isInit then (false, s, [])
  else if !testUnix s.me 0 then (false, s, [])
  else
    let (base, closed) := s.toSockBase.closeBase s.closeChild
    match ans.fd with
    | none => (false, { s with toSockBase := base }, closed)
    | some fd =>
      let (done, calls) := tryCalls ans.ok (s.steps fd)
      (done, { s with toSockBase := ⟨some fd, done⟩ }, closed ++ .socket .unix fd :: calls)

/-- `SockUnix::setPeerInternal`. -/
def setPeerInternal (s : SockUnix) (str : Text) (useAbstract : Bool) : Bool × SockUnix :=
  if !testUnix str (if useAbstract then 1 else 0) then (false, s)
  else
    let peer := if useAbstract then 0 :: str else str
    (true, { s with peer, peerAddr := setUnixAddr peer })

/-- `SockUnix::setSelfAddress`. -/
def setSelfAddress (s : SockUnix) (str : Text) (useAbstract : Bool) : Bool × SockUnix :=
  if s.isInit then (false, s)
  else if !testUnix str (if useAbstract then 1 else 0) then (false, s)
  else (true, { s with me := if useAbstract then 0 :: str else str })

/-- What `setDefSelfAddress` asks the system: the user and the process in decimal digits, the home
    directory, and whether the folder of the user for runtime files is one with all rights. -/
structure Process where
  root : Bool
  uid : Text
  pid : Text
  homeDir : Text
  ensureDir : Text → Bool

/-- `useDefstrPre`, `useDefstrPost`, `useDefstr` and `rootBasestr`. -/
def useDefstrPre : Text := txt "/var/run/user/"

def useDefstrPost : Text := txt "/pmc."

def useDefstr : Text := txt "/.pmc."

def rootBasestr : Text := txt "/var/run/pmc."

/-- `SockUnix::setDefSelfAddress`. -/
def setDefSelfAddress (s : SockUnix) (p : Process) (rootBase useDef : Text) : Bool × SockUnix :=
  if s.isInit then (false, s)
  else
    let base :=
      if p.root then (if rootBase = [] then rootBasestr else rootBase)
      else if useDef = [] then
        if p.ensureDir (useDefstrPre ++ p.uid) then useDefstrPre ++ p.uid ++ useDefstrPost
        else p.homeDir ++ useDefstr
      else if useDef.head? = some (chr '/') then useDef
      else p.homeDir ++ useDef
    s.setSelfAddress (base ++ p.pid) false

end SockUnix

/-! ## Sockets of a network interface -/

/-- `IfInfo`, as far as sockets use it. -/
structure IfInfo where
  ifName : Text
  ifIndex : Int
  mac : Binary
deriving DecidableEq, Repr

structure SockBaseIf extends SockBase where
  ifName : Text := []
  mac : Binary := []
  ifIndex : Int := 0
  haveIf : Bool := false
deriving DecidableEq, Repr

/-- `setIf`, `setIfUsingName` and `setIfUsingIndex`: the interface, when the system knows it. -/
def SockBaseIf.setIf (s : SockBaseIf) (ifObj : Option IfInfo) : Bool × SockBaseIf :=
  if s.isInit then (false, s)
  else
    match ifObj with
    | none => (false, s)
    | some ifObj =>
      (true, { s with ifName := ifObj.ifName, ifIndex := ifObj.ifIndex, mac := ifObj.mac, haveIf := true })

/-! ### UDP -/

/-- The two classes derived from `SockIp`. -/
inductive IpClass
  | ip4
  | ip6
deriving DecidableEq, Repr

/-- `udp_port`. -/
def udpPort : UInt16 := 320

/-- The octets of `ipv4_udp_mc` and of `ipv6_udp_mc`. -/
def IpClass.mcast : IpClass → Binary
  | .ip4 => [224, 0, 1, 129]
  | .ip6 => [0xff, 0x0e] ++ List.replicate 12 0 ++ [0x01, 0x81]

def IpClass.any : IpClass → Binary
  | .ip4 => List.replicate 4 0
  | .ip6 => List.replicate 16 0

def IpClass.domain : IpClass → Domain
  | .ip4 => .inet
  | .ip6 => .inet6

/-- `SockIp`, with the scope of `SockIp6`. `addr` and `scopeId` are `m_addr4` or `m_addr6`, first for bind
    then for send. -/
structure SockIp extends SockBaseIf where
  cls : IpClass
  udpTtl : Int := -1
  udp6Scope : Int := -1
  addr : Binary := cls.any
  scopeId : Int := 0
deriving DecidableEq, Repr

namespace SockIp

def sockAddr (s : SockIp) : SockAddr :=
  match s.cls with
  | .ip4 => .inet s.addr udpPort
  | .ip6 => .inet6 s.addr udpPort s.scopeId

/-- `SockBase::close`. -/
def close (s : SockIp) : SockIp × List SysCall :=
  let (base, calls) := s.toSockBase.closeBase []
  ({ s with toSockBase := base }, calls)

/-- `m_mcast`, where an IPv6 address gets the scope: `m_mcast.setBin(1, m_udp6_scope)`. -/
def mcast (s : SockIp) : Binary :=
  match s.cls with
  | .ip4 => s.cls.mcast
  | .ip6 => s.cls.mcast.set 1 (UInt8.ofInt s.udp6Scope)

/-- The options that `initIp` sets, in their order. -/
def initIpOpts (s : SockIp) : List SockOpt :=
  match s.cls with
  | .ip4 => [.ipMulticastTtl s.udpTtl, .ipAddMembership s.mcast s.ifIndex, .ipMulticastLoop false,
      .ipMulticastIf s.ifIndex]
  | .ip6 => [.ipv6MulticastHops s.udpTtl, .ipv6AddMembership s.mcast s.ifIndex, .ipv6MulticastLoop false,
      .ipv6MulticastIf s.ifIndex]

/-- The scope is checked behind the calls that both classes make. -/
def initIpChecks (s : SockIp) : Bool :=
  match s.cls with
  | .ip4 => true
  | .ip6 => !(decide (s.udp6Scope < 0))

/-- The address for sending. -/
def toSend (s : SockIp) : SockIp :=
  { s with
    addr := s.mcast
    scopeId := if s.cls = .ip6 ∧ s.udp6Scope = 2 then s.ifIndex else s.scopeId }

/-- `SockIp::initBase` behind the call of `socket`. -/
def setUp (s : SockIp) (fd : Nat) (ok : Nat → Bool) : Bool × List SysCall :=
  let (bound, calls) := tryCalls ok
    [.setsockopt fd .reuseAddr, .bind fd s.sockAddr, .setsockopt fd (.bindToDevice s.ifName)]
  if !bound || !s.initIpChecks then (false, calls)
  else
    let (done, opts) := tryCalls (fun n => ok (n + 3)) (s.initIpOpts.map (.setsockopt fd))
    (done, calls ++ opts)

/-- `SockIp::initBase`. -/
def initBase (s : SockIp) (ans : Answers) : Bool × SockIp × List SysCall :=
  if s.isInit then (false, s, [])
  else if !s.haveIf then (false, s, [])
  else if s.udpTtl < 0 then (false, s, [])
  else
    let (base, closed) := s.toSockBase.closeBase []
    match ans.fd with
    | none => (false, { s with toSockBase := base }, closed)
    | some fd =>
      let (done, calls) := s.setUp fd ans.ok
      (done, { (if done then s.toSend else s) with toSockBase := ⟨some fd, done⟩ },
        closed ++ .socket s.cls.domain fd :: calls)

/-- `SockIp::setUdpTtl`, of a value or of the one of a configuration. -/
def setUdpTtl (s : SockIp) (udpTtl : UInt8) : Bool × SockIp :=
  if s.isInit then (false, s) else (true, { s with udpTtl := udpTtl.toNat })

/-- `SockIp6::setScope`. -/
def setScope (s : SockIp) (udp6Scope : UInt8) : Bool × SockIp :=
  if s.cls = .ip4 then (false, s)
  else if s.isInit then (false, s)
  else if udp6Scope > 0xf then (false, s)
  else (true, { s with udp6Scope := udp6Scope.toNat })

/-- `SockIp6::setScope`, of a configuration, which checks the value itself. -/
def setScopeCfg (s : SockIp) (udp6Scope : UInt8) : Bool × SockIp :=
  if s.cls = .ip4 then (false, s)
  else if s.isInit then (false, s) else (true, { s with udp6Scope := udp6Scope.toNat })

end SockIp

/-! ### Ethernet -/

/-- `ETH_P_1588` and `ETH_P_ALL`. -/
def ethP1588 : UInt16 := 0x88f7

def ethPAll : UInt16 := 0x3

/-- `sizeof(ethhdr)`. -/
def ethHdrSize : Nat := 14

/-- `bpf_code`. -/
def bpfCode : List Bpf.Insn :=
  [.ldAbs 2 12, .jeq ethP1588.toNat 0 1, .ret 0x40000, .ret 0]

structure SockRaw extends SockBaseIf where
  ptpDstMac : Binary := []
  socketPriority : Int := -1
  /-- `m_hdr`, all of its octets. -/
  hdr : Binary := List.replicate ethHdrSize 0
deriving DecidableEq, Repr

namespace SockRaw

/-- `SockBase::close`. -/
def close (s : SockRaw) : SockRaw × List SysCall :=
  let (base, calls) := s.toSockBase.closeBase []
  ({ s with toSockBase := base }, calls)

/-- The octets `w` over those of a header from an offset on: `Binary::copy` copies all of them. -/
def laid (hdr : Binary) (off : Nat) (w : Binary) : Binary :=
  hdr.take off ++ w ++ hdr.drop (off + w.length)

/-- The header of the frames that are sent: the protocol, then the destination, then the source. -/
def sendHdr (s : SockRaw) : Binary :=
  laid (laid (laid s.hdr 12 (beOctets 2 ethP1588.toNat)) 0 s.ptpDstMac) 6 s.mac

/-- The calls of `SockRaw::initBase` behind that of `socket`. -/
def steps (s : SockRaw) (fd : Nat) : List (Bool → SysCall) :=
  [.setsockopt fd (.bindToDevice s.ifName), .setsockopt fd (.priority s.socketPriority),
    .setsockopt fd (.attachFilter bpfCode), .setsockopt fd (.packetAddMembership s.ptpDstMac s.ifIndex),
    .bind fd (.ll ⟨s.ifIndex, ethPAll⟩)]

/-- `SockRaw::initBase`. -/
def initBase (s : SockRaw) (ans : Answers) : Bool × SockRaw × List SysCall :=
  if s.isInit then (false, s, [])
  else if !s.haveIf then (false, s, [])
  else if s.ptpDstMac = [] then (false, s, [])
  else if s.socketPriority < 0 then (false, s, [])
  else
    let (base, closed) := s.toSockBase.closeBase []
    match ans.fd with
    | none => (false, { s with toSockBase := base }, closed)
    | some fd =>
      let (done, calls) := tryCalls ans.ok (s.steps fd)
      (done, { s with toSockBase := ⟨some fd, done⟩, hdr := if done then s.sendHdr else s.hdr },
        closed ++ .socket .packet fd :: calls)

/-- `SockRaw::setPtpDstMacStr`. -/
def setPtpDstMacStr (s : SockRaw) (str : Text) : Bool × SockRaw :=
  if s.isInit then (false, s)
  else if str = [] then (false, s)
  else
    match Binary.fromMac str with
    | none => (false, s)
    | some mac => (true, { s with ptpDstMac := mac })

/-- `SockRaw::setPtpDstMac`. -/
def setPtpDstMac (s : SockRaw) (mac : Binary) : Bool × SockRaw :=
  if s.isInit then (false, s)
  else if !(decide (mac.length = 6 ∨ mac.length = 8)) then (false, s)
  else (true, { s with ptpDstMac := mac })

/-- `SockRaw::setPtpDstMac`, of a configuration, which checks the value itself. -/
def setPtpDstMacCfg (s : SockRaw) (mac : Binary) : Bool × SockRaw :=
  if s.isInit then (false, s) else (true, { s with ptpDstMac := mac })

/-- `SockRaw::setSocketPriority`. -/
def setSocketPriority (s : SockRaw) (socketPriority : UInt8) : Bool × SockRaw :=
  if s.isInit then (false, s)
  else if socketPriority > 15 then (false, s)
  else (true, { s with socketPriority := socketPriority.toNat })

/-- `SockRaw::setSocketPriority`, of a configuration, which checks the value itself. -/
def setSocketPriorityCfg (s : SockRaw) (socketPriority : UInt8) : Bool × SockRaw :=
  if s.isInit then (false, s) else (true, { s with socketPriority := socketPriority.toNat })

end SockRaw

end Sock

end PtpMgmt
