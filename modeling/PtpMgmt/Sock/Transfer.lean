import PtpMgmt.Sock.Basic

set_option autoImplicit false

/-! # Sending and receiving

A receiver gets the octets of a message, cut to its buffer. The name of the sender of a datagram is read from
memory that the system filled as far as the name goes. -/

namespace PtpMgmt

open Wire Json

namespace Sock

/-! ## Unix sockets -/

/-- Who sent a datagram. -/
inductive Sender
  /-- A socket with a file, whose name has no zero. -/
  | path (name : Text)
  /-- A socket with an abstract name, behind a zero. -/
  | abstract (name : Text)
  /-- A socket without a name. -/
  | unnamed
deriving DecidableEq, Repr

/-- What the system writes of a name. -/
def Sender.written : Sender → Text
  | .path name => name ++ [0]
  | .abstract name => 0 :: name
  | .unnamed => []

/-- A datagram for the socket, and what the memory for the name of its sender holds behind the name. -/
structure Datagram where
  data : List UInt8
  sender : Sender
  behind : Text
deriving DecidableEq, Repr

/-- `addr.sun_path` as a text, cut at `unix_path_max`. -/
def Datagram.fromText (d : Datagram) : Text := cStr ((d.sender.written ++ d.behind).take unixPathMax)

/-- The system call of a transfer. -/
def SockBase.transfer (s : SockBase) : List SysCall := (s.fd.map SysCall.transfer).toList

namespace SockUnix

/-- `SockUnix::sendBase`: the address that the message goes to, if it is sent. -/
def send (s : SockUnix) : Option SockAddr × List SysCall :=
  if !s.isInit then (none, [])
  else if !testUnix s.peer 0 then (none, [])
  else (some (.un s.peerAddr), s.transfer)

/-- `SockUnix::sendTo`. -/
def sendTo (s : SockUnix) (addrStr : Text) (useAbstract : Bool) : Option SockAddr × List SysCall :=
  if !s.isInit then (none, [])
  else if !testUnix addrStr (if useAbstract then 1 else 0) then (none, [])
  else (some (.un (setUnixAddr (if useAbstract then 0 :: addrStr else addrStr))), s.transfer)

/-- `SockUnix::rcvFrom`, of what the system has: the octets in the buffer and the name of the sender. The
    system never answers more octets than the buffer has. -/
def rcvFrom (s : SockUnix) (bufSize : Nat) (ans : Option Datagram) :
    Option (List UInt8 × Text) × List SysCall :=
  if !s.isInit then (none, [])
  else (ans.map fun d => (d.data.take bufSize, d.fromText), s.transfer)

/-- `SockUnix::rcvFrom`, which keeps the name of the sender. -/
def rcvLastFrom (s : SockUnix) (bufSize : Nat) (ans : Option Datagram) :
    Option (List UInt8) × SockUnix × List SysCall :=
  match s.rcvFrom bufSize ans with
  | (none, calls) => (none, s, calls)
  | (some (data, name), calls) => (some data, { s with lastFrom := name }, calls)

/-- `SockUnix::rcvBase`: what the caller gets. -/
def rcv (s : SockUnix) (bufSize : Nat) (ans : Option Datagram) : Option (List UInt8) × List SysCall :=
  if !s.isInit then (none, [])
  else if !testUnix s.peer 0 then (none, [])
  else
    match s.rcvFrom bufSize ans with
    | (none, calls) => (none, calls)
    | (some (data, name), calls) =>
      if name ≠ s.peer then (none, calls)
      else if data = [] then (none, calls)
      else (some data, calls)

end SockUnix

/-! ## Ethernet -/

namespace SockRaw

/-- `SockRaw::sendBase`: the frame. -/
def send (s : SockRaw) (msg : List UInt8) : Option (List UInt8) × List SysCall :=
  if !s.isInit then (none, []) else (some (s.hdr ++ msg), s.transfer)

/-- `SockRaw::rcvBase`, of the packet that the system has: the header goes to a buffer of its own. -/
def rcv (s : SockRaw) (bufSize : Nat) (packet : Option (List UInt8)) :
    Option (List UInt8) × List SysCall :=
  if !s.isInit then (none, [])
  else
    match packet with
    | none => (none, s.transfer)
    | some packet =>
      let got := packet.take (ethHdrSize + bufSize)
      if got.length < ethHdrSize then (none, s.transfer) else (some (got.drop ethHdrSize), s.transfer)

end SockRaw

/-! ## Who is heard -/

/-- The name of a file ends where the system writes its zero. -/
theorem fromText_path {name : Text} (hname : (0 : UInt8) ∉ name) (data : List UInt8) (behind : Text) :
    Datagram.fromText ⟨data, .path name, behind⟩ = name.take unixPathMax := by
  have hclean : ∀ c ∈ name, decide (c ≠ 0) = true := fun c hc => decide_eq_true fun h => hname (h ▸ hc)
  rw [Datagram.fromText, Sender.written, List.append_assoc, List.singleton_append, cStr,
    ← List.take_takeWhile, Scan.takeWhile_append_cons hclean (by simp)]

/-- An abstract name is read as no name. -/
theorem fromText_abstract (data : List UInt8) (name behind : Text) :
    Datagram.fromText ⟨data, .abstract name, behind⟩ = [] := by
  rw [Datagram.fromText, Sender.written, List.cons_append, unixPathMax, List.take_succ_cons, cStr,
    List.takeWhile_cons_of_neg (by simp)]

theorem testUnix_ne_nil {str : Text} {extra : Nat} (h : testUnix str extra = true) : str ≠ [] := by
  rintro rfl
  simp [testUnix] at h

/-- What the caller gets is what the sender with the name of the peer sent. -/
theorem SockUnix.rcv_iff (s : SockUnix) (bufSize : Nat) (d : Datagram) (msg : List UInt8) :
    (s.rcv bufSize (some d)).1 = some msg ↔
      s.isInit = true ∧ testUnix s.peer 0 = true ∧ d.fromText = s.peer ∧ msg ≠ [] ∧
      msg = d.data.take bufSize := by
  rw [rcv, rcvFrom]
  cases hinit : s.isInit with
  | false => simp
  | true =>
      cases htest : testUnix s.peer 0 with
      | false => simp
      | true =>
          by_cases hname : d.fromText = s.peer
          · by_cases hdata : d.data.take bufSize = []
            · simp [hname, hdata]
            · simp only [Option.map_some, Bool.not_true, Bool.false_eq_true, if_false]
              rw [if_neg (not_not_intro hname), if_neg hdata]
              simp only [Option.some.injEq]
              exact ⟨fun h => ⟨trivial, trivial, hname, h ▸ hdata, h.symm⟩, fun h => h.2.2.2.2.symm⟩
          · simp [hname]

end Sock

end PtpMgmt
