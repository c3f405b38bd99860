import PtpMgmt.Handles
import PtpMgmt.Sock.Transfer

set_option autoImplicit false

/-! # The life of a socket

The calls that a user makes on one object, in any order and with any answers of the system, and the system
calls that they come to. Descriptors and the files of unix sockets are handles: the object holds at most one
of each, and what it holds is told by its state. An object that is set up has all its options set, to the
values that its state tells. -/

namespace PtpMgmt

open Wire Json

/-! ## Calls -/

/-- An object of one of the four classes. -/
inductive Sock
  | unix (s : Sock.SockUnix)
  | ip (s : Sock.SockIp)
  | raw (s : Sock.SockRaw)

namespace Sock

/-- A call of the user. A call that the class does not have does nothing, as in the C interface. -/
inductive Call
  | close
  | init (ans : Answers)
  | send (msg : List UInt8)
  | rcv (bufSize : Nat) (ans : Option Datagram)
  | poll (timeoutMs : UInt64) (ready : Bool)
  | setSelfAddress (str : Text) (useAbstract : Bool)
  | setDefSelfAddress (p : SockUnix.Process) (rootBase useDef : Text)
  | setPeerAddress (str : Text) (useAbstract : Bool)
  | sendTo (addrStr : Text) (useAbstract : Bool)
  | rcvFrom (bufSize : Nat) (ans : Option Datagram)
  | setIf (ifObj : Option IfInfo)
  | setUdpTtl (udpTtl : UInt8)
  | setScope (udp6Scope : UInt8)
  | setScopeCfg (udp6Scope : UInt8)
  | setPtpDstMacStr (str : Text)
  | setPtpDstMac (mac : Binary)
  | setPtpDstMacCfg (mac : Binary)
  | setSocketPriority (socketPriority : UInt8)
  | setSocketPriorityCfg (socketPriority : UInt8)

/-- A new object. -/
inductive New : Sock → Prop
  | unix : New (.unix {})
  | ip (cls : IpClass) : New (.ip { cls })
  | raw : New (.raw {})

def base : Sock → SockBase
  | .unix s => s.toSockBase
  | .ip s => s.toSockBase
  | .raw s => s.toSockBase

/-- A transfer of a socket of a network interface. -/
def SockBase.ifTransfer (s : SockBase) : List SysCall := if s.isInit then s.transfer else []

/-- The object after a call, and the system calls. -/
def SockUnix.call (s : SockUnix) : Call → SockUnix × List SysCall
  | .close => s.close
  | .init ans => (s.initBase ans).2
  | .send _ => (s, s.send.2)
  | .rcv bufSize ans => (s, (s.rcv bufSize ans).2)
  | .poll timeoutMs ready => (s, (s.poll timeoutMs ready).2.2)
  | .setSelfAddress str useAbstract => ((s.setSelfAddress str useAbstract).2, [])
  | .setDefSelfAddress p rootBase useDef => ((s.setDefSelfAddress p rootBase useDef).2, [])
  | .setPeerAddress str useAbstract => ((s.setPeerInternal str useAbstract).2, [])
  | .sendTo addrStr useAbstract => (s, (s.sendTo addrStr useAbstract).2)
  | .rcvFrom bufSize ans => (s.rcvLastFrom bufSize ans).2
  | _ => (s, [])

def SockIp.call (s : SockIp) : Call → SockIp × List SysCall
  | .close => s.close
  | .init ans => (s.initBase ans).2
  | .send _ => (s, s.ifTransfer)
  | .rcv _ _ => (s, s.ifTransfer)
  | .poll timeoutMs ready => (s, (s.poll timeoutMs ready).2.2)
  | .setIf ifObj => ({ s with toSockBaseIf := (s.toSockBaseIf.setIf ifObj).2 }, [])
  | .setUdpTtl udpTtl => ((s.setUdpTtl udpTtl).2, [])
  | .setScope udp6Scope => ((s.setScope udp6Scope).2, [])
  | .setScopeCfg udp6Scope => ((s.setScopeCfg udp6Scope).2, [])
  | _ => (s, [])

def SockRaw.call (s : SockRaw) : Call → SockRaw × List SysCall
  | .close => s.close
  | .init ans => (s.initBase ans).2
  | .send _ => (s, s.ifTransfer)
  | .rcv _ _ => (s, s.ifTransfer)
  | .poll timeoutMs ready => (s, (s.poll timeoutMs ready).2.2)
  | .setIf ifObj => ({ s with toSockBaseIf := (s.toSockBaseIf.setIf ifObj).2 }, [])
  | .setPtpDstMacStr str => ((s.setPtpDstMacStr str).2, [])
  | .setPtpDstMac mac => ((s.setPtpDstMac mac).2, [])
  | .setPtpDstMacCfg mac => ((s.setPtpDstMacCfg mac).2, [])
  | .setSocketPriority socketPriority => ((s.setSocketPriority socketPriority).2, [])
  | .setSocketPriorityCfg socketPriority => ((s.setSocketPriorityCfg socketPriority).2, [])
  | _ => (s, [])

def call : Sock → Call → Sock × List SysCall
  | .unix s, c => let (s, calls) := s.call c; (.unix s, calls)
  | .ip s, c => let (s, calls) := s.call c; (.ip s, calls)
  | .raw s, c => let (s, calls) := s.call c; (.raw s, calls)

/-- `SockBase::~SockBase`. The class of the object is gone by then: `closeChild` is that of `SockBase`. -/
def destroy (s : Sock) : List SysCall := (s.base.closeBase []).2

/-- An object, and the system calls so far. -/
structure Life where
  sock : Sock
  log : List SysCall

def Life.step (l : Life) (c : Call) : Option Life :=
  some { sock := (l.sock.call c).1, log := l.log ++ (l.sock.call c).2 }

/-- A life of calls, from a new object on. -/
def Lives (calls : List Call) (l : Life) : Prop :=
  ∃ s, New s ∧ Runs.run Life.step ⟨s, []⟩ calls = some l

/-! ## Handles -/

/-- What a system call does with a descriptor. -/
def SysCall.fdUse : SysCall → Option (Handles.Use Nat)
  | .socket _ fd => some (.opened fd)
  | .setsockopt fd _ _ | .bind fd _ _ | .transfer fd => some (.used fd)
  | .close fd => some (.closed fd)
  | .unlink _ => none

/-- What a system call does with a file: a bind makes one, but for an abstract name. -/
def SysCall.fileUse : SysCall → Option (Handles.Use Text)
  | .bind _ (.un sunPath) true => if isAddressAbstract sunPath then none else some (.opened (cStr sunPath))
  | .unlink path => some (.closed path)
  | _ => none

/-- The file that the object has. -/
def boundFile : Sock → Option Text
  | .unix s => if s.isInit && !isAddressAbstract s.me then some (cStr s.me) else none
  | _ => none

/-! ## Setting up -/

/-- Every call in turn succeeds, or one is the first that fails. -/
theorem tryCalls_cases (ok : Nat → Bool) (cs : List (Bool → SysCall)) :
    tryCalls ok cs = (true, cs.map (· true)) ∨
    ∃ pre c post, cs = pre ++ c :: post ∧ tryCalls ok cs = (false, pre.map (· true) ++ [c false]) := by
  induction cs generalizing ok with
  | nil => exact .inl rfl
  | cons c cs ih =>
      rw [tryCalls]
      cases ok 0 with
      | false => exact .inr ⟨[], c, cs, rfl, rfl⟩
      | true =>
          rcases ih fun n => ok (n + 1) with h | ⟨pre, d, post, rfl, h⟩
          · rw [h]
            exact .inl rfl
          · rw [h]
            exact .inr ⟨c :: pre, d, post, rfl, rfl⟩

/-- What a set-up makes of the common part of an object: it is refused, there is no descriptor, one of its
    steps is not done, or all are. -/
inductive SetUp (s : SockBase) (domain : Domain) (steps : Nat → List (Bool → SysCall)) :
    SockBase → List SysCall → Prop
  | refused : SetUp s domain steps s []
  | noSocket (hinit : s.isInit = false) : SetUp s domain steps {} (s.closeBase []).2
  | stopped (hinit : s.isInit = false) (fd : Nat) {pre post : List (Bool → SysCall)} {c : Bool → SysCall}
      (hsteps : steps fd = pre ++ c :: post) {last : List SysCall} (hlast : last = [] ∨ last = [c false]) :
      SetUp s domain steps ⟨some fd, false⟩
        ((s.closeBase []).2 ++ .socket domain fd :: (pre.map (· true) ++ last))
  | done (hinit : s.isInit = false) (fd : Nat) :
      SetUp s domain steps ⟨some fd, true⟩
        ((s.closeBase []).2 ++ .socket domain fd :: (steps fd).map (· true))

/-- The calls of `SockIp::initBase` behind that of `socket`, when the check between them passes. -/
def SockIp.steps (s : SockIp) (fd : Nat) : List (Bool → SysCall) :=
  [.setsockopt fd .reuseAddr, .bind fd s.sockAddr, .setsockopt fd (.bindToDevice s.ifName)] ++
    s.initIpOpts.map (.setsockopt fd)

theorem SockUnix.initBase_setUp (s : SockUnix) (ans : Answers) :
    ∃ b, SetUp s.toSockBase .unix s.steps b (s.initBase ans).2.2 ∧
      (s.initBase ans).2.1 = { s with toSockBase := b } ∧
      (b.isInit = true → s.isInit = false → testUnix s.me 0 = true) := by
  rw [initBase]
  split
  · next hinit => exact ⟨s.toSockBase, .refused, rfl, fun _ h => absurd hinit (by simp [h])⟩
  · next hinit =>
      rw [Bool.not_eq_true] at hinit
      split
      · exact ⟨s.toSockBase, .refused, rfl, fun h => absurd hinit (by simp [h])⟩
      · next htest =>
          rw [Bool.not_eq_true, Bool.not_eq_false'] at htest
          have hclosed : s.closeChild = [] := by simp [closeChild, hinit]
          simp only [hclosed]
          split
          · exact ⟨_, .noSocket hinit, rfl, fun _ _ => htest⟩
          · next fd _ =>
              refine ⟨⟨some fd, _⟩, ?_, rfl, fun _ _ => htest⟩
              rcases tryCalls_cases ans.ok (s.steps fd) with h | ⟨pre, c, post, hcs, h⟩
              · rw [h]
                exact .done hinit fd
              · rw [h]
                exact .stopped hinit fd hcs (.inr rfl)

/-- The calls of `SockIp::initBase` behind the socket are its steps, all or up to one that is not done. -/
theorem SockIp.setUp_cases (s : SockIp) (fd : Nat) (ok : Nat → Bool) :
    s.setUp fd ok = (true, (s.steps fd).map (· true)) ∨
    ∃ pre c post last, s.steps fd = pre ++ c :: post ∧ (last = [] ∨ last = [c false]) ∧
      s.setUp fd ok = (false, pre.map (· true) ++ last) := by
  rw [setUp]
  rcases tryCalls_cases ok [.setsockopt fd .reuseAddr, .bind fd s.sockAddr,
    .setsockopt fd (.bindToDevice s.ifName)] with h | ⟨pre, c, post, hcs, h⟩
  · rw [h]
    cases hchecks : s.initIpChecks with
    | false =>
        obtain ⟨c, post, hopts⟩ : ∃ c post, s.initIpOpts.map (SysCall.setsockopt fd) = c :: post := by
          rw [initIpOpts]
          split <;> exact ⟨_, _, rfl⟩
        exact .inr ⟨_, c, post, [], by rw [steps, hopts], .inl rfl, by simp⟩
    | true =>
        rcases tryCalls_cases (fun n => ok (n + 3)) (s.initIpOpts.map (.setsockopt fd)) with
          k | ⟨pre, c, post, hcs, k⟩
        · rw [k]
          exact .inl (by simp [steps])
        · rw [k]
          refine .inr ⟨[.setsockopt fd .reuseAddr, .bind fd s.sockAddr,
            .setsockopt fd (.bindToDevice s.ifName)] ++ pre, c, post, [c false], ?_, .inr rfl, by simp⟩
          rw [steps, hcs, List.append_assoc]
  · rw [h]
    refine .inr ⟨pre, c, post ++ s.initIpOpts.map (.setsockopt fd), [c false], ?_, .inr rfl, by simp⟩
    rw [steps, hcs, List.append_assoc, List.cons_append]

theorem SockIp.initBase_setUp (s : SockIp) (ans : Answers) :
    ∃ b, SetUp s.toSockBase s.cls.domain s.steps b (s.initBase ans).2.2 ∧
      (s.initBase ans).2.1 = { (if b.isInit && !s.isInit then s.toSend else s) with toSockBase := b } := by
  rw [initBase]
  split
  · next hinit => exact ⟨s.toSockBase, .refused, by simp [hinit]⟩
  · next hinit =>
      rw [Bool.not_eq_true] at hinit
      split
      · exact ⟨s.toSockBase, .refused, by simp [hinit]⟩
      · split
        · exact ⟨s.toSockBase, .refused, by simp [hinit]⟩
        · simp only
          split
          · exact ⟨_, .noSocket hinit, rfl⟩
          · next fd _ =>
              refine ⟨⟨some fd, (s.setUp fd ans.ok).1⟩, ?_, by rw [hinit, Bool.not_false, Bool.and_true]⟩
              rcases s.setUp_cases fd ans.ok with h | ⟨pre, c, post, last, hsteps, hlast, h⟩
              · rw [h]
                exact .done hinit fd
              · rw [h]
                exact .stopped hinit fd hsteps hlast

theorem SockRaw.initBase_setUp (s : SockRaw) (ans : Answers) :
    ∃ b, SetUp s.toSockBase .packet s.steps b (s.initBase ans).2.2 ∧
      (s.initBase ans).2.1 = { s with
        toSockBase := b
        hdr := if b.isInit && !s.isInit then s.sendHdr else s.hdr } := by
  rw [initBase]
  split
  · next hinit => exact ⟨s.toSockBase, .refused, by simp [hinit]⟩
  · next hinit =>
      rw [Bool.not_eq_true] at hinit
      split
      · exact ⟨s.toSockBase, .refused, by simp [hinit]⟩
      · split
        · exact ⟨s.toSockBase, .refused, by simp [hinit]⟩
        · split
          · exact ⟨s.toSockBase, .refused, by simp [hinit]⟩
          · simp only
            split
            · exact ⟨_, .noSocket hinit, rfl⟩
            · next fd _ =>
                refine ⟨⟨some fd, (tryCalls ans.ok (s.steps fd)).1⟩, ?_,
                  by rw [hinit, Bool.not_false, Bool.and_true]⟩
                rcases tryCalls_cases ans.ok (s.steps fd) with h | ⟨pre, c, post, hsteps, h⟩
                · rw [h]
                  exact .done hinit fd
                · rw [h]
                  exact .stopped hinit fd hsteps (.inr rfl)

/-! ## Descriptors -/

open Handles (Moves)

/-- What the calls do with descriptors. -/
abbrev fdUses (calls : List SysCall) : List (Handles.Use Nat) := calls.filterMap SysCall.fdUse

theorem Moves.of_calls {fd : Nat} {calls : List SysCall} (h : ∀ c ∈ calls, c.fdUse = some (.used fd)) :
    Moves (some fd) (fdUses calls) (some fd) := by
  refine Handles.Moves.of_used fun u hu => ?_
  obtain ⟨c, hc, hcu⟩ := List.mem_filterMap.1 hu
  rw [h c hc] at hcu
  exact (Option.some.inj hcu).symm

theorem closeBase_fds (s : SockBase) : Moves s.fd (fdUses (s.closeBase []).2) none := by
  rw [SockBase.closeBase, List.append_nil]
  cases s.fd with
  | none => exact Handles.Moves.nil none
  | some fd => exact Handles.Moves.closed fd

/-- Behind a set-up the object has the descriptor that it holds, and only that one. -/
theorem SetUp.fds {s b : SockBase} {domain : Domain} {steps : Nat → List (Bool → SysCall)} {calls : List SysCall}
    (h : SetUp s domain steps b calls)
    (hsteps : ∀ fd, ∀ c ∈ steps fd, ∀ ok, (c ok).fdUse = some (.used fd)) :
    Moves s.fd (fdUses calls) b.fd := by
  have hopen : ∀ (fd : Nat) (rest : List SysCall), (∀ c ∈ rest, c.fdUse = some (.used fd)) →
      Moves s.fd (fdUses ((s.closeBase []).2 ++ .socket domain fd :: rest)) (some fd) := by
    intro fd rest hrest
    rw [fdUses, List.filterMap_append]
    exact (closeBase_fds s).append ((Handles.Moves.opened fd).append (Moves.of_calls hrest))
  cases h with
  | refused => exact Handles.Moves.nil _
  | noSocket hinit => exact closeBase_fds s
  | stopped hinit fd hcs hlast =>
      refine hopen fd _ fun x hx => ?_
      have hall := hsteps fd
      rw [hcs] at hall
      rcases List.mem_append.1 hx with hx | hx
      · obtain ⟨f, hf, rfl⟩ := List.mem_map.1 hx
        exact hall f (List.mem_append_left _ hf) true
      · rcases hlast with rfl | rfl
        · cases hx
        · obtain rfl := List.mem_singleton.1 hx
          exact hall _ (List.mem_append_right _ (List.mem_cons_self ..)) false
  | done hinit fd =>
      refine hopen fd _ fun x hx => ?_
      obtain ⟨f, hf, rfl⟩ := List.mem_map.1 hx
      exact hsteps fd f hf true

/-- A transfer uses the descriptor that is held. -/
theorem transfer_fds (s : SockBase) : Moves s.fd (fdUses s.transfer) s.fd := by
  rw [SockBase.transfer]
  cases s.fd with
  | none => exact Handles.Moves.nil none
  | some fd => exact Handles.Moves.used fd

/-! ## What a call does -/

def domain : Sock → Domain
  | .unix _ => .unix
  | .ip s => s.cls.domain
  | .raw _ => .packet

def steps : Sock → Nat → List (Bool → SysCall)
  | .unix s => s.steps
  | .ip s => s.steps
  | .raw s => s.steps

def closeChild : Sock → List SysCall
  | .unix s => s.closeChild
  | _ => []

def withBase (b : SockBase) : Sock → Sock
  | .unix s => .unix { s with toSockBase := b }
  | .ip s => .ip { s with toSockBase := b }
  | .raw s => .raw { s with toSockBase := b }

/-- The object when it is set up, ready to send. -/
def ready : Sock → Sock
  | .unix s => .unix s
  | .ip s => .ip s.toSend
  | .raw s => .raw { s with hdr := s.sendHdr }

/-- What a call other than `close` and `init` leaves: the common part, and, while the object is set up, what
    its set-up depends on. -/
def Alike : Sock → Sock → Prop
  | .unix s, .unix s' => s'.toSockBase = s.toSockBase ∧ (s.isInit = true → s'.me = s.me) ∧
      (s.peerAddr = setUnixAddr s.peer → s'.peerAddr = setUnixAddr s'.peer)
  | .ip s, .ip s' => s'.toSockBase = s.toSockBase ∧ (s.isInit = true → s' = s) ∧ s'.cls = s.cls ∧
      s'.addr = s.addr
  | .raw s, .raw s' => s'.toSockBase = s.toSockBase ∧ (s.isInit = true → s' = s)
  | _, _ => False

theorem Alike.refl (s : Sock) : Alike s s := by
  cases s with
  | unix s => exact ⟨rfl, fun _ => rfl, id⟩
  | ip s => exact ⟨rfl, fun _ => rfl, rfl, rfl⟩
  | raw s => exact ⟨rfl, fun _ => rfl⟩

/-- What a call may do: little, or a close, or a set-up. -/
inductive Effect (s : Sock) : Sock → List SysCall → Prop
  | quiet {s' : Sock} (h : Alike s s') : Effect s s' []
  | transfer {s' : Sock} (h : Alike s s') (hinit : s.base.isInit = true) : Effect s s' s.base.transfer
  | close : Effect s (s.withBase {}) (s.base.closeBase s.closeChild).2
  | init {b : SockBase} {calls : List SysCall} (h : SetUp s.base s.domain s.steps b calls)
      (htest : ∀ u, s = .unix u → b.isInit = true → u.isInit = false → testUnix u.me 0 = true) :
      Effect s ((if b.isInit && !s.base.isInit then s.ready else s).withBase b) calls

theorem SockUnix.rcv_calls (s : SockUnix) (bufSize : Nat) (ans : Option Datagram) :
    (s.rcv bufSize ans).2 = [] ∨ s.isInit = true ∧ (s.rcv bufSize ans).2 = s.transfer := by
  rw [rcv, rcvFrom]
  cases hinit : s.isInit with
  | false => exact .inl rfl
  | true =>
      simp only [Bool.not_true, Bool.false_eq_true, if_false]
      split
      · exact .inl rfl
      · refine .inr ⟨trivial, ?_⟩
        cases ans with
        | none => rfl
        | some d =>
            simp only [Option.map_some]
            split
            · rfl
            · split <;> rfl

theorem SockBase.poll_calls (s : SockBase) (timeoutMs : UInt64) (pending : Bool) :
    (s.poll timeoutMs pending).2.2 = [] ∨ s.isInit = true ∧ (s.poll timeoutMs pending).2.2 = s.transfer := by
  rw [poll]
  cases s.isInit with
  | false => exact .inl rfl
  | true => exact .inr ⟨rfl, rfl⟩

theorem SockBase.ifTransfer_calls (s : SockBase) :
    s.ifTransfer = [] ∨ s.isInit = true ∧ s.ifTransfer = s.transfer := by
  rw [ifTransfer]
  cases s.isInit with
  | false => exact .inl rfl
  | true => exact .inr ⟨rfl, rfl⟩

/-- The object stays as it is. -/
theorem effect_same {s : Sock} {calls : List SysCall}
    (h : calls = [] ∨ s.base.isInit = true ∧ calls = s.base.transfer) : Effect s s calls := by
  rcases h with rfl | ⟨hinit, rfl⟩
  · exact .quiet (.refl s)
  · exact .transfer (.refl s) hinit

theorem SockUnix.setSelfAddress_alike (s : SockUnix) (str : Text) (useAbstract : Bool) :
    Alike (.unix s) (.unix (s.setSelfAddress str useAbstract).2) := by
  rw [setSelfAddress]
  split
  · exact .refl (.unix s)
  · next hinit =>
      cases testUnix str (if useAbstract then 1 else 0) with
      | false => exact .refl (.unix s)
      | true => exact ⟨rfl, fun h => absurd h hinit, id⟩

theorem effect_unix (s : SockUnix) (c : Call) : Effect (.unix s) (.unix (s.call c).1) (s.call c).2 := by
  cases c with
  | close => exact .close
  | init ans =>
      obtain ⟨b, hsetup, hstate, htest⟩ := s.initBase_setUp ans
      have heffect := Effect.init (s := .unix s) hsetup (by rintro u ⟨⟩; exact htest)
      rw [show ready (.unix s) = .unix s from rfl, ite_self] at heffect
      exact hstate ▸ heffect
  | send msg =>
      refine effect_same ?_
      show s.send.2 = [] ∨ _ ∧ s.send.2 = _
      rw [SockUnix.send]
      cases hinit : s.isInit with
      | false => exact .inl rfl
      | true =>
          cases testUnix s.peer 0 with
          | false => exact .inl rfl
          | true => exact .inr ⟨hinit, rfl⟩
  | rcv bufSize ans => exact effect_same (s.rcv_calls bufSize ans)
  | poll timeoutMs pending => exact effect_same (s.poll_calls timeoutMs pending)
  | setSelfAddress str useAbstract => exact .quiet (s.setSelfAddress_alike str useAbstract)
  | setDefSelfAddress p rootBase useDef =>
      refine .quiet ?_
      show Alike _ (.unix (s.setDefSelfAddress p rootBase useDef).2)
      rw [SockUnix.setDefSelfAddress]
      split
      · exact .refl (.unix s)
      · exact s.setSelfAddress_alike _ _
  | setPeerAddress str useAbstract =>
      refine .quiet ?_
      show Alike _ (.unix (s.setPeerInternal str useAbstract).2)
      rw [SockUnix.setPeerInternal]
      cases testUnix str (if useAbstract then 1 else 0) with
      | false => exact .refl (.unix s)
      | true => exact ⟨rfl, fun _ => rfl, fun _ => rfl⟩
  | sendTo addrStr useAbstract =>
      refine effect_same ?_
      show (s.sendTo addrStr useAbstract).2 = [] ∨ _ ∧ (s.sendTo addrStr useAbstract).2 = _
      rw [SockUnix.sendTo]
      cases hinit : s.isInit with
      | false => exact .inl rfl
      | true =>
          cases testUnix addrStr (if useAbstract then 1 else 0) with
          | false => exact .inl rfl
          | true => exact .inr ⟨hinit, rfl⟩
  | rcvFrom bufSize ans =>
      show Effect _ (.unix (s.rcvLastFrom bufSize ans).2.1) (s.rcvLastFrom bufSize ans).2.2
      rw [SockUnix.rcvLastFrom, SockUnix.rcvFrom]
      cases hinit : s.isInit with
      | false => exact .quiet (.refl _)
      | true =>
          cases ans with
          | none => exact .transfer (.refl _) hinit
          | some d => exact .transfer ⟨rfl, fun _ => rfl, id⟩ hinit
  | _ => exact .quiet (.refl _)

/-- Choosing an interface. -/
theorem SockBaseIf.setIf_alike (s : SockBaseIf) (ifObj : Option IfInfo) :
    (s.setIf ifObj).2.toSockBase = s.toSockBase ∧ (s.isInit = true → (s.setIf ifObj).2 = s) := by
  cases ifObj with
  | none =>
      rw [setIf, ite_self]
      exact ⟨rfl, fun _ => rfl⟩
  | some ifObj =>
      rw [setIf]
      split
      · exact ⟨rfl, fun _ => rfl⟩
      · next hinit => exact ⟨rfl, fun h => absurd h hinit⟩

theorem effect_ip (s : SockIp) (c : Call) : Effect (.ip s) (.ip (s.call c).1) (s.call c).2 := by
  cases c with
  | close => exact .close
  | init ans =>
      obtain ⟨b, hsetup, hstate⟩ := s.initBase_setUp ans
      have heffect := Effect.init (s := .ip s) hsetup (by rintro u ⟨⟩)
      have hready : ((if b.isInit && !s.isInit then ready (.ip s) else .ip s).withBase b : Sock)
          = .ip (s.initBase ans).2.1 := by
        rw [hstate]
        cases b.isInit && !s.isInit <;> rfl
      exact hready ▸ heffect
  | send msg => exact effect_same s.ifTransfer_calls
  | rcv bufSize ans => exact effect_same s.ifTransfer_calls
  | poll timeoutMs pending => exact effect_same (s.poll_calls timeoutMs pending)
  | setIf ifObj =>
      obtain ⟨hbase, hsame⟩ := s.setIf_alike ifObj
      exact .quiet ⟨hbase, fun h => by rw [SockIp.call, hsame h], rfl, rfl⟩
  | setUdpTtl udpTtl =>
      refine .quiet ?_
      show Alike _ (.ip (s.setUdpTtl udpTtl).2)
      rw [SockIp.setUdpTtl]
      split
      · exact .refl (.ip s)
      · next hinit => exact ⟨rfl, fun h => absurd h hinit, rfl, rfl⟩
  | setScope udp6Scope =>
      refine .quiet ?_
      show Alike _ (.ip (s.setScope udp6Scope).2)
      rw [SockIp.setScope]
      split
      · exact .refl (.ip s)
      · split
        · exact .refl (.ip s)
        · next hinit =>
            split
            · exact .refl (.ip s)
            · exact ⟨rfl, fun h => absurd h hinit, rfl, rfl⟩
  | setScopeCfg udp6Scope =>
      refine .quiet ?_
      show Alike _ (.ip (s.setScopeCfg udp6Scope).2)
      rw [SockIp.setScopeCfg]
      split
      · exact .refl (.ip s)
      · split
        · exact .refl (.ip s)
        · next hinit => exact ⟨rfl, fun h => absurd h hinit, rfl, rfl⟩
  | _ => exact .quiet (.refl _)

theorem effect_raw (s : SockRaw) (c : Call) : Effect (.raw s) (.raw (s.call c).1) (s.call c).2 := by
  cases c with
  | close => exact .close
  | init ans =>
      obtain ⟨b, hsetup, hstate⟩ := s.initBase_setUp ans
      have heffect := Effect.init (s := .raw s) hsetup (by rintro u ⟨⟩)
      have hready : ((if b.isInit && !s.isInit then ready (.raw s) else .raw s).withBase b : Sock)
          = .raw (s.initBase ans).2.1 := by
        rw [hstate]
        cases b.isInit && !s.isInit <;> rfl
      exact hready ▸ heffect
  | send msg => exact effect_same s.ifTransfer_calls
  | rcv bufSize ans => exact effect_same s.ifTransfer_calls
  | poll timeoutMs pending => exact effect_same (s.poll_calls timeoutMs pending)
  | setIf ifObj =>
      obtain ⟨hbase, hsame⟩ := s.setIf_alike ifObj
      exact .quiet ⟨hbase, fun h => by rw [SockRaw.call, hsame h]⟩
  | setPtpDstMacStr str =>
      refine .quiet ?_
      show Alike _ (.raw (s.setPtpDstMacStr str).2)
      rw [SockRaw.setPtpDstMacStr]
      split
      · exact .refl (.raw s)
      · next hinit =>
          split
          · exact .refl (.raw s)
          · split
            · exact .refl (.raw s)
            · exact ⟨rfl, fun h => absurd h hinit⟩
  | setPtpDstMac mac =>
      refine .quiet ?_
      show Alike _ (.raw (s.setPtpDstMac mac).2)
      rw [SockRaw.setPtpDstMac]
      split
      · exact .refl (.raw s)
      · next hinit =>
          split
          · exact .refl (.raw s)
          · exact ⟨rfl, fun h => absurd h hinit⟩
  | setPtpDstMacCfg mac =>
      refine .quiet ?_
      show Alike _ (.raw (s.setPtpDstMacCfg mac).2)
      rw [SockRaw.setPtpDstMacCfg]
      split
      · exact .refl (.raw s)
      · next hinit => exact ⟨rfl, fun h => absurd h hinit⟩
  | setSocketPriority socketPriority =>
      refine .quiet ?_
      show Alike _ (.raw (s.setSocketPriority socketPriority).2)
      rw [SockRaw.setSocketPriority]
      split
      · exact .refl (.raw s)
      · next hinit =>
          split
          · exact .refl (.raw s)
          · exact ⟨rfl, fun h => absurd h hinit⟩
  | setSocketPriorityCfg socketPriority =>
      refine .quiet ?_
      show Alike _ (.raw (s.setSocketPriorityCfg socketPriority).2)
      rw [SockRaw.setSocketPriorityCfg]
      split
      · exact .refl (.raw s)
      · next hinit => exact ⟨rfl, fun h => absurd h hinit⟩
  | _ => exact .quiet (.refl _)

/-- **What every call does**, whatever the system answers. -/
theorem call_effect (s : Sock) (c : Call) : Effect s (s.call c).1 (s.call c).2 := by
  cases s with
  | unix s => exact effect_unix s c
  | ip s => exact effect_ip s c
  | raw s => exact effect_raw s c

end Sock

end PtpMgmt
