import PtpMgmt.Sock.Lifecycle

set_option autoImplicit false

/-! # What a socket holds

Over the whole life of an object: which descriptor and which file it holds, and how the descriptor is set up
when the object says that it is. A descriptor is closed on every way, also when the object is destroyed. A
file is not: only `close` removes it, so an object that is destroyed while it is set up leaves it. -/

namespace PtpMgmt

open Wire Json

namespace Sock

open Handles (Moves)

theorem base_withBase (s : Sock) (b : SockBase) : (s.withBase b).base = b := by
  cases s <;> rfl

theorem Alike.base_eq {s s' : Sock} (h : Alike s s') : s'.base = s.base := by
  cases s with
  | unix s =>
      cases s' with
      | unix s' => exact h.1
      | _ => exact h.elim
  | ip s =>
      cases s' with
      | ip s' => exact h.1
      | _ => exact h.elim
  | raw s =>
      cases s' with
      | raw s' => exact h.1
      | _ => exact h.elim

/-- All steps of a set-up are about the new descriptor. -/
theorem steps_fds (s : Sock) (fd : Nat) : ∀ c ∈ s.steps fd, ∀ ok, (c ok).fdUse = some (.used fd) := by
  intro c hc ok
  cases s with
  | unix s =>
      obtain rfl := List.mem_singleton.1 hc
      rfl
  | ip s =>
      rcases List.mem_append.1 hc with hc | hc
      · simp only [List.mem_cons, List.not_mem_nil, or_false] at hc
        rcases hc with rfl | rfl | rfl <;> rfl
      · obtain ⟨opt, -, rfl⟩ := List.mem_map.1 hc
        rfl
  | raw s =>
      simp only [steps, SockRaw.steps, List.mem_cons, List.not_mem_nil, or_false] at hc
      rcases hc with rfl | rfl | rfl | rfl | rfl <;> rfl

theorem closeChild_fds (s : Sock) : fdUses s.closeChild = [] := by
  cases s with
  | unix s =>
      simp only [closeChild, SockUnix.closeChild]
      split <;> rfl
  | _ => rfl

theorem closeBase_append (s : SockBase) (child : List SysCall) :
    (s.closeBase child).2 = (s.closeBase []).2 ++ child := by
  simp [SockBase.closeBase]

/-- A call moves from the descriptor that is held in front of it to the one behind it. -/
theorem Effect.fds {s s' : Sock} {calls : List SysCall} (h : Effect s s' calls) :
    Moves s.base.fd (fdUses calls) s'.base.fd := by
  cases h with
  | quiet h =>
      rw [h.base_eq]
      exact Handles.Moves.nil _
  | transfer h hinit =>
      rw [h.base_eq]
      exact transfer_fds s.base
  | close =>
      rw [base_withBase, closeBase_append, fdUses, List.filterMap_append, show s.closeChild.filterMap _ = _ from
        closeChild_fds s, List.append_nil]
      exact closeBase_fds s.base
  | init h _ =>
      rw [base_withBase]
      exact h.fds (steps_fds s)

/-! ## Files -/

/-- What the calls do with files. -/
abbrev fileUses (calls : List SysCall) : List (Handles.Use Text) := calls.filterMap SysCall.fileUse

theorem closeBase_files (s : SockBase) (child : List SysCall) :
    fileUses (s.closeBase child).2 = fileUses child := by
  rw [SockBase.closeBase, fileUses, List.filterMap_append]
  cases s.fd <;> rfl

theorem transfer_files (s : SockBase) : fileUses s.transfer = [] := by
  rw [SockBase.transfer]
  cases s.fd <;> rfl

theorem closeChild_files (s : Sock) : Moves s.boundFile (fileUses s.closeChild) none := by
  cases s with
  | unix s =>
      simp only [boundFile, closeChild, SockUnix.closeChild]
      cases s.isInit && !isAddressAbstract s.me with
      | false => exact Handles.Moves.nil none
      | true => exact Handles.Moves.closed _
  | _ => exact Handles.Moves.nil none

theorem Alike.boundFile_eq {s s' : Sock} (h : Alike s s') : s'.boundFile = s.boundFile := by
  cases s with
  | unix s =>
      cases s' with
      | unix s' =>
          have hinit : s'.isInit = s.isInit := congrArg SockBase.isInit h.1
          rw [boundFile, boundFile, hinit]
          cases hset : s.isInit with
          | false => rfl
          | true => rw [h.2.1 hset]
      | _ => exact h.elim
  | ip s =>
      cases s' with
      | ip s' => rfl
      | _ => exact h.elim
  | raw s =>
      cases s' with
      | raw s' => rfl
      | _ => exact h.elim

theorem cStr_append_zeros (t : Text) (n : Nat) : cStr (t ++ List.replicate n 0) = cStr t := by
  induction t with
  | nil => cases n <;> rfl
  | cons c t ih =>
      rw [cStr, cStr] at ih ⊢
      rw [List.cons_append, List.takeWhile_cons, List.takeWhile_cons, ih]

/-- An address of a length that was checked is all in `sun_path`. -/
theorem setUnixAddr_spec {str : Text} (h : testUnix str 0 = true) :
    cStr (setUnixAddr str) = cStr str ∧ isAddressAbstract (setUnixAddr str) = isAddressAbstract str := by
  have hne := testUnix_ne_nil h
  have hlen : str.length ≤ unixPathMax := by
    simp only [testUnix, Nat.sub_zero, Bool.not_eq_true', Bool.or_eq_false_iff, decide_eq_false_iff_not] at h
    omega
  rw [setUnixAddr, List.take_of_length_le hlen, cStr_append_zeros, isAddressAbstract, isAddressAbstract,
    List.head?_append_of_ne_nil _ hne]
  exact ⟨rfl, rfl⟩

/-- The sockets of network interfaces make no files. -/
theorem fileUse_ip (s : SockIp) (fd : Nat) (c : Bool → SysCall) (hc : c ∈ s.steps fd) (ok : Bool) :
    (c ok).fileUse = none := by
  have haddr : (SysCall.bind fd s.sockAddr ok).fileUse = none := by
    rw [SockIp.sockAddr]
    cases s.cls <;> rfl
  rcases List.mem_append.1 hc with hc | hc
  · simp only [List.mem_cons, List.not_mem_nil, or_false] at hc
    rcases hc with rfl | rfl | rfl
    · rfl
    · exact haddr
    · rfl
  · obtain ⟨opt, -, rfl⟩ := List.mem_map.1 hc
    rfl

theorem fileUse_raw (s : SockRaw) (fd : Nat) (c : Bool → SysCall) (hc : c ∈ s.steps fd) (ok : Bool) :
    (c ok).fileUse = none := by
  simp only [SockRaw.steps, List.mem_cons, List.not_mem_nil, or_false] at hc
  rcases hc with rfl | rfl | rfl | rfl | rfl <;> rfl

theorem SetUp.no_files {s b : SockBase} {domain : Domain} {steps : Nat → List (Bool → SysCall)}
    {calls : List SysCall} (h : SetUp s domain steps b calls)
    (hsteps : ∀ fd, ∀ c ∈ steps fd, ∀ ok, (c ok).fileUse = none) : fileUses calls = [] := by
  have hopen : ∀ (fd : Nat) (rest : List SysCall), (∀ c ∈ rest, c.fileUse = none) →
      fileUses ((s.closeBase []).2 ++ .socket domain fd :: rest) = [] := by
    intro fd rest hrest
    rw [fileUses, List.filterMap_append, show List.filterMap _ (s.closeBase []).2 = _ from
      closeBase_files s [], List.filterMap_cons]
    exact List.filterMap_eq_nil_iff.2 hrest
  cases h with
  | refused => rfl
  | noSocket hinit => exact closeBase_files s []
  | stopped hinit fd hcs hlast =>
      refine hopen fd _ fun x hx => ?_
      have hall := hsteps fd
      rw [hcs] at hall
      rcases List.mem_append.1 hx with hx | hx
      · obtain ⟨f, hf, rfl⟩ := List.mem_map.1 hx
        exact hall f (List.mem_append_left _ hf) true
      · rcases hlast with rfl | rfl
        · cases hx
        · obtain rfl := List.mem_singleton.1 hx
          exact hall _ (List.mem_append_right _ (List.mem_cons_self ..)) false
  | done hinit fd =>
      refine hopen fd _ fun x hx => ?_
      obtain ⟨f, hf, rfl⟩ := List.mem_map.1 hx
      exact hsteps fd f hf true

/-- A unix socket has a file behind its set-up when its bind has made one. -/
theorem SetUp.unix_files {s : SockUnix} {b : SockBase} {calls : List SysCall}
    (h : SetUp s.toSockBase .unix s.steps b calls)
    (htest : b.isInit = true → s.isInit = false → testUnix s.me 0 = true) :
    Moves (boundFile (.unix s)) (fileUses calls) (boundFile (.unix { s with toSockBase := b })) := by
  have hopen : ∀ (fd : Nat) (rest : List SysCall),
      fileUses ((s.toSockBase.closeBase []).2 ++ .socket .unix fd :: rest) = fileUses rest := by
    intro fd rest
    rw [fileUses, List.filterMap_append, show List.filterMap _ (s.toSockBase.closeBase []).2 = _ from
      closeBase_files s.toSockBase [], List.filterMap_cons]
    rfl
  have hnone : ∀ (b : SockBase), b.isInit = false → boundFile (.unix { s with toSockBase := b }) = none := by
    intro b hb
    rw [boundFile, hb]
    rfl
  cases h with
  | refused => exact Handles.Moves.nil _
  | noSocket hinit =>
      rw [closeBase_files, hnone s.toSockBase hinit, hnone {} rfl]
      exact Handles.Moves.nil none
  | stopped hinit fd hcs hlast =>
      rename_i pre post c last
      obtain ⟨rfl, hc, -⟩ : pre = [] ∧ c = .bind fd (.un (setUnixAddr s.me)) ∧ post = [] := by
        cases pre with
        | nil =>
            cases hcs
            exact ⟨rfl, rfl, rfl⟩
        | cons f pre =>
            rw [SockUnix.steps, List.cons_append, List.cons.injEq] at hcs
            exact absurd hcs.2.symm (by simp)
      have huses : fileUses ([].map (fun f : Bool → SysCall => f true) ++ last) = [] := by
        rcases hlast with rfl | rfl
        · rfl
        · rw [hc]
          rfl
      rw [hopen, huses, hnone s.toSockBase hinit, hnone ⟨some fd, false⟩ rfl]
      exact Handles.Moves.nil none
  | done hinit fd =>
      obtain ⟨hname, habstract⟩ := setUnixAddr_spec (htest rfl hinit)
      rw [hopen, hnone s.toSockBase hinit, boundFile]
      simp only [SockUnix.steps, List.map_cons, List.map_nil, fileUses, List.filterMap_cons, List.filterMap_nil,
        SysCall.fileUse, habstract, hname, Bool.true_and]
      cases isAddressAbstract s.me with
      | true => exact Handles.Moves.nil none
      | false => exact Handles.Moves.opened _

/-- A call moves from the file that is held in front of it to the one behind it. -/
theorem Effect.files {s s' : Sock} {calls : List SysCall} (h : Effect s s' calls) :
    Moves s.boundFile (fileUses calls) s'.boundFile := by
  cases h with
  | quiet h =>
      rw [h.boundFile_eq]
      exact Handles.Moves.nil _
  | transfer h hinit =>
      rw [h.boundFile_eq, transfer_files]
      exact Handles.Moves.nil _
  | close =>
      have hnone : (s.withBase {}).boundFile = none := by
        cases s <;> rfl
      rw [hnone, closeBase_files]
      exact closeChild_files s
  | init h htest =>
      cases s with
      | unix s =>
          rw [show ready (.unix s) = .unix s from rfl, ite_self]
          exact SetUp.unix_files h (htest s rfl)
      | ip s =>
          rw [SetUp.no_files h fun fd => fileUse_ip s fd]
          split <;> exact Handles.Moves.nil none
      | raw s =>
          rw [SetUp.no_files h fun fd => fileUse_raw s fd]
          split <;> exact Handles.Moves.nil none

/-! ## Over a life -/

theorem New.none {s : Sock} (h : New s) : s.base = {} ∧ s.boundFile = none := by
  cases h <;> exact ⟨rfl, rfl⟩

/-- What holds of a new object, and what each call keeps, holds over every life. -/
theorem Lives.invariant {I : Life → Prop} (hnew : ∀ s, New s → I ⟨s, []⟩)
    (hstep : ∀ (l : Life) (s' : Sock) (calls : List SysCall), I l → Effect l.sock s' calls →
      I ⟨s', l.log ++ calls⟩) {cs : List Call} {l : Life} (h : Lives cs l) : I l := by
  obtain ⟨s, hs, hrun⟩ := h
  refine Runs.run_invariant (I := I) (fun l c l' hl hone => ?_) (hnew s hs) hrun
  cases hone
  exact hstep l _ _ hl (call_effect l.sock c)

theorem Lives.moves {cs : List Call} {l : Life} (h : Lives cs l) :
    Moves none (fdUses l.log) l.sock.base.fd ∧ Moves none (fileUses l.log) l.sock.boundFile := by
  refine h.invariant (I := fun l => Moves none (fdUses l.log) l.sock.base.fd ∧
    Moves none (fileUses l.log) l.sock.boundFile) (fun s hs => ?_) (fun l s' calls hl heffect => ?_)
  · rw [hs.none.1, hs.none.2]
    exact ⟨Handles.Moves.nil none, Handles.Moves.nil none⟩
  · rw [fdUses, fileUses, List.filterMap_append, List.filterMap_append]
    exact ⟨hl.1.append heffect.fds, hl.2.append heffect.files⟩

/-- **Descriptors are never lost, closed twice or used when they are closed**: whatever calls a user makes on
    an object, and whichever system calls fail, at any time just the descriptor that the object names is
    open. When the object is destroyed none is, and each was closed as often as it was opened. -/
theorem descriptors_in_order {cs : List Call} {l : Life} (h : Lives cs l) :
    Runs.run Handles.step [] (fdUses l.log) = some l.sock.base.fd.toList ∧
    Runs.run Handles.step [] (fdUses (l.log ++ l.sock.destroy)) = some [] ∧
    ∀ fd, ((fdUses (l.log ++ l.sock.destroy)).map (Handles.Use.closes fd)).sum =
      ((fdUses (l.log ++ l.sock.destroy)).map (Handles.Use.opens fd)).sum := by
  have hmoves := h.moves.1
  have hend : Moves none (fdUses (l.log ++ l.sock.destroy)) none := by
    rw [fdUses, List.filterMap_append]
    exact hmoves.append (closeBase_fds l.sock.base)
  exact ⟨hmoves, hend, hend.balanced⟩

/-- **Which files are left behind**: an object removes only files that its own bind made, and each of them
    once. A `close` leaves none. An object that is destroyed leaves its file exactly when it is set up with
    an address that is not abstract. -/
theorem files_left {cs : List Call} {l : Life} (h : Lives cs l) :
    Runs.run Handles.step [] (fileUses (l.log ++ (l.sock.call .close).2)) = some [] ∧
    Runs.run Handles.step [] (fileUses (l.log ++ l.sock.destroy)) = some l.sock.boundFile.toList := by
  have hmoves := h.moves.2
  constructor
  · have hclose := (call_effect l.sock .close).files
    have hnone : (l.sock.call .close).1.boundFile = none := by
      cases l.sock <;> rfl
    rw [hnone] at hclose
    rw [fileUses, List.filterMap_append]
    exact hmoves.append hclose
  · have hnone : Moves l.sock.boundFile (fileUses l.sock.destroy) l.sock.boundFile := by
      rw [destroy, closeBase_files]
      exact Handles.Moves.nil _
    rw [fileUses, List.filterMap_append]
    exact hmoves.append hnone

/-! ## Options -/

/-- A descriptor as the system has it. -/
structure Descriptor where
  domain : Domain
  opts : List SockOpt
  bound : Option SockAddr
deriving DecidableEq, Repr

/-- What a system call makes of the descriptor that is open. -/
def Descriptor.step (d : Option Descriptor) : SysCall → Option Descriptor
  | .socket domain _ => some ⟨domain, [], none⟩
  | .setsockopt _ opt true => d.map fun d => { d with opts := d.opts ++ [opt] }
  | .bind _ addr true => d.map fun d => { d with bound := some addr }
  | .close _ => none
  | _ => d

/-- The descriptor behind the calls. -/
def view (calls : List SysCall) : Option Descriptor := calls.foldl Descriptor.step none

theorem view_append (before calls : List SysCall) :
    view (before ++ calls) = calls.foldl Descriptor.step (view before) :=
  List.foldl_append

/-- A descriptor that is opened starts without options. -/
theorem view_opened (before calls : List SysCall) (domain : Domain) (fd : Nat) :
    view (before ++ .socket domain fd :: calls) = calls.foldl Descriptor.step (some ⟨domain, [], none⟩) := by
  rw [view_append]
  rfl

theorem view_transfer (before : List SysCall) (s : SockBase) : view (before ++ s.transfer) = view before := by
  rw [view_append, SockBase.transfer]
  cases s.fd <;> rfl

/-- Options one behind the other. -/
theorem view_opts (fd : Nat) (opts : List SockOpt) (d : Descriptor) :
    ((opts.map (SysCall.setsockopt fd)).map (· true)).foldl Descriptor.step (some d) =
      some { d with opts := d.opts ++ opts } := by
  induction opts generalizing d with
  | nil => simp
  | cons opt opts ih =>
      rw [List.map_cons, List.map_cons, List.foldl_cons, Descriptor.step, Option.map_some, ih]
      simp

/-- How often a socket was set up for multicast, which is the last step of a UDP socket. -/
def timesReady (calls : List SysCall) : Nat :=
  (calls.filter fun c => match c with
    | .setsockopt _ (.ipMulticastIf _) true | .setsockopt _ (.ipv6MulticastIf _) true => true
    | _ => false).length

theorem timesReady_append (before calls : List SysCall) :
    timesReady (before ++ calls) = timesReady before + timesReady calls := by
  rw [timesReady, List.filter_append, List.length_append]
  rfl

/-- The address that a UDP socket holds when it was set up so often: that of all interfaces at first, then the
    multicast address that it sends to. With IPv6 the scope in this address is that of the set-up before, as
    the socket is bound before the scope of now is put in; so it is left open here. -/
def IpClass.Addr (cls : IpClass) (times : Nat) (a : Binary) : Prop :=
  if times = 0 then a = cls.any else ∃ s : SockIp, s.cls = cls ∧ a = s.mcast

/-- A UDP socket is bound to the address that it held when it was set up. -/
def SockIp.Bound (s : SockIp) (times : Nat) (addr : SockAddr) : Prop :=
  ∃ (a : Binary) (scopeId : Int), s.cls.Addr (times - 1) a ∧
    addr = SockIp.sockAddr { s with addr := a, scopeId }

/-- The descriptor of an object that is set up: every option that its class sets, with the values of the
    object. -/
def Ready (times : Nat) : Sock → Option Descriptor → Prop
  | .unix s, d => d = some ⟨.unix, [], some (.un (setUnixAddr s.me))⟩
  | .ip s, d => ∃ addr, s.Bound times addr ∧
      d = some ⟨s.cls.domain, [.reuseAddr, .bindToDevice s.ifName] ++ s.initIpOpts, some addr⟩
  | .raw s, d => d = some ⟨.packet, [.bindToDevice s.ifName, .priority s.socketPriority, .attachFilter bpfCode,
      .packetAddMembership s.ptpDstMac s.ifIndex], some (.ll ⟨s.ifIndex, ethPAll⟩)⟩

/-- The steps of a set-up that is done are in the descriptor. -/
theorem view_steps (s : Sock) (before : List SysCall) (fd : Nat) :
    view (before ++ .socket s.domain fd :: (s.steps fd).map (· true)) =
      match s with
      | .unix s => some ⟨.unix, [], some (.un (setUnixAddr s.me))⟩
      | .ip s => some ⟨s.cls.domain, [.reuseAddr, .bindToDevice s.ifName] ++ s.initIpOpts, some s.sockAddr⟩
      | .raw s => some ⟨.packet, [.bindToDevice s.ifName, .priority s.socketPriority, .attachFilter bpfCode,
          .packetAddMembership s.ptpDstMac s.ifIndex], some (.ll ⟨s.ifIndex, ethPAll⟩)⟩ := by
  rw [view_opened]
  cases s with
  | unix s => rfl
  | ip s =>
      simp only [steps, SockIp.steps, List.map_append, List.foldl_append]
      exact view_opts fd s.initIpOpts ⟨s.cls.domain, [.reuseAddr, .bindToDevice s.ifName], some s.sockAddr⟩
  | raw s => rfl

theorem timesReady_closeBase (s : SockBase) (child : List SysCall) :
    timesReady (s.closeBase child).2 = timesReady child := by
  rw [SockBase.closeBase, timesReady_append]
  cases s.fd <;> exact Nat.zero_add _

theorem timesReady_transfer (s : SockBase) : timesReady s.transfer = 0 := by
  rw [SockBase.transfer]
  cases s.fd <;> rfl

theorem timesReady_closeChild (s : Sock) : timesReady s.closeChild = 0 := by
  cases s with
  | unix s =>
      simp only [closeChild, SockUnix.closeChild]
      split <;> rfl
  | _ => rfl

/-- A UDP socket is set up for multicast once when all steps are done, and not in front of the last. -/
theorem SockIp.timesReady_steps (s : SockIp) (fd : Nat) :
    timesReady ((s.steps fd).map (· true)) = 1 ∧
    ∀ pre c post last, s.steps fd = pre ++ c :: post → last = [] ∨ last = [c false] →
      timesReady (pre.map (· true) ++ last) = 0 := by
  constructor
  · rw [steps, initIpOpts]
    cases s.cls <;> rfl
  · intro pre c post last hsteps hlast
    have hdrop : pre <+: (s.steps fd).dropLast := by
      rw [hsteps, List.dropLast_append_of_ne_nil (List.cons_ne_nil c post)]
      exact List.prefix_append ..
    have hzero : timesReady ((s.steps fd).dropLast.map (· true)) = 0 := by
      rw [steps, initIpOpts]
      cases s.cls <;> rfl
    have hpre : timesReady (pre.map (· true)) ≤ 0 :=
      hzero ▸ ((hdrop.sublist.map _).filter _).length_le
    have hlast : timesReady last = 0 := by
      rcases hlast with rfl | rfl
      · rfl
      · have hmem : c ∈ s.steps fd := by simp [hsteps]
        rcases List.mem_append.1 hmem with hmem | hmem
        · simp only [List.mem_cons, List.not_mem_nil, or_false] at hmem
          rcases hmem with rfl | rfl | rfl <;> rfl
        · obtain ⟨opt, -, rfl⟩ := List.mem_map.1 hmem
          cases opt <;> rfl
    rw [timesReady_append, Nat.le_zero.1 hpre, hlast]

/-- Over a life: what the set-up of the object says is in its descriptor, a UDP socket has the address of all
    interfaces until it is set up, and a unix socket sends to its peer. -/
structure Kept (l : Life) : Prop where
  ready : l.sock.base.isInit = true →
    l.sock.base.fd.isSome = true ∧ Ready (timesReady l.log) l.sock (view l.log)
  addr : ∀ s, l.sock = .ip s → s.cls.Addr (timesReady l.log) s.addr
  peer : ∀ s, l.sock = .unix s → s.peerAddr = setUnixAddr s.peer

theorem Kept.alike {l : Life} (h : Kept l) {s' : Sock} (halike : Alike l.sock s') {calls : List SysCall}
    (hview : view (l.log ++ calls) = view l.log) (htimes : timesReady calls = 0) :
    Kept ⟨s', l.log ++ calls⟩ := by
  have hlog : timesReady (l.log ++ calls) = timesReady l.log := by rw [timesReady_append, htimes, Nat.add_zero]
  obtain ⟨sock, log⟩ := l
  obtain ⟨hready, haddr, hpeer⟩ := h
  refine ⟨fun hinit => ?_, fun s hs => ?_, fun s hs => ?_⟩
  · rw [halike.base_eq] at hinit
    rw [hview, hlog, halike.base_eq]
    obtain ⟨hopen, hsame⟩ := hready hinit
    refine ⟨hopen, ?_⟩
    cases sock with
    | unix u =>
        cases s' with
        | unix u' =>
            rw [Ready, halike.2.1 hinit]
            exact hsame
        | _ => exact halike.elim
    | ip u =>
        cases s' with
        | ip u' => exact halike.2.1 hinit ▸ hsame
        | _ => exact halike.elim
    | raw u =>
        cases s' with
        | raw u' => exact halike.2 hinit ▸ hsame
        | _ => exact halike.elim
  · cases sock with
    | ip u =>
        cases hs
        rw [halike.2.2.1, halike.2.2.2, hlog]
        exact haddr u rfl
    | _ =>
        cases hs
        exact halike.elim
  · cases sock with
    | unix u =>
        cases hs
        exact halike.2.2 (hpeer u rfl)
    | _ =>
        cases hs
        exact halike.elim

/-- The object is not set up behind the calls. -/
theorem Kept.unready {l : Life} (h : Kept l) {b : SockBase} (hb : b.isInit = false) {calls : List SysCall}
    (htimes : ∀ s, l.sock = .ip s → timesReady calls = 0) : Kept ⟨l.sock.withBase b, l.log ++ calls⟩ := by
  obtain ⟨sock, log⟩ := l
  refine ⟨fun hinit => ?_, fun s hs => ?_, fun s hs => ?_⟩
  · rw [base_withBase, hb] at hinit
    cases hinit
  · cases sock with
    | ip u =>
        cases hs
        rw [timesReady_append, htimes u rfl, Nat.add_zero]
        exact h.addr u rfl
    | _ => cases hs
  · cases sock with
    | unix u =>
        cases hs
        exact h.peer u rfl
    | _ => cases hs

/-- The object is set up behind the calls. -/
theorem Kept.setUp {l : Life} (h : Kept l) (fd : Nat) :
    Kept ⟨l.sock.ready.withBase ⟨some fd, true⟩, l.log ++ ((l.sock.base.closeBase []).2 ++
      .socket l.sock.domain fd :: (l.sock.steps fd).map (· true))⟩ := by
  obtain ⟨sock, log⟩ := l
  have hview := view_steps sock (log ++ (sock.base.closeBase []).2) fd
  rw [List.append_assoc] at hview
  have htimes : ∀ u, sock = .ip u → timesReady (log ++ ((sock.base.closeBase []).2 ++
      .socket sock.domain fd :: (sock.steps fd).map (· true))) = timesReady log + 1 := by
    rintro u rfl
    rw [timesReady_append, timesReady_append, timesReady_closeBase]
    have hone : timesReady (.socket u.cls.domain fd :: (u.steps fd).map (· true)) = 1 := (u.timesReady_steps fd).1
    exact (congrArg (timesReady log + ·) (congrArg (0 + ·) hone)).trans rfl
  refine ⟨fun _ => ⟨by rw [base_withBase]; rfl, ?_⟩, fun s hs => ?_, fun s hs => ?_⟩
  · rw [hview]
    cases sock with
    | unix u => rfl
    | ip u =>
        refine ⟨u.sockAddr, ⟨u.addr, u.scopeId, ?_, rfl⟩, rfl⟩
        rw [htimes u rfl, Nat.add_sub_cancel]
        exact h.addr u rfl
    | raw u => rfl
  · cases sock with
    | ip u =>
        cases hs
        rw [htimes u rfl, IpClass.Addr, if_neg (Nat.succ_ne_zero _)]
        exact ⟨u, rfl, rfl⟩
    | _ => cases hs
  · cases sock with
    | unix u =>
        cases hs
        exact h.peer u rfl
    | _ => cases hs

theorem Effect.kept {l : Life} {s' : Sock} {calls : List SysCall} (h : Kept l)
    (heffect : Effect l.sock s' calls) : Kept ⟨s', l.log ++ calls⟩ := by
  cases heffect with
  | quiet halike => exact h.alike halike (by rw [List.append_nil]) rfl
  | transfer halike hinit => exact h.alike halike (view_transfer _ _) (timesReady_transfer _)
  | close =>
      exact h.unready rfl fun s hs => by rw [timesReady_closeBase, timesReady_closeChild]
  | init hsetup htest =>
      cases hsetup with
      | refused =>
          have hsame : ((if l.sock.base.isInit && !l.sock.base.isInit then l.sock.ready else l.sock).withBase
              l.sock.base : Sock) = l.sock := by
            rw [Bool.and_not_self, if_neg Bool.false_ne_true]
            cases l.sock <;> rfl
          rw [hsame, List.append_nil]
          exact h
      | noSocket hinit =>
          exact h.unready rfl fun s _ => timesReady_closeBase _ _
      | stopped hinit fd hcs hlast =>
          refine h.unready rfl fun s hs => ?_
          rw [timesReady_append, timesReady_closeBase]
          rw [hs] at hcs
          have hzero := (s.timesReady_steps fd).2 _ _ _ _ hcs hlast
          exact (Nat.zero_add _).trans hzero
      | done hinit fd =>
          have hdone : (true && !l.sock.base.isInit) = true := by rw [hinit]; rfl
          rw [if_pos hdone]
          exact h.setUp fd

theorem New.kept {s : Sock} (h : New s) : Kept ⟨s, []⟩ := by
  cases h with
  | unix => exact ⟨nofun, nofun, fun s hs => by cases hs; rfl⟩
  | ip cls => exact ⟨nofun, fun s hs => by cases hs; rfl, nofun⟩
  | raw => exact ⟨nofun, nofun, nofun⟩

theorem Lives.kept {cs : List Call} {l : Life} (h : Lives cs l) : Kept l :=
  h.invariant (I := Kept) (fun _ hs => hs.kept) fun _ _ _ hl heffect => heffect.kept hl

/-- **An object that says it is set up is**: over every life, whichever system calls failed, its descriptor is
    open and bound, and every option of its class is set in the order of the source and to the values that
    the object has now, since no call changes these while it is set up. A UDP socket is bound to the address
    of all interfaces only the first time; from the second time on it is bound to its multicast address. -/
theorem ready_of_isInit {cs : List Call} {l : Life} (h : Lives cs l) (hinit : l.sock.base.isInit = true) :
    l.sock.base.fd.isSome = true ∧ Ready (timesReady l.log) l.sock (view l.log) :=
  h.kept.ready hinit

/-- A unix socket that is set up. -/
def boundLife : Life where
  sock := .unix { me := [47, 97], fd := some 3, isInit := true }
  log := [.socket .unix 3, .bind 3 (.un (setUnixAddr [47, 97])) true]

theorem boundLife_lives : Lives [.setSelfAddress [47, 97] false, .init ⟨some 3, fun _ => true⟩] boundLife :=
  ⟨.unix {}, .unix, rfl⟩

theorem descriptors_in_order_boundLife :
    Runs.run Handles.step [] (fdUses (boundLife.log ++ boundLife.sock.destroy)) = some [] :=
  (descriptors_in_order boundLife_lives).2.1

theorem files_left_boundLife :
    Runs.run Handles.step [] (fileUses (boundLife.log ++ boundLife.sock.destroy)) = some [[47, 97]] :=
  (files_left boundLife_lives).2

theorem ready_of_isInit_boundLife :
    view boundLife.log = some ⟨.unix, [], some (.un (setUnixAddr [47, 97]))⟩ :=
  (ready_of_isInit boundLife_lives rfl).2

end Sock

end PtpMgmt
