import PtpMgmt.ClkMgr.ChronyThread

set_option autoImplicit false

/-! # Runs of the thread of a chrony daemon

What the thread leaves open when it ends: the descriptors that an attempt to connect again writes over, and
nothing else. -/

namespace PtpMgmt.ClkMgr

/-! ## Descriptors -/

def fdUses (acts : List ChronyAct) : List (Handles.Use Nat) := acts.filterMap ChronyAct.fdUse

def sessionUses (acts : List ChronyAct) : List (Handles.Use Nat) := acts.filterMap ChronyAct.sessionUse

/-- The descriptor whose session failed, if that is the last thing that was done. -/
def pendingFd (acts : List ChronyAct) : Option Nat :=
  acts.getLast?.bind fun a => match a with
    | .initFailed fd => some fd
    | _ => none

/-- The descriptor that is written over when one act follows another: a socket is opened behind one whose
    session failed. -/
def lostAt : ChronyAct → ChronyAct → Option Nat
  | .initFailed fd, .openSocket _ => some fd
  | _, _ => none

/-- The descriptors that are written over, in their order. -/
def overwritten : List ChronyAct → List Nat
  | a :: b :: acts => (lostAt a b).toList ++ overwritten (b :: acts)
  | _ => []

/-- The system hands out no descriptor that is still open. -/
def FreshFds (acts : List ChronyAct) : Prop :=
  ∀ before behind fd held, acts = before ++ .openSocket (some fd) :: behind →
    Runs.run Handles.step [] (fdUses before) = some held → fd ∉ held

theorem FreshFds.of_append {acts acts' : List ChronyAct} (h : FreshFds (acts ++ acts')) : FreshFds acts := by
  intro before behind fd held hacts hrun
  refine h before (behind ++ acts') fd held ?_ hrun
  rw [hacts]
  simp

/-- A system that hands out every descriptor once hands out none that is still open. -/
theorem freshFds_of_once {acts : List ChronyAct}
    (h : ∀ fd, ((fdUses acts).map (Handles.Use.opens fd)).sum ≤ 1) : FreshFds acts := by
  intro before behind fd held hacts hrun hmem
  have hcount := Handles.run_count hrun fd
  have hpos := List.count_pos_iff.2 hmem
  have hall := h fd
  have huse : fdUses acts = fdUses before ++ .opened fd :: fdUses behind := by
    rw [hacts, fdUses, List.filterMap_append]
    rfl
  have hself : (Handles.Use.opened fd).opens fd = 1 := if_pos rfl
  rw [huse, List.map_append, List.sum_append, List.map_cons, List.sum_cons, hself] at hall
  have hnone : ([] : List Nat).count fd = 0 := rfl
  omega

theorem overwritten_append (acts : List ChronyAct) (b : ChronyAct) (behind : List ChronyAct) :
    overwritten (acts ++ b :: behind) =
      overwritten acts ++ (acts.getLast?.bind (lostAt · b)).toList ++ overwritten (b :: behind) := by
  induction acts with
  | nil => rfl
  | cons a acts ih =>
      match acts, ih with
      | [], _ => rfl
      | c :: acts, ih =>
          rw [List.getLast?_cons_cons, List.cons_append, List.cons_append, overwritten, ← List.cons_append, ih,
            overwritten]
          simp only [List.append_assoc]

/-- A socket is opened: the pending descriptor is written over. -/
theorem overwritten_open (acts : List ChronyAct) (ans : Option Nat) :
    overwritten (acts ++ [.openSocket ans]) = overwritten acts ++ (pendingFd acts).toList := by
  have hlost : (lostAt · (.openSocket ans)) = fun a => match a with
      | .initFailed fd => some fd
      | _ => none := by
    funext a
    cases a <;> rfl
  rw [overwritten_append, hlost]
  exact List.append_nil _

/-- No other act writes over one. -/
theorem overwritten_snoc {a : ChronyAct} (ha : ∀ ans, a ≠ .openSocket ans) (acts : List ChronyAct) :
    overwritten (acts ++ [a]) = overwritten acts := by
  have hnone : acts.getLast?.bind (lostAt · a) = none := by
    rw [Option.bind_eq_none_iff]
    intro b _
    cases a with
    | openSocket ans => exact absurd rfl (ha ans)
    | _ => cases b <;> rfl
  rw [overwritten_append, hnone]
  simp [overwritten]

theorem overwritten_more (acts : List ChronyAct) {more : List ChronyAct}
    (hmore : ∀ a ∈ more, ∀ ans, a ≠ .openSocket ans) : overwritten (acts ++ more) = overwritten acts := by
  induction more generalizing acts with
  | nil => rw [List.append_nil]
  | cons a more ih =>
      have hfirst := overwritten_snoc (hmore a (List.mem_cons_self ..)) acts
      have hrest := ih (acts ++ [a]) fun b hb => hmore b (List.mem_cons_of_mem _ hb)
      rw [← hfirst, ← hrest, List.append_assoc]
      rfl

namespace ChronyThread

/-- What the thread holds of the acts so far: its descriptor and its session, and the descriptors that were
    written over. -/
structure Holds (acts : List ChronyAct) (chronyFd session : Option Nat) : Prop where
  fds : Runs.run Handles.step [] (fdUses acts) = some (chronyFd.toList ++ (overwritten acts).reverse)
  sessions : Handles.Moves none (sessionUses acts) session

namespace Holds

variable {acts : List ChronyAct} {chronyFd session : Option Nat}

theorem nil : Holds [] none none := ⟨rfl, Handles.Moves.nil none⟩

/-- One more act that opens no socket. -/
theorem snoc {a : ChronyAct} {chronyFd' session' : Option Nat} (h : Holds acts chronyFd session)
    (ha : ∀ ans, a ≠ .openSocket ans)
    (hfd : ∀ held, Runs.run Handles.step (chronyFd.toList ++ held) a.fdUse.toList = some (chronyFd'.toList ++ held))
    (hsession : Handles.Moves session a.sessionUse.toList session') : Holds (acts ++ [a]) chronyFd' session' := by
  have hfds : fdUses (acts ++ [a]) = fdUses acts ++ a.fdUse.toList := by
    rw [fdUses, List.filterMap_append, List.filterMap_cons]
    cases a.fdUse <;> rfl
  have hsessions : sessionUses (acts ++ [a]) = sessionUses acts ++ a.sessionUse.toList := by
    rw [sessionUses, List.filterMap_append, List.filterMap_cons]
    cases a.sessionUse <;> rfl
  constructor
  · rw [hfds, Runs.run_append, h.fds, overwritten_snoc ha]
    exact hfd _
  · rw [hsessions]
    exact h.sessions.append hsession

/-- A socket is opened while the thread has no session. What it had for a descriptor is written over, if its
    session failed just before. -/
theorem opened (h : Holds acts chronyFd none) (hpending : pendingFd acts = chronyFd) (ans : Option Nat)
    (hfresh : FreshFds (acts ++ [.openSocket ans])) : Holds (acts ++ [.openSocket ans]) ans none := by
  have hheld : (overwritten (acts ++ [.openSocket ans])).reverse =
      chronyFd.toList ++ (overwritten acts).reverse := by
    rw [overwritten_open, hpending, List.reverse_append]
    cases chronyFd <;> rfl
  constructor
  · rw [hheld, fdUses, List.filterMap_append, Runs.run_append,
      show acts.filterMap ChronyAct.fdUse = fdUses acts from rfl, h.fds]
    cases ans with
    | none => rfl
    | some fd =>
        have hnot := hfresh acts [] fd _ rfl h.fds
        simp only [List.filterMap_cons, ChronyAct.fdUse, Option.map_some, List.filterMap_nil, Option.bind_some,
          Runs.run, Handles.step, if_neg hnot]
        rfl
  · rw [sessionUses, List.filterMap_append]
    exact h.sessions.append (Handles.Moves.nil none)

theorem told (h : Holds acts chronyFd session) (event : ChronyEvent) :
    Holds (acts ++ [.told event]) chronyFd session :=
  h.snoc nofun (fun _ => rfl) (Handles.Moves.nil session)

/-- What is done with the descriptor leaves it open. -/
theorem used {a : ChronyAct} {fd : Nat} {session' : Option Nat} (h : Holds acts (some fd) session)
    (ha : a.fdUse = some (.used fd)) (hsession : Handles.Moves session a.sessionUse.toList session') :
    Holds (acts ++ [a]) (some fd) session' := by
  refine h.snoc ?_ ?_ hsession
  · rintro ans rfl
    cases ans <;> cases ha
  · intro held
    rw [ha]
    simp [Runs.run, Handles.step]

theorem closeSocket {fd : Nat} (h : Holds acts (some fd) session) : Holds (acts ++ [.closeSocket fd]) none session := by
  refine h.snoc nofun (fun held => ?_) (Handles.Moves.nil session)
  simp [ChronyAct.fdUse, Runs.run, Handles.step]

theorem deinitSession {fd : Nat} (h : Holds acts chronyFd (some fd)) :
    Holds (acts ++ [.deinitSession fd]) chronyFd none :=
  h.snoc nofun (fun _ => rfl) (Handles.Moves.closed fd)

end Holds

section Steps

variable {t t' : ChronyThread}

/-- What the thread has between two checks of the flag. -/
structure Kept (t : ChronyThread) : Prop where
  holds : Holds t.acts t.chronyFd t.session
  session : ∀ fd, t.session = some fd → t.chronyFd = some fd
  /-- In front of an attempt to connect it has no session, and a descriptor only if its session failed. -/
  attempt : t.pc = .start ∨ t.pc = .reconnect → t.session = none ∧ pendingFd t.acts = t.chronyFd

theorem kept_init : Kept init := ⟨Holds.nil, nofun, fun _ => ⟨rfl, rfl⟩⟩

/-- `close` closes the descriptor, then it gives up the session. -/
theorem Kept.closed (h : Kept t) : Holds t.close.acts none none := by
  have hfd : Holds (t.acts ++ (t.chronyFd.map ChronyAct.closeSocket).toList) none t.session := by
    have hholds := h.holds
    cases hfd : t.chronyFd with
    | none =>
        rw [hfd] at hholds
        simpa using hholds
    | some fd =>
        rw [hfd] at hholds
        exact hholds.closeSocket
  have hacts : t.close.acts =
      t.acts ++ (t.chronyFd.map ChronyAct.closeSocket).toList ++ (t.session.map ChronyAct.deinitSession).toList :=
    (List.append_assoc ..).symm
  rw [hacts]
  cases hsession : t.session with
  | none =>
      rw [hsession] at hfd
      simpa using hfd
  | some fd =>
      rw [hsession] at hfd
      exact hfd.deinitSession

/-- `close` opens nothing. -/
theorem overwritten_closed (t : ChronyThread) : overwritten t.close.acts = overwritten t.acts := by
  refine overwritten_more t.acts fun a ha ans => ?_
  rintro rfl
  simp [closeActs] at ha

/-- An attempt to connect: what it has and what it did last. -/
theorem Kept.connect (h : Kept t) (hpc : t.pc = .start ∨ t.pc = .reconnect) (ans : Option Nat) (ok : Bool)
    (hfresh : FreshFds (t.connect ans ok).acts) :
    Holds (t.connect ans ok).acts (t.connect ans ok).chronyFd (t.connect ans ok).session ∧
    (∀ fd, (t.connect ans ok).session = some fd → (t.connect ans ok).chronyFd = some fd) ∧
    ((t.connect ans ok).session = none → pendingFd (t.connect ans ok).acts = (t.connect ans ok).chronyFd) := by
  obtain ⟨hnone, hpending⟩ := h.attempt hpc
  have hholds := h.holds
  rw [hnone] at hholds
  cases ans with
  | none =>
      refine ⟨?_, fun fd hfd => ?_, fun _ => ?_⟩
      · simpa [ChronyThread.connect, act, hnone] using hholds.opened hpending none hfresh
      · simp [ChronyThread.connect, act, hnone] at hfd
      · simp [ChronyThread.connect, act, pendingFd]
  | some fd =>
      have hopened := hholds.opened hpending (some fd) (by
        cases ok <;> exact hfresh.of_append)
      cases ok with
      | true =>
          refine ⟨hopened.used rfl (Handles.Moves.opened fd), fun x hx => ?_, fun hx => ?_⟩
          · simpa [ChronyThread.connect, act] using hx
          · simp [ChronyThread.connect, act] at hx
      | false =>
          refine ⟨?_, fun x hx => ?_, fun _ => ?_⟩
          · have hused := hopened.used (a := .initFailed fd) rfl (Handles.Moves.nil none)
            simpa [ChronyThread.connect, act, hnone] using hused
          · simp [ChronyThread.connect, act, hnone] at hx
          · simp [ChronyThread.connect, act, pendingFd]

/-- A subscription that failed leaves nothing open. -/
theorem Kept.fail (h : Kept t) (stop : Bool) : Kept (t.fail stop) := by
  have hclosed := h.closed
  cases stop with
  | true => exact ⟨hclosed, nofun, fun hpc => by rcases hpc with hpc | hpc <;> cases hpc⟩
  | false =>
      have hpending : pendingFd (t.fail false).acts = none := by
        simp [ChronyThread.fail, tell, act, close, pendingFd]
      exact ⟨hclosed.told _, nofun, fun _ => ⟨rfl, hpending⟩⟩

theorem Kept.subscribe (h : Kept t) (hpc : t.pc = .subscribe) (ans : Answer) (stop : Bool) :
    Kept (t.subscribe ans stop) := by
  cases hsession : t.session with
  | none =>
      have hfail : t.subscribe ans stop = t.fail stop := by simp [ChronyThread.subscribe, hsession]
      rw [hfail]
      exact h.fail stop
  | some fd =>
      have hfd := h.session fd hsession
      have hasked : Kept (t.act [.request fd]) := by
        have hholds := h.holds
        rw [hfd, hsession] at hholds
        have hused : Holds (t.acts ++ [.request fd]) (some fd) (some fd) :=
          hholds.used rfl (Handles.Moves.used fd)
        refine ⟨?_, h.session, fun hat => ?_⟩
        · simpa [act, hfd, hsession] using hused
        · rcases hat with hat | hat <;> cases hpc.symm.trans hat
      have hnot : ∀ {pc : ChronyPc}, pc = .subscribe ∨ pc = .ended → ¬(pc = .start ∨ pc = .reconnect) := by
        rintro pc (rfl | rfl) (hpc | hpc) <;> cases hpc
      cases ans with
      | stopped event =>
          have heq : t.subscribe (.stopped event) stop = { t.act [.request fd] with event, pc := .ended } := by
            simp [ChronyThread.subscribe, hsession]
          rw [heq]
          exact ⟨hasked.holds, hasked.session, fun hat => absurd hat (hnot (.inr rfl))⟩
      | failed =>
          have heq : t.subscribe .failed stop = (t.act [.request fd]).fail stop := by
            simp [ChronyThread.subscribe, hsession]
          rw [heq]
          exact hasked.fail stop
      | record event =>
          have heq : t.subscribe (.record event) stop = ({ t.act [.request fd] with event } : ChronyThread).tell := by
            simp [ChronyThread.subscribe, hsession]
          rw [heq]
          exact ⟨hasked.holds.told event, hasked.session, fun hat => absurd hat (hnot (.inl hpc))⟩

theorem connect_pc (t : ChronyThread) (ans : Option Nat) (ok : Bool) : (t.connect ans ok).pc = t.pc := by
  cases ans with
  | none => rfl
  | some fd => cases ok <;> rfl

theorem connect_acts (t : ChronyThread) (ans : Option Nat) (ok : Bool) : t.acts <+: (t.connect ans ok).acts := by
  cases ans with
  | none => exact List.prefix_append ..
  | some fd =>
      cases ok <;> exact (List.prefix_append ..).trans (List.prefix_append ..)

theorem fail_acts (t : ChronyThread) (stop : Bool) : t.acts <+: (t.fail stop).acts := by
  cases stop with
  | true => exact List.prefix_append ..
  | false => exact (List.prefix_append ..).trans (List.prefix_append ..)

theorem subscribe_acts (t : ChronyThread) (ans : Answer) (stop : Bool) : t.acts <+: (t.subscribe ans stop).acts := by
  rw [ChronyThread.subscribe]
  split
  · exact t.fail_acts stop
  · next fd _ =>
      have hasked : t.acts <+: (t.act [.request fd]).acts := List.prefix_append ..
      cases ans with
      | stopped event => exact hasked
      | failed => exact hasked.trans ((t.act [.request fd]).fail_acts stop)
      | record event => exact hasked.trans (List.prefix_append ..)

/-- A step is the flag seen set, an attempt to connect, or a subscription. -/
theorem step_cases {i : Input} (h : step t i = some t') :
    t' = { t with pc := .ended } ∨
    (∃ ans ok, (t.pc = .start ∨ t.pc = .reconnect) ∧ ∃ pc, t' = { t.connect ans ok with pc } ∧
      (pc = .subscribe ∨ pc = .reconnect ∧ (t.connect ans ok).session = none)) ∨
    ∃ ans stop, t.pc = .subscribe ∧ t' = t.subscribe ans stop := by
  cases i with
  | stop =>
      simp only [step] at h
      split at h
      · cases h
      · exact .inl (Option.some.inj h).symm
  | connect ans ok =>
      simp only [step] at h
      split at h
      · next hpc => exact .inr (.inl ⟨ans, ok, .inl hpc, .subscribe, (Option.some.inj h).symm, .inl rfl⟩)
      · next hpc =>
          refine .inr (.inl ⟨ans, ok, .inr hpc, ?_⟩)
          split at h
          · exact ⟨.subscribe, (Option.some.inj h).symm, .inl rfl⟩
          · next hsession =>
              have hsame := (t.connect_pc ans ok).trans hpc
              refine ⟨.reconnect, ?_, .inr ⟨rfl, by simpa using hsession⟩⟩
              rw [← Option.some.inj h, ← hsame]
      · cases h
  | subscribe ans stop =>
      simp only [step] at h
      split at h
      · next hpc => exact .inr (.inr ⟨ans, stop, hpc, (Option.some.inj h).symm⟩)
      · cases h

/-- A step adds to what was done. -/
theorem step_acts {i : Input} (h : step t i = some t') : t.acts <+: t'.acts := by
  obtain rfl | ⟨ans, ok, -, pc, rfl, -⟩ | ⟨ans, stop, -, rfl⟩ := step_cases h
  · exact List.prefix_refl _
  · exact t.connect_acts ans ok
  · exact t.subscribe_acts ans stop

theorem Kept.step {i : Input} (h : Kept t) (hstep : step t i = some t') (hfresh : FreshFds t'.acts) : Kept t' := by
  obtain rfl | ⟨ans, ok, hpc, pc, rfl, hnext⟩ | ⟨ans, stop, hpc, rfl⟩ := step_cases hstep
  · exact ⟨h.holds, h.session, fun hat => by rcases hat with hat | hat <;> cases hat⟩
  · obtain ⟨hholds, hboth, hpending⟩ := h.connect hpc ans ok hfresh
    refine ⟨hholds, hboth, fun hat => ?_⟩
    obtain rfl | ⟨rfl, hnone⟩ := hnext
    · rcases hat with hat | hat <;> cases hat
    · exact ⟨hnone, hpending hnone⟩
  · exact h.subscribe hpc ans stop

/-- A life that connects, loses the daemon, and gets a socket without a session before it connects again. -/
def lostSession : List Input :=
  [.connect (some 4) true, .subscribe (.record ⟨1, 2, 3⟩) false, .subscribe .failed false, .connect (some 5) false,
    .connect (some 6) true, .subscribe (.record ⟨1, 2, 3⟩) false, .stop]

/-- **What the thread leaves open.** In every run, when the thread is closed behind it, its sessions are all
    given up, and of its descriptors exactly those stay open that an attempt to connect again wrote over: the
    socket was there but its session was not. -/
theorem descriptors_left {inputs : List Input} (hrun : Runs.run ChronyThread.step init inputs = some t)
    (hfresh : FreshFds t.acts) :
    Runs.run Handles.step [] (fdUses t.close.acts) = some (overwritten t.acts).reverse ∧
    Runs.run Handles.step [] (sessionUses t.close.acts) = some [] := by
  have hkept : FreshFds t.acts → Kept t := by
    refine Runs.run_history (I := fun _ t => FreshFds t.acts → Kept t) (fun _ => kept_init)
      (fun _ t i t' ih hone hfresh => ?_) hrun
    obtain ⟨more, hmore⟩ := step_acts hone
    have hbefore : FreshFds t.acts := by
      rw [← hmore] at hfresh
      exact hfresh.of_append
    exact (ih hbefore).step hone hfresh
  have hclosed := (hkept hfresh).closed
  have hsame : overwritten t.close.acts = overwritten t.acts := t.overwritten_closed
  refine ⟨?_, hclosed.sessions⟩
  rw [← hsame]
  exact hclosed.fds

/-- The descriptor whose session failed stays open. -/
theorem descriptors_left_lostSession :
    ∃ t, Runs.run ChronyThread.step init lostSession = some t ∧
      Runs.run Handles.step [] (fdUses t.close.acts) = some [5] ∧
      Runs.run Handles.step [] (sessionUses t.close.acts) = some [] := by
  refine ⟨_, rfl, @descriptors_left _ lostSession rfl (freshFds_of_once fun fd => ?_)⟩
  show ([.opened 4, .used 4, .used 4, .used 4, .closed 4, .opened 5, .used 5, .opened 6, .used 6, .used 6].map
    (Handles.Use.opens fd)).sum ≤ 1
  simp only [List.map_cons, List.map_nil, Handles.Use.opens, List.sum_cons, List.sum_nil]
  split_ifs <;> omega

end Steps

end ChronyThread

end PtpMgmt.ClkMgr
