import PtpMgmt.ClkMgr.Sessions

set_option autoImplicit false

/-! # What the sections of a call do to the tables of the proxy

One section makes a session, one subscribes it, and all the others only take from the tables. An invariant
of the tables is about these three, not about the places where a thread may stand. -/

namespace PtpMgmt.ClkMgr

namespace Clients

/-! ## What a thread is to do -/

/-- The thread removes the session from the time base, or has it in its list. -/
def Removes : ClientPc → Nat → SessionId → Prop
  | .notifying _ _ sessionIdToRemove, _, sid => sid ∈ sessionIdToRemove
  | .remove l, _, sid => sid ∈ l
  | .erase sessionId timeBases rest, idx, sid => sid = sessionId ∧ idx ∈ timeBases ∨ sid ∈ rest
  | _, _, _ => False

/-- The thread has a notification for the session. -/
def Notifies : ClientPc → SessionId → Prop
  | .notify _, _ => True
  | .notifying _ todo _, sid => sid ∈ todo
  | _, _ => False

/-- The thread is in the loop of `notifyClients`. -/
def Looping : ClientPc → Prop
  | .notifying _ _ _ => True
  | _ => False

/-- The places of a thread that notifies the clients of one time base. -/
def OfNotifier (timeBases : List Nat) (idx : Nat) : ClientPc → Prop
  | .idle => True
  | .notify timeBaseIndex => timeBaseIndex = idx ∧ idx ∈ timeBases
  | .notifying timeBaseIndex _ _ => timeBaseIndex = idx ∧ idx ∈ timeBases
  | .remove _ => True
  | .erase _ _ _ => True
  | _ => False

/-- The places of a thread in a call. -/
def OfCall (timeBases : List Nat) : ClientCall → ClientPc → Prop
  | _, .idle => True
  | .connect sessionId, .connect sid => sid = sessionId
  | .subscribe timeBaseIndex sessionId, .check idx sid =>
    idx = timeBaseIndex ∧ sid = sessionId ∧ idx ∈ timeBases
  | .subscribe timeBaseIndex sessionId, .insert idx sid =>
    idx = timeBaseIndex ∧ sid = sessionId ∧ idx ∈ timeBases
  | .removeClient _, .remove _ => True
  | .removeClient _, .erase _ _ _ => True
  | _, _ => False

/-! ## What a section does -/

/-- A section that makes no session and subscribes none: what it takes from the tables, and what it is to
    remove then. -/
structure Shrinks (timeBases : List Nat) (s s' : Clients) (t : Nat) : Prop where
  others : ∀ t', t' ≠ t → s'.pc t' = s.pc t'
  sub : ∀ idx, s'.subscribedClients idx ⊆ s.subscribedClients idx
  map : s'.sessionMap ⊆ s.sessionMap
  left : ∀ idx ∈ timeBases, ∀ sid ∈ s.sessionMap, sid ∈ s'.sessionMap ∨ Removes (s'.pc t) idx sid
  removes : ∀ idx ∈ timeBases, ∀ sid ∈ s'.subscribedClients idx, Removes (s.pc t) idx sid →
    Removes (s'.pc t) idx sid

/-- A new session. -/
structure Creates (s s' : Clients) (t : Nat) (cur : SessionId) : Prop where
  others : ∀ t', t' ≠ t → s'.pc t' = s.pc t'
  idle : s'.pc t = .idle
  sub : s'.subscribedClients = s.subscribedClients
  free : cur ∉ s.sessionMap
  map : s'.sessionMap = insert cur s.sessionMap
  reply : s'.reply t = some (.session cur)

/-- A session is subscribed. -/
structure Subscribes (s s' : Clients) (t idx : Nat) (sid : SessionId) : Prop where
  others : ∀ t', t' ≠ t → s'.pc t' = s.pc t'
  idle : s'.pc t = .idle
  sub : s'.subscribedClients =
    Function.update s.subscribedClients idx (insert sid (s.subscribedClients idx))
  map : s'.sessionMap = s.sessionMap

section

variable {timeBases : List Nat} {s s' : Clients} {t : Nat} {ok : Bool}

@[simp] theorem goto_pc_self (s : Clients) (t : Nat) (pc : ClientPc) : (s.goto t pc).pc t = pc := by
  simp only [goto, Function.update_self]

theorem goto_pc_of_ne (s : Clients) {t t' : Nat} (h : t' ≠ t) (pc : ClientPc) :
    (s.goto t pc).pc t' = s.pc t' := by
  simp only [goto, Function.update_of_ne h]

@[simp] theorem answer_pc_self (s : Clients) (t : Nat) (r : ClientReply) : (s.answer t r).pc t = .idle := by
  simp only [answer, Function.update_self]

theorem answer_pc_of_ne (s : Clients) {t t' : Nat} (h : t' ≠ t) (r : ClientReply) :
    (s.answer t r).pc t' = s.pc t' := by
  simp only [answer, Function.update_of_ne h]

@[simp] theorem answer_reply_self (s : Clients) (t : Nat) (r : ClientReply) :
    (s.answer t r).reply t = some r := by
  simp only [answer, Function.update_self]

/-- A section that goes on and leaves the tables as they are. -/
theorem Shrinks.of_goto {pc : ClientPc}
    (h : ∀ idx sid, Removes (s.pc t) idx sid → Removes pc idx sid) : Shrinks timeBases s (s.goto t pc) t where
  others _ ht := goto_pc_of_ne s ht pc
  sub _ := Finset.Subset.refl _
  map := Finset.Subset.refl _
  left _ _ _ hsid := .inl hsid
  removes idx _ sid _ hr := by
    rw [goto_pc_self]
    exact h idx sid hr

/-- A section at the end of a call that leaves the tables as they are. -/
theorem Shrinks.of_answer {r : ClientReply} (h : ∀ idx sid, ¬ Removes (s.pc t) idx sid) :
    Shrinks timeBases s (s.answer t r) t where
  others _ ht := answer_pc_of_ne s ht r
  sub _ := Finset.Subset.refl _
  map := Finset.Subset.refl _
  left _ _ _ hsid := .inl hsid
  removes idx _ sid _ hr := absurd hr (h idx sid)

theorem notMem_of_freeSession {m : Finset SessionId} {fuel : Nat} {x cur : SessionId}
    (h : freeSession m fuel x = some cur) : cur ∉ m := by
  induction fuel generalizing x with
  | zero => cases h
  | succ fuel ih =>
      rw [freeSession] at h
      split at h
      · exact ih h
      · next hfree =>
          cases h
          exact hfree

variable (timeBases) in
theorem connect_cases {sessionId : SessionId} (hpc : s.pc t = .connect sessionId)
    (h : s.connect t sessionId ok = some s') :
    (sessionId = invalidSessionId ∧ ∃ cur, Creates s s' t cur) ∨
      ∃ r, s'.reply t = some (.session r) ∧ (sessionId = invalidSessionId → r = invalidSessionId) ∧
        s'.pc t = .idle ∧ Shrinks timeBases s s' t := by
  have hnone : ∀ idx sid, ¬ Removes (s.pc t) idx sid := fun idx sid hr => by rw [hpc] at hr; exact hr
  rw [connect] at h
  split at h
  · next hvalid =>
      cases h
      exact .inr ⟨_, answer_reply_self s t _, fun heq => absurd heq hvalid, answer_pc_self s t _,
        .of_answer hnone⟩
  · next hinvalid =>
      obtain ⟨⟨cur, s₁⟩, hcreate, rfl⟩ := Option.map_eq_some_iff.1 h
      rw [createClientSession] at hcreate
      obtain ⟨free, hfree, heq⟩ := Option.map_eq_some_iff.1 hcreate
      split at heq
      · cases heq
        exact .inl ⟨not_not.1 hinvalid, cur,
          { others := fun t' ht => answer_pc_of_ne _ ht _
            idle := answer_pc_self _ t _
            sub := rfl
            free := notMem_of_freeSession hfree
            map := rfl
            reply := answer_reply_self _ t _ }⟩
      · cases heq
        refine .inr ⟨_, answer_reply_self _ t _, fun _ => rfl, answer_pc_self _ t _, ?_⟩
        have hs : Shrinks timeBases s (s.answer t (.session invalidSessionId)) t := .of_answer hnone
        exact ⟨hs.others, hs.sub, hs.map, hs.left, hs.removes⟩

theorem insertSub_cases {idx : Nat} {sid : SessionId} (h : s.insertSub t idx sid = some s') :
    Subscribes s s' t idx sid := by
  rw [insertSub] at h
  split at h
  · cases h
  · cases h
    exact
      { others := fun t' ht => answer_pc_of_ne _ ht _
        idle := answer_pc_self _ t _
        sub := rfl
        map := rfl }

theorem eraseSub_shrinks {sessionId : SessionId} {idx : Nat} {bases : List Nat} {rest : List SessionId}
    (hpc : s.pc t = .erase sessionId (idx :: bases) rest)
    (h : s.eraseSub t sessionId idx bases rest = some s') : Shrinks timeBases s s' t := by
  rw [eraseSub] at h
  split at h
  · cases h
  · cases h
    have hsub : ∀ idx', Function.update s.subscribedClients idx ((s.subscribedClients idx).erase sessionId) idx' ⊆
        s.subscribedClients idx' := by
      intro idx'
      by_cases hidx : idx' = idx
      · subst hidx
        rw [Function.update_self]
        exact Finset.erase_subset _ _
      · rw [Function.update_of_ne hidx]
    refine ⟨fun t' ht => goto_pc_of_ne _ ht _, hsub, Finset.Subset.refl _, fun _ _ _ hsid => .inl hsid,
      fun idx' _ sid hsid hr => ?_⟩
    rw [goto_pc_self]
    rw [hpc] at hr
    rcases hr with ⟨rfl, hmem⟩ | hr
    · rcases List.mem_cons.1 hmem with rfl | hmem
      · -- the session is not in the set that it was just erased from
        have hgone : sid ∈ Function.update s.subscribedClients idx'
            ((s.subscribedClients idx').erase sid) idx' := hsid
        rw [Function.update_self] at hgone
        exact absurd hgone (Finset.notMem_erase _ _)
      · exact .inl ⟨rfl, hmem⟩
    · exact .inr hr

theorem removeSession_shrinks {sessionId : SessionId} {rest : List SessionId}
    (hpc : s.pc t = .remove (sessionId :: rest)) :
    Shrinks timeBases s (removeSession timeBases s t sessionId rest) t := by
  refine ⟨fun t' ht => goto_pc_of_ne _ ht _, fun _ => Finset.Subset.refl _, Finset.erase_subset _ _,
    fun idx hidx sid hsid => ?_, fun idx hidx sid _ hr => ?_⟩
  · by_cases heq : sid = sessionId
    · right
      rw [removeSession, goto_pc_self]
      exact .inl ⟨heq, hidx⟩
    · exact .inl (Finset.mem_erase.2 ⟨heq, hsid⟩)
  · rw [removeSession, goto_pc_self]
    rw [hpc] at hr
    exact (List.mem_cons.1 hr).imp (fun heq => ⟨heq, hidx⟩) id

/-- What a section does: it makes a session, it subscribes one, or it adds nothing to the tables. -/
theorem advance_cases (h : s.advance timeBases t ok = some s') :
    (s.pc t = .connect invalidSessionId ∧ ∃ cur, Creates s s' t cur) ∨
      (∃ idx sid, s.pc t = .insert idx sid ∧ Subscribes s s' t idx sid) ∨ Shrinks timeBases s s' t := by
  rw [advance] at h
  split at h
  · cases h
  · next sessionId hpc =>
      rcases connect_cases timeBases hpc h with ⟨rfl, hnew⟩ | ⟨r, -, -, -, hshrinks⟩
      · exact .inl ⟨hpc, hnew⟩
      · exact .inr (.inr hshrinks)
  · next idx sid hpc =>
      cases h
      rw [check]
      split
      · exact .inr (.inr (.of_goto fun idx sid hr => by rw [hpc] at hr; exact hr))
      · exact .inr (.inr (.of_answer fun idx sid hr => by rw [hpc] at hr; exact hr))
  · next idx sid hpc => exact .inr (.inl ⟨idx, sid, hpc, insertSub_cases h⟩)
  · next idx hpc =>
      cases h
      rw [notify]
      split
      · have hs : Shrinks timeBases s (s.goto t (.notifying idx (s.subscribedClients idx).sort [])) t :=
          .of_goto fun idx sid hr => by rw [hpc] at hr; cases hr
        exact .inr (.inr ⟨hs.others, hs.sub, hs.map, hs.left, hs.removes⟩)
      · exact .inr (.inr (.of_answer fun idx sid hr => by rw [hpc] at hr; exact hr))
  · next hpc =>
      cases h
      rw [notifyOne]
      split
      · exact .inr (.inr (.of_goto fun idx sid hr => by rw [hpc] at hr; exact hr))
      · exact .inr (.inr (.of_goto fun idx sid hr => by
          rw [hpc] at hr
          exact List.mem_append_left _ hr))
  · next idx l hpc =>
      cases h
      have hs : Shrinks timeBases s (s.goto t (.remove l)) t :=
        .of_goto fun idx sid hr => by rw [hpc] at hr; exact hr
      exact .inr (.inr ⟨hs.others, hs.sub, hs.map, hs.left, hs.removes⟩)
  · next hpc =>
      cases h
      exact .inr (.inr (.of_answer fun idx sid hr => by rw [hpc] at hr; cases hr))
  · next hpc =>
      cases h
      exact .inr (.inr (removeSession_shrinks hpc))
  · next hpc =>
      cases h
      refine .inr (.inr (.of_goto fun idx sid hr => ?_))
      rw [hpc] at hr
      rcases hr with ⟨-, hmem⟩ | hr
      · cases hmem
      · exact hr
  · next hpc => exact .inr (.inr (eraseSub_shrinks hpc h))

theorem start_shrinks (hidle : s.pc t = .idle) (c : ClientCall) : Shrinks timeBases s (s.start timeBases t c) t := by
  have hnone : ∀ idx sid, ¬ Removes (s.pc t) idx sid := fun idx sid hr => by rw [hidle] at hr; exact hr
  cases c with
  | connect sessionId => exact .of_goto fun idx sid hr => absurd hr (hnone idx sid)
  | subscribe idx sid =>
      rw [start]
      split
      · exact .of_answer hnone
      · exact .of_goto fun idx sid hr => absurd hr (hnone idx sid)
  | notifyClients idx =>
      rw [start]
      split
      · exact .of_answer hnone
      · exact .of_goto fun idx sid hr => absurd hr (hnone idx sid)
  | removeClient sid => exact .of_goto fun idx sid hr => absurd hr (hnone idx sid)

/-! ## Subscriptions -/

/-- Only known time bases have subscriptions. -/
def Known (timeBases : List Nat) (s : Clients) : Prop :=
  ∀ idx, ∀ sid ∈ s.subscribedClients idx, idx ∈ timeBases

/-- Every subscription is that of a session, or is being removed, or is one that is still handled. -/
def Owned (handled : Nat → SessionId → Prop) (s : Clients) : Prop :=
  ∀ idx, ∀ sid ∈ s.subscribedClients idx,
    sid ∈ s.sessionMap ∨ (∃ t, Removes (s.pc t) idx sid) ∨ handled idx sid

/-- The session is subscribed, nothing removes it, and the thread has no notification for it. -/
structure Served (s : Clients) (t idx : Nat) (sid : SessionId) : Prop where
  sub : sid ∈ s.subscribedClients idx
  mem : sid ∈ s.sessionMap
  stays : ∀ t', ¬ Removes (s.pc t') idx sid
  told : ¬ Notifies (s.pc t) sid

theorem Shrinks.known (hs : Shrinks timeBases s s' t) (h : Known timeBases s) : Known timeBases s' :=
  fun idx sid hsid => h idx sid (hs.sub idx hsid)

theorem Shrinks.owned {handled : Nat → SessionId → Prop} (hs : Shrinks timeBases s s' t)
    (hknown : Known timeBases s) (h : Owned handled s) : Owned handled s' := by
  intro idx sid hsid
  have hold := hs.sub idx hsid
  have hbase := hknown idx sid hold
  rcases h idx sid hold with hmem | ⟨t', hr⟩ | hhandled
  · exact (hs.left idx hbase sid hmem).imp_right fun hr => .inl ⟨t, hr⟩
  · by_cases ht : t' = t
    · subst ht
      exact .inr (.inl ⟨t', hs.removes idx hbase sid hsid hr⟩)
    · exact .inr (.inl ⟨t', by rwa [hs.others t' ht]⟩)
  · exact .inr (.inr hhandled)

/-- What is served behind a section was served before, but for the notifications of its own thread. -/
theorem Shrinks.served {tw idx : Nat} {sid : SessionId} (hs : Shrinks timeBases s s' t)
    (hknown : Known timeBases s) (h : Served s' tw idx sid) (htold : ¬ Notifies (s.pc tw) sid) :
    Served s tw idx sid where
  sub := hs.sub idx h.sub
  mem := hs.map h.mem
  stays t' hr := by
    by_cases ht : t' = t
    · subst ht
      exact h.stays t' (hs.removes idx (hknown idx sid (hs.sub idx h.sub)) sid h.sub hr)
    · refine h.stays t' ?_
      rwa [hs.others t' ht]
  told := htold

theorem Creates.known {cur : SessionId} (hc : Creates s s' t cur) (h : Known timeBases s) :
    Known timeBases s' := by
  intro idx sid hsid
  rw [hc.sub] at hsid
  exact h idx sid hsid

theorem Creates.removes {cur : SessionId} (hc : Creates s s' t cur) (hpc : ∀ idx sid, ¬ Removes (s.pc t) idx sid)
    {t' idx : Nat} {sid : SessionId} : Removes (s'.pc t') idx sid ↔ Removes (s.pc t') idx sid := by
  by_cases ht : t' = t
  · subst ht
    rw [hc.idle]
    exact iff_of_false id (hpc idx sid)
  · rw [hc.others t' ht]

theorem Creates.owned {handled : Nat → SessionId → Prop} {cur : SessionId} (hc : Creates s s' t cur)
    (hpc : ∀ idx sid, ¬ Removes (s.pc t) idx sid) (h : Owned handled s) : Owned handled s' := by
  intro idx sid hsid
  rw [hc.sub] at hsid
  rcases h idx sid hsid with hmem | ⟨t', hr⟩ | hhandled
  · rw [hc.map]
    exact .inl (Finset.mem_insert_of_mem hmem)
  · exact .inr (.inl ⟨t', (hc.removes hpc).2 hr⟩)
  · exact .inr (.inr hhandled)

/-- A new session is not served: it is subscribed only where it is being removed or handled. -/
theorem Creates.served {handled : Nat → SessionId → Prop} {tw idx : Nat} {cur sid : SessionId}
    (hc : Creates s s' t cur) (hpc : ∀ idx sid, ¬ Removes (s.pc t) idx sid) (howned : Owned handled s)
    (hhandled : ¬ handled idx sid) (htw : tw ≠ t) (h : Served s' tw idx sid) :
    sid ≠ cur ∧ Served s tw idx sid := by
  have hsub : sid ∈ s.subscribedClients idx := by
    rw [← hc.sub]
    exact h.sub
  have hstays : ∀ t', ¬ Removes (s.pc t') idx sid := fun t' hr => h.stays t' ((hc.removes hpc).2 hr)
  have hmem : sid ∈ s.sessionMap := by
    rcases howned idx sid hsub with hmem | ⟨t', hr⟩ | hin
    · exact hmem
    · exact absurd hr (hstays t')
    · exact absurd hin hhandled
  refine ⟨fun heq => hc.free (heq ▸ hmem), hsub, hmem, hstays, ?_⟩
  rw [← hc.others tw htw]
  exact h.told

theorem Subscribes.mem_sub {idx idx' : Nat} {sid sid' : SessionId} (hs : Subscribes s s' t idx sid) :
    sid' ∈ s'.subscribedClients idx' ↔ idx' = idx ∧ sid' = sid ∨ sid' ∈ s.subscribedClients idx' := by
  rw [hs.sub]
  by_cases hidx : idx' = idx
  · subst hidx
    rw [Function.update_self, Finset.mem_insert]
    simp
  · rw [Function.update_of_ne hidx]
    simp [hidx]

theorem Subscribes.removes {idx idx' t' : Nat} {sid sid' : SessionId} (hs : Subscribes s s' t idx sid)
    (hpc : ∀ idx sid, ¬ Removes (s.pc t) idx sid) : Removes (s'.pc t') idx' sid' ↔ Removes (s.pc t') idx' sid' := by
  by_cases ht : t' = t
  · subst ht
    rw [hs.idle]
    exact iff_of_false id (hpc idx' sid')
  · rw [hs.others t' ht]

theorem Subscribes.known {idx : Nat} {sid : SessionId} (hs : Subscribes s s' t idx sid)
    (hidx : idx ∈ timeBases) (h : Known timeBases s) : Known timeBases s' := by
  intro idx' sid' hsid
  rcases hs.mem_sub.1 hsid with ⟨rfl, -⟩ | hsid
  · exact hidx
  · exact h idx' sid' hsid

theorem Subscribes.owned {handled : Nat → SessionId → Prop} {idx : Nat} {sid : SessionId}
    (hs : Subscribes s s' t idx sid) (hpc : ∀ idx sid, ¬ Removes (s.pc t) idx sid) (hin : handled idx sid)
    (h : Owned handled s) : Owned handled s' := by
  intro idx' sid' hsid
  rcases hs.mem_sub.1 hsid with ⟨rfl, rfl⟩ | hsid
  · exact .inr (.inr hin)
  · rw [hs.map]
    rcases h idx' sid' hsid with hmem | ⟨t', hr⟩ | hhandled
    · exact .inl hmem
    · exact .inr (.inl ⟨t', (hs.removes hpc).2 hr⟩)
    · exact .inr (.inr hhandled)

theorem Subscribes.served {handled : Nat → SessionId → Prop} {tw idx idx' : Nat} {sid sid' : SessionId}
    (hs : Subscribes s s' t idx sid) (hpc : ∀ idx sid, ¬ Removes (s.pc t) idx sid) (hin : handled idx sid)
    (hhandled : ¬ handled idx' sid') (htw : tw ≠ t) (h : Served s' tw idx' sid') : Served s tw idx' sid' where
  sub := by
    rcases hs.mem_sub.1 h.sub with ⟨rfl, rfl⟩ | hsub
    · exact absurd hin hhandled
    · exact hsub
  mem := by
    rw [← hs.map]
    exact h.mem
  stays t' hr := h.stays t' ((hs.removes hpc).2 hr)
  told := by
    rw [← hs.others tw htw]
    exact h.told

/-! ## Where a thread goes on -/

theorem start_ofCall {c : ClientCall} (hc : ∀ idx, c ≠ .notifyClients idx) :
    OfCall timeBases c ((s.start timeBases t c).pc t) := by
  cases c with
  | connect sessionId =>
      rw [start, goto_pc_self]
      rfl
  | subscribe idx sid =>
      rw [start]
      split
      · rw [answer_pc_self]
        trivial
      · next hbase =>
          rw [goto_pc_self]
          exact ⟨rfl, rfl, not_not.1 (not_or.1 hbase).2⟩
  | notifyClients idx => exact absurd rfl (hc idx)
  | removeClient sid =>
      rw [start, goto_pc_self]
      trivial

/-- A section of a call leads to another one of the same call, or to its end. -/
theorem advance_ofCall {c : ClientCall} (hpc : OfCall timeBases c (s.pc t))
    (h : s.advance timeBases t ok = some s') : OfCall timeBases c (s'.pc t) := by
  have hidle : OfCall timeBases c .idle := by cases c <;> trivial
  rw [advance] at h
  split at h
  · cases h
  · next sessionId hat =>
      rcases connect_cases timeBases hat h with ⟨-, cur, hnew⟩ | ⟨r, -, -, hback, -⟩
      · rw [hnew.idle]
        exact hidle
      · rw [hback]
        exact hidle
  · next idx sid hat =>
      cases h
      rw [hat] at hpc
      rw [check]
      split
      · rw [goto_pc_self]
        cases c <;> exact hpc
      · rw [answer_pc_self]
        exact hidle
  · next idx sid hat =>
      rw [(insertSub_cases h).idle]
      exact hidle
  · next hat =>
      rw [hat] at hpc
      cases c <;> exact hpc.elim
  · next hat =>
      rw [hat] at hpc
      cases c <;> exact hpc.elim
  · next hat =>
      rw [hat] at hpc
      cases c <;> exact hpc.elim
  · next hat =>
      cases h
      rw [answer_pc_self]
      exact hidle
  · next hat =>
      cases h
      rw [hat] at hpc
      rw [removeSession, goto_pc_self]
      cases c <;> exact hpc
  · next hat =>
      cases h
      rw [hat] at hpc
      rw [goto_pc_self]
      cases c <;> exact hpc
  · next hat =>
      rw [eraseSub] at h
      split at h
      · cases h
      · cases h
        rw [hat] at hpc
        rw [goto_pc_self]
        cases c <;> exact hpc

/-- A thread that notifies goes through the loop, and then removes the sessions that it found gone. -/
theorem advance_ofNotifier {idx : Nat} (hpc : OfNotifier timeBases idx (s.pc t))
    (h : s.advance timeBases t ok = some s') : OfNotifier timeBases idx (s'.pc t) := by
  rw [advance] at h
  split at h
  · cases h
  · next hat =>
      rw [hat] at hpc
      exact hpc.elim
  · next hat =>
      rw [hat] at hpc
      exact hpc.elim
  · next hat =>
      rw [hat] at hpc
      exact hpc.elim
  · next hat =>
      cases h
      rw [hat] at hpc
      rw [notify]
      split
      · rw [goto_pc_self]
        exact hpc
      · rw [answer_pc_self]
        trivial
  · next hat =>
      cases h
      rw [hat] at hpc
      rw [notifyOne]
      split <;> rw [goto_pc_self] <;> exact hpc
  · next hat =>
      cases h
      rw [notified, goto_pc_self]
      trivial
  · next hat =>
      cases h
      rw [answer_pc_self]
      trivial
  · next hat =>
      cases h
      rw [removeSession, goto_pc_self]
      trivial
  · next hat =>
      cases h
      rw [goto_pc_self]
      trivial
  · next hat =>
      rw [eraseSub] at h
      split at h
      · cases h
      · cases h
        rw [goto_pc_self]
        trivial

/-- Only a thread that has a notification comes to the loop, or stays in it. -/
theorem advance_not_notifies (hnone : ∀ sid, ¬ Notifies (s.pc t) sid)
    (h : s.advance timeBases t ok = some s') :
    ¬ Looping (s'.pc t) ∧ ∀ sid, ¬ Notifies (s'.pc t) sid := by
  rw [advance] at h
  split at h
  · cases h
  · next hat =>
      rcases connect_cases timeBases hat h with ⟨-, cur, hnew⟩ | ⟨r, -, -, hback, -⟩
      · rw [hnew.idle]
        exact ⟨id, fun _ => id⟩
      · rw [hback]
        exact ⟨id, fun _ => id⟩
  · cases h
    rw [check]
    split
    · rw [goto_pc_self]
      exact ⟨id, fun _ => id⟩
    · rw [answer_pc_self]
      exact ⟨id, fun _ => id⟩
  · rw [(insertSub_cases h).idle]
    exact ⟨id, fun _ => id⟩
  · next hat =>
      rw [hat] at hnone
      exact absurd trivial (hnone invalidSessionId)
  · next sid todo l hat =>
      rw [hat] at hnone
      exact absurd List.mem_cons_self (hnone sid)
  · cases h
    rw [notified, goto_pc_self]
    exact ⟨id, fun _ => id⟩
  · cases h
    rw [answer_pc_self]
    exact ⟨id, fun _ => id⟩
  · cases h
    rw [removeSession, goto_pc_self]
    exact ⟨id, fun _ => id⟩
  · cases h
    rw [goto_pc_self]
    exact ⟨id, fun _ => id⟩
  · rw [eraseSub] at h
    split at h
    · cases h
    · cases h
      rw [goto_pc_self]
      exact ⟨id, fun _ => id⟩

end

end Clients

end PtpMgmt.ClkMgr
