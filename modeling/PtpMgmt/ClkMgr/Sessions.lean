import Mathlib.Data.Finset.Sort
import Mathlib.Data.UInt
import PtpMgmt.Wire.Octets

set_option autoImplicit false

/-! # The sessions of the proxy and their subscriptions (`proxy/client.cpp`)

The proxy keeps the sessions in one table, under a mutex, and the subscriptions of every time base in a
table of its own, under a shared mutex of its own. A call runs through sections that each hold one lock, and
the sections of concurrent calls interleave. Here every section is one step of a thread; a
`notifyClients` holds its lock shared over many steps, and takes the other mutex in between.

The time bases are those of the configuration, and all of them are there. `Client::init` starts the listener
before `connect_ptp4l` makes them, so that a call that comes this early finds fewer; this is not modelled. What
a transmitter does is not modelled either: whether it opens and whether it sends is left open at each step. -/

namespace PtpMgmt.ClkMgr

/-! ## Tables and calls -/

abbrev SessionId := UInt16

def invalidSessionId : SessionId := 0xffff

def validMaskSessionId : SessionId := 0x7fff

/-- What a thread of the proxy calls. -/
inductive ClientCall
  | connect (sessionId : SessionId)
  | subscribe (timeBaseIndex : Nat) (sessionId : SessionId)
  | notifyClients (timeBaseIndex : Nat)
  | removeClient (sessionId : SessionId)
deriving DecidableEq

/-- Where a thread is: in front of a section, or in the loop of `notifyClients`, which holds the shared
    lock. Sessions to remove stand behind the one that is being removed. -/
inductive ClientPc
  | idle
  | connect (sessionId : SessionId)
  | check (timeBaseIndex : Nat) (sessionId : SessionId)
  | insert (timeBaseIndex : Nat) (sessionId : SessionId)
  | notify (timeBaseIndex : Nat)
  | notifying (timeBaseIndex : Nat) (todo sessionIdToRemove : List SessionId)
  | remove (sessionIdToRemove : List SessionId)
  | erase (sessionId : SessionId) (timeBases : List Nat) (sessionIdToRemove : List SessionId)
deriving DecidableEq

/-- What the last call of a thread answered. -/
inductive ClientReply
  | session (sessionId : SessionId)
  | subscribed (ok : Bool)
  | done
deriving DecidableEq

/-- The tables, the holders of each shared lock, and the threads. -/
structure Clients where
  sessionMap : Finset SessionId
  nextSession : SessionId
  subscribedClients : Nat → Finset SessionId
  readers : Nat → Nat
  pc : Nat → ClientPc
  reply : Nat → Option ClientReply

namespace Clients

def init : Clients where
  sessionMap := ∅
  nextSession := 0
  subscribedClients _ := ∅
  readers _ := 0
  pc _ := .idle
  reply _ := none

def goto (s : Clients) (t : Nat) (pc : ClientPc) : Clients :=
  { s with pc := Function.update s.pc t pc }

/-- The call of the thread is done. -/
def answer (s : Clients) (t : Nat) (r : ClientReply) : Clients :=
  { s with pc := Function.update s.pc t .idle, reply := Function.update s.reply t (some r) }

def setSubscribed (s : Clients) (timeBaseIndex : Nat) (l : Finset SessionId) : Clients :=
  { s with subscribedClients := Function.update s.subscribedClients timeBaseIndex l }

/-! ## Sections -/

/-- The next value of `nextSession`. -/
def bump (nextSession : SessionId) : SessionId := (nextSession + 1) &&& validMaskSessionId

/-- The loop that looks for a session that is free. It does not end when all of them are taken. -/
def freeSession (sessionMap : Finset SessionId) : Nat → SessionId → Option SessionId
  | 0, _ => none
  | fuel + 1, nextSession =>
    if nextSession ∈ sessionMap then freeSession sessionMap fuel (bump nextSession) else some nextSession

/-- `CreateClientSession`, under the lock of the sessions. Without a transmitter there is no session. -/
def createClientSession (s : Clients) (opens : Bool) : Option (SessionId × Clients) :=
  (freeSession s.sessionMap 0x8000 s.nextSession).map fun cur =>
    if opens then
      (cur, { s with sessionMap := insert cur s.sessionMap, nextSession := bump cur })
    else (invalidSessionId, { s with nextSession := cur })

/-- `connect`: one section. -/
def connect (s : Clients) (t : Nat) (sessionId : SessionId) (opens : Bool) : Option Clients :=
  if sessionId ≠ invalidSessionId then
    some (s.answer t (.session (if sessionId ∈ s.sessionMap then sessionId else invalidSessionId)))
  else (s.createClientSession opens).map fun (cur, s) => s.answer t (.session cur)

/-- The first section of `subscribe` looks for the session. -/
def check (s : Clients) (t timeBaseIndex : Nat) (sessionId : SessionId) : Clients :=
  if sessionId ∈ s.sessionMap then s.goto t (.insert timeBaseIndex sessionId)
  else s.answer t (.subscribed false)

/-- The second one subscribes it, under the lock of the time base. -/
def insertSub (s : Clients) (t timeBaseIndex : Nat) (sessionId : SessionId) : Option Clients :=
  if s.readers timeBaseIndex ≠ 0 then none
  else some ((s.setSubscribed timeBaseIndex
    (insert sessionId (s.subscribedClients timeBaseIndex))).answer t (.subscribed true))

/-- `notifyClients` makes its message and takes the lock of the time base, shared. -/
def notify (s : Clients) (t timeBaseIndex : Nat) (makes : Bool) : Clients :=
  if makes then
    { s with readers := Function.update s.readers timeBaseIndex (s.readers timeBaseIndex + 1) }.goto t
      (.notifying timeBaseIndex ((s.subscribedClients timeBaseIndex).sort) [])
  else s.answer t .done

/-- One client of the loop: a session without a transmitter, or one that does not send, is to be
    removed. -/
def notifyOne (s : Clients) (t timeBaseIndex : Nat) (sessionId : SessionId)
    (todo sessionIdToRemove : List SessionId) (sends : Bool) : Clients :=
  if sessionId ∈ s.sessionMap ∧ sessionId ≠ invalidSessionId ∧ sends = true then
    s.goto t (.notifying timeBaseIndex todo sessionIdToRemove)
  else s.goto t (.notifying timeBaseIndex todo (sessionIdToRemove ++ [sessionId]))

/-- The end of the loop lets the shared lock go. -/
def notified (s : Clients) (t timeBaseIndex : Nat) (sessionIdToRemove : List SessionId) : Clients :=
  { s with readers := Function.update s.readers timeBaseIndex (s.readers timeBaseIndex - 1) }.goto t
    (.remove sessionIdToRemove)

/-- The first section of `removeClient`. -/
def removeSession (timeBases : List Nat) (s : Clients) (t : Nat) (sessionId : SessionId)
    (sessionIdToRemove : List SessionId) : Clients :=
  { s with sessionMap := s.sessionMap.erase sessionId }.goto t
    (.erase sessionId timeBases sessionIdToRemove)

/-- The section of `removeClient` for one time base. -/
def eraseSub (s : Clients) (t : Nat) (sessionId : SessionId) (timeBaseIndex : Nat) (timeBases : List Nat)
    (sessionIdToRemove : List SessionId) : Option Clients :=
  if s.readers timeBaseIndex ≠ 0 then none
  else some ((s.setSubscribed timeBaseIndex ((s.subscribedClients timeBaseIndex).erase sessionId)).goto t
    (.erase sessionId timeBases sessionIdToRemove))

/-! ## Steps -/

/-- A thread calls a function, or goes through its next section. What the transmitter does there, if it is
    used, comes from outside. -/
inductive Event
  | call (t : Nat) (c : ClientCall)
  | go (t : Nat) (ok : Bool)
deriving DecidableEq

/-- The first test of a call, without a lock. -/
def start (timeBases : List Nat) (s : Clients) (t : Nat) : ClientCall → Clients
  | .connect sessionId => s.goto t (.connect sessionId)
  | .subscribe timeBaseIndex sessionId =>
    if sessionId = invalidSessionId ∨ timeBaseIndex ∉ timeBases then s.answer t (.subscribed false)
    else s.goto t (.check timeBaseIndex sessionId)
  | .notifyClients timeBaseIndex =>
    if timeBaseIndex ∉ timeBases then s.answer t .done else s.goto t (.notify timeBaseIndex)
  | .removeClient sessionId => s.goto t (.remove [sessionId])

/-- The next section of a thread. A section whose lock is held does not start. -/
def advance (timeBases : List Nat) (s : Clients) (t : Nat) (ok : Bool) : Option Clients :=
  match s.pc t with
  | .idle => none
  | .connect sessionId => s.connect t sessionId ok
  | .check timeBaseIndex sessionId => some (s.check t timeBaseIndex sessionId)
  | .insert timeBaseIndex sessionId => s.insertSub t timeBaseIndex sessionId
  | .notify timeBaseIndex => some (s.notify t timeBaseIndex ok)
  | .notifying timeBaseIndex (sessionId :: todo) sessionIdToRemove =>
    some (s.notifyOne t timeBaseIndex sessionId todo sessionIdToRemove ok)
  | .notifying timeBaseIndex [] sessionIdToRemove => some (s.notified t timeBaseIndex sessionIdToRemove)
  | .remove [] => some (s.answer t .done)
  | .remove (sessionId :: rest) => some (s.removeSession timeBases t sessionId rest)
  | .erase _ [] rest => some (s.goto t (.remove rest))
  | .erase sessionId (timeBaseIndex :: bases) rest => s.eraseSub t sessionId timeBaseIndex bases rest

def step (timeBases : List Nat) (s : Clients) : Event → Option Clients
  | .call t c => if s.pc t = .idle then some (s.start timeBases t c) else none
  | .go t ok => s.advance timeBases t ok

/-- One event after the other, as long as each can happen. -/
def run (timeBases : List Nat) (s : Clients) : List Event → Option Clients
  | [] => some s
  | e :: es => (s.step timeBases e).bind fun s => run timeBases s es

/-! ## What is kept -/

/-- The thread is to remove the session from the time base: it removes it, or it goes over a list with
    it. -/
def Covers : ClientPc → Nat → SessionId → Prop
  | .notifying _ todo sessionIdToRemove, _, sid => sid ∈ todo ∨ sid ∈ sessionIdToRemove
  | .remove l, _, sid => sid ∈ l
  | .erase sessionId timeBases rest, idx, sid => sid = sessionId ∧ idx ∈ timeBases ∨ sid ∈ rest
  | _, _, _ => False

/-- A removal of the session from the time base is on its way. -/
def Removing (s : Clients) (idx : Nat) (sid : SessionId) : Prop := ∃ t, Covers (s.pc t) idx sid

/-- No call is in progress. -/
def Quiet (s : Clients) : Prop := ∀ t, s.pc t = .idle

/-- Every session that is subscribed is in the table of the sessions. -/
def Consistent (s : Clients) : Prop := ∀ idx, ∀ sid ∈ s.subscribedClients idx, sid ∈ s.sessionMap

/-- A section that subscribes a session finds it in the table of the sessions, or a removal of it is on its
    way. -/
def Guarded (s : Clients) : Event → Prop
  | .call _ _ => True
  | .go t _ => ∀ idx sid, s.pc t = .insert idx sid → sid ∈ s.sessionMap ∨ s.Removing idx sid

/-- Every step of the run is guarded. -/
def GuardedRun (timeBases : List Nat) (s : Clients) : List Event → Prop
  | [] => True
  | e :: es => s.Guarded e ∧ ∀ s', s.step timeBases e = some s' → GuardedRun timeBases s' es

theorem GuardedRun.cons {timeBases : List Nat} {s s' : Clients} {e : Event} {es : List Event}
    (hguard : s.Guarded e) (hstep : s.step timeBases e = some s') (hrest : s'.GuardedRun timeBases es) :
    s.GuardedRun timeBases (e :: es) := by
  refine ⟨hguard, fun s₁ hstep' => ?_⟩
  rw [hstep] at hstep'
  cases hstep'
  exact hrest

/-- The subscriptions are those of sessions, up to the removals that are on their way. -/
structure Kept (timeBases : List Nat) (s : Clients) : Prop where
  known : ∀ idx, ∀ sid ∈ s.subscribedClients idx, idx ∈ timeBases
  check : ∀ t idx sid, s.pc t = .check idx sid → idx ∈ timeBases
  insert : ∀ t idx sid, s.pc t = .insert idx sid → idx ∈ timeBases
  sub : ∀ idx, ∀ sid ∈ s.subscribedClients idx, sid ∈ s.sessionMap ∨ s.Removing idx sid

section Kept

variable {timeBases : List Nat} {s s' : Clients} {t : Nat} {pc : ClientPc}

/-- A step of one thread that subscribes nothing: what leaves the table of the sessions, and what the
    thread was to remove, it is to remove now, or it did. -/
theorem Kept.of_update (h : Kept timeBases s) (hpc : s'.pc = Function.update s.pc t pc)
    (hcheck : ∀ idx sid, pc = .check idx sid → idx ∈ timeBases)
    (hinsert : ∀ idx sid, pc = .insert idx sid → idx ∈ timeBases)
    (hsub : ∀ idx, ∀ sid ∈ s'.subscribedClients idx, sid ∈ s.subscribedClients idx)
    (hmap : ∀ idx ∈ timeBases, ∀ sid ∈ s.sessionMap, sid ∈ s'.sessionMap ∨ Covers pc idx sid)
    (hcovers : ∀ idx, ∀ sid ∈ s'.subscribedClients idx, Covers (s.pc t) idx sid →
      sid ∈ s'.sessionMap ∨ Covers pc idx sid) : Kept timeBases s' where
  known idx sid hsid := h.known idx sid (hsub idx sid hsid)
  check t' idx sid hpc' := by
    rw [hpc] at hpc'
    by_cases ht : t' = t
    · subst ht
      rw [Function.update_self] at hpc'
      exact hcheck idx sid hpc'
    · rw [Function.update_of_ne ht] at hpc'
      exact h.check t' idx sid hpc'
  insert t' idx sid hpc' := by
    rw [hpc] at hpc'
    by_cases ht : t' = t
    · subst ht
      rw [Function.update_self] at hpc'
      exact hinsert idx sid hpc'
    · rw [Function.update_of_ne ht] at hpc'
      exact h.insert t' idx sid hpc'
  sub idx sid hsid := by
    have hold := hsub idx sid hsid
    have hnow : Covers pc idx sid → s'.Removing idx sid := fun hc =>
      ⟨t, by rw [hpc, Function.update_self]; exact hc⟩
    rcases h.sub idx sid hold with hmem | ⟨t', hc⟩
    · exact (hmap idx (h.known idx sid hold) sid hmem).imp_right hnow
    · by_cases ht : t' = t
      · subst ht
        exact (hcovers idx sid hsid hc).imp_right hnow
      · exact .inr ⟨t', by rw [hpc, Function.update_of_ne ht]; exact hc⟩

/-- A step that changes neither table. -/
theorem Kept.of_same (h : Kept timeBases s) (hpc : s'.pc = Function.update s.pc t pc)
    (hcheck : ∀ idx sid, pc = .check idx sid → idx ∈ timeBases)
    (hinsert : ∀ idx sid, pc = .insert idx sid → idx ∈ timeBases)
    (hsub : s'.subscribedClients = s.subscribedClients) (hmap : s'.sessionMap = s.sessionMap)
    (hcovers : ∀ idx sid, Covers (s.pc t) idx sid → sid ∈ s.sessionMap ∨ Covers pc idx sid) :
    Kept timeBases s' :=
  h.of_update hpc hcheck hinsert (fun idx sid hsid => by rwa [hsub] at hsid)
    (fun _ _ sid hsid => .inl (by rwa [hmap])) (fun idx sid _ hc => by rw [hmap]; exact hcovers idx sid hc)

theorem start_kept (h : Kept timeBases s) (hidle : s.pc t = .idle) (c : ClientCall) :
    Kept timeBases (s.start timeBases t c) := by
  have hnone : ∀ {pc' : ClientPc} idx sid, Covers (s.pc t) idx sid → sid ∈ s.sessionMap ∨ Covers pc' idx sid := by
    intro pc' idx sid hc
    rw [hidle] at hc
    cases hc
  cases c with
  | connect sessionId => exact h.of_same rfl nofun nofun rfl rfl hnone
  | subscribe timeBaseIndex sessionId =>
      rw [start]
      split
      · exact h.of_same rfl nofun nofun rfl rfl hnone
      · next hbase =>
          refine h.of_same rfl ?_ nofun rfl rfl hnone
          rintro idx sid ⟨⟩
          exact not_not.1 (not_or.1 hbase).2
  | notifyClients timeBaseIndex =>
      rw [start]
      split <;> exact h.of_same rfl nofun nofun rfl rfl hnone
  | removeClient sessionId => exact h.of_same rfl nofun nofun rfl rfl hnone

theorem connect_kept (h : Kept timeBases s) {sessionId : SessionId} {opens : Bool}
    (hpc : s.pc t = .connect sessionId) (hstep : s.connect t sessionId opens = some s') :
    Kept timeBases s' := by
  have hnone : ∀ idx sid, ¬ Covers (s.pc t) idx sid := by
    intro idx sid hc
    rw [hpc] at hc
    cases hc
  rw [connect] at hstep
  split at hstep
  · cases hstep
    exact h.of_same rfl nofun nofun rfl rfl fun idx sid hc => absurd hc (hnone idx sid)
  · obtain ⟨⟨cur, s₁⟩, hcreate, rfl⟩ := Option.map_eq_some_iff.1 hstep
    rw [createClientSession] at hcreate
    obtain ⟨free, -, hfree⟩ := Option.map_eq_some_iff.1 hcreate
    split at hfree
    · cases hfree
      exact h.of_update rfl nofun nofun (fun _ _ hsid => hsid)
        (fun _ _ sid hsid => .inl (Finset.mem_insert_of_mem hsid))
        (fun idx sid _ hc => absurd hc (hnone idx sid))
    · cases hfree
      exact h.of_same rfl nofun nofun rfl rfl fun idx sid hc => absurd hc (hnone idx sid)

/-- The section that subscribes: the session is there, or its removal is on its way. -/
theorem insertSub_kept (h : Kept timeBases s) {idx : Nat} {sid : SessionId}
    (hpc : s.pc t = .insert idx sid) (hguard : sid ∈ s.sessionMap ∨ s.Removing idx sid)
    (hstep : s.insertSub t idx sid = some s') : Kept timeBases s' := by
  have hother : ∀ t' idx' sid', Covers (s.pc t') idx' sid' → t' ≠ t := by
    rintro t' idx' sid' hc rfl
    rw [hpc] at hc
    cases hc
  rw [insertSub] at hstep
  split at hstep
  · cases hstep
  · cases hstep
    have hremoving : ∀ {idx' sid'}, s.Removing idx' sid' →
        ((s.setSubscribed idx (insert sid (s.subscribedClients idx))).answer t
          (.subscribed true)).Removing idx' sid' := by
      rintro idx' sid' ⟨t', hc⟩
      refine ⟨t', ?_⟩
      show Covers (Function.update s.pc t .idle t') idx' sid'
      rw [Function.update_of_ne (hother t' idx' sid' hc)]
      exact hc
    have hsame : ∀ t' pc', pc' ≠ .idle → Function.update s.pc t .idle t' = pc' → s.pc t' = pc' := by
      intro t' pc' hne hpc'
      by_cases ht : t' = t
      · subst ht
        rw [Function.update_self] at hpc'
        exact absurd hpc'.symm hne
      · rwa [Function.update_of_ne ht] at hpc'
    -- one client more in one set, and the others as they were
    have hold : ∀ {idx' sid'}, sid' ∈ Function.update s.subscribedClients idx
        (insert sid (s.subscribedClients idx)) idx' →
        idx' = idx ∧ sid' = sid ∨ sid' ∈ s.subscribedClients idx' := by
      intro idx' sid' hsid
      by_cases hidx : idx' = idx
      · subst hidx
        rw [Function.update_self] at hsid
        exact (Finset.mem_insert.1 hsid).imp_left fun heq => ⟨rfl, heq⟩
      · rw [Function.update_of_ne hidx] at hsid
        exact .inr hsid
    refine ⟨fun idx' sid' hsid => ?_, fun t' idx' sid' hpc' => ?_, fun t' idx' sid' hpc' => ?_,
      fun idx' sid' hsid => ?_⟩
    · rcases hold hsid with ⟨rfl, -⟩ | hsid
      · exact h.insert t idx' sid hpc
      · exact h.known idx' sid' hsid
    · exact h.check t' idx' sid' (hsame t' _ nofun hpc')
    · exact h.insert t' idx' sid' (hsame t' _ nofun hpc')
    · rcases hold hsid with ⟨rfl, rfl⟩ | hsid
      · exact hguard.imp_right hremoving
      · exact (h.sub idx' sid' hsid).imp_right hremoving

/-- One client of the loop: it is removed, or it has a session. -/
theorem notifyOne_kept (h : Kept timeBases s) {idx : Nat} {sessionId : SessionId}
    {todo sessionIdToRemove : List SessionId} {sends : Bool}
    (hpc : s.pc t = .notifying idx (sessionId :: todo) sessionIdToRemove) :
    Kept timeBases (s.notifyOne t idx sessionId todo sessionIdToRemove sends) := by
  rw [notifyOne]
  split
  · next hsent =>
      refine h.of_same rfl nofun nofun rfl rfl fun idx' sid hc => ?_
      rw [hpc] at hc
      rcases hc with hc | hc
      · rcases List.mem_cons.1 hc with rfl | hc
        · exact .inl hsent.1
        · exact .inr (.inl hc)
      · exact .inr (.inr hc)
  · refine h.of_same rfl nofun nofun rfl rfl fun idx' sid hc => ?_
    rw [hpc] at hc
    rcases hc with hc | hc
    · rcases List.mem_cons.1 hc with rfl | hc
      · exact .inr (.inr (List.mem_append_right _ List.mem_cons_self))
      · exact .inr (.inl hc)
    · exact .inr (.inr (List.mem_append_left _ hc))

/-- The session leaves its table, and is then to be removed from every time base. -/
theorem removeSession_kept (h : Kept timeBases s) {sessionId : SessionId} {rest : List SessionId}
    (hpc : s.pc t = .remove (sessionId :: rest)) :
    Kept timeBases (removeSession timeBases s t sessionId rest) := by
  refine h.of_update rfl nofun nofun (fun _ _ hsid => hsid) (fun idx hidx sid hsid => ?_)
    fun idx sid hsid hc => ?_
  · by_cases heq : sid = sessionId
    · exact .inr (.inl ⟨heq, hidx⟩)
    · exact .inl (Finset.mem_erase.2 ⟨heq, hsid⟩)
  · rw [hpc] at hc
    rcases List.mem_cons.1 hc with rfl | hc
    · exact .inr (.inl ⟨rfl, h.known idx sid hsid⟩)
    · exact .inr (.inr hc)

theorem eraseSub_kept (h : Kept timeBases s) {sessionId : SessionId} {idx : Nat} {bases : List Nat}
    {rest : List SessionId} (hpc : s.pc t = .erase sessionId (idx :: bases) rest)
    (hstep : s.eraseSub t sessionId idx bases rest = some s') : Kept timeBases s' := by
  rw [eraseSub] at hstep
  split at hstep
  · cases hstep
  · cases hstep
    have hold : ∀ idx', ∀ sid ∈ Function.update s.subscribedClients idx
        ((s.subscribedClients idx).erase sessionId) idx',
        sid ∈ s.subscribedClients idx' ∧ ¬ (idx' = idx ∧ sid = sessionId) := by
      intro idx' sid hsid
      by_cases hidx : idx' = idx
      · subst hidx
        rw [Function.update_self] at hsid
        obtain ⟨hne, hmem⟩ := Finset.mem_erase.1 hsid
        exact ⟨hmem, fun heq => hne heq.2⟩
      · rw [Function.update_of_ne hidx] at hsid
        exact ⟨hsid, fun heq => hidx heq.1⟩
    refine h.of_update rfl nofun nofun (fun idx' sid hsid => (hold idx' sid hsid).1)
      (fun _ _ sid hsid => .inl hsid) fun idx' sid hsid hc => ?_
    rw [hpc] at hc
    rcases hc with ⟨rfl, hmem⟩ | hc
    · rcases List.mem_cons.1 hmem with rfl | hmem
      · exact absurd ⟨rfl, rfl⟩ (hold idx' sid hsid).2
      · exact .inr (.inl ⟨rfl, hmem⟩)
    · exact .inr (.inr hc)

theorem advance_kept (h : Kept timeBases s) {ok : Bool} (hguard : s.Guarded (.go t ok))
    (hstep : s.advance timeBases t ok = some s') : Kept timeBases s' := by
  rw [advance] at hstep
  -- one case for each place where a thread may stand
  split at hstep
  · cases hstep
  · next hpc => exact connect_kept h hpc hstep
  · next idx sid hpc =>
      have hnone : ∀ {pc' : ClientPc} idx sid, Covers (s.pc t) idx sid →
          sid ∈ s.sessionMap ∨ Covers pc' idx sid := fun _ _ hc => by rw [hpc] at hc; cases hc
      cases hstep
      rw [check]
      split
      · refine h.of_same rfl nofun ?_ rfl rfl hnone
        rintro _ _ ⟨⟩
        exact h.check t idx sid hpc
      · exact h.of_same rfl nofun nofun rfl rfl hnone
  · next idx sid hpc => exact insertSub_kept h hpc (hguard idx sid hpc) hstep
  · next idx hpc =>
      have hnone : ∀ {pc' : ClientPc} idx sid, Covers (s.pc t) idx sid →
          sid ∈ s.sessionMap ∨ Covers pc' idx sid := fun _ _ hc => by rw [hpc] at hc; cases hc
      cases hstep
      rw [notify]
      split <;> exact h.of_same rfl nofun nofun rfl rfl hnone
  · next hpc =>
      cases hstep
      exact notifyOne_kept h hpc
  · next idx l hpc =>
      cases hstep
      refine h.of_same rfl nofun nofun rfl rfl fun _ _ hc => ?_
      rw [hpc] at hc
      rcases hc with hc | hc
      · cases hc
      · exact .inr hc
  · next hpc =>
      cases hstep
      refine h.of_same rfl nofun nofun rfl rfl fun _ _ hc => ?_
      rw [hpc] at hc
      cases hc
  · next hpc =>
      cases hstep
      exact removeSession_kept h hpc
  · next hpc =>
      cases hstep
      refine h.of_same rfl nofun nofun rfl rfl fun _ _ hc => ?_
      rw [hpc] at hc
      rcases hc with ⟨-, hc⟩ | hc
      · cases hc
      · exact .inr hc
  · next hpc => exact eraseSub_kept h hpc hstep

theorem step_kept (h : Kept timeBases s) {e : Event} (hguard : s.Guarded e)
    (hstep : s.step timeBases e = some s') : Kept timeBases s' := by
  cases e with
  | call t c =>
      rw [step] at hstep
      split at hstep
      · next hidle =>
          cases hstep
          exact start_kept h hidle c
      · cases hstep
  | go t ok => exact advance_kept h hguard hstep

theorem run_kept (h : Kept timeBases s) {es : List Event} (hguard : s.GuardedRun timeBases es)
    (hrun : s.run timeBases es = some s') : Kept timeBases s' := by
  induction es generalizing s with
  | nil =>
      cases hrun
      exact h
  | cons e es ih =>
      obtain ⟨s₁, hstep, hrest⟩ := Option.bind_eq_some_iff.1 hrun
      exact ih (step_kept h hguard.1 hstep) (hguard.2 s₁ hstep) hrest

end Kept

theorem init_kept (timeBases : List Nat) : Kept timeBases init where
  known _ _ hsid := by cases hsid
  check _ _ _ hpc := by cases hpc
  insert _ _ _ hpc := by cases hpc
  sub _ _ hsid := by cases hsid

theorem Kept.consistent {timeBases : List Nat} {s : Clients} (h : Kept timeBases s) (hquiet : s.Quiet) :
    s.Consistent := by
  intro idx sid hsid
  rcases h.sub idx sid hsid with hmem | ⟨t, hc⟩
  · exact hmem
  · rw [hquiet t] at hc
    cases hc

/-- Every subscription is that of a session, or is being removed. -/
def Settled (s : Clients) : Prop :=
  ∀ idx, ∀ sid ∈ s.subscribedClients idx, sid ∈ s.sessionMap ∨ s.Removing idx sid

/-- Behind a section that subscribes, only what was guarded is settled. -/
theorem guarded_of_settled {timeBases : List Nat} {s s' : Clients} {e : Event}
    (hstep : s.step timeBases e = some s') (h : s'.Settled) : s.Guarded e := by
  cases e with
  | call t c => trivial
  | go t ok =>
      intro idx sid hpc
      rw [step, advance, hpc] at hstep
      simp only [insertSub] at hstep
      split at hstep
      · cases hstep
      · cases hstep
        have hmem : sid ∈ Function.update s.subscribedClients idx
            (insert sid (s.subscribedClients idx)) idx := by
          rw [Function.update_self]
          exact Finset.mem_insert_self _ _
        refine (h idx sid hmem).imp_right fun ⟨t', hc⟩ => ?_
        have hc' : Covers (Function.update s.pc t .idle t') idx sid := hc
        by_cases ht : t' = t
        · rw [ht, Function.update_self] at hc'
          cases hc'
        · rw [Function.update_of_ne ht] at hc'
          exact ⟨t', hc'⟩

/-- A run is guarded exactly when every state that it goes through is settled. -/
theorem guardedRun_iff {timeBases : List Nat} {s s' : Clients} (h : Kept timeBases s) {es : List Event}
    (hrun : s.run timeBases es = some s') :
    s.GuardedRun timeBases es ↔
      ∀ pre s₁, pre <+: es → s.run timeBases pre = some s₁ → s₁.Settled := by
  induction es generalizing s with
  | nil =>
      refine iff_of_true trivial fun pre s₁ hpre hpart => ?_
      rw [List.prefix_nil.1 hpre] at hpart
      cases hpart
      exact h.sub
  | cons e es ih =>
      obtain ⟨s₂, hstep, hrest⟩ := Option.bind_eq_some_iff.1 hrun
      constructor
      · rintro ⟨hguard, hguards⟩ pre s₁ hpre hpart
        rcases List.prefix_cons_iff.1 hpre with rfl | ⟨pre', rfl, hpre'⟩
        · cases hpart
          exact h.sub
        · rw [run, hstep] at hpart
          exact (ih (step_kept h hguard hstep) hrest).1 (hguards s₂ hstep) pre' s₁ hpre' hpart
      · intro hsettled
        have hone : s.run timeBases [e] = some s₂ := by rw [run, hstep]; rfl
        have hguard := guarded_of_settled hstep
          (hsettled [e] s₂ (List.prefix_cons_iff.2 (.inr ⟨[], rfl, List.nil_prefix⟩)) hone)
        refine .cons hguard hstep ((ih (step_kept h hguard hstep) hrest).2 fun pre s₁ hpre hpart => ?_)
        refine hsettled (e :: pre) s₁ ((List.prefix_cons_inj e).2 hpre) ?_
        rw [run, hstep]
        exact hpart

/-- **The subscriptions are those of sessions** in every run whose steps are guarded, whenever no call is in
    progress; and a session that is not in the table, so that its id may be given to another client, has no
    subscription but those that are being removed. The guard is what it takes: a run is guarded exactly when
    no state on its way has a subscription without a session that is not being removed. -/
theorem run_consistent (timeBases : List Nat) (es : List Event) (s : Clients)
    (hrun : init.run timeBases es = some s) :
    (init.GuardedRun timeBases es → (s.Quiet → s.Consistent) ∧
      ∀ sid, sid ∉ s.sessionMap → ∀ idx, sid ∈ s.subscribedClients idx → s.Removing idx sid) ∧
    (init.GuardedRun timeBases es ↔
      ∀ pre s₁, pre <+: es → init.run timeBases pre = some s₁ → s₁.Settled) := by
  refine ⟨fun hguard => ?_, guardedRun_iff (init_kept timeBases) hrun⟩
  have hkept := run_kept (init_kept timeBases) hguard hrun
  exact ⟨hkept.consistent, fun sid hno idx hsid => (hkept.sub idx sid hsid).resolve_left hno⟩

/-- A client connects and subscribes; between the two sections of `subscribe` another thread removes it. -/
def lateSubscribe : List Event :=
  [.call 0 (.connect invalidSessionId), .go 0 true, .call 0 (.subscribe 1 0), .go 0 true,
   .call 1 (.removeClient 0), .go 1 true, .go 1 true, .go 1 true, .go 1 true, .go 0 true]

/-- When all is quiet the session is subscribed, but not in the table. -/
theorem lateSubscribe_not_consistent :
    ∃ s, init.run [1] lateSubscribe = some s ∧ s.Quiet ∧ ¬ s.Consistent := by
  refine ⟨_, rfl, ?_, ?_⟩
  · rintro (_ | _ | t) <;> rfl
  · intro hcons
    exact absurd (hcons 1 0 (by decide)) (by decide)

/-- Two clients subscribe, and one of them is removed behind that. -/
def earlySubscribe : List Event :=
  [.call 0 (.connect invalidSessionId), .go 0 true, .call 0 (.connect invalidSessionId), .go 0 true,
   .call 0 (.subscribe 1 0), .go 0 true, .go 0 true, .call 0 (.subscribe 1 1), .go 0 true, .go 0 true,
   .call 1 (.removeClient 0), .go 1 true, .go 1 true, .go 1 true, .go 1 true]

theorem run_consistent_earlySubscribe :
    ∃ s, init.run [1] earlySubscribe = some s ∧ s.Consistent ∧ s.subscribedClients 1 = {1} := by
  have hother : ∀ {s : Clients} {t : Nat} {ok : Bool}, (∀ idx sid, s.pc t ≠ .insert idx sid) →
      s.Guarded (.go t ok) := fun hpc idx sid heq => absurd heq (hpc idx sid)
  refine ⟨_, rfl, ((run_consistent [1] earlySubscribe _ rfl).1 ?_).1 ?_, by decide⟩
  · refine .cons trivial rfl (.cons (hother nofun) rfl (.cons trivial rfl (.cons (hother nofun) rfl
      (.cons trivial rfl (.cons (hother nofun) rfl (.cons ?_ rfl (.cons trivial rfl (.cons (hother nofun) rfl
        (.cons ?_ rfl (.cons trivial rfl (.cons (hother nofun) rfl (.cons (hother nofun) rfl
          (.cons (hother nofun) rfl (.cons (hother nofun) rfl trivial))))))))))))))
    · rintro idx sid ⟨⟩
      exact .inl (by decide)
    · rintro idx sid ⟨⟩
      exact .inl (by decide)
  · rintro (_ | _ | t) <;> rfl

end Clients

end PtpMgmt.ClkMgr
