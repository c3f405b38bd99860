import Mathlib.Data.Finmap
import PtpMgmt.ClkMgr.Listener

set_option autoImplicit false

/-! # Session ids of the proxy (`proxy/client.cpp`)

The table of the sessions with the clients in it. A new client gets the first id that is free from the last
one on, and the search goes round through the 2^15 ids under the mask: where none of them is free it goes
on for ever, with the lock of the table held.

`Clients` keeps of this table only which ids are taken; its section of `connect` is this one. -/

namespace PtpMgmt.ClkMgr

/-- A client, with the transmitter that was made for it. -/
structure ProxyClient (Tx : Type) where
  sessionId : SessionId
  transmitter : Tx

/-- `sessionMap` and `nextSession`. -/
structure SessionTable (Tx : Type) where
  sessionMap : Finmap fun _ : SessionId => ProxyClient Tx
  nextSession : SessionId

namespace SessionTable

variable {Tx : Type}

def init : SessionTable Tx where
  sessionMap := ∅
  nextSession := 0

/-! ## The functions -/

/-- `Client::CreateClientSession`, where the loop has `fuel` rounds. `tx` is what `CreateTransmitter` gives:
    a transmitter, or nothing when the queue of the client does not open. -/
def createClientSession (t : SessionTable Tx) (fuel : Nat) (tx : Option Tx) :
    Option (SessionId × SessionTable Tx) :=
  (Clients.freeSession t.sessionMap.keys fuel t.nextSession).map fun cur =>
    match tx with
    | none => (invalidSessionId, { t with nextSession := cur })
    | some transmitter =>
      (cur, { sessionMap := t.sessionMap.insert cur { sessionId := cur, transmitter },
              nextSession := Clients.bump cur })

/-- `Client::connect`. -/
def connect (t : SessionTable Tx) (fuel : Nat) (sessionId : SessionId) (tx : Option Tx) :
    Option (SessionId × SessionTable Tx) :=
  if sessionId ≠ invalidSessionId then
    some (if sessionId ∈ t.sessionMap then sessionId else invalidSessionId, t)
  else
    t.createClientSession fuel tx

/-- `Client::removeClient`, in the table of the sessions. -/
def removeClient (t : SessionTable Tx) (sessionId : SessionId) : SessionTable Tx :=
  { t with sessionMap := t.sessionMap.erase sessionId }

/-- The tables that calls of `connect`, each of which returned, and of `removeClient` lead to. -/
inductive Reachable : SessionTable Tx → Prop
  | init : Reachable init
  | connect {t t' : SessionTable Tx} {fuel : Nat} {sessionId cur : SessionId} {tx : Option Tx}
      (h : Reachable t) (hreturns : t.connect fuel sessionId tx = some (cur, t')) : Reachable t'
  | removeClient {t : SessionTable Tx} (sessionId : SessionId) (h : Reachable t) :
      Reachable (t.removeClient sessionId)

/-! ## The table of `Clients` -/

/-- `Clients` is this table without the clients. -/
structure Abstracts (t : SessionTable Tx) (s : Clients) : Prop where
  keys : t.sessionMap.keys = s.sessionMap
  nextSession : t.nextSession = s.nextSession

theorem keys_insert (t : SessionTable Tx) (cur : SessionId) (client : ProxyClient Tx) :
    (t.sessionMap.insert cur client).keys = insert cur t.sessionMap.keys := by
  ext sessionId
  rw [Finmap.mem_keys, Finmap.mem_insert, Finset.mem_insert, Finmap.mem_keys]

theorem connectSession_abstracts {t : SessionTable Tx} {s : Clients} (h : t.Abstracts s) (sessionId : SessionId)
    (tx : Option Tx) :
    Option.Rel (fun r r' => r.1 = r'.1 ∧ r.2.Abstracts r'.2) (t.connect 0x8000 sessionId tx)
      (s.connectSession sessionId tx.isSome) := by
  have hmem : sessionId ∈ t.sessionMap ↔ sessionId ∈ s.sessionMap := by
    rw [← h.keys, Finmap.mem_keys]
  by_cases hnew : sessionId ≠ invalidSessionId
  · rw [connect, Clients.connectSession, if_pos hnew, if_pos hnew]
    exact .some ⟨if_congr hmem rfl rfl, h⟩
  · rw [connect, Clients.connectSession, if_neg hnew, if_neg hnew, createClientSession,
      Clients.createClientSession, h.keys, h.nextSession]
    cases Clients.freeSession s.sessionMap 0x8000 s.nextSession with
    | none => exact .none
    | some cur =>
      refine .some ?_
      cases tx with
      | none => exact ⟨rfl, h.keys, rfl⟩
      | some transmitter => exact ⟨rfl, by rw [keys_insert, h.keys]; rfl, rfl⟩

/-- The section of a thread in `connect` answers what the table does. -/
theorem connect_abstracts {t : SessionTable Tx} {s : Clients} (h : t.Abstracts s) (thread : Nat)
    (sessionId : SessionId) (tx : Option Tx) :
    Option.Rel (fun r s' => s'.reply thread = some (.session r.1) ∧ r.2.Abstracts s')
      (t.connect 0x8000 sessionId tx) (s.connect thread sessionId tx.isSome) := by
  rw [Clients.connect_eq]
  have hsession := connectSession_abstracts h sessionId tx
  generalize t.connect 0x8000 sessionId tx = a at hsession ⊢
  generalize s.connectSession sessionId tx.isSome = b at hsession ⊢
  cases hsession with
  | none => exact .none
  | some hr =>
    obtain ⟨hid, hkeys, hnext⟩ := hr
    refine .some ⟨?_, hkeys, hnext⟩
    rw [hid]
    exact Function.update_self _ _ _

theorem removeClient_abstracts {t : SessionTable Tx} {s : Clients} (h : t.Abstracts s)
    (timeBases : List Nat) (sessionId : SessionId) :
    (t.removeClient sessionId).Abstracts (s.removeClientSession timeBases sessionId) := by
  refine ⟨?_, h.nextSession⟩
  rw [removeClient, Clients.removeClientSession, ← h.keys]
  exact Finmap.keys_erase _ _

/-! ## A new client -/

/-- How `connect` of a new client comes back: without a session, the table as it was; or with an id that
    was free and is the client's now. -/
inductive Connected (t : SessionTable Tx) (tx : Option Tx) : SessionId → SessionTable Tx → Prop
  | refused {t' : SessionTable Tx} (hsame : t'.sessionMap = t.sessionMap) :
      Connected t tx invalidSessionId t'
  | created {t' : SessionTable Tx} {cur : SessionId} {transmitter : Tx} (hopens : tx = some transmitter)
      (hfree : cur ∉ t.sessionMap) (hvalid : cur ≠ invalidSessionId)
      (hclient : t'.sessionMap.lookup cur = some { sessionId := cur, transmitter })
      (hothers : ∀ other, other ≠ cur → t'.sessionMap.lookup other = t.sessionMap.lookup other) :
      Connected t tx cur t'

/-- `connect` of a new client ends, and comes back in no other way. -/
def ConnectsNew (t : SessionTable Tx) (tx : Option Tx) : Prop :=
  (∃ fuel cur t', t.connect fuel invalidSessionId tx = some (cur, t')) ∧
    ∀ fuel cur t', t.connect fuel invalidSessionId tx = some (cur, t') → t.Connected tx cur t'

/-- An id that a client can get is free. -/
def HasFree (t : SessionTable Tx) : Prop := ∃ sessionId : SessionId,
  sessionId ≤ validMaskSessionId ∧ sessionId ∉ t.sessionMap

theorem le_mask_iff (sessionId : SessionId) :
    sessionId ≤ validMaskSessionId ↔ sessionId.toNat < 0x8000 := by
  rw [UInt16.le_iff_toNat_le, show validMaskSessionId.toNat = 0x7fff from rfl]
  exact Nat.lt_succ_iff.symm

/-- The mask keeps `nextSession` among the ids that clients get. -/
theorem Reachable.low {t : SessionTable Tx} (h : Reachable t) : t.nextSession.toNat < 0x8000 := by
  induction h with
  | init => exact Clients.init_low
  | @connect t t' fuel sessionId cur tx _ hreturns ih =>
    rw [SessionTable.connect] at hreturns
    split at hreturns
    · cases hreturns
      exact ih
    · rw [createClientSession] at hreturns
      obtain ⟨free, hfree, heq⟩ := Option.map_eq_some_iff.1 hreturns
      cases tx with
      | none =>
        cases heq
        exact (Clients.freeSession_some hfree ih).2
      | some transmitter =>
        cases heq
        have hbump := Clients.toNat_bump cur
        show (Clients.bump cur).toNat < 0x8000
        omega
  | removeClient sessionId _ ih => exact ih

theorem connect_connected {t t' : SessionTable Tx} (hlow : t.nextSession.toNat < 0x8000) {fuel : Nat}
    {cur : SessionId} {tx : Option Tx} (h : t.connect fuel invalidSessionId tx = some (cur, t')) :
    t.Connected tx cur t' := by
  rw [connect, if_neg (not_not.2 rfl), createClientSession] at h
  obtain ⟨free, hfree, heq⟩ := Option.map_eq_some_iff.1 h
  obtain ⟨hnew, hcur⟩ := Clients.freeSession_some hfree hlow
  cases tx with
  | none =>
    cases heq
    exact .refused rfl
  | some transmitter =>
    cases heq
    rw [Finmap.mem_keys] at hnew
    refine .created rfl hnew (Clients.low_ne_invalid hcur) (Finmap.lookup_insert _) ?_
    intro other hother
    exact Finmap.lookup_insert_of_ne _ hother

/-- However many rounds it gets, the search does not end when all the ids are taken. -/
theorem connect_ends_iff {t : SessionTable Tx} (hlow : t.nextSession.toNat < 0x8000) (tx : Option Tx) :
    (∃ fuel cur t', t.connect fuel invalidSessionId tx = some (cur, t')) ↔ t.HasFree := by
  constructor
  · rintro ⟨fuel, cur, t', h⟩
    rw [connect, if_neg (not_not.2 rfl), createClientSession] at h
    obtain ⟨free, hfree, -⟩ := Option.map_eq_some_iff.1 h
    obtain ⟨hnew, hcur⟩ := Clients.freeSession_some hfree hlow
    rw [Finmap.mem_keys] at hnew
    exact ⟨free, (le_mask_iff free).2 hcur, hnew⟩
  · rintro ⟨sessionId, hle, hfree⟩
    rw [← Finmap.mem_keys] at hfree
    obtain ⟨free, hfound⟩ :=
      (Clients.freeSession_isSome_iff hlow).2 ⟨sessionId, (le_mask_iff sessionId).1 hle, hfree⟩
    refine ⟨0x8000, ?_⟩
    rw [connect, if_neg (not_not.2 rfl), createClientSession, hfound]
    exact ⟨_, _, rfl⟩

/-- In every table that calls lead to, a new client is served exactly when an id is free for it: where all
    2^15 of them are taken `connect` never ends. -/
theorem connectsNew_iff {t : SessionTable Tx} (h : Reachable t) (tx : Option Tx) :
    t.ConnectsNew tx ↔ t.HasFree := by
  rw [ConnectsNew, connect_ends_iff h.low]
  refine and_iff_left ?_
  intro fuel cur t' hreturns
  exact connect_connected h.low hreturns

/-- The first id that is looked at is free. -/
theorem connect_next {t : SessionTable Tx} (hfree : t.nextSession ∉ t.sessionMap) (transmitter : Tx) :
    t.connect 1 invalidSessionId (some transmitter) = some (t.nextSession,
      { sessionMap := t.sessionMap.insert t.nextSession { sessionId := t.nextSession, transmitter },
        nextSession := Clients.bump t.nextSession }) := by
  rw [← Finmap.mem_keys] at hfree
  rw [connect, if_neg (not_not.2 rfl), createClientSession, Clients.freeSession, if_neg hfree]
  rfl

/-- Two clients have come, and the first of them has gone. -/
theorem connectsNew_iff_removed : ∃ t : SessionTable Unit, 0 ∉ t.sessionMap ∧ 1 ∈ t.sessionMap ∧
    t.nextSession = 2 ∧ t.ConnectsNew (some ()) := by
  have hone := connect_next (t := (init : SessionTable Unit)) Finmap.notMem_empty ()
  have hbusy : (1 : SessionId) ∉ (Finmap.insert 0 ⟨0, ()⟩ ∅ : Finmap fun _ : SessionId => ProxyClient Unit) :=
    fun hmem => (Finmap.mem_insert.1 hmem).elim (by decide) Finmap.notMem_empty
  have htwo := connect_next (t := { sessionMap := Finmap.insert 0 ⟨0, ()⟩ ∅, nextSession := 1 }) hbusy ()
  have hgone : (0 : SessionId) ∉ (Finmap.insert 1 ⟨1, ()⟩ (Finmap.insert 0 ⟨0, ()⟩ ∅) :
      Finmap fun _ : SessionId => ProxyClient Unit).erase 0 := Finmap.notMem_erase_self
  have hreach := Reachable.removeClient 0 (.connect (.connect .init hone) htwo)
  refine ⟨_, hgone, ?_, ?_, (connectsNew_iff hreach (some ())).2 ⟨0, by decide, hgone⟩⟩
  · exact Finmap.mem_erase.2 ⟨by decide, Finmap.mem_insert.2 (.inl rfl)⟩
  · rfl

/-! ## All ids taken -/

/-- So many new clients have come, and none has gone. -/
theorem exists_reachable_full (transmitter : Tx) {n : Nat} (hn : n ≤ 0x8000) :
    ∃ t : SessionTable Tx, Reachable t ∧ t.nextSession.toNat = n % 0x8000 ∧
      ∀ sessionId, sessionId ∈ t.sessionMap ↔ sessionId.toNat < n := by
  induction n with
  | zero =>
    refine ⟨init, .init, rfl, fun sessionId => ?_⟩
    exact iff_of_false Finmap.notMem_empty (Nat.not_lt_zero _)
  | succ n ih =>
    obtain ⟨t, hreach, hnext, hmem⟩ := ih (Nat.le_of_succ_le hn)
    have hfree : t.nextSession ∉ t.sessionMap := by
      rw [hmem]
      omega
    refine ⟨_, .connect hreach (connect_next hfree transmitter), ?_, fun sessionId => ?_⟩
    · show (Clients.bump t.nextSession).toNat = (n + 1) % 0x8000
      rw [Clients.toNat_bump, hnext]
      omega
    · rw [Finmap.mem_insert, hmem, ← UInt16.toNat_inj, hnext]
      omega

/-- Behind 32768 clients the next one waits for ever. -/
theorem connectsNew_full :
    ¬ ∀ t : SessionTable Unit, Reachable t → ∀ tx : Option Unit, t.ConnectsNew tx := by
  intro h
  obtain ⟨t, hreach, -, hmem⟩ := exists_reachable_full () (Nat.le_refl 0x8000)
  obtain ⟨sessionId, hle, hfree⟩ := (connect_ends_iff hreach.low (some ())).1 (h t hreach (some ())).1
  exact hfree ((hmem sessionId).2 ((le_mask_iff sessionId).1 hle))

end SessionTable

end PtpMgmt.ClkMgr
