import PtpMgmt.ClkMgr.CallSections
import PtpMgmt.ClkMgr.EventMessages

set_option autoImplicit false

/-! # What the clients are told

A client that is subscribed has heard, or finds in its queue, the event that is published. What this takes
is that no reply to a subscription comes late: the reply is made of two accesses to the events and sent
later, and a notification may come in between. -/

namespace PtpMgmt.ClkMgr

open Wire Clients

/-! ## Threads -/

theorem Thread.worker_ne_listener (c : Clock) (i : UInt64) : (Thread.worker c i).id ≠ Thread.listener.id := by
  cases c <;> simp [Thread.id]

theorem Thread.worker_inj {c c' : Clock} {i i' : UInt64}
    (h : (Thread.worker c i).id = (Thread.worker c' i').id) : c = c' ∧ i = i' := by
  cases c <;> cases c' <;> simp only [Thread.id] at h
  · exact ⟨rfl, UInt64.toNat_inj.1 (by omega)⟩
  · omega
  · omega
  · exact ⟨rfl, UInt64.toNat_inj.1 (by omega)⟩

/-! ## What a client hears -/

theorem heard_append (c : Clock) (i : UInt64) (calls : List ClientDone) (done : ClientDone) :
    heard c i (calls ++ [done]) = (done.tells c i).getD (heard c i calls) := by
  rw [heard, List.foldl_append]
  rfl

theorem tells_notified (c : Clock) (i : UInt64) (event : c.Event) :
    (notified c i event).tells c i = some event := by
  cases c <;> exact if_pos rfl

/-- A notification says nothing of another clock or of another time base. -/
theorem tells_notified_other {c c' : Clock} {i i' : UInt64} (h : ¬ (c' = c ∧ i' = i)) (event : c.Event) :
    (notified c i event).tells c' i' = none := by
  cases c <;> cases c' <;> first | rfl | exact if_neg fun heq => h ⟨rfl, heq.symm⟩

theorem tells_reply_other {c : Clock} {i i' : UInt64} (h : i' ≠ i) (ptpEvent : PtpEvent)
    (chronyEvent : ChronyEvent) : (ClientDone.subscribeReply i ptpEvent chronyEvent).tells c i' = none := by
  cases c <;> exact if_neg fun heq => h heq.1.symm

@[simp] theorem Events.set_self (events : Events) (c : Clock) (i : UInt64) (event : c.Event) :
    events.set c i event c i = event := by
  rw [Events.set, Function.update_self, Function.update_self]

theorem Events.set_other (events : Events) {c c' : Clock} {i i' : UInt64} (h : ¬ (c' = c ∧ i' = i))
    (event : c.Event) : events.set c i event c' i' = events c' i' := by
  rw [Events.set]
  by_cases hc : c' = c
  · subst hc
    rw [Function.update_self, Function.update_of_ne fun heq => h ⟨rfl, heq⟩]
  · rw [Function.update_of_ne hc]

namespace World

/-! ## What is kept -/

/-- The message that the listener works on, or at which it ended. -/
def message (w : World) : Option Message :=
  match w.listener with
  | .receive => none
  | .called msg => some msg
  | .getPTPEvent msg => some msg
  | .getChronyEvent msg _ => some msg
  | .sendBuffer msg _ => some msg
  | .ended msg => msg

/-- A subscription of the session to the time base is being handled, or the listener ended at it. -/
def Subscribing (w : World) (idx : Nat) (sid : SessionId) : Prop :=
  ∃ msg, w.message = some msg ∧ msg.msgId = .subscribeMsg ∧ msg.timeBaseIndex.toNat = idx ∧
    msg.sessionId = sid

/-- What the client was told, and will be told by what is in its queue. -/
def pending (w : World) (name : List UInt8) : List ClientDone :=
  w.calls name ++ (w.queue name).filterMap said

/-- The session is subscribed to the time base and no notification or removal is on its way. -/
def Served (w : World) (c : Clock) (i : UInt64) (sid : SessionId) : Prop :=
  w.clients.Served (Thread.worker c i).id i.toNat sid

/-- Every client that is served has the event that is published, once it has read its queue. -/
def Fresh (w : World) : Prop :=
  ∀ c i sid, w.Served c i sid → ¬ w.Subscribing i.toNat sid →
    heard c i (w.pending (w.clientId sid)) = w.events c i

/-- The octets of the notification of the event that is published. -/
def notice (p : Serving) (w : World) (c : Clock) (i : UInt64) : List UInt8 :=
  notifyHead c i ++ eventOctets p.pad c (w.events c i)

/-- What the reply to a message says: that to a subscription tells of its own time base, the others tell
    nothing. -/
def ReplyTo (msg : Message) (done : ClientDone) : Prop :=
  if msg.msgId = .subscribeMsg then
    ∃ ptpEvent chronyEvent, done = .subscribeReply msg.timeBaseIndex ptpEvent chronyEvent
  else ∀ c i, done.tells c i = none

structure Sound (p : Serving) (w : World) : Prop where
  known : Known p.timeBases w.clients
  owned : Owned w.Subscribing w.clients
  notifier : ∀ c i, OfNotifier p.timeBases i.toNat (w.clients.pc (Thread.worker c i).id)
  called : ∀ msg, w.listener = .called msg →
    ∃ call, callOf msg = some call ∧ OfCall p.timeBases call (w.clients.pc Thread.listener.id)
  idle : (∀ msg, w.listener ≠ .called msg) → w.clients.pc Thread.listener.id = .idle
  buff : ∀ c i, Looping (w.clients.pc (Thread.worker c i).id) → w.notifyBuff c i = w.notice p c i
  gets : ∀ msg, (w.listener = .getPTPEvent msg ∨ ∃ event, w.listener = .getChronyEvent msg event) →
    msg.msgId = .subscribeMsg
  reply : ∀ msg rxBuff, w.listener = .sendBuffer msg rxBuff → ∃ done, said rxBuff = some done ∧ ReplyTo msg done
  queued : ∀ name, ∀ octets ∈ w.queue name, ∃ done, said octets = some done

theorem init_sound (p : Serving) : Sound p init where
  known _ _ hsid := by cases hsid
  owned _ _ hsid := by cases hsid
  notifier _ _ := trivial
  called _ h := by cases h
  idle _ := rfl
  buff _ _ h := h.elim
  gets _ h := by rcases h with h | ⟨_, h⟩ <;> cases h
  reply _ _ h := by cases h
  queued _ _ h := by cases h

theorem init_fresh : init.Fresh := fun _ _ _ h _ => absurd h.sub (Finset.notMem_empty _)

/-! ## Messages -/

theorem notification_eq (c : Clock) {i : UInt64} (hi : i.toNat < 2 ^ 31) :
    notification c i = { msgId := .notifyMessage, timeBaseIndex := i, clockType := c.type } := by
  have hmsb : (i.toBitVec.setWidth 32).msb = false := by
    rw [BitVec.msb_eq_decide]
    simp
    omega
  have hindex : i.toUInt32.toInt32.toInt64.toUInt64 = i := by
    apply UInt64.eq_of_toBitVec_eq
    show (i.toBitVec.setWidth 32).signExtend 64 = i.toBitVec
    rw [BitVec.signExtend_eq_setWidth_of_msb_false hmsb]
    apply BitVec.eq_of_toNat_eq
    simp
    omega
  rw [notification, hindex]

theorem said_notice (p : Serving) (w : World) (c : Clock) (i : UInt64) :
    said (w.notice p c i) = some (notified c i (w.events c i)) := by
  rw [said, notice, clientParseBuffer_notify]
  rfl

theorem makeBuffer_notice (p : Serving) (w : World) (c : Clock) {i : UInt64} (hi : i.toNat < 2 ^ 31) :
    proxyMakeBuffer (w.data p) (notification c i) = some (w.notice p c i) := by
  rw [notification_eq c hi, proxyMakeBuffer_notify]
  cases c <;> rfl

/-- What is put in a queue is behind all that was there. -/
theorem pending_push {octets : List UInt8} {done : ClientDone} (w : World) (name : List UInt8)
    (h : said octets = some done) : (w.push name octets).pending name = w.pending name ++ [done] := by
  have hqueue : ((w.push name octets).queue name).filterMap said = (w.queue name).filterMap said ++ [done] := by
    rw [push]
    simp only [Function.update_self, List.filterMap_append]
    simp [h]
  rw [pending, pending, hqueue, ← List.append_assoc]
  rfl

theorem pending_push_of_ne (w : World) {name name' : List UInt8} (h : name' ≠ name) (octets : List UInt8) :
    (w.push name octets).pending name' = w.pending name' := by
  rw [pending, push]
  simp only [Function.update_of_ne h]
  rfl

theorem mem_queue_push {w : World} {name name' octets octets' : List UInt8}
    (h : octets' ∈ (w.push name octets).queue name') : octets' ∈ w.queue name' ∨ octets' = octets := by
  rw [push] at h
  by_cases hname : name' = name
  · subst hname
    simp only [Function.update_self] at h
    exact (List.mem_append.1 h).imp_right List.mem_singleton.1
  · simp only [Function.update_of_ne hname] at h
    exact .inl h

/-- A message that tells nothing of a time base does not change what is heard of it. -/
theorem heard_push {octets : List UInt8} {done : ClientDone} (w : World) (name name' : List UInt8)
    {c : Clock} {i : UInt64} (h : said octets = some done) (htells : done.tells c i = none) :
    heard c i ((w.push name octets).pending name') = heard c i (w.pending name') := by
  by_cases hname : name' = name
  · subst hname
    rw [pending_push w name' h, heard_append, htells]
    rfl
  · rw [pending_push_of_ne w hname]

/-! ## The threads of the clocks -/

section

variable {p : Serving} {w w' : World} {c : Clock} {i : UInt64} {ok : Bool}

/-- What a section of the thread of a clock does: it makes the notification, it sends it to one client, or
    it neither makes nor sends one. -/
inductive Works (p : Serving) (w : World) (c : Clock) (i : UInt64) : World → Prop
  | makes {clients : Clients} {l : List SessionId}
      (hall : ∀ sid ∈ w.clients.subscribedClients i.toNat, sid ∈ l)
      (hfrom : w.clients.pc (Thread.worker c i).id = .notify i.toNat)
      (hpc : clients.pc (Thread.worker c i).id = .notifying i.toNat l [])
      (hsub : clients.subscribedClients = w.clients.subscribedClients)
      (hof : OfNotifier p.timeBases i.toNat (clients.pc (Thread.worker c i).id))
      (hstep : Shrinks p.timeBases w.clients clients (Thread.worker c i).id) :
      Works p w c i { w with
        clients
        notifyBuff := Function.update w.notifyBuff c (Function.update (w.notifyBuff c) i (w.notice p c i)) }
  | sends {clients : Clients} {sid : SessionId} {todo l : List SessionId}
      (hpc : w.clients.pc (Thread.worker c i).id = .notifying i.toNat (sid :: todo) l)
      (hpc' : clients.pc (Thread.worker c i).id = .notifying i.toNat todo l)
      (hof : OfNotifier p.timeBases i.toNat (clients.pc (Thread.worker c i).id))
      (hstep : Shrinks p.timeBases w.clients clients (Thread.worker c i).id) :
      Works p w c i { w.push (w.clientId sid) (w.notifyBuff c i) with clients }
  | goes {clients : Clients}
      (htold : ∀ sid, Notifies (w.clients.pc (Thread.worker c i).id) sid →
        Notifies (clients.pc (Thread.worker c i).id) sid ∨
          Removes (clients.pc (Thread.worker c i).id) i.toNat sid)
      (hfrom : ∀ sid, Notifies (clients.pc (Thread.worker c i).id) sid →
        Notifies (w.clients.pc (Thread.worker c i).id) sid)
      (hloop : Looping (clients.pc (Thread.worker c i).id) → Looping (w.clients.pc (Thread.worker c i).id))
      (hof : OfNotifier p.timeBases i.toNat (clients.pc (Thread.worker c i).id))
      (hstep : Shrinks p.timeBases w.clients clients (Thread.worker c i).id) : Works p w c i { w with clients }

/-- The threads of the clocks only shrink the tables. -/
theorem worker_shrinks {clients : Clients} {t idx : Nat} (hpc : OfNotifier p.timeBases idx (w.clients.pc t))
    (h : w.clients.advance p.timeBases t ok = some clients) : Shrinks p.timeBases w.clients clients t := by
  rcases advance_cases h with ⟨hat, -⟩ | ⟨_, _, hat, -⟩ | hstep
  · rw [hat] at hpc
    exact hpc.elim
  · rw [hat] at hpc
    exact hpc.elim
  · exact hstep

theorem work_cases (hs : Sound p w) (h : w.work p c i ok = some w') : Works p w c i w' := by
  have hof := hs.notifier c i
  rw [work] at h
  split at h
  · next idx hat =>
      rw [hat] at hof
      obtain ⟨rfl, hbase⟩ := hof
      rw [makeBuffer_notice p w c (p.timeBases_lt _ hbase)] at h
      obtain ⟨clients, hadv, rfl⟩ := Option.map_eq_some_iff.1 h
      have hstep := worker_shrinks (hs.notifier c i) hadv
      have hof' := advance_ofNotifier (hs.notifier c i) hadv
      rw [advance, hat] at hadv
      cases hadv
      refine .makes (l := (w.clients.subscribedClients i.toNat).sort) (fun sid hsid => ?_) hat ?_ rfl hof' hstep
      · rwa [Finset.mem_sort]
      · simp only [notify, if_true, goto_pc_self]
  · next idx sid todo l hat =>
      rw [hat] at hof
      obtain ⟨rfl, hbase⟩ := hof
      obtain ⟨clients, hadv, rfl⟩ := Option.map_eq_some_iff.1 h
      have hstep := worker_shrinks (hs.notifier c i) hadv
      have hof' := advance_ofNotifier (hs.notifier c i) hadv
      rw [advance, hat] at hadv
      cases hadv
      by_cases hsent : w.clients.HasTransmitter sid ∧ w.sendsTo ok (w.clientId sid) = true
      · rw [if_pos hsent]
        refine .sends hat ?_ hof' hstep
        rw [notifyOne, if_pos ⟨hsent.1.2, hsent.1.1, hsent.2⟩, goto_pc_self]
      · rw [if_neg hsent]
        have hfails : ¬ (sid ∈ w.clients.sessionMap ∧ sid ≠ invalidSessionId ∧
            w.sendsTo ok (w.clientId sid) = true) := fun h => hsent ⟨⟨h.2.1, h.1⟩, h.2.2⟩
        have hgone : (w.clients.notifyOne (Thread.worker c i).id i.toNat sid todo l
            (w.sendsTo ok (w.clientId sid))).pc (Thread.worker c i).id =
            .notifying i.toNat todo (l ++ [sid]) := by
          rw [notifyOne, if_neg hfails, goto_pc_self]
        -- a session that is not reached is to be removed
        refine .goes (fun sid' hn => ?_) (fun sid' hn => ?_) (fun _ => by rw [hat]; trivial) hof' hstep
        · rw [hat] at hn
          rw [hgone]
          rcases List.mem_cons.1 hn with rfl | hn
          · exact .inr (List.mem_append_right _ (List.mem_singleton_self _))
          · exact .inl hn
        · rw [hgone] at hn
          rw [hat]
          exact List.mem_cons_of_mem _ hn
  · next hnotify hloop =>
      obtain ⟨clients, hadv, rfl⟩ := Option.map_eq_some_iff.1 h
      have hnone : ∀ sid, ¬ Notifies (w.clients.pc (Thread.worker c i).id) sid := by
        intro sid hn
        rcases hat : w.clients.pc (Thread.worker c i).id with _ | _ | _ | _ | idx | ⟨idx, todo, l⟩ | _ | _ <;>
          rw [hat] at hn
        case notify => exact hnotify idx hat
        case notifying =>
          cases todo with
          | nil => cases hn
          | cons sid' todo => exact hloop idx sid' todo l hat
        all_goals exact hn
      have hnot := advance_not_notifies hnone hadv
      exact .goes (fun sid hn => absurd hn (hnone sid)) (fun sid hn => absurd hn (hnot.2 sid))
        (fun hl => absurd hl hnot.1) (advance_ofNotifier (hs.notifier c i) hadv)
        (worker_shrinks (hs.notifier c i) hadv)

/-- A thread of the proxy other than this one stays where it was. -/
theorem Works.others {t' : Nat} (h : Works p w c i w') (ht : t' ≠ (Thread.worker c i).id) :
    w'.clients.pc t' = w.clients.pc t' := by
  cases h with
  | makes _ _ _ _ _ hstep => exact hstep.others t' ht
  | sends _ _ _ hstep => exact hstep.others t' ht
  | goes _ _ _ _ hstep => exact hstep.others t' ht

theorem Works.shrinks (h : Works p w c i w') :
    Shrinks p.timeBases w.clients w'.clients (Thread.worker c i).id := by
  cases h with
  | makes _ _ _ _ _ hstep => exact hstep
  | sends _ _ _ hstep => exact hstep
  | goes _ _ _ _ hstep => exact hstep

theorem Works.ofNotifier (h : Works p w c i w') :
    OfNotifier p.timeBases i.toNat (w'.clients.pc (Thread.worker c i).id) := by
  cases h with
  | makes _ _ _ _ hof => exact hof
  | sends _ _ hof => exact hof
  | goes _ _ _ hof => exact hof

theorem Works.listener (h : Works p w c i w') : w'.listener = w.listener := by
  cases h <;> rfl

theorem Works.events (h : Works p w c i w') : w'.events = w.events := by
  cases h <;> rfl

theorem Works.clientId (h : Works p w c i w') : w'.clientId = w.clientId := by
  cases h <;> rfl

theorem Works.subscribing (h : Works p w c i w') : w'.Subscribing = w.Subscribing := by
  unfold Subscribing message
  rw [h.listener]

theorem Works.notice (h : Works p w c i w') (c' : Clock) (i' : UInt64) : w'.notice p c' i' = w.notice p c' i' := by
  rw [World.notice, World.notice, h.events]

/-- The buffer of a thread in the loop holds the event that is published. -/
theorem Works.buff (hs : Sound p w) (h : Works p w c i w') (c' : Clock) (i' : UInt64)
    (hloop : Looping (w'.clients.pc (Thread.worker c' i').id)) : w'.notifyBuff c' i' = w'.notice p c' i' := by
  rw [h.notice]
  by_cases hsame : c' = c ∧ i' = i
  · obtain ⟨rfl, rfl⟩ := hsame
    cases h with
    | makes =>
        simp only [Function.update_self]
    | sends hpc => exact hs.buff c' i' (by rw [hpc]; trivial)
    | goes _ _ hkept => exact hs.buff c' i' (hkept hloop)
  · have ht : (Thread.worker c' i').id ≠ (Thread.worker c i).id := fun heq => hsame (Thread.worker_inj heq)
    rw [h.others ht] at hloop
    have hold := hs.buff c' i' hloop
    cases h with
    | makes =>
        by_cases hc : c' = c
        · subst hc
          simp only [Function.update_self]
          rw [Function.update_of_ne fun heq => hsame ⟨rfl, heq⟩]
          exact hold
        · simp only [Function.update_of_ne hc]
          exact hold
    | sends => exact hold
    | goes => exact hold

theorem Works.queued (hs : Sound p w) (h : Works p w c i w') (name : List UInt8) :
    ∀ octets ∈ w'.queue name, ∃ done, said octets = some done := by
  cases h with
  | makes => exact hs.queued name
  | sends hpc =>
      intro octets hmem
      rcases mem_queue_push hmem with hold | rfl
      · exact hs.queued name octets hold
      · exact ⟨_, hs.buff c i (by rw [hpc]; trivial) ▸ said_notice p w c i⟩
  | goes => exact hs.queued name

theorem Works.sound (hs : Sound p w) (h : Works p w c i w') : Sound p w' where
  known := h.shrinks.known hs.known
  owned := by
    rw [h.subscribing]
    exact h.shrinks.owned hs.known hs.owned
  notifier c' i' := by
    by_cases ht : (Thread.worker c' i').id = (Thread.worker c i).id
    · obtain ⟨rfl, rfl⟩ := Thread.worker_inj ht
      exact h.ofNotifier
    · rw [h.others ht]
      exact hs.notifier c' i'
  called msg hmsg := by
    rw [h.listener] at hmsg
    rw [h.others (Thread.worker_ne_listener c i).symm]
    exact hs.called msg hmsg
  idle hno := by
    rw [h.listener] at hno
    rw [h.others (Thread.worker_ne_listener c i).symm]
    exact hs.idle hno
  buff := h.buff hs
  reply msg rxBuff hmsg := by
    rw [h.listener] at hmsg
    exact hs.reply msg rxBuff hmsg
  gets msg hmsg := by
    rw [h.listener] at hmsg
    exact hs.gets msg hmsg
  queued := h.queued hs

/-- **A section of a thread keeps the clients fresh**: whoever is in the loop gets the event that is
    published, or is removed. -/
theorem Works.fresh (hs : Sound p w) (hfresh : w.Fresh) (h : Works p w c i w') : w'.Fresh := by
  intro c' i' sid hserved hsub
  rw [h.subscribing] at hsub
  rw [h.events, h.clientId]
  by_cases hsame : c' = c ∧ i' = i
  · obtain ⟨rfl, rfl⟩ := hsame
    cases h with
    | makes hall hfrom hpc hsubs hof hstep =>
        -- every client stands in the list of the loop
        refine absurd ?_ hserved.told
        rw [hpc]
        refine hall sid ?_
        rw [← hsubs]
        exact hserved.sub
    | @sends clients cur todo l hpc hpc' hof hstep =>
        by_cases hname : w.clientId sid = w.clientId cur
        · have hbuff := hs.buff c' i' (by rw [hpc]; trivial)
          show heard c' i' ((w.push (w.clientId cur) (w.notifyBuff c' i')).pending (w.clientId sid)) = _
          rw [hbuff, hname, pending_push w _ (said_notice p w c' i'), heard_append, tells_notified]
          rfl
        · have htold : ¬ Notifies (w.clients.pc (Thread.worker c' i').id) sid := by
            intro hn
            rw [hpc] at hn
            rcases List.mem_cons.1 hn with rfl | hn
            · exact hname rfl
            · refine hserved.told ?_
              rw [hpc']
              exact hn
          have hold := hfresh c' i' sid (hstep.served hs.known hserved htold) hsub
          show heard c' i' ((w.push (w.clientId cur) (w.notifyBuff c' i')).pending (w.clientId sid)) = _
          rw [pending_push_of_ne w hname]
          exact hold
    | goes htold hfrom hloop hof hstep =>
        refine hfresh c' i' sid (hstep.served hs.known hserved fun hn => ?_) hsub
        rcases htold sid hn with hn | hr
        · exact hserved.told hn
        · exact hserved.stays _ hr
  · have ht : (Thread.worker c' i').id ≠ (Thread.worker c i).id := fun heq => hsame (Thread.worker_inj heq)
    have htold : ¬ Notifies (w.clients.pc (Thread.worker c' i').id) sid := by
      rw [← h.others ht]
      exact hserved.told
    have hold := hfresh c' i' sid (h.shrinks.served hs.known hserved htold) hsub
    cases h with
    | makes => exact hold
    | @sends clients cur todo l hpc =>
        have hsaid : said (w.notifyBuff c i) = some (notified c i (w.events c i)) := by
          rw [hs.buff c i (by rw [hpc]; trivial)]
          exact said_notice p w c i
        exact (heard_push w (w.clientId cur) (w.clientId sid) hsaid (tells_notified_other hsame _)).trans hold
    | goes => exact hold

/-! ## New events -/

theorem publish_clients (hbase : i.toNat ∈ p.timeBases) (event : c.Event) :
    (w.publish p c i event).clients = w.clients.goto (Thread.worker c i).id (.notify i.toNat) := by
  rw [publish, start, if_neg (not_not.2 hbase)]

theorem publish_shrinks (hidle : w.clients.pc (Thread.worker c i).id = .idle) (event : c.Event) :
    Shrinks p.timeBases w.clients (w.publish p c i event).clients (Thread.worker c i).id := by
  rw [publish]
  exact start_shrinks hidle (.notifyClients i.toNat)

theorem publish_sound (hs : Sound p w) (hbase : i.toNat ∈ p.timeBases)
    (hidle : w.clients.pc (Thread.worker c i).id = .idle) (event : c.Event) : Sound p (w.publish p c i event) := by
  have hclients := publish_clients (w := w) hbase event
  have hshrinks := publish_shrinks (p := p) hidle event
  have hpc : (w.publish p c i event).clients.pc (Thread.worker c i).id = .notify i.toNat := by
    rw [hclients, goto_pc_self]
  have hlistener : (w.publish p c i event).clients.pc Thread.listener.id = w.clients.pc Thread.listener.id :=
    hshrinks.others _ (Thread.worker_ne_listener c i).symm
  refine ⟨hshrinks.known hs.known, hshrinks.owned hs.known hs.owned, fun c' i' => ?_, fun msg hmsg => ?_,
    fun hno => ?_, fun c' i' hloop => ?_, hs.gets, hs.reply, hs.queued⟩
  · by_cases ht : (Thread.worker c' i').id = (Thread.worker c i).id
    · obtain ⟨rfl, rfl⟩ := Thread.worker_inj ht
      rw [hpc]
      exact ⟨rfl, hbase⟩
    · rw [hshrinks.others _ ht]
      exact hs.notifier c' i'
  · rw [hlistener]
    exact hs.called msg hmsg
  · rw [hlistener]
    exact hs.idle hno
  · by_cases hsame : c' = c ∧ i' = i
    · obtain ⟨rfl, rfl⟩ := hsame
      rw [hpc] at hloop
      exact hloop.elim
    · have ht : (Thread.worker c' i').id ≠ (Thread.worker c i).id := fun heq => hsame (Thread.worker_inj heq)
      rw [hshrinks.others _ ht] at hloop
      have hnotice : (w.publish p c i event).notice p c' i' = w.notice p c' i' := by
        rw [notice, notice, publish]
        simp only [Events.set_other w.events hsame]
      rw [hnotice]
      exact hs.buff c' i' hloop

/-- A new event is owed to all the clients of its time base and to no other. -/
theorem publish_fresh (hs : Sound p w) (hfresh : w.Fresh) (hbase : i.toNat ∈ p.timeBases)
    (hidle : w.clients.pc (Thread.worker c i).id = .idle) (event : c.Event) : (w.publish p c i event).Fresh := by
  intro c' i' sid hserved hsub
  have hshrinks := publish_shrinks (p := p) hidle event
  by_cases hsame : c' = c ∧ i' = i
  · obtain ⟨rfl, rfl⟩ := hsame
    refine absurd ?_ hserved.told
    rw [publish_clients hbase event, goto_pc_self]
    trivial
  · have ht : (Thread.worker c' i').id ≠ (Thread.worker c i).id := fun heq => hsame (Thread.worker_inj heq)
    have htold : ¬ Notifies (w.clients.pc (Thread.worker c' i').id) sid := by
      rw [← hshrinks.others _ ht]
      exact hserved.told
    have hold := hfresh c' i' sid (hshrinks.served hs.known hserved htold) hsub
    show heard c' i' (w.pending (w.clientId sid)) = w.events.set c i event c' i'
    rw [Events.set_other w.events hsame]
    exact hold

/-! ## The listener -/

/-- The listener goes on outside of a call: a subscription stays in its hands until the reply is sent, and
    a reply says what it is to say. -/
structure Turns (w : World) (l : ListenerPc) : Prop where
  call : ∀ msg, l ≠ .called msg
  sub : ∀ idx sid, w.Subscribing idx sid → { w with listener := l }.Subscribing idx sid
  gets : ∀ msg, (l = .getPTPEvent msg ∨ ∃ event, l = .getChronyEvent msg event) → msg.msgId = .subscribeMsg
  reply : ∀ msg rxBuff, l = .sendBuffer msg rxBuff → ∃ done, said rxBuff = some done ∧ ReplyTo msg done

theorem Turns.sound {l : ListenerPc} (h : Turns w l) (hs : Sound p w)
    (hidle : w.clients.pc Thread.listener.id = .idle) : Sound p { w with listener := l } where
  known := hs.known
  owned idx sid hsid := (hs.owned idx sid hsid).imp_right (Or.imp_right (h.sub idx sid))
  notifier := hs.notifier
  called msg hmsg := absurd hmsg (h.call msg)
  idle _ := hidle
  buff := hs.buff
  gets := h.gets
  reply := h.reply
  queued := hs.queued

theorem Turns.fresh {l : ListenerPc} (h : Turns w l) (hfresh : w.Fresh) : { w with listener := l }.Fresh :=
  fun c i sid hserved hno => hfresh c i sid hserved fun hsub => hno (h.sub i.toNat sid hsub)

/-- The reply to another message than a subscription tells nothing of the clocks. -/
theorem said_makeBuffer {data : ProxyData} {msg : Message} {buff : List UInt8} (hsub : msg.msgId ≠ .subscribeMsg)
    (hnotify : msg.msgId ≠ .notifyMessage) (h : proxyMakeBuffer data msg = some buff) :
    ∃ done, said buff = some done ∧ ReplyTo msg done := by
  cases hid : msg.msgId with
  | connectMsg =>
      rw [proxyMakeBuffer_connect data hid] at h
      split at h
      · next hrows =>
          cases h
          have hlt : data.rows.length < 256 ^ 8 := by omega
          rw [said, clientParseBuffer_connect data.pad msg.msgAck msg.sessionId msg.clientId hlt]
          refine ⟨_, rfl, ?_⟩
          rw [ReplyTo, if_neg hsub]
          intro c i
          cases c <;> rfl
      · cases h
  | subscribeMsg => exact absurd hid hsub
  | notifyMessage => exact absurd hid hnotify
  | disconnectMsg =>
      rw [proxyMakeBuffer_disconnect data hid] at h
      cases h
      rw [said, clientParseBuffer_disconnect]
      refine ⟨_, rfl, ?_⟩
      rw [ReplyTo, if_neg hsub]
      intro c i
      cases c <;> rfl

/-- The message that the listener goes on with is the one that it worked on, and is no notification; a
    subscription that was successful asks for its reply. -/
structure GoesOn (w : World) (msg : Message) : Prop where
  kind : msg.msgId ≠ .notifyMessage
  ack : msg.msgId = .subscribeMsg → msg.msgAck ≠ ackNone
  same : ∀ idx sid, w.Subscribing idx sid →
    msg.msgId = .subscribeMsg ∧ msg.timeBaseIndex.toNat = idx ∧ msg.sessionId = sid

theorem echo_turns {msg : Message} (h : GoesOn w msg) : ∃ l, w.echo p msg = { w with listener := l } ∧ Turns w l := by
  rw [echo]
  by_cases hack : msg.msgAck = ackNone
  · rw [if_pos hack]
    refine ⟨_, rfl, nofun, fun idx sid hsub => ?_, ?_, nofun⟩
    · exact absurd hack (h.ack (h.same idx sid hsub).1)
    · rintro _ (heq | ⟨_, heq⟩) <;> cases heq
  · rw [if_neg hack]
    by_cases hid : msg.msgId = .subscribeMsg
    · rw [if_pos hid]
      refine ⟨_, rfl, nofun, fun idx sid hsub => ⟨msg, rfl, h.same idx sid hsub⟩, ?_, nofun⟩
      rintro _ (heq | ⟨_, heq⟩) <;> cases heq
      exact hid
    · rw [if_neg hid]
      have hsub : ∀ l idx sid, w.Subscribing idx sid → { w with listener := l }.Subscribing idx sid :=
        fun l idx sid hsub => absurd (h.same idx sid hsub).1 hid
      rcases hbuff : proxyMakeBuffer (w.data p) msg with _ | buff
      · refine ⟨_, rfl, nofun, hsub _, ?_, nofun⟩
        rintro _ (heq | ⟨_, heq⟩) <;> cases heq
      · refine ⟨_, rfl, nofun, hsub _, ?_, ?_⟩
        · rintro _ (heq | ⟨_, heq⟩) <;> cases heq
        · rintro _ _ ⟨⟩
          exact said_makeBuffer hid h.kind hbuff

/-- What the call leaves of the message. -/
theorem answered_spec {msg msg' : Message} {r : ClientReply} (h : answered msg r = some msg') :
    msg'.msgId = msg.msgId ∧ msg.msgId ≠ .notifyMessage ∧ msg'.timeBaseIndex = msg.timeBaseIndex ∧
      (msg.msgId = .subscribeMsg → msg'.sessionId = msg.sessionId ∧ msg'.msgAck ≠ ackNone) := by
  obtain ⟨msgId⟩ := msg
  cases r with
  | session cur =>
      cases msgId
      case connectMsg =>
        change (if cur = invalidSessionId then none else some _) = some msg' at h
        split at h
        · cases h
        · cases h
          exact ⟨rfl, nofun, rfl, nofun⟩
      all_goals cases h
  | subscribed ok =>
      cases msgId
      case subscribeMsg =>
        cases ok with
        | false => cases h
        | true =>
            cases h
            exact ⟨rfl, nofun, rfl, fun _ => ⟨rfl, ackSuccess_ne⟩⟩
      all_goals cases h
  | done =>
      cases msgId
      case disconnectMsg =>
        cases h
        exact ⟨rfl, nofun, rfl, nofun⟩
      all_goals cases h

theorem subscribing_of_called {msg : Message} (hat : w.listener = .called msg) {idx : Nat} {sid : SessionId} :
    w.Subscribing idx sid ↔
      msg.msgId = .subscribeMsg ∧ msg.timeBaseIndex.toNat = idx ∧ msg.sessionId = sid := by
  unfold Subscribing message
  rw [hat]
  simp only [Option.some.injEq, exists_eq_left']

theorem ended_turns {msg : Message}
    (hsame : ∀ idx sid, w.Subscribing idx sid →
      msg.msgId = .subscribeMsg ∧ msg.timeBaseIndex.toNat = idx ∧ msg.sessionId = sid) :
    Turns w (.ended (some msg)) where
  call _ h := by cases h
  sub idx sid hsub := ⟨msg, rfl, hsame idx sid hsub⟩
  gets _ h := by rcases h with h | ⟨_, h⟩ <;> cases h
  reply _ _ h := by cases h

theorem answer_turns {msg : Message} (hat : w.listener = .called msg) :
    ∃ l, w.answer p msg = { w with listener := l } ∧ Turns w l := by
  rw [answer]
  rcases hr : (w.clients.reply Thread.listener.id).bind (answered msg) with _ | msg'
  · exact ⟨_, rfl, ended_turns fun idx sid => (subscribing_of_called hat).1⟩
  · obtain ⟨r, -, hanswered⟩ := Option.bind_eq_some_iff.1 hr
    obtain ⟨hid, hkind, hindex, hsession⟩ := answered_spec hanswered
    refine echo_turns ⟨by rwa [hid], fun heq => (hsession (hid ▸ heq)).2, fun idx sid hsub => ?_⟩
    obtain ⟨hmsg, hidx, hsid⟩ := (subscribing_of_called hat).1 hsub
    exact ⟨hid.trans hmsg, by rw [hindex]; exact hidx, (hsession hmsg).1.trans hsid⟩

theorem getPTPEvent_turns {msg : Message} (hs : Sound p w) (hat : w.listener = .getPTPEvent msg)
    (event : PtpEvent) : Turns w (.getChronyEvent msg event) where
  call _ h := by cases h
  sub idx sid := by
    rintro ⟨msg', hmsg, hsub⟩
    rw [message, hat] at hmsg
    exact ⟨msg', hmsg, hsub⟩
  gets msg' h := by
    rcases h with h | ⟨_, h⟩ <;> cases h
    exact hs.gets msg (.inl hat)
  reply _ _ h := by cases h

theorem makeReply_turns {msg : Message} {event : PtpEvent} (hs : Sound p w)
    (hat : w.listener = .getChronyEvent msg event) (chronyEvent : ChronyEvent) :
    ∃ l, w.makeReply p msg event chronyEvent = { w with listener := l } ∧ Turns w l := by
  have hid := hs.gets msg (.inr ⟨event, hat⟩)
  rw [makeReply, proxyMakeBuffer_reply _ hid]
  refine ⟨_, rfl, nofun, ?_, ?_, ?_⟩
  · rintro idx sid ⟨msg', hmsg, hsub⟩
    rw [message, hat] at hmsg
    exact ⟨msg', hmsg, hsub⟩
  · rintro _ (heq | ⟨_, heq⟩) <;> cases heq
  · rintro _ _ ⟨⟩
    rw [said, clientParseBuffer_reply]
    refine ⟨_, rfl, ?_⟩
    rw [ReplyTo, if_pos hid]
    exact ⟨_, _, rfl⟩

/-! ## Messages that arrive -/

theorem parseBufferComm_msgId {msg msg' : Message} {rx rx' : List UInt8}
    (h : parseBufferComm msg rx = some (msg', rx')) : msg'.msgId = msg.msgId := by
  cases hid : msg.msgId <;>
    simp only [parseBufferComm, hid, parseInt_bind, parseRx_bind] at h <;> split at h <;> try split at h
  all_goals cases h
  all_goals rfl

/-- The proxy has no class for notifications. -/
theorem parseBufferHead_proxy {msg : Message} {octets rx : List UInt8}
    (h : parseBufferHead proxyClass octets = some (msg, rx)) : msg.msgId ≠ .notifyMessage := by
  rcases octets with _ | ⟨msgId, _ | ⟨msgAck, body⟩⟩
  · cases h
  · rw [parseBufferHead_one] at h
    cases h
  · rw [parseBufferHead_two] at h
    obtain ⟨id, hclass, hcomm⟩ := Option.bind_eq_some_iff.1 h
    rw [parseBufferComm_msgId hcomm]
    rintro rfl
    rw [proxyClass] at hclass
    split_ifs at hclass <;> cases hclass

theorem callOf_some {msg : Message} (h : msg.msgId ≠ .notifyMessage) :
    ∃ call, callOf msg = some call ∧ ∀ idx, call ≠ .notifyClients idx := by
  rw [callOf]
  cases hid : msg.msgId with
  | connectMsg => exact ⟨_, rfl, nofun⟩
  | subscribeMsg => exact ⟨_, rfl, nofun⟩
  | notifyMessage => exact absurd hid h
  | disconnectMsg => exact ⟨_, rfl, nofun⟩

/-- Nothing is in the hands of a listener that waits. -/
theorem not_subscribing_of_receive (hat : w.listener = .receive) (idx : Nat) (sid : SessionId) :
    ¬ w.Subscribing idx sid := by
  rintro ⟨msg, hmsg, -⟩
  rw [message, hat] at hmsg
  cases hmsg

/-- What becomes of a message that arrives: nothing, the end of the listener, or a call. -/
theorem receive_cases (hat : w.listener = .receive) (octets : List UInt8) :
    w.receive p octets = w ∨ w.receive p octets = { w with listener := .ended none } ∧ Turns w (.ended none) ∨
      ∃ msg call, callOf msg = some call ∧ (∀ idx, call ≠ .notifyClients idx) ∧ w.receive p octets =
        { w with listener := .called msg, clients := w.clients.start p.timeBases Thread.listener.id call } := by
  rw [receive]
  split
  · exact .inl rfl
  · split
    · refine .inr (.inl ⟨rfl, nofun, fun idx sid hsub => ?_, ?_, nofun⟩)
      · exact absurd hsub (not_subscribing_of_receive hat idx sid)
      · rintro _ (heq | ⟨_, heq⟩) <;> cases heq
    · next msg rx hparse =>
        obtain ⟨call, hcall, hnotify⟩ := callOf_some (parseBufferHead_proxy hparse)
        rw [hcall]
        exact .inr (.inr ⟨msg, call, hcall, hnotify, rfl⟩)

theorem receive_sound (hs : Sound p w) (hat : w.listener = .receive) (octets : List UInt8) :
    Sound p (w.receive p octets) := by
  have hidle : w.clients.pc Thread.listener.id = .idle := hs.idle fun msg h => by rw [hat] at h; cases h
  rcases receive_cases (p := p) hat octets with heq | ⟨heq, hturns⟩ |
      ⟨msg, call, hcall, hnotify, heq⟩ <;> rw [heq]
  · exact hs
  · exact hturns.sound hs hidle
  · have hstep : Shrinks p.timeBases w.clients (w.clients.start p.timeBases Thread.listener.id call)
        Thread.listener.id := start_shrinks hidle call
    have hworker : ∀ c i, (w.clients.start p.timeBases Thread.listener.id call).pc (Thread.worker c i).id =
        w.clients.pc (Thread.worker c i).id := fun c i => hstep.others _ (Thread.worker_ne_listener c i)
    refine ⟨hstep.known hs.known, hstep.owned hs.known fun idx sid hsid => ?_, fun c i => ?_, ?_,
      fun hcalled => absurd rfl (hcalled msg), fun c i hloop => ?_, ?_, nofun, hs.queued⟩
    · exact (hs.owned idx sid hsid).imp_right
        (Or.imp_right fun hsub => absurd hsub (not_subscribing_of_receive hat idx sid))
    · show OfNotifier _ _ ((w.clients.start p.timeBases Thread.listener.id call).pc _)
      rw [hworker]
      exact hs.notifier c i
    · rintro _ ⟨⟩
      exact ⟨call, hcall, start_ofCall hnotify⟩
    · rw [hworker] at hloop
      exact hs.buff c i hloop
    · rintro _ (heq | ⟨_, heq⟩) <;> cases heq

theorem receive_fresh (hs : Sound p w) (hfresh : w.Fresh) (hat : w.listener = .receive) (octets : List UInt8) :
    (w.receive p octets).Fresh := by
  have hidle : w.clients.pc Thread.listener.id = .idle := hs.idle fun msg h => by rw [hat] at h; cases h
  rcases receive_cases (p := p) hat octets with heq | ⟨heq, hturns⟩ |
      ⟨msg, call, hcall, hnotify, heq⟩ <;> rw [heq]
  · exact hfresh
  · exact hturns.fresh hfresh
  · intro c i sid hserved _
    have hstep : Shrinks p.timeBases w.clients (w.clients.start p.timeBases Thread.listener.id call)
        Thread.listener.id := start_shrinks hidle call
    have htold : ¬ Notifies (w.clients.pc (Thread.worker c i).id) sid := by
      rw [← hstep.others _ (Thread.worker_ne_listener c i)]
      exact hserved.told
    exact hfresh c i sid (hstep.served hs.known hserved htold) (not_subscribing_of_receive hat i.toNat sid)

/-! ## Sections of the listener -/

theorem named_of_creates {msg : Message} {clients : Clients} {cur sid : SessionId}
    (hc : Creates w.clients clients Thread.listener.id cur) (hne : sid ≠ cur) :
    w.named msg clients sid = w.clientId sid := by
  rw [World.named, hc.reply]
  cases w.clients.pc Thread.listener.id with
  | connect sessionId =>
      simp only
      split
      · rw [Function.update_of_ne hne]
      · rfl
  | _ => rfl

/-- Without a new session no name changes. -/
theorem named_same {msg : Message} {clients : Clients}
    (h : ∀ sessionId, w.clients.pc Thread.listener.id = .connect sessionId →
      ∃ r, clients.reply Thread.listener.id = some (.session r) ∧
        (sessionId = invalidSessionId → r = invalidSessionId)) : w.named msg clients = w.clientId := by
  rw [World.named]
  split
  · next sessionId cur hpc hreply =>
      obtain ⟨r, hr, hinvalid⟩ := h sessionId hpc
      rw [hreply] at hr
      cases hr
      exact if_neg fun hnew => hnew.2 (hinvalid hnew.1)
  · rfl

/-- What a section of the listener does: it makes a session, it subscribes one that it has in its hands, or
    it adds nothing to the tables. -/
theorem listener_cases (hs : Sound p w) {msg : Message} (hat : w.listener = .called msg) {clients : Clients}
    (h : w.clients.advance p.timeBases Thread.listener.id ok = some clients) :
    (∃ cur, Creates w.clients clients Thread.listener.id cur ∧
        (∀ idx sid, ¬ Removes (w.clients.pc Thread.listener.id) idx sid) ∧
        (∀ idx sid, ¬ w.Subscribing idx sid) ∧ ∀ sid, sid ≠ cur → w.named msg clients sid = w.clientId sid) ∨
      (∃ idx sid, Subscribes w.clients clients Thread.listener.id idx sid ∧
        (∀ idx sid, ¬ Removes (w.clients.pc Thread.listener.id) idx sid) ∧
        w.Subscribing idx sid ∧ idx ∈ p.timeBases ∧ w.named msg clients = w.clientId) ∨
      (Shrinks p.timeBases w.clients clients Thread.listener.id ∧ w.named msg clients = w.clientId) := by
  obtain ⟨call, hcall, hof⟩ := hs.called msg hat
  by_cases hconnect : ∃ sessionId, w.clients.pc Thread.listener.id = .connect sessionId
  · obtain ⟨sessionId, hpc⟩ := hconnect
    have hadv := h
    rw [advance, hpc] at hadv
    rcases connect_cases p.timeBases hpc hadv with ⟨-, cur, hnew⟩ | ⟨r, hreply, hr, -, hstep⟩
    · refine .inl ⟨cur, hnew, fun idx sid hr => ?_, fun idx sid hsub => ?_,
        fun sid hne => named_of_creates hnew hne⟩
      · rw [hpc] at hr
        exact hr
      -- the call of a subscription does not connect
      obtain ⟨hid, -⟩ := (subscribing_of_called hat).1 hsub
      rw [callOf, hid] at hcall
      cases hcall
      rw [hpc] at hof
      exact hof
    · refine .inr (.inr ⟨hstep, named_same fun sessionId' hpc' => ⟨r, hreply, fun heq => hr ?_⟩⟩)
      rw [hpc] at hpc'
      cases hpc'
      exact heq
  · have hnamed : w.named msg clients = w.clientId :=
      named_same fun sessionId hpc => absurd ⟨sessionId, hpc⟩ hconnect
    rcases advance_cases h with ⟨hpc, -⟩ | ⟨idx, sid, hpc, hsubs⟩ | hstep
    · exact absurd ⟨_, hpc⟩ hconnect
    · rw [hpc] at hof
      have hnone : ∀ idx sid, ¬ Removes (w.clients.pc Thread.listener.id) idx sid := by
        intro idx sid hr
        rw [hpc] at hr
        exact hr
      cases call with
      | subscribe timeBaseIndex sessionId =>
          obtain ⟨rfl, rfl, hbase⟩ := hof
          refine .inr (.inl ⟨idx, sid, hsubs, hnone, (subscribing_of_called hat).2 ?_, hbase, hnamed⟩)
          rw [callOf] at hcall
          cases hid : msg.msgId <;> rw [hid] at hcall <;> cases hcall
          exact ⟨rfl, rfl, rfl⟩
      | connect sessionId => exact hof.elim
      | notifyClients idx => exact hof.elim
      | removeClient sid => exact hof.elim
    · exact .inr (.inr ⟨hstep, hnamed⟩)

theorem called_others (hs : Sound p w) {msg : Message} (hat : w.listener = .called msg) {clients : Clients}
    (h : w.clients.advance p.timeBases Thread.listener.id ok = some clients) (c : Clock) (i : UInt64) :
    clients.pc (Thread.worker c i).id = w.clients.pc (Thread.worker c i).id := by
  have hne := Thread.worker_ne_listener c i
  rcases listener_cases hs hat h with ⟨cur, hnew, -⟩ | ⟨idx, sid, hsubs, -⟩ | ⟨hstep, -⟩
  · exact hnew.others _ hne
  · exact hsubs.others _ hne
  · exact hstep.others _ hne

theorem called_sound (hs : Sound p w) {msg : Message} (hat : w.listener = .called msg) {clients : Clients}
    (h : w.clients.advance p.timeBases Thread.listener.id ok = some clients) :
    Sound p { w with clients, clientId := w.named msg clients } := by
  have hworker := called_others hs hat h
  obtain ⟨call, hcall, hof⟩ := hs.called msg hat
  refine ⟨?_, ?_, fun c i => ?_, fun msg' hmsg => ?_, fun hno => absurd hat (hno msg), fun c i hloop => ?_,
    hs.gets, hs.reply, hs.queued⟩
  · rcases listener_cases hs hat h with ⟨cur, hnew, -⟩ | ⟨idx, sid, hsubs, -, -, hbase, -⟩ | ⟨hstep, -⟩
    · exact hnew.known hs.known
    · exact hsubs.known hbase hs.known
    · exact hstep.known hs.known
  · rcases listener_cases hs hat h with ⟨cur, hnew, hnone, -⟩ | ⟨idx, sid, hsubs, hnone, hin, -⟩ | ⟨hstep, -⟩
    · exact hnew.owned hnone hs.owned
    · exact hsubs.owned hnone hin hs.owned
    · exact hstep.owned hs.known hs.owned
  · show OfNotifier _ _ (clients.pc _)
    rw [hworker]
    exact hs.notifier c i
  · rw [show msg' = msg by rw [hat] at hmsg; cases hmsg; rfl]
    exact ⟨call, hcall, advance_ofCall hof h⟩
  · have hloop' : Looping (clients.pc (Thread.worker c i).id) := hloop
    rw [hworker] at hloop'
    exact hs.buff c i hloop'

theorem called_fresh (hs : Sound p w) (hfresh : w.Fresh) {msg : Message} (hat : w.listener = .called msg)
    {clients : Clients} (h : w.clients.advance p.timeBases Thread.listener.id ok = some clients) :
    { w with clients, clientId := w.named msg clients }.Fresh := by
  intro c i sid hserved hsub
  have hne := Thread.worker_ne_listener c i
  have htold : ¬ Notifies (w.clients.pc (Thread.worker c i).id) sid := by
    rw [← called_others hs hat h]
    exact hserved.told
  show heard c i (w.pending (w.named msg clients sid)) = w.events c i
  rcases listener_cases hs hat h with ⟨cur, hnew, hnone, hno, hnamed⟩ |
    ⟨idx, sid', hsubs, hnone, hin, -, hnamed⟩ | ⟨hstep, hnamed⟩
  · obtain ⟨hsid, hold⟩ := hnew.served hnone hs.owned (hno i.toNat sid) hne hserved
    rw [hnamed sid hsid]
    exact hfresh c i sid hold (hno i.toNat sid)
  · rw [hnamed]
    exact hfresh c i sid (hsubs.served hnone hin hsub hne hserved) hsub
  · rw [hnamed]
    exact hfresh c i sid (hstep.served hs.known hserved htold) hsub

/-! ## Replies that are sent -/

/-- The message tells the client of the event that is published; where it tells nothing, the client has
    the event already. -/
def Current (w : World) (name octets : List UInt8) (c : Clock) (i : UInt64) : Prop :=
  ∀ done, said octets = some done → (done.tells c i).getD (heard c i (w.pending name)) = w.events c i

/-- The reply to a subscription is current when it is sent, for every session of its client that is served.
    That is all that a step has to meet. -/
def RepliesCurrent (w : World) : Event → Prop
  | .go .listener ok => ∀ msg rxBuff, w.listener = .sendBuffer msg rxBuff → msg.msgId = .subscribeMsg →
    w.clients.HasTransmitter msg.sessionId → w.sendsTo ok (w.clientId msg.sessionId) = true →
      ∀ c sid, w.Served c msg.timeBaseIndex sid → w.clientId sid = w.clientId msg.sessionId →
        w.Current (w.clientId msg.sessionId) rxBuff c msg.timeBaseIndex
  | _ => True

theorem subscribing_of_sendBuffer {msg : Message} {rxBuff : List UInt8} (hat : w.listener = .sendBuffer msg rxBuff)
    {idx : Nat} {sid : SessionId} : w.Subscribing idx sid ↔
      msg.msgId = .subscribeMsg ∧ msg.timeBaseIndex.toNat = idx ∧ msg.sessionId = sid := by
  unfold Subscribing message
  rw [hat]
  simp only [Option.some.injEq, exists_eq_left']

theorem reply_sound (hs : Sound p w) {msg : Message} {rxBuff : List UInt8}
    (hat : w.listener = .sendBuffer msg rxBuff) : Sound p (w.reply msg rxBuff ok) := by
  have hidle : w.clients.pc Thread.listener.id = .idle := hs.idle fun msg h => by rw [hat] at h; cases h
  rw [reply]
  split
  · next hsent =>
      refine ⟨hs.known, fun idx sid hsid => ?_, hs.notifier, nofun, fun _ => hidle, hs.buff, ?_, nofun,
        fun name octets hmem => ?_⟩
      · -- the session that was in the hands of the listener is in the table
        rcases hs.owned idx sid hsid with hmem | hr | hsub
        · exact .inl hmem
        · exact .inr (.inl hr)
        · obtain ⟨-, -, rfl⟩ := (subscribing_of_sendBuffer hat).1 hsub
          exact .inl hsent.1.2
      · rintro _ (heq | ⟨_, heq⟩) <;> cases heq
      · rcases mem_queue_push hmem with hold | rfl
        · exact hs.queued name octets hold
        · obtain ⟨done, hdone, -⟩ := hs.reply msg octets hat
          exact ⟨done, hdone⟩
  · exact (ended_turns fun idx sid => (subscribing_of_sendBuffer hat).1).sound hs hidle

theorem reply_fresh_iff (hs : Sound p w) (hfresh : w.Fresh) {msg : Message} {rxBuff : List UInt8}
    (hat : w.listener = .sendBuffer msg rxBuff) :
    (w.reply msg rxBuff ok).Fresh ↔ w.RepliesCurrent (.go .listener ok) := by
  have hguard : w.RepliesCurrent (.go .listener ok) ↔
      (msg.msgId = .subscribeMsg → w.clients.HasTransmitter msg.sessionId →
        w.sendsTo ok (w.clientId msg.sessionId) = true →
        ∀ c sid, w.Served c msg.timeBaseIndex sid → w.clientId sid = w.clientId msg.sessionId →
          w.Current (w.clientId msg.sessionId) rxBuff c msg.timeBaseIndex) := by
    constructor
    · exact fun h => h msg rxBuff hat
    · intro h msg' rxBuff' hat'
      rw [hat] at hat'
      cases hat'
      exact h
  obtain ⟨done, hdone, hreply⟩ := hs.reply msg rxBuff hat
  rw [hguard, reply]
  split
  · next hsent =>
      have hfreed : ∀ idx sid, ¬ { w.push (w.clientId msg.sessionId) rxBuff with
          listener := .receive }.Subscribing idx sid := not_subscribing_of_receive rfl
      constructor
      · intro hafter _ _ _ c sid hserved hname done' hdone'
        have hheard := hafter c msg.timeBaseIndex sid hserved (hfreed _ _)
        have hbefore : heard c msg.timeBaseIndex ((w.push (w.clientId msg.sessionId) rxBuff).pending
            (w.clientId sid)) = w.events c msg.timeBaseIndex := hheard
        rw [hname, pending_push w _ hdone', heard_append] at hbefore
        exact hbefore
      · intro hcurrent c i sid hserved _
        show heard c i ((w.push (w.clientId msg.sessionId) rxBuff).pending (w.clientId sid)) = w.events c i
        by_cases hsub : w.Subscribing i.toNat sid
        · -- the session was in the hands of the listener
          obtain ⟨hid, hidx, hsid⟩ := (subscribing_of_sendBuffer hat).1 hsub
          have hi : msg.timeBaseIndex = i := UInt64.toNat_inj.1 hidx
          subst hi hsid
          rw [pending_push w _ hdone, heard_append]
          exact hcurrent hid hsent.1 hsent.2 c _ hserved rfl done hdone
        · have hold := hfresh c i sid hserved hsub
          by_cases htells : done.tells c i = none
          · exact (heard_push w _ _ hdone htells).trans hold
          · by_cases hname : w.clientId sid = w.clientId msg.sessionId
            · have hid : msg.msgId = .subscribeMsg := by
                by_contra hid
                rw [ReplyTo, if_neg hid] at hreply
                exact htells (hreply c i)
              rw [ReplyTo, if_pos hid] at hreply
              obtain ⟨ptpEvent, chronyEvent, rfl⟩ := hreply
              have hi : i = msg.timeBaseIndex := by
                by_contra hi
                exact htells (tells_reply_other hi ptpEvent chronyEvent)
              subst hi
              rw [hname, pending_push w _ hdone, heard_append]
              exact hcurrent hid hsent.1 hsent.2 c sid hserved hname _ hdone
            · rw [pending_push_of_ne w hname]
              exact hold
  · next hlost =>
      refine iff_of_true ?_ fun _ htransmitter hsends => absurd ⟨htransmitter, hsends⟩ hlost
      exact (ended_turns fun idx sid => (subscribing_of_sendBuffer hat).1).fresh hfresh

/-! ## Runs -/

/-- A client that takes a message hears what was in its queue already. -/
theorem take_pending {name : List UInt8} (h : w.take name = some w') :
    w'.pending = w.pending ∧ w'.clients = w.clients ∧ w'.clientId = w.clientId ∧ w'.events = w.events ∧
      w'.notifyBuff = w.notifyBuff ∧ w'.listener = w.listener ∧
      ∀ name, ∀ octets ∈ w'.queue name, octets ∈ w.queue name := by
  rw [take] at h
  split at h
  · cases h
  · next octets rest hqueue =>
      obtain ⟨done, hdone, rfl⟩ := Option.map_eq_some_iff.1 h
      refine ⟨?_, rfl, rfl, rfl, rfl, rfl, fun name' octets' hmem => ?_⟩
      · funext name'
        rw [pending, pending]
        by_cases hname : name' = name
        · subst hname
          simp only [Function.update_self]
          rw [hqueue, List.filterMap_cons_some hdone, List.append_assoc]
          rfl
        · simp only [Function.update_of_ne hname]
      · have hmem' : octets' ∈ Function.update w.queue name rest name' := hmem
        by_cases hname : name' = name
        · subst hname
          rw [Function.update_self] at hmem'
          rw [hqueue]
          exact List.mem_cons_of_mem _ hmem'
        · rwa [Function.update_of_ne hname] at hmem'

theorem take_sound {name : List UInt8} (hs : Sound p w) (h : w.take name = some w') : Sound p w' := by
  obtain ⟨-, hclients, -, hevents, hbuff, hlistener, hqueue⟩ := take_pending h
  have hsub : w'.Subscribing = w.Subscribing := by
    unfold Subscribing message
    rw [hlistener]
  refine ⟨?_, ?_, ?_, ?_, ?_, fun c i hloop => ?_, ?_, ?_, fun name' octets hmem =>
    hs.queued name' octets (hqueue name' octets hmem)⟩
  · rw [hclients]
    exact hs.known
  · rw [hclients, hsub]
    exact hs.owned
  · rw [hclients]
    exact hs.notifier
  · rw [hclients, hlistener]
    exact hs.called
  · rw [hclients, hlistener]
    exact hs.idle
  · rw [hclients] at hloop
    rw [notice, hbuff, hevents]
    exact hs.buff c i hloop
  · rw [hlistener]
    exact hs.gets
  · rw [hlistener]
    exact hs.reply

theorem take_fresh {name : List UInt8} (hfresh : w.Fresh) (h : w.take name = some w') : w'.Fresh := by
  obtain ⟨hpending, hclients, hclientId, hevents, -, hlistener, -⟩ := take_pending h
  have hsub : w'.Subscribing = w.Subscribing := by
    unfold Subscribing message
    rw [hlistener]
  unfold Fresh Served
  rw [hpending, hclients, hclientId, hevents, hsub]
  exact hfresh

/-- A step of the listener keeps the clients fresh exactly when the reply, if it sends one, is current. -/
theorem listen_kept (hs : Sound p w) (h : w.listen p ok = some w') :
    Sound p w' ∧ (w.Fresh → (w'.Fresh ↔ w.RepliesCurrent (.go .listener ok))) := by
  have hguard : (∀ msg rxBuff, w.listener ≠ .sendBuffer msg rxBuff) → w.RepliesCurrent (.go .listener ok) :=
    fun hno msg rxBuff hat => absurd hat (hno msg rxBuff)
  rw [listen] at h
  split at h
  · cases h
  · next msg hat =>
      have hno := hguard fun _ _ heq => by rw [hat] at heq; cases heq
      split at h
      · next hidle =>
          cases h
          obtain ⟨l, heq, hturns⟩ := answer_turns (p := p) hat
          rw [heq]
          exact ⟨hturns.sound hs hidle, fun hfresh => iff_of_true (hturns.fresh hfresh) hno⟩
      · obtain ⟨clients, hadv, rfl⟩ := Option.map_eq_some_iff.1 h
        exact ⟨called_sound hs hat hadv, fun hfresh => iff_of_true (called_fresh hs hfresh hat hadv) hno⟩
  · next msg hat =>
      cases h
      have hno := hguard fun _ _ heq => by rw [hat] at heq; cases heq
      have hidle := hs.idle fun msg h => by rw [hat] at h; cases h
      have hturns := getPTPEvent_turns hs hat (w.events .ptp msg.timeBaseIndex)
      exact ⟨hturns.sound hs hidle, fun hfresh => iff_of_true (hturns.fresh hfresh) hno⟩
  · next msg event hat =>
      cases h
      have hno := hguard fun _ _ heq => by rw [hat] at heq; cases heq
      have hidle := hs.idle fun msg h => by rw [hat] at h; cases h
      obtain ⟨l, heq, hturns⟩ := makeReply_turns hs hat (w.events .sys msg.timeBaseIndex)
      rw [heq]
      exact ⟨hturns.sound hs hidle, fun hfresh => iff_of_true (hturns.fresh hfresh) hno⟩
  · next msg rxBuff hat =>
      cases h
      exact ⟨reply_sound hs hat, fun hfresh => reply_fresh_iff hs hfresh hat⟩
  · cases h

theorem step_kept (hs : Sound p w) {e : Event} (h : w.step p e = some w') :
    Sound p w' ∧ (w.Fresh → (w'.Fresh ↔ w.RepliesCurrent e)) := by
  cases e with
  | publish c i event =>
      rw [step] at h
      split at h
      · next hgoes =>
          cases h
          exact ⟨publish_sound hs hgoes.1 hgoes.2 event,
            fun hfresh => iff_of_true (publish_fresh hs hfresh hgoes.1 hgoes.2 event) trivial⟩
      · cases h
  | go t ok =>
      cases t with
      | listener => exact listen_kept hs h
      | worker c i =>
          have hworks := work_cases hs h
          exact ⟨hworks.sound hs, fun hfresh => iff_of_true (hworks.fresh hs hfresh) trivial⟩
  | receive octets =>
      rw [step] at h
      split at h
      · next hat =>
          cases h
          exact ⟨receive_sound hs hat octets,
            fun hfresh => iff_of_true (receive_fresh hs hfresh hat octets) trivial⟩
      · cases h
  | take name => exact ⟨take_sound hs h, fun hfresh => iff_of_true (take_fresh hfresh h) trivial⟩

end

/-- **The clients have the events that are published**: in every run of the proxy with its clients, whatever
    arrives, and whatever order the sections, the notifications and the replies come in, every client that
    is served has heard, or has in its queue, the event of the clock, in every state, exactly when every
    reply to a subscription is current at the moment when it is sent. -/
theorem throughout_fresh_iff (p : Serving) (es : List Event) :
    Runs.Throughout (step p) Fresh init es ↔ Runs.Along (step p) RepliesCurrent init es :=
  Runs.throughout_iff_along (fun _ _ _ hs hstep => (step_kept hs hstep).1)
    (fun _ _ _ hs hfresh hstep => (step_kept hs hstep).2 hfresh) (init_sound p) init_fresh es

end World

end PtpMgmt.ClkMgr
