import PtpMgmt.ClkMgr.Delivered

set_option autoImplicit false

/-! # What was published

The clients are told nothing that no clock published for the time base, and the notifications come in the
order of the publications. -/

namespace PtpMgmt.ClkMgr

open Wire Clients

/-- The event that a notification carries for a time base. -/
def ClientDone.notifies : (c : Clock) → UInt64 → ClientDone → Option c.Event
  | .ptp, i, .setTimeBaseStatePtp timeBaseIndex ptpData => if timeBaseIndex = i then some ptpData else none
  | .sys, i, .setTimeBaseStateSys timeBaseIndex chronyData =>
    if timeBaseIndex = i then some chronyData else none
  | _, _, _ => none

theorem notifies_notified (c : Clock) (i : UInt64) (event : c.Event) :
    (notified c i event).notifies c i = some event := by
  cases c <;> exact if_pos rfl

theorem notifies_notified_other {c c' : Clock} {i i' : UInt64} (h : ¬ (c' = c ∧ i' = i)) (event : c.Event) :
    (notified c i event).notifies c' i' = none := by
  cases c <;> cases c' <;> first | rfl | exact if_neg fun heq => h ⟨rfl, heq.symm⟩

/-- A notification tells its event. -/
theorem notifies_of_tells_none {c : Clock} {i : UInt64} {done : ClientDone} (h : done.tells c i = none) :
    done.notifies c i = none := by
  cases c <;> cases done <;> first | exact h | rfl

namespace World

/-! ## Publications of a run -/

/-- The event that is published for the time base. -/
def publication : (c : Clock) → UInt64 → Event → Option c.Event
  | .ptp, i, .publish .ptp timeBaseIndex event => if timeBaseIndex = i then some event else none
  | .sys, i, .publish .sys timeBaseIndex event => if timeBaseIndex = i then some event else none
  | _, _, _ => none

def publications (c : Clock) (i : UInt64) (es : List Event) : List c.Event := es.filterMap (publication c i)

theorem publication_self (c : Clock) (i : UInt64) (event : c.Event) :
    publication c i (.publish c i event) = some event := by
  cases c <;> exact if_pos rfl

theorem publication_other {c c' : Clock} {i i' : UInt64} (h : ¬ (c' = c ∧ i' = i)) (event : c.Event) :
    publication c' i' (.publish c i event) = none := by
  cases c <;> cases c' <;> first | rfl | exact if_neg fun heq => h ⟨rfl, heq.symm⟩

theorem publications_snoc (c : Clock) (i : UInt64) (es : List Event) (e : Event) :
    publications c i (es ++ [e]) = publications c i es ++ (publication c i e).toList := by
  rw [publications, List.filterMap_append]
  cases h : publication c i e <;> simp [publications, h]

/-- The notifications among the calls of a client. -/
def notifications (c : Clock) (i : UInt64) (calls : List ClientDone) : List c.Event :=
  calls.filterMap (ClientDone.notifies c i)

/-- What the events in the hands of the proxy and of the clients have to do with those that were
    published. -/
structure Telling (es : List Event) (w : World) : Prop where
  last : ∀ c i, ((publications c i es).getLast?).getD c.clear = w.events c i
  begun : ∀ c i, (∃ sid, Notifies (w.clients.pc (Thread.worker c i).id) sid) → publications c i es ≠ []
  ordered : ∀ name c i, Repeats (notifications c i (w.pending name)) (publications c i es)
  told : ∀ name c i, ∀ done ∈ w.pending name, ∀ event, done.tells c i = some event → event ∈ publications c i es
  read : ∀ msg event, w.listener = .getChronyEvent msg event →
    event = Clock.ptp.clear ∨ event ∈ publications .ptp msg.timeBaseIndex es
  replies : ∀ msg rxBuff, w.listener = .sendBuffer msg rxBuff → ∀ done, said rxBuff = some done → ∀ c i,
    done.notifies c i = none ∧ ∀ event, done.tells c i = some event → event ∈ publications c i es

theorem init_telling : Telling [] init where
  last _ _ := rfl
  begun _ _ h := by
    obtain ⟨_, h⟩ := h
    exact h.elim
  ordered _ _ _ := .nil
  told _ _ _ _ h := by cases h
  read _ _ h := by cases h
  replies _ _ h := by cases h

section

variable {p : Serving} {es : List Event} {w w' : World} {c : Clock} {i : UInt64} {ok : Bool}

/-- The event that is published is clear, or one that was published. -/
theorem Telling.event_mem (h : Telling es w) (c : Clock) (i : UInt64) :
    w.events c i = c.clear ∨ w.events c i ∈ publications c i es := by
  rw [← h.last c i]
  rcases hlast : (publications c i es).getLast? with _ | event
  · exact .inl rfl
  · exact .inr (List.mem_of_getLast? hlast)

/-- A thread with a notification sends the last publication. -/
theorem Telling.split (h : Telling es w) (hn : ∃ sid, Notifies (w.clients.pc (Thread.worker c i).id) sid) :
    ∃ l, publications c i es = l ++ [w.events c i] := by
  rcases List.eq_nil_or_concat (publications c i es) with hnil | ⟨l, event, heq⟩
  · exact absurd hnil (h.begun c i hn)
  · have hlast := h.last c i
    rw [heq, List.concat_eq_append, List.getLast?_append, List.getLast?_singleton] at hlast
    refine ⟨l, ?_⟩
    rw [← hlast, heq, List.concat_eq_append]
    rfl

/-- The same events, as long as none is published. -/
theorem Telling.same {e : Event} (h : Telling es w) (hno : ∀ c i, publication c i e = none) :
    Telling (es ++ [e]) w := by
  have hsame : ∀ c i, publications c i (es ++ [e]) = publications c i es := by
    intro c i
    rw [publications_snoc, hno]
    exact List.append_nil _
  refine ⟨fun c i => ?_, fun c i => ?_, fun name c i => ?_, fun name c i => ?_, fun msg event => ?_,
    fun msg rxBuff hat done hdone c i => ?_⟩ <;> simp only [hsame]
  · exact h.last c i
  · exact h.begun c i
  · exact h.ordered name c i
  · exact h.told name c i
  · exact h.read msg event
  · exact h.replies msg rxBuff hat done hdone c i

theorem publish_telling (h : Telling es w) (hbase : i.toNat ∈ p.timeBases)
    (hidle : w.clients.pc (Thread.worker c i).id = .idle) (event : c.Event) :
    Telling (es ++ [.publish c i event]) (w.publish p c i event) := by
  have hshrinks := publish_shrinks (p := p) hidle event
  have hself : publications c i (es ++ [.publish c i event]) = publications c i es ++ [event] := by
    rw [publications_snoc, publication_self]
    rfl
  have hother : ∀ {c' i'}, ¬ (c' = c ∧ i' = i) →
      publications c' i' (es ++ [.publish c i event]) = publications c' i' es := by
    intro c' i' hne
    rw [publications_snoc, publication_other hne]
    exact List.append_nil _
  have hmem : ∀ c' i' x, x ∈ publications c' i' es → x ∈ publications c' i' (es ++ [.publish c i event]) := by
    intro c' i' x hx
    rw [publications_snoc]
    exact List.mem_append_left _ hx
  refine ⟨fun c' i' => ?_, fun c' i' hn => ?_, fun name c' i' => ?_, fun name c' i' done hdone event' htells =>
    hmem c' i' event' (h.told name c' i' done hdone event' htells), fun msg event' hat =>
    (h.read msg event' hat).imp_right (hmem _ _ _), fun msg rxBuff hat done hdone c' i' =>
    (h.replies msg rxBuff hat done hdone c' i').imp_right fun hall event' htells =>
      hmem c' i' event' (hall event' htells)⟩
  · show _ = w.events.set c i event c' i'
    by_cases hsame : c' = c ∧ i' = i
    · obtain ⟨rfl, rfl⟩ := hsame
      rw [hself, Events.set_self, List.getLast?_concat]
      rfl
    · rw [hother hsame, Events.set_other w.events hsame]
      exact h.last c' i'
  · by_cases hsame : c' = c ∧ i' = i
    · obtain ⟨rfl, rfl⟩ := hsame
      rw [hself]
      exact List.append_ne_nil_of_right_ne_nil _ (List.cons_ne_nil _ _)
    · have ht : (Thread.worker c' i').id ≠ (Thread.worker c i).id := fun heq => hsame (Thread.worker_inj heq)
      rw [hshrinks.others _ ht] at hn
      rw [hother hsame]
      exact h.begun c' i' hn
  · show Repeats (notifications c' i' (w.pending name)) _
    rw [publications_snoc]
    cases publication c' i' (.publish c i event) with
    | none => simpa using h.ordered name c' i'
    | some event' => exact (h.ordered name c' i').snoc event'

theorem notifications_push {name octets : List UInt8} {done : ClientDone} (w : World) (hdone : said octets = some done)
    (c : Clock) (i : UInt64) : notifications c i ((w.push name octets).pending name) =
      notifications c i (w.pending name) ++ (done.notifies c i).toList := by
  rw [pending_push w name hdone, notifications, List.filterMap_append]
  cases hn : done.notifies c i <;> simp [notifications, hn]

theorem mem_pending_push {name name' octets : List UInt8} {done done' : ClientDone} {w : World}
    (hdone : said octets = some done) (h : done' ∈ (w.push name octets).pending name') :
    done' ∈ w.pending name' ∨ done' = done := by
  by_cases hname : name' = name
  · subst hname
    rw [pending_push w name' hdone, List.mem_append, List.mem_singleton] at h
    exact h
  · rw [pending_push_of_ne w hname] at h
    exact .inl h

theorem Works.telling (hs : Sound p w) (ht : Telling es w) (h : Works p w c i w') : Telling es w' := by
  have hbegun : ∀ c' i', (∃ sid, Notifies (w'.clients.pc (Thread.worker c' i').id) sid) →
      ∃ sid, Notifies (w.clients.pc (Thread.worker c' i').id) sid := by
    rintro c' i' ⟨sid, hn⟩
    by_cases hsame : c' = c ∧ i' = i
    · obtain ⟨rfl, rfl⟩ := hsame
      cases h with
      | makes _ hfrom =>
          rw [hfrom]
          exact ⟨sid, trivial⟩
      | sends hpc =>
          rw [hpc]
          exact ⟨_, List.mem_cons_self⟩
      | goes _ hfrom => exact ⟨sid, hfrom sid hn⟩
    · rw [h.others fun heq => hsame (Thread.worker_inj heq)] at hn
      exact ⟨sid, hn⟩
  have hother : w'.pending = w.pending → Telling es w' := by
    intro hpending
    refine ⟨fun c' i' => ?_, fun c' i' hn => ht.begun c' i' (hbegun c' i' hn), ?_, ?_, ?_, ?_⟩
    · rw [h.events]
      exact ht.last c' i'
    · rw [hpending]
      exact ht.ordered
    · rw [hpending]
      exact ht.told
    · rw [h.listener]
      exact ht.read
    · rw [h.listener]
      exact ht.replies
  cases h with
  | makes => exact hother rfl
  | goes => exact hother rfl
  | @sends clients sid todo l hpc hpc' hof hstep =>
      have hsaid : said (w.notifyBuff c i) = some (notified c i (w.events c i)) := by
        rw [hs.buff c i (by rw [hpc]; trivial)]
        exact said_notice p w c i
      obtain ⟨old, hold⟩ := ht.split (c := c) (i := i) ⟨sid, by rw [hpc]; exact List.mem_cons_self⟩
      refine ⟨ht.last, fun c' i' hn => ht.begun c' i' (hbegun c' i' hn), fun name c' i' => ?_,
        fun name c' i' done hdone event htells => ?_, ht.read, ht.replies⟩
      · show Repeats (notifications c' i' ((w.push (w.clientId sid) (w.notifyBuff c i)).pending name)) _
        by_cases hname : name = w.clientId sid
        · subst hname
          rw [notifications_push w hsaid]
          by_cases hsame : c' = c ∧ i' = i
          · obtain ⟨rfl, rfl⟩ := hsame
            rw [notifies_notified, hold]
            have hordered := ht.ordered (w.clientId sid) c' i'
            rw [hold] at hordered
            exact hordered.tell
          · rw [notifies_notified_other hsame]
            simpa using ht.ordered (w.clientId sid) c' i'
        · rw [pending_push_of_ne w hname]
          exact ht.ordered name c' i'
      · have hpushed : done ∈ (w.push (w.clientId sid) (w.notifyBuff c i)).pending name := hdone
        rcases mem_pending_push hsaid hpushed with hdone | rfl
        · exact ht.told name c' i' done hdone event htells
        · by_cases hsame : c' = c ∧ i' = i
          · obtain ⟨rfl, rfl⟩ := hsame
            rw [tells_notified] at htells
            cases htells
            rw [hold]
            exact List.mem_append_right _ (List.mem_singleton_self _)
          · rw [tells_notified_other hsame] at htells
            cases htells

/-! ## The listener -/

/-- The listener goes on, with what it reads and what it is to send. -/
theorem Telling.listener_to {l : ListenerPc} (h : Telling es w)
    (hread : ∀ msg event, l = .getChronyEvent msg event →
      event = Clock.ptp.clear ∨ event ∈ publications .ptp msg.timeBaseIndex es)
    (hreplies : ∀ msg rxBuff, l = .sendBuffer msg rxBuff → ∀ done, said rxBuff = some done → ∀ c i,
      done.notifies c i = none ∧ ∀ event, done.tells c i = some event → event ∈ publications c i es) :
    Telling es { w with listener := l } :=
  ⟨h.last, h.begun, h.ordered, h.told, hread, hreplies⟩

/-- The listener of a thread that is in a call changes what belongs to the calls only. -/
theorem Telling.clients_to {clients : Clients} (clientId : SessionId → List UInt8) (h : Telling es w)
    (hworker : ∀ c i, clients.pc (Thread.worker c i).id = w.clients.pc (Thread.worker c i).id) :
    Telling es { w with clients, clientId } := by
  refine ⟨h.last, fun c i hn => h.begun c i ?_, h.ordered, h.told, h.read, h.replies⟩
  rwa [← hworker]

theorem echo_telling (h : Telling es w) {msg : Message} (hnotify : msg.msgId ≠ .notifyMessage) :
    Telling es (w.echo p msg) := by
  rw [echo]
  split
  · exact h.listener_to (by rintro _ _ ⟨⟩) (by rintro _ _ ⟨⟩)
  · split
    · exact h.listener_to (by rintro _ _ ⟨⟩) (by rintro _ _ ⟨⟩)
    · next hsub =>
        rcases hbuff : proxyMakeBuffer (w.data p) msg with _ | buff
        · exact h.listener_to (by rintro _ _ ⟨⟩) (by rintro _ _ ⟨⟩)
        · refine h.listener_to (by rintro _ _ ⟨⟩) ?_
          rintro _ _ ⟨⟩ done hdone c i
          obtain ⟨done', hdone', hreply⟩ := said_makeBuffer hsub hnotify hbuff
          rw [hdone'] at hdone
          cases hdone
          rw [ReplyTo, if_neg hsub] at hreply
          refine ⟨notifies_of_tells_none (hreply c i), fun event htells => ?_⟩
          rw [hreply c i] at htells
          cases htells

theorem listen_telling (hs : Sound p w) (h : Telling es w) (hstep : w.listen p ok = some w') : Telling es w' := by
  rw [listen] at hstep
  split at hstep
  · cases hstep
  · next msg hat =>
      split at hstep
      · cases hstep
        rw [answer]
        rcases hr : (w.clients.reply Thread.listener.id).bind (answered msg) with _ | msg'
        · exact h.listener_to (by rintro _ _ ⟨⟩) (by rintro _ _ ⟨⟩)
        · obtain ⟨r, -, hanswered⟩ := Option.bind_eq_some_iff.1 hr
          obtain ⟨hid, hkind, -⟩ := answered_spec hanswered
          exact echo_telling h (by rwa [hid])
      · obtain ⟨clients, hadv, rfl⟩ := Option.map_eq_some_iff.1 hstep
        exact h.clients_to _ (called_others hs hat hadv)
  · next msg hat =>
      cases hstep
      refine h.listener_to ?_ (by rintro _ _ ⟨⟩)
      rintro _ _ ⟨⟩
      exact h.event_mem .ptp msg.timeBaseIndex
  · next msg event hat =>
      cases hstep
      have hid := hs.gets msg (.inr ⟨event, hat⟩)
      rw [makeReply, proxyMakeBuffer_reply _ hid]
      refine h.listener_to (by rintro _ _ ⟨⟩) ?_
      rintro _ _ ⟨⟩ done hdone c i
      rw [said, clientParseBuffer_reply] at hdone
      cases hdone
      constructor
      · cases c <;> rfl
      · intro event' htells
        cases c with
        | ptp =>
            simp only [ClientDone.tells] at htells
            split at htells
            · next hsame =>
                cases htells
                obtain ⟨rfl, hclear⟩ := hsame
                exact (h.read msg _ hat).resolve_left hclear
            · cases htells
        | sys =>
            simp only [ClientDone.tells] at htells
            split at htells
            · next hsame =>
                cases htells
                obtain ⟨rfl, hclear⟩ := hsame
                exact (h.event_mem .sys msg.timeBaseIndex).resolve_left hclear
            · cases htells
  · next msg rxBuff hat =>
      cases hstep
      obtain ⟨done, hdone, -⟩ := hs.reply msg rxBuff hat
      have hreplies := h.replies msg rxBuff hat done hdone
      rw [reply]
      split
      · refine ⟨h.last, h.begun, fun name c i => ?_, fun name c i done' hin event htells => ?_, by rintro _ _ ⟨⟩,
          by rintro _ _ ⟨⟩⟩
        · show Repeats (notifications c i ((w.push (w.clientId msg.sessionId) rxBuff).pending name)) _
          by_cases hname : name = w.clientId msg.sessionId
          · subst hname
            rw [notifications_push w hdone, (hreplies c i).1]
            simpa using h.ordered (w.clientId msg.sessionId) c i
          · rw [pending_push_of_ne w hname]
            exact h.ordered name c i
        · have hpushed : done' ∈ (w.push (w.clientId msg.sessionId) rxBuff).pending name := hin
          rcases mem_pending_push hdone hpushed with hin | rfl
          · exact h.told name c i done' hin event htells
          · exact (hreplies c i).2 event htells
      · exact h.listener_to (by rintro _ _ ⟨⟩) (by rintro _ _ ⟨⟩)
  · cases hstep

theorem step_telling (hs : Sound p w) (h : Telling es w) {e : Event} (hstep : w.step p e = some w') :
    Telling (es ++ [e]) w' := by
  cases e with
  | publish c i event =>
      rw [step] at hstep
      split at hstep
      · next hgoes =>
          cases hstep
          exact publish_telling h hgoes.1 hgoes.2 event
      · cases hstep
  | go t ok =>
      have hno : ∀ c i, publication c i (.go t ok) = none := fun c i => by cases c <;> rfl
      cases t with
      | listener => exact (listen_telling hs h hstep).same hno
      | worker c i => exact ((work_cases hs hstep).telling hs h).same hno
  | receive octets =>
      have hno : ∀ c i, publication c i (.receive octets) = none := fun c i => by cases c <;> rfl
      rw [step] at hstep
      split at hstep
      · next hat =>
          cases hstep
          refine Telling.same ?_ hno
          rcases receive_cases (p := p) hat octets with heq | ⟨heq, -⟩ | ⟨msg, call, -, -, heq⟩ <;> rw [heq]
          · exact h
          · exact h.listener_to (by rintro _ _ ⟨⟩) (by rintro _ _ ⟨⟩)
          · have hidle : w.clients.pc Thread.listener.id = .idle := hs.idle fun msg h => by rw [hat] at h; cases h
            have hstep : Shrinks p.timeBases w.clients (w.clients.start p.timeBases Thread.listener.id call)
                Thread.listener.id := start_shrinks hidle call
            have hcalled : Telling es { w with listener := .called msg } := h.listener_to (by rintro _ _ ⟨⟩) (by rintro _ _ ⟨⟩)
            exact hcalled.clients_to w.clientId
              fun c i => hstep.others _ (Thread.worker_ne_listener c i)
      · cases hstep
  | take name =>
      have hno : ∀ c i, publication c i (.take name) = none := fun c i => by cases c <;> rfl
      obtain ⟨hpending, hclients, -, hevents, -, hlistener, -⟩ := take_pending hstep
      refine Telling.same ?_ hno
      refine ⟨?_, ?_, ?_, ?_, ?_, ?_⟩
      · rw [hevents]
        exact h.last
      · rw [hclients]
        exact h.begun
      · rw [hpending]
        exact h.ordered
      · rw [hpending]
        exact h.told
      · rw [hlistener]
        exact h.read
      · rw [hlistener]
        exact h.replies

end

/-- **The clients are told what was published**, in every run of the proxy with its clients: every event
    that a client was told, or that waits in its queue, was published for this clock of this time base, and
    the notifications of the clock repeat the publications in their order. -/
theorem told_published (p : Serving) (es : List Event) (w : World) (hrun : run p init es = some w)
    (name : List UInt8) (c : Clock) (i : UInt64) :
    Repeats (notifications c i (w.pending name)) (publications c i es) ∧
      ∀ done ∈ w.pending name, ∀ event, done.tells c i = some event → event ∈ publications c i es := by
  have hkept : Sound p w ∧ Telling es w :=
    Runs.run_history (I := fun es w => Sound p w ∧ Telling es w) ⟨init_sound p, init_telling⟩
      (fun _ _ _ _ h hstep => ⟨(step_kept h.1 hstep).1, step_telling h.1 h.2 hstep⟩) hrun
  exact ⟨hkept.2.ordered name c i, hkept.2.told name c i⟩

/-- A proxy with one time base. -/
def oneBase : Serving where
  rows := []
  timeBases := [1]
  pad _ := 0
  timeBases_lt := by decide

def oneEvent : PtpEvent := ⟨7, 0, 0, true, true⟩

/-- A client connects, subscribes to the time base, and takes the two replies. -/
def subscribes : List Event :=
  [.receive ([0, 0, 0xff, 0xff, 65] ++ List.replicate 511 0), .go .listener true, .go .listener true,
    .go .listener true, .receive [1, 0, 0, 0, 1, 0, 0, 0, 0, 0, 0, 0], .go .listener true, .go .listener true,
    .go .listener true, .go .listener true, .go .listener true, .go .listener true, .take [65], .take [65]]

set_option maxRecDepth 20000 in
/-- The reply tells of an event from before the subscription. -/
theorem told_published_subscribes : ∃ w, run oneBase init (.publish .ptp 1 oneEvent :: subscribes) = some w ∧
    (∃ done ∈ w.pending [65], done.tells .ptp 1 = some oneEvent) ∧
    ∀ done ∈ w.pending [65], ∀ event, done.tells .ptp 1 = some event →
      event ∈ publications .ptp 1 (.publish .ptp 1 oneEvent :: subscribes) :=
  ⟨_, rfl, ⟨_, List.mem_cons_of_mem _ List.mem_cons_self, rfl⟩,
    (told_published oneBase (.publish .ptp 1 oneEvent :: subscribes) _ rfl [65] .ptp 1).2⟩

end World

end PtpMgmt.ClkMgr
