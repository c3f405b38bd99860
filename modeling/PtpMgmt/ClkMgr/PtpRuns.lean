import PtpMgmt.ClkMgr.PtpSteps
import PtpMgmt.Runs

set_option autoImplicit false

/-! # Runs of the thread of a ptp4l daemon

Over every run, from the start of the thread: which requests ptp4l gets, and what the clients are told of the
connection. -/

namespace PtpMgmt.ClkMgr

open Wire

/-- An act that is neither "Connected" nor an error of a build. -/
def PtpAct.Plain : PtpAct → Prop
  | .connected | .buildError _ => False
  | _ => True

namespace PtpThread

/-- The parameters of `ptpSet::init`. -/
def paramsOf (param : TimeBaseCfg) : MsgParams :=
  { MsgParams.init with transportSpecific := param.transportSpecific, domainNumber := param.domainNumber }

theorem sound_init {param : TimeBaseCfg} {msg : PtpMgmt.Message} (hmsg : initMsg param = some msg)
    (gmIdentity : ClockIdentity) (buf : Nat → UInt8) : Sound (paramsOf param) (init gmIdentity buf msg) := by
  have hinit : (PtpMgmt.Message.init MsgParams.init).prms = MsgParams.init := rfl
  rw [initMsg] at hmsg
  simp only [PtpMgmt.Message.updateParams, hinit] at hmsg
  by_cases hbig : param.transportSpecific > 0xf
  · simp [hbig] at hmsg
  · simp only [hbig, if_false, if_true, Option.some.injEq] at hmsg
    subst hmsg
    exact ⟨rfl, rfl, rfl, rfl⟩

section Runs

variable {lib : HmacLib} {prms : MsgParams} {t t' : PtpThread}

/-- What every step keeps, and is told what it does, holds behind every run. -/
theorem run_keeps {I : PtpThread → Prop} (hstep : ∀ t t' rs acts, I t → Done prms t t' rs acts → I t')
    {inputs : List Input} (hsound : Sound prms t) (ht : I t) (hrun : Runs.run (step lib) t inputs = some t') :
    Sound prms t' ∧ I t' := by
  refine Runs.run_invariant (I := fun t => Sound prms t ∧ I t) (fun t i t' hl hone => ?_) ⟨hsound, ht⟩ hrun
  obtain ⟨rs, acts, hdone⟩ := step_done lib hl.1 hone
  exact ⟨hdone.sound, hstep t t' rs acts hl.2 hdone⟩

end Runs

/-! ## Requests -/

/-- The octets that are sent, in their order. -/
def sentOctets (acts : List PtpAct) : List (List UInt8) :=
  acts.filterMap fun a => match a with
    | .sent octets => some octets
    | _ => none

/-- The octets of numbered requests. -/
def numbered (prms : MsgParams) (seq : Nat) (rs : List Request) : List (List UInt8) :=
  (rs.zipIdx seq).map fun r => r.1.octets prms (UInt16.ofNat r.2)

theorem numbered_append (prms : MsgParams) (seq : Nat) (rs rs' : List Request) :
    numbered prms seq (rs ++ rs') = numbered prms seq rs ++ numbered prms (seq + rs.length) rs' := by
  rw [numbered, List.zipIdx_append, List.map_append]
  rfl

theorem sentOctets_append (acts acts' : List PtpAct) :
    sentOctets (acts ++ acts') = sentOctets acts ++ sentOctets acts' :=
  List.filterMap_append

theorem sentOctets_sents (prms : MsgParams) (seq : Nat) (rs : List Request) :
    sentOctets (sents prms seq rs) = numbered prms seq rs := by
  rw [sentOctets, sents, List.filterMap_map, numbered, ← List.filterMap_eq_map]
  rfl

theorem sents_plain {prms : MsgParams} {seq : Nat} {rs : List Request} : ∀ a ∈ sents prms seq rs, PtpAct.Plain a := by
  intro a ha
  obtain ⟨r, -, rfl⟩ := List.mem_map.1 ha
  trivial

/-- The requests of a step: those of the start, when its subscription is sent, or subscriptions and requests
    for the interval. -/
theorem Does.requests {prms : MsgParams} {t : PtpThread} {rs : List Request} {acts : List PtpAct} {set : PtpSet}
    {lostConnection : Bool} {pc : PtpPc} (h : Does prms t rs acts set lostConnection pc) :
    pc ≠ .start ∧ sentOctets acts = numbered prms t.seq rs ∧
    ((∃ gets : List MngId, t.pc = .start ∧ gets.Sublist askedIds ∧ rs = .subscribe :: gets.map .get ∧
        (∃ before behind, acts = before ++ .connected :: behind ∧ (∀ a ∈ before, a.Plain) ∧ ∀ a ∈ behind, a.Plain)) ∨
      (∀ r ∈ rs, r = .subscribe ∨ r = .get .logSyncInterval) ∧ ∀ a ∈ acts, a.Plain) := by
  have hasks : ∀ {asked : List Request}, asked.Sublist [.get .logSyncInterval] →
      ∀ r ∈ asked, r = .subscribe ∨ r = .get .logSyncInterval :=
    fun hasked r hr => .inr (List.mem_singleton.1 (hasked.subset hr))
  cases h with
  | stopped hpc => exact ⟨nofun, rfl, .inr ⟨nofun, nofun⟩⟩
  | failed hpc => exact ⟨nofun, rfl, .inr ⟨nofun, by simp [PtpAct.Plain]⟩⟩
  | @connected hpc gets hgets =>
      refine ⟨nofun, ?_, .inl ⟨gets, hpc, hgets, rfl, _, _, List.append_assoc .., sents_plain, sents_plain⟩⟩
      rw [sentOctets_append, sentOctets_append, sentOctets_sents, sentOctets_sents,
        show sentOctets [.connected] = [] from rfl, List.append_nil]
      exact (numbered_append prms t.seq [.subscribe] (gets.map .get)).symm
  | timeout hpc => exact ⟨nofun, rfl, .inr ⟨nofun, nofun⟩⟩
  | unheard hpc => exact ⟨nofun, rfl, .inr ⟨nofun, nofun⟩⟩
  | @heard hpc msg hmsg asked hasked =>
      refine ⟨nofun, ?_, .inr ⟨hasks hasked, fun a ha => ?_⟩⟩
      · rw [sentOctets_append, sentOctets_sents]
        split <;> exact List.append_nil _
      · rcases List.mem_append.1 ha with ha | ha
        · exact sents_plain a ha
        · split at ha
          · obtain rfl := List.mem_singleton.1 ha
            trivial
          · cases ha
  | cut hpc set hasked => exact ⟨nofun, sentOctets_sents .., .inr ⟨hasks hasked, sents_plain⟩⟩
  | again hpc =>
      refine ⟨nofun, ?_, .inr ⟨fun r hr => .inl (List.mem_singleton.1 hr), fun a ha => ?_⟩⟩
      · rw [sentOctets_append, sentOctets_sents]
        split <;> exact List.append_nil _
      · rcases List.mem_append.1 ha with ha | ha
        · exact sents_plain a ha
        · split at ha
          · obtain rfl := List.mem_singleton.1 ha
            trivial
          · cases ha
  | lost hpc hlost => exact ⟨nofun, rfl, .inr ⟨nofun, by simp [PtpAct.Plain]⟩⟩
  | lostStopped hpc hlost => exact ⟨nofun, rfl, .inr ⟨nofun, by simp [PtpAct.Plain]⟩⟩
  | still hpc hlost => exact ⟨nofun, rfl, .inr ⟨nofun, nofun⟩⟩

/-- What was requested so far: the requests of the start, and those behind. -/
structure Requested (prms : MsgParams) (t : PtpThread) (first rest : List Request) : Prop where
  fresh : t.pc = .start → t.acts = [] ∧ first = [] ∧ rest = []
  octets : sentOctets t.acts = numbered prms 0 (first ++ rest)
  seq : t.seq = (first ++ rest).length
  acts : ∀ a ∈ t.acts, a.Plain ∨ a = .connected
  connected : first ≠ [] ↔ .connected ∈ t.acts
  first : first = [] ∨ ∃ gets : List MngId, gets.Sublist askedIds ∧ first = .subscribe :: gets.map .get
  rest : ∀ r ∈ rest, r = .subscribe ∨ r = .get .logSyncInterval

theorem Requested.step {prms : MsgParams} {t t' : PtpThread} {rs : List Request} {acts : List PtpAct}
    {first rest : List Request} (h : Requested prms t first rest) (hdone : Done prms t t' rs acts) :
    ∃ first rest, Requested prms t' first rest := by
  obtain ⟨hpc, hoctets, hkind⟩ := hdone.does.requests
  have hall : sentOctets t'.acts = numbered prms 0 (first ++ rest ++ rs) := by
    rw [hdone.acts, sentOctets_append, h.octets, hoctets, h.seq, numbered_append _ _ (first ++ rest), Nat.zero_add]
  have hseq : t'.seq = (first ++ rest ++ rs).length := by
    rw [hdone.seq, h.seq]
    exact List.length_append.symm
  rcases hkind with ⟨gets, hstart, hgets, rfl, before, behind, rfl, hbefore, hbehind⟩ | ⟨hrs, hplain⟩
  · obtain ⟨hacts, rfl, rfl⟩ := h.fresh hstart
    refine ⟨.subscribe :: gets.map .get, [], fun hfresh => absurd hfresh hpc, by rw [hall]; simp,
      by rw [hseq]; simp, ?_, ?_, .inr ⟨gets, hgets, rfl⟩, nofun⟩
    · intro a ha
      rw [hdone.acts, hacts, List.nil_append] at ha
      rcases List.mem_append.1 ha with ha | ha
      · exact .inl (hbefore a ha)
      · exact (List.mem_cons.1 ha).symm.imp (hbehind a) id
    · rw [hdone.acts]
      exact iff_of_true (by simp) (by simp)
  · have hno : .connected ∉ acts := fun hmem => hplain _ hmem
    refine ⟨first, rest ++ rs, fun hfresh => absurd hfresh hpc, by rw [hall, List.append_assoc],
      by rw [hseq, List.append_assoc], ?_, ?_, h.first, fun r hr => (List.mem_append.1 hr).elim (h.rest r) (hrs r)⟩
    · intro a ha
      rw [hdone.acts] at ha
      exact (List.mem_append.1 ha).elim (h.acts a) fun ha => .inl (hplain a ha)
    · rw [hdone.acts, List.mem_append, h.connected]
      exact (or_iff_left hno).symm

/-- **What ptp4l is sent**: over every run, whatever is received and whichever sends fail, no build fails, and
    the messages are requests with the parameters of the time base, numbered one after the other from zero.
    TIME_STATUS_NP and PORT_DATA_SET are asked for only at the start, and only when the first subscription is
    sent: a thread that connects later never asks for them. -/
theorem requests_sent (lib : HmacLib) {param : TimeBaseCfg} {msg : PtpMgmt.Message} (hmsg : initMsg param = some msg)
    (gmIdentity : ClockIdentity) (buf : Nat → UInt8) {inputs : List Input} {t : PtpThread}
    (hrun : Runs.run (step lib) (init gmIdentity buf msg) inputs = some t) :
    (∀ err, .buildError err ∉ t.acts) ∧ ∃ first rest : List Request,
      sentOctets t.acts = numbered (paramsOf param) 0 (first ++ rest) ∧
      (first ≠ [] ↔ .connected ∈ t.acts) ∧
      (first = [] ∨ ∃ gets : List MngId, gets.Sublist askedIds ∧ first = .subscribe :: gets.map .get) ∧
      ∀ r ∈ rest, r = .subscribe ∨ r = .get .logSyncInterval := by
  have hinit : ∃ first rest, Requested (paramsOf param) (init gmIdentity buf msg) first rest :=
    ⟨[], [], fun _ => ⟨rfl, rfl, rfl⟩, rfl, rfl, nofun, iff_of_false (fun h => h rfl) nofun, .inl rfl, nofun⟩
  obtain ⟨-, first, rest, hreq⟩ := run_keeps (I := fun t => ∃ first rest, Requested (paramsOf param) t first rest)
    (fun t t' rs acts ht hdone => by
      obtain ⟨first, rest, hreq⟩ := ht
      exact hreq.step hdone) (sound_init hmsg gmIdentity buf) hinit hrun
  refine ⟨fun err hmem => ?_, first, rest, hreq.octets, hreq.connected, hreq.first, hreq.rest⟩
  rcases hreq.acts _ hmem with h | h
  · exact h
  · cases h

/-- A time base, and the message of its thread. -/
def someParam : TimeBaseCfg where
  timeBaseIndex := 1
  timeBaseName := .ofList 64 []
  interfaceName := .ofList 64 []
  transportSpecific := 1
  domainNumber := 3
  haveSys := false
  havePtp := true

def someMsg : PtpMgmt.Message := { PtpMgmt.Message.init MsgParams.init with prms := paramsOf someParam }

/-- A thread that subscribed. -/
def startedThread : PtpThread := (init default (fun _ => 0) someMsg).start zeroLib fun _ => true

theorem startedThread_run :
    Runs.run (step zeroLib) (init default (fun _ => 0) someMsg) [.run (fun _ => true) false] = some startedThread :=
  rfl

theorem requests_sent_startedThread : .buildError .tooSmall ∉ startedThread.acts :=
  (requests_sent zeroLib (show initMsg someParam = some someMsg from rfl) default (fun _ => 0)
    startedThread_run).1 .tooSmall

/-! ## What the clients are told -/

/-- The connection, as it is printed and told. -/
inductive Link
  | fresh
  | up
  /-- The first subscription was not sent. -/
  | failed
  /-- It was lost, and the clients are not told yet. -/
  | lost
  | told
deriving DecidableEq

/-- What may be seen next. A lost connection is told once, with the event cleared, and until it is there again
    the clients are told nothing else. -/
def Link.step : Link → PtpAct → Option Link
  | l, .sent _ => some l
  | .fresh, .connected => some .up
  | .fresh, .failed => some .failed
  | .up, .told _ => some .up
  | .up, .lost => some .lost
  | .failed, .told _ => some .failed
  | .failed, .reconnected => some .up
  | .lost, .told event => if event = PtpSet.clearEvent then some .told else none
  | .told, .reconnected => some .up
  | _, _ => none

/-- Where the thread may stand, with `lost_connection` and its event. -/
def Link.Fits : Link → PtpPc → Bool → PtpEvent → Prop
  | .fresh, pc, lostConnection, _ => pc = .start ∧ lostConnection = false
  | .up, pc, lostConnection, _ => (pc = .wait ∨ pc = .retry) ∧ lostConnection = false
  | .failed, pc, lostConnection, _ => (pc = .wait ∨ pc = .retry) ∧ lostConnection = true
  | .lost, _, _, _ => False
  | .told, pc, lostConnection, event => pc = .retry ∧ lostConnection = true ∧ event = PtpSet.clearEvent

/-- The event that the clients were told last. -/
def lastTold (acts : List PtpAct) : PtpEvent :=
  (acts.filterMap fun a => match a with
    | .told event => some event
    | _ => none).getLast?.getD PtpSet.clearEvent

theorem lastTold_append_told (acts : List PtpAct) (event : PtpEvent) :
    lastTold (acts ++ [.told event]) = event := by
  rw [lastTold, List.filterMap_append]
  simp

theorem lastTold_append_plain (acts : List PtpAct) {more : List PtpAct} (h : ∀ event, .told event ∉ more) :
    lastTold (acts ++ more) = lastTold acts := by
  have hnil : (more.filterMap fun a => match a with
      | .told event => some event
      | _ => none) = [] := by
    refine List.filterMap_eq_nil_iff.2 fun a ha => ?_
    cases a with
    | told event => exact absurd ha (h event)
    | _ => rfl
  rw [lastTold, List.filterMap_append, hnil, List.append_nil, lastTold]

/-- The event only changes with a word to the clients. -/
theorem callback_quiet {s : PtpSet} (msg : PtpMsg) (h : (s.callback msg).doNotify = false) :
    (s.callback msg).event = s.event := by
  cases msg with
  | timeStatusNp tlv => cases h
  | portDataSet tlv =>
      rw [PtpSet.callback, PtpSet.portDataSet] at h ⊢
      split at h
      · cases h
      · next hreset =>
          rw [if_neg hreset]
          split at h
          · next hmaster =>
              rw [if_pos hmaster]
              split at h
              · next hsame => rw [if_pos hsame]
              · cases h
          · split at h <;> cases h
  | logSyncInterval tlv =>
      rw [PtpSet.callback, PtpSet.logSyncInterval] at h ⊢
      split at h
      · cases h
      · next hsame => rw [if_neg hsame]
  | cmldsInfoNp portNumber tlv =>
      rw [PtpSet.callback, PtpSet.cmldsInfoNp] at h ⊢
      split at h
      · next hport => rw [if_pos hport]
      · next hport =>
          rw [if_neg hport]
          split at h
          · cases h
          · next hsame => rw [if_neg hsame]
  | lostConnection => rfl

/-- The clients get nothing from a callback. -/
theorem callback_published (s : PtpSet) (msg : PtpMsg) : (s.callback msg).published = s.published := by
  have hasks : ∀ s : PtpSet, s.askLogSyncInterval.published = s.published := by
    intro s
    rw [PtpSet.askLogSyncInterval]
    split <;> rfl
  cases msg with
  | timeStatusNp tlv => rfl
  | portDataSet tlv =>
      rw [PtpSet.callback, PtpSet.portDataSet]
      split
      · rfl
      · split
        · split
          · rfl
          · exact hasks _
        · split
          · exact hasks _
          · rfl
  | logSyncInterval tlv =>
      rw [PtpSet.callback, PtpSet.logSyncInterval]
      split <;> rfl
  | cmldsInfoNp portNumber tlv =>
      rw [PtpSet.callback, PtpSet.cmldsInfoNp]
      split
      · rfl
      · split <;> rfl
  | lostConnection => rfl

theorem Link.run_sents (prms : MsgParams) (seq : Nat) (rs : List Request) (l : Link) (acts : List PtpAct) :
    Runs.run Link.step l (sents prms seq rs ++ acts) = Runs.run Link.step l acts := by
  induction rs generalizing seq with
  | nil => rfl
  | cons r rs ih =>
      rw [sents, List.zipIdx_cons, List.map_cons, List.cons_append, Runs.run]
      exact ih (seq + 1)

section Told

variable {prms : MsgParams} {t : PtpThread} {rs : List Request} {acts : List PtpAct} {set : PtpSet}
  {lostConnection : Bool} {pc : PtpPc}

/-- A step goes on with the connection as it is. -/
theorem Does.link (h : Does prms t rs acts set lostConnection pc) {l : Link}
    (hfits : l.Fits t.pc t.lostConnection t.set.event) :
    ∃ l', Runs.run Link.step l acts = some l' ∧ (pc ≠ .ended → l'.Fits pc lostConnection set.event) := by
  have hsents : ∀ l seq rs, Runs.run Link.step l (sents prms seq rs) = some l := by
    intro l seq rs
    have hall := Link.run_sents prms seq rs l []
    rwa [List.append_nil] at hall
  cases h with
  | stopped hpc => exact ⟨l, rfl, fun hne => absurd rfl hne⟩
  | failed hpc =>
      rw [hpc] at hfits
      cases l <;> simp only [Link.Fits, reduceCtorEq, false_and, or_self] at hfits
      exact ⟨.failed, rfl, fun _ => ⟨.inl rfl, rfl⟩⟩
  | connected hpc hgets =>
      rw [hpc] at hfits
      cases l <;> simp only [Link.Fits, reduceCtorEq, false_and, or_self] at hfits
      refine ⟨.up, ?_, fun _ => ⟨.inl rfl, hfits.2⟩⟩
      rw [List.append_assoc, Link.run_sents, List.singleton_append, Runs.run, Link.step, Option.bind_some]
      exact hsents _ _ _
  | timeout hpc =>
      rw [hpc] at hfits
      refine ⟨l, rfl, fun _ => ?_⟩
      cases l <;> simp_all [Link.Fits]
  | unheard hpc doNotify =>
      rw [hpc] at hfits
      exact ⟨l, rfl, fun _ => hfits⟩
  | heard hpc hmsg hasked =>
      rw [hpc] at hfits
      refine ⟨l, ?_, fun _ => ?_⟩
      · rw [Link.run_sents]
        cases l <;> simp only [Link.Fits, reduceCtorEq, false_and] at hfits <;> split <;> rfl
      · cases l <;> simp_all [Link.Fits]
  | cut hpc set hasked => exact ⟨l, hsents _ _ _, fun hne => absurd rfl hne⟩
  | again hpc =>
      rw [hpc] at hfits
      refine ⟨.up, ?_, fun _ => ⟨.inl rfl, rfl⟩⟩
      rw [Link.run_sents]
      cases l <;> simp_all [Link.Fits] <;> rfl
  | lost hpc hlost =>
      rw [hpc, hlost] at hfits
      cases l <;> simp only [Link.Fits, reduceCtorEq, and_false, false_and] at hfits
      exact ⟨.told, rfl, fun _ => ⟨rfl, rfl, rfl⟩⟩
  | lostStopped hpc hlost =>
      rw [hpc, hlost] at hfits
      cases l <;> simp only [Link.Fits, reduceCtorEq, and_false, false_and] at hfits
      exact ⟨.lost, rfl, fun hne => absurd rfl hne⟩
  | still hpc hlost =>
      rw [hpc, hlost] at hfits
      exact ⟨l, rfl, fun _ => hfits⟩

/-- Nothing is done behind the end. -/
theorem Does.ne_ended (h : Does prms t rs acts set lostConnection pc) : t.pc ≠ .ended := by
  cases h with
  | stopped hpc => exact hpc
  | failed hpc => simp [hpc]
  | connected hpc => simp [hpc]
  | timeout hpc => simp [hpc]
  | unheard hpc => simp [hpc]
  | heard hpc => simp [hpc]
  | cut hpc => simp [hpc]
  | again hpc => simp [hpc]
  | lost hpc => simp [hpc]
  | lostStopped hpc => simp [hpc]
  | still hpc => simp [hpc]

/-- Where a step waits, the clients get the event as it is. -/
theorem Does.published (h : Does prms t rs acts set lostConnection pc) (hpub : t.set.published = t.set.event)
    (hpc : pc ≠ .ended) : set.published = set.event := by
  cases h with
  | stopped => exact absurd rfl hpc
  | cut => exact absurd rfl hpc
  | lostStopped => exact absurd rfl hpc
  | heard _ hmsg =>
      rw [handle_eq _ hmsg, PtpSet.publish_event, PtpSet.publish]
      split
      · rfl
      · next hquiet =>
          rw [Bool.not_eq_true] at hquiet
          rw [callback_published, callback_quiet _ hquiet]
          exact hpub
  | lost => rfl
  | _ => exact hpub

/-- Where a step waits, the clients were told the event as it is. -/
theorem Does.told (h : Does prms t rs acts set lostConnection pc) (htold : lastTold t.acts = t.set.event)
    (hpc : pc ≠ .ended) : lastTold (t.acts ++ acts) = set.event := by
  have hsents : ∀ seq rs event, PtpAct.told event ∉ sents prms seq rs := by
    intro seq rs event hmem
    obtain ⟨r, -, hr⟩ := List.mem_map.1 hmem
    cases hr
  cases h with
  | stopped => exact absurd rfl hpc
  | cut => exact absurd rfl hpc
  | lostStopped => exact absurd rfl hpc
  | heard _ hmsg =>
      rw [← List.append_assoc]
      split
      · exact lastTold_append_told _ _
      · next hquiet =>
          rw [List.append_nil, lastTold_append_plain _ (hsents _ _), htold]
          rw [handle_eq _ hmsg, publish_doNotify, Bool.not_eq_true] at hquiet
          rw [handle_eq _ hmsg, PtpSet.publish_event, callback_quiet _ hquiet]
  | lost =>
      rw [show t.acts ++ [.lost, .told PtpSet.clearEvent] = t.acts ++ [.lost] ++ [.told PtpSet.clearEvent] by simp,
        lastTold_append_told]
      rfl
  | failed => exact (lastTold_append_plain _ (by simp)).trans htold
  | again =>
      rw [lastTold_append_plain _ fun event hmem => ?_, htold]
      rcases List.mem_append.1 hmem with hmem | hmem
      · exact hsents _ _ _ hmem
      · split at hmem <;> simp at hmem
  | connected =>
      rw [lastTold_append_plain _ fun event hmem => ?_, htold]
      simp only [List.mem_append, List.mem_singleton, reduceCtorEq, or_false] at hmem
      exact hmem.elim (hsents _ _ _) (hsents _ _ _)
  | _ => rw [List.append_nil, htold]

end Told

/-- What the clients get, and what they were told last, is the event as it is. -/
structure Shows (t : PtpThread) : Prop where
  published : t.set.published = t.set.event
  told : lastTold t.acts = t.set.event

theorem run_shows {lib : HmacLib} {prms : MsgParams} {t t' : PtpThread} (hsound : Sound prms t) (ht : Shows t)
    {inputs : List Input} (hrun : Runs.run (step lib) t inputs = some t') (hpc : t'.pc ≠ .ended) : Shows t' := by
  refine (run_keeps (I := fun t => t.pc ≠ .ended → Shows t) (fun t t' rs acts ht hdone hpc => ?_) hsound
    (fun _ => ht) hrun).2 hpc
  have hshows := ht hdone.does.ne_ended
  refine ⟨hdone.does.published hshows.published hpc, ?_⟩
  rw [hdone.acts]
  exact hdone.does.told hshows.told hpc

theorem shows_init (gmIdentity : ClockIdentity) (buf : Nat → UInt8) (msg : PtpMgmt.Message) :
    Shows (init gmIdentity buf msg) := ⟨rfl, rfl⟩

/-- **What the clients are told**: over every run, whatever is received and whichever sends fail, a lost
    connection is told once, with the event cleared, and nothing else is told until it is there again; and
    whenever the thread waits, the event that the clients get, and the last one that they were told, are the
    event as it is. -/
theorem told_run (lib : HmacLib) {param : TimeBaseCfg} {msg : PtpMgmt.Message} (hmsg : initMsg param = some msg)
    (gmIdentity : ClockIdentity) (buf : Nat → UInt8) {inputs : List Input} {t : PtpThread}
    (hrun : Runs.run (step lib) (init gmIdentity buf msg) inputs = some t) :
    ∃ l, Runs.run Link.step .fresh t.acts = some l ∧ (t.pc ≠ .ended →
      l.Fits t.pc t.lostConnection t.set.event ∧ t.set.published = t.set.event ∧
      lastTold t.acts = t.set.event) := by
  have hsound := sound_init hmsg gmIdentity buf
  obtain ⟨-, l, hlink, hfits⟩ := run_keeps (I := fun t => ∃ l, Runs.run Link.step .fresh t.acts = some l ∧
      (t.pc ≠ .ended → l.Fits t.pc t.lostConnection t.set.event))
    (fun t t' rs acts ht hdone => by
      obtain ⟨l, hlink, hfits⟩ := ht
      obtain ⟨l', hlink', hfits'⟩ := hdone.does.link (hfits hdone.does.ne_ended)
      refine ⟨l', ?_, hfits'⟩
      rw [hdone.acts, Runs.run_append, hlink]
      exact hlink') hsound ⟨.fresh, rfl, fun _ => ⟨rfl, rfl⟩⟩ hrun
  refine ⟨l, hlink, fun hpc => ⟨hfits hpc, ?_⟩⟩
  have hshows := run_shows hsound (shows_init gmIdentity buf msg) hrun hpc
  exact ⟨hshows.published, hshows.told⟩

/-- A reply with a LOG_SYNC_INTERVAL of -3. -/
def intervalReply : List UInt8 :=
  [0x1d, 2, 0, 56, 3, 0, 0, 0] ++ List.replicate 12 0 ++ [0, 0, 0, 0, 0, 0, 0, 9, 0, 1] ++ [0, 3, 4, 0x7f] ++
    List.replicate 10 0xff ++ [1, 1, 2, 0] ++ [0, 1, 0, 4, 0x20, 0x0b, 0xfd, 0]

/-- The thread that hears it, and then loses the connection. -/
def toldThread : PtpThread := startedThread.packet zeroLib intervalReply true none

def lostThread : PtpThread := { toldThread with pc := .retry }.retry zeroLib false false

theorem toldThread_pc : toldThread.pc = .wait := rfl

theorem toldThread_step : startedThread.step zeroLib (.packet intervalReply true none) = some toldThread := by
  rw [step, if_pos (show startedThread.pc = .wait from rfl), toldThread]

theorem toldThread_run : Runs.run (step zeroLib) (init default (fun _ => 0) someMsg)
    [.run (fun _ => true) false, .packet intervalReply true none] = some toldThread :=
  Runs.run_cons.2 ⟨startedThread, rfl, Runs.run_cons.2 ⟨_, toldThread_step, rfl⟩⟩

theorem lostThread_run : Runs.run (step zeroLib) (init default (fun _ => 0) someMsg)
    [.run (fun _ => true) false, .packet intervalReply true none, .timeout, .run (fun _ => false) false]
      = some lostThread := by
  have htimeout : toldThread.step zeroLib .timeout = some { toldThread with pc := .retry } := by
    rw [step, if_pos toldThread_pc]
  have hretry : { toldThread with pc := .retry }.step zeroLib (.run (fun _ => false) false) = some lostThread := by
    rw [step, lostThread]
  exact Runs.run_cons.2 ⟨startedThread, rfl, Runs.run_cons.2 ⟨_, toldThread_step, Runs.run_cons.2
    ⟨_, htimeout, Runs.run_cons.2 ⟨_, hretry, rfl⟩⟩⟩⟩

/-- The event is told, and then the connection is lost. -/
theorem told_run_lostThread :
    (lastTold toldThread.acts).syncInterval = 125000 ∧ lastTold lostThread.acts = PtpSet.clearEvent := by
  have hmsg : initMsg someParam = some someMsg := rfl
  obtain ⟨l, -, hwaits⟩ := told_run zeroLib hmsg default (fun _ => 0) toldThread_run
  obtain ⟨l', -, hwaits'⟩ := told_run zeroLib hmsg default (fun _ => 0) lostThread_run
  have hpc' : lostThread.pc = .retry := rfl
  refine ⟨?_, (hwaits' (by rw [hpc']; decide)).2.2⟩
  rw [(hwaits (by rw [toldThread_pc]; decide)).2.2]
  decide

end PtpThread

end PtpMgmt.ClkMgr
