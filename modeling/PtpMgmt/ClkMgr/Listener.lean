import PtpMgmt.ClkMgr.ConnectReply

set_option autoImplicit false

/-! # The listener of a message queue (`msgq_tport.cpp`)

One thread of the proxy, and one of each client, takes the messages from a queue, handles each and answers
it when it carries an acknowledgement. A message that is not handled, or that is not answered, ends the
loop, not only the work on that message.

The sessions are those of `Clients`. Only this thread makes sessions; other threads may remove them at any
time. A client has no sessions. -/

namespace PtpMgmt.ClkMgr

open Wire

/-! ## The calls of the messages (`client.cpp`) -/

namespace Clients

/-- `Client::connect`: the session, and nothing when it does not return. -/
def connectSession (s : Clients) (sessionId : SessionId) (opens : Bool) : Option (SessionId × Clients) :=
  if sessionId ≠ invalidSessionId then
    some (if sessionId ∈ s.sessionMap then sessionId else invalidSessionId, s)
  else s.createClientSession opens

/-- It is the section of the thread that calls it. -/
theorem connect_eq (s : Clients) (t : Nat) (sessionId : SessionId) (opens : Bool) :
    s.connect t sessionId opens =
      (s.connectSession sessionId opens).map fun (cur, s) => s.answer t (.session cur) := by
  rw [connect, connectSession]
  split <;> rfl

/-- `Client::subscribe`, where nobody comes between its sections. -/
def subscribeSession (timeBases : List Nat) (s : Clients) (timeBaseIndex : Nat) (sessionId : SessionId) :
    Option Clients :=
  if sessionId = invalidSessionId ∨ timeBaseIndex ∉ timeBases ∨ sessionId ∉ s.sessionMap then none
  else some (s.setSubscribed timeBaseIndex (insert sessionId (s.subscribedClients timeBaseIndex)))

/-- `Client::removeClient`. -/
def removeClientSession (timeBases : List Nat) (s : Clients) (sessionId : SessionId) : Clients :=
  { s with
    sessionMap := s.sessionMap.erase sessionId
    subscribedClients := fun idx =>
      if idx ∈ timeBases then (s.subscribedClients idx).erase sessionId else s.subscribedClients idx }

/-- `Client::getTransmitter` finds one. -/
def HasTransmitter (s : Clients) (sessionId : SessionId) : Prop :=
  sessionId ≠ invalidSessionId ∧ sessionId ∈ s.sessionMap

instance decidableHasTransmitter (s : Clients) (sessionId : SessionId) :
    Decidable (s.HasTransmitter sessionId) :=
  inferInstanceAs (Decidable (_ ∧ _))

end Clients

/-! ## The work of the listener -/

/-- What is configured at the proxy: the rows, and the time bases that have data. -/
structure Proxy where
  rows : List TimeBaseCfgFull
  timeBases : List Nat
  pad : Nat → UInt8

/-- Which queue it is. -/
inductive Node
  | proxy (p : Proxy)
  | client

/-- What happens around a message: whether the queue of a new client opens, whether another thread removes
    the session before the reply, whether the reply is sent, and the events at that time. -/
structure Around where
  opens : Bool
  removed : Bool
  sends : Bool
  ptpEvent : UInt64 → PtpEvent
  chronyEvent : UInt64 → ChronyEvent

/-- What the thread meets: a message, also an empty one, a signal, a failure of the queue; and, in between,
    the removal of a session by another thread. -/
inductive Arrival
  | message (octets : List UInt8) (around : Around)
  | interrupted
  | failed
  | removeClient (sessionId : SessionId)

/-- How a piece of work comes out. -/
inductive Work (α : Type)
  | goes (a : α)
  | ends
  | hangs

def Proxy.data (p : Proxy) (a : Around) : ProxyData := ⟨p.rows, a.ptpEvent, a.chronyEvent, p.pad⟩

/-- `parseBufferTail` of the classes of the proxy. -/
def Proxy.parseBufferTail (p : Proxy) (a : Around) (s : Clients) (msg : Message) : Work (Message × Clients) :=
  match msg.msgId with
  | .connectMsg =>
    match s.connectSession msg.sessionId a.opens with
    | none => .hangs
    | some (sessionId, s) =>
      if sessionId = invalidSessionId then .ends
      else .goes ({ msg with sessionId, msgAck := ackSuccess }, s)
  | .subscribeMsg =>
    match s.subscribeSession p.timeBases msg.timeBaseIndex.toNat msg.sessionId with
    | none => .ends
    | some s => .goes ({ msg with msgAck := ackSuccess }, s)
  | .notifyMessage => .goes (msg, s)
  | .disconnectMsg => .goes (msg, s.removeClientSession p.timeBases msg.sessionId)

/-- `Message::parseBuffer` of the proxy. -/
def Proxy.parseBuffer (p : Proxy) (a : Around) (s : Clients) (w : List UInt8) : Work (Message × Clients) :=
  match parseBufferHead proxyClass w with
  | none => .ends
  | some (msg, _) => p.parseBufferTail a s msg

/-- The echo of a message with an acknowledgement. -/
def Proxy.echo (p : Proxy) (a : Around) (s : Clients) (msg : Message) : Work Clients :=
  if msg.msgAck = ackNone then .goes s
  else
    match proxyMakeBuffer (p.data a) msg with
    | none => .ends
    | some _ =>
      let s := if a.removed then s.removeClientSession p.timeBases msg.sessionId else s
      if s.HasTransmitter msg.sessionId ∧ a.sends = true then .goes s else .ends

def clientEcho (a : Around) (s : Clients) (msg : Message) : Work Clients :=
  if msg.msgAck = ackNone then .goes s
  else
    match clientMakeBuffer msg with
    | none => .ends
    | some _ => if a.sends = true then .goes s else .ends

/-- The part of `MqListenerWork` behind the receiving. -/
def handleMessage (a : Around) (s : Clients) (w : List UInt8) : Node → Work Clients
  | .proxy p =>
    match p.parseBuffer a s w with
    | .goes (msg, s) => p.echo a s msg
    | .ends => .ends
    | .hangs => .hangs
  | .client =>
    match clientParseBuffer w with
    | none => .ends
    | some ((msg, _), _) => clientEcho a s msg

/-- `MqListenerWork`. The removals by other threads are steps of their own. -/
def mqListenerWork (node : Node) (s : Clients) : Arrival → Work Clients
  | .message w a => if w = [] then .goes s else handleMessage a s w node
  | .interrupted => .goes s
  | .failed => .ends
  | .removeClient sessionId =>
    match node with
    | .proxy p => .goes (s.removeClientSession p.timeBases sessionId)
    | .client => .goes s

/-- `dispatchLoop`, until it is told to stop. -/
def dispatchLoop (node : Node) (s : Clients) : List Arrival → Work Clients
  | [] => .goes s
  | e :: es =>
    match mqListenerWork node s e with
    | .goes s => dispatchLoop node s es
    | .ends => .ends
    | .hangs => .hangs

/-! ## Messages that do not end the loop -/

/-- The session that the two octets behind the acknowledgement name. -/
def wireSession (body : List UInt8) : SessionId := UInt16.ofNat (ofLe (body.take 2))

/-- The messages that the proxy handles and answers. A connect message has room for the client, its session
    is known or a new one can be made, and the reply fits; a subscription is that of a known session to a
    time base; what is told to disconnect must not ask for an answer. -/
def Proxy.Keeps (p : Proxy) (a : Around) (s : Clients) : List UInt8 → Prop
  | [] => True
  | [_] => False
  | msgId :: msgAck :: body =>
    (msgId = 0 ∧ 514 ≤ body.length ∧ p.rows.length ≤ 53 ∧ a.removed = false ∧ a.sends = true ∧
      (wireSession body = invalidSessionId → a.opens = true ∧ ∃ sid, sid.toNat < 0x8000 ∧ sid ∉ s.sessionMap) ∧
      (wireSession body ≠ invalidSessionId → wireSession body ∈ s.sessionMap)) ∨
    (msgId = 1 ∧ 10 ≤ body.length ∧ s.HasTransmitter (wireSession body) ∧
      ofLe ((body.drop 2).take 8) ∈ p.timeBases ∧ a.removed = false ∧ a.sends = true) ∨
    (msgId = 3 ∧ 2 ≤ body.length ∧ msgAck = ackNone)

/-- The messages that a client handles: they are complete, and those that are echoed are sent. -/
def ClientKeeps (a : Around) : List UInt8 → Prop
  | [] => True
  | [_] => False
  | msgId :: msgAck :: body =>
    (msgId = 0 ∧ 522 ≤ body.length ∧ 522 + 144 * ofLe ((body.drop 514).take 8) ≤ body.length) ∨
    (msgId = 1 ∧ 66 ≤ body.length) ∨
    (msgId = 2 ∧ 9 ≤ body.length ∧ (body.getD 8 0 = ptpClock → 41 ≤ body.length) ∧
      (body.getD 8 0 = sysClock → 33 ≤ body.length) ∧ (msgAck = ackNone ∨ a.sends = true)) ∨
    (msgId = 3 ∧ 2 ≤ body.length ∧ (msgAck = ackNone ∨ a.sends = true))

/-- An arrival that does not end the loop. -/
def Keeps (node : Node) (s : Clients) : Arrival → Prop
  | .message w a =>
    match node with
    | .proxy p => p.Keeps a s w
    | .client => ClientKeeps a w
  | .failed => False
  | _ => True

/-- Every arrival of the run is one of these, in the state that it meets. -/
def KeepsAll (node : Node) (s : Clients) : List Arrival → Prop
  | [] => True
  | e :: es => Keeps node s e ∧ ∀ s', mqListenerWork node s e = .goes s' → KeepsAll node s' es

/-! ## Readers by their length -/

/-- The reader takes so many octets, whatever they are, and fails when there are less. -/
def Takes {α : Type} (m : Rx α) (n : Nat) : Prop :=
  ∀ rx : List UInt8, (n ≤ rx.length → ∃ a, m rx = some (a, rx.drop n)) ∧ (rx.length < n → m rx = none)

theorem takes_pure {α : Type} (a : α) : Takes (pure a : Rx α) 0 := by
  intro rx
  exact ⟨fun _ => ⟨a, rfl⟩, fun h => absurd h (Nat.not_lt_zero _)⟩

theorem takes_parseRx (n : Nat) : Takes (parseRx n) n := by
  intro rx
  rw [parseRx]
  constructor
  · intro h
    exact ⟨_, if_pos h⟩
  · intro h
    exact if_neg (Nat.not_le.2 h)

theorem rx_bind_none {α β : Type} {m : Rx α} {rx : List UInt8} (h : m rx = none) (f : α → Rx β) :
    (m >>= f) rx = none := by
  show (m rx).bind (fun p => f p.1 p.2) = none
  rw [h]
  rfl

theorem Takes.bind {α β : Type} {m : Rx α} {f : α → Rx β} {n k : Nat} (hm : Takes m n)
    (hf : ∀ a, Takes (f a) k) : Takes (m >>= f) (n + k) := by
  intro rx
  rcases Nat.lt_or_ge rx.length n with hlt | hge
  · exact ⟨fun h => absurd h (by omega), fun _ => rx_bind_none ((hm rx).2 hlt) f⟩
  · obtain ⟨a, ha⟩ := (hm rx).1 hge
    have hlen : (rx.drop n).length = rx.length - n := List.length_drop
    rw [rx_bind ha f, ← List.drop_drop]
    exact ⟨fun h => (hf a (rx.drop n)).1 (by omega), fun h => (hf a (rx.drop n)).2 (by omega)⟩

theorem takes_parseInt (n : Nat) : Takes (parseInt n) n := (takes_parseRx n).bind fun _ => takes_pure _

theorem takes_parseOctet : Takes parseOctet 1 := (takes_parseInt 1).bind fun _ => takes_pure _

theorem takes_parseChars : Takes parseChars 64 := (takes_parseRx 64).bind fun _ => takes_pure _

theorem takes_parseTimeBaseCfg : Takes parseTimeBaseCfg 144 :=
  (takes_parseInt 8).bind fun _ => takes_parseChars.bind fun _ => takes_parseChars.bind fun _ =>
    takes_parseOctet.bind fun _ => takes_parseOctet.bind fun _ => takes_parseOctet.bind fun _ =>
      takes_parseOctet.bind fun _ => (takes_parseRx 4).bind fun _ => takes_pure _

theorem takes_parsePtpEvent : Takes parsePtpEvent 32 :=
  (takes_parseInt 8).bind fun _ => (takes_parseInt 8).bind fun _ => (takes_parseInt 8).bind fun _ =>
    takes_parseOctet.bind fun _ => takes_parseOctet.bind fun _ => (takes_parseRx 6).bind fun _ => takes_pure _

theorem takes_parseChronyEvent : Takes parseChronyEvent 24 :=
  (takes_parseInt 8).bind fun _ => (takes_parseInt 8).bind fun _ => (takes_parseInt 8).bind fun _ =>
    takes_pure _

theorem takes_parseCfgs (mapSize : Nat) : Takes (parseCfgs mapSize) (144 * mapSize) := by
  induction mapSize with
  | zero => exact takes_pure _
  | succ mapSize ih =>
      have h := takes_parseTimeBaseCfg.bind fun newCfg => ih.bind fun cfgs => takes_pure (newCfg :: cfgs)
      have hlen : 144 * (mapSize + 1) = 144 + (144 * mapSize + 0) := by ring
      rw [hlen]
      exact h

/-! ## Heads of messages -/

/-- The id selects the class, and the next octet is the acknowledgement. -/
theorem parseBufferHead_cons (class' : UInt8 → Option MsgId) (msgId : UInt8) (rx : List UInt8) :
    parseBufferHead class' (msgId :: rx) =
      (class' msgId).bind fun msgId => (parseOctet >>= fun msgAck => parseBufferComm { msgId, msgAck }) rx := by
  have hoctet : parseOctet (msgId :: rx) = some (msgId, rx) := parseOctet_append msgId rx
  rw [parseBufferHead, rx_bind hoctet]
  cases class' msgId <;> rfl

theorem parseBufferHead_one {class' : UInt8 → Option MsgId} (msgId : UInt8) :
    parseBufferHead class' [msgId] = none := by
  rw [parseBufferHead_cons]
  cases class' msgId <;> rfl

theorem parseBufferHead_two (class' : UInt8 → Option MsgId) (msgId msgAck : UInt8) (body : List UInt8) :
    parseBufferHead class' (msgId :: msgAck :: body) =
      (class' msgId).bind fun msgId => parseBufferComm { msgId, msgAck } body := by
  have hoctet : parseOctet (msgAck :: body) = some (msgAck, body) := parseOctet_append msgAck body
  rw [parseBufferHead_cons]
  simp only [rx_bind hoctet]

theorem parseBufferComm_connect (msgAck : UInt8) (body : List UInt8) :
    parseBufferComm { msgId := .connectMsg, msgAck } body =
      if 514 ≤ body.length then
        some ({ msgId := .connectMsg, msgAck, sessionId := wireSession body,
                clientId := (body.drop 2).take clientIdLength }, body.drop 514)
      else none := by
  simp only [parseBufferComm, parseInt_bind, parseRx_bind, List.length_drop, List.drop_drop, clientIdLength]
  by_cases hlen : 514 ≤ body.length
  · rw [if_pos (by omega), if_pos (by omega), if_pos hlen]
    rfl
  · rw [if_neg hlen]
    split
    · exact if_neg (by omega)
    · rfl

theorem parseBufferComm_subscribe (msgAck : UInt8) (body : List UInt8) :
    parseBufferComm { msgId := .subscribeMsg, msgAck } body =
      if 10 ≤ body.length then
        some ({ msgId := .subscribeMsg, msgAck, sessionId := wireSession body,
                timeBaseIndex := UInt64.ofNat (ofLe ((body.drop 2).take 8)) }, body.drop 10)
      else none := by
  simp only [parseBufferComm, parseInt_bind, List.length_drop, List.drop_drop]
  by_cases hlen : 10 ≤ body.length
  · rw [if_pos (by omega), if_pos (by omega), if_pos hlen]
    rfl
  · rw [if_neg hlen]
    split
    · exact if_neg (by omega)
    · rfl

theorem parseBufferComm_notify (msgAck : UInt8) (body : List UInt8) :
    parseBufferComm { msgId := .notifyMessage, msgAck } body =
      if 8 ≤ body.length then
        some ({ msgId := .notifyMessage, msgAck, timeBaseIndex := UInt64.ofNat (ofLe (body.take 8)) },
          body.drop 8)
      else none := by
  simp only [parseBufferComm, parseInt_bind]
  rfl

theorem parseBufferComm_disconnect (msgAck : UInt8) (body : List UInt8) :
    parseBufferComm { msgId := .disconnectMsg, msgAck } body =
      if 2 ≤ body.length then
        some ({ msgId := .disconnectMsg, msgAck, sessionId := wireSession body }, body.drop 2)
      else none := by
  simp only [parseBufferComm, parseInt_bind]
  rfl

/-! ## Sessions -/

namespace Clients

theorem toNat_bump (x : SessionId) : (bump x).toNat = (x.toNat + 1) % 0x8000 := by
  have hlt := x.toNat_lt
  have hmask : validMaskSessionId.toNat = 2 ^ 15 - 1 := rfl
  rw [bump, UInt16.toNat_and, hmask, Nat.and_two_pow_sub_one_eq_mod, UInt16.toNat_add]
  show (x.toNat + 1) % 2 ^ 16 % 2 ^ 15 = (x.toNat + 1) % 0x8000
  omega

/-- The search goes round through all the sessions. -/
theorem freeSession_none {m : Finset SessionId} {fuel : Nat} {x : SessionId}
    (h : freeSession m fuel x = none) (hx : x.toNat < 0x8000) {sid : SessionId} {k : Nat} (hk : k < fuel)
    (hsid : sid.toNat = (x.toNat + k) % 0x8000) : sid ∈ m := by
  induction fuel generalizing x k with
  | zero => exact absurd hk (Nat.not_lt_zero _)
  | succ fuel ih =>
      rw [freeSession] at h
      split at h
      · next hmem =>
          cases k with
          | zero =>
              have heq : sid = x := UInt16.toNat_inj.1 (by omega)
              rwa [heq]
          | succ k =>
              have hbump := toNat_bump x
              exact ih h (by omega) (Nat.lt_of_succ_lt_succ hk) (by omega)
      · cases h

theorem freeSession_some {m : Finset SessionId} {fuel : Nat} {x sid : SessionId}
    (h : freeSession m fuel x = some sid) (hx : x.toNat < 0x8000) : sid ∉ m ∧ sid.toNat < 0x8000 := by
  induction fuel generalizing x with
  | zero => cases h
  | succ fuel ih =>
      rw [freeSession] at h
      split at h
      · have hbump := toNat_bump x
        exact ih h (by omega)
      · next hfree =>
          cases h
          exact ⟨hfree, hx⟩

/-- A session is found exactly when one is free. -/
theorem freeSession_isSome_iff {m : Finset SessionId} {x : SessionId} (hx : x.toNat < 0x8000) :
    (∃ sid, freeSession m 0x8000 x = some sid) ↔ ∃ sid : SessionId, sid.toNat < 0x8000 ∧ sid ∉ m := by
  constructor
  · rintro ⟨sid, hsid⟩
    obtain ⟨hfree, hlow⟩ := freeSession_some hsid hx
    exact ⟨sid, hlow, hfree⟩
  · rintro ⟨sid, hlow, hfree⟩
    rcases h : freeSession m 0x8000 x with _ | cur
    · refine absurd (freeSession_none h hx (k := (sid.toNat + 0x8000 - x.toNat) % 0x8000) ?_ ?_) hfree
      · exact Nat.mod_lt _ (by decide)
      · omega
    · exact ⟨cur, rfl⟩

/-- The next session to try is one of those that clients get. -/
def Low (s : Clients) : Prop := s.nextSession.toNat < 0x8000

theorem init_low : init.Low := by
  show (0 : SessionId).toNat < 0x8000
  decide

theorem low_ne_invalid {sid : SessionId} (h : sid.toNat < 0x8000) : sid ≠ invalidSessionId := by
  rintro rfl
  exact absurd h (by decide)

/-- A new session: one is free and its queue opens. It is in the table then. -/
theorem connectSession_new {s : Clients} (hlow : s.Low) (opens : Bool) :
    (∃ sid s', s.connectSession invalidSessionId opens = some (sid, s') ∧ sid ≠ invalidSessionId) ↔
      opens = true ∧ ∃ sid : SessionId, sid.toNat < 0x8000 ∧ sid ∉ s.sessionMap := by
  rw [← freeSession_isSome_iff hlow, connectSession, if_neg (not_not.2 rfl), createClientSession]
  rcases hfree : freeSession s.sessionMap 0x8000 s.nextSession with _ | cur
  · simp
  · have hcur := low_ne_invalid (freeSession_some hfree hlow).2
    cases opens <;> simp [hcur]

/-- What is known of the state behind a session that was found or made. -/
theorem connectSession_spec {s s' : Clients} (hlow : s.Low) {sessionId sid : SessionId} {opens : Bool}
    (h : s.connectSession sessionId opens = some (sid, s')) (hsid : sid ≠ invalidSessionId) :
    s'.Low ∧ sid ∈ s'.sessionMap := by
  rw [connectSession] at h
  split at h
  · cases h
    split at hsid
    · next hmem =>
        rw [if_pos hmem]
        exact ⟨hlow, hmem⟩
    · exact absurd rfl hsid
  · rw [createClientSession] at h
    obtain ⟨cur, hcur, heq⟩ := Option.map_eq_some_iff.1 h
    split at heq
    · cases heq
      have hbump := toNat_bump sid
      refine ⟨?_, Finset.mem_insert_self _ _⟩
      show (bump sid).toNat < 0x8000
      omega
    · cases heq
      exact absurd rfl hsid

end Clients

/-! ## The proxy -/

section Proxy

variable {p : Proxy} {a : Around} {s s' : Clients}

theorem ackSuccess_ne : ackSuccess ≠ ackNone := by decide

theorem removeClientSession_not_transmitter (timeBases : List Nat) (s : Clients) (sessionId : SessionId) :
    ¬ (s.removeClientSession timeBases sessionId).HasTransmitter sessionId := by
  rintro ⟨-, hmem⟩
  exact Finset.notMem_erase sessionId s.sessionMap hmem

/-- An answer goes out when it fits, the session is still there, and it is sent. -/
theorem echo_iff {msg : Message} (hack : msg.msgAck ≠ ackNone) :
    (∃ s', p.echo a s msg = .goes s') ↔
      (∃ buf, proxyMakeBuffer (p.data a) msg = some buf) ∧ a.removed = false ∧ a.sends = true ∧
        s.HasTransmitter msg.sessionId := by
  rw [Proxy.echo, if_neg hack]
  rcases proxyMakeBuffer (p.data a) msg with _ | buf
  · simp
  · cases hremoved : a.removed with
    | true =>
        have hnone := removeClientSession_not_transmitter p.timeBases s msg.sessionId
        simp [hnone]
    | false =>
        by_cases hgoes : s.HasTransmitter msg.sessionId ∧ a.sends = true
        · simp [hgoes]
        · have hno : ¬ (a.sends = true ∧ s.HasTransmitter msg.sessionId) := fun h => hgoes ⟨h.2, h.1⟩
          simp [hgoes, hno]

theorem removeClientSession_low (timeBases : List Nat) (h : s.Low) (sessionId : SessionId) :
    (s.removeClientSession timeBases sessionId).Low := h

theorem echo_low {msg : Message} (hlow : s.Low) (h : p.echo a s msg = .goes s') : s'.Low := by
  rw [Proxy.echo] at h
  split at h
  · cases h
    exact hlow
  · split at h
    · cases h
    · have hkept : ∀ s₁ : Clients, s₁.Low →
          (if s₁.HasTransmitter msg.sessionId ∧ a.sends = true then Work.goes s₁ else .ends) = .goes s' →
          s'.Low := by
        intro s₁ hlow₁ hgoes
        split at hgoes
        · cases hgoes
          exact hlow₁
        · cases hgoes
      refine hkept _ ?_ h
      split
      · exact removeClientSession_low p.timeBases hlow _
      · exact hlow

theorem proxyMakeBuffer_subscribe (data : ProxyData) (msgAck : UInt8) (sessionId : SessionId)
    (timeBaseIndex : UInt64) :
    ∃ buf, proxyMakeBuffer data { msgId := .subscribeMsg, msgAck, sessionId, timeBaseIndex } = some buf := by
  simp [proxyMakeBuffer, makeBufferHead, makeBufferComm, proxyMakeBufferTail, writeTx, maxBufferLength,
    ptpEventOctets, chronyEventOctets]

/-- A message of a class that is registered. -/
theorem handleMessage_two {msgId : UInt8} {class' : MsgId} (hclass : proxyClass msgId = some class')
    (msgAck : UInt8) (body : List UInt8) :
    handleMessage a s (msgId :: msgAck :: body) (.proxy p) =
      match parseBufferComm { msgId := class', msgAck } body with
      | none => .ends
      | some (msg, _) =>
        match p.parseBufferTail a s msg with
        | .goes (msg, s) => p.echo a s msg
        | .ends => .ends
        | .hangs => .hangs := by
  rw [handleMessage, Proxy.parseBuffer, parseBufferHead_two, hclass, Option.bind_some]
  rcases parseBufferComm { msgId := class', msgAck } body with _ | ⟨msg, rx⟩ <;> rfl

theorem handle_connect (hlow : s.Low) (msgAck : UInt8) (body : List UInt8) :
    (∃ s', handleMessage a s (0 :: msgAck :: body) (.proxy p) = .goes s') ↔
      p.Keeps a s (0 :: msgAck :: body) := by
  have hkeeps : p.Keeps a s (0 :: msgAck :: body) ↔
      514 ≤ body.length ∧ p.rows.length ≤ 53 ∧ a.removed = false ∧ a.sends = true ∧
        (∃ sid s', s.connectSession (wireSession body) a.opens = some (sid, s') ∧
          sid ≠ invalidSessionId) := by
    have hsession : (∃ sid s', s.connectSession (wireSession body) a.opens = some (sid, s') ∧
        sid ≠ invalidSessionId) ↔
        (wireSession body = invalidSessionId →
          a.opens = true ∧ ∃ sid, sid.toNat < 0x8000 ∧ sid ∉ s.sessionMap) ∧
        (wireSession body ≠ invalidSessionId → wireSession body ∈ s.sessionMap) := by
      by_cases hinvalid : wireSession body = invalidSessionId
      · rw [hinvalid, Clients.connectSession_new hlow]
        simp
      · rw [Clients.connectSession, if_pos hinvalid]
        by_cases hmem : wireSession body ∈ s.sessionMap
        · simp [hmem, hinvalid]
        · simp [hmem, hinvalid]
    rw [hsession]
    simp [Proxy.Keeps]
  have hclass : proxyClass 0 = some .connectMsg := rfl
  rw [hkeeps, handleMessage_two hclass, parseBufferComm_connect]
  by_cases hlen : 514 ≤ body.length
  · rw [if_pos hlen]
    simp only [Proxy.parseBufferTail]
    rcases hsid : s.connectSession (wireSession body) a.opens with _ | ⟨sid, s₁⟩
    · simp
    · by_cases hinvalid : sid = invalidSessionId
      · simp [hinvalid]
      · obtain ⟨-, hmem⟩ := Clients.connectSession_spec hlow hsid hinvalid
        simp only [if_neg hinvalid]
        rw [echo_iff ackSuccess_ne, proxyMakeBuffer_connect _ rfl]
        have htx : s₁.HasTransmitter sid := ⟨hinvalid, hmem⟩
        by_cases hrows : p.rows.length ≤ 53
        · simp [hlen, hrows, htx, hinvalid, Proxy.data]
        · simp [hrows, Proxy.data]
  · simp [hlen]

theorem handle_subscribe (msgAck : UInt8) (body : List UInt8) :
    (∃ s', handleMessage a s (1 :: msgAck :: body) (.proxy p) = .goes s') ↔
      p.Keeps a s (1 :: msgAck :: body) := by
  have hkeeps : p.Keeps a s (1 :: msgAck :: body) ↔
      10 ≤ body.length ∧ s.HasTransmitter (wireSession body) ∧
        ofLe ((body.drop 2).take 8) ∈ p.timeBases ∧ a.removed = false ∧ a.sends = true := by
    simp [Proxy.Keeps]
  -- the index is read from eight octets
  have hindex : (UInt64.ofNat (ofLe ((body.drop 2).take 8))).toNat = ofLe ((body.drop 2).take 8) := by
    rw [UInt64.toNat_ofNat']
    refine Nat.mod_eq_of_lt ?_
    have hlt := ofBe_lt ((body.drop 2).take 8).reverse
    have hle : ((body.drop 2).take 8).reverse.length ≤ 8 := by
      rw [List.length_reverse]
      exact List.length_take_le _ _
    calc ofLe ((body.drop 2).take 8) < 256 ^ ((body.drop 2).take 8).reverse.length := hlt
      _ ≤ 256 ^ 8 := Nat.pow_le_pow_right (by decide) hle
      _ = 2 ^ 64 := by decide
  have hclass : proxyClass 1 = some .subscribeMsg := rfl
  rw [hkeeps, handleMessage_two hclass, parseBufferComm_subscribe]
  by_cases hlen : 10 ≤ body.length
  · rw [if_pos hlen]
    simp only [Proxy.parseBufferTail, Clients.subscribeSession, hindex]
    by_cases hknown : s.HasTransmitter (wireSession body) ∧ ofLe ((body.drop 2).take 8) ∈ p.timeBases
    · obtain ⟨⟨hvalid, hmem⟩, hbase⟩ := hknown
      rw [if_neg (by simp [hvalid, hmem, hbase])]
      simp only
      rw [echo_iff ackSuccess_ne, and_iff_right (proxyMakeBuffer_subscribe _ _ _ _)]
      simp [Clients.HasTransmitter, Clients.setSubscribed, hvalid, hmem, hlen, hbase]
    · have hrefused : wireSession body = invalidSessionId ∨ ofLe ((body.drop 2).take 8) ∉ p.timeBases ∨
          wireSession body ∉ s.sessionMap := by
        by_contra hno
        simp only [not_or, not_not] at hno
        exact hknown ⟨⟨hno.1, hno.2.2⟩, hno.2.1⟩
      rw [if_pos hrefused]
      simp only [reduceCtorEq, exists_false, false_iff]
      rintro ⟨-, htx, hbase, -⟩
      exact hknown ⟨htx, hbase⟩
  · simp [hlen]

theorem handle_disconnect (msgAck : UInt8) (body : List UInt8) :
    (∃ s', handleMessage a s (3 :: msgAck :: body) (.proxy p) = .goes s') ↔
      p.Keeps a s (3 :: msgAck :: body) := by
  have hkeeps : p.Keeps a s (3 :: msgAck :: body) ↔ 2 ≤ body.length ∧ msgAck = ackNone := by
    simp [Proxy.Keeps]
  have hclass : proxyClass 3 = some .disconnectMsg := rfl
  rw [hkeeps, handleMessage_two hclass, parseBufferComm_disconnect]
  by_cases hlen : 2 ≤ body.length
  · rw [if_pos hlen]
    simp only [Proxy.parseBufferTail]
    by_cases hack : msgAck = ackNone
    · simp [hlen, hack, Proxy.echo]
    · -- the session that is to get the answer is removed by now
      have hnone := removeClientSession_not_transmitter p.timeBases s (wireSession body)
      rw [echo_iff hack]
      simp [hack, hnone]
  · simp [hlen]

/-- The proxy goes on behind a message exactly when it is one of those that it handles and answers. -/
theorem proxy_handle_iff (hlow : s.Low) {w : List UInt8} (hw : w ≠ []) :
    (∃ s', handleMessage a s w (.proxy p) = .goes s') ↔ p.Keeps a s w := by
  rcases w with _ | ⟨msgId, _ | ⟨msgAck, body⟩⟩
  · exact absurd rfl hw
  · rw [handleMessage, Proxy.parseBuffer, parseBufferHead_one]
    simp [Proxy.Keeps]
  · by_cases h0 : msgId = 0
    · subst h0
      exact handle_connect hlow msgAck body
    · by_cases h1 : msgId = 1
      · subst h1
        exact handle_subscribe msgAck body
      · by_cases h3 : msgId = 3
        · subst h3
          exact handle_disconnect msgAck body
        · have hclass : proxyClass msgId = none := by simp [proxyClass, h0, h1, h3]
          rw [handleMessage, Proxy.parseBuffer, parseBufferHead_two, hclass]
          simp [Proxy.Keeps, h0, h1, h3]

/-- The handlers keep the next session among those that clients get. -/
theorem parseBufferTail_low {msg msg' : Message} (hlow : s.Low)
    (h : p.parseBufferTail a s msg = .goes (msg', s')) : s'.Low := by
  rw [Proxy.parseBufferTail] at h
  split at h
  · split at h
    · cases h
    · next hsession =>
        split at h
        · cases h
        · next hvalid =>
            cases h
            exact (Clients.connectSession_spec hlow hsession hvalid).1
  · split at h
    · cases h
    · next hsub =>
        cases h
        rw [Clients.subscribeSession] at hsub
        split at hsub
        · cases hsub
        · cases hsub
          exact hlow
  · cases h
    exact hlow
  · cases h
    exact removeClientSession_low p.timeBases hlow _

theorem proxy_handle_low {w : List UInt8} (hlow : s.Low)
    (h : handleMessage a s w (.proxy p) = .goes s') : s'.Low := by
  simp only [handleMessage] at h
  split at h
  · next msg s₁ hparse =>
      refine echo_low (?_ : s₁.Low) h
      rw [Proxy.parseBuffer] at hparse
      split at hparse
      · cases hparse
      · exact parseBufferTail_low hlow hparse
  · cases h
  · cases h

end Proxy

/-! ## Clients -/

section Client

variable {a : Around} {s : Clients}

theorem clientMakeBuffer_some (msg : Message) : ∃ buf, clientMakeBuffer msg = some buf := by
  rcases hid : msg.msgId <;>
    simp [clientMakeBuffer, makeBufferHead, makeBufferComm, hid, writeTx, maxBufferLength, clientIdLength]

theorem clientEcho_iff (msg : Message) :
    (∃ s', clientEcho a s msg = .goes s') ↔ msg.msgAck = ackNone ∨ a.sends = true := by
  obtain ⟨buf, hbuf⟩ := clientMakeBuffer_some msg
  rw [clientEcho, hbuf]
  by_cases hack : msg.msgAck = ackNone
  · simp [hack]
  · cases hsends : a.sends <;> simp [hack]

/-- A client goes on behind a message that it parses, if there is nothing to send or it is sent. -/
theorem client_handle_parsed (w : List UInt8) :
    (∃ s', handleMessage a s w .client = .goes s') ↔
      ∃ msg done rx, clientParseBuffer w = some ((msg, done), rx) ∧
        (msg.msgAck = ackNone ∨ a.sends = true) := by
  simp only [handleMessage]
  rcases clientParseBuffer w with _ | ⟨⟨msg, done⟩, rx⟩
  · simp
  · simp only [clientEcho_iff, Option.some.injEq, Prod.mk.injEq]
    constructor
    · intro h
      exact ⟨msg, done, rx, ⟨⟨rfl, rfl⟩, rfl⟩, h⟩
    · rintro ⟨_, _, _, ⟨⟨rfl, rfl⟩, rfl⟩, h⟩
      exact h

theorem clientParseBuffer_two (msgId msgAck : UInt8) (body : List UInt8) :
    clientParseBuffer (msgId :: msgAck :: body) =
      ((clientClass msgId).bind fun msgId => parseBufferComm { msgId, msgAck } body).bind
        fun p => clientParseBufferTail p.1 p.2 := by
  show (parseBufferHead clientClass _).bind _ = _
  rw [parseBufferHead_two]

theorem clientParse_connect (msgAck : UInt8) (body : List UInt8) :
    (∃ msg done rx, clientParseBuffer (0 :: msgAck :: body) = some ((msg, done), rx) ∧
        (msg.msgAck = ackNone ∨ a.sends = true)) ↔
      522 ≤ body.length ∧ 522 + 144 * ofLe ((body.drop 514).take 8) ≤ body.length := by
  have hclass : clientClass 0 = some .connectMsg := rfl
  rw [clientParseBuffer_two, hclass, Option.bind_some, parseBufferComm_connect]
  by_cases hhead : 522 ≤ body.length
  · rw [if_pos (by omega), Option.bind_some]
    simp only [clientParseBufferTail]
    rw [parseInt_bind, if_pos (by rw [List.length_drop]; omega), List.drop_drop]
    have htakes := takes_parseCfgs (ofLe ((body.drop 514).take 8)) (body.drop (514 + 8))
    rw [List.length_drop] at htakes
    by_cases hall : 522 + 144 * ofLe ((body.drop 514).take 8) ≤ body.length
    · obtain ⟨cfgs, hcfgs⟩ := htakes.1 (by omega)
      rw [rx_bind hcfgs]
      exact iff_of_true ⟨_, _, _, rfl, .inl rfl⟩ ⟨hhead, hall⟩
    · have hnone := htakes.2 (by omega)
      refine iff_of_false ?_ (fun h => hall h.2)
      rintro ⟨msg, done, rx, heq, -⟩
      rw [rx_bind_none hnone] at heq
      cases heq
  · refine iff_of_false ?_ (fun h => hhead h.1)
    rintro ⟨msg, done, rx, heq, -⟩
    split at heq
    · rw [Option.bind_some] at heq
      simp only [clientParseBufferTail] at heq
      rw [parseInt_bind, if_neg (by rw [List.length_drop]; omega)] at heq
      cases heq
    · cases heq

theorem takes_subscribe {msg : Message} (hid : msg.msgId = .subscribeMsg) :
    Takes (clientParseBufferTail msg) 56 := by
  rw [clientParseBufferTail, hid]
  exact takes_parsePtpEvent.bind fun _ => takes_parseChronyEvent.bind fun _ => takes_pure _

theorem clientParse_subscribe (msgAck : UInt8) (body : List UInt8) :
    (∃ msg done rx, clientParseBuffer (1 :: msgAck :: body) = some ((msg, done), rx) ∧
        (msg.msgAck = ackNone ∨ a.sends = true)) ↔ 66 ≤ body.length := by
  have hclass : clientClass 1 = some .subscribeMsg := rfl
  rw [clientParseBuffer_two, hclass, Option.bind_some, parseBufferComm_subscribe]
  by_cases hall : 66 ≤ body.length
  · rw [if_pos (by omega), Option.bind_some]
    simp only [clientParseBufferTail]
    obtain ⟨ptpData, hptp⟩ := (takes_parsePtpEvent (body.drop 10)).1 (by rw [List.length_drop]; omega)
    obtain ⟨chronyData, hchrony⟩ := (takes_parseChronyEvent ((body.drop 10).drop 32)).1
      (by rw [List.length_drop, List.length_drop]; omega)
    rw [rx_bind hptp, rx_bind hchrony]
    exact iff_of_true ⟨_, _, _, rfl, .inl rfl⟩ hall
  · refine iff_of_false ?_ hall
    rintro ⟨msg, done, rx, heq, -⟩
    split at heq
    · rw [Option.bind_some, (takes_subscribe rfl (body.drop 10)).2 (by rw [List.length_drop]; omega)] at heq
      cases heq
    · cases heq

theorem clientParse_notify (msgAck : UInt8) (body : List UInt8) :
    (∃ msg done rx, clientParseBuffer (2 :: msgAck :: body) = some ((msg, done), rx) ∧
        (msg.msgAck = ackNone ∨ a.sends = true)) ↔
      9 ≤ body.length ∧ (body.getD 8 0 = ptpClock → 41 ≤ body.length) ∧
        (body.getD 8 0 = sysClock → 33 ≤ body.length) ∧ (msgAck = ackNone ∨ a.sends = true) := by
  have hclass : clientClass 2 = some .notifyMessage := rfl
  rw [clientParseBuffer_two, hclass, Option.bind_some, parseBufferComm_notify]
  by_cases hhead : 9 ≤ body.length
  · -- the octet behind the index tells which event follows
    obtain ⟨clockType, rest, hrest⟩ : ∃ clockType rest, body.drop 8 = clockType :: rest := by
      rcases hdrop : body.drop 8 with _ | ⟨c, r⟩
      · rw [List.drop_eq_nil_iff] at hdrop
        omega
      · exact ⟨c, r, rfl⟩
    have htype : body.getD 8 0 = clockType := by
      have hget : (body.drop 8)[0]? = some clockType := by rw [hrest]; rfl
      rw [List.getElem?_drop] at hget
      rw [List.getD_eq_getElem?_getD]
      simp only [Nat.add_zero] at hget
      rw [hget]
      rfl
    have hlen : body.length = rest.length + 9 := by
      have := congrArg List.length hrest
      rw [List.length_drop, List.length_cons] at this
      omega
    have hoctet : parseOctet (clockType :: rest) = some (clockType, rest) := parseOctet_append clockType rest
    rw [if_pos (by omega), Option.bind_some, hrest, htype]
    simp only [clientParseBufferTail]
    rw [rx_bind hoctet]
    -- each event has its own length, and another type has nothing behind it
    by_cases hptp : clockType = ptpClock
    · have hsys : ¬ clockType = sysClock := by
        rw [hptp]
        decide
      rw [if_pos hptp]
      by_cases hall : 41 ≤ body.length
      · obtain ⟨ptpData, hdata⟩ := (takes_parsePtpEvent rest).1 (by omega)
        rw [rx_bind hdata]
        constructor
        · rintro ⟨msg, done, rx, heq, hsends⟩
          cases heq
          exact ⟨hhead, fun _ => hall, fun h => absurd h hsys, hsends⟩
        · rintro ⟨-, -, -, hsends⟩
          exact ⟨_, _, _, rfl, hsends⟩
      · refine iff_of_false ?_ fun h => hall (h.2.1 hptp)
        rintro ⟨msg, done, rx, heq, -⟩
        rw [rx_bind_none ((takes_parsePtpEvent rest).2 (by omega))] at heq
        cases heq
    · rw [if_neg hptp]
      by_cases hsys : clockType = sysClock
      · rw [if_pos hsys]
        by_cases hall : 33 ≤ body.length
        · obtain ⟨chronyData, hdata⟩ := (takes_parseChronyEvent rest).1 (by omega)
          rw [rx_bind hdata]
          constructor
          · rintro ⟨msg, done, rx, heq, hsends⟩
            cases heq
            exact ⟨hhead, fun h => absurd h hptp, fun _ => hall, hsends⟩
          · rintro ⟨-, -, -, hsends⟩
            exact ⟨_, _, _, rfl, hsends⟩
        · refine iff_of_false ?_ fun h => hall (h.2.2.1 hsys)
          rintro ⟨msg, done, rx, heq, -⟩
          rw [rx_bind_none ((takes_parseChronyEvent rest).2 (by omega))] at heq
          cases heq
      · rw [if_neg hsys]
        constructor
        · rintro ⟨msg, done, rx, heq, hsends⟩
          cases heq
          exact ⟨hhead, fun h => absurd h hptp, fun h => absurd h hsys, hsends⟩
        · rintro ⟨-, -, -, hsends⟩
          exact ⟨_, _, _, rfl, hsends⟩
  -- without the index and the type the head is not there
  · refine iff_of_false ?_ fun h => hhead h.1
    rintro ⟨msg, done, rx, heq, -⟩
    split at heq
    · rw [Option.bind_some] at heq
      simp only [clientParseBufferTail] at heq
      rw [rx_bind_none ((takes_parseOctet (body.drop 8)).2 (by rw [List.length_drop]; omega))] at heq
      cases heq
    · cases heq

theorem clientParse_disconnect (msgAck : UInt8) (body : List UInt8) :
    (∃ msg done rx, clientParseBuffer (3 :: msgAck :: body) = some ((msg, done), rx) ∧
        (msg.msgAck = ackNone ∨ a.sends = true)) ↔
      2 ≤ body.length ∧ (msgAck = ackNone ∨ a.sends = true) := by
  have hclass : clientClass 3 = some .disconnectMsg := rfl
  rw [clientParseBuffer_two, hclass, Option.bind_some, parseBufferComm_disconnect]
  by_cases hlen : 2 ≤ body.length
  · rw [if_pos hlen, Option.bind_some]
    constructor
    · rintro ⟨msg, done, rx, heq, hsends⟩
      cases heq
      exact ⟨hlen, hsends⟩
    · rintro ⟨-, hsends⟩
      exact ⟨_, _, _, rfl, hsends⟩
  · simp [hlen]

/-- A client goes on behind a message exactly when it is one of those that it handles. -/
theorem client_handle_iff {w : List UInt8} (hw : w ≠ []) :
    (∃ s', handleMessage a s w .client = .goes s') ↔ ClientKeeps a w := by
  rw [client_handle_parsed]
  rcases w with _ | ⟨msgId, _ | ⟨msgAck, body⟩⟩
  · exact absurd rfl hw
  · refine iff_of_false ?_ id
    rintro ⟨msg, done, rx, heq, -⟩
    have hnone : clientParseBuffer [msgId] = none := rx_bind_none (parseBufferHead_one msgId) _
    rw [hnone] at heq
    cases heq
  · by_cases h0 : msgId = 0
    · subst h0
      rw [clientParse_connect]
      simp [ClientKeeps]
    · by_cases h1 : msgId = 1
      · subst h1
        rw [clientParse_subscribe]
        simp [ClientKeeps]
      · by_cases h2 : msgId = 2
        · subst h2
          rw [clientParse_notify]
          simp [ClientKeeps]
        · by_cases h3 : msgId = 3
          · subst h3
            rw [clientParse_disconnect]
            simp [ClientKeeps]
          · have hclass : clientClass msgId = none := by simp [clientClass, proxyClass, h0, h1, h2, h3]
            rw [clientParseBuffer_two, hclass]
            simp [ClientKeeps, h0, h1, h2, h3]

end Client

/-! ## The loop -/

/-- One round of the loop. -/
theorem mqListenerWork_iff (node : Node) {s : Clients} (hlow : s.Low) (e : Arrival) :
    (∃ s', mqListenerWork node s e = .goes s') ↔ Keeps node s e := by
  cases e with
  | message w a =>
      rw [mqListenerWork]
      by_cases hw : w = []
      · subst hw
        cases node <;> simp [Keeps, Proxy.Keeps, ClientKeeps]
      · rw [if_neg hw]
        cases node with
        | proxy p => exact proxy_handle_iff hlow hw
        | client => exact client_handle_iff hw
  | interrupted => simp [mqListenerWork, Keeps]
  | failed => simp [mqListenerWork, Keeps]
  | removeClient sessionId => cases node <;> simp [mqListenerWork, Keeps]

theorem clientEcho_same {a : Around} {s s' : Clients} {msg : Message} (h : clientEcho a s msg = .goes s') :
    s' = s := by
  rw [clientEcho] at h
  split at h
  · cases h
    rfl
  · split at h
    · cases h
    · split at h
      · cases h
        rfl
      · cases h

theorem mqListenerWork_low {node : Node} {s s' : Clients} (hlow : s.Low) {e : Arrival}
    (h : mqListenerWork node s e = .goes s') : s'.Low := by
  cases e with
  | message w a =>
      rw [mqListenerWork] at h
      split at h
      · cases h
        exact hlow
      · cases node with
        | proxy p => exact proxy_handle_low hlow h
        | client =>
            simp only [handleMessage] at h
            split at h
            · cases h
            · rw [clientEcho_same h]
              exact hlow
  | interrupted =>
      cases h
      exact hlow
  | failed => cases h
  | removeClient sessionId =>
      cases node with
      | proxy p =>
          cases h
          exact hlow
      | client =>
          cases h
          exact hlow

theorem dispatchLoop_iff (node : Node) {s : Clients} (hlow : s.Low) (es : List Arrival) :
    (∃ s', dispatchLoop node s es = .goes s') ↔ KeepsAll node s es := by
  induction es generalizing s with
  | nil => exact iff_of_true ⟨s, rfl⟩ trivial
  | cons e es ih =>
      have hstep := mqListenerWork_iff node hlow e
      rw [dispatchLoop, KeepsAll, ← hstep]
      rcases hwork : mqListenerWork node s e with s₁ | _ | _
      · simp only
        rw [ih (mqListenerWork_low hlow hwork)]
        constructor
        · intro hall
          refine ⟨⟨s₁, rfl⟩, fun s' heq => ?_⟩
          cases heq
          exact hall
        · rintro ⟨-, hall⟩
          exact hall s₁ rfl
      · simp
      · simp

/-- **The loop goes on through all that arrives exactly when each of it is handled and answered.** Every
    other message ends it; a connect message for which no session is free never returns. -/
theorem dispatchLoop_goes_iff (node : Node) (es : List Arrival) :
    (∃ s, dispatchLoop node Clients.init es = .goes s) ↔ KeepsAll node Clients.init es :=
  dispatchLoop_iff node Clients.init_low es

/-- The queue of a proxy with one time base, where all is sent. -/
def smallProxy : Proxy := ⟨[emptyRow], [1], fun _ => 0⟩

def allSent : Around := ⟨true, false, true, fun _ => ⟨0, 0, 0, false, false⟩, fun _ => ⟨0, 0, 0⟩⟩

/-- One octet that is no id of a message ends the listener of the proxy. -/
theorem dispatchLoop_unknown_ends :
    ¬ ∀ (node : Node) (messages : List (List UInt8 × Around)),
      ∃ s, dispatchLoop node Clients.init (messages.map fun m => .message m.1 m.2) = .goes s := by
  intro h
  obtain ⟨s, hs⟩ := h (.proxy smallProxy) [([9], allSent)]
  have hends : dispatchLoop (.proxy smallProxy) Clients.init [.message [9] allSent] = .ends := rfl
  exact absurd (hends.symm.trans hs) nofun

end PtpMgmt.ClkMgr
