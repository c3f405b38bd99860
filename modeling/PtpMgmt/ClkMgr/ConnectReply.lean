import PtpMgmt.ClkMgr.Messages

set_option autoImplicit false

/-! # The reply to a connect message

The proxy answers a connect message with all the rows of its configuration, each of which takes 144 octets
behind the 524 of the rest. The client reads back what was written; but no more than 53 rows fit. -/

namespace PtpMgmt.ClkMgr

open Wire Json

/-! ## Reading back -/

/-- A reader that is done goes on with the next one. -/
theorem rx_bind {α β : Type} {m : Rx α} {rx rx' : List UInt8} {a : α} (h : m rx = some (a, rx'))
    (f : α → Rx β) : (m >>= f) rx = f a rx' := by
  show (m rx).bind (fun p => f p.1 p.2) = _
  rw [h]
  rfl

theorem parseOctet_append (b : UInt8) (r : List UInt8) : parseOctet ([b] ++ r) = some (b, r) := by
  have hoctet : [b] = leOctets 1 b.toNat := by simp [leOctets, beOctets]
  rw [parseOctet, hoctet, rx_bind (parseInt_append b.toNat_lt r)]
  simp only [UInt8.ofNat_toNat]
  rfl

theorem parseChars_append (v : Octets 64) (r : List UInt8) : parseChars (v.toList ++ r) = some (v, r) := by
  rw [parseChars, rx_bind (parseRx_append v.toList_length r), Octets.ofList_toList]
  rfl

theorem boolOctet_ne_zero (b : Bool) : (boolOctet b != 0) = b := by
  cases b <;> rfl

theorem length_octets (pad : Nat → UInt8) (off : Nat) (cfg : TimeBaseCfg) :
    (cfg.octets pad off).length = 144 := by
  simp [TimeBaseCfg.octets]

theorem parseTimeBaseCfg_octets (pad : Nat → UInt8) (off : Nat) (cfg : TimeBaseCfg) (r : List UInt8) :
    parseTimeBaseCfg (cfg.octets pad off ++ r) = some (cfg, r) := by
  simp only [TimeBaseCfg.octets, List.append_assoc]
  rw [parseTimeBaseCfg, rx_bind (parseInt_append cfg.timeBaseIndex.toNat_lt _),
    rx_bind (parseChars_append _ _), rx_bind (parseChars_append _ _), rx_bind (parseOctet_append _ _),
    rx_bind (parseOctet_append _ _), rx_bind (parseOctet_append _ _), rx_bind (parseOctet_append _ _),
    rx_bind (parseRx_append (length_slice pad _ 4) r)]
  simp only [UInt64.ofNat_toNat, boolOctet_ne_zero]
  rfl

/-- The octets of the rows, one behind the other. -/
def cfgOctets (pad : Nat → UInt8) : Nat → List TimeBaseCfgFull → List UInt8
  | _, [] => []
  | off, row :: rows => row.base.octets pad off ++ cfgOctets pad (off + 144) rows

theorem parseCfgs_cfgOctets (pad : Nat → UInt8) (off : Nat) (rows : List TimeBaseCfgFull) (r : List UInt8) :
    parseCfgs rows.length (cfgOctets pad off rows ++ r) = some (rows.map (·.base), r) := by
  induction rows generalizing off with
  | nil => rfl
  | cons row rows ih =>
      rw [List.length_cons, parseCfgs, cfgOctets, List.append_assoc,
        rx_bind (parseTimeBaseCfg_octets pad off row.base _), rx_bind (ih (off + 144))]
      rfl

/-! ## Writing -/

/-- The loop writes all the rows, if all of them fit. -/
theorem writeCfgs_eq (pad : Nat → UInt8) (rows : List TimeBaseCfgFull) {tx : List UInt8}
    (htx : tx.length ≤ maxBufferLength) :
    writeCfgs pad rows tx =
      if tx.length + 144 * rows.length ≤ maxBufferLength then some (tx ++ cfgOctets pad tx.length rows)
      else none := by
  induction rows generalizing tx with
  | nil =>
      rw [writeCfgs, if_pos (by simpa using htx), cfgOctets, List.append_nil]
  | cons row rows ih =>
      have hlen := length_octets pad tx.length row.base
      rw [writeCfgs, writeTx, hlen]
      by_cases hrow : tx.length + 144 ≤ maxBufferLength
      · have htx' : (tx ++ row.base.octets pad tx.length).length = tx.length + 144 := by
          rw [List.length_append, hlen]
        rw [if_pos hrow, Option.bind_some, ih (by rw [htx']; exact hrow), htx', cfgOctets,
          List.append_assoc]
        have hsum : tx.length + 144 + 144 * rows.length = tx.length + 144 * (row :: rows).length := by
          rw [List.length_cons]
          ring
        rw [hsum]
      · -- the first row that does not fit ends the loop
        have hall : ¬ tx.length + 144 * (row :: rows).length ≤ maxBufferLength := by
          rw [List.length_cons]
          omega
        rw [if_neg hrow, if_neg hall]
        rfl

/-- What stands before the rows. -/
def connectHead (msgAck : UInt8) (sessionId : SessionId) (clientId : List UInt8) : List UInt8 :=
  [MsgId.connectMsg.val] ++ ([msgAck] ++ (leOctets 2 sessionId.toNat ++
    (Octets.ofList clientIdLength clientId).toList))

theorem length_connectHead (msgAck : UInt8) (sessionId : SessionId) (clientId : List UInt8) :
    (connectHead msgAck sessionId clientId).length = 516 := by
  simp [connectHead, clientIdLength]

theorem makeBufferHead_connect {msg : Message} (hid : msg.msgId = .connectMsg) :
    makeBufferHead msg = some (connectHead msg.msgAck msg.sessionId msg.clientId) := by
  simp [makeBufferHead, makeBufferComm, hid, writeTx, connectHead, clientIdLength, maxBufferLength]

/-- The whole message, if it fits. -/
theorem proxyMakeBuffer_connect (data : ProxyData) {msg : Message} (hid : msg.msgId = .connectMsg) :
    proxyMakeBuffer data msg =
      if data.rows.length ≤ 53 then
        some (connectHead msg.msgAck msg.sessionId msg.clientId ++
          (leOctets 8 data.rows.length ++ cfgOctets data.pad 524 data.rows))
      else none := by
  have hcount : (connectHead msg.msgAck msg.sessionId msg.clientId ++
      leOctets 8 data.rows.length).length = 524 := by
    rw [List.length_append, length_connectHead, length_leOctets]
  have hwrite : writeTx (leOctets 8 data.rows.length)
      (connectHead msg.msgAck msg.sessionId msg.clientId) =
      some (connectHead msg.msgAck msg.sessionId msg.clientId ++ leOctets 8 data.rows.length) :=
    writeTx_eq_some.2 ⟨by rw [length_connectHead, length_leOctets]; decide, rfl⟩
  have hfits : 524 + 144 * data.rows.length ≤ maxBufferLength ↔ data.rows.length ≤ 53 := by
    rw [maxBufferLength]
    omega
  rw [proxyMakeBuffer, makeBufferHead_connect hid, Option.bind_some, proxyMakeBufferTail, hid]
  show (writeTx _ _).bind (writeCfgs data.pad data.rows) = _
  rw [hwrite, Option.bind_some, writeCfgs_eq _ _ (by rw [hcount]; decide), hcount, List.append_assoc]
  simp only [hfits]

/-- A client reads the head of a connect message. -/
theorem parseBufferHead_connect (msgAck : UInt8) (sessionId : SessionId) (clientId r : List UInt8) :
    parseBufferHead clientClass (connectHead msgAck sessionId clientId ++ r) =
      some ({ msgId := .connectMsg, msgAck, sessionId,
              clientId := (Octets.ofList clientIdLength clientId).toList }, r) := by
  simp only [connectHead, List.append_assoc]
  rw [parseBufferHead, rx_bind (parseOctet_append _ _)]
  show (parseOctet >>= _) _ = _
  rw [rx_bind (parseOctet_append _ _)]
  show (parseInt 2 >>= _) _ = _
  rw [rx_bind (parseInt_append sessionId.toNat_lt _),
    rx_bind (parseRx_append (List.Vector.toList_length _) r)]
  simp only [UInt16.ofNat_toNat]
  rfl

/-- The client takes the reply as it was written. -/
theorem clientParseBuffer_connect (pad : Nat → UInt8) (msgAck : UInt8) (sessionId : SessionId)
    (clientId : List UInt8) {rows : List TimeBaseCfgFull} (hrows : rows.length < 256 ^ 8) :
    clientParseBuffer (connectHead msgAck sessionId clientId ++
        (leOctets 8 rows.length ++ cfgOctets pad 524 rows)) =
      some (({ msgId := .connectMsg, sessionId,
               clientId := (Octets.ofList clientIdLength clientId).toList },
             .connectReply sessionId (rows.map (·.base))), []) := by
  have hcfgs := parseCfgs_cfgOctets pad 524 rows []
  rw [List.append_nil] at hcfgs
  rw [clientParseBuffer, rx_bind (parseBufferHead_connect msgAck sessionId clientId _)]
  show (parseInt 8 >>= _) _ = _
  rw [rx_bind (parseInt_append hrows _), rx_bind hcfgs]
  rfl

/-! ## The reply -/

/-- The proxy builds its reply, and a client that parses it connects with the session of the reply and the
    rows in their order, and has nothing left. -/
def ReplyCarries (data : ProxyData) (sessionId : SessionId) (clientId : List UInt8) : Prop :=
  ∃ buf msg, proxyMakeBuffer data { msgId := .connectMsg, msgAck := ackSuccess, sessionId, clientId } = some buf ∧
    clientParseBuffer buf = some ((msg, .connectReply sessionId (data.rows.map (·.base))), []) ∧
    msg.sessionId = sessionId

theorem replyCarries_iff (data : ProxyData) (sessionId : SessionId) (clientId : List UInt8) :
    ReplyCarries data sessionId clientId ↔ data.rows.length ≤ 53 := by
  rw [ReplyCarries, proxyMakeBuffer_connect data rfl]
  constructor
  · rintro ⟨buf, msg, hmake, -⟩
    by_contra hmany
    rw [if_neg hmany] at hmake
    cases hmake
  · intro hfew
    rw [if_pos hfew]
    refine ⟨_, _, rfl, clientParseBuffer_connect data.pad ackSuccess sessionId clientId (by omega), rfl⟩

/-- Every element makes a row. -/
theorem processRows_length {currentIndex : UInt64} {its : List Value} {rows : List TimeBaseCfgFull}
    (h : processRows currentIndex its = some rows) : rows.length = its.length := by
  induction its generalizing currentIndex rows with
  | nil =>
      cases h
      rfl
  | cons it its ih =>
      obtain ⟨row, -, h⟩ := Option.bind_eq_some_iff.1 h
      obtain ⟨rest, hrest, h⟩ := Option.bind_eq_some_iff.1 h
      cases h
      rw [List.length_cons, List.length_cons, ih hrest]

/-- The elements of the `timeBases` of a configuration file. -/
def timeBases (file : Text) : List Value :=
  match parseFile true file with
  | some (some (.obj members)) => (getArr members (txt "timeBases")).getD []
  | _ => []

theorem processJson_length {file : Text} {rows : List TimeBaseCfgFull} (h : processJson file = some rows) :
    rows.length = (timeBases file).length := by
  rw [processJson] at h
  rw [timeBases]
  split at h
  · next main hfile =>
      obtain ⟨members, hobj, h⟩ := Option.bind_eq_some_iff.1 h
      obtain ⟨arr, harr, hrows⟩ := Option.bind_eq_some_iff.1 h
      rw [hfile]
      cases main with
      | obj members =>
          cases hobj
          simp only [harr, Option.getD_some]
          exact processRows_length hrows
      | _ => cases hobj
  · cases h

/-- **The reply carries the whole configuration exactly when it has at most 53 time bases.** This holds for
    every configuration that is accepted, which may have any number of them. -/
theorem connectReply_carries_iff (file : Text) (data : ProxyData) (hfile : processJson file = some data.rows)
    (sessionId : SessionId) (clientId : List UInt8) :
    ReplyCarries data sessionId clientId ↔ (timeBases file).length ≤ 53 := by
  rw [← processJson_length hfile]
  exact replyCarries_iff data sessionId clientId

/-- A configuration with one time base more than this, each with a name only. -/
def configFile (n : Nat) : Text :=
  txt "\x7b\"timeBases\":[\x7b\"timeBaseName\":\"a\"\x7d" ++
    (List.replicate n (txt ",\n\x7b\"timeBaseName\":\"a\"\x7d")).flatten ++ txt "]\x7d"

/-- No events, and zeros as padding. -/
def quietData (rows : List TimeBaseCfgFull) : ProxyData where
  rows := rows
  ptpEvent _ := ⟨0, 0, 0, false, false⟩
  chronyEvent _ := ⟨0, 0, 0⟩
  pad _ := 0

theorem connectReply_carries_iff_two :
    ∃ rows, processJson (configFile 1) = some rows ∧ ReplyCarries (quietData rows) 0 [] := by
  have hsome : (processJson (configFile 1)).isSome = true := by decide +kernel
  obtain ⟨rows, hrows⟩ := Option.isSome_iff_exists.1 hsome
  refine ⟨rows, hrows, (connectReply_carries_iff (configFile 1) (quietData rows) hrows 0 []).2 ?_⟩
  decide +kernel

/-- With 54 time bases there is no reply. -/
theorem connectReply_not_carries :
    ∃ rows, processJson (configFile 53) = some rows ∧
      ∀ sessionId clientId, ¬ ReplyCarries (quietData rows) sessionId clientId := by
  have hlen : (processJson (configFile 53)).map List.length = some 54 := by decide +kernel
  obtain ⟨rows, hrows, hmany⟩ := Option.map_eq_some_iff.1 hlen
  refine ⟨rows, hrows, fun sessionId clientId hcarries => ?_⟩
  have hfew : rows.length ≤ 53 := (replyCarries_iff (quietData rows) sessionId clientId).1 hcarries
  omega

end PtpMgmt.ClkMgr
