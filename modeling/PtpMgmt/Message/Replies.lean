import PtpMgmt.Message.Framing
import PtpMgmt.MngTlvs.Errors

set_option autoImplicit false

/-! # What a parse leaves in the object

What every parse keeps, and the replies that are accepted: from the code of a parse to the octets of the
message, and from the octets to the fields that the parse sets. -/

namespace PtpMgmt

open Wire Codec

namespace Message

/-! ## What every parse keeps -/

/-- Parameters and authentication stay, and the text of the last error passes the check of its own
    length, which `proc` makes before it reads a new one. -/
structure Keeps (m m' : Message) : Prop where
  prms : m'.prms = m.prms
  auth : m'.auth = m.auth
  shown : m.errorDisplay.Fits → m'.errorDisplay.Fits

theorem Keeps.refl (m : Message) : Keeps m m := ⟨rfl, rfl, id⟩

theorem Keeps.trans {a b c : Message} (h : Keeps a b) (k : Keeps b c) : Keeps a c :=
  ⟨k.prms.trans h.prms, k.auth.trans h.auth, fun hfits => k.shown (h.shown hfits)⟩

theorem displayData_fits {text t : PTPText} {mp : MsgProc} (h : text.Fits) (hb : mp.build = false)
    (ht : (displayData text mp).1 = some t) : t.Fits := by
  rw [displayData] at ht
  split at ht
  · exact PTPText.fits_of_parse h hb ht
  · cases ht
    exact h

section Keeps

variable {lib : HmacLib} {m : Message} {buf : Nat → UInt8} {actionField : ActionField} {tlvSize : Nat}
  {errAuth : MngParseError} {log : ParseLog}

theorem parseErrorStatus_keeps :
    Keeps m (parseErrorStatus m buf actionField tlvSize errAuth log).2.1 := by
  rw [parseErrorStatus]
  split
  · exact .refl m
  · simp only
    split
    · exact ⟨rfl, rfl, id⟩
    · split
      · exact ⟨rfl, rfl, id⟩
      · split
        · exact ⟨rfl, rfl, id⟩
        · split
          · exact ⟨rfl, rfl, id⟩
          · next he =>
              refine ⟨rfl, rfl, fun hfits => displayData_fits hfits ?_ (congrArg Prod.fst he)⟩
              rfl

theorem parseManagement_keeps :
    Keeps m (parseManagement m buf actionField tlvSize errAuth log).2.1 := by
  rw [parseManagement]
  split
  · exact .refl m
  · simp only
    split
    · exact ⟨rfl, rfl, id⟩
    · split
      · exact ⟨rfl, rfl, id⟩
      · split
        · exact ⟨rfl, rfl, id⟩
        · split
          · exact ⟨rfl, rfl, id⟩
          · split <;> exact ⟨rfl, rfl, id⟩

theorem parseSMPTE_keeps : Keeps m (parseSMPTE m buf actionField tlvSize errAuth log).2.1 := by
  rw [parseSMPTE]
  split
  · exact .refl m
  · split
    · exact .refl m
    · simp only
      split <;> exact ⟨rfl, rfl, id⟩

theorem parseMngTlv_keeps {tlvType : TlvType} :
    Keeps m (parseMngTlv m buf tlvType actionField tlvSize errAuth log).2.1 := by
  cases tlvType
  case managementErrorStatus => exact parseErrorStatus_keeps
  case management => exact parseManagement_keeps
  case organizationExtension => exact parseSMPTE_keeps
  all_goals exact .refl m

theorem parseMng_keeps {msgSize : Nat} : Keeps m (parseMng lib m buf msgSize log).2.1 := by
  have hmark : ∀ mngType, Keeps m { m with lastSig := false, mngType } := fun _ => ⟨rfl, rfl, id⟩
  rw [parseMng]
  simp only
  split
  · exact ⟨rfl, rfl, id⟩
  · split
    · exact hmark _
    · split
      · exact hmark _
      · exact (hmark _).trans parseMngTlv_keeps

theorem parseSig_keeps {leftAll : Int} : Keeps m (parseSig lib m buf leftAll log).2.1 := by
  rw [parseSig]
  split <;> exact ⟨rfl, rfl, id⟩

theorem parseHeader_keeps : Keeps m (parseHeader m buf log).2.1 := by
  rw [parseHeader]
  simp only
  split
  · exact ⟨rfl, rfl, id⟩
  · split <;> exact ⟨rfl, rfl, id⟩

/-- Whatever is received, this is kept. -/
theorem parse_keeps (lib : HmacLib) (m : Message) (buf : Nat → UInt8) (bufSize : Int) :
    Keeps m (m.parse lib buf bufSize).2.1 := by
  have htype : Keeps m { m with hdr := { m.hdr with type := buf 0 &&& 0xf } } := ⟨rfl, rfl, id⟩
  have hheader : ∀ log, Keeps m
      (parseHeader { m with hdr := { m.hdr with type := buf 0 &&& 0xf } } buf log).2.1 :=
    fun log => htype.trans parseHeader_keeps
  rw [parse]
  split
  · exact .refl m
  · simp only
    split
    · exact .refl m
    · have hhead := hheader ((ParseLog.init.look messageLengthOff 2).look 0 1)
      split
      · split
        · exact htype
        · split
          · next he =>
              rw [he] at hhead
              exact hhead
          · next he =>
              rw [he] at hhead
              exact hhead.trans parseSig_keeps
      · split
        · split
          · exact htype
          · split
            · next he =>
                rw [he] at hhead
                exact hhead
            · next he =>
                rw [he] at hhead
                exact hhead.trans parseMng_keeps
        · exact htype

end Keeps

/-! ## Replies -/

section Replies

variable (buf : Nat → UInt8)

/-- The id of a management TLV. -/
def replyId (spec : ImplementSpecific) : Option MngId :=
  findTlvId (UInt16.ofNat (beAt buf mngTlvOff 2)) spec

/-- The id of an error. -/
def errorTlvId (spec : ImplementSpecific) : Option MngId :=
  findTlvId (UInt16.ofNat (beAt buf (mngTlvOff + 2) 2)) spec

/-- The data of a reply, read into a pointer that is not set. -/
def readTlv (id : MngId) : MngParseError × TlvPtr × MsgProc :=
  callTlvData id .wild
    (((MsgProc.parseAt buf mngTlvOff (mngLength buf)).peek mngTlvOff 2).skip lengthFieldMngBase)

/-- The text of an error, read into an empty text. -/
def readText : Option PTPText × MsgProc :=
  (proc (default : PTPText)).run
    ((((MsgProc.parseAt buf mngTlvOff (mngLength buf)).peek (mngTlvOff + 2) 2).peek mngTlvOff 2).skip
      managementErrorTlvSize)

end Replies

/-- A reply that is accepted. -/
structure GoodReply (spec : ImplementSpecific) (buf : Nat → UInt8) (actionField : ActionField)
    (id : MngId) : Prop where
  action : actionField = .response ∨ actionField = .acknowledge
  min_le : lengthFieldMngBase ≤ mngLength buf
  found : replyId buf spec = some id
  allowed : checkReplyAction id actionField = true
  decodes : mngLength buf ≠ lengthFieldMngBase → (readTlv buf id).1 = .ok

/-- An error that is accepted. -/
structure GoodError (spec : ImplementSpecific) (buf : Nat → UInt8) (actionField : ActionField)
    (id : MngId) : Prop where
  action : actionField = .response ∨ actionField = .acknowledge
  min_le : managementErrorTlvSize ≤ mngLength buf
  found : errorTlvId buf spec = some id
  allowed : checkReplyAction id actionField = true
  shows : managementErrorTlvSize + 1 < mngLength buf → (readText buf).1.isSome = true

theorem AuthCode.ok_or_fault {err : MngParseError} (h : AuthCode err) : err = .ok ∨ IsFault err :=
  (em (err = .ok)).imp_right h.fault

theorem AuthCode.isAuth {err : MngParseError} (h : AuthCode err) (hne : err ≠ .ok) : err.IsAuth := by
  cases h with
  | ok => exact absurd rfl hne
  | auth => exact .inl rfl
  | authNone => exact .inr (.inl rfl)
  | authWrong => exact .inr (.inr (.inl rfl))
  | authNokey => exact .inr (.inr (.inr rfl))

theorem AuthCode.ne_msg {err : MngParseError} (h : AuthCode err) : err ≠ .msg := by
  rintro rfl
  cases h

section Reply

variable {m : Message} {buf : Nat → UInt8} {actionField : ActionField} {id : MngId}
  {errAuth : MngParseError} {log : ParseLog}

/-- The message after a reply: the data is that of the reply only when there is some. -/
theorem parseManagement_reply (errAuth : MngParseError) (log : ParseLog)
    (h : GoodReply m.prms.implementSpecific buf actionField id) :
    ∃ log', parseManagement m buf actionField (mngLength buf) errAuth log =
      (errAuth, { m with
        replyAction := actionField
        replayTlvId := .mng id
        dataGet := if mngLength buf = lengthFieldMngBase then m.dataGet else (readTlv buf id).2.1 },
        log') := by
  have haction : ¬ (actionField ≠ .response ∧ actionField ≠ .acknowledge) := fun hne =>
    h.action.elim hne.1 hne.2
  have hfound : findTlvId (UInt16.ofNat (beAt buf mngTlvOff 2)) m.prms.implementSpecific = some id :=
    h.found
  rw [parseManagement, if_neg haction]
  simp only [if_neg (Nat.not_lt.2 h.min_le), hfound, h.allowed, Bool.not_true, Bool.false_eq_true,
    if_false]
  by_cases hempty : mngLength buf = lengthFieldMngBase
  · simp only [if_pos hempty]
    exact ⟨_, rfl⟩
  · simp only [if_neg hempty]
    have hok := h.decodes hempty
    rcases hrun : readTlv buf id with ⟨err, tlv, mp⟩
    rw [hrun] at hok
    simp only at hok
    subst hok
    rw [readTlv] at hrun
    rw [hrun]
    exact ⟨_, rfl⟩

/-- A reply that gets a code of `parseAuth` is a good one: the code is that of its authentication. -/
theorem goodReply_of_code
    (h : AuthCode (parseManagement m buf actionField (mngLength buf) errAuth log).1) :
    (parseManagement m buf actionField (mngLength buf) errAuth log).1 = errAuth ∧
      ∃ id, GoodReply m.prms.implementSpecific buf actionField id := by
  rw [parseManagement] at h ⊢
  split at h
  · cases h
  · next haction =>
      rw [if_neg haction]
      simp only at h ⊢
      split at h
      · cases h
      · next hmin =>
          rw [if_neg hmin]
          split at h
          · cases h
          · next id hfound =>
              split at h
              · cases h
              · next hallowed =>
                  rw [if_neg hallowed]
                  have hact : actionField = .response ∨ actionField = .acknowledge := by
                    by_contra hne
                    exact haction (not_or.1 hne)
                  rw [Bool.not_eq_true, Bool.not_eq_false'] at hallowed
                  split at h
                  · next hempty =>
                      rw [if_pos hempty]
                      exact ⟨rfl, id, hact, Nat.not_lt.1 hmin, hfound, hallowed,
                        fun hne => absurd hempty hne⟩
                  · next hempty =>
                      rw [if_neg hempty]
                      have hplain := callTlvData_plain id .wild
                        (((MsgProc.parseAt buf mngTlvOff (mngLength buf)).peek mngTlvOff 2).skip
                          lengthFieldMngBase)
                      split at h
                      · next he =>
                          exact ⟨rfl, id, hact, Nat.not_lt.1 hmin, hfound, hallowed,
                            fun _ => congrArg Prod.fst he⟩
                      · next hne he =>
                          -- a decoder that fails has no code of authentication
                          rw [he] at hplain
                          exact absurd (h.isAuth hne) hplain

theorem goodReply_of_ok
    (h : (parseManagement m buf actionField (mngLength buf) errAuth log).1 = .ok) :
    errAuth = .ok ∧ ∃ id, GoodReply m.prms.implementSpecific buf actionField id := by
  obtain ⟨hcode, hgood⟩ := goodReply_of_code (h ▸ AuthCode.ok)
  exact ⟨hcode.symm.trans h, hgood⟩

theorem parseManagement_code (hauth : AuthCode errAuth) {tlvSize : Nat} :
    (parseManagement m buf actionField tlvSize errAuth log).1 = .ok ∨
    IsFault (parseManagement m buf actionField tlvSize errAuth log).1 := by
  rw [parseManagement]
  split
  · exact .inr (show IsFault MngParseError.action by decide)
  · simp only
    split
    · exact .inr (show IsFault MngParseError.tooSmall by decide)
    · split
      · exact .inr (show IsFault MngParseError.invalidId by decide)
      · next id _ =>
          split
          · exact .inr (show IsFault MngParseError.action by decide)
          · split
            · exact hauth.ok_or_fault
            · have hfault := callTlvData_fault id .wild
                (((MsgProc.parseAt buf mngTlvOff tlvSize).peek mngTlvOff 2).skip lengthFieldMngBase)
              split
              · exact hauth.ok_or_fault
              · next he =>
                  rw [he] at hfault
                  exact hfault

/-- The text that the getters report after an error. -/
theorem displayData_eq {text : PTPText} (h : text.Fits) {mp : MsgProc} (hb : mp.build = false)
    (hleft : 1 < mp.left) : displayData text mp = (proc (default : PTPText)).run mp := by
  rw [displayData, if_pos hleft, PTPText.run_parse h hb,
    PTPText.run_parse (show (default : PTPText).Fits from Nat.zero_le _) hb]

/-- The message after an error: the text is that of the error only when there is one. -/
theorem parseErrorStatus_error (errAuth : MngParseError) (log : ParseLog)
    (hfits : m.errorDisplay.Fits) (h : GoodError m.prms.implementSpecific buf actionField id) :
    ∃ log', parseErrorStatus m buf actionField (mngLength buf) errAuth log =
      (if errAuth ≠ .ok then errAuth else .msg, { m with
        replyAction := actionField
        replayTlvId := .mng id
        errorId := UInt16.ofNat (beAt buf mngTlvOff 2)
        errorDisplay := if managementErrorTlvSize + 1 < mngLength buf
          then (readText buf).1.getD default else m.errorDisplay }, log') := by
  have haction : ¬ (actionField ≠ .response ∧ actionField ≠ .acknowledge) := fun hne =>
    h.action.elim hne.1 hne.2
  have hfound : findTlvId (UInt16.ofNat (beAt buf (mngTlvOff + 2) 2)) m.prms.implementSpecific
      = some id := h.found
  have hmin := h.min_le
  rw [parseErrorStatus, if_neg haction]
  simp only [if_neg (Nat.not_lt.2 h.min_le), hfound, h.allowed, Bool.not_true, Bool.false_eq_true,
    if_false]
  generalize hmp : (((MsgProc.parseAt buf mngTlvOff (mngLength buf)).peek (mngTlvOff + 2) 2).peek
    mngTlvOff 2).skip managementErrorTlvSize = mp
  have hleft : mp.left = (mngLength buf : Int) - managementErrorTlvSize := by rw [← hmp]; rfl
  have hb : mp.build = false := by rw [← hmp]; rfl
  by_cases htext : managementErrorTlvSize + 1 < mngLength buf
  · rw [displayData_eq hfits hb (by omega)]
    have hsome := h.shows htext
    rw [readText, hmp] at hsome ⊢
    rcases hrun : (proc (default : PTPText)).run mp with ⟨_ | t, mp'⟩
    · rw [hrun] at hsome
      cases hsome
    · simp only [if_pos htext]
      exact ⟨_, rfl⟩
  · rw [displayData, if_neg (by omega)]
    simp only [if_neg htext]
    exact ⟨_, rfl⟩

/-- An error that gets its code or one of `parseAuth` is a good one. -/
theorem goodError_of_code (hfits : m.errorDisplay.Fits)
    (h : (parseErrorStatus m buf actionField (mngLength buf) errAuth log).1 = .msg ∨
      AuthCode (parseErrorStatus m buf actionField (mngLength buf) errAuth log).1) :
    ∃ id, GoodError m.prms.implementSpecific buf actionField id := by
  rw [parseErrorStatus] at h
  split at h
  · rcases h with h | h <;> cases h
  · next haction =>
      simp only at h
      split at h
      · rcases h with h | h <;> cases h
      · next hmin =>
          split at h
          · rcases h with h | h <;> cases h
          · next id hfound =>
              split at h
              · rcases h with h | h <;> cases h
              · next hallowed =>
                  have hact : actionField = .response ∨ actionField = .acknowledge := by
                    by_contra hne
                    exact haction (not_or.1 hne)
                  rw [Bool.not_eq_true, Bool.not_eq_false'] at hallowed
                  split at h
                  · rcases h with h | h <;> cases h
                  · next he =>
                      refine ⟨id, hact, Nat.not_lt.1 hmin, hfound, hallowed, fun htext => ?_⟩
                      rw [displayData_eq hfits rfl (by
                        simp only [MsgProc.skip, MsgProc.peek, MsgProc.parseAt_left]
                        omega)] at he
                      rw [readText, he]
                      rfl

theorem goodError_of_msg (hfits : m.errorDisplay.Fits) (hauth : AuthCode errAuth)
    (h : (parseErrorStatus m buf actionField (mngLength buf) errAuth log).1 = .msg) :
    errAuth = .ok ∧ ∃ id, GoodError m.prms.implementSpecific buf actionField id := by
  obtain ⟨id, hgood⟩ := goodError_of_code hfits (.inl h)
  refine ⟨?_, id, hgood⟩
  obtain ⟨_, herror⟩ := parseErrorStatus_error errAuth log hfits hgood
  by_contra hne
  rw [herror, if_pos hne] at h
  exact hauth.ne_msg h

theorem parseErrorStatus_code (hauth : AuthCode errAuth) {tlvSize : Nat} :
    (parseErrorStatus m buf actionField tlvSize errAuth log).1 = .msg ∨
    IsFault (parseErrorStatus m buf actionField tlvSize errAuth log).1 := by
  rw [parseErrorStatus]
  split
  · exact .inr (show IsFault MngParseError.action by decide)
  · simp only
    split
    · exact .inr (show IsFault MngParseError.tooSmall by decide)
    · split
      · exact .inr (show IsFault MngParseError.invalidId by decide)
      · split
        · exact .inr (show IsFault MngParseError.action by decide)
        · split
          · exact .inr (show IsFault MngParseError.tooSmall by decide)
          · split
            · next hne => exact .inr (hauth.fault hne)
            · exact .inl rfl

theorem parseSMPTE_code (hauth : AuthCode errAuth) {tlvSize : Nat} :
    (parseSMPTE m buf actionField tlvSize errAuth log).1 = .smpte ∨
    IsFault (parseSMPTE m buf actionField tlvSize errAuth log).1 := by
  have hfault := ((smpteOrganizationExtensionF default).advances
    (MsgProc.parseAt buf mngTlvOff tlvSize)).err (show IsFault MngParseError.tooSmall by decide)
  rw [parseSMPTE]
  split
  · exact .inr (show IsFault MngParseError.invalidTlv by decide)
  · split
    · exact .inr (show IsFault MngParseError.action by decide)
    · simp only
      split
      · next he =>
          rw [he] at hfault
          exact .inr hfault
      · split
        · next hne => exact .inr (hauth.fault hne)
        · exact .inl rfl

theorem ne_of_code {code good other : MngParseError} (h : code = good ∨ IsFault code)
    (hgood : good ≠ other) (hother : ¬ IsFault other) : code ≠ other := by
  rintro rfl
  exact h.elim (fun heq => hgood heq.symm) hother

theorem parseMngTlv_ne_sig (hauth : AuthCode errAuth) {tlvType : TlvType} {tlvSize : Nat} :
    (parseMngTlv m buf tlvType actionField tlvSize errAuth log).1 ≠ .sig := by
  cases tlvType
  case managementErrorStatus =>
      exact ne_of_code (parseErrorStatus_code hauth) (by decide) (by decide)
  case management => exact ne_of_code (parseManagement_code hauth) (by decide) (by decide)
  case organizationExtension => exact ne_of_code (parseSMPTE_code hauth) (by decide) (by decide)
  all_goals exact MngParseError.noConfusion

end Reply

/-! ## Messages that are accepted -/

/-- A management message, up to its management TLV. -/
structure MngAccepted (lib : HmacLib) (prms : MsgParams) (auth : Option Auth) (buf : Nat → UInt8)
    (bufSize : Int) (actionField : ActionField) : Prop where
  header : MngHeader buf bufSize
  frame : MngFrame buf (beAt buf messageLengthOff 2) actionField
  auth : ∀ a, auth = some a → prms.rcvAuthHas rcvAuthMng = true → ∀ log,
    (parseAuth lib a buf (mngEnd buf) (mngRest buf (beAt buf messageLengthOff 2)) true log).1 = .ok

section Accepted

variable {lib : HmacLib} {m : Message} {buf : Nat → UInt8} {bufSize : Int}

theorem parseMngAuth_code {auth : Nat} {left : Int} {log : ParseLog} :
    AuthCode (parseMngAuth lib m buf auth left log).1 := by
  rw [parseMngAuth]
  split
  · exact .ok
  · split
    · exact parseAuth_code true
    · exact .ok

theorem parse_of_accepted {actionField : ActionField}
    (h : MngAccepted lib m.prms m.auth buf bufSize actionField) :
    ∃ hdr log, m.parse lib buf bufSize = parseMngTlv ({ m with hdr }.framed buf) buf (mngTlvType buf)
      actionField (mngLength buf) .ok log := by
  obtain ⟨hdr, hparse⟩ := parse_management lib m h.header
  obtain ⟨log, -, hmng⟩ := parseMng_framed lib { m with hdr } headerLog h.frame
  have hauth : (parseMngAuth lib { m with hdr } buf (mngEnd buf)
      (mngRest buf (beAt buf messageLengthOff 2)) log).1 = .ok := by
    rw [parseMngAuth]
    split
    · rfl
    · next a ha =>
        split
        · next hrcv => exact h.auth a ha hrcv log
        · rfl
  rw [hauth, if_neg (by simp)] at hmng
  exact ⟨hdr, _, hparse.trans hmng⟩

/-- The management TLV of a message that is accepted. -/
inductive GoodTlv (spec : ImplementSpecific) (buf : Nat → UInt8) (actionField : ActionField) :
    MngParseError → Prop
  | reply {id : MngId} (htype : mngTlvType buf = .management)
      (h : GoodReply spec buf actionField id) : GoodTlv spec buf actionField .ok
  | error {id : MngId} (htype : mngTlvType buf = .managementErrorStatus)
      (h : GoodError spec buf actionField id) : GoodTlv spec buf actionField .msg

theorem goodTlv_of_code {errAuth : MngParseError} {actionField : ActionField} {log : ParseLog}
    (hfits : m.errorDisplay.Fits) (hauth : AuthCode errAuth)
    (hcode : (parseMngTlv m buf (mngTlvType buf) actionField (mngLength buf) errAuth log).1 = .ok ∨
      (parseMngTlv m buf (mngTlvType buf) actionField (mngLength buf) errAuth log).1 = .msg) :
    errAuth = .ok ∧ GoodTlv m.prms.implementSpecific buf actionField
      (parseMngTlv m buf (mngTlvType buf) actionField (mngLength buf) errAuth log).1 := by
  cases htype : mngTlvType buf
  case managementErrorStatus =>
      simp only [htype, parseMngTlv] at hcode ⊢
      have hmsg := hcode.resolve_left
        (ne_of_code (parseErrorStatus_code hauth) (by decide) (by decide))
      obtain ⟨hok, id, hgood⟩ := goodError_of_msg hfits hauth hmsg
      rw [hmsg]
      exact ⟨hok, .error htype hgood⟩
  case management =>
      simp only [htype, parseMngTlv] at hcode ⊢
      have hreply := hcode.resolve_right
        (ne_of_code (parseManagement_code hauth) (by decide) (by decide))
      obtain ⟨hok, id, hgood⟩ := goodReply_of_ok hreply
      rw [hreply]
      exact ⟨hok, .reply htype hgood⟩
  case organizationExtension =>
      simp only [htype, parseMngTlv] at hcode
      exact absurd hcode (not_or.2 ⟨ne_of_code (parseSMPTE_code hauth) (by decide) (by decide),
        ne_of_code (parseSMPTE_code hauth) (by decide) (by decide)⟩)
  all_goals
    simp only [htype, parseMngTlv] at hcode
    exact absurd hcode (by simp)

/-- The codes of a good management message come with a management TLV that is reached and good. -/
theorem accepted_of_code (hfits : m.errorDisplay.Fits)
    (hcode : (m.parse lib buf bufSize).1 = .ok ∨ (m.parse lib buf bufSize).1 = .msg) :
    ∃ actionField, MngAccepted lib m.prms m.auth buf bufSize actionField ∧
      GoodTlv m.prms.implementSpecific buf actionField (m.parse lib buf bufSize).1 := by
  -- each check that fails has a code of its own, which is not one of these two
  by_cases hmng : MngHeader buf bufSize
  case neg =>
      by_cases hsig : SigHeader m.prms buf bufSize
      · obtain ⟨hdr, hparse⟩ := parse_signaling lib m hsig
        rw [hparse] at hcode
        rcases parseSig_code lib { m with hdr } buf
          ((beAt buf messageLengthOff 2 : Int) - sigBaseSize) headerLog with h | h
        · rw [h] at hcode
          exact absurd hcode (by simp)
        · exact absurd hcode (not_or.2 ⟨h.1, h.2.1⟩)
      · rcases parse_refused lib m hsig hmng with h | h
        all_goals
          rw [h] at hcode
          exact absurd hcode (by simp)
  case pos =>
      obtain ⟨hdr, hparse⟩ := parse_management lib m hmng
      rw [hparse] at hcode ⊢
      by_cases hframe : ∃ actionField, MngFrame buf (beAt buf messageLengthOff 2) actionField
      case neg =>
          rcases parseMng_unframed lib { m with hdr } headerLog (not_exists.1 hframe) with h | h
          all_goals
            rw [h] at hcode
            exact absurd hcode (by simp)
      case pos =>
          obtain ⟨actionField, hframe⟩ := hframe
          obtain ⟨log, -, heq⟩ := parseMng_framed lib { m with hdr } headerLog hframe
          have hauth : AuthCode (parseMngAuth lib { m with hdr } buf (mngEnd buf)
            (mngRest buf (beAt buf messageLengthOff 2)) log).1 := parseMngAuth_code
          rw [heq] at hcode ⊢
          split at hcode
          · next hstop => exact absurd hcode (not_or.2 ⟨hstop.1, hauth.ne_msg⟩)
          · next hgo =>
              have hshown : (framed { m with hdr } buf).errorDisplay.Fits := hfits
              obtain ⟨hok, hgood⟩ := goodTlv_of_code hshown hauth hcode
              rw [if_neg hgo]
              refine ⟨actionField, ⟨hmng, hframe, fun a ha hrcv log' => ?_⟩, hgood⟩
              have hown : (parseAuth lib a buf (mngEnd buf)
                  (mngRest buf (beAt buf messageLengthOff 2)) true log).1 = .ok := by
                simpa only [parseMngAuth, ha, hrcv, if_true] using hok
              exact parseAuth_ok_iff.2 (parseAuth_ok_iff.1 hown)

/-- The object after a reply. -/
theorem parse_reply {actionField : ActionField} {id : MngId}
    (h : MngAccepted lib m.prms m.auth buf bufSize actionField)
    (htype : mngTlvType buf = .management)
    (hgood : GoodReply m.prms.implementSpecific buf actionField id) :
    (m.parse lib buf bufSize).1 = .ok ∧
    (m.parse lib buf bufSize).2.1.replayTlvId = .mng id ∧
    (m.parse lib buf bufSize).2.1.dataGet
      = if mngLength buf = lengthFieldMngBase then m.dataGet else (readTlv buf id).2.1 := by
  obtain ⟨hdr, log, hparse⟩ := parse_of_accepted h
  obtain ⟨log', hreply⟩ := parseManagement_reply (m := { m with hdr }.framed buf) .ok log hgood
  rw [hparse, htype, parseMngTlv, hreply]
  exact ⟨rfl, rfl, rfl⟩

/-- The object after an error. -/
theorem parse_error {actionField : ActionField} {id : MngId} (hfits : m.errorDisplay.Fits)
    (h : MngAccepted lib m.prms m.auth buf bufSize actionField)
    (htype : mngTlvType buf = .managementErrorStatus)
    (hgood : GoodError m.prms.implementSpecific buf actionField id) :
    (m.parse lib buf bufSize).1 = .msg ∧
    (m.parse lib buf bufSize).2.1.replayTlvId = .mng id ∧
    (m.parse lib buf bufSize).2.1.errorId = UInt16.ofNat (beAt buf mngTlvOff 2) ∧
    (m.parse lib buf bufSize).2.1.errorDisplay
      = if managementErrorTlvSize + 1 < mngLength buf
        then (readText buf).1.getD default else m.errorDisplay := by
  obtain ⟨hdr, log, hparse⟩ := parse_of_accepted h
  obtain ⟨log', herror⟩ := parseErrorStatus_error (m := { m with hdr }.framed buf) .ok log hfits
    hgood
  rw [hparse, htype, parseMngTlv, herror]
  exact ⟨rfl, rfl, rfl, rfl⟩

end Accepted

end Message

end PtpMgmt
