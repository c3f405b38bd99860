import PtpMgmt.Message.Framing
import PtpMgmt.Message.Authentic

set_option autoImplicit false

/-! # Authentication of signalling messages

Under `RCV_AUTH_SIG_ALL` every authentication TLV of a signalling message is checked. Two things stand
between that and the code of the parse: the loop keeps only the error of the last authentication TLV,
and behind an authentication TLV it goes on reading inside of its content. -/

namespace PtpMgmt

open Wire Codec

namespace Message

/-! ## The code of a signalling message -/

section Code

variable {lib : HmacLib} {m : Message} {a : Auth} {buf : Nat → UInt8} {e : Nat} {log : ParseLog}

theorem rcvAuthHas_sig {prms : MsgParams} (h : prms.rcvAuthHas rcvAuthSigAll = true) :
    prms.rcvAuthHas (rcvAuthSigAll ||| rcvAuthSigLast) = true := by
  simp only [MsgParams.rcvAuthHas, decide_eq_true_eq] at h ⊢
  rw [gt_iff_lt, UInt8.pos_iff_ne_zero] at h ⊢
  intro hzero
  refine h ?_
  calc prms.rcvAuth &&& rcvAuthSigAll
      = prms.rcvAuth &&& (rcvAuthSigAll ||| rcvAuthSigLast) &&& rcvAuthSigAll := by
        rw [UInt8.and_assoc]
        rfl
    _ = 0 := by rw [hzero]; rfl

theorem sigFinish_all {prms : MsgParams} {s : SigState} (hall : prms.rcvAuthHas rcvAuthSigAll = true) :
    (sigFinish lib prms (some a) buf s).1 =
      if s.lastTlv ≠ .authentication then .authNone
      else if s.errAuth ≠ .ok then s.errAuth
      else .sig := by
  simp only [sigFinish, rcvAuthHas_sig hall, hall, if_true, Bool.not_true, Bool.false_eq_true, if_false]
  split
  · rfl
  · split <;> rfl

theorem parseSig_code_some {err : MngParseError} {s : SigState}
    (h : sigRun lib m buf e log = (some err, s)) :
    (parseSig lib m buf ((e : Int) - sigBaseSize) log).1 = err := by
  rw [sigRun] at h
  rw [parseSig, h]

theorem parseSig_code_none {s : SigState} (h : sigRun lib m buf e log = (none, s)) :
    (parseSig lib m buf ((e : Int) - sigBaseSize) log).1 = (sigFinish lib m.prms m.auth buf s).1 := by
  rw [sigRun] at h
  rw [parseSig, h]

end Code

/-! ## What the code says about the authentication TLVs -/

/-- What is asked of the parse of a message with the TLVs at `starts`: its code is only that of a
    signalling message when all authentication TLVs verify and the last TLV is one, and when errors of
    authentication are to be ignored, the TLVs are decoded all the same and the code reports the
    errors. -/
structure SigAuthentic (lib : HmacLib) (m : Message) (a : Auth) (buf : Nat → UInt8) (e : Nat)
    (starts : List Nat) (log : ParseLog) : Prop where
  sig : (parseSig lib m buf ((e : Int) - sigBaseSize) log).1 = .sig →
    (∀ t ∈ starts, tlvTypeAt buf t = .authentication → Verifies lib a buf t) ∧
      ∃ t ∈ starts.getLast?, tlvTypeAt buf t = .authentication
  framed : m.prms.rcvAuthHas rcvAuthIgnore = true →
    (parseSig lib m buf ((e : Int) - sigBaseSize) log).2.2.heads <+: log.heads ++ starts
  decoded : m.prms.rcvAuthHas rcvAuthIgnore = true →
    (∀ t ∈ starts, Passes lib m.prms m.auth buf e t) →
    (parseSig lib m buf ((e : Int) - sigBaseSize) log).2.1.sigTlvs
      = starts.filterMap (sigTlvAt m.prms buf)
  reported : m.prms.rcvAuthHas rcvAuthIgnore = true →
    (∀ t ∈ starts, Passes lib m.prms m.auth buf e t) →
    (∃ t ∈ starts, tlvTypeAt buf t = .authentication ∧ ¬ Verifies lib a buf t) →
    AuthCode (parseSig lib m buf ((e : Int) - sigBaseSize) log).1 ∧
      (parseSig lib m buf ((e : Int) - sigBaseSize) log).1 ≠ .ok

/-- Up to the first TLV that does not pass: an authentication TLV in front of another TLV is ignored and
    empty, and when there is one, the last TLV is not an authentication TLV that verifies. -/
def AuthSafe (lib : HmacLib) (prms : MsgParams) (a : Auth) (buf : Nat → UInt8) (e : Nat)
    (starts : List Nat) : Prop :=
  ∀ pre t post, starts = pre ++ t :: post → tlvTypeAt buf t = .authentication →
    (∀ u ∈ pre ++ [t], Passes lib prms (some a) buf e u) →
    (post ≠ [] → prms.rcvAuthHas rcvAuthIgnore = true ∧ lengthAt buf t = 0) ∧
    (post = [] → (∃ u ∈ pre, tlvTypeAt buf u = .authentication) → ¬ Verifies lib a buf t)

/-- An empty authentication TLV does not verify. -/
theorem not_verifies_of_empty {lib : HmacLib} {a : Auth} {buf : Nat → UInt8} {t : Nat}
    (h : lengthAt buf t = 0) : ¬ Verifies lib a buf t := by
  intro hverify
  have hsize := hverify.1
  rw [h] at hsize
  exact absurd hsize (by decide)

theorem exists_first_not {P : Nat → Prop} {l : List Nat} (h : ¬ ∀ t ∈ l, P t) :
    ∃ pre t post, l = pre ++ t :: post ∧ (∀ u ∈ pre, P u) ∧ ¬ P t := by
  induction l with
  | nil => exact absurd (by simp) h
  | cons t rest ih =>
      by_cases ht : P t
      · obtain ⟨pre, u, post, rfl, hpre, hu⟩ := ih fun hrest => h fun u hu => by
          rcases List.mem_cons.1 hu with rfl | hu
          · exact ht
          · exact hrest u hu
        refine ⟨t :: pre, u, post, rfl, fun v hv => ?_, hu⟩
        rcases List.mem_cons.1 hv with rfl | hv
        · exact ht
        · exact hpre v hv
      · exact ⟨[], t, rest, rfl, by simp, ht⟩

section Safe

variable {lib : HmacLib} {m : Message} {a : Auth} {buf : Nat → UInt8} {e : Nat} {starts : List Nat}
  {log : ParseLog}

/-- What is read when all TLVs pass. -/
theorem AuthSafe.aligned (h : AuthSafe lib m.prms a buf e starts)
    (hpass : ∀ t ∈ starts, Passes lib m.prms (some a) buf e t) : Aligned buf starts := by
  intro t ht htype
  obtain ⟨pre, post, rfl, hpost⟩ := split_of_mem_dropLast ht
  exact ((h pre t post rfl htype fun u hu => hpass u (mem_of_mem_append_singleton hu)).1 hpost).2

/-- What is read in front of the first TLV that does not pass. -/
theorem AuthSafe.refused {pre post : List Nat} {t : Nat}
    (h : AuthSafe lib m.prms a buf e (pre ++ t :: post)) (hauth : m.auth = some a)
    (hframes : Frames buf e sigBaseSize (pre ++ t :: post))
    (hpre : ∀ u ∈ pre, Passes lib m.prms (some a) buf e u)
    (ht : ¬ Passes lib m.prms (some a) buf e t) :
    ∃ err s', sigRun lib m buf e log = (some err, s') ∧ IsFault err ∧
      s'.log.heads = log.heads ++ (pre ++ [t]) := by
  rw [sigRun, hauth]
  refine sigLoop_refused hframes (at_sigStart e log _) (Int.self_le_toNat _) hpre ?_ ht
  intro u hu htype
  obtain ⟨front, back, rfl⟩ := List.append_of_mem hu
  exact ((h front u (back ++ t :: post) (by simp) htype
    fun v hv => hpre v (mem_of_mem_append_singleton hv)).1 (by simp)).2

/-- The code when all TLVs pass and are read where they are. -/
theorem sigFinish_walked (hall : m.prms.rcvAuthHas rcvAuthSigAll = true) {s s' : SigState}
    (h : Walked lib m.prms (some a) buf starts s s') (hs : s.lastTlv ≠ .authentication) :
    ((sigFinish lib m.prms (some a) buf s').1 = .authNone ∧
      ∀ t ∈ starts.getLast?, tlvTypeAt buf t ≠ .authentication) ∨
    ∃ t ∈ starts.getLast?, tlvTypeAt buf t = .authentication ∧
      (Verifies lib a buf t ∧ (sigFinish lib m.prms (some a) buf s').1 = .sig ∨
        ¬ Verifies lib a buf t ∧ AuthCode (sigFinish lib m.prms (some a) buf s').1 ∧
          (sigFinish lib m.prms (some a) buf s').1 ≠ .ok) := by
  rw [sigFinish_all hall]
  by_cases hlast : s'.lastTlv = .authentication
  case neg =>
      rw [if_pos hlast]
      exact .inl ⟨rfl, fun t ht htype => hlast ((h.lastTlv t ht).trans htype)⟩
  case pos =>
      rw [if_neg (not_not_intro hlast)]
      have hne : starts ≠ [] := fun hnil => hs (h.nil hnil ▸ hlast)
      have ht : starts.getLast hne ∈ starts.getLast? := List.getLast?_eq_some_getLast hne
      have htype := (h.lastTlv _ ht).symm.trans hlast
      obtain ⟨hcode, hok⟩ := h.errAuth _ ht htype a rfl hall
      refine .inr ⟨_, ht, htype, ?_⟩
      by_cases herr : s'.errAuth = .ok
      · rw [if_neg (not_not_intro herr)]
        exact .inl ⟨hok.1 herr, rfl⟩
      · rw [if_pos herr]
        exact .inr ⟨fun hverify => herr (hok.2 hverify), hcode, herr⟩

/-- The condition is enough. -/
theorem AuthSafe.sigAuthentic (hauth : m.auth = some a)
    (hall : m.prms.rcvAuthHas rcvAuthSigAll = true) (hframes : Frames buf e sigBaseSize starts)
    (h : AuthSafe lib m.prms a buf e starts) : SigAuthentic lib m a buf e starts log := by
  by_cases hpass : ∀ t ∈ starts, Passes lib m.prms (some a) buf e t
  case neg =>
      obtain ⟨pre, t, post, rfl, hpre, ht⟩ := exists_first_not hpass
      obtain ⟨err, s', hrun, hfault, hheads⟩ := h.refused hauth hframes hpre ht
      constructor
      case sig =>
          intro hsig
          rw [parseSig_code_some hrun] at hsig
          exact absurd hsig hfault.2.2.1
      case framed =>
          intro _
          rw [parseSig_heads, hrun, hheads, List.prefix_append_right_inj, List.prefix_append_right_inj]
          exact List.prefix_append [t] post
      case decoded => exact fun _ hall => absurd (hauth ▸ hall) hpass
      case reported => exact fun _ hall => absurd (hauth ▸ hall) hpass
  case pos =>
      obtain ⟨s', hrun, hwalked⟩ := sigRun_aligned lib m buf e log hframes (hauth ▸ hpass)
        (h.aligned hpass)
      have hcode := parseSig_code_none hrun
      rw [hauth] at hwalked hcode
      have hfinish := sigFinish_walked hall hwalked (by simp [sigStart])
      -- a TLV that verifies at the end is the only authentication TLV
      have honly : ∀ t ∈ starts.getLast?, tlvTypeAt buf t = .authentication →
          Verifies lib a buf t → ∀ u ∈ starts, tlvTypeAt buf u = .authentication → u = t := by
        intro t ht htype hverify u hu hutype
        obtain ⟨pre, rfl⟩ := List.getLast?_eq_some_iff.1 ht
        rcases List.mem_append.1 hu with hu | hu
        · exact absurd hverify ((h pre t [] rfl htype hpass).2 rfl ⟨u, hu, hutype⟩)
        · exact List.mem_singleton.1 hu
      constructor
      case sig =>
          intro hsig
          rw [hcode] at hsig
          rcases hfinish with ⟨hnone, -⟩ | ⟨t, ht, htype, ⟨hverify, -⟩ | ⟨-, hauthCode, -⟩⟩
          · rw [hsig] at hnone
            cases hnone
          · refine ⟨fun u hu hutype => ?_, t, ht, htype⟩
            rw [honly t ht htype hverify u hu hutype]
            exact hverify
          · rw [hsig] at hauthCode
            cases hauthCode
      case framed =>
          intro _
          rw [parseSig_heads, hrun, hwalked.heads]
          exact List.prefix_rfl
      case decoded =>
          intro _ _
          rw [parseSig_tlvs, hrun]
          exact hwalked.tlvs
      case reported =>
          rintro - - ⟨u, hu, hutype, hufail⟩
          rw [hcode]
          rcases hfinish with ⟨hnone, -⟩ | ⟨t, ht, htype, ⟨hverify, -⟩ | ⟨-, hauthCode⟩⟩
          · rw [hnone]
            exact ⟨.authNone, by decide⟩
          · rw [honly t ht htype hverify u hu hutype] at hufail
            exact absurd hverify hufail
          · exact hauthCode

/-- An empty authentication TLV followed by one that verifies is not reported. -/
theorem sig_of_overwritten (hauth : m.auth = some a)
    (hall : m.prms.rcvAuthHas rcvAuthSigAll = true) (hframes : Frames buf e sigBaseSize starts)
    (hpass : ∀ t ∈ starts, Passes lib m.prms (some a) buf e t) (halign : Aligned buf starts) {t : Nat}
    (ht : t ∈ starts.getLast?) (htype : tlvTypeAt buf t = .authentication)
    (hverify : Verifies lib a buf t) :
    (parseSig lib m buf ((e : Int) - sigBaseSize) log).1 = .sig := by
  obtain ⟨s', hrun, hwalked⟩ := sigRun_aligned lib m buf e log hframes (hauth ▸ hpass) halign
  rw [hauth] at hwalked
  rw [parseSig_code_none hrun, hauth]
  rcases sigFinish_walked hall hwalked (by simp [sigStart]) with
    ⟨-, hnone⟩ | ⟨u, hu, -, ⟨-, hsig⟩ | ⟨hfail, -⟩⟩
  · exact absurd htype (hnone t ht)
  · exact hsig
  · cases ht.symm.trans hu
    exact absurd hverify hfail

/-- **When the code of a signalling message can be relied on**: when no authentication TLV makes the
    loop lose its place or is overwritten by a later one. When errors of authentication are ignored,
    only then. -/
theorem parseSig_authentic (lib : HmacLib) (m : Message) (a : Auth) (hauth : m.auth = some a)
    (hall : m.prms.rcvAuthHas rcvAuthSigAll = true) (buf : Nat → UInt8) (e : Nat) (starts : List Nat)
    (hframes : Frames buf e sigBaseSize starts) (log : ParseLog) :
    (AuthSafe lib m.prms a buf e starts → SigAuthentic lib m a buf e starts log) ∧
    (m.prms.rcvAuthHas rcvAuthIgnore = true → SigAuthentic lib m a buf e starts log →
      AuthSafe lib m.prms a buf e starts) := by
  refine ⟨AuthSafe.sigAuthentic hauth hall hframes, ?_⟩
  rintro hignore h pre t post rfl htype hpass
  -- an authentication TLV with content is the last TLV that is read
  have hempty : ∀ front u back, pre ++ t :: post = front ++ u :: back →
      (∀ v ∈ front ++ [u], Passes lib m.prms (some a) buf e v) → back ≠ [] →
      tlvTypeAt buf u = .authentication → lengthAt buf u = 0 := by
    intro front u back hsplit hpassed hback hutype
    by_contra hlen
    have hframed := h.framed hignore
    rw [parseSig_heads, hsplit] at hframed
    exact sigRun_misaligned lib m buf e log (hsplit ▸ hframes) (hauth ▸ hpassed) hutype hlen hback
      hframed
  refine ⟨fun hpost => ⟨hignore, hempty pre t post rfl hpass hpost htype⟩, ?_⟩
  rintro rfl ⟨u, hu, hutype⟩ hverify
  have halign : Aligned buf (pre ++ [t]) := by
    intro v hv hvtype
    obtain ⟨front, back, hsplit, hback⟩ := split_of_mem_dropLast hv
    refine hempty front v back hsplit (fun w hw => hpass w ?_) hback hvtype
    rw [hsplit]
    exact mem_of_mem_append_singleton hw
  have hsig := (h.sig (sig_of_overwritten hauth hall hframes hpass halign
    List.getLast?_concat htype hverify)).1 u (List.mem_append_left _ hu) hutype
  refine not_verifies_of_empty (halign u ?_ hutype) hsig
  rwa [List.dropLast_concat]

end Safe

/-! ### An empty authentication TLV in front of one that verifies -/

/-- The header of a signalling message of up to 255 octets. -/
def sigHeaderOf (messageLength : UInt8) : List UInt8 :=
  [0x0c, 0x02, 0, messageLength, 0, 0, 0, 0] ++ List.replicate 8 0 ++ List.replicate 4 0 ++
  List.replicate 10 0 ++ [0, 0, 0x05, 0x7f] ++ List.replicate 10 0

/-- An authentication TLV of the key 1, in front of its ICV of 16 octets. -/
def authTlv22 : List UInt8 := [0x80, 0x09, 0, 22, 1, 0, 0, 0, 0, 1]

/-- The HMAC-SHA256 under the key 1 of what precedes the ICV in `emptyThenAuth`. -/
def emptyThenAuthDigest : List UInt8 :=
  [0x0b, 0xe4, 0x98, 0x30, 0x64, 0x83, 0x10, 0x85, 0xc4, 0x19, 0xe7, 0xdb, 0xef, 0x0e, 0x42, 0x4c,
   0x6f, 0x19, 0x0f, 0x12, 0x4d, 0x35, 0xa9, 0xbf, 0xae, 0x00, 0xe3, 0x2a, 0x91, 0x4b, 0x9e, 0xaf]

/-- A message with an authentication TLV without content and one that verifies. -/
def emptyThenAuth : Nat → UInt8 :=
  ofList (sigHeaderOf 74 ++ [0x80, 0x09, 0, 0] ++ authTlv22 ++ emptyThenAuthDigest.take 16)

/-- A receiver that checks all authentication TLVs and goes on when one fails. -/
def ignoringReceiver : Message :=
  ((sampleMessage (digestLib emptyThenAuthDigest) 1).updateParams
    { MsgParams.init with rcvAuth := rcvAuthSigAll ||| rcvAuthIgnore }).2

theorem emptyThenAuth_verifies :
    Verifies (digestLib emptyThenAuthDigest) (sampleAuth 1 rfl) emptyThenAuth 48 := by
  have hicv : slice emptyThenAuth 58 16 = emptyThenAuthDigest.take 16 :=
    slice_ofList_right (sigHeaderOf 74 ++ [0x80, 0x09, 0, 0] ++ authTlv22) _
  have hlen : lengthAt emptyThenAuth 48 = 22 := by decide
  refine ⟨by decide, ?_⟩
  rw [hlen]
  constructor
  case haveKey => rfl
  case secParam => rfl
  case even => rfl
  case two_le => decide
  case le_own => decide
  case alloc => exact receiveKey_of_works (digestLib_works _)
  case icv =>
      rw [show 48 + authTlvSize = 58 from rfl, show 22 + tlvSizeHdr - authTlvSize = 16 from rfl, hicv]
      rfl

/-- The error of the first authentication TLV is lost. -/
theorem emptyThenAuth_not_reported :
    ignoringReceiver.auth = some (sampleAuth 1 rfl) ∧
    ignoringReceiver.prms.rcvAuthHas rcvAuthSigAll = true ∧
    ignoringReceiver.prms.rcvAuthHas rcvAuthIgnore = true ∧
    Frames emptyThenAuth 74 sigBaseSize [44, 48] ∧
    tlvTypeAt emptyThenAuth 44 = .authentication ∧
    ¬ Verifies (digestLib emptyThenAuthDigest) (sampleAuth 1 rfl) emptyThenAuth 44 ∧
    (parseSig (digestLib emptyThenAuthDigest) ignoringReceiver emptyThenAuth
      ((74 : Nat) - sigBaseSize) .init).1 = .sig := by
  have hframes : Frames emptyThenAuth 74 sigBaseSize [44, 48] :=
    .next (by decide) (.next (by decide) (.done (by decide)))
  have hpass : ∀ t ∈ [44, 48], Passes (digestLib emptyThenAuthDigest) ignoringReceiver.prms
      (some (sampleAuth 1 rfl)) emptyThenAuth 74 t := by
    intro t ht
    have htype : tlvTypeAt emptyThenAuth t = .authentication := by
      revert t
      decide
    refine ⟨?_, fun _ _ _ _ h => absurd h (by decide), fun h => absurd htype h⟩
    revert t
    decide
  have halign : Aligned emptyThenAuth [44, 48] := fun t ht _ => by
    obtain rfl := List.mem_singleton.1 ht
    decide
  refine ⟨rfl, by decide, by decide, hframes, by decide, not_verifies_of_empty (by decide), ?_⟩
  exact sig_of_overwritten rfl (by decide) hframes hpass halign rfl (by decide)
    emptyThenAuth_verifies

/-- The same receiver with an authentication TLV at the end. -/
theorem parseSig_authentic_ratioThenAuth :
    SigAuthentic (digestLib emptyThenAuthDigest) ignoringReceiver (sampleAuth 1 rfl) ratioThenAuth 64
      [44, 52] .init := by
  refine (parseSig_authentic (digestLib emptyThenAuthDigest) ignoringReceiver (sampleAuth 1 rfl) rfl
    (by decide) ratioThenAuth 64 [44, 52] ratioThenAuth_frames .init).1 ?_
  intro pre t post hsplit htype _
  rcases pre with _ | ⟨u, pre⟩
  · cases hsplit
    exact absurd htype (by decide)
  · obtain ⟨rfl, hrest⟩ := List.cons.inj hsplit
    rcases pre with _ | ⟨v, pre⟩
    · cases hrest
      refine ⟨fun h => absurd rfl h, fun _ hfirst _ => ?_⟩
      obtain ⟨u, hu, hutype⟩ := hfirst
      obtain rfl := List.mem_singleton.1 hu
      exact absurd hutype (by decide)
    · simp at hrest

end Message

end PtpMgmt
