import PtpMgmt.Message.ParseProofs
import PtpMgmt.Message.Reads

set_option autoImplicit false

/-! # One TLV of a signalling message

A message is a sequence of TLVs, each as long as its header says. `Frames` gives the offsets where they
start. One round of the loop of `parseSig` either passes a TLV or ends the parse, and which of the two
depends on the octets of the TLV alone. -/

namespace PtpMgmt

open Wire Codec

namespace Message

/-! ## Framing -/

def tlvTypeAt (buf : Nat → UInt8) (t : Nat) : TlvType := TlvType.ofVal (UInt16.ofNat (beAt buf t 2))

def lengthAt (buf : Nat → UInt8) (t : Nat) : Nat := beAt buf (t + 2) 2

/-- The offsets of the TLVs of a message that ends at `e`, from an offset on. Less than a header at the
    end is no TLV; the last TLV may be cut off by the end. -/
inductive Frames (buf : Nat → UInt8) (e : Nat) : Nat → List Nat → Prop
  | done {cur : Nat} (hend : e < cur + tlvSizeHdr) : Frames buf e cur []
  | cut {cur : Nat} (hhdr : cur + tlvSizeHdr ≤ e) (hend : e < cur + tlvSizeHdr + lengthAt buf cur) :
      Frames buf e cur [cur]
  | next {cur : Nat} {rest : List Nat} (hend : cur + tlvSizeHdr + lengthAt buf cur ≤ e)
      (hrest : Frames buf e (cur + tlvSizeHdr + lengthAt buf cur) rest) :
      Frames buf e cur (cur :: rest)

/-- The decoder of the TLV, on the octets of the TLV. -/
def ownTlv (spec : ImplementSpecific) (buf : Nat → UInt8) (t : Nat) :
    Except MngParseError (Option BaseSigTlv) :=
  (sigTlv spec buf (tlvTypeAt buf t) (.parseAt buf (t + tlvSizeHdr) (lengthAt buf t))).1

/-- The filter leaves the TLV out. -/
def filtered (prms : MsgParams) (buf : Nat → UInt8) (t : Nat) : Bool :=
  prms.filterSignaling && !prms.isSigTlv (tlvTypeAt buf t)

/-- What the TLV adds to the list of TLVs. -/
def sigTlvAt (prms : MsgParams) (buf : Nat → UInt8) (t : Nat) : Option (TlvType × BaseSigTlv) :=
  if tlvTypeAt buf t = .authentication ∨ filtered prms buf t = true then none
  else
    match ownTlv prms.implementSpecific buf t with
    | .ok tlv => tlv.map (tlvTypeAt buf t, ·)
    | .error _ => none

/-- The authentication TLV is accepted, with all of its octets. -/
def Verifies (lib : HmacLib) (a : Auth) (buf : Nat → UInt8) (t : Nat) : Prop :=
  authTlvSize ≤ lengthAt buf t + tlvSizeHdr ∧
    Accepted lib a buf t (lengthAt buf t + tlvSizeHdr - authTlvSize)

/-- The parse of a message that ends at `e` gets behind the TLV: an authentication TLV is accepted,
    ignored or not checked, and any other one is left out or decodes. -/
structure Passes (lib : HmacLib) (prms : MsgParams) (auth : Option Auth) (buf : Nat → UInt8) (e t : Nat) :
    Prop where
  fits : t + tlvSizeHdr + lengthAt buf t ≤ e
  accepted : tlvTypeAt buf t = .authentication → ∀ a, auth = some a →
    prms.rcvAuthHas rcvAuthSigAll = true → prms.rcvAuthHas rcvAuthIgnore = false →
    Verifies lib a buf t
  decodes : tlvTypeAt buf t ≠ .authentication → filtered prms buf t = false →
    ∃ tlv, ownTlv prms.implementSpecific buf t = .ok tlv

/-! ## Codes of the decoders -/

theorem caseBuild_fault {α : Type} [Inhabited α] {f : α → Proc α} {mk : α → BaseSigTlv} {mp : MsgProc}
    {err : MngParseError} (hmp : IsFault mp.err) (h : (caseBuild f mk mp).1 = .error err) :
    IsFault err := by
  have hfault := ((f default).advances mp).err hmp
  rw [caseBuild] at h
  split at h
  · next he =>
      rw [he] at hfault
      cases h
      exact hfault
  · cases h

theorem sigErrorStatus_fault {spec : ImplementSpecific} {buf : Nat → UInt8} {mp : MsgProc}
    {err : MngParseError} (h : (sigErrorStatus spec buf mp).1 = .error err) : IsFault err := by
  rw [sigErrorStatus] at h
  split at h
  · cases h
    decide
  · simp only at h
    split at h
    · cases h
    · split at h
      · cases h
        decide
      · cases h

theorem sigManagement_fault {spec : ImplementSpecific} {buf : Nat → UInt8} {mp : MsgProc}
    {err : MngParseError} (h : (sigManagement spec buf mp).1 = .error err) : IsFault err := by
  rw [sigManagement] at h
  split at h
  · cases h
    decide
  · simp only at h
    split at h
    · cases h
    · next id _ =>
        split at h
        · have hfault := callTlvData_fault id .wild ((mp.peek mp.cur 2).skip 2)
          split at h
          · cases h
          · next hne he =>
              rw [he] at hfault
              cases h
              exact hfault.resolve_left hne
        · cases h

/-- The error of a decoder is no code of a message that was parsed. -/
theorem sigTlv_fault {spec : ImplementSpecific} {buf : Nat → UInt8} {tlvType : TlvType} {mp : MsgProc}
    {err : MngParseError} (hmp : IsFault mp.err) (h : (sigTlv spec buf tlvType mp).1 = .error err) :
    IsFault err := by
  cases tlvType
  case managementErrorStatus => exact sigErrorStatus_fault h
  case management => exact sigManagement_fault h
  case slaveDelayTimingDataNp =>
      simp only [sigTlv] at h
      split at h
      · exact caseBuild_fault hmp h
      · cases h
  all_goals first
    | exact caseBuild_fault hmp h
    | cases h

theorem ownTlv_fault {spec : ImplementSpecific} {buf : Nat → UInt8} {t : Nat} {err : MngParseError}
    (h : ownTlv spec buf t = .error err) : IsFault err :=
  sigTlv_fault (show IsFault MngParseError.tooSmall by decide) h

/-! ## One round of the loop -/

section Step

variable {lib : HmacLib} {prms : MsgParams} {auth : Option Auth} {buf : Nat → UInt8}

theorem verifyIcv_heads {a : Auth} {off len : Nat} {spp : UInt8} {keyID : UInt32} {log : ParseLog} :
    (verifyIcv lib a buf off spp keyID len log).2.heads = log.heads := by
  rw [verifyIcv]
  split
  · rfl
  · split
    · rfl
    · simp only
      split <;> rfl

theorem parseAuth_heads {a : Auth} {off : Nat} {left : Int} {log : ParseLog} :
    (parseAuth lib a buf off left false log).2.heads = log.heads := by
  rw [parseAuth]
  simp only [Bool.false_and, Bool.false_eq_true, if_false]
  split
  · rfl
  · split
    · rfl
    · split
      · rfl
      · split
        · rfl
        · rw [verifyIcv_heads]
          rfl

/-- The TLV at `t` is behind the loop, without an error. The cursor is at its end, the content of an
    authentication TLV apart. -/
structure Passed (lib : HmacLib) (prms : MsgParams) (auth : Option Auth) (buf : Nat → UInt8)
    (s s' : SigState) : Prop where
  heads : s'.log.heads = s.log.heads ++ [s.cur]
  tlvs : s'.tlvs = s.tlvs ++ (sigTlvAt prms buf s.cur).toList
  leftAll : s'.leftAll = s.leftAll - (tlvSizeHdr + lengthAt buf s.cur : Nat)
  cur_auth : tlvTypeAt buf s.cur = .authentication → s'.cur = s.cur + tlvSizeHdr
  cur_other : tlvTypeAt buf s.cur ≠ .authentication →
    s'.cur = s.cur + tlvSizeHdr + lengthAt buf s.cur
  lastTlv : s'.lastTlv = tlvTypeAt buf s.cur
  errAuth : tlvTypeAt buf s.cur = .authentication → ∀ a, auth = some a →
    prms.rcvAuthHas rcvAuthSigAll = true →
    AuthCode s'.errAuth ∧ (s'.errAuth = .ok ↔ Verifies lib a buf s.cur)

/-- Where the next round is. -/
theorem Passed.next_cur {s s' : SigState} (h : Passed lib prms auth buf s s') :
    s'.cur = if tlvTypeAt buf s.cur = .authentication then s.cur + tlvSizeHdr
      else s.cur + tlvSizeHdr + lengthAt buf s.cur := by
  split
  · next htype => exact h.cur_auth htype
  · next htype => exact h.cur_other htype

/-- The header of the TLV is read. -/
def headed (buf : Nat → UInt8) (s : SigState) : SigState :=
  { s with
    log := (s.log.head s.cur).look s.cur tlvSizeHdr
    lastTlv := tlvTypeAt buf s.cur
    cur := s.cur + tlvSizeHdr
    leftAll := s.leftAll - tlvSizeHdr - lengthAt buf s.cur }

theorem sigStep_cut {s : SigState} (h : s.leftAll < (tlvSizeHdr + lengthAt buf s.cur : Nat)) :
    (sigStep lib prms auth buf s).1 = some .tooSmall := by
  have hlong : (beAt buf (s.cur + 2) 2 : Int) > s.leftAll - tlvSizeHdr := by
    rw [lengthAt] at h
    push_cast at h
    omega
  rw [sigStep]
  simp only
  rw [if_pos hlong]

theorem sigStep_fits {s : SigState} (h : (tlvSizeHdr + lengthAt buf s.cur : Nat) ≤ s.leftAll) :
    sigStep lib prms auth buf s =
      if tlvTypeAt buf s.cur = .authentication
      then sigAuth lib prms auth buf (lengthAt buf s.cur) (headed buf s)
      else if prms.filterSignaling ∧ !prms.isSigTlv (tlvTypeAt buf s.cur)
      then (none, { headed buf s with cur := s.cur + tlvSizeHdr + lengthAt buf s.cur })
      else sigDecode prms buf (tlvTypeAt buf s.cur) (lengthAt buf s.cur) (headed buf s) := by
  have hlong : ¬ (beAt buf (s.cur + 2) 2 : Int) > s.leftAll - tlvSizeHdr := by
    rw [lengthAt] at h
    push_cast at h
    omega
  rw [sigStep]
  simp only
  rw [if_neg hlong]
  rfl

/-- The check of an authentication TLV of the message. -/
theorem parseAuth_sig (lib : HmacLib) (a : Auth) (buf : Nat → UInt8) (t : Nat) (log : ParseLog) :
    ∃ err log', parseAuth lib a buf t (lengthAt buf t + tlvSizeHdr : Nat) false log = (err, log') ∧
      AuthCode err ∧ (err = .ok ↔ Verifies lib a buf t) ∧ log'.heads = log.heads := by
  refine ⟨_, _, (Prod.mk.eta).symm, parseAuth_code false, ?_, parseAuth_heads⟩
  rw [parseAuth_sig_ok_iff, Int.toNat_natCast, Nat.cast_le]
  rfl

theorem sigAuth_headed {a : Auth} {s : SigState} :
    sigAuth lib prms (some a) buf (lengthAt buf s.cur) (headed buf s) =
      if prms.rcvAuthHas rcvAuthSigAll then
        let (errAuth, log) := parseAuth lib a buf s.cur (lengthAt buf s.cur + tlvSizeHdr : Nat) false
          (headed buf s).log
        let s' := { headed buf s with
          lastAuthLen := lengthAt buf s.cur + tlvSizeHdr, lastAuth := s.cur, errAuth, log }
        if errAuth ≠ .ok ∧ !prms.rcvAuthHas rcvAuthIgnore then (some errAuth, s') else (none, s')
      else (none, { headed buf s with
        lastAuthLen := lengthAt buf s.cur + tlvSizeHdr, lastAuth := s.cur }) := by
  have hcur : (headed buf s).cur - tlvSizeHdr = s.cur := Nat.add_sub_cancel _ _
  simp only [sigAuth, hcur]

/-- An authentication TLV that is accepted, ignored or not checked is passed. -/
theorem sigAuth_passed {s : SigState} (htype : tlvTypeAt buf s.cur = .authentication)
    (h : ∀ a, auth = some a → prms.rcvAuthHas rcvAuthSigAll = true →
      prms.rcvAuthHas rcvAuthIgnore = false → Verifies lib a buf s.cur) :
    ∃ s', sigAuth lib prms auth buf (lengthAt buf s.cur) (headed buf s) = (none, s') ∧
      Passed lib prms auth buf s s' := by
  have htlv : sigTlvAt prms buf s.cur = none := if_pos (.inl htype)
  have hleft : (headed buf s).leftAll = s.leftAll - (tlvSizeHdr + lengthAt buf s.cur : Nat) := by
    simp only [headed]
    push_cast
    omega
  have htlvs : (headed buf s).tlvs = s.tlvs ++ (sigTlvAt prms buf s.cur).toList := by
    rw [htlv]
    simp [headed]
  cases auth with
  | none =>
      exact ⟨_, rfl, rfl, htlvs, hleft, fun _ => rfl, fun hne => absurd htype hne, rfl,
        fun _ a ha => absurd ha (by simp)⟩
  | some a =>
      rw [sigAuth_headed]
      by_cases hall : prms.rcvAuthHas rcvAuthSigAll = true
      · rw [if_pos hall]
        obtain ⟨errAuth, log, hrun, hcode, hok, hheads⟩ :=
          parseAuth_sig lib a buf s.cur (headed buf s).log
        rw [hrun]
        have hgo : ¬ (errAuth ≠ .ok ∧ (!prms.rcvAuthHas rcvAuthIgnore) = true) := fun hstop =>
          hstop.1 (hok.2 (h a rfl hall (by simpa using hstop.2)))
        simp only [if_neg hgo]
        refine ⟨_, rfl, hheads, htlvs, hleft, fun _ => rfl, fun hne => absurd htype hne, rfl, ?_⟩
        intro _ b hb _
        cases hb
        exact ⟨hcode, hok⟩
      · rw [if_neg hall]
        exact ⟨_, rfl, rfl, htlvs, hleft, fun _ => rfl, fun hne => absurd htype hne, rfl,
          fun _ _ _ h => absurd h hall⟩

/-- A TLV that decodes is passed as a whole. -/
theorem sigDecode_passed {s : SigState} (htype : tlvTypeAt buf s.cur ≠ .authentication)
    (hfilter : filtered prms buf s.cur = false) {tlv : Option BaseSigTlv}
    (h : ownTlv prms.implementSpecific buf s.cur = .ok tlv) :
    ∃ s', sigDecode prms buf (tlvTypeAt buf s.cur) (lengthAt buf s.cur) (headed buf s) = (none, s') ∧
      Passed lib prms auth buf s s' := by
  have hwithin := sigTlv_within buf prms.implementSpecific (tlvTypeAt buf s.cur)
    (s.cur + tlvSizeHdr) (lengthAt buf s.cur)
  have htlv : sigTlvAt prms buf s.cur = tlv.map (tlvTypeAt buf s.cur, ·) := by
    rw [sigTlvAt, if_neg (by simp [htype, hfilter]), h]
  rcases hrun : sigTlv prms.implementSpecific buf (tlvTypeAt buf s.cur)
    (.parseAt buf (s.cur + tlvSizeHdr) (lengthAt buf s.cur)) with ⟨res, mp⟩
  rw [ownTlv, hrun] at h
  rw [hrun] at hwithin
  obtain rfl : res = .ok tlv := h
  have hdecode : sigDecode prms buf (tlvTypeAt buf s.cur) (lengthAt buf s.cur) (headed buf s) =
      (none, { headed buf s with
        log := (headed buf s).log.decoder (s.cur + tlvSizeHdr) (lengthAt buf s.cur) mp
        cur := s.cur + tlvSizeHdr + lengthAt buf s.cur
        tlvs := s.tlvs ++ (sigTlvAt prms buf s.cur).toList }) := by
    simp only [sigDecode, headed, hrun, cur_of_within hwithin, htlv]
  rw [hdecode]
  refine ⟨_, rfl, rfl, rfl, ?_, fun h => absurd h htype, fun _ => rfl, rfl,
    fun h => absurd h htype⟩
  simp only [headed]
  push_cast
  omega

/-- **A TLV that passes is passed**: by one round of the loop with the cursor at its start. -/
theorem sigStep_passed {s : SigState} {e : Nat} (h : Passes lib prms auth buf e s.cur)
    (hleft : s.leftAll = e - s.cur) :
    ∃ s', sigStep lib prms auth buf s = (none, s') ∧ Passed lib prms auth buf s s' := by
  have hfits := h.fits
  rw [sigStep_fits (by push_cast; omega)]
  by_cases htype : tlvTypeAt buf s.cur = .authentication
  · rw [if_pos htype]
    exact sigAuth_passed htype (h.accepted htype)
  · rw [if_neg htype]
    cases hfilter : filtered prms buf s.cur with
    | true =>
        have htlv : sigTlvAt prms buf s.cur = none := if_pos (.inr hfilter)
        rw [if_pos (by simpa [filtered] using hfilter)]
        refine ⟨_, rfl, rfl, ?_, ?_, fun h => absurd h htype, fun _ => rfl, rfl,
          fun h => absurd h htype⟩
        · rw [htlv]
          simp [headed]
        · simp only [headed]
          push_cast
          omega
    | false =>
        obtain ⟨tlv, htlv⟩ := h.decodes htype hfilter
        rw [if_neg (by simpa [filtered] using hfilter)]
        exact sigDecode_passed htype hfilter htlv

theorem AuthCode.fault {err : MngParseError} (h : AuthCode err) (hne : err ≠ .ok) : IsFault err := by
  cases h with
  | ok => exact absurd rfl hne
  | auth => decide
  | authNone => decide
  | authWrong => decide
  | authNokey => decide

/-- An authentication TLV that is refused ends the loop. -/
theorem sigAuth_refused {a : Auth} {s : SigState} (hall : prms.rcvAuthHas rcvAuthSigAll = true)
    (hignore : prms.rcvAuthHas rcvAuthIgnore = false) (h : ¬ Verifies lib a buf s.cur) :
    ∃ err, (sigAuth lib prms (some a) buf (lengthAt buf s.cur) (headed buf s)).1 = some err ∧
      IsFault err := by
  rw [sigAuth_headed, if_pos hall]
  obtain ⟨err, log, hrun, hcode, hok, -⟩ := parseAuth_sig lib a buf s.cur (headed buf s).log
  have hne : err ≠ .ok := fun heq => h (hok.1 heq)
  have hstop : err ≠ .ok ∧ (!prms.rcvAuthHas rcvAuthIgnore) = true := ⟨hne, by simp [hignore]⟩
  rw [hrun]
  simp only [if_pos hstop]
  exact ⟨err, rfl, hcode.fault hne⟩

/-- A decoder that fails ends the loop. -/
theorem sigDecode_refused {s : SigState} {err : MngParseError}
    (h : ownTlv prms.implementSpecific buf s.cur = .error err) :
    (sigDecode prms buf (tlvTypeAt buf s.cur) (lengthAt buf s.cur) (headed buf s)).1 = some err := by
  rcases hrun : sigTlv prms.implementSpecific buf (tlvTypeAt buf s.cur)
    (.parseAt buf (s.cur + tlvSizeHdr) (lengthAt buf s.cur)) with ⟨res, mp⟩
  rw [ownTlv, hrun] at h
  obtain rfl : res = .error err := h
  simp only [sigDecode, headed, hrun]

/-- A TLV that does not pass ends the loop. -/
theorem sigStep_refused {s : SigState} {e : Nat} (h : ¬ Passes lib prms auth buf e s.cur)
    (hleft : s.leftAll = e - s.cur) :
    ∃ err, (sigStep lib prms auth buf s).1 = some err ∧ IsFault err := by
  by_cases hfits : s.cur + tlvSizeHdr + lengthAt buf s.cur ≤ e
  case neg => exact ⟨_, sigStep_cut (by push_cast; omega), by decide⟩
  case pos =>
      rw [sigStep_fits (by push_cast; omega)]
      by_cases htype : tlvTypeAt buf s.cur = .authentication
      · rw [if_pos htype]
        by_contra hgo
        refine h ⟨hfits, fun _ a ha hall hignore => ?_, fun hne => absurd htype hne⟩
        by_contra hverify
        rw [ha] at hgo
        exact hgo (sigAuth_refused hall hignore hverify)
      · rw [if_neg htype]
        cases hfilter : filtered prms buf s.cur with
        | true =>
            exact absurd ⟨hfits, fun h => absurd h htype, fun _ hf => by
              rw [hfilter] at hf; cases hf⟩ h
        | false =>
            rw [if_neg (by simpa [filtered] using hfilter)]
            cases hown : ownTlv prms.implementSpecific buf s.cur with
            | ok tlv => exact absurd ⟨hfits, fun h => absurd h htype, fun _ _ => ⟨tlv, hown⟩⟩ h
            | error err => exact ⟨err, sigDecode_refused hown, ownTlv_fault hown⟩

/-- Every round notes where the cursor was. -/
theorem sigStep_heads (s : SigState) :
    (sigStep lib prms auth buf s).2.log.heads = s.log.heads ++ [s.cur] := by
  rw [sigStep]
  simp only
  split
  · rfl
  · split
    · cases auth with
      | none => rfl
      | some a =>
          simp only [sigAuth]
          split
          · split <;> exact parseAuth_heads
          · rfl
    · split
      · rfl
      · rw [sigDecode]
        split <;> rfl

/-- The error that is kept is one of authentication. -/
theorem sigStep_errAuth {s : SigState} (h : AuthCode s.errAuth) :
    AuthCode (sigStep lib prms auth buf s).2.errAuth := by
  rw [sigStep]
  simp only
  split
  · exact h
  · split
    · cases auth with
      | none => exact h
      | some a =>
          simp only [sigAuth]
          split
          · split <;> exact parseAuth_code false
          · exact h
    · split
      · exact h
      · rw [sigDecode]
        split <;> exact h

/-- One round, wherever the cursor is: the TLV at the cursor is passed, or the loop ends. -/
theorem sigStep_cases {s : SigState} (h : 0 ≤ s.leftAll) :
    (∃ s', sigStep lib prms auth buf s = (none, s') ∧ Passed lib prms auth buf s s') ∨
    ∃ err, (sigStep lib prms auth buf s).1 = some err ∧ IsFault err := by
  have hleft : s.leftAll = (s.cur + s.leftAll.toNat : Nat) - s.cur := by
    push_cast
    omega
  by_cases hpass : Passes lib prms auth buf (s.cur + s.leftAll.toNat) s.cur
  · exact .inl (sigStep_passed hpass hleft)
  · exact .inr (sigStep_refused hpass hleft)

/-- A round that ends the loop adds no TLV. -/
theorem sigStep_error_tlvs {s s' : SigState} {err : MngParseError}
    (h : sigStep lib prms auth buf s = (some err, s')) : s'.tlvs = s.tlvs := by
  rw [sigStep] at h
  simp only at h
  split at h
  · cases h
    rfl
  · split at h
    · cases auth with
      | none => cases h
      | some a =>
          simp only [sigAuth] at h
          split at h
          · split at h
            · cases h
              rfl
            · cases h
          · cases h
    · split at h
      · cases h
      · rw [sigDecode] at h
        split at h
        · cases h
          rfl
        · cases h

end Step

end Message

end PtpMgmt
