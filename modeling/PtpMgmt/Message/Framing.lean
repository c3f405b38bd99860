import PtpMgmt.Message.Signaling

set_option autoImplicit false

/-! # The loop over the TLVs of a signalling message

The loop reads the TLVs of the message as long as its cursor is at the offsets where they start. It
leaves the cursor behind the header of an authentication TLV, whatever its length is. What follows such a
TLV is only read where it starts when the TLV is empty. -/

namespace PtpMgmt

open Wire Codec

namespace Message

/-! ## The loop -/

section Loop

variable {lib : HmacLib} {prms : MsgParams} {auth : Option Auth} {buf : Nat → UInt8} {e : Nat}

theorem Frames.head {cur t : Nat} {rest : List Nat} (h : Frames buf e cur (t :: rest)) :
    t = cur ∧ cur + tlvSizeHdr ≤ e := by
  cases h with
  | cut hhdr _ => exact ⟨rfl, hhdr⟩
  | next hend _ => exact ⟨rfl, by omega⟩

theorem Frames.tail {cur t : Nat} {rest : List Nat} (h : Frames buf e cur (t :: rest))
    (hfits : t + tlvSizeHdr + lengthAt buf t ≤ e) :
    Frames buf e (t + tlvSizeHdr + lengthAt buf t) rest := by
  cases h with
  | cut _ hend => exact absurd hfits (Nat.not_le.2 hend)
  | next _ hrest => exact hrest

theorem Frames.nil_end {cur : Nat} (h : Frames buf e cur []) : e < cur + tlvSizeHdr := by
  cases h with
  | done hend => exact hend

theorem sigLoop_done {fuel : Nat} {s : SigState} (h : s.leftAll < tlvSizeHdr) :
    sigLoop lib prms auth buf fuel s = (none, s) := by
  cases fuel <;> rw [sigLoop, if_pos h]

theorem sigLoop_passed {fuel : Nat} {s s' : SigState} (h : tlvSizeHdr ≤ s.leftAll)
    (hstep : sigStep lib prms auth buf s = (none, s')) :
    sigLoop lib prms auth buf (fuel + 1) s = sigLoop lib prms auth buf fuel s' := by
  rw [sigLoop, if_neg (Int.not_lt.2 h), hstep]

theorem sigLoop_stopped {fuel : Nat} {s : SigState} {err : MngParseError} (h : tlvSizeHdr ≤ s.leftAll)
    (hstep : (sigStep lib prms auth buf s).1 = some err) :
    sigLoop lib prms auth buf (fuel + 1) s = (some err, (sigStep lib prms auth buf s).2) := by
  rw [sigLoop, if_neg (Int.not_lt.2 h)]
  split
  · next he =>
      rw [he] at hstep
      rw [he]
      exact congrArg (·, _) hstep
  · next he =>
      rw [he] at hstep
      cases hstep

/-- The loop only adds to the heads. -/
theorem sigLoop_heads (fuel : Nat) (s : SigState) :
    s.log.heads <+: (sigLoop lib prms auth buf fuel s).2.log.heads := by
  induction fuel generalizing s with
  | zero =>
      rw [sigLoop]
      split <;> exact List.prefix_rfl
  | succ fuel ih =>
      rw [sigLoop]
      have hstep : (sigStep lib prms auth buf s).2.log.heads = _ := sigStep_heads s
      split
      · exact List.prefix_rfl
      · split
        · next he =>
            rw [he] at hstep
            exact ⟨[s.cur], hstep.symm⟩
        · next he =>
            rw [he] at hstep
            exact (List.prefix_append _ [s.cur]).trans (hstep ▸ ih _)

/-- The loop goes over the next TLV at the cursor. -/
theorem sigLoop_head_mem {fuel : Nat} {s : SigState} (h : tlvSizeHdr ≤ s.leftAll) :
    s.log.heads ++ [s.cur] <+: (sigLoop lib prms auth buf (fuel + 1) s).2.log.heads := by
  have hstep : (sigStep lib prms auth buf s).2.log.heads = _ := sigStep_heads s
  rw [sigLoop, if_neg (Int.not_lt.2 h)]
  split
  · next he =>
      rw [he] at hstep
      exact hstep ▸ List.prefix_rfl
  · next he =>
      rw [he] at hstep
      exact hstep ▸ sigLoop_heads _ _

theorem sigLoop_errAuth (fuel : Nat) {s : SigState} (h : AuthCode s.errAuth) :
    AuthCode (sigLoop lib prms auth buf fuel s).2.errAuth := by
  induction fuel generalizing s with
  | zero =>
      rw [sigLoop]
      split <;> exact h
  | succ fuel ih =>
      rw [sigLoop]
      have hstep : AuthCode (sigStep lib prms auth buf s).2.errAuth := sigStep_errAuth h
      split
      · exact h
      · split
        · next he =>
            rw [he] at hstep
            exact hstep
        · next he =>
            rw [he] at hstep
            exact ih hstep

theorem sigLoop_fault {fuel : Nat} {s s' : SigState} {err : MngParseError}
    (h : sigLoop lib prms auth buf fuel s = (some err, s')) : IsFault err := by
  induction fuel generalizing s with
  | zero =>
      rw [sigLoop] at h
      split at h <;> cases h
  | succ fuel ih =>
      rw [sigLoop] at h
      split at h
      · cases h
      · next hleft =>
          have hnonneg : 0 ≤ s.leftAll := by
            simp only [tlvSizeHdr] at hleft
            omega
          obtain ⟨s'', hstep, -⟩ | ⟨err', hstep, hfault⟩ := sigStep_cases hnonneg
          · rw [hstep] at h
            exact ih h
          · split at h
            · next he =>
                rw [he] at hstep
                cases h
                cases hstep
                exact hfault
            · next he =>
                rw [he] at hstep
                cases hstep

/-- The TLVs at `starts` are behind the loop, each with the cursor at its start. -/
structure Walked (lib : HmacLib) (prms : MsgParams) (auth : Option Auth) (buf : Nat → UInt8)
    (starts : List Nat) (s s' : SigState) : Prop where
  heads : s'.log.heads = s.log.heads ++ starts
  tlvs : s'.tlvs = s.tlvs ++ starts.filterMap (sigTlvAt prms buf)
  nil : starts = [] → s' = s
  lastTlv : ∀ t ∈ starts.getLast?, s'.lastTlv = tlvTypeAt buf t
  errAuth : ∀ t ∈ starts.getLast?, tlvTypeAt buf t = .authentication → ∀ a, auth = some a →
    prms.rcvAuthHas rcvAuthSigAll = true →
    AuthCode s'.errAuth ∧ (s'.errAuth = .ok ↔ Verifies lib a buf t)

theorem Walked.refl (s : SigState) : Walked lib prms auth buf [] s s :=
  ⟨by simp, by simp, fun _ => rfl, by simp, by simp⟩

theorem Walked.cons {rest : List Nat} {s s' s'' : SigState} (h : Passed lib prms auth buf s s')
    (k : Walked lib prms auth buf rest s' s'') : Walked lib prms auth buf (s.cur :: rest) s s'' := by
  have hheads : s''.log.heads = s.log.heads ++ s.cur :: rest := by
    rw [k.heads, h.heads, List.append_assoc, List.singleton_append]
  have htlvs : s''.tlvs = s.tlvs ++ (s.cur :: rest).filterMap (sigTlvAt prms buf) := by
    rw [k.tlvs, h.tlvs, List.append_assoc, List.filterMap_cons]
    cases sigTlvAt prms buf s.cur <;> rfl
  cases rest with
  | nil =>
      obtain rfl := k.nil rfl
      refine ⟨hheads, htlvs, fun hnil => absurd hnil (by simp), fun t ht => ?_, fun t ht => ?_⟩
      · cases ht
        exact h.lastTlv
      · cases ht
        exact h.errAuth
  | cons u rest =>
      exact ⟨hheads, htlvs, fun hnil => absurd hnil (by simp), k.lastTlv, k.errAuth⟩

/-- Only the last TLV is an authentication TLV with content. -/
def Aligned (buf : Nat → UInt8) (starts : List Nat) : Prop :=
  ∀ t ∈ starts.dropLast, tlvTypeAt buf t = .authentication → lengthAt buf t = 0

/-- The cursor and the count of octets left agree with the next TLV, as far as there is one. -/
structure At (e cur : Nat) (starts : List Nat) (s : SigState) : Prop where
  leftAll : s.leftAll = e - cur
  cur_eq : starts ≠ [] → s.cur = cur

/-- Behind a TLV without the content that the loop leaves out, the cursor is at the next TLV. -/
theorem At.next {cur t : Nat} {rest : List Nat} {s s' : SigState} (h : At e cur (t :: rest) s)
    (ht : t = cur) (hpassed : Passed lib prms auth buf s s')
    (hlen : rest ≠ [] → tlvTypeAt buf t = .authentication → lengthAt buf t = 0) :
    At e (t + tlvSizeHdr + lengthAt buf t) rest s' := by
  obtain rfl : s.cur = t := (h.cur_eq (by simp)).trans ht.symm
  constructor
  case leftAll =>
      rw [hpassed.leftAll, h.leftAll, ht]
      push_cast
      omega
  case cur_eq =>
      intro hrest
      by_cases htype : tlvTypeAt buf s.cur = .authentication
      · rw [hpassed.cur_auth htype, hlen hrest htype]
        rfl
      · exact hpassed.cur_other htype

/-- One round of the loop, with the cursor at a TLV that passes. -/
theorem sigLoop_next {fuel cur t : Nat} {rest : List Nat} {s : SigState}
    (hframes : Frames buf e cur (t :: rest)) (hat : At e cur (t :: rest) s) (hfuel : s.leftAll ≤ fuel)
    (hpass : Passes lib prms auth buf e t) :
    ∃ fuel' s', sigLoop lib prms auth buf fuel s = sigLoop lib prms auth buf fuel' s' ∧
      s'.leftAll ≤ fuel' ∧ s.cur = t ∧ Passed lib prms auth buf s s' := by
  obtain ⟨ht, hhdr⟩ := hframes.head
  have hcur : s.cur = t := (hat.cur_eq (by simp)).trans ht.symm
  have hleft := hat.leftAll
  have hroom : (tlvSizeHdr : Int) ≤ s.leftAll := by omega
  have hpos : 0 < tlvSizeHdr := by decide
  obtain ⟨s', hstep, hpassed⟩ := sigStep_passed (hcur ▸ hpass) (by rw [hleft, hcur, ht])
  obtain ⟨fuel, rfl⟩ : ∃ n, fuel = n + 1 := ⟨fuel - 1, by omega⟩
  refine ⟨fuel, s', sigLoop_passed hroom hstep, ?_, hcur, hpassed⟩
  rw [hpassed.leftAll]
  push_cast
  omega

/-- **A message without content in the way is read TLV by TLV.** -/
theorem sigLoop_aligned {starts : List Nat} {fuel cur : Nat} {s : SigState}
    (hframes : Frames buf e cur starts) (hat : At e cur starts s) (hfuel : s.leftAll ≤ fuel)
    (hpass : ∀ t ∈ starts, Passes lib prms auth buf e t) (halign : Aligned buf starts) :
    ∃ s', sigLoop lib prms auth buf fuel s = (none, s') ∧ Walked lib prms auth buf starts s s' := by
  induction starts generalizing fuel cur s with
  | nil =>
      have hend := hframes.nil_end
      have hleft := hat.leftAll
      exact ⟨s, sigLoop_done (by omega), .refl s⟩
  | cons t rest ih =>
      have hfirst := hpass t (by simp)
      obtain ⟨fuel', s', hloop, hfuel', hcur, hpassed⟩ := sigLoop_next hframes hat hfuel hfirst
      have hlen : rest ≠ [] → tlvTypeAt buf t = .authentication → lengthAt buf t = 0 :=
        fun hrest => halign t (by rw [List.dropLast_cons_of_ne_nil hrest]; simp)
      have halign' : Aligned buf rest := fun u hu => by
        have hrest : rest ≠ [] := fun hnil => by rw [hnil] at hu; cases hu
        exact halign u (by rw [List.dropLast_cons_of_ne_nil hrest]; exact .tail _ hu)
      obtain ⟨s'', hrest, hwalked⟩ := ih (hframes.tail hfirst.fits)
        (hat.next hframes.head.1 hpassed hlen) hfuel' (fun u hu => hpass u (.tail _ hu)) halign'
      exact ⟨s'', hloop.trans hrest, hcur ▸ .cons hpassed hwalked⟩

/-- The loop ends at the first TLV that does not pass. -/
theorem sigLoop_refused {pre post : List Nat} {t fuel cur : Nat} {s : SigState}
    (hframes : Frames buf e cur (pre ++ t :: post)) (hat : At e cur (pre ++ t :: post) s)
    (hfuel : s.leftAll ≤ fuel) (hpass : ∀ u ∈ pre, Passes lib prms auth buf e u)
    (hlen : ∀ u ∈ pre, tlvTypeAt buf u = .authentication → lengthAt buf u = 0)
    (hrefused : ¬ Passes lib prms auth buf e t) :
    ∃ err s', sigLoop lib prms auth buf fuel s = (some err, s') ∧ IsFault err ∧
      s'.log.heads = s.log.heads ++ (pre ++ [t]) := by
  induction pre generalizing fuel cur s with
  | nil =>
      obtain ⟨ht, hhdr⟩ := hframes.head
      have hcur : s.cur = t := (hat.cur_eq (by simp)).trans ht.symm
      have hleft := hat.leftAll
      have hroom : (tlvSizeHdr : Int) ≤ s.leftAll := by omega
      have hpos : 0 < tlvSizeHdr := by decide
      obtain ⟨err, hstep, hfault⟩ := sigStep_refused (hcur ▸ hrefused) (by rw [hleft, hcur, ht])
      obtain ⟨fuel, rfl⟩ : ∃ n, fuel = n + 1 := ⟨fuel - 1, by omega⟩
      refine ⟨err, _, sigLoop_stopped hroom hstep, hfault, ?_⟩
      rw [sigStep_heads, hcur]
      rfl
  | cons u pre ih =>
      have hfirst := hpass u (by simp)
      obtain ⟨fuel', s', hloop, hfuel', hcur, hpassed⟩ := sigLoop_next hframes hat hfuel hfirst
      obtain ⟨err, s'', hrest, hfault, hheads⟩ := ih (hframes.tail hfirst.fits)
        (hat.next hframes.head.1 hpassed fun _ => hlen u (by simp)) hfuel'
        (fun v hv => hpass v (.tail _ hv)) (fun v hv => hlen v (.tail _ hv))
      refine ⟨err, s'', hloop.trans hrest, hfault, ?_⟩
      rw [hheads, hpassed.heads, hcur, List.append_assoc]
      rfl

/-- Behind content that the loop leaves out, the cursor is not at the next TLV. -/
theorem sigLoop_content {rest : List Nat} {t fuel cur : Nat} {s : SigState}
    (hframes : Frames buf e cur (t :: rest)) (hat : At e cur (t :: rest) s) (hfuel : s.leftAll ≤ fuel)
    (hpass : Passes lib prms auth buf e t) (htype : tlvTypeAt buf t = .authentication)
    (hlen : lengthAt buf t ≠ 0) (hrest : rest ≠ []) :
    ¬ (sigLoop lib prms auth buf fuel s).2.log.heads <+: s.log.heads ++ t :: rest := by
  obtain ⟨fuel', s', hloop, hfuel', hcur, hpassed⟩ := sigLoop_next hframes hat hfuel hpass
  obtain ⟨u, rest, rfl⟩ := List.exists_cons_of_ne_nil hrest
  obtain ⟨hu, hhdr⟩ := (hframes.tail hpass.fits).head
  have hleft : s'.leftAll = e - (t + tlvSizeHdr + lengthAt buf t : Nat) := by
    rw [hpassed.leftAll, hat.leftAll, hcur, hframes.head.1]
    push_cast
    omega
  have hroom : (tlvSizeHdr : Int) ≤ s'.leftAll := by omega
  have hpos : 0 < tlvSizeHdr := by decide
  obtain ⟨fuel', rfl⟩ : ∃ n, fuel' = n + 1 := ⟨fuel' - 1, by omega⟩
  intro hpre
  have hhead := (sigLoop_head_mem hroom).trans (hloop ▸ hpre)
  rw [hpassed.heads, hpassed.cur_auth (hcur ▸ htype), hcur, List.append_assoc,
    List.prefix_append_right_inj, List.singleton_append, List.cons_prefix_cons,
    List.cons_prefix_cons] at hhead
  have hsame := hhead.2.1
  omega

/-- Nor is it at the TLVs that follow. -/
theorem sigLoop_misaligned {pre post : List Nat} {t fuel cur : Nat} {s : SigState}
    (hframes : Frames buf e cur (pre ++ t :: post)) (hat : At e cur (pre ++ t :: post) s)
    (hfuel : s.leftAll ≤ fuel) (hpass : ∀ u ∈ pre ++ [t], Passes lib prms auth buf e u)
    (htype : tlvTypeAt buf t = .authentication) (hlen : lengthAt buf t ≠ 0) (hpost : post ≠ []) :
    ¬ (sigLoop lib prms auth buf fuel s).2.log.heads <+: s.log.heads ++ (pre ++ t :: post) := by
  induction pre generalizing fuel cur s with
  | nil => exact sigLoop_content hframes hat hfuel (hpass t (by simp)) htype hlen hpost
  | cons u pre ih =>
      have hfirst := hpass u (by simp)
      by_cases hcontent : tlvTypeAt buf u = .authentication ∧ lengthAt buf u ≠ 0
      · exact sigLoop_content hframes hat hfuel hfirst hcontent.1 hcontent.2 (by simp)
      · obtain ⟨fuel', s', hloop, hfuel', hcur, hpassed⟩ := sigLoop_next hframes hat hfuel hfirst
        have hnext := hat.next hframes.head.1 hpassed fun _ hu => by
          by_contra hne
          exact hcontent ⟨hu, hne⟩
        have hrest := ih (hframes.tail hfirst.fits) hnext hfuel' (fun v hv => hpass v (.tail _ hv))
        rw [hpassed.heads, hcur, List.append_assoc] at hrest
        rw [hloop]
        exact hrest

end Loop

/-! ## The list of TLVs -/

theorem split_of_mem_dropLast {t : Nat} {l : List Nat} (h : t ∈ l.dropLast) :
    ∃ pre post, l = pre ++ t :: post ∧ post ≠ [] := by
  obtain ⟨pre, post, hsplit⟩ := List.append_of_mem h
  have hne : l ≠ [] := fun hnil => by rw [hnil] at h; cases h
  refine ⟨pre, post ++ [l.getLast hne], ?_, by simp⟩
  calc l = l.dropLast ++ [l.getLast hne] := (List.dropLast_append_getLast hne).symm
    _ = pre ++ t :: (post ++ [l.getLast hne]) := by rw [hsplit, List.append_assoc, List.cons_append]

theorem mem_of_mem_append_singleton {pre post : List Nat} {t u : Nat} (h : u ∈ pre ++ [t]) :
    u ∈ pre ++ t :: post := by
  rw [List.append_cons]
  exact List.mem_append_left _ h

theorem sigFinish_heads {lib : HmacLib} {prms : MsgParams} {auth : Option Auth} {buf : Nat → UInt8}
    {s : SigState} : (sigFinish lib prms auth buf s).2.heads = s.log.heads := by
  cases auth with
  | none => rfl
  | some a =>
      simp only [sigFinish]
      split
      · split
        · rfl
        · split
          · split <;> exact parseAuth_heads
          · split <;> rfl
      · rfl

theorem sigFinish_code {lib : HmacLib} {prms : MsgParams} {auth : Option Auth} {buf : Nat → UInt8}
    {s : SigState} (h : AuthCode s.errAuth) :
    (sigFinish lib prms auth buf s).1 = .sig ∨ IsFault (sigFinish lib prms auth buf s).1 := by
  cases auth with
  | none => exact .inl rfl
  | some a =>
      simp only [sigFinish]
      split
      · split
        · exact .inr (show IsFault MngParseError.authNone by decide)
        · split
          · split
            · next hne => exact .inr (AuthCode.fault (parseAuth_code false) hne)
            · exact .inl rfl
          · split
            · next hne => exact .inr (h.fault hne)
            · exact .inl rfl
      · exact .inl rfl

/-- The code of a signalling message: that it is one, or an error. -/
theorem parseSig_code (lib : HmacLib) (m : Message) (buf : Nat → UInt8) (leftAll : Int)
    (log : ParseLog) :
    (parseSig lib m buf leftAll log).1 = .sig ∨ IsFault (parseSig lib m buf leftAll log).1 := by
  have hauth : AuthCode (sigLoop lib m.prms m.auth buf leftAll.toNat
      (sigStart sigBaseSize leftAll log)).2.errAuth := sigLoop_errAuth _ .ok
  rw [parseSig]
  split
  · next he => exact .inr (sigLoop_fault he)
  · next he =>
      rw [he] at hauth
      exact sigFinish_code hauth

section ParseSig

variable (lib : HmacLib) (m : Message) (buf : Nat → UInt8) (e : Nat) (log : ParseLog)

/-- The loop over the TLVs of a message that ends at `e`. -/
def sigRun : Option MngParseError × SigState :=
  sigLoop lib m.prms m.auth buf ((e : Int) - sigBaseSize).toNat
    (sigStart sigBaseSize ((e : Int) - sigBaseSize) log)

theorem parseSig_heads :
    (parseSig lib m buf ((e : Int) - sigBaseSize) log).2.2.heads = (sigRun lib m buf e log).2.log.heads := by
  rw [parseSig, sigRun]
  split
  · next he =>
      rw [he]
      rfl
  · next he =>
      rw [he]
      exact sigFinish_heads

theorem parseSig_tlvs :
    (parseSig lib m buf ((e : Int) - sigBaseSize) log).2.1.sigTlvs = (sigRun lib m buf e log).2.tlvs := by
  rw [parseSig, sigRun]
  split <;> next he => rw [he]

theorem at_sigStart (starts : List Nat) :
    At e sigBaseSize starts (sigStart sigBaseSize ((e : Int) - sigBaseSize) log) :=
  ⟨rfl, fun _ => rfl⟩

/-- A message with content in the way is not read TLV by TLV. -/
theorem sigRun_misaligned {pre post : List Nat} {t : Nat}
    (hframes : Frames buf e sigBaseSize (pre ++ t :: post))
    (hpass : ∀ u ∈ pre ++ [t], Passes lib m.prms m.auth buf e u)
    (htype : tlvTypeAt buf t = .authentication) (hlen : lengthAt buf t ≠ 0) (hpost : post ≠ []) :
    ¬ (sigRun lib m buf e log).2.log.heads <+: log.heads ++ (pre ++ t :: post) :=
  sigLoop_misaligned hframes (at_sigStart e log _) (Int.self_le_toNat _) hpass htype hlen hpost

theorem sigRun_aligned {starts : List Nat} (hframes : Frames buf e sigBaseSize starts)
    (hpass : ∀ t ∈ starts, Passes lib m.prms m.auth buf e t) (halign : Aligned buf starts) :
    ∃ s', sigRun lib m buf e log = (none, s') ∧ Walked lib m.prms m.auth buf starts
      (sigStart sigBaseSize ((e : Int) - sigBaseSize) log) s' :=
  sigLoop_aligned hframes (at_sigStart e log _) (Int.self_le_toNat _) hpass halign

/-- **When the TLVs of a message are read where they are.** For a message whose TLVs fit in and pass:
    the cursor is at the start of each TLV in turn and the list has what each of them decodes to,
    exactly when no authentication TLV but the last TLV has content. -/
theorem parseSig_framing_iff (starts : List Nat) (hframes : Frames buf e sigBaseSize starts)
    (hpass : ∀ t ∈ starts, Passes lib m.prms m.auth buf e t) :
    ((parseSig lib m buf ((e : Int) - sigBaseSize) log).2.2.heads = log.heads ++ starts ∧
      (parseSig lib m buf ((e : Int) - sigBaseSize) log).2.1.sigTlvs
        = starts.filterMap (sigTlvAt m.prms buf)) ↔ Aligned buf starts := by
  rw [parseSig_heads, parseSig_tlvs]
  constructor
  · intro h t ht htype
    by_contra hlen
    obtain ⟨pre, post, rfl, hpost⟩ := split_of_mem_dropLast ht
    exact sigRun_misaligned lib m buf e log hframes
      (fun u hu => hpass u (mem_of_mem_append_singleton hu)) htype hlen hpost
      ⟨[], (List.append_nil _).trans h.1⟩
  · intro halign
    obtain ⟨s', hloop, hwalked⟩ := sigRun_aligned lib m buf e log hframes hpass halign
    rw [hloop]
    exact ⟨hwalked.heads, hwalked.tlvs⟩

end ParseSig

/-! ### An authentication TLV and a rate ratio -/

/-- The header of a signalling message of 64 octets. -/
def sigHeader64 : List UInt8 :=
  [0x0c, 0x02, 0, 64, 0, 0, 0, 0] ++ List.replicate 8 0 ++ List.replicate 4 0 ++
  List.replicate 10 0 ++ [0, 0, 0x05, 0x7f] ++ List.replicate 10 0

/-- An authentication TLV with an ICV of two octets. -/
def authTlv8 : List UInt8 := [0x80, 0x09, 0, 8, 1, 0, 0, 0, 0, 1, 0x2b, 0x5d]

/-- A CUMULATIVE_RATE_RATIO TLV. -/
def ratioTlv : List UInt8 := [0x80, 0x07, 0, 4, 0, 0, 0, 5]

/-- The authentication TLV first. -/
def authThenRatio : Nat → UInt8 := ofList (sigHeader64 ++ authTlv8 ++ ratioTlv)

/-- The authentication TLV last. -/
def ratioThenAuth : Nat → UInt8 := ofList (sigHeader64 ++ ratioTlv ++ authTlv8)

/-- A receiver of all TLVs, without authentication. -/
def sigReceiver : Message :=
  ((init .init).updateParams
    { MsgParams.init with rcvSignaling := true, filterSignaling := false }).2

theorem authThenRatio_frames : Frames authThenRatio 64 sigBaseSize [44, 56] :=
  .next (by decide) (.next (by decide) (.done (by decide)))

theorem ratioThenAuth_frames : Frames ratioThenAuth 64 sigBaseSize [44, 52] :=
  .next (by decide) (.next (by decide) (.done (by decide)))

theorem authThenRatio_passes (t : Nat) (ht : t ∈ [44, 56]) :
    Passes zeroLib sigReceiver.prms none authThenRatio 64 t := by
  rcases List.mem_cons.1 ht with rfl | ht
  · exact ⟨by decide, fun _ _ h => (by cases h), fun h => absurd (by decide) h⟩
  · obtain rfl := List.mem_singleton.1 ht
    exact ⟨by decide, fun h => absurd h (by decide), fun _ _ => ⟨_, rfl⟩⟩

theorem ratioThenAuth_passes (t : Nat) (ht : t ∈ [44, 52]) :
    Passes zeroLib sigReceiver.prms none ratioThenAuth 64 t := by
  rcases List.mem_cons.1 ht with rfl | ht
  · exact ⟨by decide, fun h => absurd h (by decide), fun _ _ => ⟨_, rfl⟩⟩
  · obtain rfl := List.mem_singleton.1 ht
    exact ⟨by decide, fun _ _ h => (by cases h), fun h => absurd (by decide) h⟩

/-- The rate ratio behind the authentication TLV is not read where it is. -/
theorem authThenRatio_not_framed :
    Frames authThenRatio 64 sigBaseSize [44, 56] ∧
    (∀ t ∈ [44, 56], Passes zeroLib sigReceiver.prms none authThenRatio 64 t) ∧
    ¬ ((parseSig zeroLib sigReceiver authThenRatio ((64 : Nat) - sigBaseSize) .init).2.2.heads
        = [44, 56] ∧
      (parseSig zeroLib sigReceiver authThenRatio ((64 : Nat) - sigBaseSize) .init).2.1.sigTlvs
        = [44, 56].filterMap (sigTlvAt sigReceiver.prms authThenRatio)) := by
  have hbad : ¬ (sigRun zeroLib sigReceiver authThenRatio 64 .init).2.log.heads
      <+: [] ++ ([] ++ 44 :: [56]) := by
    refine sigRun_misaligned _ _ _ _ _ authThenRatio_frames (fun u hu => ?_) (by decide) (by decide)
      (by decide)
    obtain rfl := List.mem_singleton.1 hu
    exact authThenRatio_passes 44 (by decide)
  refine ⟨authThenRatio_frames, authThenRatio_passes, fun h => hbad ?_⟩
  rw [← parseSig_heads]
  exact ⟨[], (List.append_nil _).trans h.1⟩

theorem parseSig_framing_iff_ratioThenAuth :
    (parseSig zeroLib sigReceiver ratioThenAuth ((64 : Nat) - sigBaseSize) .init).2.2.heads
        = [44, 52] ∧
      (parseSig zeroLib sigReceiver ratioThenAuth ((64 : Nat) - sigBaseSize) .init).2.1.sigTlvs
        = [44, 52].filterMap (sigTlvAt sigReceiver.prms ratioThenAuth) := by
  refine (parseSig_framing_iff zeroLib sigReceiver ratioThenAuth 64 .init [44, 52]
    ratioThenAuth_frames ratioThenAuth_passes).2 fun t ht htype => ?_
  obtain rfl := List.mem_singleton.1 ht
  exact absurd htype (by decide)

end Message

end PtpMgmt
