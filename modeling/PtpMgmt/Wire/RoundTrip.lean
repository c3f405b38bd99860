import PtpMgmt.Wire.Cursor

set_option autoImplicit false

/-! # Round trips of cursor codecs

A cursor codec is one text for two directions. `Builds c a w` says what it writes, `Parses c a w`
what it reads, and `RoundTrips` pairs the two at the same octets: the build of one value and the
parse into another. The rules below follow the constructs a codec is written with, so that the round
trip of a record is one rule application a field, in the order of the fields. -/

namespace Wire

open Codec

variable {ε α β γ : Type} [Faults ε]

/-! ## What a codec writes and reads -/

/-- In build mode `c` writes exactly `w` and answers `a`. It fails only for want of room, and then
    leaves the error as it was. -/
def Builds (c : Codec ε α) (a : α) (w : List UInt8) : Prop :=
  ∀ s : Cursor ε, s.build = true → 0 ≤ s.left →
    ((w.length : Int) ≤ s.left → c.run s = (some a, s.emit w)) ∧
    (s.left < w.length → (c.run s).1 = none ∧ (c.run s).2.err = s.err)

/-- In parse mode `c` reads `w`, when it stands in front of the cursor, as `a`. -/
def Parses (c : Codec ε α) (a : α) (w : List UInt8) : Prop :=
  ∀ s : Cursor ε, s.build = false → (w.length : Int) ≤ s.left → s.Holds w →
    c.run s = (some a, s.consume w.length)

/-- In build mode `c` fails, whatever the room, with the error that stands or with `e`. -/
def Refuses (e : ε) (c : Codec ε α) : Prop :=
  ∀ s : Cursor ε, s.build = true →
    (c.run s).1 = none ∧ ((c.run s).2.err = s.err ∨ (c.run s).2.err = e)

theorem Builds.pure (a : α) : Builds (Pure.pure a : Codec ε α) a [] := by
  intro s _ hleft
  refine ⟨fun _ => ?_, fun h => absurd hleft (by simpa using h)⟩
  rw [run_pure, Cursor.emit_nil]

theorem Builds.bind {c : Codec ε α} {k : α → Codec ε β} {a : α} {b : β} {v w : List UInt8}
    (hc : Builds c a v) (hk : Builds (k a) b w) : Builds (c >>= k) b (v ++ w) := by
  intro s hb hleft
  obtain ⟨hok, hshort⟩ := hc s hb hleft
  rw [List.length_append, Nat.cast_add]
  by_cases hv : (v.length : Int) ≤ s.left
  · obtain ⟨kok, kshort⟩ := hk (s.emit v) hb (by rw [Cursor.emit_left]; omega)
    rw [Cursor.emit_left] at kok kshort
    rw [run_bind_some (hok hv), Cursor.emit_append]
    exact ⟨fun h => kok (by omega), fun h => kshort (by omega)⟩
  · have hfail := hshort (by omega)
    rw [run_bind_none hfail.1]
    exact ⟨fun h => absurd h (by omega), fun _ => ⟨rfl, hfail.2⟩⟩

theorem Builds.isBuild {k : Bool → Codec ε α} {a : α} {w : List UInt8} (h : Builds (k true) a w) :
    Builds (Codec.isBuild >>= k) a w := by
  intro s hb hleft
  rw [run_bind_some (run_isBuild s), hb]
  exact h s hb hleft

theorem Builds.getLeft {k : Int → Codec ε α} {a : α} {w : List UInt8} (h : ∀ n, Builds (k n) a w) :
    Builds (Codec.getLeft >>= k) a w := by
  intro s hb hleft
  rw [run_bind_some (run_getLeft s)]
  exact h s.left s hb hleft

theorem Builds.need {n : Nat} {c : Codec ε α} {a : α} {w : List UInt8} (hn : n ≤ w.length)
    (h : Builds c a w) : Builds (Codec.need n >>= fun _ => c) a w := by
  intro s hb hleft
  obtain ⟨hok, hshort⟩ := h s hb hleft
  by_cases hroom : (n : Int) ≤ s.left
  · rw [run_bind_some (run_need hroom)]
    exact ⟨hok, hshort⟩
  · have hnone := run_need_short (Int.not_le.1 hroom)
    rw [run_bind_none (by rw [hnone]), hnone]
    exact ⟨fun hw => absurd hw (by omega), fun _ => ⟨rfl, rfl⟩⟩

theorem Builds.xfer {len : Nat} {src : List UInt8} (h : src.length = len) :
    Builds (Codec.xfer len src : Codec ε _) src src := by
  subst h
  intro s hb _
  refine ⟨fun hroom => run_xfer_build hb hroom, fun hshort => ?_⟩
  rw [run_xfer_short hshort]
  exact ⟨rfl, rfl⟩

theorem Parses.pure (a : α) : Parses (Pure.pure a : Codec ε α) a [] := by
  intro s _ _ _
  rw [run_pure, List.length_nil, Cursor.consume_zero]

theorem Parses.bind {c : Codec ε α} {k : α → Codec ε β} {a : α} {b : β} {v w : List UInt8}
    (hc : Parses c a v) (hk : Parses (k a) b w) : Parses (c >>= k) b (v ++ w) := by
  intro s hb hleft hholds
  rw [List.length_append, Nat.cast_add] at hleft
  rw [run_bind_some (hc s hb (by omega) hholds.append_left), List.length_append,
    Cursor.consume_add]
  exact hk _ hb (by rw [Cursor.consume_left]; omega) hholds.append_right

theorem Parses.isBuild {k : Bool → Codec ε α} {a : α} {w : List UInt8}
    (h : Parses (k false) a w) : Parses (Codec.isBuild >>= k) a w := by
  intro s hb hleft hholds
  rw [run_bind_some (run_isBuild s), hb]
  exact h s hb hleft hholds

theorem Parses.need {n : Nat} {c : Codec ε α} {a : α} {w : List UInt8} (hn : n ≤ w.length)
    (h : Parses c a w) : Parses (Codec.need n >>= fun _ => c) a w := by
  intro s hb hleft hholds
  rw [run_bind_some (run_need (show (n : Int) ≤ s.left by omega))]
  exact h s hb hleft hholds

theorem Parses.xfer {len : Nat} {src w : List UInt8} (h : w.length = len) :
    Parses (Codec.xfer len src : Codec ε _) w w := by
  subst h
  intro s hb hleft hholds
  rw [run_xfer_parse hb hleft, hholds]

/-- The octets decide what is read. -/
theorem Parses.unique (e : ε) {c : Codec ε α} {a b : α} {w : List UInt8} (ha : Parses c a w)
    (hb : Parses c b w) : a = b := by
  let s : Cursor ε := ⟨false, 0, w.length, 0, e, ofList w, [], [], false⟩
  have hholds : s.Holds w := by
    have hslice : slice (ofList (w ++ [])) 0 w.length = (w.drop 0).take w.length := slice_ofList w [] (by omega)
    simpa [s, Cursor.Holds] using hslice
  have := (ha s rfl le_rfl hholds).symm.trans (hb s rfl le_rfl hholds)
  simpa using congrArg Prod.fst this

theorem Refuses.bind_left {e : ε} {c : Codec ε α} {k : α → Codec ε β} (h : Refuses e c) :
    Refuses e (c >>= k) := by
  intro s hb
  rw [run_bind_none (h s hb).1]
  exact ⟨rfl, (h s hb).2⟩

/-- What comes before the refusal must not set another error. -/
theorem Refuses.bind_right {e : ε} {c : Codec ε α} {k : α → Codec ε β}
    (hc : ∀ s, (c.run s).2.err = s.err) (h : ∀ a, Refuses e (k a)) : Refuses e (c >>= k) := by
  intro s hb
  have hadv := c.advances s
  have herr := hc s
  rw [run_bind]
  split
  · next a s' he =>
      rw [he] at hadv herr
      rw [← herr]
      exact h a s' (hadv.build_eq.trans hb)
  · next s' he =>
      rw [he] at herr
      exact ⟨rfl, .inl herr⟩

theorem Refuses.isBuild {e : ε} {k : Bool → Codec ε α} (h : Refuses e (k true)) :
    Refuses e (Codec.isBuild >>= k) := by
  intro s hb
  rw [run_bind_some (run_isBuild s), hb]
  exact h s hb

theorem run_need_err (n : Nat) (s : Cursor ε) : ((need n).run s).2.err = s.err := by
  simp only [need]
  split <;> rfl

theorem run_xfer_err (len : Nat) (src : List UInt8) (s : Cursor ε) :
    ((Codec.xfer len src).run s).2.err = s.err := by
  simp only [Codec.xfer]
  split
  · rfl
  · split <;> rfl

/-! ## The two directions together -/

/-- `cb` writes `w` in build mode and `cp` reads it in parse mode, with the same answer. -/
structure RoundTrips (cb cp : Codec ε α) (a : α) (w : List UInt8) : Prop where
  builds : Builds cb a w
  parses : Parses cp a w

namespace RoundTrips

theorem pure (a : α) : RoundTrips (Pure.pure a : Codec ε α) (Pure.pure a) a [] :=
  ⟨Builds.pure a, Parses.pure a⟩

theorem bind {cb cp : Codec ε α} {kb kp : α → Codec ε β} {a : α} {b : β} {v w : List UInt8}
    (hc : RoundTrips cb cp a v) (hk : RoundTrips (kb a) (kp a) b w) :
    RoundTrips (cb >>= kb) (cp >>= kp) b (v ++ w) :=
  ⟨hc.builds.bind hk.builds, hc.parses.bind hk.parses⟩

theorem isBuild {kb kp : Bool → Codec ε α} {a : α} {w : List UInt8}
    (h : RoundTrips (kb true) (kp false) a w) :
    RoundTrips (Codec.isBuild >>= kb) (Codec.isBuild >>= kp) a w :=
  ⟨h.builds.isBuild, h.parses.isBuild⟩

theorem need {n : Nat} {cb cp : Codec ε α} {a : α} {w : List UInt8} (hn : n ≤ w.length)
    (h : RoundTrips cb cp a w) :
    RoundTrips (Codec.need n >>= fun _ => cb) (Codec.need n >>= fun _ => cp) a w :=
  ⟨h.builds.need hn, h.parses.need hn⟩

theorem xfer {len : Nat} {src : List UInt8} (src0 : List UInt8) (h : src.length = len) :
    RoundTrips (Codec.xfer len src : Codec ε _) (Codec.xfer len src0) src src :=
  ⟨Builds.xfer h, Parses.xfer h⟩

/-- A list goes out value by value and comes back as that many fresh values. -/
theorem each_times {p : α → Codec ε α} {fresh : α} {norm : α → α} {enc : α → List UInt8}
    (l : List α) (h : ∀ a ∈ l, RoundTrips (p a) (p fresh) (norm a) (enc a)) :
    RoundTrips (Codec.each p l) (Codec.times (p fresh) l.length) (l.map norm) (l.flatMap enc) := by
  induction l with
  | nil => exact pure []
  | cons a rest ih =>
      have hrest := ih (fun b hb => h b (List.mem_cons_of_mem _ hb))
      have htail : enc a ++ (rest.flatMap enc ++ []) = (a :: rest).flatMap enc := by simp
      rw [← htail]
      exact (h a (List.mem_cons_self ..)).bind (hrest.bind (pure _))

/-- An array goes out value by value and comes back into an array of the same length. -/
theorem each_each {p : α → Codec ε α} {enc : α → List UInt8}
    (h : ∀ a a0, RoundTrips (p a) (p a0) a (enc a)) :
    ∀ (l l0 : List α), l.length = l0.length →
      RoundTrips (Codec.each p l) (Codec.each p l0) l (l.flatMap enc) := by
  intro l
  induction l with
  | nil =>
      intro l0 hlen
      rw [List.eq_nil_of_length_eq_zero hlen.symm]
      exact pure []
  | cons a rest ih =>
      intro l0 hlen
      cases l0 with
      | nil => exact absurd hlen (by simp)
      | cons a0 rest0 =>
          have hrest := ih rest0 (by simpa using hlen)
          have htail : enc a ++ (rest.flatMap enc ++ []) = (a :: rest).flatMap enc := by simp
          rw [← htail]
          exact (h a a0).bind (hrest.bind (pure _))

end RoundTrips

/-- A round trip over `n` octets, without saying which. The answer and the count follow from the
    codecs, so that the instances below find them for a record whose fields all have a width of
    their own. -/
class RoundTripsIn (cb cp : Codec ε α) (a : outParam α) (n : outParam Nat) : Prop where
  octets : ∃ w : List UInt8, w.length = n ∧ RoundTrips cb cp a w

theorem RoundTrips.size {cb cp : Codec ε α} {a : α} {w : List UInt8}
    (h : RoundTrips cb cp a w) : RoundTripsIn cb cp a w.length :=
  ⟨w, rfl, h⟩

namespace RoundTripsIn

instance pure (a : α) : RoundTripsIn (Pure.pure a : Codec ε α) (Pure.pure a) a 0 :=
  (RoundTrips.pure a).size

theorem andThen {cb cp : Codec ε α} {kb kp : α → Codec ε β} {a : α} {b : β} {n m : Nat}
    (hc : RoundTripsIn cb cp a n) (hk : RoundTripsIn (kb a) (kp a) b m) :
    RoundTripsIn (cb >>= kb) (cp >>= kp) b (n + m) := by
  obtain ⟨v, rfl, hv⟩ := hc.octets
  obtain ⟨w, rfl, hw⟩ := hk.octets
  exact ⟨v ++ w, List.length_append, hv.bind hw⟩

instance bind {cb cp : Codec ε α} {kb kp : α → Codec ε β} {a : α} {b : β} {n m : Nat}
    [hc : RoundTripsIn cb cp a n] [hk : RoundTripsIn (kb a) (kp a) b m] :
    RoundTripsIn (cb >>= kb) (cp >>= kp) b (n + m) :=
  hc.andThen hk

theorem isBuild {kb kp : Bool → Codec ε α} {a : α} {n : Nat}
    (h : RoundTripsIn (kb true) (kp false) a n) :
    RoundTripsIn (Codec.isBuild >>= kb) (Codec.isBuild >>= kp) a n := by
  obtain ⟨w, rfl, hw⟩ := h.octets
  exact ⟨w, rfl, hw.isBuild⟩

/-- Read the octet count off differently. -/
theorem of_eq {cb cp : Codec ε α} {a : α} {n m : Nat} (h : RoundTripsIn cb cp a n) (hn : n = m) :
    RoundTripsIn cb cp a m := hn ▸ h

/-- Records whose octets are only counted have octets all the same. -/
theorem exists_enc {p : α → Codec ε α} {fresh : α} {norm : α → α} {width : α → Nat} {l : List α}
    (h : ∀ a ∈ l, RoundTripsIn (p a) (p fresh) (norm a) (width a)) :
    ∃ enc : α → List UInt8, (∀ a ∈ l, RoundTrips (p a) (p fresh) (norm a) (enc a)) ∧
      (l.flatMap enc).length = (l.map width).sum := by
  classical
  choose enc hlen henc using fun a (ha : a ∈ l) => (h a ha).octets
  refine ⟨fun a => if ha : a ∈ l then enc a ha else [], fun a ha => ?_, ?_⟩
  · simp only [ha, dif_pos]
    exact henc a ha
  · rw [List.length_flatMap]
    refine congrArg List.sum (List.map_congr_left fun a ha => ?_)
    simp only [ha, dif_pos]
    exact hlen a ha

end RoundTripsIn

/-! ## Scalar fields -/

namespace Codec

/-- A field of `len` octets: `enc` writes it, `dec` reads it. A build leaves the value alone. -/
def field (len : Nat) (enc : α → List UInt8) (dec : List UInt8 → α) (v : α) : Codec ε α := do
  let w ← xfer len (enc v)
  if ← isBuild then return v else return dec w

/-- A parse does not look at the value that is there. -/
theorem run_xfer_src {len : Nat} {s : Cursor ε} (hb : s.build = false) (src src' : List UInt8) :
    (xfer len src).run s = (xfer len src').run s := by
  simp [xfer, hb]

theorem run_field_parse {len : Nat} {enc : α → List UInt8} {dec : List UInt8 → α} {s : Cursor ε}
    (hb : s.build = false) (v v' : α) : (field len enc dec v).run s = (field len enc dec v').run s := by
  have hbuild := ((xfer len (enc v')).advances s).build_eq
  rw [field, field, run_bind, run_bind, run_xfer_src hb (enc v) (enc v')]
  rcases hrun : (xfer len (enc v')).run s with ⟨_ | w, s'⟩
  · rfl
  · rw [hrun, hb] at hbuild
    have hparse : ¬ s'.build = true := by
      rw [show s'.build = false from hbuild]
      decide
    simp only [run_bind_some (run_isBuild s'), if_neg hparse]

theorem length_of_xfer_parse {len : Nat} {src w : List UInt8} {s : Cursor ε} (hb : s.build = false)
    (h : ((xfer len src).run s).1 = some w) : w.length = len := by
  by_cases hroom : (len : Int) ≤ s.left
  · rw [run_xfer_parse hb hroom] at h
    cases h
    exact length_slice _ _ _
  · rw [run_xfer_short (Int.not_le.1 hroom)] at h
    cases h

theorem run_field_err (len : Nat) (enc : α → List UInt8) (dec : List UInt8 → α) (v : α)
    (s : Cursor ε) : ((field len enc dec v).run s).2.err = s.err := by
  have hxfer := run_xfer_err len (enc v) s
  rw [field, run_bind]
  split
  · next w s' he =>
      rw [he] at hxfer
      rw [run_bind_some (run_isBuild s')]
      split <;> exact hxfer
  · next s' he =>
      rw [he] at hxfer
      exact hxfer

end Codec

theorem RoundTrips.field {len : Nat} {enc : α → List UInt8} {dec : List UInt8 → α} {v : α}
    (v0 : α) (hlen : (enc v).length = len) (hdec : dec (enc v) = v) :
    RoundTrips (Codec.field len enc dec v : Codec ε α) (Codec.field len enc dec v0) v (enc v) := by
  have hb : Builds (Codec.field len enc dec v : Codec ε α) v (enc v ++ []) :=
    (Builds.xfer hlen).bind (Builds.pure v).isBuild
  have hp : Parses (Codec.field len enc dec v0 : Codec ε α) v (enc v ++ []) := by
    refine (Parses.xfer hlen).bind (Parses.isBuild ?_)
    simp only [hdec]
    exact Parses.pure v
  rw [List.append_nil] at hb hp
  exact ⟨hb, hp⟩

instance consumes_field {len : Nat} [h : NeZero len] (enc : α → List UInt8) (dec : List UInt8 → α)
    (v : α) : Consumes (Codec.field len enc dec v : Codec ε α) :=
  have := consumes_xfer (ε := ε) (Nat.pos_of_ne_zero h.out) (enc v)
  inferInstanceAs (Consumes (xfer len (enc v) >>= _))

/-! ## Open-ended lists -/

/-- An open-ended list of records of `size` octets comes back whole when less than one more record
    is left behind it. -/
theorem whileRun_parses {c : Codec ε α} {size : Nat} {norm : β → α} {enc : β → List UInt8}
    (l : List β) (hc : ∀ b ∈ l, Parses c (norm b) (enc b)) (hsize : ∀ b ∈ l, (enc b).length = size) :
    ∀ (fuel : Nat) (s : Cursor ε), l.length ≤ fuel → s.build = false →
      ((l.flatMap enc).length : Int) ≤ s.left → s.left < (l.flatMap enc).length + size →
      s.Holds (l.flatMap enc) →
      whileRun size c fuel s = (some (l.map norm), s.consume (l.flatMap enc).length) := by
  induction l with
  | nil =>
      intro fuel s _ _ _ hend _
      simp only [List.flatMap_nil, List.length_nil, Nat.cast_zero, zero_add] at hend
      cases fuel with
      | zero => simp [whileRun, hend]
      | succ fuel => simp [whileRun, hend]
  | cons b rest ih =>
      intro fuel s hfuel hb hleft hend hholds
      have hhead := hsize b (List.mem_cons_self ..)
      simp only [List.flatMap_cons, List.length_append, Nat.cast_add] at hleft hend hholds ⊢
      cases fuel with
      | zero => exact absurd hfuel (by simp)
      | succ fuel =>
          have hrun := hc b (List.mem_cons_self ..) s hb (by omega) hholds.append_left
          have hrec := ih (fun x hx => hc x (List.mem_cons_of_mem _ hx))
            (fun x hx => hsize x (List.mem_cons_of_mem _ hx)) fuel (s.consume (enc b).length)
            (by simpa using hfuel) hb (by rw [Cursor.consume_left]; omega)
            (by rw [Cursor.consume_left]; omega) hholds.append_right
          rw [whileRun, if_neg (by omega), hrun]
          simp only [hrec, Cursor.consume_add, List.map_cons]

/-- In parse mode `c` reads `w` as `a` when at most `slack` octets stand behind it. -/
def ParsesEnd (slack : Nat) (c : Codec ε α) (a : α) (w : List UInt8) : Prop :=
  ∀ s : Cursor ε, s.build = false → (w.length : Int) ≤ s.left → s.left ≤ w.length + slack →
    s.Holds w → c.run s = (some a, s.consume w.length)

theorem Parses.atEnd {c : Codec ε α} {a : α} {w : List UInt8} (slack : Nat) (h : Parses c a w) :
    ParsesEnd slack c a w :=
  fun s hb hleft _ hholds => h s hb hleft hholds

theorem ParsesEnd.bind_pure {slack : Nat} {c : Codec ε α} {a : α} {w : List UInt8}
    (h : ParsesEnd slack c a w) (f : α → β) :
    ParsesEnd slack (c >>= fun x => Pure.pure (f x)) (f a) w := by
  intro s hb hleft hend hholds
  rw [run_bind_some (h s hb hleft hend hholds), run_pure]

theorem ParsesEnd.isBuild {slack : Nat} {k : Bool → Codec ε α} {a : α} {w : List UInt8}
    (h : ParsesEnd slack (k false) a w) : ParsesEnd slack (Codec.isBuild >>= k) a w := by
  intro s hb hleft hend hholds
  rw [run_bind_some (run_isBuild s), hb]
  exact h s hb hleft hend hholds

/-- What stands behind a field stands behind the rest. -/
theorem Parses.bindEnd {slack : Nat} {c : Codec ε α} {k : α → Codec ε β} {a : α} {b : β} {v w : List UInt8}
    (hc : Parses c a v) (hk : ParsesEnd slack (k a) b w) : ParsesEnd slack (c >>= k) b (v ++ w) := by
  intro s hb hleft hend hholds
  rw [List.length_append, Nat.cast_add] at hleft hend
  rw [run_bind_some (hc s hb (by omega) hholds.append_left), List.length_append, Cursor.consume_add]
  exact hk _ hb (by rw [Cursor.consume_left]; omega) (by rw [Cursor.consume_left]; omega)
    hholds.append_right

/-- A field that takes all that is left. -/
theorem ParsesEnd.getLeft {k : Int → Codec ε α} {a : α} {w : List UInt8}
    (h : ParsesEnd 0 (k w.length) a w) : ParsesEnd 0 (Codec.getLeft >>= k) a w := by
  intro s hb hleft hend hholds
  have hall : s.left = w.length := by omega
  rw [run_bind_some (run_getLeft s), hall]
  exact h s hb hleft hend hholds

theorem ParsesEnd.whileLeft {c : Codec ε α} [Consumes c] {size slack : Nat} {norm : β → α}
    {enc : β → List UInt8} (hpos : 0 < size) (hslack : slack < size) (l : List β)
    (hc : ∀ b ∈ l, Parses c (norm b) (enc b)) (hsize : ∀ b ∈ l, (enc b).length = size) :
    ParsesEnd slack (Codec.whileLeft size hpos c) (l.map norm) (l.flatMap enc) := by
  intro s hb hleft hend hholds
  have hlen : (l.flatMap enc).length = l.length * size := by
    rw [List.length_flatMap, List.map_congr_left hsize, List.map_const', List.sum_replicate_nat]
  have hfuel : l.length ≤ l.length * size := Nat.le_mul_of_pos_right _ hpos
  exact whileRun_parses l hc hsize _ s (by omega) hb hleft (by omega) hholds

end Wire
