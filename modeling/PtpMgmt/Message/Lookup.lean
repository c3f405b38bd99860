import Mathlib.Data.List.Infix
import PtpMgmt.Json.SetTrip

set_option autoImplicit false

/-! # Looking names up (`Message::findMngID`, `Message::findTimeSrc`)

One pass over the names decides between a whole match, one partial match and several ones. It runs over the
values of an enumerator, also those that no enumerator names, and it stores what it meets on the way. -/

namespace PtpMgmt

open Json

/-! ## What a lookup is for -/

/-- The name is the text, up to the case. -/
def EqualFold (name str : Text) : Prop := str.map toLower = name.map toLower

/-- The text is a part of the name, up to the case. -/
def ContainsFold (name str : Text) : Prop := str.map toLower <:+: name.map toLower

section Spec

variable {α : Type}

/-- The value that a text stands for: its name is the text, or it is the only one whose name has the text. -/
def StandsForOne (defined : List α) (name : α → Text) (str : Text) (e : α) : Prop :=
  EqualFold (name e) str ∨ ∀ c ∈ defined, ContainsFold (name c) str ↔ c = e

/-- A lookup does what it is to do, whatever the output was before. -/
structure FindRight (defined : List α) (name : α → Text) (str : Text) (exact : Bool) (find : α → Bool × α) :
    Prop where
  whole : exact = true → ∀ id, (find id).1 = true → (find id).2 ∈ defined ∧ name (find id).2 = str
  found : exact = false → ∀ id, ((find id).1 = true ↔ ∃ e ∈ defined, StandsForOne defined name str e)
  output : exact = false → ∀ id, (find id).1 = true →
    (find id).2 ∈ defined ∧ StandsForOne defined name str (find id).2
  unchanged : ∀ id, (find id).1 = false → (find id).2 = id

end Spec

/-! ## The loop -/

section Loop

variable {α : Type} (name : α → Text) (str : Text) (whole : Bool)

/-- After one partial match. -/
theorem findLoop_one (id : α) (ids : List α) :
    findLoop name str whole false 1 id ids =
      match ids.find? fun c => sameName whole str (name c) with
      | some c => (true, c)
      | none =>
        match ids.filter fun c => strcasestr (name c) str with
        | [] => (true, id)
        | c :: _ => (false, c) := by
  induction ids with
  | nil => rfl
  | cons cid rest ih =>
    rw [findLoop, List.find?_cons, List.filter_cons]
    by_cases h : sameName whole str (name cid) = true
    · rw [if_pos h, h]
    · rw [if_neg h, eq_false_of_ne_true h]
      by_cases hpart : strcasestr (name cid) str = true
      · simp only [hpart, if_true, Bool.not_false, Bool.true_and]
        rw [show (false || decide (1 + 1 > 1)) = true from rfl, findLoop_settled]
        rfl
      · simp only [hpart, Bool.not_false, Bool.true_and, if_false, Bool.false_eq_true]
        exact ih

/-- The whole pass: the first whole match, or the one partial match. With more of them the second one is left. -/
theorem findLoop_zero (id : α) (ids : List α) :
    findLoop name str whole false 0 id ids =
      match ids.find? fun c => sameName whole str (name c) with
      | some c => (true, c)
      | none =>
        match ids.filter fun c => strcasestr (name c) str with
        | [] => (false, id)
        | [c] => (true, c)
        | _ :: c :: _ => (false, c) := by
  induction ids with
  | nil => rfl
  | cons cid rest ih =>
    rw [findLoop, List.find?_cons, List.filter_cons]
    by_cases h : sameName whole str (name cid) = true
    · rw [if_pos h, h]
    · rw [if_neg h, eq_false_of_ne_true h]
      by_cases hpart : strcasestr (name cid) str = true
      · simp only [hpart, if_true, Bool.not_false, Bool.true_and]
        rw [show (false || decide (0 + 1 > 1)) = false from rfl, findLoop_one]
        cases rest.find? fun c => sameName whole str (name c) with
        | some c => rfl
        | none =>
          cases rest.filter fun c => strcasestr (name c) str with
          | nil => rfl
          | cons c l => rfl
      · simp only [hpart, Bool.not_false, Bool.true_and, if_false, Bool.false_eq_true]
        exact ih

end Loop

/-! ## Texts -/

theorem strcasestr_iff (name str : Text) : strcasestr name str = true ↔ ContainsFold name (cStr str) := by
  unfold ContainsFold
  induction name with
  | nil => simp [strcasestr]
  | cons c name ih =>
    rw [strcasestr, Bool.or_eq_true, ih, List.map_cons, List.infix_cons_iff, List.isPrefixOf_iff_prefix]

theorem sameName_fold_iff (str name : Text) : sameName false str name = true ↔ EqualFold name (cStr str) := by
  simp [sameName, EqualFold]

theorem EqualFold.contains {name str : Text} (h : EqualFold name str) : ContainsFold name str := by
  rw [ContainsFold, h]

theorem cStr_of_clean {str : Text} (h : (0 : UInt8) ∉ str) : cStr str = str := by
  rw [cStr, List.takeWhile_eq_self_iff]
  intro c hc
  have hne : c ≠ 0 := fun he => h (he ▸ hc)
  simpa using hne

theorem toLower_eq_zero {c : UInt8} (h : toLower c = 0) : c = 0 := by
  unfold toLower at h
  split at h
  · next hc =>
    have hle : c.toNat ≤ 90 := UInt8.le_iff_toNat_le.mp hc.2
    have hge : 65 ≤ c.toNat := UInt8.le_iff_toNat_le.mp hc.1
    have hsum := congrArg UInt8.toNat h
    rw [UInt8.toNat_add] at hsum
    simp at hsum
    omega
  · exact h

theorem zero_mem_toLower {t : Text} : (0 : UInt8) ∈ t.map toLower ↔ (0 : UInt8) ∈ t := by
  rw [List.mem_map]
  constructor
  · rintro ⟨c, hc, hzero⟩
    rwa [← toLower_eq_zero hzero]
  · intro h
    exact ⟨0, h, rfl⟩

/-- A text with a zero is a part of no name. -/
theorem ContainsFold.clean {name str : Text} (hname : (0 : UInt8) ∉ name) (h : ContainsFold name str) :
    (0 : UInt8) ∉ str := by
  intro hzero
  exact hname (zero_mem_toLower.mp (h.subset (zero_mem_toLower.mpr hzero)))

/-! ## When the loop is right -/

section Right

variable {α : Type} {values ids : List α} {name : α → Text} {str : Text}

/-- One value at most has the text in its name, unless it is the name of one; behind a zero there is nothing that
    would have been found. -/
structure LookupFits (values : List α) (name : α → Text) (str : Text) (exact : Bool) : Prop where
  one : exact = false → (∃ e ∈ values, EqualFold (name e) str) ∨
    ∀ c ∈ values, ∀ d ∈ values, ContainsFold (name c) str → ContainsFold (name d) str → c = d
  zero : (0 : UInt8) ∈ str → ∀ c ∈ values,
    if exact then name c ≠ cStr str else ¬ ContainsFold (name c) (cStr str)

theorem not_standsForOne (hnames : ∀ c ∈ values, (0 : UInt8) ∉ name c) (hzero : (0 : UInt8) ∈ str) {e : α}
    (he : e ∈ values) : ¬ StandsForOne values name str e := by
  rintro (h | h)
  · exact h.contains.clean (hnames e he) hzero
  · exact ((h e he).mpr rfl).clean (hnames e he) hzero

/-- What the loop does where a part of a name will do. -/
theorem findLoop_cases (name : α → Text) (str : Text) (hnodup : ids.Nodup) :
    (∃ c ∈ ids, EqualFold (name c) (cStr str) ∧ ∀ id, findLoop name str false false 0 id ids = (true, c)) ∨
    (∀ c ∈ ids, ¬ EqualFold (name c) (cStr str)) ∧
      ((∀ c ∈ ids, ¬ ContainsFold (name c) (cStr str)) ∧
          (∀ id, findLoop name str false false 0 id ids = (false, id)) ∨
        (∃ c ∈ ids, (∀ d ∈ ids, ContainsFold (name d) (cStr str) ↔ d = c) ∧
          ∀ id, findLoop name str false false 0 id ids = (true, c)) ∨
        ∃ c ∈ ids, ∃ d ∈ ids, c ≠ d ∧ ContainsFold (name c) (cStr str) ∧ ContainsFold (name d) (cStr str) ∧
          ∀ id, findLoop name str false false 0 id ids = (false, d)) := by
  simp only [findLoop_zero]
  cases hfind : ids.find? fun c => sameName false str (name c) with
  | some c =>
    refine .inl ⟨c, List.mem_of_find?_eq_some hfind, ?_, fun _ => rfl⟩
    have hsame := List.find?_some hfind
    exact (sameName_fold_iff _ _).mp hsame
  | none =>
    have hnone := List.find?_eq_none.mp hfind
    refine .inr ⟨fun c hc h => hnone c hc ((sameName_fold_iff _ _).mpr h), ?_⟩
    have hmem : ∀ c, c ∈ ids.filter (fun c => strcasestr (name c) str) ↔
        c ∈ ids ∧ ContainsFold (name c) (cStr str) := by
      intro c
      rw [List.mem_filter, strcasestr_iff]
    have hnodup' := hnodup.filter fun c => strcasestr (name c) str
    generalize ids.filter (fun c => strcasestr (name c) str) = parts at hmem hnodup'
    match parts with
    | [] =>
      refine .inl ⟨fun c hc h => ?_, fun _ => rfl⟩
      exact absurd ((hmem c).mpr ⟨hc, h⟩) List.not_mem_nil
    | [c] =>
      obtain ⟨hc, hcontains⟩ := (hmem c).mp (List.mem_singleton_self c)
      refine .inr (.inl ⟨c, hc, ?_, fun _ => rfl⟩)
      intro d hd
      constructor
      · intro h
        exact List.mem_singleton.mp ((hmem d).mpr ⟨hd, h⟩)
      · rintro rfl
        exact hcontains
    | c :: d :: l =>
      obtain ⟨hc, hcc⟩ := (hmem c).mp List.mem_cons_self
      obtain ⟨hd, hdd⟩ := (hmem d).mp (List.mem_cons_of_mem c List.mem_cons_self)
      refine .inr (.inr ⟨c, hc, d, hd, ?_, hcc, hdd, fun _ => rfl⟩)
      rintro rfl
      exact (List.nodup_cons.mp hnodup').1 List.mem_cons_self

/-- With a zero in the text: what is found stands for something else, and what is stored is not taken back. -/
theorem findLoop_right_zero_iff (hsub : ∀ c ∈ values, c ∈ ids) (hnames : ∀ c ∈ values, (0 : UInt8) ∉ name c)
    (hnodup : ids.Nodup) (hpart : ∀ c ∈ ids, ContainsFold (name c) (cStr str) → c ∈ values)
    (hzero : (0 : UInt8) ∈ str) :
    FindRight values name str false (fun id => findLoop name str false false 0 id ids) ↔
      ∀ c ∈ values, ¬ ContainsFold (name c) (cStr str) := by
  have hstands : ¬ ∃ e ∈ values, StandsForOne values name str e := by
    rintro ⟨e, he, h⟩
    exact not_standsForOne hnames hzero he h
  obtain ⟨c, hc, heq, hloop⟩ | ⟨-, ⟨hnone, hloop⟩ | ⟨c, hc, hone, hloop⟩ | ⟨c, hc, d, hd, hne, hcc, hdd, hloop⟩⟩ :=
    findLoop_cases name str hnodup
  · refine iff_of_false ?_ fun h => h c (hpart c hc heq.contains) heq.contains
    intro h
    exact hstands ((h.found rfl c).mp (by rw [hloop]))
  · refine iff_of_true ⟨by simp, ?_, ?_, ?_⟩ fun c hc => hnone c (hsub c hc)
    · intro _ id
      simp [hloop, hstands]
    · intro _ id hfound
      simp [hloop] at hfound
    · intro id _
      rw [hloop]
  · have hcontains := (hone c hc).mpr rfl
    refine iff_of_false ?_ fun h => h c (hpart c hc hcontains) hcontains
    intro h
    exact hstands ((h.found rfl c).mp (by rw [hloop]))
  · refine iff_of_false ?_ fun h => h c (hpart c hc hcc) hcc
    intro h
    have hc' := h.unchanged c (by rw [hloop])
    rw [hloop] at hc'
    exact hne hc'.symm

theorem findLoop_right_clean_iff (hsub : ∀ c ∈ values, c ∈ ids)
    (hnodup : ids.Nodup) (hpart : ∀ c ∈ ids, ContainsFold (name c) str → c ∈ values)
    (hzero : (0 : UInt8) ∉ str) :
    FindRight values name str false (fun id => findLoop name str false false 0 id ids) ↔
      ((∃ e ∈ values, EqualFold (name e) str) ∨
        ∀ c ∈ values, ∀ d ∈ values, ContainsFold (name c) str → ContainsFold (name d) str → c = d) := by
  have hcases := findLoop_cases name str hnodup
  rw [cStr_of_clean hzero] at hcases
  obtain ⟨c, hc, heq, hloop⟩ | ⟨hdiff, ⟨hnone, hloop⟩ | ⟨c, hc, hone, hloop⟩ |
    ⟨c, hc, d, hd, hne, hcc, hdd, hloop⟩⟩ := hcases
  -- a whole match
  · have hcv := hpart c hc heq.contains
    refine iff_of_true ⟨by simp, ?_, ?_, ?_⟩ (.inl ⟨c, hcv, heq⟩)
    · intro _ id
      rw [hloop]
      exact iff_of_true rfl ⟨c, hcv, .inl heq⟩
    · intro _ id _
      rw [hloop]
      exact ⟨hcv, .inl heq⟩
    · intro id h
      rw [hloop] at h
      cases h
  -- no match at all
  · refine iff_of_true ⟨by simp, ?_, ?_, ?_⟩ (.inr fun c hc _ _ h => absurd h (hnone c (hsub c hc)))
    · intro _ id
      rw [hloop]
      refine iff_of_false (by simp) ?_
      rintro ⟨e, he, h | h⟩
      · exact hdiff e (hsub e he) h
      · exact hnone e (hsub e he) ((h e he).mpr rfl)
    · intro _ id h
      rw [hloop] at h
      cases h
    · intro id _
      rw [hloop]
  -- one part of a name
  · have hcv := hpart c hc ((hone c hc).mpr rfl)
    have hstands : StandsForOne values name str c := .inr fun d hd => hone d (hsub d hd)
    refine iff_of_true ⟨by simp, ?_, ?_, ?_⟩ (.inr ?_)
    · intro _ id
      rw [hloop]
      exact iff_of_true rfl ⟨c, hcv, hstands⟩
    · intro _ id _
      rw [hloop]
      exact ⟨hcv, hstands⟩
    · intro id h
      rw [hloop] at h
      cases h
    · intro d hd e he hcd hce
      rw [(hone d (hsub d hd)).mp hcd, (hone e (hsub e he)).mp hce]
  -- parts of several names: the id is changed although nothing is found
  · refine iff_of_false ?_ ?_
    · intro h
      have hc' := h.unchanged c (by rw [hloop])
      rw [hloop] at hc'
      exact hne hc'.symm
    · rintro (⟨e, he, h⟩ | h)
      · exact hdiff e (hsub e he) h
      · exact hne (h c (hpart c hc hcc) d (hpart d hd hdd) hcc hdd)

/-- Where every name that has the text is one of the values. -/
theorem findLoop_right_iff (hsub : ∀ c ∈ values, c ∈ ids) (hnames : ∀ c ∈ values, (0 : UInt8) ∉ name c)
    (hnodup : ids.Nodup) (hpart : ∀ c ∈ ids, ContainsFold (name c) (cStr str) → c ∈ values) :
    FindRight values name str false (fun id => findLoop name str false false 0 id ids) ↔
      LookupFits values name str false := by
  by_cases hzero : (0 : UInt8) ∈ str
  · rw [findLoop_right_zero_iff hsub hnames hnodup hpart hzero]
    constructor
    · intro h
      refine ⟨fun _ => .inr ?_, fun _ => h⟩
      intro c hc _ _ hcontains
      exact absurd hzero (hcontains.clean (hnames c hc))
    · intro h
      exact h.zero hzero
  · rw [cStr_of_clean hzero] at hpart
    rw [findLoop_right_clean_iff hsub hnodup hpart hzero]
    constructor
    · intro h
      exact ⟨fun _ => h, fun h => absurd h hzero⟩
    · intro h
      exact h.one rfl

/-- Where only the whole name will do. -/
theorem findLoop_exact_right_iff (hsub : ∀ c ∈ values, c ∈ ids) (hnames : ∀ c ∈ values, (0 : UInt8) ∉ name c)
    (hpart : ∀ c ∈ ids, name c = cStr str → c ∈ values) :
    FindRight values name str true (fun id => findLoop name str true true 0 id ids) ↔
      LookupFits values name str true := by
  have hsame : ∀ c, sameName true str (name c) = true ↔ name c = cStr str := by
    intro c
    rw [sameName, if_pos rfl, beq_iff_eq]
    exact eq_comm
  simp only [findLoop_settled]
  cases hfind : ids.find? fun c => sameName true str (name c) with
  | none =>
    have hnone := List.find?_eq_none.mp hfind
    refine iff_of_true ⟨by simp, by simp, by simp, fun _ _ => rfl⟩ ⟨by simp, ?_⟩
    intro _ c hc h
    exact hnone c (hsub c hc) ((hsame c).mpr h)
  | some c =>
    have hfound := List.find?_some hfind
    have hname := (hsame c).mp hfound
    have hc := hpart c (List.mem_of_find?_eq_some hfind) hname
    by_cases hzero : (0 : UInt8) ∈ str
    · refine iff_of_false ?_ fun h => h.zero hzero c hc hname
      intro h
      have hstr := (h.whole rfl c rfl).2
      exact hnames c hc (hstr ▸ hzero)
    · rw [cStr_of_clean hzero] at hname
      exact iff_of_true ⟨fun _ _ _ => ⟨hc, hname⟩, by simp, by simp, by simp⟩
        ⟨by simp, fun h => absurd h hzero⟩

end Right

/-! ## Management ids -/

theorem clean_of_isSelf {t : Text} (h : t.all isSelf = true) : (0 : UInt8) ∉ t :=
  fun hzero => (isSelf_spec (List.all_eq_true.mp h 0 hzero)).1 rfl

theorem mngIds_nodup : MngId.all.Nodup := by decide

theorem findMngID_right_iff {str : Text} (hne : str ≠ []) {exact : Bool}
    (hnull : exact = false → ¬ ContainsFold str (txt "NULL")) :
    FindRight MngId.all MngId.str str exact (fun id => findMngID str id exact) ↔
      LookupFits MngId.all MngId.str str exact := by
  have hnames : ∀ id ∈ MngId.all, (0 : UInt8) ∉ id.str := fun id _ => clean_of_isSelf (mngStr_self id)
  cases exact with
  | true =>
    simp only [findMngID, if_neg hne, Bool.not_true, Bool.false_and, Bool.false_eq_true, if_false]
    exact findLoop_exact_right_iff (fun _ h => h) hnames fun _ h _ => h
  | false =>
    have halias : strcasestr (cStr str) (txt "NULL") = false := by
      rw [← Bool.not_eq_true, strcasestr_iff]
      intro h
      refine hnull rfl ?_
      have hcut : cStr str <:+: str := (List.takeWhile_prefix _).isInfix
      have htxt : cStr (txt "NULL") = txt "NULL" := by decide
      rw [htxt] at h
      exact List.IsInfix.trans h (hcut.map toLower)
    simp only [findMngID, if_neg hne, Bool.not_false, Bool.true_and, halias, Bool.false_eq_true, if_false]
    exact findLoop_right_iff (fun _ h => h) hnames mngIds_nodup fun _ h _ => h

/-! ## Time sources -/

/-- What the table prints for a value without a name. -/
def unknownClock : Text := txt "unknown clock"

theorem timeSrc2str_cases (val : TimeSource) : val ∈ timeSources ∨ timeSrc2str val = unknownClock := by
  unfold timeSrc2str
  split
  all_goals simp [timeSources, unknownClock]

theorem enumRange_nodup {first last : Nat} (h : last < 256) : (enumRange first last).Nodup := by
  refine List.Nodup.map_on ?_ List.nodup_range'
  intro a ha b hb hab
  rw [List.mem_range'_1] at ha hb
  have hmod := congrArg UInt8.toNat hab
  rw [UInt8.toNat_ofNat', UInt8.toNat_ofNat'] at hmod
  omega

/-- What a lookup of a time source needs: the text is nothing of the fallback, and no alias with a zero behind it. -/
structure TimeSrcFits (str : Text) (exact : Bool) : Prop extends LookupFits timeSources timeSrc2str str exact where
  known : if exact then cStr str ≠ unknownClock else ¬ ContainsFold unknownClock (cStr str)
  gps : (0 : UInt8) ∈ str → sameName exact str (txt "GPS") = false

theorem timeSources_clean : ∀ c ∈ timeSources, (0 : UInt8) ∉ timeSrc2str c :=
  fun c _ => clean_of_isSelf (timeSrc2str_self c)

/-- The name of no value is a part of the fallback. -/
theorem timeSources_apart : ∀ c ∈ timeSources, ¬ ContainsFold unknownClock (timeSrc2str c) := by
  have hall : timeSources.all (fun c => !strcasestr unknownClock (timeSrc2str c)) = true := by
    simp only [timeSources, List.all_cons, List.all_nil, unknownClock, timeSrc2str]
    repeat rw [txt_ofList]
    decide
  intro c hc h
  have hc' := List.all_eq_true.mp hall c hc
  have hcut := cStr_of_clean (timeSources_clean c hc)
  rw [Bool.not_eq_true', ← Bool.not_eq_true, strcasestr_iff, hcut] at hc'
  exact hc' h

/-- A part of the fallback is found in the names of values that no enumerator names. -/
theorem findLoop_fallback_not_right {str : Text} (h : ContainsFold unknownClock (cStr str)) :
    ¬ FindRight timeSources timeSrc2str str false
      (fun type => findLoop timeSrc2str str false false 0 type (enumRange 0x10 0xa0)) := by
  intro hright
  have hnodup : (enumRange 0x10 0xa0).Nodup := enumRange_nodup (by decide)
  have hfirst : (0x11 : UInt8) ∈ enumRange 0x10 0xa0 := by decide
  have hsecond : (0x12 : UInt8) ∈ enumRange 0x10 0xa0 := by decide
  obtain ⟨c, hc, heq, hloop⟩ | ⟨-, ⟨hnone, -⟩ | ⟨c, hc, hone, -⟩ | ⟨c, hc, d, hd, hne, -, -, hloop⟩⟩ :=
    findLoop_cases timeSrc2str str hnodup
  · have hmem := (hright.output rfl c (by rw [hloop])).1
    rw [hloop] at hmem
    refine timeSources_apart c hmem ?_
    rw [ContainsFold, ← heq]
    exact h
  · exact hnone 0x11 hfirst h
  · have h1 := (hone 0x11 hfirst).mp h
    have h2 := (hone 0x12 hsecond).mp h
    exact absurd (h1.trans h2.symm) (by decide)
  · have hc' := hright.unchanged c (by rw [hloop])
    rw [hloop] at hc'
    exact hne hc'.symm

theorem findLoop_fallback_exact_not_right {str : Text} (h : cStr str = unknownClock) :
    ¬ FindRight timeSources timeSrc2str str true
      (fun type => findLoop timeSrc2str str true true 0 type (enumRange 0x10 0xa0)) := by
  intro hright
  have hfind : ((enumRange 0x10 0xa0).find? fun c => sameName true str (timeSrc2str c)) = some 0x11 := by
    simp only [sameName, h]
    decide
  have hmem := (hright.whole rfl 0 (by rw [findLoop_settled, hfind])).1
  rw [findLoop_settled, hfind] at hmem
  revert hmem
  decide

theorem findTimeSrc_right_iff {str : Text} (hne : str ≠ []) {exact : Bool}
    (halias : if exact then str ≠ txt "GPS" else ¬ EqualFold (txt "GPS") str) :
    FindRight timeSources timeSrc2str str exact (fun type => findTimeSrc str type exact) ↔
      TimeSrcFits str exact := by
  simp only [findTimeSrc, if_neg hne]
  by_cases hgps : sameName exact str (txt "GPS") = true
  · -- the alias in front of a zero
    have hzero : (0 : UInt8) ∈ str := by
      by_contra hclean
      cases exact with
      | true =>
        rw [sameName, if_pos rfl, beq_iff_eq, cStr_of_clean hclean] at hgps
        exact halias hgps
      | false =>
        rw [sameName_fold_iff, cStr_of_clean hclean] at hgps
        exact halias hgps
    simp only [hgps, if_true]
    refine iff_of_false ?_ fun h => by simp [h.gps hzero] at hgps
    intro hright
    cases exact with
    | true =>
      have hname := (hright.whole rfl 0 rfl).2
      exact timeSources_clean 0x20 (by decide) (hname ▸ hzero)
    | false => exact not_standsForOne timeSources_clean hzero (by decide) (hright.output rfl 0 rfl).2
  · simp only [hgps, Bool.false_eq_true, if_false]
    have hsub : ∀ c ∈ timeSources, c ∈ enumRange 0x10 0xa0 := by
      have hall : timeSources.all (fun c => (enumRange 0x10 0xa0).contains c) = true := by decide
      intro c hc
      exact List.contains_iff_mem.1 (List.all_eq_true.1 hall c hc)
    have hfits : (if exact then cStr str ≠ unknownClock else ¬ ContainsFold unknownClock (cStr str)) →
        (LookupFits timeSources timeSrc2str str exact ↔ TimeSrcFits str exact) := by
      intro hknown
      exact ⟨fun h => ⟨h, hknown, fun _ => eq_false_of_ne_true hgps⟩, fun h => h.toLookupFits⟩
    cases exact with
    | true =>
      by_cases hknown : cStr str = unknownClock
      · exact iff_of_false (findLoop_fallback_exact_not_right hknown) fun h => h.known hknown
      · refine (findLoop_exact_right_iff hsub timeSources_clean ?_).trans (hfits hknown)
        intro c _ hname
        exact (timeSrc2str_cases c).resolve_right fun h => hknown (hname.symm.trans h)
    | false =>
      by_cases hknown : ContainsFold unknownClock (cStr str)
      · exact iff_of_false (findLoop_fallback_not_right hknown) fun h => h.known hknown
      · refine (findLoop_right_iff hsub timeSources_clean (enumRange_nodup (by decide)) ?_).trans (hfits hknown)
        intro c _ hcontains
        exact (timeSrc2str_cases c).resolve_right fun h => hknown (h ▸ hcontains)

/-- When the lookups of a name are right: the texts with an alias in them apart. -/
theorem nameLookup_right_iff (str : Text) (hne : str ≠ []) (exact : Bool) :
    ((exact = false → ¬ ContainsFold str (txt "NULL")) →
      (FindRight MngId.all MngId.str str exact (fun id => findMngID str id exact) ↔
        LookupFits MngId.all MngId.str str exact)) ∧
    ((if exact then str ≠ txt "GPS" else ¬ EqualFold (txt "GPS") str) →
      (FindRight timeSources timeSrc2str str exact (fun type => findTimeSrc str type exact) ↔
        TimeSrcFits str exact)) :=
  ⟨findMngID_right_iff hne, findTimeSrc_right_iff hne⟩

theorem findMngID_right_domain : FindRight MngId.all MngId.str (txt "DOMAIN") false
    (fun id => findMngID (txt "DOMAIN") id false) := by
  have hclean : (0 : UInt8) ∉ txt "DOMAIN" := by decide
  refine ((nameLookup_right_iff (txt "DOMAIN") (by decide) false).1 ?_).mpr ⟨?_, ?_⟩
  · intro _ h
    have hnull : cStr (txt "NULL") = txt "NULL" := by decide
    rw [← hnull, ← strcasestr_iff] at h
    revert h
    decide
  · exact fun _ => .inl ⟨.domain, MngId.mem_all _, rfl⟩
  · exact fun h => absurd h hclean

/-- No name is as short as LOG. -/
theorem mngStr_length (id : MngId) : id.str.length ≠ 3 := by
  cases id <;> (rw [MngId.str, txt_ofList]; decide)

/-- Two names have LOG in them: a second one is stored although the lookup fails. The name of the fallback is found
    as a value that no enumerator names. -/
theorem not_right_twoLogs :
    ¬ FindRight MngId.all MngId.str (txt "LOG") false (fun id => findMngID (txt "LOG") id false) ∧
      ¬ FindRight timeSources timeSrc2str unknownClock true (fun type => findTimeSrc unknownClock type true) := by
  have hlog : cStr (txt "LOG") = txt "LOG" := by decide
  constructor
  · rw [findMngID_right_iff (by decide)]
    · intro h
      rcases h.one rfl with ⟨e, -, he⟩ | hone
      · have hlen := congrArg List.length he
        rw [List.length_map, List.length_map] at hlen
        exact mngStr_length e hlen.symm
      · have hsome := hone .faultLog (MngId.mem_all _) .faultLogReset (MngId.mem_all _)
        rw [← hlog, ← strcasestr_iff, ← strcasestr_iff] at hsome
        exact absurd (hsome (by decide) (by decide)) (by decide)
    · intro _ h
      have hnull : cStr (txt "NULL") = txt "NULL" := by decide
      rw [← hnull, ← strcasestr_iff] at h
      revert h
      decide
  · have hclock : findTimeSrc unknownClock 0 true = (true, 0x11) := by decide
    intro h
    have hmem := (h.whole rfl 0 (by rw [hclock])).1
    rw [hclock] at hmem
    revert hmem
    decide

end PtpMgmt
