import PtpMgmt.Cfg.ReadSa

set_option autoImplicit false

/-! # Security associations from C (`ptpmgmt_safile`)

The wrapper for C keeps a handle for every spp that was asked for, and gives the same one out again. A handle
points to an `Spp` inside `m_spps`, and a `read_sa` that succeeds replaces the whole map, so that the handles made
before point to objects that are gone. There are `UINT8_MAX` places for the handles, one less than there are
spp values: the one for 255 is past the end of the array. -/

namespace PtpMgmt

open Json

namespace Cfg

/-! ## The wrapper -/

/-- An `Spp` in `m_spps`: the load that made it, counted from the first, and its place in the map. -/
structure SppNode where
  load : Nat
  id : UInt8
deriving DecidableEq

/-- What the pointer that `spp` returns is. -/
inductive SppHandle
  | null
  /-- A wrapper, by what its `_this` points to. -/
  | wrapper (this : SppNode)
  /-- Whatever is behind the array. -/
  | behind
deriving DecidableEq

/-- `ptpmgmt_safile_t`: `m_spps` of its `SaFile`, the number of loads so far, and `_all`. -/
structure CSaFile where
  spps : SaTable
  loads : Nat
  all : Fin 255 → Option SppNode

namespace CSaFile

/-- `ptpmgmt_safile_alloc`. -/
def alloc : CSaFile := ⟨fun _ => none, 0, fun _ => none⟩

/-- `ptpmgmt_safile_read_sa`. -/
def readSa (sf : CSaFile) (file : Option Text) : Option (Bool × CSaFile) :=
  (Cfg.readSa sf.spps file).map fun r =>
    (r.1, if r.1 then { sf with spps := r.2, loads := sf.loads + 1 } else sf)

/-- `ptpmgmt_safile_spp`. -/
def spp (sf : CSaFile) (sppID : UInt8) : SppHandle × CSaFile :=
  if (sf.spps sppID).isSome then
    if h : sppID.toNat < 255 then
      match sf.all ⟨sppID.toNat, h⟩ with
      | some this => (.wrapper this, sf)
      | none =>
        let this : SppNode := ⟨sf.loads, sppID⟩
        (.wrapper this, { sf with all := Function.update sf.all ⟨sppID.toNat, h⟩ (some this) })
    else (.behind, sf)
  else (.null, sf)

/-- What is seen through a handle. There is nothing to see through one of an `Spp` that is gone. -/
def shows (sf : CSaFile) : SppHandle → Option (Option SppKeys)
  | .null => some none
  | .wrapper this => if this.load = sf.loads then (sf.spps this.id).map some else none
  | .behind => none

/-! ## Calls -/

/-- The calls a program makes on the wrapper. -/
inductive Call
  | readSa (file : Option Text)
  | spp (sppID : UInt8)

/-- The wrapper after a call, unless the call reads outside of its line buffer. -/
def call (sf : CSaFile) : Call → Option CSaFile
  | .readSa file => (sf.readSa file).map (·.2)
  | .spp sppID => some (sf.spp sppID).2

/-- What is promised of a call: the handle shows the association that is loaded, or it is null where there is
    none. -/
def CallRight (sf : CSaFile) : Call → Prop
  | .readSa _ => True
  | .spp sppID => (sf.spp sppID).2.shows (sf.spp sppID).1 = some (sf.spps sppID)

/-- The handle that is kept for an spp value. -/
def kept (sf : CSaFile) (sppID : UInt8) : Option SppNode :=
  if h : sppID.toNat < 255 then sf.all ⟨sppID.toNat, h⟩ else none

/-- The association is not loaded, or its value is not 255 and no earlier load has left a handle for it. -/
def CallSpared (sf : CSaFile) : Call → Prop
  | .readSa _ => True
  | .spp sppID =>
    sf.spps sppID = none ∨ (sppID ≠ 255 ∧ ∀ this, sf.kept sppID = some this → this.load = sf.loads)

/-- Every call of the sequence is right, each on the wrapper that the ones before it leave. -/
def RunRight (sf : CSaFile) : List Call → Prop
  | [] => True
  | c :: rest => sf.CallRight c ∧ ∀ sf', sf.call c = some sf' → sf'.RunRight rest

def RunSpared (sf : CSaFile) : List Call → Prop
  | [] => True
  | c :: rest => sf.CallSpared c ∧ ∀ sf', sf.call c = some sf' → sf'.RunSpared rest

/-- The wrapper after a sequence. -/
def run (sf : CSaFile) (calls : List Call) : Option CSaFile := calls.foldlM call sf

/-! ## What a call does -/

/-- Every handle is for its own place. -/
def Placed (sf : CSaFile) : Prop :=
  ∀ i this, sf.all i = some this → this.id.toNat = i

theorem placed_alloc : alloc.Placed := by
  intro i this h
  simp [alloc] at h

variable {sf sf' : CSaFile} {sppID : UInt8}

theorem Placed.kept (h : sf.Placed) {this : SppNode} (hkept : sf.kept sppID = some this) :
    this.id = sppID := by
  unfold CSaFile.kept at hkept
  split at hkept
  next hlt => exact UInt8.toNat_inj.1 (h _ this hkept)
  next => simp at hkept

theorem lt_of_ne_255 (h : sppID ≠ 255) : sppID.toNat < 255 := by
  have hlt := sppID.toNat_lt
  have hne : sppID.toNat ≠ 255 := fun heq => h (UInt8.toNat_inj.1 heq)
  omega

theorem spp_null (h : sf.spps sppID = none) : sf.spp sppID = (.null, sf) := by
  simp [spp, h]

theorem spp_behind (h : sf.spps 255 ≠ none) : sf.spp 255 = (.behind, sf) := by
  simp [spp, Option.isSome_iff_ne_none.2 h]

theorem spp_kept {this : SppNode} (h : sf.spps sppID ≠ none) (hkept : sf.kept sppID = some this) :
    sf.spp sppID = (.wrapper this, sf) := by
  unfold kept at hkept
  split at hkept
  next hlt => simp [spp, Option.isSome_iff_ne_none.2 h, hlt, hkept]
  next => simp at hkept

/-- The first call for an spp value makes a handle of what is loaded then. -/
theorem spp_new (h : sf.spps sppID ≠ none) (hid : sppID ≠ 255) (hkept : sf.kept sppID = none) :
    sf.spp sppID = (.wrapper ⟨sf.loads, sppID⟩, { sf with
      all := Function.update sf.all ⟨sppID.toNat, lt_of_ne_255 hid⟩ (some ⟨sf.loads, sppID⟩) }) := by
  have hlt := lt_of_ne_255 hid
  unfold kept at hkept
  rw [dif_pos hlt] at hkept
  simp [spp, Option.isSome_iff_ne_none.2 h, hlt, hkept]

/-- The four ways a call for an spp value can go. -/
theorem spp_cases (sf : CSaFile) (sppID : UInt8) :
    sf.spps sppID = none ∨ (sf.spps sppID ≠ none ∧ (sppID = 255 ∨
      (∃ this, sppID ≠ 255 ∧ sf.kept sppID = some this) ∨ (sppID ≠ 255 ∧ sf.kept sppID = none))) := by
  by_cases hnone : sf.spps sppID = none
  · exact .inl hnone
  · refine .inr ⟨hnone, ?_⟩
    by_cases hid : sppID = 255
    · exact .inl hid
    · cases hkept : sf.kept sppID with
      | none => exact .inr (.inr ⟨hid, rfl⟩)
      | some this => exact .inr (.inl ⟨this, hid, rfl⟩)

theorem Placed.call {c : Call} (h : sf.Placed) (hcall : sf.call c = some sf') : sf'.Placed := by
  cases c with
  | readSa file =>
    -- the handles stay
    have hall : sf'.all = sf.all := by
      simp only [CSaFile.call, readSa, Option.map_map, Option.map_eq_some_iff, Function.comp_apply] at hcall
      obtain ⟨r, -, rfl⟩ := hcall
      split <;> rfl
    intro i this hi
    rw [hall] at hi
    exact h i this hi
  | spp sppID =>
    simp only [CSaFile.call, Option.some.injEq] at hcall
    subst hcall
    rcases sf.spp_cases sppID with hnone | ⟨hsome, rfl | ⟨this, hid, hkept⟩ | ⟨hid, hkept⟩⟩
    · rw [spp_null hnone]
      exact h
    · rw [spp_behind hsome]
      exact h
    · rw [spp_kept hsome hkept]
      exact h
    · rw [spp_new hsome hid hkept]
      intro i this hi
      by_cases hplace : i = ⟨sppID.toNat, lt_of_ne_255 hid⟩
      · subst hplace
        simp only [Function.update_self, Option.some.injEq] at hi
        rw [← hi]
      · simp only [Function.update_of_ne hplace] at hi
        exact h i this hi

/-! ## When the handle is right -/

theorem callRight_iff (h : sf.Placed) (c : Call) : sf.CallRight c ↔ sf.CallSpared c := by
  cases c with
  | readSa file => exact Iff.rfl
  | spp sppID =>
    simp only [CallRight, CallSpared]
    rcases sf.spp_cases sppID with hnone | ⟨hsome, rfl | ⟨this, hid, hkept⟩ | ⟨hid, hkept⟩⟩
    · simp [spp_null hnone, hnone, shows]
    · simp [spp_behind hsome, hsome, shows]
    · obtain ⟨s, hs⟩ := Option.ne_none_iff_exists'.1 hsome
      have hown := h.kept hkept
      rw [spp_kept hsome hkept]
      by_cases hload : this.load = sf.loads
      · simp [shows, hload, hown, hs, hid, hkept]
      · simp [shows, hload, hs, hkept]
    · obtain ⟨s, hs⟩ := Option.ne_none_iff_exists'.1 hsome
      rw [spp_new hsome hid hkept]
      simp [shows, hs, hid, hkept]

/-- **The exact sequences in which every handle is right**: none of them asks for the value 255 while it is loaded,
    or for a value that is loaded again after a handle was made for it. -/
theorem runRight_iff_of_placed (h : sf.Placed) (calls : List Call) :
    sf.RunRight calls ↔ sf.RunSpared calls := by
  induction calls generalizing sf with
  | nil => exact Iff.rfl
  | cons c rest ih =>
    refine and_congr (callRight_iff h c) (forall_congr' fun sf' => ?_)
    exact imp_congr_right fun hcall => ih (h.call hcall)

theorem runRight_alloc_iff (calls : List Call) : alloc.RunRight calls ↔ alloc.RunSpared calls :=
  runRight_iff_of_placed placed_alloc calls

theorem RunSpared.last {pre : List Call} {c : Call} (h : sf.RunSpared (pre ++ [c]))
    (hrun : sf.run pre = some sf') : sf'.CallSpared c := by
  induction pre generalizing sf with
  | nil =>
    simp only [run, List.foldlM_nil, Option.pure_def, Option.some.injEq] at hrun
    exact hrun ▸ h.1
  | cons c' rest ih =>
    simp only [run, List.foldlM_cons, Option.bind_eq_bind, Option.bind_eq_some_iff] at hrun
    obtain ⟨next, hcall, hrest⟩ := hrun
    exact ih (h.2 next hcall) hrest

/-- The pool of one association, for the spp value `id`. -/
def poolOf (id : String) : Text :=
  txt "[security_association]\n" ++ txt "spp " ++ txt id ++ txt "\n1 SHA256 a\n"

/-- The handle for 3 is asked for, the pool is read again, and the handle for 3 is the old one; the handle for 255
    is no handle at all. -/
theorem not_runRight_reload :
    ¬ alloc.RunRight ([.readSa (some (poolOf "3")), .spp 3, .readSa (some (poolOf "3"))] ++ [.spp 3]) ∧
      ¬ alloc.RunRight ([.readSa (some (poolOf "255"))] ++ [.spp 255]) := by
  constructor
  · intro h
    have hstate : ((alloc.run [.readSa (some (poolOf "3")), .spp 3, .readSa (some (poolOf "3"))]).any
        fun sf => (sf.spps 3).isSome && sf.kept 3 == some ⟨1, 3⟩ && sf.loads == 2) = true := by
      decide
    rw [Option.any_eq_true] at hstate
    obtain ⟨sf, hrun, hsf⟩ := hstate
    simp only [Bool.and_eq_true, beq_iff_eq] at hsf
    obtain ⟨⟨hsome, hkept⟩, hloads⟩ := hsf
    rcases ((runRight_iff_of_placed placed_alloc _).1 h).last hrun with hnone | ⟨-, hload⟩
    · rw [hnone] at hsome
      cases hsome
    · have hfirst : 1 = sf.loads := hload _ hkept
      omega
  · intro h
    have hstate : ((alloc.run [.readSa (some (poolOf "255"))]).any fun sf => (sf.spps 255).isSome) = true := by
      decide
    rw [Option.any_eq_true] at hstate
    obtain ⟨sf, hrun, hsome⟩ := hstate
    rcases ((runRight_iff_of_placed placed_alloc _).1 h).last hrun with hnone | ⟨hne, -⟩
    · rw [hnone] at hsome
      cases hsome
    · exact hne rfl

end CSaFile

end Cfg

end PtpMgmt
