import Mathlib.Data.Finset.Basic
import Mathlib.Data.Finset.Option
import Mathlib.Data.List.Infix

set_option autoImplicit false

/-! # The memory of a C TLV (`ptpmgmt_tlv_mem`)

A C TLV comes with a pool of blocks that its texts and tables live in. The pool is a vector of wrappers that
release their block when they are destroyed. A wrapper can be moved into a new one, but assigning to a wrapper
leaves it as it is, and that is what erasing from the middle of a vector is made of. -/

namespace PtpMgmt.TlvMem

/-! ## `std::vector::erase` -/

section Vector

variable {α : Type} (assign : α → α → α)

/-- Every element is assigned the one behind it; the last one stays. -/
def shift : List α → List α
  | a :: b :: l => assign a b :: shift (b :: l)
  | l => l

/-- `erase` of the element at a place: what the vector holds, and the element that is destroyed. -/
def vectorErase (l : List α) (place : Nat) : List α × Option α :=
  let shifted := l.take place ++ shift assign (l.drop place)
  (shifted.dropLast, shifted.getLast?)

end Vector

/-- An assignment that does nothing shifts nothing. -/
theorem shift_left {α : Type} (l : List α) : shift (fun a _ => a) l = l := by
  induction l with
  | nil => rfl
  | cons a l ih =>
    cases l with
    | nil => rfl
    | cons b l => rw [shift, ih]

theorem vectorErase_left {α : Type} (l : List α) (place : Nat) :
    vectorErase (fun a _ => a) l place = (l.dropLast, l.getLast?) := by
  rw [vectorErase, shift_left, List.take_append_drop]

/-! ## The pool -/

/-- A block of the heap. -/
abbrev Block := Nat

/-- `ptpmgmt_tlv_mem_t`: whether there is a TLV, and the wrapped pointers of `_memHndl`. -/
structure Mem where
  haveTlv : Bool
  nalc : List Block
  deriving DecidableEq

/-- `unq_cptr::operator=`. -/
def assignCptr (self _o : Block) : Block := self

theorem vectorErase_assignCptr (l : List Block) (place : Nat) :
    vectorErase assignCptr l place = (l.dropLast, l.getLast?) := vectorErase_left l place

/-- `ptpmgmt_tlv_mem_alloc`. -/
def alloc : Mem := ⟨false, []⟩

/-- The calls, with the block that `malloc` or `realloc` gives if it is asked. -/
inductive Call
  | newTlv (ok : Bool)
  | clear
  | allocMem (size : UInt64) (m : Option Block)
  | callocMem (number size : UInt64) (m : Option Block)
  | reallocMem (memory : Option Block) (size : UInt64) (m : Option Block)
  | freeMem (mem : Option Block)

/-- What a call leaves, the block it returns and the blocks it releases. -/
structure Effect where
  mem : Mem
  returned : Option Block
  released : List Block
  deriving DecidableEq

namespace Mem

/-- Nothing happens. -/
def stay (self : Mem) : Effect := ⟨self, none, []⟩

/-- `ptpmgmt_tlv_mem_clear`. -/
def clear (self : Mem) : Effect := ⟨⟨false, []⟩, none, self.nalc⟩

/-- `ptpmgmt_tlv_mem_newTlv`, where the TLV of the id is allocated or not. -/
def newTlv (self : Mem) (ok : Bool) : Effect := if ok then ⟨⟨true, []⟩, none, self.nalc⟩ else self.stay

/-- `ptpmgmt_tlv_mem_allocMem`. -/
def allocMem (self : Mem) (size : UInt64) (m : Option Block) : Effect :=
  if size > 0 ∧ self.haveTlv then
    match m with
    | none => self.stay
    | some b => ⟨{ self with nalc := self.nalc ++ [b] }, some b, []⟩
  else self.stay

/-- `ptpmgmt_tlv_mem_callocMem`. -/
def callocMem (self : Mem) (number size : UInt64) (m : Option Block) : Effect :=
  if number > 0 ∧ size > 0 ∧ self.haveTlv then self.allocMem (number * size) m else self.stay

/-- `ptpmgmt_tlv_mem_reallocMem`. The block that is reallocated is gone where another one is returned. -/
def reallocMem (self : Mem) (memory : Option Block) (size : UInt64) (m : Option Block) : Effect :=
  if size > 0 ∧ self.haveTlv then
    match memory with
    | none => self.allocMem size m
    | some p =>
      match self.nalc.idxOf? p, m with
      | some place, some b =>
        ⟨{ self with nalc := self.nalc.set place b }, some b, if b = p then [] else [p]⟩
      | _, _ => self.stay
  else self.stay

/-- `ptpmgmt_tlv_mem_freeMem`. -/
def freeMem (self : Mem) (mem : Option Block) : Effect :=
  match mem with
  | none => self.stay
  | some p =>
    match self.nalc.idxOf? p with
    | none => self.stay
    | some place =>
      let r := vectorErase assignCptr self.nalc place
      ⟨{ self with nalc := r.1 }, none, r.2.toList⟩

/-- One call. -/
def step (self : Mem) : Call → Effect
  | .newTlv ok => self.newTlv ok
  | .clear => self.clear
  | .allocMem size m => self.allocMem size m
  | .callocMem number size m => self.callocMem number size m
  | .reallocMem memory size m => self.reallocMem memory size m
  | .freeMem mem => self.freeMem mem

end Mem

/-! ## Runs -/

/-- The pool, and the blocks that were returned and are not released yet. -/
structure State where
  mem : Mem
  held : Finset Block

/-- The state after a call. -/
def State.next (s : State) (c : Call) : State :=
  let e := s.mem.step c
  ⟨e.mem, (s.held \ e.released.toFinset) ∪ e.returned.toFinset⟩

/-- The state after the calls. -/
def run (calls : List Call) : State := calls.foldl State.next ⟨alloc, ∅⟩

/-- What `malloc` and `realloc` promise: a block that they give is no block that is held, apart from the one
    that is reallocated. -/
def Fresh (held : Finset Block) : Call → Prop
  | .newTlv _ | .clear | .freeMem _ => True
  | .allocMem _ m | .callocMem _ _ m => ∀ b ∈ m, b ∉ held
  | .reallocMem memory _ m => ∀ b ∈ m, b ∉ held ∨ memory = some b

/-- The list has exactly the blocks that are held, each one once. -/
structure Tracks (s : State) : Prop where
  nodup : s.mem.nalc.Nodup
  mem_iff : ∀ b, b ∈ s.mem.nalc ↔ b ∈ s.held

/-- What a free releases: a block of the pool, and nothing for a foreign one. -/
def FreesOnly (s : State) : Call → Prop
  | .freeMem (some p) => (s.mem.step (.freeMem (some p))).released = if p ∈ s.mem.nalc then [p] else []
  | _ => True

/-! ## One call -/

/-- Where no element is there twice, the one that is overwritten is gone. -/
theorem mem_set_iff {α : Type} {l : List α} (nodup : l.Nodup) {place : Nat} (hlt : place < l.length) (b x : α) :
    x ∈ l.set place b ↔ x = b ∨ (x ∈ l ∧ x ≠ l[place]) := by
  obtain ⟨l₁, l₂, hl, -, hset⟩ : ∃ l₁ l₂, l = l₁ ++ l[place] :: l₂ ∧ l₁.length = place ∧
      l.set place b = l₁ ++ b :: l₂ := List.exists_of_set hlt
  rw [hset]
  generalize l[place] = p at hl ⊢
  subst hl
  have hp : p ∉ l₁ ++ l₂ := (List.nodup_cons.mp (List.nodup_middle.mp nodup)).1
  have hne : ∀ y ∈ l₁ ++ l₂, y ≠ p := fun y hy he => hp (he ▸ hy)
  constructor
  · intro hx
    rcases List.mem_append.mp hx with h1 | h1
    · exact .inr ⟨List.mem_append_left _ h1, hne x (List.mem_append_left _ h1)⟩
    · rcases List.mem_cons.mp h1 with h1 | h1
      · exact .inl h1
      · exact .inr ⟨List.mem_append_right _ (List.mem_cons_of_mem _ h1), hne x (List.mem_append_right _ h1)⟩
  · rintro (rfl | ⟨hx, hxp⟩)
    · simp
    · simpa [hxp, or_left_comm] using Or.inr (a := x = b) (by simpa [hxp] using hx)

section OneCall

variable {s : State}

theorem State.next_stay (s : State) (c : Call) (h : s.mem.step c = s.mem.stay) : s.next c = s := by
  simp [State.next, h, Mem.stay]

/-- A call that gives a new block puts it at the end. -/
theorem Tracks.push (h : Tracks s) {c : Call} {b : Block} (fresh : b ∉ s.held)
    (he : s.mem.step c = ⟨{ s.mem with nalc := s.mem.nalc ++ [b] }, some b, []⟩) : Tracks (s.next c) := by
  have hb : b ∉ s.mem.nalc := fun hm => fresh ((h.mem_iff b).mp hm)
  refine ⟨?_, ?_⟩
  · simp only [State.next, he]
    exact List.nodup_append.mpr ⟨h.nodup, List.nodup_singleton b, by
      intro x hx y hy hxy
      rw [List.mem_singleton] at hy
      subst hy hxy
      exact hb hx⟩
  · intro x
    simp [State.next, he, h.mem_iff x, or_comm]

theorem Tracks.allocMem (h : Tracks s) {c : Call} {size : UInt64} {m : Option Block}
    (fresh : ∀ b ∈ m, b ∉ s.held) (he : s.mem.step c = s.mem.allocMem size m) : Tracks (s.next c) := by
  unfold Mem.allocMem at he
  split_ifs at he
  · cases m with
    | none => rwa [s.next_stay c he]
    | some b => exact h.push (fresh b rfl) he
  · rwa [s.next_stay c he]

/-- A call that empties the list releases every block. -/
theorem Tracks.dropped (h : Tracks s) {c : Call} {haveTlv : Bool}
    (he : s.mem.step c = ⟨⟨haveTlv, []⟩, none, s.mem.nalc⟩) : Tracks (s.next c) := by
  refine ⟨?_, ?_⟩
  · simp [State.next, he]
  · intro b
    have := h.mem_iff b
    simp only [State.next, he, List.not_mem_nil, Finset.mem_union, Finset.mem_sdiff, List.mem_toFinset,
      Option.toFinset_none, Finset.notMem_empty, or_false, false_iff, not_and, not_not]
    exact this.mpr

/-- A call that gives a block in the place of another one. -/
theorem Tracks.replace (h : Tracks s) {c : Call} {p b : Block} {place : Nat}
    (hplace : s.mem.nalc[place]? = some p) (fresh : b ∉ s.held ∨ b = p)
    (he : s.mem.step c =
      ⟨{ s.mem with nalc := s.mem.nalc.set place b }, some b, if b = p then [] else [p]⟩) :
    Tracks (s.next c) := by
  obtain ⟨hlt, hp⟩ := List.getElem?_eq_some_iff.mp hplace
  rcases eq_or_ne b p with rfl | hne
  · -- the block stays where it is
    have hset : s.mem.nalc.set place b = s.mem.nalc := by rw [← hp, List.set_getElem_self]
    have hin : b ∈ s.held := (h.mem_iff b).mp (List.mem_of_getElem? hplace)
    refine ⟨?_, ?_⟩
    · simpa [State.next, he, hset] using h.nodup
    · intro x
      simp only [State.next, he, hset, if_true, h.mem_iff x, List.toFinset_nil, Finset.sdiff_empty,
        Option.toFinset_some, Finset.mem_union, Finset.mem_singleton]
      exact ⟨Or.inl, fun hx => hx.elim id fun hxb => hxb ▸ hin⟩
  · have hnew : b ∉ s.held := fresh.resolve_right hne
    have hb : b ∉ s.mem.nalc := fun hm => hnew ((h.mem_iff b).mp hm)
    refine ⟨?_, ?_⟩
    · simp only [State.next, he]
      exact h.nodup.set hb
    · intro x
      simp only [State.next, he, if_neg hne, List.toFinset_cons, List.toFinset_nil, Option.toFinset_some,
        Finset.mem_union, Finset.mem_sdiff, Finset.mem_singleton, insert_empty_eq, ← h.mem_iff x,
        mem_set_iff h.nodup hlt, hp]
      exact or_comm

/-- Freeing a block of the pool drops the last block of the list, whichever block it is. -/
theorem Tracks.pop (h : Tracks s) {c : Call}
    (he : s.mem.step c = ⟨{ s.mem with nalc := s.mem.nalc.dropLast }, none, s.mem.nalc.getLast?.toList⟩) :
    Tracks (s.next c) := by
  rcases List.eq_nil_or_concat s.mem.nalc with hnil | ⟨l, b, hl⟩
  · have : s.next c = s := by
      rcases s with ⟨⟨t, n⟩, held⟩
      simp_all [State.next]
    rwa [this]
  · have hnodup := h.nodup
    rw [hl, List.concat_eq_append, List.nodup_append] at hnodup
    refine ⟨?_, ?_⟩
    · simpa [State.next, he, hl] using hnodup.1
    · intro x
      have hx := h.mem_iff x
      have hne : ∀ y ∈ l, y ≠ b := fun y hy => hnodup.2.2 y hy b (List.mem_singleton_self b)
      simp only [hl, List.concat_eq_append, List.mem_append, List.mem_singleton] at hx
      simp only [State.next, he, hl, List.concat_eq_append, List.dropLast_concat, List.getLast?_concat,
        Option.toList_some, List.toFinset_cons, List.toFinset_nil, insert_empty_eq, Option.toFinset_none,
        Finset.union_empty, Finset.mem_sdiff, Finset.mem_singleton, ← hx]
      constructor
      · intro hxl
        exact ⟨.inl hxl, hne x hxl⟩
      · rintro ⟨hxl | hxb, hxne⟩
        · exact hxl
        · exact absurd hxb hxne

theorem Tracks.freeMem (h : Tracks s) (mem : Option Block) : Tracks (s.next (.freeMem mem)) := by
  cases mem with
  | none => rwa [s.next_stay _ rfl]
  | some p =>
    cases hplace : s.mem.nalc.idxOf? p with
    | none =>
      rwa [s.next_stay]
      simp [Mem.step, Mem.freeMem, hplace]
    | some place =>
      refine h.pop ?_
      simp [Mem.step, Mem.freeMem, hplace, vectorErase_assignCptr]

theorem Tracks.reallocMem (h : Tracks s) {memory : Option Block} {size : UInt64} {m : Option Block}
    (fresh : Fresh s.held (.reallocMem memory size m)) : Tracks (s.next (.reallocMem memory size m)) := by
  by_cases hsize : size > 0 ∧ s.mem.haveTlv = true
  · cases memory with
    | none =>
      have he : s.mem.step (.reallocMem none size m) = s.mem.allocMem size m := by
        rw [Mem.step, Mem.reallocMem, if_pos hsize]
      refine h.allocMem ?_ he
      intro b hb
      exact (fresh b hb).resolve_right (by simp)
    | some p =>
      cases hplace : s.mem.nalc.idxOf? p with
      | none =>
        rwa [s.next_stay]
        simp [Mem.step, Mem.reallocMem, hplace]
      | some place =>
        cases m with
        | none =>
          rwa [s.next_stay]
          simp [Mem.step, Mem.reallocMem, hplace]
        | some b =>
          obtain ⟨hlt, hp, -⟩ := List.idxOf?_eq_some_iff.mp hplace
          refine h.replace (b := b) (List.getElem?_eq_some_iff.mpr ⟨hlt, hp⟩) ?_ ?_
          · exact (fresh b rfl).imp_right fun he => (Option.some.inj he).symm
          · simp [Mem.step, Mem.reallocMem, hsize, hplace]
  · rwa [s.next_stay]
    simp [Mem.step, Mem.reallocMem, hsize]

/-- Every call leaves the list with exactly the blocks that are held, also a free that releases the wrong one:
    what it releases is what the list loses. -/
theorem Tracks.next (h : Tracks s) {c : Call} (fresh : Fresh s.held c) : Tracks (s.next c) := by
  cases c with
  | newTlv ok =>
    cases ok with
    | true => exact h.dropped rfl
    | false => rwa [s.next_stay _ rfl]
  | clear => exact h.dropped rfl
  | allocMem size m => exact h.allocMem fresh rfl
  | callocMem number size m =>
    by_cases hsize : number > 0 ∧ size > 0 ∧ s.mem.haveTlv = true
    · have he : s.mem.step (.callocMem number size m) = s.mem.allocMem (number * size) m := by
        rw [Mem.step, Mem.callocMem, if_pos hsize]
      exact h.allocMem fresh he
    · rwa [s.next_stay]
      rw [Mem.step, Mem.callocMem, if_neg hsize]
  | reallocMem memory size m => exact h.reallocMem fresh
  | freeMem mem => exact h.freeMem mem

/-- A free releases what it was asked to release where that is the last block, and nothing else frees wrongly. -/
theorem freesOnly_iff (s : State) (p : Block) :
    FreesOnly s (.freeMem (some p)) ↔ (p ∈ s.mem.nalc → s.mem.nalc.getLast? = some p) := by
  unfold FreesOnly
  by_cases hp : p ∈ s.mem.nalc
  · obtain ⟨place, hplace⟩ := Option.isSome_iff_exists.mp (List.isSome_idxOf?.mpr hp)
    simp only [Mem.step, Mem.freeMem, hplace, vectorErase_assignCptr, hp, if_true, true_implies]
    cases s.mem.nalc.getLast? with
    | none => simp
    | some b => simp
  · have hplace : s.mem.nalc.idxOf? p = none := List.idxOf?_eq_none_iff.mpr hp
    simp [Mem.step, Mem.freeMem, hplace, Mem.stay, hp]

end OneCall

/-! ## The whole run -/

theorem run_append (before : List Call) (c : Call) : run (before ++ [c]) = (run before).next c := by
  rw [run, List.foldl_append]
  rfl

/-- What the calls of a run are promised by `malloc` and `realloc`. -/
def FreshRun (calls : List Call) : Prop :=
  ∀ before c after, calls = before ++ c :: after → Fresh (run before).held c

theorem freshRun_concat (calls : List Call) (c : Call) :
    FreshRun (calls ++ [c]) ↔ FreshRun calls ∧ Fresh (run calls).held c := by
  constructor
  · intro h
    refine ⟨?_, h calls c [] rfl⟩
    intro before d after hd
    refine h before d (after ++ [c]) ?_
    rw [hd, List.append_assoc, List.cons_append]
  · rintro ⟨h, hc⟩ before d after hd
    rcases List.eq_nil_or_concat after with rfl | ⟨rest, e, rfl⟩
    · obtain ⟨hcalls, hd⟩ := List.append_inj' hd rfl
      rwa [← hcalls, ← List.singleton_inj.mp hd]
    · rw [List.concat_eq_append, ← List.cons_append, ← List.append_assoc] at hd
      exact h before d rest (List.append_inj' hd rfl).1

theorem tracks_run (calls : List Call) (fresh : FreshRun calls) : Tracks (run calls) := by
  induction calls using List.reverseRecOn with
  | nil => exact ⟨List.nodup_nil, by simp [run, alloc]⟩
  | append_singleton calls c ih =>
    rw [run_append]
    obtain ⟨h, hc⟩ := (freshRun_concat calls c).mp fresh
    exact (ih h).next hc

theorem FreshRun.of_append {before after : List Call} (h : FreshRun (before ++ after)) : FreshRun before := by
  intro b d a hd
  refine h b d (a ++ after) ?_
  rw [hd, List.append_assoc, List.cons_append]

/-- A run in which the list has at every moment exactly the blocks that were returned and are not released yet,
    and in which every free releases what it was asked to and nothing else. -/
structure Right (calls : List Call) : Prop where
  tracks : ∀ before after, calls = before ++ after → Tracks (run before)
  frees : ∀ before c after, calls = before ++ c :: after → FreesOnly (run before) c

/-- Every block of the pool that is freed is the last one of the list then. -/
def FreesLast (calls : List Call) : Prop :=
  ∀ before p after, calls = before ++ .freeMem (some p) :: after →
    p ∈ (run before).mem.nalc → (run before).mem.nalc.getLast? = some p

/-- The list never loses track of the blocks; the frees are right where they are made from the end. -/
theorem right_iff_freesLast (calls : List Call) (fresh : FreshRun calls) : Right calls ↔ FreesLast calls := by
  constructor
  · intro h before p after hcalls
    exact (freesOnly_iff _ p).mp (h.frees before _ after hcalls)
  · intro hlast
    refine ⟨?_, ?_⟩
    · rintro before after rfl
      exact tracks_run before fresh.of_append
    · intro before c after hcalls
      cases c with
      | freeMem mem =>
        cases mem with
        | none => trivial
        | some p => exact (freesOnly_iff _ p).mpr (hlast before p after hcalls)
      | _ => trivial

/-- Two blocks of a TLV. -/
def twoBlocks : List Call := [.newTlv true, .allocMem 8 (some 0), .allocMem 8 (some 1)]

theorem freshRun_twoBlocks (p : Block) : FreshRun (twoBlocks ++ [.freeMem (some p)]) := by
  refine (freshRun_concat _ _).mpr ⟨?_, trivial⟩
  refine (freshRun_concat [.newTlv true, .allocMem 8 (some 0)] _).mpr ⟨?_, ?_⟩
  · refine (freshRun_concat [.newTlv true] _).mpr ⟨?_, ?_⟩
    · refine (freshRun_concat [] _).mpr ⟨?_, trivial⟩
      intro before c after h
      simp at h
    · simp [Fresh, run, State.next, alloc, Mem.step, Mem.newTlv]
  · simp [Fresh, run, State.next, alloc, Mem.step, Mem.newTlv, Mem.allocMem]

theorem right_second : Right (twoBlocks ++ [.freeMem (some 1)]) := by
  refine (right_iff_freesLast _ (freshRun_twoBlocks 1)).mpr ?_
  intro before p after h
  rcases List.eq_nil_or_concat after with rfl | ⟨rest, c, rfl⟩
  · obtain ⟨rfl, hp⟩ := List.append_inj' h rfl
    obtain rfl : 1 = p := by simpa using hp
    decide
  · -- the calls before the last one are no frees
    rw [List.concat_eq_append, ← List.cons_append, ← List.append_assoc] at h
    have hmem : Call.freeMem (some p) ∈ twoBlocks := by
      rw [(List.append_inj' h rfl).1]
      exact List.mem_append_right _ List.mem_cons_self
    simp [twoBlocks] at hmem

/-- Freeing the first of two blocks releases the second one. -/
theorem not_right_first :
    FreshRun (twoBlocks ++ [.freeMem (some 0)]) ∧
      (run twoBlocks).mem.step (.freeMem (some 0)) = ⟨⟨true, [0]⟩, none, [1]⟩ ∧
      ¬ Right (twoBlocks ++ [.freeMem (some 0)]) := by
  refine ⟨freshRun_twoBlocks 0, by decide, ?_⟩
  intro h
  have hlast := (freesOnly_iff _ 0).mp (h.frees twoBlocks _ [] rfl)
  revert hlast
  decide

end PtpMgmt.TlvMem
