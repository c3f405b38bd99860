import PtpMgmt.Json.Layout
import PtpMgmt.Json.Access

set_option autoImplicit false

/-! # Looking up the members of a document

Whatever order the members of an object come in, a key that stands once finds its value, and the values are
those that the texts denote. -/

namespace PtpMgmt.Json

theorem insertMember_perm (key : Text) (e : Value) (ms : List (Text × Value)) :
    (insertMember key e ms).Perm ((key, e) :: ms) := by
  induction ms with
  | nil => exact List.Perm.refl _
  | cons m ms ih =>
      rw [insertMember]
      split
      · exact List.Perm.refl _
      · exact (ih.cons m).trans (List.Perm.swap _ _ _)

/-- The entry that a member of a document makes. -/
def Doc.entry (m : String × Doc) : Text × Value := (txt m.1, m.2.value)

theorem membersValue_perm (ms : List (String × Doc)) (acc : List (Text × Value)) :
    (membersValue acc ms).Perm (ms.map Doc.entry ++ acc) := by
  induction ms generalizing acc with
  | nil =>
      rw [membersValue]
      exact List.Perm.refl _
  | cons m ms ih =>
      obtain ⟨name, d⟩ := m
      rw [membersValue]
      exact (ih _).trans ((List.Perm.append_left _ (insertMember_perm _ _ _)).trans List.perm_middle)

theorem insertAll_perm (ms : List Member) (acc : List (Text × Value)) :
    (insertAll ms acc).Perm (ms.map Member.entry ++ acc) := by
  induction ms generalizing acc with
  | nil => exact List.Perm.refl _
  | cons m ms ih =>
      rw [insertAll, List.foldl_cons]
      exact (ih _).trans ((List.Perm.append_left _ (insertMember_perm _ _ _)).trans List.perm_middle)

/-- A key that no member has. -/
theorem count_eq_zero {ms : List (Text × Value)} {key : Text} (h : key ∉ ms.map Prod.fst) :
    count ms key = 0 := by
  rw [count, List.countP_eq_zero]
  intro m hm heq
  exact h (List.mem_map.2 ⟨m, hm, beq_iff_eq.1 heq⟩)

/-- **Among keys that are all different, each one finds its value.** -/
theorem findMember_of_mem {ms : List (Text × Value)} (hnd : (ms.map Prod.fst).Nodup) {key : Text} {v : Value}
    (hmem : (key, v) ∈ ms) : findMember ms key = some v := by
  induction ms with
  | nil => cases hmem
  | cons m ms ih =>
      rw [List.map_cons, List.nodup_cons] at hnd
      rw [findMember, count, List.countP_cons, List.find?_cons]
      rcases List.mem_cons.1 hmem with rfl | hmem
      · have hnone : ms.countP (fun m => m.1 == key) = 0 := count_eq_zero hnd.1
        rw [hnone, beq_self_eq_true]
        rfl
      · have hne : (m.1 == key) = false := by
          rw [beq_eq_false_iff_ne]
          rintro rfl
          exact hnd.1 (List.mem_map.2 ⟨_, hmem, rfl⟩)
        have hfound := ih hnd.2 hmem
        rw [findMember, count] at hfound
        rw [hne]
        exact hfound

theorem findMember_of_perm {ms es : List (Text × Value)} (hperm : ms.Perm es)
    (hnd : (es.map Prod.fst).Nodup) {key : Text} {v : Value} (hmem : (key, v) ∈ es) :
    findMember ms key = some v :=
  findMember_of_mem ((hperm.map _).nodup_iff.2 hnd) (hperm.mem_iff.2 hmem)

/-- A document whose names are all different gives each of them its value. -/
theorem findMember_membersValue {ms : List (String × Doc)} (hnd : (ms.map fun m => txt m.1).Nodup)
    {name : String} {d : Doc} (hmem : (name, d) ∈ ms) :
    findMember (membersValue [] ms) (txt name) = some d.value := by
  have hperm := membersValue_perm ms []
  rw [List.append_nil] at hperm
  refine findMember_of_perm hperm ?_ (List.mem_map.2 ⟨_, hmem, rfl⟩)
  rw [List.map_map]
  exact hnd

/-- A text denotes one value. -/
theorem Denotes.unique {t : Text} {v v' : Value} (h : Denotes t v) (h' : Denotes t v') : v = v' := by
  have hparse := h.parseBuffer spaces_nil spaces_nil false
  have hparse' := h'.parseBuffer spaces_nil spaces_nil false
  rw [hparse, Option.some.injEq, Option.some.injEq] at hparse'
  exact hparse'

end PtpMgmt.Json
