import PtpMgmt.Json.Escape

set_option autoImplicit false

/-! # Printing and parsing

What the parser gives can be printed and parsed again: the text of a number is one that the scanner takes
as it is, the members of an object are in their order, and strings are escaped. -/

namespace PtpMgmt.Json

/-! ## Numbers -/

/-- The scanner over some characters. -/
def feed (st : NumState) : Text → Option NumState
  | [] => some st
  | c :: t => (st.next c).bind fun st => feed st t

/-- Right after the exponent sign nothing else has been seen, so a plus sign there changes nothing. -/
structure NumState.Sane (st : NumState) : Prop where
  loc : st.eLoc < st.loc
  fresh : st.eLoc ≠ 0 → st.loc = st.eLoc + 1 → st.zeroProhib = true ∧ st.lastNotDigit = true

/-- A character that is kept is added to the text. -/
theorem next_cases {st st' : NumState} {c : UInt8} (hst : st.Sane) (h : st.next c = some st') :
    st'.Sane ∧ (st' = st ∧ c = chr '+' ∧ st.eLoc ≠ 0 ∨ st'.ret = st.ret ++ [c]) := by
  unfold NumState.next at h
  have hloc := hst.loc
  split at h
  · split at h
    · cases h
    · cases h
      exact ⟨⟨Nat.lt_succ_self _, fun _ _ => ⟨rfl, rfl⟩⟩, .inr rfl⟩
  · split at h
    · split at h
      · cases h
      · next hno =>
          cases h
          exact ⟨⟨by simp only; omega, fun he => absurd he (by simp only; omega)⟩, .inr rfl⟩
    · split at h
      · split at h
        · cases h
        · next hafter =>
            rw [not_or, not_not] at hafter
            obtain ⟨hzero, hnot⟩ := hst.fresh hafter.1 hafter.2
            split at h
            · next hplus =>
                cases h
                have hsame : { st with zeroProhib := true, lastNotDigit := true } = st := by
                  cases st
                  simp_all
                rw [hsame]
                exact ⟨hst, .inl ⟨rfl, hplus, hafter.1⟩⟩
            · cases h
              exact ⟨⟨by simp only; omega, fun _ he => absurd he (by simp only; omega)⟩, .inr rfl⟩
      · split at h
        · cases h
        · cases h
          exact ⟨⟨by simp only; omega, fun _ he => absurd he (by simp only; omega)⟩, .inr rfl⟩

/-- The characters of a number. -/
def NumChars (t : Text) : Prop := ∀ c ∈ t, isDelim c = false ∧ c ≠ 0

/-- What the scanner keeps, it would take again. -/
theorem getNumLoop_feed {st st' : NumState} {cur cur' : Text} (hst : st.Sane)
    (h : getNumLoop st cur = some (st', cur')) :
    ∃ t, st'.ret = st.ret ++ t ∧ feed st t = some st' ∧ st'.lastNotDigit = false ∧ NumChars t ∧
      (st.eLoc = 0 → t ≠ [] → ∃ cur₁, isEOF cur = some cur₁ ∧ peek cur₁ = peek t) := by
  fun_induction getNumLoop st cur with
  | case1 => cases h
  | case2 st cur heof hlast =>
      cases h
      refine ⟨[], by simp, rfl, by simpa using hlast, ?_, fun _ hne => absurd rfl hne⟩
      intro c hc
      cases hc
  | case3 => cases h
  | case4 st cur cur₁ heof hdelim hlast =>
      cases h
      refine ⟨[], by simp, rfl, by simpa using hlast, ?_, fun _ hne => absurd rfl hne⟩
      intro c hc
      cases hc
  | case5 => cases h
  | case6 st cur cur₁ heof hdelim st₁ hnext ih =>
      obtain ⟨hsane, hkept⟩ := next_cases hst hnext
      obtain ⟨t, hret, hfeed, hlast, hchars, hpeek⟩ := ih hsane h
      rcases hkept with ⟨rfl, hplus, he⟩ | hadd
      · exact ⟨t, hret, hfeed, hlast, hchars, fun he' => absurd he' he⟩
      · refine ⟨peek cur₁ :: t, ?_, ?_, hlast, ?_, ?_⟩
        · rw [hret, hadd, List.append_assoc]
          rfl
        · rw [feed, hnext]
          exact hfeed
        · intro c hc
          rcases List.mem_cons.1 hc with rfl | hc
          · refine ⟨by simpa using hdelim, ?_⟩
            intro h0
            rw [h0] at hdelim
            exact hdelim (by decide)
          · exact hchars c hc
        · exact fun _ _ => ⟨cur₁, heof, rfl⟩

/-- The scanner over the text that is kept. -/
theorem getNumLoop_of_feed {st st' : NumState} {t r : Text} (hfeed : feed st t = some st')
    (hlast : st'.lastNotDigit = false) (hchars : NumChars t) (hr : Ends r) :
    getNumLoop st (t ++ r) = some (st', r) := by
  induction t generalizing st with
  | nil =>
      cases hfeed
      rw [List.nil_append]
      rcases hr with rfl | ⟨hdelim, h0⟩
      · rw [getNumLoop_none rfl, hlast]
        rfl
      · cases r with
        | nil => exact absurd rfl h0
        | cons d r =>
            rw [peek_cons] at hdelim h0
            rw [getNumLoop_some (isEOF_cons h0 r), peek_cons, if_pos hdelim, hlast]
            rfl
  | cons c t ih =>
      obtain ⟨hdelim, h0⟩ := hchars c List.mem_cons_self
      rw [feed, Option.bind_eq_some_iff] at hfeed
      obtain ⟨st₁, hnext, hfeed⟩ := hfeed
      rw [List.cons_append, getNumLoop_some (isEOF_cons h0 _), peek_cons, hdelim, hnext]
      exact ih hfeed fun d hd => hchars d (List.mem_cons_of_mem _ hd)

/-- What the number is after its first character is settled by the text that is kept. -/
theorem numText_of_feed {c : UInt8} {st₀ st : NumState} {t : Text} (hc : charToken c = .num)
    (hfirst : ∀ r, Ends r → NumState.first c (t ++ r) = some (st₀, t ++ r))
    (hfeed : feed st₀ t = some st) (hlast : st.lastNotDigit = false) (hchars : NumChars t)
    (hret : st.ret = c :: t) : NumText st.ret st.ret st.dotLoc st.eLoc := by
  have h0 : c ≠ 0 := by
    rintro rfl
    exact absurd hc (by decide)
  rw [hret]
  refine ⟨?_, hc, ?_⟩
  · intro d hd
    rcases List.mem_cons.1 hd with rfl | hd
    · exact h0
    · exact (hchars d hd).2
  · intro r hr
    refine ⟨st, ?_, hret, rfl, rfl⟩
    rw [List.cons_append, getNum, isEOF_cons h0]
    simp only [peek_cons, List.tail_cons, hfirst r hr]
    exact getNumLoop_of_feed hfeed hlast hchars hr

theorem sane_first {ret : Text} {haveZero lastNotDigit zeroProhib : Bool} {locZero : Nat} :
    NumState.Sane { ret, haveZero, locZero, lastNotDigit, zeroProhib } :=
  ⟨Nat.zero_lt_one, fun h => absurd rfl h⟩

theorem isEOF_of_plain {cur : Text} (hne : cur ≠ []) (hplain : Plain cur) :
    isEOF cur = some cur := by
  cases cur with
  | nil => exact absurd rfl hne
  | cons c r => exact isEOF_cons (hplain c List.mem_cons_self) r

/-- **The kept text of a number is read as the same number.** -/
theorem getNum_text {cur cur' : Text} {st : NumState} (hplain : Plain cur)
    (h : getNum cur = some (st, cur')) : NumText st.ret st.ret st.dotLoc st.eLoc := by
  cases cur with
  | nil => cases h
  | cons c cur =>
      rw [getNum, isEOF_cons (hplain c List.mem_cons_self)] at h
      simp only [peek_cons, List.tail_cons] at h
      -- without a minus sign the first character is all the scanner looks at
      have hkeep : ∀ {st₀ : NumState}, charToken c = .num → st₀.Sane → st₀.ret = [c] →
          (∀ r, NumState.first c r = some (st₀, r)) → NumText st.ret st.ret st.dotLoc st.eLoc := by
        intro st₀ hc hsane hret₀ hfirst
        rw [hfirst] at h
        obtain ⟨t, hret, hfeed, hlast, hchars, -⟩ := getNumLoop_feed hsane h
        rw [hret₀] at hret
        exact numText_of_feed hc (fun r _ => hfirst (t ++ r)) hfeed hlast hchars hret
      by_cases hzero : c = chr '0'
      · exact hkeep (by rw [hzero]; decide) sane_first rfl fun r => by rw [NumState.first, if_pos hzero]
      · by_cases hminus : c = chr '-'
        · have hne : cur ≠ [] := by
            rintro rfl
            rw [hminus] at h
            cases h
          have hrest := isEOF_of_plain hne fun d hd => hplain d (List.mem_cons_of_mem _ hd)
          rw [NumState.first, if_neg hzero, if_pos hminus, hrest] at h
          obtain ⟨t, hret, hfeed, hlast, hchars, hpeek⟩ := getNumLoop_feed sane_first h
          -- the next character was looked at too, and it is kept
          have ht : t ≠ [] := by
            rintro rfl
            cases hfeed
            cases hlast
          obtain ⟨cur₁, heof, hsame⟩ := hpeek rfl ht
          rw [hrest] at heof
          cases heof
          refine numText_of_feed (by rw [hminus]; decide) ?_ hfeed hlast hchars hret
          intro r _
          have hcur : isEOF (t ++ r) = some (t ++ r) := by
            cases t with
            | nil => exact absurd rfl ht
            | cons d t => exact isEOF_cons (hchars d List.mem_cons_self).2 _
          have hnext : peek (t ++ r) = peek cur := by
            cases t with
            | nil => exact absurd rfl ht
            | cons d t => exact hsame.symm
          rw [NumState.first, if_neg hzero, if_pos hminus, hcur, ← hnext]
        · by_cases hdigit : isDigit c = true
          · refine hkeep ?_ sane_first rfl fun r => by
              rw [NumState.first, if_neg hzero, if_neg hminus, if_pos hdigit]
            exact charToken_digit hdigit
          · rw [NumState.first, if_neg hzero, if_neg hminus, if_neg hdigit] at h
            cases h

/-! ## Members -/

/-- The members of an object in the order of a `std::multimap`. -/
def Sorted (ms : List (Text × Value)) : Prop := ms.Pairwise fun a b => ¬ b.1 < a.1

theorem mem_insertMember {key : Text} {e : Value} {ms : List (Text × Value)} {m : Text × Value} :
    m ∈ insertMember key e ms ↔ m = (key, e) ∨ m ∈ ms := by
  induction ms with
  | nil => simp [insertMember]
  | cons m' ms ih =>
      unfold insertMember
      split
      · simp
      · simp only [List.mem_cons, ih]
        tauto

theorem Sorted.insertMember {ms : List (Text × Value)} (h : Sorted ms) (key : Text) (e : Value) :
    Sorted (insertMember key e ms) := by
  induction ms with
  | nil => exact List.pairwise_singleton _ _
  | cons m ms ih =>
      obtain ⟨hm, hms⟩ := List.pairwise_cons.1 h
      unfold Json.insertMember
      split
      · next hlt =>
          refine List.pairwise_cons.2 ⟨?_, h⟩
          intro x hx
          rcases List.mem_cons.1 hx with rfl | hx
          · exact List.lt_asymm hlt
          · exact fun hlt' => hm x hx (List.lt_trans hlt' hlt)
      · next hge =>
          refine List.pairwise_cons.2 ⟨?_, ih hms⟩
          intro x hx
          rcases mem_insertMember.1 hx with rfl | hx
          · exact hge
          · exact hm x hx

/-- A member that is not smaller than the others goes to the end. -/
theorem insertMember_last {key : Text} {e : Value} {ms : List (Text × Value)}
    (h : ∀ m ∈ ms, ¬ key < m.1) : insertMember key e ms = ms ++ [(key, e)] := by
  induction ms with
  | nil => rfl
  | cons m ms ih =>
      rw [insertMember, if_neg (h m List.mem_cons_self), ih fun x hx => h x (List.mem_cons_of_mem _ hx)]
      rfl

/-- The key and the value of a member. -/
def Member.entry (m : Member) : Text × Value := (m.key, m.value)

/-- Members that come in their order stay in it. -/
theorem insertAll_sorted {ms : List Member} {acc : List (Text × Value)}
    (h : Sorted (acc ++ ms.map Member.entry)) : insertAll ms acc = acc ++ ms.map Member.entry := by
  induction ms generalizing acc with
  | nil => simp [insertAll]
  | cons m ms ih =>
      have hlast : insertMember m.key m.value acc = acc ++ [m.entry] := by
        refine insertMember_last ?_
        intro x hx
        exact (List.pairwise_append.1 h).2.2 x hx m.entry (by simp)
      have hsorted : Sorted (acc ++ [m.entry] ++ ms.map Member.entry) := by simpa using h
      have hrest := ih hsorted
      rw [List.map_cons, insertAll, List.foldl_cons, hlast]
      rw [insertAll] at hrest
      rw [hrest, List.append_assoc]
      rfl

/-! ## What the parser gives -/

/-- The values that a parser gives: the text of a number is the kept one, and members are in order. -/
inductive Canon : Value → Prop
  | str (val : Text) : Canon (.str val)
  | num {val : Text} {dotLoc eLoc : Nat} : NumText val val dotLoc eLoc → Canon (.num val dotLoc eLoc)
  | bool (b : Bool) : Canon (.bool b)
  | null : Canon .null
  | obj {ms : List (Text × Value)} : Sorted ms → (∀ m ∈ ms, Canon m.2) → Canon (.obj ms)
  | arr {es : List Value} : (∀ e ∈ es, Canon e) → Canon (.arr es)

structure GivesCanon (useComments : Bool) (n : Nat) : Prop where
  val : ∀ {tk cur v cur'}, Plain cur → parserVal useComments n tk cur = some (v, cur') → Canon v
  members : ∀ {ms cur v cur'}, Plain cur → Canon (.obj ms) →
    parserMembers useComments n ms cur = some (v, cur') → Canon v
  elements : ∀ {es tk cur v cur'}, Plain cur → Canon (.arr es) →
    parserElements useComments n es tk cur = some (v, cur') → Canon v

theorem canon_nil : Canon (.obj []) ∧ Canon (.arr []) := by
  refine ⟨.obj List.Pairwise.nil ?_, .arr ?_⟩
  · intro m hm
    cases hm
  · intro e he
    cases he

theorem Canon.insertMember {ms : List (Text × Value)} (h : Canon (.obj ms)) {e : Value} (he : Canon e)
    (key : Text) : Canon (.obj (Json.insertMember key e ms)) := by
  cases h with
  | obj hsorted hms =>
      refine .obj (hsorted.insertMember key e) ?_
      intro m hm
      rcases mem_insertMember.1 hm with rfl | hm
      · exact he
      · exact hms m hm

theorem Canon.append {es : List Value} (h : Canon (.arr es)) {e : Value} (he : Canon e) :
    Canon (.arr (es ++ [e])) := by
  cases h with
  | arr hes =>
      refine .arr ?_
      intro x hx
      rcases List.mem_append.1 hx with hx | hx
      · exact hes x hx
      · rw [List.mem_singleton.1 hx]
        exact he

theorem givesCanon (useComments : Bool) (n : Nat) : GivesCanon useComments n := by
  -- on the rounds; the text carries no zero, which every suffix of it keeps
  induction n with
  | zero =>
      refine ⟨fun _ h => ?_, fun _ _ h => ?_, fun _ _ h => ?_⟩
      · simp [parserVal] at h
      · simp [parserMembers] at h
      · simp [parserElements] at h
  | succ n ih =>
      have htok : ∀ {cur : Text}, Plain cur → Plain (getToken useComments cur).2 :=
        fun h => h.of_suffix (getToken_suffix useComments _)
      have htail : ∀ {cur : Text}, Plain cur → Plain cur.tail := fun h => h.of_suffix (List.tail_suffix _)
      refine ⟨?_, ?_, ?_⟩
      · intro tk cur v cur' hplain h
        cases tk <;> simp only [parserVal] at h
        case objSta =>
          split at h
          · cases h
            exact canon_nil.1
          · exact ih.members (htok (htail hplain)) canon_nil.1 h
        case arrSta =>
          split at h
          · cases h
            exact canon_nil.2
          · exact ih.elements (htok (htail hplain)) canon_nil.2 h
        case str =>
          simp only [Option.map_eq_some_iff, Prod.mk.injEq] at h
          obtain ⟨⟨val, cur₁⟩, -, rfl, -⟩ := h
          exact .str val
        case num =>
          simp only [Option.map_eq_some_iff, Prod.mk.injEq] at h
          obtain ⟨⟨st, cur₁⟩, hnum, rfl, -⟩ := h
          exact .num (getNum_text hplain hnum)
        case trueKey => cases h; exact .bool true
        case falseKey => cases h; exact .bool false
        case nullKey => cases h; exact .null
        all_goals cases h
      · intro ms cur v cur' hplain hms h
        simp only [parserMembers] at h
        split at h
        · cases h
        · split at h
          · cases h
          · next key cur₁ hkey =>
              have hplain₁ := (htok hplain).of_suffix ((List.suffix_cons _ _).trans (getStr_suffix hkey))
              split at h
              · cases h
              · split at h
                · cases h
                · next e cur₂ hval =>
                    have hvalue := htok (htail (htok hplain₁))
                    -- a name that was there before gets its new value, so the names stay apart
                    have hms' := hms.insertMember (ih.val hvalue hval) key
                    have hplain₂ := hvalue.of_suffix ((shrinks useComments n).val hval)
                    split at h
                    · cases h
                      exact hms'
                    · split at h
                      · exact ih.members (htail (htok hplain₂)) hms' h
                      · cases h
      · intro es tk cur v cur' hplain hes h
        simp only [parserElements] at h
        split at h
        · cases h
        · next e cur₁ hval =>
            have hes' := hes.append (ih.val hplain hval)
            have hplain₁ := hplain.of_suffix ((shrinks useComments n).val hval)
            split at h
            · cases h
              exact hes'
            · split at h
              · exact ih.elements (htok (htail (htok hplain₁))) hes' h
              · cases h

theorem parseBuffer_canon {useComments : Bool} {buffer : Text} {v : Value}
    (h : parseBuffer useComments buffer = some (some v)) : Canon v := by
  have hplain : Plain (buffer.takeWhile (· ≠ 0)) := by
    intro c hc
    simpa using List.mem_takeWhile_imp hc
  unfold parseBuffer at h
  split at h
  · cases h
  · unfold paresJson at h
    simp only at h
    split at h
    · cases h
    · split at h
      · cases h
      · next m cur'' hval =>
          split at h
          · cases h
            exact (givesCanon useComments _).val
              ((hplain.of_suffix (skipBOM_suffix _)).of_suffix (getToken_suffix useComments _)) hval
          · cases h

/-! ## What the printer gives -/

mutual

/-- All strings of a value, with the names of its members. -/
def Value.strings : Value → List Text
  | .str val => [val]
  | .obj members => memberStrings members
  | .arr elements => elementStrings elements
  | _ => []

def memberStrings : List (Text × Value) → List Text
  | [] => []
  | (key, v) :: ms => key :: (v.strings ++ memberStrings ms)

def elementStrings : List Value → List Text
  | [] => []
  | e :: es => e.strings ++ elementStrings es

end

theorem mem_memberStrings {ms : List (Text × Value)} {m : Text × Value} (hm : m ∈ ms) :
    m.1 ∈ memberStrings ms ∧ m.2.strings ⊆ memberStrings ms := by
  induction ms with
  | nil => cases hm
  | cons m' ms ih =>
      obtain ⟨key, v⟩ := m'
      rw [memberStrings]
      rcases List.mem_cons.1 hm with rfl | hm
      · exact ⟨List.mem_cons_self, fun s hs => List.mem_cons_of_mem _ (List.mem_append_left _ hs)⟩
      · obtain ⟨hkey, hval⟩ := ih hm
        refine ⟨List.mem_cons_of_mem _ (List.mem_append_right _ hkey), ?_⟩
        exact fun s hs => List.mem_cons_of_mem _ (List.mem_append_right _ (hval hs))

theorem mem_elementStrings {es : List Value} {e : Value} (he : e ∈ es) :
    e.strings ⊆ elementStrings es := by
  induction es with
  | nil => cases he
  | cons e' es ih =>
      rw [elementStrings]
      rcases List.mem_cons.1 he with rfl | he
      · exact List.subset_append_left _ _
      · exact fun s hs => List.mem_append_right _ (ih he hs)

theorem spaces_spec (n : Nat) : Spaces (spaces n) := by
  intro c hc
  rw [spaces, List.mem_replicate] at hc
  rw [hc.2]
  decide

theorem spaces_newline (n : Nat) : Spaces (chr '\n' :: spaces n) := by
  intro c hc
  rcases List.mem_cons.1 hc with rfl | hc
  · decide
  · exact spaces_spec n c hc

/-- The text of a value that is printed, after its indentation. -/
def Prints (v : Value) : Prop :=
  ∀ ident, ∃ w t, toString ident v = w ++ t ∧ Spaces w ∧ Denotes t v

/-- The line of a member, with the end of the line before it and with what stands after its value. -/
theorem member_line (ident : Nat) {key : Text} (hkey : Utf8 key) {v : Value} (hv : Prints v) {after : Text}
    (hafter : Spaces after) :
    ∃ M : Member, M.entry = (key, v) ∧ M.Ok ∧ Denotes M.text M.value ∧
      M.render = chr '\n' :: (spaces (2 * ident) ++ txt "  " ++ strToStr key ++ txt " : " ++
        toString (ident + 2) v ++ after) := by
  obtain ⟨body, hbody, hstr⟩ := hkey.strToStr
  obtain ⟨w, t, htext, hw, hden⟩ := hv (ident + 2)
  have hspace : Spaces (txt " ") := by decide
  have hbefore : Spaces (chr '\n' :: (spaces (2 * ident) ++ txt "  ")) :=
    (spaces_newline _).append (by decide)
  refine ⟨⟨chr '\n' :: (spaces (2 * ident) ++ txt "  "), body, key, txt " ", txt " " ++ w, t, v, after⟩, rfl,
    ⟨hbefore, hstr, hspace, hspace.append hw, hafter⟩, hden, ?_⟩
  simp [Member.render, hbody, htext, txt]

theorem memberLines_denotes (ident : Nat) {ms : List (Text × Value)} (hne : ms ≠ [])
    (hkeys : ∀ m ∈ ms, Utf8 m.1) (hms : ∀ m ∈ ms, Prints m.2) :
    ∃ Ms : List Member, Ms.map Member.entry = ms ∧ (∀ M ∈ Ms, M.Ok ∧ Denotes M.text M.value) ∧
      chr '\n' :: (memberLines ident ms ++ spaces (2 * ident)) = sepBy (Ms.map Member.render) := by
  induction ms with
  | nil => exact absurd rfl hne
  | cons m ms ih =>
      have hkey := hkeys m List.mem_cons_self
      have hval := hms m List.mem_cons_self
      cases ms with
      | nil =>
          -- the closing bracket has a line of its own
          obtain ⟨M, hentry, hok, hden, hrender⟩ := member_line ident hkey hval (spaces_newline (2 * ident))
          refine ⟨[M], by rw [List.map_singleton, hentry], ?_, ?_⟩
          · intro M' hM'
            rw [List.mem_singleton.1 hM']
            exact ⟨hok, hden⟩
          · rw [List.map_singleton, sepBy, hrender]
            simp [memberLines, txt]
      | cons m' ms =>
          obtain ⟨M, hentry, hok, hden, hrender⟩ := member_line ident hkey hval spaces_nil
          obtain ⟨Ms, hmap, hMs, hlines⟩ := ih (by simp) (fun x hx => hkeys x (List.mem_cons_of_mem _ hx))
            (fun x hx => hms x (List.mem_cons_of_mem _ hx))
          refine ⟨M :: Ms, by rw [List.map_cons, hmap, hentry], ?_, ?_⟩
          · intro M' hM'
            rcases List.mem_cons.1 hM' with rfl | hM'
            · exact ⟨hok, hden⟩
            · exact hMs M' hM'
          · cases Ms with
            | nil => cases hmap
            | cons M₂ Ms =>
                have hsep : sepBy ((M :: M₂ :: Ms).map Member.render) =
                    M.render ++ chr ',' :: sepBy ((M₂ :: Ms).map Member.render) := rfl
                rw [hsep, ← hlines, hrender, memberLines]
                simp [txt]

theorem elementLines_denotes (ident : Nat) {es : List Value} (hne : es ≠ []) (hes : ∀ e ∈ es, Prints e) :
    ∃ Es : List Element, Es.map Element.value = es ∧ (∀ E ∈ Es, E.Ok ∧ Denotes E.text E.value) ∧
      chr '\n' :: (elementLines ident es ++ spaces (2 * ident)) = sepBy (Es.map Element.render) := by
  induction es with
  | nil => exact absurd rfl hne
  | cons e es ih =>
      obtain ⟨w, t, htext, hw, hden⟩ := hes e List.mem_cons_self (ident + 2)
      have hbefore : Spaces (chr '\n' :: (spaces (2 * ident) ++ txt "  " ++ w)) :=
        ((spaces_newline _).append (by decide)).append hw
      cases es with
      | nil =>
          refine ⟨[⟨chr '\n' :: (spaces (2 * ident) ++ txt "  " ++ w), t, e, chr '\n' :: spaces (2 * ident)⟩],
            rfl, ?_, ?_⟩
          · intro E hE
            rw [List.mem_singleton.1 hE]
            exact ⟨⟨hbefore, spaces_newline _⟩, hden⟩
          · simp [elementLines, sepBy, Element.render, htext, txt]
      | cons e' es =>
          obtain ⟨Es, hmap, hEs, hlines⟩ := ih (by simp) (fun x hx => hes x (List.mem_cons_of_mem _ hx))
          refine ⟨⟨chr '\n' :: (spaces (2 * ident) ++ txt "  " ++ w), t, e, []⟩ :: Es, by rw [List.map_cons, hmap],
            ?_, ?_⟩
          · intro E hE
            rcases List.mem_cons.1 hE with rfl | hE
            · exact ⟨⟨hbefore, spaces_nil⟩, hden⟩
            · exact hEs E hE
          · cases Es with
            | nil => cases hmap
            | cons E₂ Es =>
                rw [List.map_cons, List.map_cons, sepBy, ← List.map_cons, ← hlines, elementLines]
                · simp [Element.render, htext, txt]
                · simp

/-- **What the parser gave is printed as a text of it**, when its strings are proper UTF-8. -/
theorem Canon.prints {v : Value} (h : Canon v) (hstr : ∀ s ∈ v.strings, Utf8 s) : Prints v := by
  induction h with
  | str val =>
      intro ident
      obtain ⟨body, hbody, htext⟩ := (hstr val (by simp [Value.strings])).strToStr
      exact ⟨[], quote body, by simpa [toString] using hbody, spaces_nil, .str htext⟩
  | num htext => exact fun ident => ⟨[], _, by simp [toString], spaces_nil, .num htext⟩
  | bool b => exact fun ident => ⟨[], _, by rw [toString, List.nil_append], spaces_nil, .bool b⟩
  | null => exact fun ident => ⟨[], _, by rw [toString, List.nil_append], spaces_nil, .null⟩
  | @obj ms hsorted _ ih =>
      intro ident
      have hkeys : ∀ m ∈ ms, Utf8 m.1 := fun m hm => hstr _ (by
        rw [Value.strings]
        exact (mem_memberStrings hm).1)
      have hms : ∀ m ∈ ms, Prints m.2 := fun m hm => ih m hm fun s hs => hstr s (by
        rw [Value.strings]
        exact (mem_memberStrings hm).2 hs)
      refine ⟨spaces (2 * ident), _, by rw [toString], spaces_spec _, ?_⟩
      by_cases hne : ms = []
      · subst hne
        simpa [memberLines] using Denotes.objNil (spaces_newline (2 * ident))
      · obtain ⟨Ms, hmap, hMs, hlines⟩ := memberLines_denotes ident hne hkeys hms
        have hall : insertAll Ms [] = ms := by
          rw [insertAll_sorted (by rw [hmap]; exact hsorted), hmap]
          rfl
        have hMs' : Ms ≠ [] := by
          rintro rfl
          exact hne hmap.symm
        have hden := Denotes.obj hMs' (fun M hM => (hMs M hM).1) (fun M hM => (hMs M hM).2)
        rw [hall, ← hlines] at hden
        exact hden
  | @arr es _ ih =>
      intro ident
      have hes : ∀ e ∈ es, Prints e := fun e he => ih e he fun s hs => hstr s (by
        rw [Value.strings]
        exact mem_elementStrings he hs)
      refine ⟨spaces (2 * ident), _, by rw [toString], spaces_spec _, ?_⟩
      by_cases hne : es = []
      · subst hne
        simpa [elementLines] using Denotes.arrNil (spaces_newline (2 * ident))
      · obtain ⟨Es, hmap, hEs, hlines⟩ := elementLines_denotes ident hne hes
        have hEs' : Es ≠ [] := by
          rintro rfl
          exact hne hmap.symm
        have hden := Denotes.arr hEs' (fun E hE => (hEs E hE).1) (fun E hE => (hEs E hE).2)
        rw [hmap, ← hlines] at hden
        exact hden

/-- **A document that was read can be printed, with any indentation, and is read as the same value.** -/
theorem parseBuffer_toString {useComments : Bool} {buffer : Text} {v : Value}
    (h : parseBuffer useComments buffer = some (some v)) (hstr : ∀ s ∈ v.strings, Utf8 s) (ident : Nat)
    (useComments' : Bool) : parseBuffer useComments' (toString ident v) = some (some v) := by
  obtain ⟨w, t, htext, hw, hden⟩ := (parseBuffer_canon h).prints hstr ident
  have hread := hden.parseBuffer hw spaces_nil useComments'
  rw [List.append_nil] at hread
  rw [htext, hread]

/-- Two members of one name, an exponent with a plus sign, a surrogate pair and a control character. -/
def sampleDocument : Text :=
  leftCurly :: (txt "\"k\":[1.5E+7,-0],\"a\\ud83d\\ude00\":\"\\u0001/\",\"k\":null" ++ [rightCurly])

theorem parseBuffer_toString_sample :
    ∃ v, parseBuffer false sampleDocument = some (some v) ∧
      v.strings = [[0x61, 0xf0, 0x9f, 0x98, 0x80], [1, 0x2f], [0x6b], [0x6b]] ∧
      parseBuffer true (toString 3 v) = some (some v) := by
  have hread : (parseBuffer false sampleDocument).map (·.map Value.strings) =
      some (some [[0x61, 0xf0, 0x9f, 0x98, 0x80], [1, 0x2f], [0x6b], [0x6b]]) := by
    decide +kernel
  rw [Option.map_eq_some_iff] at hread
  obtain ⟨doc, hdoc, hread⟩ := hread
  rw [Option.map_eq_some_iff] at hread
  obtain ⟨v, rfl, hstrings⟩ := hread
  refine ⟨v, hdoc, hstrings, parseBuffer_toString hdoc ?_ 3 true⟩
  rw [hstrings]
  intro s hs
  simp only [List.mem_cons, List.not_mem_nil, or_false] at hs
  rcases hs with rfl | rfl | rfl | rfl
  · exact ⟨['a', Char.ofNat 0x1f600], by decide⟩
  · exact ⟨[Char.ofNat 1, '/'], by decide⟩
  · exact ⟨['k'], by decide⟩
  · exact ⟨['k'], by decide⟩

end PtpMgmt.Json
