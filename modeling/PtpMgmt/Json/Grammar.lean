import Mathlib.Data.List.TakeWhile
import PtpMgmt.Json.Progress

set_option autoImplicit false

/-! # Texts of values

`Denotes t v`: the text `t` is one of the value `v`, without white space around it and without comments.
White space may stand between its tokens. The parser reads the value of such a text, whatever follows. -/

namespace PtpMgmt.Json

/-! ## Leaves -/

def Spaces (w : Text) : Prop := ∀ c ∈ w, isSpace c = true

instance Spaces.decidable (w : Text) : Decidable (Spaces w) :=
  decidable_of_iff (w.all isSpace = true) List.all_eq_true

/-- What may stand after a keyword or a number: the end or one of the characters that end it. -/
def Ends (r : Text) : Prop := r = [] ∨ isDelim (peek r) = true ∧ peek r ≠ 0

/-- The string between its quotation marks. -/
def quote (body : Text) : Text := chr '"' :: (body ++ [chr '"'])

/-- The text between the quotation marks of a string. -/
structure StrText (body val : Text) : Prop where
  plain : Plain body
  scan : ∀ r, getStrLoop none [] (body ++ chr '"' :: r) = some (val, r)

/-- The text of a number, and what is kept of it. -/
structure NumText (t val : Text) (dotLoc eLoc : Nat) : Prop where
  plain : Plain t
  start : charToken (peek t) = .num
  scan : ∀ r, Ends r → ∃ st, getNum (t ++ r) = some (st, r) ∧
    st.ret = val ∧ st.dotLoc = dotLoc ∧ st.eLoc = eLoc

theorem spaces_nil : Spaces [] := by
  intro c hc
  cases hc

theorem Spaces.append {w w' : Text} (h : Spaces w) (h' : Spaces w') : Spaces (w ++ w') := by
  intro c hc
  rcases List.mem_append.1 hc with hc | hc
  · exact h c hc
  · exact h' c hc

theorem isSpace_ne_zero {c : UInt8} (h : isSpace c = true) : c ≠ 0 := by
  rintro rfl
  exact absurd h (by decide)

theorem skipWs_append {w : Text} (hw : Spaces w) (cur : Text) : skipWs (w ++ cur) = skipWs cur := by
  induction w with
  | nil => rfl
  | cons c w ih =>
      have hc := hw c List.mem_cons_self
      rw [List.cons_append, skipWs_some (isEOF_cons (isSpace_ne_zero hc) _), peek_cons, if_pos hc]
      exact ih fun d hd => hw d (List.mem_cons_of_mem _ hd)

theorem skipWs_cons {c : UInt8} (hc : c ≠ 0) (hs : isSpace c = false) (r : Text) :
    skipWs (c :: r) = some (c :: r) := by
  rw [skipWs_some (isEOF_cons hc r), if_neg]
  simpa using hs

theorem getToken_append {w : Text} (hw : Spaces w) (useComments : Bool) (cur : Text) :
    getToken useComments (w ++ cur) = getToken useComments cur := by
  have hws := skipWs_append hw cur
  rcases hcur : skipWs cur with _ | cur'
  · rw [getToken_none (hws.trans hcur), getToken_none hcur]
  · by_cases hslash : peek cur' = chr '/'
    · rw [getToken_slash (hws.trans hcur) hslash, getToken_slash hcur hslash]
    · rw [getToken_some (hws.trans hcur) hslash, getToken_some hcur hslash]

/-- The characters that are tokens of their own. -/
theorem getToken_char {c : UInt8} (hc : charToken c ≠ .inv) (useComments : Bool) (r : Text) :
    getToken useComments (c :: r) = (charToken c, c :: r) := by
  have h0 : c ≠ 0 := by
    rintro rfl
    exact hc (by decide)
  have hs : isSpace c = false := by
    by_contra h
    refine hc ?_
    simp only [isSpace, Bool.not_eq_false, Bool.or_eq_true, beq_iff_eq] at h
    rcases h with ((rfl | rfl) | rfl) | rfl <;> decide
  have hslash : c ≠ chr '/' := by
    rintro rfl
    exact hc (by decide)
  have hlower : isLower c = false := by
    rw [Bool.eq_false_iff]
    intro h
    exact hc (charToken_lower h)
  rw [getToken_some (skipWs_cons h0 hs r) (by simpa using hslash)]
  simp [hlower]

/-- A keyword. -/
theorem getToken_key {key : Text} (hkey : key ≠ []) (hlower : ∀ c ∈ key, isLower c = true) {r : Text}
    (hr : Ends r) (useComments : Bool) : getToken useComments (key ++ r) = (keyToken key, r) := by
  have hdelim : ∀ c : UInt8, isLower c = true → c ≠ 0 ∧ isDelim c = false ∧ isSpace c = false ∧ c ≠ chr '/' := by
    intro c hc
    obtain ⟨d, rfl⟩ := exists_lower hc
    clear hc
    revert d
    decide
  -- the characters of the keyword are taken one after the other
  have hloop : ∀ (rest done : Text), (∀ c ∈ rest, isLower c = true) →
      getKey done (rest ++ r) = (keyToken (done ++ rest), r) := by
    intro rest
    induction rest with
    | nil =>
        intro done _
        rw [List.nil_append, List.append_nil]
        rcases hr with rfl | ⟨hend, hne⟩
        · exact getKey_none rfl
        · cases r with
          | nil => exact getKey_none rfl
          | cons d r =>
              rw [peek_cons] at hend hne
              rw [getKey_some (isEOF_cons hne r), peek_cons, if_pos hend]
    | cons c rest ih =>
        intro done hrest
        have hc := hrest c List.mem_cons_self
        obtain ⟨h0, hd, -, -⟩ := hdelim c hc
        rw [List.cons_append, getKey_some (isEOF_cons h0 _), if_neg (by simpa using hd),
          if_pos (by simpa using hc)]
        simp only [peek_cons, List.tail_cons]
        rw [ih (done ++ [c]) fun d hd => hrest d (List.mem_cons_of_mem _ hd), List.append_assoc]
        rfl
  rcases key with _ | ⟨c, key⟩
  · exact absurd rfl hkey
  · have hc := hlower c List.mem_cons_self
    obtain ⟨h0, -, hs, hslash⟩ := hdelim c hc
    rw [List.cons_append, getToken_some (skipWs_cons h0 hs _) (by simpa using hslash),
      if_pos (by simpa using hc)]
    exact hloop (c :: key) [] hlower

/-! ## Values -/

/-- A member of an object: its name with the white space around it, and the text of its value. -/
structure Member where
  before : Text
  name : Text
  key : Text
  afterName : Text
  beforeValue : Text
  text : Text
  value : Value
  after : Text

def Member.render (m : Member) : Text :=
  m.before ++ quote m.name ++ m.afterName ++ chr ':' :: (m.beforeValue ++ m.text ++ m.after)

structure Member.Ok (m : Member) : Prop where
  before : Spaces m.before
  name : StrText m.name m.key
  afterName : Spaces m.afterName
  beforeValue : Spaces m.beforeValue
  after : Spaces m.after

/-- An element of an array. -/
structure Element where
  before : Text
  text : Text
  value : Value
  after : Text

def Element.render (e : Element) : Text := e.before ++ e.text ++ e.after

structure Element.Ok (e : Element) : Prop where
  before : Spaces e.before
  after : Spaces e.after

/-- Texts with commas between them. -/
def sepBy : List Text → Text
  | [] => []
  | [t] => t
  | t :: ts => t ++ chr ',' :: sepBy ts

/-- The members of an object that come in this order. -/
def insertAll (ms : List Member) (members : List (Text × Value)) : List (Text × Value) :=
  ms.foldl (fun members m => insertMember m.key m.value members) members

inductive Denotes : Text → Value → Prop
  | str {body val : Text} : StrText body val → Denotes (quote body) (.str val)
  | num {t val : Text} {dotLoc eLoc : Nat} : NumText t val dotLoc eLoc → Denotes t (.num val dotLoc eLoc)
  | bool (b : Bool) : Denotes (if b then txt "true" else txt "false") (.bool b)
  | null : Denotes (txt "null") .null
  | objNil {w : Text} : Spaces w → Denotes (leftCurly :: (w ++ [rightCurly])) (.obj [])
  | obj {ms : List Member} : ms ≠ [] → (∀ m ∈ ms, m.Ok) → (∀ m ∈ ms, Denotes m.text m.value) →
      Denotes (leftCurly :: (sepBy (ms.map Member.render) ++ [rightCurly])) (.obj (insertAll ms []))
  | arrNil {w : Text} : Spaces w → Denotes (chr '[' :: (w ++ [chr ']'])) (.arr [])
  | arr {es : List Element} : es ≠ [] → (∀ e ∈ es, e.Ok) → (∀ e ∈ es, Denotes e.text e.value) →
      Denotes (chr '[' :: (sepBy (es.map Element.render) ++ [chr ']'])) (.arr (es.map Element.value))

/-! ## The parser reads them -/

/-- The parser reads the value from the text, with any fuel that is large enough. -/
def Reads (t : Text) (v : Value) : Prop :=
  ∀ (useComments : Bool) (w r : Text), Spaces w → Ends r → ∃ N, ∀ n ≥ N,
    parserVal useComments n (getToken useComments (w ++ t ++ r)).1 (getToken useComments (w ++ t ++ r)).2
      = some (v, r)

theorem ends_cons {c : UInt8} (hc : isDelim c = true) (h0 : c ≠ 0) (r : Text) : Ends (c :: r) := .inr ⟨hc, h0⟩

/-- What follows a value: white space and one of the characters that end it. -/
theorem Spaces.ends {w : Text} (hw : Spaces w) {r : Text} (hr : Ends r) : Ends (w ++ r) := by
  cases w with
  | nil => exact hr
  | cons c w =>
      have hc := hw c List.mem_cons_self
      refine ends_cons ?_ (isSpace_ne_zero hc) _
      simp [isDelim, hc]

theorem reads_char {c : UInt8} {t : Text} (hc : charToken c ≠ .inv) {w r : Text} (hw : Spaces w)
    (useComments : Bool) :
    getToken useComments (w ++ c :: t ++ r) = (charToken c, c :: (t ++ r)) := by
  rw [List.append_assoc, getToken_append hw, List.cons_append, getToken_char hc]

theorem StrText.getStr {body val : Text} (h : StrText body val) (r : Text) :
    Json.getStr (quote body ++ r) = some (val, r) := by
  have := h.scan r
  simpa [Json.getStr, quote] using this

theorem reads_str {body val : Text} (h : StrText body val) : Reads (quote body) (.str val) := by
  intro useComments w r hw hr
  refine ⟨1, fun n hn => ?_⟩
  obtain ⟨n, rfl⟩ := Nat.exists_eq_add_of_le' hn
  have hstr := h.getStr r
  rw [quote, reads_char (by decide) hw]
  have htk : charToken (chr '"') = .str := by decide
  rw [htk, parserVal]
  rw [quote, List.cons_append] at hstr
  rw [hstr]
  rfl

theorem reads_num {t val : Text} {dotLoc eLoc : Nat} (h : NumText t val dotLoc eLoc) :
    Reads t (.num val dotLoc eLoc) := by
  intro useComments w r hw hr
  refine ⟨1, fun n hn => ?_⟩
  obtain ⟨n, rfl⟩ := Nat.exists_eq_add_of_le' hn
  obtain ⟨st, hscan, rfl, rfl, rfl⟩ := h.scan r hr
  have hstart := h.start
  cases t with
  | nil => exact absurd hstart (by decide)
  | cons c t =>
      rw [peek_cons] at hstart
      rw [reads_char (by rw [hstart]; simp) hw, hstart, parserVal, ← List.cons_append, hscan]
      rfl

theorem reads_key {key : Text} {v : Value} (hkey : key ≠ []) (hlower : key.all isLower = true)
    (hv : ∀ (useComments : Bool) (n : Nat) (cur : Text),
      parserVal useComments (n + 1) (keyToken key) cur = some (v, cur)) : Reads key v := by
  intro useComments w r hw hr
  refine ⟨1, fun n hn => ?_⟩
  obtain ⟨n, rfl⟩ := Nat.exists_eq_add_of_le' hn
  rw [List.append_assoc, getToken_append hw, getToken_key hkey (List.all_eq_true.1 hlower) hr]
  exact hv useComments n r

/-- One member, and what comes after it. -/
theorem parserMembers_member {m : Member} (hok : m.Ok) (hreads : Reads m.text m.value) {c : UInt8}
    (hc : c = rightCurly ∨ c = chr ',') (useComments : Bool) (members : List (Text × Value)) (t : Text) :
    ∃ N, ∀ n ≥ N, parserMembers useComments (n + 1) members (m.render ++ c :: t) =
      if c = rightCurly then some (.obj (insertMember m.key m.value members), t)
      else parserMembers useComments n (insertMember m.key m.value members) t := by
  have hend : Ends (m.after ++ c :: t) := by
    refine hok.after.ends ?_
    rcases hc with rfl | rfl <;> exact ends_cons (by decide) (by decide) t
  obtain ⟨N, hN⟩ := hreads useComments m.beforeValue (m.after ++ c :: t) hok.beforeValue hend
  refine ⟨N, fun n hn => ?_⟩
  have hval := hN n hn
  have htext : m.render ++ c :: t = m.before ++ (quote m.name ++ (m.afterName ++
      chr ':' :: (m.beforeValue ++ m.text ++ (m.after ++ c :: t)))) := by
    simp [Member.render]
  -- the name
  have hname : getToken useComments (m.render ++ c :: t) = (.str, quote m.name ++ (m.afterName ++
      chr ':' :: (m.beforeValue ++ m.text ++ (m.after ++ c :: t)))) := by
    rw [htext, getToken_append hok.before, quote, List.cons_append, getToken_char (by decide)]
    rfl
  -- the separator
  have hcolon : getToken useComments (m.afterName ++
      chr ':' :: (m.beforeValue ++ m.text ++ (m.after ++ c :: t))) =
      (.namSep, chr ':' :: (m.beforeValue ++ m.text ++ (m.after ++ c :: t))) := by
    rw [getToken_append hok.afterName, getToken_char (by decide)]
    rfl
  have hnext : getToken useComments (m.after ++ c :: t) = (charToken c, c :: t) := by
    rw [getToken_append hok.after, getToken_char (by rcases hc with rfl | rfl <;> decide)]
  rw [parserMembers]
  simp only [hname, hok.name.getStr, hcolon, List.tail_cons, hval, hnext, ne_eq, not_true, if_false]
  rcases hc with rfl | rfl
  · have htk : charToken rightCurly = .objEnd := by decide
    simp [htk]
  · have htk : charToken (chr ',') = .valSep := by decide
    have hne : chr ',' ≠ rightCurly := by decide
    simp [htk, hne]

theorem parserMembers_all {ms : List Member} (hne : ms ≠ []) (hok : ∀ m ∈ ms, m.Ok)
    (hreads : ∀ m ∈ ms, Reads m.text m.value) (useComments : Bool) (members : List (Text × Value))
    (r : Text) :
    ∃ N, ∀ n ≥ N, parserMembers useComments n members (sepBy (ms.map Member.render) ++ rightCurly :: r) =
      some (.obj (insertAll ms members), r) := by
  induction ms generalizing members with
  | nil => exact absurd rfl hne
  | cons m ms ih =>
      have hm := hok m List.mem_cons_self
      have hr := hreads m List.mem_cons_self
      cases ms with
      | nil =>
          obtain ⟨N, hN⟩ := parserMembers_member hm hr (.inl rfl) useComments members r
          refine ⟨N + 1, fun n hn => ?_⟩
          obtain ⟨n, rfl⟩ := Nat.exists_eq_add_of_le' (Nat.le_of_add_left_le hn)
          exact hN n (by omega)
      | cons m' ms =>
          obtain ⟨N', hN'⟩ := ih (by simp) (fun x hx => hok x (List.mem_cons_of_mem _ hx))
            (fun x hx => hreads x (List.mem_cons_of_mem _ hx)) (insertMember m.key m.value members)
          obtain ⟨N, hN⟩ := parserMembers_member hm hr (.inr rfl) useComments members
            (sepBy ((m' :: ms).map Member.render) ++ rightCurly :: r)
          refine ⟨N + N' + 1, fun n hn => ?_⟩
          obtain ⟨n, rfl⟩ := Nat.exists_eq_add_of_le' (Nat.le_of_add_left_le hn)
          have hstep := hN n (by omega)
          rw [if_neg (by decide), hN' n (by omega)] at hstep
          have htext : sepBy ((m :: m' :: ms).map Member.render) ++ rightCurly :: r =
              m.render ++ chr ',' :: (sepBy ((m' :: ms).map Member.render) ++ rightCurly :: r) := by
            simp [sepBy]
          rw [htext, hstep]
          rfl

theorem parserElements_all {es : List Element} (hne : es ≠ []) (hok : ∀ e ∈ es, e.Ok)
    (hreads : ∀ e ∈ es, Reads e.text e.value) (useComments : Bool) (elements : List Value) (r : Text) :
    ∃ N, ∀ n ≥ N, parserElements useComments n elements
        (getToken useComments (sepBy (es.map Element.render) ++ chr ']' :: r)).1
        (getToken useComments (sepBy (es.map Element.render) ++ chr ']' :: r)).2 =
      some (.arr (elements ++ es.map Element.value), r) := by
  induction es generalizing elements with
  | nil => exact absurd rfl hne
  | cons e es ih =>
      have he := hok e List.mem_cons_self
      have hr := hreads e List.mem_cons_self
      have hnext : ∀ (c : UInt8) (t : Text), charToken c ≠ .inv →
          getToken useComments (e.after ++ c :: t) = (charToken c, c :: t) := by
        intro c t hc
        rw [getToken_append he.after, getToken_char hc]
      cases es with
      | nil =>
          obtain ⟨N, hN⟩ := hr useComments e.before (e.after ++ chr ']' :: r) he.before
            (he.after.ends (ends_cons (by decide) (by decide) r))
          refine ⟨N + 1, fun n hn => ?_⟩
          obtain ⟨n, rfl⟩ := Nat.exists_eq_add_of_le' (Nat.le_of_add_left_le hn)
          have hval := hN n (by omega)
          have htext : sepBy ([e].map Element.render) ++ chr ']' :: r =
              e.before ++ e.text ++ (e.after ++ chr ']' :: r) := by
            simp [sepBy, Element.render]
          have htk : charToken (chr ']') = .arrEnd := by decide
          rw [htext, parserElements, hval]
          simp [hnext (chr ']') r (by decide), htk]
      | cons e' es =>
          obtain ⟨N', hN'⟩ := ih (by simp) (fun x hx => hok x (List.mem_cons_of_mem _ hx))
            (fun x hx => hreads x (List.mem_cons_of_mem _ hx)) (elements ++ [e.value])
          generalize hrest : sepBy ((e' :: es).map Element.render) ++ chr ']' :: r = rest at hN'
          obtain ⟨N, hN⟩ := hr useComments e.before (e.after ++ chr ',' :: rest) he.before
            (he.after.ends (ends_cons (by decide) (by decide) rest))
          refine ⟨N + N' + 1, fun n hn => ?_⟩
          obtain ⟨n, rfl⟩ := Nat.exists_eq_add_of_le' (Nat.le_of_add_left_le hn)
          have hval := hN n (by omega)
          have htext : sepBy ((e :: e' :: es).map Element.render) ++ chr ']' :: r =
              e.before ++ e.text ++ (e.after ++ chr ',' :: rest) := by
            rw [← hrest]
            simp [sepBy, Element.render]
          have htk : charToken (chr ',') = .valSep := by decide
          rw [htext, parserElements, hval]
          simp only [hnext (chr ',') rest (by decide), htk, List.tail_cons, hN' n (by omega)]
          simp

/-- A token that stays is found again. -/
theorem getToken_again {useComments : Bool} {cur : Text}
    (h : (getToken useComments cur).1.stays = true) :
    getToken useComments (getToken useComments cur).2 = getToken useComments cur := by
  fun_induction getToken useComments cur with
  | case3 _ _ _ _ _ _ ih => exact ih h
  | case5 => rw [getKey_stays] at h; cases h
  | case6 _ cur' hws =>
      have hne := (skipWs_length hws).2
      cases cur' with
      | nil => exact absurd rfl hne
      | cons c r =>
          rw [peek_cons] at h ⊢
          refine getToken_char ?_ useComments r
          intro hinv
          rw [hinv] at h
          cases h
  | _ => cases h

theorem parserMembers_congr {useComments : Bool} {cur cur' : Text}
    (h : getToken useComments cur = getToken useComments cur') (n : Nat) (members : List (Text × Value)) :
    parserMembers useComments n members cur = parserMembers useComments n members cur' := by
  cases n with
  | zero => rfl
  | succ n => rw [parserMembers, parserMembers, h]

/-- **The parser reads the value of every text of it.** -/
theorem Denotes.reads {t : Text} {v : Value} (h : Denotes t v) : Reads t v := by
  -- on the derivation; the fuel is one more than what the parts need
  induction h with
  | str h => exact reads_str h
  | num h => exact reads_num h
  | bool b =>
      cases b with
      | false => exact reads_key (by decide) (by decide) fun _ _ _ => rfl
      | true => exact reads_key (by decide) (by decide) fun _ _ _ => rfl
  | null => exact reads_key (by decide) (by decide) fun _ _ _ => rfl
  | @objNil w hw =>
      intro useComments w' r hw' hr
      refine ⟨1, fun n hn => ?_⟩
      obtain ⟨n, rfl⟩ := Nat.exists_eq_add_of_le' hn
      have htk : charToken leftCurly = .objSta := by decide
      have hend : getToken useComments (w ++ [rightCurly] ++ r) = (.objEnd, rightCurly :: r) := by
        rw [List.append_assoc, getToken_append hw, List.singleton_append, getToken_char (by decide)]
        rfl
      rw [reads_char (by decide) hw', htk, parserVal]
      simp only [List.tail_cons, hend, if_true]
  | @obj ms hne hok _ ih =>
      intro useComments w r hw hr
      obtain ⟨N, hN⟩ := parserMembers_all hne hok ih useComments [] r
      generalize htext : sepBy (ms.map Member.render) ++ rightCurly :: r = text at hN
      -- the parts are read, so the first token is a name and not the closing bracket
      have hstr : (getToken useComments text).1 = .str := by
        by_contra hno
        have hsome := hN (N + 1) (by omega)
        rw [parserMembers] at hsome
        simp [hno] at hsome
      refine ⟨N + 1, fun n hn => ?_⟩
      obtain ⟨n, rfl⟩ := Nat.exists_eq_add_of_le' (Nat.le_of_add_left_le hn)
      have htk : charToken leftCurly = .objSta := by decide
      have hbody : sepBy (ms.map Member.render) ++ [rightCurly] ++ r = text := by
        rw [← htext, List.append_assoc]
        rfl
      have hsome := hN n (by omega)
      rw [parserMembers_congr (getToken_again (by rw [hstr]; rfl)).symm] at hsome
      rw [reads_char (by decide) hw, htk, parserVal]
      simp only [List.tail_cons, hbody, hstr]
      simpa using hsome
  | @arrNil w hw =>
      intro useComments w' r hw' hr
      refine ⟨1, fun n hn => ?_⟩
      obtain ⟨n, rfl⟩ := Nat.exists_eq_add_of_le' hn
      have htk : charToken (chr '[') = .arrSta := by decide
      have hend : getToken useComments (w ++ [chr ']'] ++ r) = (.arrEnd, chr ']' :: r) := by
        rw [List.append_assoc, getToken_append hw, List.singleton_append, getToken_char (by decide)]
        rfl
      rw [reads_char (by decide) hw', htk, parserVal]
      simp only [List.tail_cons, hend, if_true]
  | @arr es hne hok _ ih =>
      intro useComments w r hw hr
      obtain ⟨N, hN⟩ := parserElements_all hne hok ih useComments [] r
      generalize htext : sepBy (es.map Element.render) ++ chr ']' :: r = text at hN
      have hopen : (getToken useComments text).1 ≠ .arrEnd := by
        intro hend
        have hsome := hN (N + 2) (by omega)
        have hno : parserVal useComments (N + 1) .arrEnd (getToken useComments text).2 = none := rfl
        rw [hend, parserElements, hno] at hsome
        cases hsome
      refine ⟨N + 1, fun n hn => ?_⟩
      obtain ⟨n, rfl⟩ := Nat.exists_eq_add_of_le' (Nat.le_of_add_left_le hn)
      have htk : charToken (chr '[') = .arrSta := by decide
      have hbody : sepBy (es.map Element.render) ++ [chr ']'] ++ r = text := by
        rw [← htext, List.append_assoc]
        rfl
      have hsome := hN n (by omega)
      rw [reads_char (by decide) hw, htk, parserVal]
      simp only [List.tail_cons, hbody, if_neg hopen]
      simpa using hsome

/-! ## Documents -/

theorem Spaces.plain {w : Text} (hw : Spaces w) : Plain w :=
  fun c hc => isSpace_ne_zero (hw c hc)

theorem mem_sepBy {ts : List Text} {c : UInt8} (h : c ∈ sepBy ts) : c = chr ',' ∨ ∃ t ∈ ts, c ∈ t := by
  induction ts with
  | nil => cases h
  | cons t ts ih =>
      cases ts with
      | nil => exact .inr ⟨t, List.mem_cons_self, h⟩
      | cons t' ts =>
          rw [sepBy, List.mem_append, List.mem_cons] at h
          rcases h with h | rfl | h
          · exact .inr ⟨t, List.mem_cons_self, h⟩
          · exact .inl rfl
          · rcases ih h with h | ⟨x, hx, hc⟩
            · exact .inl h
            · exact .inr ⟨x, List.mem_cons_of_mem _ hx, hc⟩
          · simp

theorem StrText.plain_quote {body val : Text} (h : StrText body val) : Plain (quote body) := by
  intro c hc
  simp only [quote, List.mem_cons, List.mem_append, List.not_mem_nil, or_false] at hc
  rcases hc with rfl | hc | rfl
  · decide
  · exact h.plain c hc
  · decide

/-- A text of a value has no zero. -/
theorem Denotes.plain {t : Text} {v : Value} (h : Denotes t v) : Plain t := by
  induction h with
  | str h => exact h.plain_quote
  | num h => exact h.plain
  | bool b => cases b <;> decide
  | null => decide
  | objNil hw =>
      intro c hc
      simp only [List.mem_cons, List.mem_append, List.not_mem_nil, or_false] at hc
      rcases hc with rfl | hc | rfl
      · decide
      · exact hw.plain c hc
      · decide
  | obj _ hok _ ih =>
      intro c hc
      simp only [List.mem_cons, List.mem_append, List.not_mem_nil, or_false] at hc
      rcases hc with rfl | hc | rfl
      · decide
      · rcases mem_sepBy hc with rfl | ⟨t, ht, hc⟩
        · decide
        · obtain ⟨m, hm, rfl⟩ := List.mem_map.1 ht
          have hm' := hok m hm
          simp only [Member.render, List.mem_append, List.mem_cons] at hc
          rcases hc with ((hc | hc) | hc) | rfl | (hc | hc) | hc
          · exact hm'.before.plain c hc
          · exact hm'.name.plain_quote c hc
          · exact hm'.afterName.plain c hc
          · decide
          · exact hm'.beforeValue.plain c hc
          · exact ih m hm c hc
          · exact hm'.after.plain c hc
      · decide
  | arrNil hw =>
      intro c hc
      simp only [List.mem_cons, List.mem_append, List.not_mem_nil, or_false] at hc
      rcases hc with rfl | hc | rfl
      · decide
      · exact hw.plain c hc
      · decide
  | arr _ hok _ ih =>
      intro c hc
      simp only [List.mem_cons, List.mem_append, List.not_mem_nil, or_false] at hc
      rcases hc with rfl | hc | rfl
      · decide
      · rcases mem_sepBy hc with rfl | ⟨t, ht, hc⟩
        · decide
        · obtain ⟨e, he, rfl⟩ := List.mem_map.1 ht
          have he' := hok e he
          simp only [Element.render, List.mem_append] at hc
          rcases hc with (hc | hc) | hc
          · exact he'.before.plain c hc
          · exact ih e he c hc
          · exact he'.after.plain c hc
      · decide

/-- A text of a value starts with no byte order mark. -/
theorem Denotes.start {t : Text} {v : Value} (h : Denotes t v) : t ≠ [] ∧ peek t ≠ 0xef := by
  cases h with
  | str => exact ⟨by simp [quote], by rw [quote, peek_cons]; decide⟩
  | num h =>
      have hstart := h.start
      refine ⟨?_, ?_⟩
      · rintro rfl
        exact absurd hstart (by decide)
      · intro heq
        rw [heq] at hstart
        exact absurd hstart (by decide)
  | bool b => cases b <;> exact ⟨by decide, by decide⟩
  | null => exact ⟨by decide, by decide⟩
  | objNil => exact ⟨by simp, by rw [peek_cons]; decide⟩
  | obj => exact ⟨by simp, by rw [peek_cons]; decide⟩
  | arrNil => exact ⟨by simp, by rw [peek_cons]; decide⟩
  | arr => exact ⟨by simp, by rw [peek_cons]; decide⟩

theorem skipBOM_of_ne {cur : Text} (h : peek cur ≠ 0xef) : skipBOM cur = cur := by
  unfold skipBOM
  split
  · exact absurd rfl h
  · rfl

/-- **A document of a value is read as that value**, with white space around it. -/
theorem Denotes.parseBuffer {t : Text} {v : Value} (h : Denotes t v) {w w' : Text} (hw : Spaces w)
    (hw' : Spaces w') (useComments : Bool) :
    Json.parseBuffer useComments (w ++ t ++ w') = some (some v) := by
  obtain ⟨hne, hstart⟩ := h.start
  have hplain : Plain (w ++ t ++ w') := by
    intro c hc
    simp only [List.mem_append] at hc
    rcases hc with (hc | hc) | hc
    · exact hw.plain c hc
    · exact h.plain c hc
    · exact hw'.plain c hc
  have htext : w ++ t ++ w' ≠ [] := by simp [hne]
  have hbom : skipBOM (w ++ t ++ w') = w ++ t ++ w' := by
    refine skipBOM_of_ne ?_
    cases w with
    | nil =>
        cases t with
        | nil => exact absurd rfl hne
        | cons c t => exact hstart
    | cons c w =>
        intro heq
        have hc := hw c List.mem_cons_self
        have : c = 0xef := heq
        rw [this] at hc
        exact absurd hc (by decide)
  have htake : (w ++ t ++ w').takeWhile (· ≠ 0) = w ++ t ++ w' := by
    rw [List.takeWhile_eq_self_iff]
    intro c hc
    simpa using hplain c hc
  -- enough fuel gives the value, and the fuel of the document is enough
  obtain ⟨N, hN⟩ := h.reads useComments w w' hw (by simpa using hw'.ends (.inl rfl))
  rw [Json.parseBuffer, if_neg htext, htake, hbom, paresJson]
  generalize htok : getToken useComments (w ++ t ++ w') = tok at hN ⊢
  have hlen : tok.2.length ≤ (w ++ t ++ w').length := by
    rw [← htok]
    exact getToken_length useComments _
  have hready : Ready tok.1 tok.2 := by
    rw [← htok]
    exact getToken_ready useComments _
  have heof : tok.1 ≠ .eof := by
    intro heof
    have hsome := hN (N + 1) (by omega)
    have hno : parserVal useComments (N + 1) .eof tok.2 = none := rfl
    rw [heof, hno] at hsome
    cases hsome
  have hval := hN (N + (2 * (w ++ t ++ w').length + 2)) (by omega)
  rw [parserVal_fuel hready (by omega) (m := 2 * (w ++ t ++ w').length + 2) (by omega)] at hval
  -- behind the value only white space is left
  have hend : getToken useComments w' = (.eof, []) := by
    rw [← List.append_nil w', getToken_append hw']
    exact getToken_none (skipWs_none rfl)
  simp only [heof, if_false, hval, hend, if_true]

end PtpMgmt.Json
