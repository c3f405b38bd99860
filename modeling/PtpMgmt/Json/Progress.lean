import PtpMgmt.Json.Parser

set_option autoImplicit false

/-! # The parser goes on

Every scanner leaves the end of its text, so the fuel of the parser is never the reason
that it fails: more of it changes nothing. -/

namespace PtpMgmt.Json

/-! ## Scanners -/

theorem isEOF_suffix {cur cur' : Text} (h : isEOF cur = some cur') : cur' <:+ cur := by
  unfold isEOF at h
  split at h
  · cases h
  · split at h
    · cases h
    · cases h
      exact List.suffix_cons _ _
  · cases h
    exact List.suffix_refl _

/-- The cursor after the character at hand. -/
theorem isEOF_tail_suffix {cur cur' : Text} (h : isEOF cur = some cur') : cur'.tail <:+ cur :=
  (List.tail_suffix cur').trans (isEOF_suffix h)

theorem skipBOM_suffix (cur : Text) : skipBOM cur <:+ cur := by
  unfold skipBOM
  split
  · exact List.drop_suffix 3 (_ :: _ :: _ :: _)
  · exact List.suffix_refl _

theorem skipWs_suffix {cur cur' : Text} (h : skipWs cur = some cur') : cur' <:+ cur := by
  fun_induction skipWs cur with
  | case1 => cases h
  | case2 _ _ heof _ ih => exact (ih h).trans (isEOF_tail_suffix heof)
  | case3 _ _ heof =>
      cases h
      exact isEOF_suffix heof

theorem skipLine_suffix (cur : Text) : skipLine cur <:+ cur := by
  induction cur with
  | nil => exact List.suffix_refl _
  | cons c r ih =>
      unfold skipLine
      split
      · exact List.suffix_refl _
      · exact ih.trans (List.suffix_cons c r)

theorem skipBlock_suffix (haveCloseStar : Bool) (cur : Text) : (skipBlock haveCloseStar cur).2 <:+ cur := by
  fun_induction skipBlock haveCloseStar cur with
  | case1 => exact List.suffix_refl _
  | case2 => exact List.nil_suffix
  | case3 _ _ _ ih => exact ih.trans ((List.suffix_cons _ _).trans (List.suffix_cons _ _))
  | case5 => exact List.suffix_cons _ _
  | _ => rename_i ih; exact ih.trans (List.suffix_cons _ _)

theorem skipComments_suffix (cur : Text) : (skipComments cur).2 <:+ cur := by
  unfold skipComments
  split
  · exact List.nil_suffix
  · next c r heq =>
      have hcr : c :: r <:+ cur := heq ▸ List.tail_suffix cur
      have hr : r <:+ cur := (List.suffix_cons c r).trans hcr
      split
      · exact (skipLine_suffix r).trans hr
      · split
        · exact (skipBlock_suffix false r).trans hr
        · exact hcr

theorem getKey_suffix (key cur : Text) : (getKey key cur).2 <:+ cur := by
  fun_induction getKey key cur with
  | case1 => exact List.suffix_refl _
  | case2 _ _ _ heof => exact isEOF_suffix heof
  | case3 _ _ _ heof _ _ ih => exact ih.trans (isEOF_tail_suffix heof)
  | case4 _ _ _ heof => exact isEOF_suffix heof

theorem getToken_suffix (useComments : Bool) (cur : Text) : (getToken useComments cur).2 <:+ cur := by
  fun_induction getToken useComments cur with
  | case1 => exact List.nil_suffix
  | case2 _ _ hws => exact (skipComments_suffix _).trans (skipWs_suffix hws)
  | case3 _ _ hws _ _ _ ih => exact ih.trans ((skipComments_suffix _).trans (skipWs_suffix hws))
  | case5 _ cur' hws => exact (getKey_suffix [] cur').trans (skipWs_suffix hws)
  | _ => exact skipWs_suffix (by assumption)

theorem getToken_length (useComments : Bool) (cur : Text) :
    (getToken useComments cur).2.length ≤ cur.length := (getToken_suffix useComments cur).length_le

/-- The tokens that are no keywords stay. -/
def Token.stays : Token → Bool
  | .eof | .inv | .trueKey | .falseKey | .nullKey => false
  | _ => true

theorem getKey_stays (key cur : Text) : (getKey key cur).1.stays = false := by
  fun_induction getKey key cur with
  | case3 _ _ _ _ _ _ ih => exact ih
  | case4 => rfl
  | _ =>
      unfold keyToken
      split
      · rfl
      · split
        · rfl
        · split <;> rfl

theorem getToken_ne_nil {useComments : Bool} {cur : Text}
    (h : (getToken useComments cur).1.stays = true) : (getToken useComments cur).2 ≠ [] := by
  fun_induction getToken useComments cur with
  | case1 => cases h
  | case2 => cases h
  | case3 _ _ _ _ _ _ ih => exact ih h
  | case4 => cases h
  | case5 => rw [getKey_stays] at h; cases h
  | case6 _ _ hws => exact (skipWs_length hws).2

theorem uProc_suffix {w1 w1' : Option Nat} {cur cur' ret : Text}
    (h : uProc w1 cur = some (ret, w1', cur')) : cur' <:+ cur := by
  obtain ⟨val, hval⟩ := uProc_rest h
  unfold uToVal at hval
  split at hval
  · split at hval
    · cases hval
      exact List.drop_suffix 4 (_ :: _ :: _ :: _ :: cur')
    · cases hval
  · cases hval

theorem checkUTF8_suffix {cur cur' ret : Text} (h : checkUTF8 cur = some (ret, cur')) : cur' <:+ cur := by
  unfold checkUTF8 at h
  split at h
  · cases h
  · simp only at h
    split at h
    · cases h
    · simp only [Option.some.injEq, Prod.mk.injEq] at h
      rw [← h.2]
      exact List.drop_suffix _ _

/-- What is left after a string, with its closing quotation mark. -/
theorem getStrLoop_suffix {w1 : Option Nat} {ret cur val cur' : Text}
    (h : getStrLoop w1 ret cur = some (val, cur')) : chr '"' :: cur' <:+ cur := by
  fun_induction getStrLoop w1 ret cur with
  | case3 _ _ _ cur₁ heof _ hquote =>
      cases h
      cases cur₁ with
      | nil => exact absurd rfl (isEOF_ne_nil heof)
      | cons c r =>
          rw [peek_cons] at hquote
          rw [← hquote]
          exact isEOF_suffix heof
  | case7 _ _ _ _ heof _ _ _ _ heof' _ _ _ _ _ hu ih =>
      exact (ih h).trans ((uProc_suffix hu).trans ((isEOF_tail_suffix heof').trans (isEOF_tail_suffix heof)))
  | case9 _ _ _ _ heof _ _ _ _ heof' _ _ _ _ ih =>
      exact (ih h).trans ((isEOF_tail_suffix heof').trans (isEOF_tail_suffix heof))
  | case11 _ _ _ _ heof _ _ _ _ _ hc ih =>
      exact (ih h).trans ((checkUTF8_suffix hc).trans (isEOF_suffix heof))
  | _ => cases h

theorem getStr_suffix {cur val cur' : Text} (h : getStr cur = some (val, cur')) :
    chr '"' :: cur' <:+ cur := (getStrLoop_suffix h).trans (List.tail_suffix cur)

theorem getStr_length {cur val cur' : Text} (h : getStr cur = some (val, cur')) :
    cur'.length < cur.length := (getStr_suffix h).length_le

theorem getNumLoop_suffix {st st' : NumState} {cur cur' : Text}
    (h : getNumLoop st cur = some (st', cur')) : cur' <:+ cur := by
  fun_induction getNumLoop st cur with
  | case2 =>
      cases h
      exact List.suffix_refl _
  | case4 _ _ _ heof =>
      cases h
      exact isEOF_suffix heof
  | case6 _ _ _ heof _ _ _ ih => exact (ih h).trans (isEOF_tail_suffix heof)
  | _ => cases h

theorem first_suffix {c : UInt8} {cur cur' : Text} {st : NumState}
    (h : NumState.first c cur = some (st, cur')) : cur' <:+ cur := by
  unfold NumState.first at h
  split at h
  · cases h
    exact List.suffix_refl _
  · split at h
    · split at h
      · cases h
      · next heof =>
          cases h
          exact isEOF_suffix heof
    · split at h
      · cases h
        exact List.suffix_refl _
      · cases h

theorem getNum_suffix {cur cur' : Text} {st : NumState} (h : getNum cur = some (st, cur')) :
    cur' <:+ cur.tail := by
  unfold getNum at h
  split at h
  · cases h
  · next cur₁ heof =>
      split at h
      · cases h
      · next hfirst =>
          have htail : cur₁.tail <:+ cur.tail := by
            obtain ⟨t, rfl⟩ := isEOF_suffix heof
            cases t with
            | nil => exact List.suffix_refl _
            | cons c t => exact (List.tail_suffix cur₁).trans (List.suffix_append t cur₁)
          exact (getNumLoop_suffix h).trans ((first_suffix hfirst).trans htail)

/-! ## Values -/

/-- A token with a cursor it may stand at. -/
def Ready (tk : Token) (cur : Text) : Prop := tk.stays = true → cur ≠ []

theorem getToken_ready (useComments : Bool) (cur : Text) :
    Ready (getToken useComments cur).1 (getToken useComments cur).2 := getToken_ne_nil

/-- What the parser leaves is the end of its text. -/
structure Shrinks (useComments : Bool) (n : Nat) : Prop where
  val : ∀ {tk cur v cur'}, parserVal useComments n tk cur = some (v, cur') → cur' <:+ cur
  members : ∀ {ms cur v cur'}, parserMembers useComments n ms cur = some (v, cur') → cur' <:+ cur
  elements : ∀ {es tk cur v cur'}, parserElements useComments n es tk cur = some (v, cur') → cur' <:+ cur

theorem shrinks (useComments : Bool) (n : Nat) : Shrinks useComments n := by
  -- each token and each value leaves a suffix, which the three readers hand on
  induction n with
  | zero =>
      refine ⟨fun h => ?_, fun h => ?_, fun h => ?_⟩
      · simp [parserVal] at h
      · simp [parserMembers] at h
      · simp [parserElements] at h
  | succ n ih =>
      have htok := getToken_suffix useComments
      have htail : ∀ {cur cur' : Text}, cur' <:+ cur → cur'.tail <:+ cur :=
        fun h => (List.tail_suffix _).trans h
      refine ⟨?_, ?_, ?_⟩
      · intro tk cur v cur' h
        have hopen := (htok cur.tail).trans (List.tail_suffix cur)
        cases tk <;> simp only [parserVal] at h
        case objSta =>
          split at h
          · cases h
            exact htail hopen
          · exact (ih.members h).trans hopen
        case arrSta =>
          split at h
          · cases h
            exact htail hopen
          · exact (ih.elements h).trans hopen
        case str =>
          simp only [Option.map_eq_some_iff, Prod.mk.injEq] at h
          obtain ⟨⟨val, cur₁⟩, hstr, -, rfl⟩ := h
          exact htail (getStr_suffix hstr)
        case num =>
          simp only [Option.map_eq_some_iff, Prod.mk.injEq] at h
          obtain ⟨⟨st, cur₁⟩, hnum, -, rfl⟩ := h
          exact (getNum_suffix hnum).trans (List.tail_suffix cur)
        all_goals first | (cases h; exact List.suffix_refl _) | cases h
      · intro ms cur v cur' h
        simp only [parserMembers] at h
        split at h
        · cases h
        · split at h
          · cases h
          · next key cur₁ hkey =>
              split at h
              · cases h
              · split at h
                · cases h
                · next e cur₂ hval =>
                    have hname := (htail (getStr_suffix hkey)).trans (htok cur)
                    have hcolon := (htail (htok cur₁)).trans hname
                    have hvalue := ((ih.val hval).trans (htok _)).trans hcolon
                    have hnext := (htok cur₂).trans hvalue
                    split at h
                    · cases h
                      exact htail hnext
                    · split at h
                      · exact (ih.members h).trans (htail hnext)
                      · cases h
      · intro es tk cur v cur' h
        simp only [parserElements] at h
        split at h
        · cases h
        · next e cur₁ hval =>
            have hnext := (htok cur₁).trans (ih.val hval)
            split at h
            · cases h
              exact htail hnext
            · split at h
              · exact (ih.elements h).trans ((htok _).trans (htail hnext))
              · cases h

/-- With this fuel one more does not matter. -/
structure Settled (useComments : Bool) (n : Nat) : Prop where
  val : ∀ {tk cur}, Ready tk cur → 2 * cur.length + 2 ≤ n →
    parserVal useComments (n + 1) tk cur = parserVal useComments n tk cur
  members : ∀ {ms cur}, 2 * cur.length + 1 ≤ n →
    parserMembers useComments (n + 1) ms cur = parserMembers useComments n ms cur
  elements : ∀ {es tk cur}, Ready tk cur → 2 * cur.length + 3 ≤ n →
    parserElements useComments (n + 1) es tk cur = parserElements useComments n es tk cur

theorem settled (useComments : Bool) (n : Nat) : Settled useComments n := by
  -- a bracket or a separator is read between two calls, so two rounds for each character will do
  induction n with
  | zero => exact ⟨fun _ h => by omega, fun h => by omega, fun _ h => by omega⟩
  | succ n ih =>
      have htok := getToken_length useComments
      refine ⟨?_, ?_, ?_⟩
      · intro tk cur hready hfuel
        have hopen := htok cur.tail
        rw [List.length_tail] at hopen
        cases tk
        case objSta =>
          have hpos := List.length_pos_iff.2 (hready rfl)
          rw [parserVal, parserVal]
          simp only
          rw [ih.members (by omega)]
        case arrSta =>
          have hpos := List.length_pos_iff.2 (hready rfl)
          rw [parserVal, parserVal]
          simp only
          rw [ih.elements (getToken_ready useComments cur.tail) (by omega)]
        all_goals rfl
      · intro ms cur hfuel
        rw [parserMembers, parserMembers]
        simp only
        split
        · rfl
        · rcases hkey : getStr (getToken useComments cur).2 with _ | ⟨key, cur₁⟩
          · rfl
          · simp only
            by_cases hcolon : (getToken useComments cur₁).1 = .namSep
            · have h1 := htok cur
              -- the name, the colon and the value shorten what is left
              have h2 := getStr_length hkey
              have h3 := htok cur₁
              have h4 := htok (getToken useComments cur₁).2.tail
              rw [List.length_tail] at h4
              rw [ih.val (getToken_ready useComments _) (by omega)]
              rcases hval : parserVal useComments n (getToken useComments (getToken useComments cur₁).2.tail).1
                (getToken useComments (getToken useComments cur₁).2.tail).2 with _ | ⟨e, cur₂⟩
              · rfl
              · have h5 := ((shrinks useComments n).val hval).length_le
                have h6 := htok cur₂
                simp only
                rw [ih.members (by rw [List.length_tail]; omega)]
            · simp only [ne_eq, hcolon, not_false_eq_true, if_true]
      · intro es tk cur hready hfuel
        rw [parserElements, parserElements, ih.val hready (by omega)]
        rcases hval : parserVal useComments n tk cur with _ | ⟨e, cur₁⟩
        · rfl
        · have h1 := ((shrinks useComments n).val hval).length_le
          have h2 := htok cur₁
          have h3 := htok (getToken useComments cur₁).2.tail
          rw [List.length_tail] at h3
          simp only
          split
          · rfl
          · split
            · next hsep =>
                have hpos := List.length_pos_iff.2 (getToken_ne_nil (by rw [hsep]; rfl))
                exact ih.elements (getToken_ready useComments _) (by omega)
            · rfl

/-- With enough fuel the parser gives what it gives with all the fuel of a document. -/
theorem parserVal_fuel {useComments : Bool} {tk : Token} {cur : Text} (hready : Ready tk cur) {n m : Nat}
    (hn : 2 * cur.length + 2 ≤ n) (hm : 2 * cur.length + 2 ≤ m) :
    parserVal useComments n tk cur = parserVal useComments m tk cur := by
  have hsame : ∀ k, parserVal useComments (2 * cur.length + 2 + k) tk cur
      = parserVal useComments (2 * cur.length + 2) tk cur := by
    intro k
    induction k with
    | zero => rfl
    | succ k ih => rw [← ih, ← (settled useComments _).val hready (Nat.le_add_right _ k)]; rfl
  have hn' := hsame (n - (2 * cur.length + 2))
  have hm' := hsame (m - (2 * cur.length + 2))
  rw [Nat.add_sub_cancel' hn] at hn'
  rw [Nat.add_sub_cancel' hm] at hm'
  rw [hn', hm']

end PtpMgmt.Json
