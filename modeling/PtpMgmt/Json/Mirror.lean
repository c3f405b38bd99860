import PtpMgmt.Json.Progress

set_option autoImplicit false

/-! # Texts that are parsed alike

A machine that knows strings and comments tells what each place in a text is in. Where the characters of a
text and of its image are the same wherever a scanner looks at one, they are parsed alike. What the texts have
in common is left open: the image is a function of the place and the text, and what it needs of the text holds
of all that a scanner leaves. -/

namespace PtpMgmt.Json

/-! ## Places in a text -/

/-- What a place in a text is in. A string comes with the number of octets that must stand in the same
    chunk: the digits of an escape and the rest of a sequence of octets. -/
inductive Lex
  | out
  | slash
  | slashCut
  | line
  | lineCut
  | block (haveCloseStar : Bool)
  | blockCut (haveCloseStar : Bool)
  | blockCutStar
  | str (n : Nat)
  | esc
  | broken
  | astray
deriving DecidableEq

/-- A mark between two chunks. -/
def Lex.cut : Lex → Lex
  | .slash => .slashCut
  | .line => .lineCut
  | .block haveCloseStar => .blockCut haveCloseStar
  | .blockCutStar => .blockCut true
  | .str (_ + 1) => .broken
  | q => q

/-- A character. -/
def Lex.read (useComments : Bool) (c : UInt8) : Lex → Lex
  | .out => if c = chr '"' then .str 0 else if c = chr '/' ∧ useComments then .slash else .out
  | .slash =>
    if c = chr '/' then .line else if c = chr '*' then .block false else if c = chr '"' then .str 0 else .out
  | .slashCut => if c = chr '/' ∨ c = chr '*' then .astray else if c = chr '"' then .str 0 else .out
  | .line => if c = chr '\n' then .out else .line
  | .lineCut => if c = chr '\n' then .out else .astray
  | .block haveCloseStar =>
    if c = chr '*' then .block true
    else if c = chr '/' then if haveCloseStar then .out else .block false
    else .block false
  | .blockCut haveCloseStar =>
    if c = chr '*' then .blockCutStar
    else if c = chr '/' ∧ haveCloseStar then .astray
    else .block false
  | .blockCutStar => if c = chr '*' then .block true else if c = chr '/' then .astray else .block false
  | .str 0 => if c = chr '"' then .out else if c = chr '\\' then .esc else .str (contCount c)
  | .str (n + 1) => .str n
  | .esc => if c = chr 'u' then .str 4 else .str 0
  | .broken => .broken
  | .astray => .astray

def Lex.next (useComments : Bool) (q : Lex) (c : UInt8) : Lex := if c = 0 then q.cut else q.read useComments c

/-- A place where the next character may stand in the next chunk. -/
def Lex.Calm (q : Lex) : Prop := q = .out ∨ q = .str 0 ∨ q = .esc

theorem Lex.calm_out : Lex.out.Calm := .inl rfl

theorem Lex.calm_str : (Lex.str 0).Calm := .inr (.inl rfl)

theorem Lex.calm_esc : Lex.esc.Calm := .inr (.inr rfl)

theorem Lex.Calm.cut {q : Lex} (hq : q.Calm) : q.cut = q := by
  rcases hq with rfl | rfl | rfl <;> rfl

/-! ## Characters that lead nowhere else -/

theorem read_out {useComments : Bool} {c : UInt8} (hquote : c ≠ chr '"') (hslash : c ≠ chr '/') :
    Lex.out.read useComments c = .out := by
  rw [Lex.read, if_neg hquote, if_neg fun h => hslash h.1]

theorem isSpace_plain {c : UInt8} (h : isSpace c = true) : c ≠ chr '"' ∧ c ≠ chr '/' := by
  constructor
  · rintro rfl
    exact absurd h (by decide)
  · rintro rfl
    exact absurd h (by decide)

theorem isLower_plain {c : UInt8} (h : isLower c = true) : c ≠ chr '"' ∧ c ≠ chr '/' := by
  constructor
  · rintro rfl
    exact absurd h (by decide)
  · rintro rfl
    exact absurd h (by decide)

/-- The characters of a number. -/
theorem next_plain {st st' : NumState} {c : UInt8} (h : st.next c = some st') : c ≠ chr '"' ∧ c ≠ chr '/' := by
  have hno : ∀ d : UInt8, d = chr '"' ∨ d = chr '/' → st.next d = none := by
    rintro d (rfl | rfl)
    · rfl
    · rfl
  constructor
  · intro hc
    rw [hno c (.inl hc)] at h
    cases h
  · intro hc
    rw [hno c (.inr hc)] at h
    cases h

/-! ## Tokens that stay -/

/-- A token that stays, with its character at the cursor. -/
def Stands (tk : Token) (cur : Text) : Prop := tk.stays = true → ∃ c r, cur = c :: r ∧ charToken c = tk

theorem getToken_stands (useComments : Bool) (cur : Text) :
    Stands (getToken useComments cur).1 (getToken useComments cur).2 := by
  intro h
  fun_induction getToken useComments cur with
  | case3 _ _ _ _ _ _ ih => exact ih h
  | case5 =>
      rw [getKey_stays] at h
      cases h
  | case6 _ cur' hws =>
      cases cur' with
      | nil => exact absurd rfl (skipWs_length hws).2
      | cons c r => exact ⟨c, r, rfl, rfl⟩
  | _ => cases h

theorem charToken_cases (c : UInt8) :
    (charToken c = .str → c = chr '"') ∧ (charToken c ≠ .inv → c ≠ 0 ∧ c ≠ chr '/') := by
  refine ⟨fun hstr => ?_, fun hinv => ⟨?_, ?_⟩⟩
  · unfold charToken at hstr
    split_ifs at hstr with hos hoe has hae hcomma hcolon hquote hnum
    exact hquote
  · rintro rfl
    exact hinv (by decide)
  · rintro rfl
    exact hinv (by decide)

/-- The character of a token that is no string. -/
theorem Stands.char {tk : Token} {cur : Text} (h : Stands tk cur) (hstays : tk.stays = true)
    (hstr : tk ≠ .str) : ∃ c r, cur = c :: r ∧ c ≠ 0 ∧ c ≠ chr '/' ∧ c ≠ chr '"' := by
  obtain ⟨c, r, rfl, rfl⟩ := h hstays
  have hinv : charToken c ≠ .inv := by
    intro hinv
    rw [hinv] at hstays
    cases hstays
  obtain ⟨hc, hslash⟩ := (charToken_cases c).2 hinv
  refine ⟨c, r, rfl, hc, hslash, ?_⟩
  rintro rfl
  exact hstr (by decide)

/-- The quotation mark of a string. -/
theorem Stands.quote {cur : Text} (h : Stands .str cur) : ∃ r, cur = chr '"' :: r := by
  obtain ⟨c, r, rfl, hc⟩ := h rfl
  rw [(charToken_cases c).1 hc]
  exact ⟨r, rfl⟩

/-! ## Readers that are alike -/

/-- Both fail, or both find the same and leave a text of the kind and its image. -/
def Carries {α : Type} (kind : Text → Prop) (f : Text → Text) (a b : Option (α × Text)) : Prop :=
  a = none ∧ b = none ∨ ∃ v cur, a = some (v, cur) ∧ b = some (v, f cur) ∧ kind cur

section Carries

variable {α β : Type} {kind : Text → Prop} {f : Text → Text} {a b : Option (α × Text)}

theorem carries_none : @Carries α kind f none none := .inl ⟨rfl, rfl⟩

theorem carries_some (v : α) {cur : Text} (h : kind cur) : Carries kind f (some (v, cur)) (some (v, f cur)) :=
  .inr ⟨v, cur, rfl, rfl, h⟩

theorem Carries.map (h : Carries kind f a b) (g : α → β) :
    Carries kind f (a.map fun x => (g x.1, x.2)) (b.map fun x => (g x.1, x.2)) := by
  obtain ⟨rfl, rfl⟩ | ⟨v, cur, rfl, rfl, hcur⟩ := h
  · exact carries_none
  · exact carries_some (g v) hcur

end Carries

/-- The text of a kind and its image have the same characters where the scanners look: the next one in a calm
    place, those of a comment, and those that must stand in one chunk. What is behind a broken comment may be
    written in another way, as long as the next token is the same. -/
structure Mirrors (useComments : Bool) (kind : Lex → Text → Prop) (f : Lex → Text → Text) : Prop where
  eof : ∀ {q m}, q.Calm → kind q m → isEOF m = none → isEOF (f q m) = none
  nil : ∀ {m}, kind .out m → isEOF m = none → f .out [] = [] ∧ kind .out []
  char : ∀ {q m cur}, q.Calm → kind q m → isEOF m = some cur →
    ∃ c r, cur = c :: r ∧ c ≠ 0 ∧ kind q (c :: r) ∧ isEOF (f q m) = some (f q (c :: r))
  next : ∀ {q c r}, q.Calm → c ≠ 0 → kind q (c :: r) →
    f q (c :: r) = c :: f (q.read useComments c) r ∧ kind (q.read useComments c) r
  comment : useComments = true → ∀ {r}, kind .slash r →
    (skipComments (chr '/' :: f .slash r)).1 = (skipComments (chr '/' :: r)).1 ∧
    skipWs (skipComments (chr '/' :: f .slash r)).2 = skipWs (f .out (skipComments (chr '/' :: r)).2) ∧
    kind .out (skipComments (chr '/' :: r)).2
  take : ∀ {n m}, kind (.str n) m → (f (.str n) m).take n = m.take n
  drop : ∀ {n m}, kind (.str n) m → Plain (m.take n) → (f (.str n) m).drop n = f (.str 0) (m.drop n)
  kept : ∀ {n m}, kind (.str n) m → n ≤ m.length → Plain (m.take n) → kind (.str 0) (m.drop n)

section Scanners

variable {useComments : Bool} {kind : Lex → Text → Prop} {f : Lex → Text → Text} {m : Text}

/-- The character at the cursor, and what is behind it. -/
theorem Mirrors.cur (h : Mirrors useComments kind f) {q : Lex} (hq : q.Calm) (hm : kind q m) {cur : Text}
    (heof : isEOF m = some cur) :
    ∃ c r, cur = c :: r ∧ c ≠ 0 ∧ kind q (c :: r) ∧ kind (q.read useComments c) r ∧
      f q (c :: r) = c :: f (q.read useComments c) r ∧
      isEOF (f q m) = some (c :: f (q.read useComments c) r) := by
  obtain ⟨c, r, rfl, hc, hcur, himage⟩ := h.char hq hm heof
  obtain ⟨hnext, hr⟩ := h.next hq hc hcur
  exact ⟨c, r, rfl, hc, hcur, hr, hnext, hnext ▸ himage⟩

/-- The same for a character that opens no string and no comment. -/
theorem Mirrors.plain (h : Mirrors useComments kind f) {c : UInt8} {r : Text} (hc : c ≠ 0)
    (hcur : kind .out (c :: r)) (hplain : c ≠ chr '"' ∧ c ≠ chr '/') :
    f .out (c :: r) = c :: f .out r ∧ kind .out r := by
  have hnext := h.next Lex.calm_out hc hcur
  rwa [read_out hplain.1 hplain.2] at hnext

/-! ### Tokens -/

theorem Mirrors.skipWs_image (h : Mirrors useComments kind f) (hm : kind .out m) :
    skipWs m = none ∧ skipWs (f .out m) = none ∧ f .out [] = [] ∧ kind .out [] ∨
    ∃ c r, skipWs m = some (c :: r) ∧ skipWs (f .out m) = some (f .out (c :: r)) ∧ c ≠ 0 ∧
      kind .out (c :: r) := by
  fun_induction skipWs m with
  | case1 m heof => exact .inl ⟨rfl, skipWs_none (h.eof Lex.calm_out hm heof), h.nil hm heof⟩
  | case2 m cur' heof hspace ih =>
      obtain ⟨c, r, rfl, hc, hcur, -, -, himage⟩ := h.cur Lex.calm_out hm heof
      rw [peek_cons] at hspace
      obtain ⟨hquote, hslash⟩ := isSpace_plain hspace
      rw [skipWs_some himage, peek_cons, if_pos hspace, List.tail_cons, read_out hquote hslash]
      exact ih (h.plain hc hcur ⟨hquote, hslash⟩).2
  | case3 m cur' heof hspace =>
      obtain ⟨c, r, rfl, hc, hcur, -, hnext, himage⟩ := h.cur Lex.calm_out hm heof
      rw [peek_cons] at hspace
      rw [skipWs_some himage, peek_cons, if_neg hspace, ← hnext]
      exact .inr ⟨c, r, rfl, rfl, hc, hcur⟩

theorem Mirrors.getKey_image (h : Mirrors useComments kind f) (hm : kind .out m) (key : Text) :
    getKey key (f .out m) = ((getKey key m).1, f .out (getKey key m).2) ∧
      kind .out (getKey key m).2 := by
  fun_induction getKey key m with
  | case1 key m heof => exact ⟨getKey_none (h.eof Lex.calm_out hm heof), hm⟩
  | case2 key m cur' heof hdelim =>
      obtain ⟨c, r, rfl, hc, hcur, -, hnext, himage⟩ := h.cur Lex.calm_out hm heof
      rw [peek_cons] at hdelim
      rw [getKey_some himage, peek_cons, if_pos hdelim, hnext]
      exact ⟨rfl, hcur⟩
  | case3 key m cur' heof hdelim hlower ih =>
      obtain ⟨c, r, rfl, hc, hcur, -, -, himage⟩ := h.cur Lex.calm_out hm heof
      rw [peek_cons] at hdelim hlower ih
      obtain ⟨hquote, hslash⟩ := isLower_plain hlower
      rw [getKey_some himage, peek_cons, if_neg hdelim, if_pos hlower, List.tail_cons, read_out hquote hslash]
      exact ih (h.plain hc hcur ⟨hquote, hslash⟩).2
  | case4 key m cur' heof hdelim hlower =>
      obtain ⟨c, r, rfl, hc, hcur, -, hnext, himage⟩ := h.cur Lex.calm_out hm heof
      rw [peek_cons] at hdelim hlower
      rw [getKey_some himage, peek_cons, if_neg hdelim, if_neg hlower, hnext]
      exact ⟨rfl, hcur⟩

/-- What a token and the texts behind it have in common. -/
structure TokenCarried (kind : Text → Prop) (f : Text → Text) (tok tok' : Token × Text) : Prop where
  same : tok'.1 = tok.1
  rest : tok.1 ≠ .inv → tok'.2 = f tok.2
  again : skipWs tok'.2 = skipWs (f tok.2)
  left : kind tok.2

theorem getToken_congr {cur cur' : Text} (h : skipWs cur = skipWs cur') :
    getToken useComments cur = getToken useComments cur' := by
  rcases hws : skipWs cur with _ | cur₁
  · rw [getToken_none hws, getToken_none (h ▸ hws)]
  · have hws' : skipWs cur' = some cur₁ := h ▸ hws
    by_cases hslash : peek cur₁ = chr '/'
    · rw [getToken_slash hws hslash, getToken_slash hws' hslash]
    · rw [getToken_some hws hslash, getToken_some hws' hslash]

/-- **A token is found alike.** -/
theorem Mirrors.getToken_image (h : Mirrors useComments kind f) (hm : kind .out m) :
    TokenCarried (kind .out) (f .out) (getToken useComments m) (getToken useComments (f .out m)) := by
  fun_induction getToken useComments m with
  | case1 m hws =>
      obtain ⟨-, himage, hnil, hleft⟩ | ⟨c, r, hws', -⟩ := h.skipWs_image hm
      · rw [getToken_none himage]
        exact ⟨rfl, fun _ => hnil.symm, by rw [hnil], hleft⟩
      · rw [hws] at hws'
        cases hws'
  | case2 m cur' hws hslash huse hcom =>
      obtain ⟨hws', -⟩ | ⟨c, r, hws', himage, hc, hcur⟩ := h.skipWs_image hm
      · rw [hws] at hws'
        cases hws'
      · obtain rfl : cur' = c :: r := Option.some.inj (hws.symm.trans hws')
        rw [peek_cons] at hslash
        subst hslash huse
        have hread : Lex.out.read true (chr '/') = .slash := rfl
        obtain ⟨hnext, hr⟩ := h.next Lex.calm_out hc hcur
        rw [hread] at hnext hr
        obtain ⟨hbroken, hagain, hleft⟩ := h.comment rfl hr
        rw [hnext] at himage
        rw [getToken_slash himage rfl, if_pos rfl, if_pos (hbroken.trans hcom)]
        exact ⟨rfl, fun hne => absurd rfl hne, hagain, hleft⟩
  | case3 m cur' hws hslash huse hcom ih =>
      obtain ⟨hws', -⟩ | ⟨c, r, hws', himage, hc, hcur⟩ := h.skipWs_image hm
      · rw [hws] at hws'
        cases hws'
      · obtain rfl : cur' = c :: r := Option.some.inj (hws.symm.trans hws')
        rw [peek_cons] at hslash
        subst hslash huse
        have hread : Lex.out.read true (chr '/') = .slash := rfl
        obtain ⟨hnext, hr⟩ := h.next Lex.calm_out hc hcur
        rw [hread] at hnext hr
        obtain ⟨hbroken, hagain, hleft⟩ := h.comment rfl hr
        rw [hnext] at himage
        rw [getToken_slash himage rfl, if_pos rfl, if_neg fun hb => hcom (hbroken.symm.trans hb),
          getToken_congr hagain]
        exact ih hleft
  | case4 m cur' hws hslash huse =>
      obtain ⟨hws', -⟩ | ⟨c, r, hws', himage, hc, hcur⟩ := h.skipWs_image hm
      · rw [hws] at hws'
        cases hws'
      · obtain rfl : cur' = c :: r := Option.some.inj (hws.symm.trans hws')
        have hnext := (h.next Lex.calm_out hc hcur).1
        rw [getToken_slash himage (by rw [hnext]; exact hslash), if_neg huse]
        exact ⟨rfl, fun _ => rfl, rfl, hcur⟩
  | case5 m cur' hws hslash hlower =>
      obtain ⟨hws', -⟩ | ⟨c, r, hws', himage, hc, hcur⟩ := h.skipWs_image hm
      · rw [hws] at hws'
        cases hws'
      · obtain rfl : cur' = c :: r := Option.some.inj (hws.symm.trans hws')
        have hnext := (h.next Lex.calm_out hc hcur).1
        obtain ⟨hkey, hleft⟩ := h.getKey_image hcur []
        rw [getToken_some himage (by rw [hnext]; exact hslash), if_pos (by rw [hnext]; exact hlower), hkey]
        exact ⟨rfl, fun _ => rfl, rfl, hleft⟩
  | case6 m cur' hws hslash hlower =>
      obtain ⟨hws', -⟩ | ⟨c, r, hws', himage, hc, hcur⟩ := h.skipWs_image hm
      · rw [hws] at hws'
        cases hws'
      · obtain rfl : cur' = c :: r := Option.some.inj (hws.symm.trans hws')
        have hnext := (h.next Lex.calm_out hc hcur).1
        have hpeek : peek (f .out (c :: r)) = c := by rw [hnext, peek_cons]
        rw [peek_cons] at hlower
        rw [getToken_some himage (by rw [hpeek]; exact hslash), hpeek, if_neg hlower]
        exact ⟨rfl, fun _ => rfl, rfl, hcur⟩

theorem Mirrors.token (h : Mirrors useComments kind f) {cur : Text} (hcur : kind .out cur) :
    (getToken useComments (f .out cur)).1 = (getToken useComments cur).1 ∧
      kind .out (getToken useComments cur).2 :=
  ⟨(h.getToken_image hcur).same, (h.getToken_image hcur).left⟩

theorem Mirrors.rest (h : Mirrors useComments kind f) {cur : Text} (hcur : kind .out cur)
    (hinv : (getToken useComments cur).1 ≠ .inv) :
    (getToken useComments (f .out cur)).2 = f .out (getToken useComments cur).2 :=
  (h.getToken_image hcur).rest hinv

theorem Mirrors.again (h : Mirrors useComments kind f) {cur : Text} (hcur : kind .out cur) :
    getToken useComments (getToken useComments (f .out cur)).2 =
      getToken useComments (f .out (getToken useComments cur).2) :=
  getToken_congr (h.getToken_image hcur).again

/-- The tokens that are no string are passed over. -/
theorem Mirrors.tail (h : Mirrors useComments kind f) {tk : Token} {cur : Text} (hcur : kind .out cur)
    (hstands : Stands tk cur) (hstays : tk.stays = true) (hstr : tk ≠ .str) :
    (f .out cur).tail = f .out cur.tail ∧ kind .out cur.tail := by
  obtain ⟨c, r, rfl, hc, hslash, hquote⟩ := hstands.char hstays hstr
  obtain ⟨hnext, hr⟩ := h.plain hc hcur ⟨hquote, hslash⟩
  rw [hnext]
  exact ⟨rfl, hr⟩

/-! ### Strings -/

theorem uToVal_eq (cur : Text) :
    uToVal cur = (uToVal (cur.take 4)).map fun x => (x.1, cur.drop 4) := by
  rcases cur with _ | ⟨a, _ | ⟨b, _ | ⟨c, _ | ⟨d, r⟩⟩⟩⟩
  · rfl
  · rfl
  · rfl
  · rfl
  · simp only [List.take_succ_cons, List.take_zero, List.drop_succ_cons, List.drop_zero, uToVal]
    split <;> rfl

theorem isXDigit_ne_zero {c : UInt8} (h : isXDigit c = true) : c ≠ 0 := by
  rintro rfl
  exact absurd h (by decide)

theorem isCont_ne_zero {c : UInt8} (h : isCont c = true) : c ≠ 0 := by
  rintro rfl
  exact absurd h (by decide)

/-- The digits of an escape stand in one chunk. -/
theorem uToVal_some {x : Nat × Text} (h : uToVal m = some x) :
    4 ≤ m.length ∧ Plain (m.take 4) ∧ x.2 = m.drop 4 := by
  unfold uToVal at h
  split at h
  · next a b c d r =>
      split at h
      · next hdigits =>
          cases h
          simp only [Bool.and_eq_true] at hdigits
          refine ⟨Nat.le_add_left 4 r.length, fun e he => ?_, rfl⟩
          simp only [List.take_succ_cons, List.take_zero, List.mem_cons, List.not_mem_nil, or_false] at he
          rcases he with rfl | rfl | rfl | rfl
          · exact isXDigit_ne_zero hdigits.1.1.1
          · exact isXDigit_ne_zero hdigits.1.1.2
          · exact isXDigit_ne_zero hdigits.1.2
          · exact isXDigit_ne_zero hdigits.2
      · cases h
  · cases h

theorem uToVal_image {m' : Text} {g : Text → Text} (htake : m'.take 4 = m.take 4)
    (hdrop : Plain (m.take 4) → m'.drop 4 = g (m.drop 4)) :
    uToVal m' = (uToVal m).map fun x => (x.1, g x.2) := by
  rw [uToVal_eq, uToVal_eq m, htake, Option.map_map]
  rcases hval : uToVal (m.take 4) with _ | x
  · rfl
  · have hplain := (uToVal_some hval).2.1
    rw [List.take_take, Nat.min_self] at hplain
    rw [Option.map_some, Option.map_some, hdrop hplain]
    rfl

theorem uProc_image (w1 : Option Nat) {m' : Text} {g : Text → Text} (htake : m'.take 4 = m.take 4)
    (hdrop : Plain (m.take 4) → m'.drop 4 = g (m.drop 4)) :
    uProc w1 m' = (uProc w1 m).map fun x => (x.1, x.2.1, g x.2.2) := by
  unfold uProc
  rw [uToVal_image htake hdrop]
  rcases uToVal m with _ | ⟨val, r⟩
  · rfl
  · simp only [Option.map_some]
    cases w1 with
    | some w1 =>
        simp only
        split <;> simp only [Option.map_some, Option.map_none]
    | none =>
        simp only
        split
        · simp only [Option.map_some]
        · split <;> simp only [Option.map_some, Option.map_none]

/-- A sequence of octets stands in one chunk. -/
theorem checkUTF8_some {c : UInt8} {x : Text × Text} (h : checkUTF8 (c :: m) = some x) :
    contCount c ≤ m.length ∧ Plain (m.take (contCount c)) ∧ x.2 = m.drop (contCount c) := by
  simp only [checkUTF8, peek_cons, List.tail_cons, List.take_succ_cons, List.drop_succ_cons] at h
  split at h
  · cases h
  · split at h
    · cases h
    · next hcont =>
        cases h
        simp only [not_or, Nat.not_lt, Bool.not_eq_true', Bool.not_eq_false, List.all_eq_true] at hcont
        exact ⟨hcont.1, fun d hd => isCont_ne_zero (hcont.2 d hd), rfl⟩

theorem checkUTF8_image {c : UInt8} {m' : Text} {g : Text → Text}
    (htake : m'.take (contCount c) = m.take (contCount c))
    (hdrop : Plain (m.take (contCount c)) → m'.drop (contCount c) = g (m.drop (contCount c))) :
    checkUTF8 (c :: m') = (checkUTF8 (c :: m)).map fun x => (x.1, g x.2) := by
  have hlen : m'.length < contCount c ↔ m.length < contCount c := by
    have := congrArg List.length htake
    rw [List.length_take, List.length_take] at this
    omega
  simp only [checkUTF8, peek_cons, List.tail_cons, List.take_succ_cons, List.drop_succ_cons, htake, hlen]
  split
  · rfl
  · split
    · rfl
    · next hcont =>
        simp only [not_or, Nat.not_lt, Bool.not_eq_true', Bool.not_eq_false, List.all_eq_true] at hcont
        rw [Option.map_some, hdrop fun d hd => isCont_ne_zero (hcont.2 d hd)]

theorem Mirrors.getStrLoop_image (h : Mirrors useComments kind f) (n : Nat) {m : Text} (hlen : m.length ≤ n)
    (hm : kind (.str 0) m) (w1 : Option Nat) (ret : Text) :
    Carries (kind .out) (f .out) (getStrLoop w1 ret m) (getStrLoop w1 ret (f (.str 0) m)) := by
  induction n generalizing m w1 ret with
  | zero =>
      have hnil : m = [] := List.eq_nil_of_length_eq_zero (Nat.le_zero.1 hlen)
      subst hnil
      rw [getStrLoop_none rfl, getStrLoop_none (h.eof Lex.calm_str hm rfl)]
      exact carries_none
  | succ n ih =>
      rcases heof : isEOF m with _ | cur₁
      · rw [getStrLoop_none heof, getStrLoop_none (h.eof Lex.calm_str hm heof)]
        exact carries_none
      · have hcur₁ := isEOF_length heof
        obtain ⟨c, r, rfl, hc, -, hr, -, himage⟩ := h.cur Lex.calm_str hm heof
        rw [List.length_cons] at hcur₁
        rw [getStrLoop_some himage, getStrLoop_some heof, peek_cons, peek_cons, List.tail_cons, List.tail_cons]
        by_cases hw : w1.isSome ∧ c ≠ chr '\\'
        · rw [if_pos hw, if_pos hw]
          exact carries_none
        · rw [if_neg hw, if_neg hw]
          by_cases hq : c = chr '"'
          · rw [Lex.read, if_pos hq] at hr ⊢
            rw [if_pos hq, if_pos hq]
            exact carries_some ret hr
          · rw [if_neg hq, if_neg hq]
            by_cases hb : c = chr '\\'
            · rw [Lex.read, if_neg hq, if_pos hb] at hr ⊢
              rw [if_pos hb, if_pos hb]
              -- the character after the reverse solidus, which may stand in the next chunk
              rcases heof' : isEOF r with _ | cur₂
              · rw [h.eof Lex.calm_esc hr heof']
                exact carries_none
              · have hcur₂ := isEOF_length heof'
                obtain ⟨d, r', rfl, hd, -, hr', -, himage'⟩ := h.cur Lex.calm_esc hr heof'
                rw [List.length_cons] at hcur₂
                rw [himage', Option.bind_some, Option.bind_some, peek_cons, peek_cons, List.tail_cons,
                  List.tail_cons]
                by_cases hw' : w1.isSome ∧ d ≠ chr 'u'
                · rw [if_pos hw', if_pos hw']
                  exact carries_none
                · rw [if_neg hw', if_neg hw']
                  by_cases hu : d = chr 'u'
                  · rw [Lex.read, if_pos hu] at hr' ⊢
                    rw [if_pos hu, if_pos hu, uProc_image w1 (h.take hr') (h.drop hr')]
                    rcases hproc : uProc w1 r' with _ | ⟨octets, w1', cur₃⟩
                    · exact carries_none
                    · obtain ⟨val, hval⟩ := uProc_rest hproc
                      obtain ⟨hfour, hplain, rfl⟩ := uToVal_some hval
                      have hlen₃ := uProc_length hproc
                      exact ih (by omega) (h.kept hr' hfour hplain) w1' _
                  · rw [Lex.read, if_neg hu] at hr' ⊢
                    rw [if_neg hu, if_neg hu]
                    rcases unescape d with _ | e
                    · exact carries_none
                    · exact ih (by omega) hr' w1 _
            · rw [Lex.read, if_neg hq, if_neg hb] at hr ⊢
              rw [if_neg hb, if_neg hb, checkUTF8_image (h.take hr) (h.drop hr)]
              rcases hcheck : checkUTF8 (c :: r) with _ | ⟨octets, cur₂⟩
              · exact carries_none
              · obtain ⟨hcount, hplain, rfl⟩ := checkUTF8_some hcheck
                have hlen₂ := checkUTF8_length (by simp) hcheck
                rw [List.length_cons] at hlen₂
                exact ih (by omega) (h.kept hr hcount hplain) w1 _

theorem Mirrors.str (h : Mirrors useComments kind f) {cur : Text} (hcur : kind .out cur)
    (hstands : Stands .str cur) : Carries (kind .out) (f .out) (getStr cur) (getStr (f .out cur)) := by
  obtain ⟨r, rfl⟩ := hstands.quote
  obtain ⟨hnext, hr⟩ := h.next Lex.calm_out (show chr '"' ≠ 0 by decide) hcur
  rw [hnext]
  exact h.getStrLoop_image r.length (Nat.le_refl _) hr none []

/-! ### Numbers -/

theorem Mirrors.getNumLoop_image (h : Mirrors useComments kind f) (hm : kind .out m) (st : NumState) :
    Carries (kind .out) (f .out) (getNumLoop st m) (getNumLoop st (f .out m)) := by
  fun_induction getNumLoop st m with
  | case1 st m heof hlast =>
      rw [getNumLoop_none (h.eof Lex.calm_out hm heof), if_pos hlast]
      exact carries_none
  | case2 st m heof hlast =>
      rw [getNumLoop_none (h.eof Lex.calm_out hm heof), if_neg hlast]
      exact carries_some st hm
  | case3 st m cur' heof hdelim hlast =>
      obtain ⟨c, r, rfl, -, -, -, -, himage⟩ := h.cur Lex.calm_out hm heof
      rw [peek_cons] at hdelim
      rw [getNumLoop_some himage, peek_cons, if_pos hdelim, if_pos hlast]
      exact carries_none
  | case4 st m cur' heof hdelim hlast =>
      obtain ⟨c, r, rfl, -, hcur, -, hnext, himage⟩ := h.cur Lex.calm_out hm heof
      rw [peek_cons] at hdelim
      rw [getNumLoop_some himage, peek_cons, if_pos hdelim, if_neg hlast, ← hnext]
      exact carries_some st hcur
  | case5 st m cur' heof hdelim hst =>
      obtain ⟨c, r, rfl, -, -, -, -, himage⟩ := h.cur Lex.calm_out hm heof
      rw [peek_cons] at hdelim hst
      rw [getNumLoop_some himage, peek_cons, if_neg hdelim, hst]
      exact carries_none
  | case6 st m cur' heof hdelim st' hst ih =>
      obtain ⟨c, r, rfl, hc, hcur, -, -, himage⟩ := h.cur Lex.calm_out hm heof
      rw [peek_cons] at hdelim hst
      obtain ⟨hquote, hslash⟩ := next_plain hst
      rw [getNumLoop_some himage, peek_cons, if_neg hdelim, hst, List.tail_cons, read_out hquote hslash]
      exact ih (h.plain hc hcur ⟨hquote, hslash⟩).2

theorem Mirrors.first_image (h : Mirrors useComments kind f) (hm : kind .out m) (c : UInt8) :
    Carries (kind .out) (f .out) (NumState.first c m) (NumState.first c (f .out m)) := by
  unfold NumState.first
  by_cases hzero : c = chr '0'
  · rw [if_pos hzero, if_pos hzero]
    exact carries_some _ hm
  · rw [if_neg hzero, if_neg hzero]
    by_cases hminus : c = chr '-'
    · rw [if_pos hminus, if_pos hminus]
      rcases heof : isEOF m with _ | cur
      · rw [h.eof Lex.calm_out hm heof]
        exact carries_none
      · obtain ⟨d, r, rfl, -, hcur, -, hnext, himage⟩ := h.cur Lex.calm_out hm heof
        rw [himage, ← hnext]
        simp only [hnext, peek_cons]
        rw [← hnext]
        exact carries_some _ hcur
    · rw [if_neg hminus, if_neg hminus]
      split
      · exact carries_some _ hm
      · exact carries_none

theorem Mirrors.num (h : Mirrors useComments kind f) {cur : Text} (hcur : kind .out cur)
    (hstands : Stands .num cur) : Carries (kind .out) (f .out) (getNum cur) (getNum (f .out cur)) := by
  obtain ⟨c, r, rfl, hc, hslash, hquote⟩ := hstands.char rfl Token.noConfusion
  obtain ⟨hnext, hr⟩ := h.plain hc hcur ⟨hquote, hslash⟩
  simp only [hnext, getNum, isEOF_cons hc, peek_cons, List.tail_cons]
  obtain ⟨hfirst, hfirst'⟩ | ⟨st, r', hfirst, hfirst', hr'⟩ := h.first_image hr c
  · rw [hfirst, hfirst']
    exact carries_none
  · rw [hfirst, hfirst']
    exact h.getNumLoop_image hr' st

end Scanners

/-! ## The parser -/

/-- The parser reads a text of the kind and its image alike. -/
structure ParsesAlike (useComments : Bool) (kind : Text → Prop) (f : Text → Text) (n : Nat) : Prop where
  val : ∀ {tk cur}, kind cur → Stands tk cur →
    Carries kind f (parserVal useComments n tk cur) (parserVal useComments n tk (f cur))
  members : ∀ {ms cur}, kind cur →
    Carries kind f (parserMembers useComments n ms cur) (parserMembers useComments n ms (f cur))
  elements : ∀ {es tk cur}, kind cur → Stands tk cur →
    Carries kind f (parserElements useComments n es tk cur) (parserElements useComments n es tk (f cur))

section Parser

variable {useComments : Bool} {kind : Lex → Text → Prop} {f : Lex → Text → Text}

/-- The character of a token is passed over. -/
theorem Mirrors.token_tail (h : Mirrors useComments kind f) {cur : Text} (hcur : kind .out cur) {tk : Token}
    (htk : (getToken useComments cur).1 = tk) (hstays : tk.stays = true) (hstr : tk ≠ .str) :
    (getToken useComments (f .out cur)).2.tail = f .out (getToken useComments cur).2.tail ∧
      kind .out (getToken useComments cur).2.tail := by
  have hinv : (getToken useComments cur).1 ≠ .inv := by
    rw [htk]
    rintro rfl
    cases hstays
  rw [h.rest hcur hinv]
  exact h.tail (h.token hcur).2 (htk ▸ getToken_stands useComments cur) hstays hstr

/-- The value of a token. -/
theorem ParsesAlike.val_token {n : Nat} (ih : ParsesAlike useComments (kind .out) (f .out) n)
    (h : Mirrors useComments kind f) {cur : Text} (hcur : kind .out cur) :
    Carries (kind .out) (f .out)
      (parserVal useComments n (getToken useComments cur).1 (getToken useComments cur).2)
      (parserVal useComments n (getToken useComments (f .out cur)).1
        (getToken useComments (f .out cur)).2) := by
  obtain ⟨hsame, hkind⟩ := h.token hcur
  rw [hsame]
  by_cases hinv : (getToken useComments cur).1 = .inv
  · rw [hinv]
    cases n <;> (simp only [parserVal]; exact carries_none)
  · rw [h.rest hcur hinv]
    exact ih.val hkind (getToken_stands useComments cur)

/-- The elements from a token on. -/
theorem ParsesAlike.elements_token {n : Nat} (ih : ParsesAlike useComments (kind .out) (f .out) n)
    (h : Mirrors useComments kind f) (es : List Value) {cur : Text} (hcur : kind .out cur) :
    Carries (kind .out) (f .out)
      (parserElements useComments n es (getToken useComments cur).1 (getToken useComments cur).2)
      (parserElements useComments n es (getToken useComments (f .out cur)).1
        (getToken useComments (f .out cur)).2) := by
  obtain ⟨hsame, hkind⟩ := h.token hcur
  rw [hsame]
  by_cases hinv : (getToken useComments cur).1 = .inv
  · rw [hinv]
    rcases n with _ | _ | n <;> (simp only [parserElements, parserVal]; exact carries_none)
  · rw [h.rest hcur hinv]
    exact ih.elements hkind (getToken_stands useComments cur)

/-- Members start with a token of their own. -/
theorem parserMembers_token {n : Nat} {ms : List (Text × Value)} {cur cur' : Text}
    (h : getToken useComments cur = getToken useComments cur') :
    parserMembers useComments n ms cur = parserMembers useComments n ms cur' := by
  cases n <;> simp only [parserMembers, h]

/-- **Where the scanners read alike, the parser does.** -/
theorem Mirrors.parsesAlike (h : Mirrors useComments kind f) (n : Nat) :
    ParsesAlike useComments (kind .out) (f .out) n := by
  -- the three readers call each other with one round less, so they are followed together
  induction n with
  | zero =>
      refine ⟨fun _ _ => ?_, fun _ => ?_, fun _ _ => ?_⟩
      · simp only [parserVal]
        exact carries_none
      · simp only [parserMembers]
        exact carries_none
      · simp only [parserElements]
        exact carries_none
  | succ n ih =>
      refine ⟨?_, ?_, ?_⟩
      · intro tk cur hcur hstands
        -- only a bracket, a string and a number read on
        cases tk <;> simp only [parserVal]
        case objSta =>
          obtain ⟨htail, hkind⟩ := h.tail hcur hstands rfl Token.noConfusion
          rw [htail, (h.token hkind).1]
          by_cases hend : (getToken useComments cur.tail).1 = .objEnd
          · obtain ⟨hrest, hbehind⟩ := h.token_tail hkind hend rfl Token.noConfusion
            rw [if_pos hend, if_pos hend, hrest]
            exact carries_some _ hbehind
          · rw [if_neg hend, if_neg hend, parserMembers_token (h.again hkind)]
            exact ih.members (h.token hkind).2
        case arrSta =>
          obtain ⟨htail, hkind⟩ := h.tail hcur hstands rfl Token.noConfusion
          rw [htail]
          by_cases hend : (getToken useComments cur.tail).1 = .arrEnd
          · obtain ⟨hrest, hbehind⟩ := h.token_tail hkind hend rfl Token.noConfusion
            rw [if_pos hend, if_pos ((h.token hkind).1.trans hend), hrest]
            exact carries_some _ hbehind
          · rw [if_neg hend, if_neg fun heq => hend ((h.token hkind).1.symm.trans heq)]
            exact ih.elements_token h [] hkind
        case str => exact (h.str hcur hstands).map Value.str
        case num => exact (h.num hcur hstands).map fun st => Value.num st.ret st.dotLoc st.eLoc
        case trueKey | falseKey | nullKey => exact carries_some _ hcur
        all_goals exact carries_none
      · intro ms cur hcur
        simp only [parserMembers, (h.token hcur).1]
        by_cases hstr : (getToken useComments cur).1 = .str
        · have hinv : (getToken useComments cur).1 ≠ .inv := by
            rw [hstr]
            exact Token.noConfusion
          have hstands := getToken_stands useComments cur
          rw [hstr] at hstands
          rw [if_neg (not_not.2 hstr), if_neg (not_not.2 hstr), h.rest hcur hinv]
          obtain ⟨hname, hname'⟩ | ⟨key, cur₁, hname, hname', hcur₁⟩ := h.str (h.token hcur).2 hstands
          · rw [hname, hname']
            exact carries_none
          · simp only [hname, hname', (h.token hcur₁).1]
            by_cases hsep : (getToken useComments cur₁).1 = .namSep
            · obtain ⟨htail, hcur₂⟩ := h.token_tail hcur₁ hsep rfl Token.noConfusion
              rw [if_neg (not_not.2 hsep), if_neg (not_not.2 hsep), htail]
              obtain ⟨hval, hval'⟩ | ⟨e, cur₃, hval, hval', hcur₃⟩ := ih.val_token h hcur₂
              · rw [hval, hval']
                exact carries_none
              · simp only [hval, hval', (h.token hcur₃).1]
                by_cases hend : (getToken useComments cur₃).1 = .objEnd
                · obtain ⟨htail', hcur₄⟩ := h.token_tail hcur₃ hend rfl Token.noConfusion
                  rw [if_pos hend, if_pos hend, htail']
                  exact carries_some _ hcur₄
                · rw [if_neg hend, if_neg hend]
                  by_cases hcomma : (getToken useComments cur₃).1 = .valSep
                  · obtain ⟨htail', hcur₄⟩ := h.token_tail hcur₃ hcomma rfl Token.noConfusion
                    rw [if_pos hcomma, if_pos hcomma, htail']
                    exact ih.members hcur₄
                  · rw [if_neg hcomma, if_neg hcomma]
                    exact carries_none
            · rw [if_pos hsep, if_pos hsep]
              exact carries_none
        · rw [if_pos hstr, if_pos hstr]
          exact carries_none
      · intro es tk cur hcur hstands
        simp only [parserElements]
        obtain ⟨hval, hval'⟩ | ⟨e, cur₁, hval, hval', hcur₁⟩ := ih.val hcur hstands
        · rw [hval, hval']
          exact carries_none
        · simp only [hval, hval', (h.token hcur₁).1]
          by_cases hend : (getToken useComments cur₁).1 = .arrEnd
          · obtain ⟨htail, hcur₂⟩ := h.token_tail hcur₁ hend rfl Token.noConfusion
            rw [if_pos hend, if_pos hend, htail]
            exact carries_some _ hcur₂
          · rw [if_neg hend, if_neg hend]
            by_cases hcomma : (getToken useComments cur₁).1 = .valSep
            · obtain ⟨htail, hcur₂⟩ := h.token_tail hcur₁ hcomma rfl Token.noConfusion
              rw [if_pos hcomma, if_pos hcomma, htail]
              exact ih.elements_token h (es ++ [e]) hcur₂
            · rw [if_neg hcomma, if_neg hcomma]
              exact carries_none

/-- The value of a document, with the fuel of either text. -/
theorem Mirrors.document (h : Mirrors useComments kind f) {m : Text} (hm : kind .out m) :
    Carries (kind .out) (f .out)
      (parserVal useComments (2 * m.length + 2) (getToken useComments m).1 (getToken useComments m).2)
      (parserVal useComments (2 * (f .out m).length + 2) (getToken useComments (f .out m)).1
        (getToken useComments (f .out m)).2) := by
  have hlen := getToken_length useComments m
  have hlen' := getToken_length useComments (f .out m)
  have hval := (h.parsesAlike (2 * m.length + 2 + (2 * (f .out m).length + 2))).val_token h hm
  rw [parserVal_fuel (m := 2 * m.length + 2) (getToken_ready useComments m) (by omega) (by omega),
    parserVal_fuel (m := 2 * (f .out m).length + 2) (getToken_ready useComments (f .out m)) (by omega)
      (by omega)] at hval
  exact hval

/-- **A document and its image are parsed to the same.** -/
theorem Mirrors.paresJson_eq (h : Mirrors useComments kind f) {m : Text} (hm : kind .out m) :
    paresJson useComments (f .out m) = paresJson useComments m := by
  have hsame := (h.token hm).1
  simp only [paresJson]
  by_cases heof : (getToken useComments m).1 = .eof
  · rw [if_pos heof, if_pos (hsame.trans heof)]
  · rw [if_neg heof, if_neg fun heq => heof (hsame.symm.trans heq)]
    obtain ⟨hval, hval'⟩ | ⟨v, cur, hval, hval', hcur⟩ := h.document hm
    · rw [hval, hval']
    · simp only [hval, hval', (h.token hcur).1]

/-- A text of a kind that is never at its end is no document. -/
theorem Mirrors.paresJson_none (h : Mirrors useComments kind f)
    (hend : ∀ {cur}, kind .out cur → (getToken useComments cur).1 ≠ .eof) {m : Text} (hm : kind .out m) :
    paresJson useComments m = none := by
  simp only [paresJson]
  rw [if_neg (hend hm)]
  obtain ⟨hval, -⟩ | ⟨v, cur, hval, -, hcur⟩ := h.document hm
  · rw [hval]
  · simp only [hval, if_neg (hend hcur)]

end Parser

end PtpMgmt.Json
