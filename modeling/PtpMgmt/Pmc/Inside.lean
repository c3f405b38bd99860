import PtpMgmt.Pmc.Quote

set_option autoImplicit false

/-! # Whether a command line is parsed inside its memory

The passes of the parser follow each other on what is left of the line, so that the parser stays inside the line
when each pass does that it comes to. And a text that is written in quotes comes back, unless it ends in a
backslash: the quote behind it is then taken for an escaped one. -/

namespace PtpMgmt.MsgBuild

open Json

/-! ## The passes over a line -/

theorem takeName_token {keys : Keys} {t tkn behind cur : Text} (h : 0 ∉ t)
    (htake : takeName keys (t ++ [0]) = some (.token tkn behind cur)) :
    ∃ t', cur = t' ++ [0] ∧ t' <:+ t ∧ t'.length < t.length := by
  rw [takeName] at htake
  split at htake
  · exact takeQuoted_token h htake
  · rcases takeNormal_token h htake with hrest | hlast
    · exact hrest
    · simp at hlast

theorem takeValue_token {keys : Keys} {key : Key} {t w tkn behind behind' cur : Text} (h : 0 ∉ t)
    (htake : takeValue keys key w behind (t ++ [0]) = some (.token tkn behind' cur)) :
    ∃ t', cur = t' ++ [0] ∧ t' <:+ t := by
  rw [takeValue] at htake
  split at htake
  · obtain ⟨t', hcur, hsuffix, -⟩ := takeQuoted_token h htake
    exact ⟨t', hcur, hsuffix⟩
  · rcases takeNormal_token h htake with ⟨t', hcur, hsuffix, -⟩ | hlast
    · exact ⟨t', hcur, hsuffix⟩
    · -- the value is the first token, and nothing is left
      split at hlast
      · simp only [Taken.token.injEq] at hlast
        exact ⟨[], hlast.2.2.symm, List.nil_suffix⟩
      · simp at hlast

theorem afterValue_next {keys keys' : Keys} {i : Nat} {name cur : Text} {key : Key} {taken : Option Taken}
    (h : afterValue keys i name key taken = some (.next keys' cur)) :
    ∃ tkn behind key', taken = some (.token tkn behind cur) ∧ key.take tkn behind = some (some key') ∧
      keys' = keys.set i (name, key') := by
  rcases taken with - | - | - | ⟨tkn, behind, cur'⟩
  · simp [afterValue] at h
  · simp [afterValue] at h
  · simp [afterValue] at h
  · rw [afterValue] at h
    split at h
    next => simp at h
    next => simp at h
    next key' hkey =>
      simp only [Option.some.injEq, Pass.next.injEq] at h
      obtain ⟨rfl, rfl⟩ := h
      exact ⟨tkn, behind, key', rfl, hkey, rfl⟩

/-- A pass that goes on has set one key. -/
theorem pass_sets {keys keys' : Keys} {cur cur' : Text} (hpass : pass keys cur = some (.next keys' cur')) :
    ∃ (i : Nat) (name : Text) (key key' : Key) (tkn behind : Text), keys[i]? = some (name, key) ∧
      key.take tkn behind = some (some key') ∧ keys' = keys.set i (name, key') := by
  cases hname : takeName keys cur with
  | none => simp [pass, hname] at hpass
  | some taken =>
    cases taken with
    | stop => simp [pass, hname] at hpass
    | error => simp [pass, hname] at hpass
    | token w behind cur'' =>
      cases hkey : (keys.find w).bind (keys[·]?) with
      | none => simp [pass_unknown hname hkey] at hpass
      | some k =>
        obtain ⟨name, key⟩ := k
        obtain ⟨i, hfind, hi⟩ := Option.bind_eq_some_iff.1 hkey
        rw [pass_known hname hfind hi] at hpass
        obtain ⟨tkn, behind', key', -, htake, rfl⟩ := afterValue_next hpass
        exact ⟨i, name, key, key', tkn, behind', hi, htake, rfl⟩

/-- A pass that goes on leaves less of the line. -/
theorem pass_rest {keys keys' : Keys} {t cur : Text} (h : 0 ∉ t)
    (hpass : pass keys (t ++ [0]) = some (.next keys' cur)) :
    ∃ t', cur = t' ++ [0] ∧ t' <:+ t ∧ t'.length < t.length := by
  cases hname : takeName keys (t ++ [0]) with
  | none => simp [pass, hname] at hpass
  | some taken =>
    cases taken with
    | stop => simp [pass, hname] at hpass
    | error => simp [pass, hname] at hpass
    | token w behind cur' =>
      obtain ⟨t', rfl, hsuffix, hlen⟩ := takeName_token h hname
      cases hkey : (keys.find w).bind (keys[·]?) with
      | none => simp [pass_unknown hname hkey] at hpass
      | some k =>
        obtain ⟨name, key⟩ := k
        obtain ⟨i, hfind, hi⟩ := Option.bind_eq_some_iff.1 hkey
        rw [pass_known hname hfind hi] at hpass
        obtain ⟨tkn, behind', key', htaken, -, -⟩ := afterValue_next hpass
        obtain ⟨t'', rfl, hsuffix'⟩ := takeValue_token (fun hmem => h (hsuffix.subset hmem)) htaken
        have hlen' := hsuffix'.length_le
        exact ⟨t'', rfl, hsuffix'.trans hsuffix, by omega⟩

/-- What the setting of a key keeps is kept by the loop, and in the end no key is missing. -/
theorem loop_induct {P : Keys → Prop}
    (hset : ∀ (keys : Keys) (i : Nat) (name : Text) (key key' : Key) (tkn behind : Text), P keys →
      keys[i]? = some (name, key) → key.take tkn behind = some (some key') → P (keys.set i (name, key')))
    {n : Nat} {keys keys' : Keys} {cur : Text} (h : loop n keys cur = some (some keys')) (hp : P keys) :
    P keys' ∧ keys'.missing = false := by
  induction n generalizing keys cur with
  | zero => simp [loop] at h
  | succ n ih =>
    rw [loop] at h
    split at h
    next => simp at h
    next => simp at h
    next =>
      simp only [Option.some.injEq, Option.ite_none_left_eq_some] at h
      obtain ⟨hmissing, rfl⟩ := h
      exact ⟨hp, by simpa using hmissing⟩
    next keys'' cur' hpass =>
      obtain ⟨i, name, key, key', tkn, behind, hi, htake, rfl⟩ := pass_sets hpass
      exact ih h (hset keys i name key key' tkn behind hp hi htake)

theorem Plain.withDefaults {keys : Keys} (h : Plain keys) : Plain keys.withDefaults := by
  intro k hk hstr
  obtain ⟨k', hk', rfl⟩ := List.mem_map.1 hk
  dsimp only at hstr ⊢
  split at hstr
  next hreq =>
    rw [if_pos hreq]
    exact h k' hk' hstr
  next hreq =>
    rw [if_neg hreq]
    exact h k' hk' hstr

theorem Plain.set {keys : Keys} (h : Plain keys) {i : Nat} {name tkn behind : Text} {key key' : Key}
    (hi : keys[i]? = some (name, key)) (htake : key.take tkn behind = some (some key')) :
    Plain (keys.set i (name, key')) := by
  intro k hk hstr
  rcases List.mem_or_eq_of_mem_set hk with hmem | rfl
  · exact h k hmem hstr
  · obtain ⟨hcan, hhandle⟩ := take_kind htake
    rw [hhandle]
    exact h _ (List.mem_of_getElem? hi) (hcan.symm.trans hstr)

/-- The keys and what is left of the line before a pass and before the one that follows. -/
def Follows (s s' : Keys × Text) : Prop := pass s.1 (s.2 ++ [0]) = some (.next s'.1 (s'.2 ++ [0]))

/-- The parser comes to a pass with these keys and this left of the line. -/
def ComesTo (keys : Keys) (line : Text) (keys' : Keys) (t : Text) : Prop :=
  Relation.ReflTransGen Follows (keys.withDefaults, line) (keys', t)

/-- **The loop leaves the line when a pass does that it comes to.** -/
theorem loop_none_iff {n : Nat} {keys : Keys} {t : Text} (hplain : Plain keys) (h : 0 ∉ t) (hn : t.length < n) :
    loop n keys (t ++ [0]) = none
      ↔ ∃ s, Relation.ReflTransGen Follows (keys, t) s ∧ ¬ PassInside s.1 s.2 := by
  induction n generalizing keys t with
  | zero => omega
  | succ n ih =>
    have hnone := pass_none_iff hplain h
    -- nothing follows a pass that does not go on
    have hlast : (∀ keys' cur, pass keys (t ++ [0]) ≠ some (.next keys' cur)) →
        ((∃ s, Relation.ReflTransGen Follows (keys, t) s ∧ ¬ PassInside s.1 s.2) ↔ ¬ PassInside keys t) := by
      intro hend
      constructor
      · rintro ⟨s, hs, hout⟩
        rcases Relation.ReflTransGen.cases_head hs with rfl | ⟨s', hfollows, -⟩
        · exact hout
        · exact absurd hfollows (hend _ _)
      · exact fun hout => ⟨_, .refl, hout⟩
    rw [loop]
    cases hpass : pass keys (t ++ [0]) with
    | none =>
      rw [hlast fun _ _ => by rw [hpass]; simp]
      simpa [hpass] using hnone.1 hpass
    | some p =>
      rw [hpass] at hnone hlast
      have hin : PassInside keys t := by
        by_contra hout
        simpa using hnone.2 hout
      cases p with
      | stop => simp [hlast, hin]
      | error => simp [hlast, hin]
      | next keys' cur =>
        obtain ⟨t', rfl, hsuffix, hlen⟩ := pass_rest h hpass
        obtain ⟨i, name, key, key', tkn, behind, hi, htake, rfl⟩ := pass_sets hpass
        dsimp only
        rw [ih (hplain.set hi htake) (fun hmem => h (hsuffix.subset hmem)) (by omega)]
        constructor
        · rintro ⟨s, hs, hout⟩
          have hfollows : Follows (keys, t) (keys.set i (name, key'), t') := hpass
          exact ⟨s, .head hfollows hs, hout⟩
        · rintro ⟨s, hs, hout⟩
          rcases Relation.ReflTransGen.cases_head hs with rfl | ⟨⟨ks, t''⟩, hfollows, hrest⟩
          · exact absurd hin hout
          · have heq := hpass.symm.trans hfollows
            simp only [Option.some.injEq, Pass.next.injEq, List.append_cancel_right_eq] at heq
            obtain ⟨rfl, rfl⟩ := heq
            exact ⟨s, hrest, hout⟩

theorem parseKeys_isSome_iff {keys : Keys} {line : Text} (hplain : Plain keys) (h : 0 ∉ line) :
    (parseKeys keys (line ++ [0])).isSome ↔ ∀ keys' t, ComesTo keys line keys' t → PassInside keys' t := by
  have hfuel : line.length < (line ++ [0]).length + 1 := by
    rw [List.length_append]
    omega
  rw [Option.isSome_iff_ne_none, Ne, parseKeys, loop_none_iff hplain.withDefaults h hfuel]
  push Not
  exact ⟨fun hall keys' t hcomes => hall (keys', t) hcomes, fun hall s hs => hall s.1 s.2 hs⟩

/-! ## Keys that are always parsed inside the line -/

/-- No key takes a text or a version. -/
def Numbers (keys : Keys) : Prop := ∀ k ∈ keys, k.2.canStr = false ∧ k.2.handle ≠ some .getPwrVer

theorem Numbers.plain {keys : Keys} (h : Numbers keys) : Plain keys := by
  intro k hk hstr
  simp [(h k hk).1] at hstr

theorem Numbers.withDefaults {keys : Keys} (h : Numbers keys) : Numbers keys.withDefaults := by
  intro k hk
  obtain ⟨k', hk', rfl⟩ := List.mem_map.1 hk
  have hkey := h k' hk'
  dsimp only
  split <;> exact hkey

theorem Numbers.inside {keys : Keys} (h : Numbers keys) (t : Text) : PassInside keys t := by
  have hany : keys.any (·.2.canStr) = false := List.any_eq_false.2 fun k hk => by simp [(h k hk).1]
  rw [PassInside, if_neg (by simp [hany])]
  cases firstWord t with
  | none => trivial
  | some found =>
    obtain ⟨w, rest⟩ := found
    cases hkey : (keys.find w).bind (keys[·]?) with
    | none => simp [hkey]
    | some k =>
      obtain ⟨name, key⟩ := k
      obtain ⟨i, -, hi⟩ := Option.bind_eq_some_iff.1 hkey
      obtain ⟨hcan, hhandle⟩ := h _ (List.mem_of_getElem? hi)
      have hstr : key.canStr = false := hcan
      simp only [hkey, hstr, Bool.false_eq_true, if_false]
      split
      next => exact fun hbare => hhandle hbare.1
      next => exact fun _ hbare => hhandle hbare.1

theorem Numbers.comesTo {keys keys' : Keys} {line t : Text} (h : Numbers keys) (hline : 0 ∉ line)
    (hcomes : ComesTo keys line keys' t) : Numbers keys' ∧ 0 ∉ t := by
  have hinv : ∀ s, Relation.ReflTransGen Follows (keys.withDefaults, line) s → Numbers s.1 ∧ 0 ∉ s.2 := by
    intro s hs
    induction hs with
    | refl => exact ⟨h.withDefaults, hline⟩
    | tail _ hfollows ih =>
      obtain ⟨hnumbers, hzero⟩ := ih
      obtain ⟨t', ht', hsuffix, -⟩ := pass_rest hzero hfollows
      obtain ⟨i, name, key, key', tkn, behind, hi, htake, hkeys⟩ := pass_sets hfollows
      rw [List.append_cancel_right_eq] at ht'
      rw [ht', hkeys]
      refine ⟨fun k hk => ?_, fun hmem => hzero (hsuffix.subset hmem)⟩
      rcases List.mem_or_eq_of_mem_set hk with hmem | rfl
      · exact hnumbers k hmem
      · obtain ⟨hcan, hhandle⟩ := take_kind htake
        rw [hcan, hhandle]
        exact hnumbers _ (List.mem_of_getElem? hi)
  exact hinv _ hcomes

/-- **Keys for numbers, flags and names are parsed inside of every line.** -/
theorem Numbers.parseKeys_isSome {keys : Keys} (h : Numbers keys) {line : Text} (hline : 0 ∉ line) :
    (parseKeys keys (line ++ [0])).isSome :=
  (parseKeys_isSome_iff h.plain hline).2 fun _ t hcomes => (h.comesTo hline hcomes).1.inside t

/-! ## Quoted texts -/

/-- A text as it is written in double quotes, with the single quotes escaped as well or not. -/
def escapeText (apostrophes : Bool) (s : Text) : Text :=
  s.flatMap fun c =>
    if c = chr '"' ∨ c = chr '\\' ∨ (apostrophes = true ∧ c = chr '\'') then [chr '\\', c] else [c]

theorem escapeText_cons (apostrophes : Bool) (c : UInt8) (s : Text) :
    escapeText apostrophes (c :: s)
      = (if c = chr '"' ∨ c = chr '\\' ∨ (apostrophes = true ∧ c = chr '\'') then [chr '\\', c] else [c])
        ++ escapeText apostrophes s := by
  simp [escapeText]

/-- **The escapes of a text are undone.** -/
theorem unescape_escapeText (apostrophes : Bool) (s : Text) :
    unescape (escapeText apostrophes s) = some s := by
  induction s with
  | nil => rfl
  | cons c s ih =>
    rw [escapeText_cons]
    split
    next hc =>
      have hesc : escaped c = [c] := by
        rcases hc with rfl | rfl | ⟨-, rfl⟩ <;> decide
      simp only [List.cons_append, List.nil_append, unescape, if_true, ih, hesc, Option.map_some]
    next hc =>
      have hslash : c ≠ chr '\\' := by tauto
      rw [List.singleton_append]
      unfold unescape
      rw [if_neg hslash, ih, Option.map_some]

/-- No quote of a text is taken for the one that closes it. -/
theorem findClose_escapeText (apostrophes : Bool) (prev : UInt8) {s : Text} (h : 0 ∉ s) (mem : Text) :
    findClose (chr '"') prev (escapeText apostrophes s ++ mem)
      = (findClose (chr '"') (s.getLastD prev) mem).map fun found => found.map fun (start, rest) =>
        (escapeText apostrophes s ++ start, rest) := by
  induction s generalizing prev with
  | nil =>
    rw [show escapeText apostrophes [] = [] from rfl, List.nil_append, List.getLastD_nil]
    cases findClose (chr '"') prev mem with
    | none => rfl
    | some found => cases found <;> rfl
  | cons c s ih =>
    have hc : c ≠ 0 := fun heq => h (by simp [heq])
    have hrest := ih c fun hmem => h (List.mem_cons_of_mem _ hmem)
    have hcompose : ∀ (pre : Text) (o : Option (Option (Text × Text))),
        ((o.map fun found => found.map fun (start, rest) => (escapeText apostrophes s ++ start, rest)).map
            fun found => found.map fun (start, rest) => (pre ++ start, rest))
          = o.map fun found => found.map fun (start, rest) => (pre ++ escapeText apostrophes s ++ start, rest) := by
      intro pre o
      rcases o with - | - | ⟨start, rest⟩ <;> simp
    rw [escapeText_cons, List.getLastD_cons, ← hcompose, ← hrest]
    have hstep : ∀ (prev d : UInt8) (m : Text), d ≠ 0 → ¬ (d = chr '"' ∧ prev ≠ chr '\\') →
        findClose (chr '"') prev (d :: m) = (findClose (chr '"') d m).map fun found =>
          found.map fun (start, rest) => ([d] ++ start, rest) := by
      intro prev d m hd hopen
      rw [findClose, if_neg hd, if_neg hopen]
      rfl
    split
    next hesc =>
      -- the backslash, and what it stands in front of
      rw [List.append_assoc, List.cons_append, List.singleton_append,
        hstep _ _ _ (by decide) (fun hopen => absurd hopen.1 (by decide)), hstep _ _ _ hc (fun hopen => hopen.2 rfl)]
      rcases findClose (chr '"') c (escapeText apostrophes s ++ mem) with - | - | ⟨start, rest⟩ <;> simp
    next hesc =>
      rw [List.append_assoc, List.singleton_append, hstep _ _ _ hc (fun hopen => hesc (.inl hopen.1))]

theorem findClose_length {close prev : UInt8} {mem start rest : Text}
    (h : findClose close prev mem = some (some (start, rest))) : rest.length < mem.length := by
  induction mem generalizing prev start with
  | nil => simp [findClose] at h
  | cons c r ih =>
    rw [findClose] at h
    split_ifs at h
    · simp at h
    · simp only [Option.some.injEq, Prod.mk.injEq] at h
      rw [← h.2]
      simp
    · obtain ⟨found, hr, hfound⟩ := Option.map_eq_some_iff.1 h
      obtain ⟨⟨start', rest'⟩, rfl, heq⟩ := Option.map_eq_some_iff.1 hfound
      simp only [Prod.mk.injEq] at heq
      obtain ⟨-, rfl⟩ := heq
      have := ih hr
      rw [List.length_cons]
      omega

theorem parseQuote_quoted (apostrophes : Bool) {s : Text} (h : 0 ∉ s) (rest : Text) :
    parseQuote (chr '"' :: (escapeText apostrophes s ++ chr '"' :: rest))
      = match findClose (chr '"') (s.getLastD (chr '"')) (chr '"' :: rest) with
        | none => none
        | some none => some .error
        | some (some (start, lastStr)) =>
          (unescape (escapeText apostrophes s ++ start)).map fun tkn => .found tkn lastStr := by
  rw [parseQuote, skipSeparators, if_neg (by decide)]
  dsimp only
  rw [if_neg (by decide), if_neg (by decide), findClose_escapeText apostrophes _ h]
  rcases findClose (chr '"') (s.getLastD (chr '"')) (chr '"' :: rest) with - | - | ⟨start, lastStr⟩ <;> rfl

/-- **A quoted text comes back unless it ends in a backslash.** -/
theorem parseQuote_escapeText_iff (apostrophes : Bool) {s : Text} (h : 0 ∉ s) (rest : Text) :
    parseQuote (chr '"' :: (escapeText apostrophes s ++ chr '"' :: rest)) = some (.found s rest)
      ↔ s.getLast? ≠ some (chr '\\') := by
  rw [parseQuote_quoted apostrophes h rest, List.getLastD_eq_getLast?]
  by_cases hlast : s.getLast? = some (chr '\\')
  · -- the quote behind the text is not found, and what is found is further down
    rw [hlast, Option.getD_some]
    refine iff_of_false (fun hfound => ?_) (by simp)
    rcases hclose : findClose (chr '"') (chr '\\') (chr '"' :: rest) with - | - | ⟨start, lastStr⟩
    · simp [hclose] at hfound
    · simp [hclose] at hfound
    · rw [hclose] at hfound
      dsimp only at hfound
      obtain ⟨tkn, -, heq⟩ := Option.map_eq_some_iff.1 hfound
      simp only [Quote.found.injEq] at heq
      rw [findClose, if_neg (by decide), if_neg (by simp)] at hclose
      obtain ⟨found, hr, hmap⟩ := Option.map_eq_some_iff.1 hclose
      obtain ⟨⟨start', rest'⟩, rfl, hpair⟩ := Option.map_eq_some_iff.1 hmap
      simp only [Prod.mk.injEq] at hpair
      have hlen := findClose_length hr
      rw [hpair.2, heq.2] at hlen
      omega
  · have hprev : s.getLast?.getD (chr '"') ≠ chr '\\' := by
      cases hs : s.getLast? with
      | none => decide
      | some c =>
        rw [hs] at hlast
        simpa using hlast
    rw [findClose, if_neg (by decide), if_pos ⟨rfl, hprev⟩]
    simp [unescape_escapeText, hlast]

/-! ## Command lines -/

instance (keys : Keys) : Decidable (Plain keys) :=
  inferInstanceAs (Decidable (∀ k ∈ keys, k.2.canStr = true → k.2.handle = none))

theorem plain_builder {id : MngId} {b : Builder id} (h : builder id = some b) : Plain b.keys := by
  cases id <;> simp only [builder, Option.some.injEq, reduceCtorEq] at h <;> subst h <;> decide

/-- **What is read of a command line, and what comes back of a text in quotes.** The scanner stays in the line
    when something is left that is no separator, the parser when each pass does that it comes to. -/
theorem commandLine_iff {id : MngId} {b : Builder id} (hb : builder id = some b) {line : Text}
    (hline : 0 ∉ line) (apostrophes : Bool) {s : Text} (hs : 0 ∉ s) (rest : Text) :
    ((parseQuote (line ++ [0])).isSome ↔ piece line ≠ .blank) ∧
      ((parseKeys b.keys (line ++ [0])).isSome
        ↔ ∀ keys t, ComesTo b.keys line keys t → PassInside keys t) ∧
      (parseQuote (chr '"' :: (escapeText apostrophes s ++ chr '"' :: rest)) = some (.found s rest)
        ↔ s.getLast? ≠ some (chr '\\')) := by
  refine ⟨?_, parseKeys_isSome_iff (plain_builder hb) hline, parseQuote_escapeText_iff apostrophes hs rest⟩
  rw [parseQuote_line hline]
  cases piece line <;> simp

/-- A description in quotes that nothing closes. -/
theorem commandLine_openQuote :
    ((parseQuote (txt "\"abc" ++ [0])).isSome ↔ piece (txt "\"abc") ≠ .blank) ∧
      ((parseKeys userDescriptionB.keys (txt "\"abc" ++ [0])).isSome
        ↔ ∀ keys t, ComesTo userDescriptionB.keys (txt "\"abc") keys t → PassInside keys t) ∧
      (parseQuote (chr '"' :: (escapeText true (txt "a\\'") ++ chr '"' :: [0])) = some (.found (txt "a\\'") [0])
        ↔ (txt "a\\'").getLast? ≠ some (chr '\\')) :=
  commandLine_iff (b := userDescriptionB) rfl (by decide) true (by decide) [0]

/-- A description of one word: behind it the scanner goes on over the zero. And a quoted backslash is not closed. -/
theorem parseKeys_outside :
    parseKeys userDescriptionB.keys (txt "abc" ++ [0]) = none ∧
      parseQuote (chr '"' :: (escapeText false (txt "\\") ++ chr '"' :: [0])) = some .error := by
  decide

end PtpMgmt.MsgBuild
