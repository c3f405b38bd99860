import Mathlib.Logic.Relation
import PtpMgmt.Pmc.Builders

set_option autoImplicit false

/-! # Where the parser of a command line looks

The memory that a line may be read in is the line with its zero. What `parse_quote` and `strtok_r` do in it is
told here by what stands next on the line: nothing but separators, a quoted text, a quote that nothing closes, or
a word. `parse_quote` takes the zero for one more separator, so that it leaves the memory whenever nothing but
separators is left, and `getPwrVer` looks behind a bare start of a name that ends the line. Nothing else does. -/

namespace PtpMgmt.MsgBuild

open Json
open Cfg.SppKeys (isSpaceToken)

/-! ## What stands next on a line -/

/-- The first word, and what follows it. -/
def firstWord (t : Text) : Option (Text × Text) :=
  match t.dropWhile isSpaceToken with
  | [] => none
  | c :: r => some ((c :: r).takeWhile fun c => !isSpaceToken c, (c :: r).dropWhile fun c => !isSpaceToken c)

/-- The text up to a quote that closes it, and what follows the quote. -/
def closing (close prev : UInt8) : Text → Option (Text × Text)
  | [] => none
  | c :: r =>
    if c = close ∧ prev ≠ chr '\\' then some ([], r)
    else (closing close c r).map fun (start, rest) => (c :: start, rest)

inductive Piece
  | blank
  | openQuote
  | quoted (tkn rest : Text)
  | word (tkn rest : Text)
  deriving DecidableEq

/-- What `parse_quote` comes to. -/
def piece (t : Text) : Piece :=
  match t.dropWhile isSpaceToken with
  | [] => .blank
  | c :: r =>
    if c = chr '"' ∨ c = chr '\'' then
      match closing c c r with
      | none => .openQuote
      | some (start, rest) => .quoted ((unescape start).getD []) rest
    else .word ((c :: r).takeWhile fun c => !isSpaceToken c) ((c :: r).dropWhile fun c => !isSpaceToken c)

/-- What is behind the zero that `strtok_r` puts at the end of a word. -/
def behindWord (rest : Text) : Text :=
  match rest with
  | [] => []
  | _ :: r => r ++ [0]

/-! ## The scanners on a line -/

theorem isSpaceToken_zero : isSpaceToken 0 = false := by decide

theorem not_mem_dropWhile {t : Text} (h : 0 ∉ t) (p : UInt8 → Bool) : 0 ∉ t.dropWhile p :=
  fun hmem => h ((List.dropWhile_suffix p).subset hmem)

/-- The separators in front of something, when the zero is no separator. -/
theorem dropWhile_line (t : Text) :
    (t ++ [0]).dropWhile isSpaceToken = t.dropWhile isSpaceToken ++ [0] := by
  induction t with
  | nil => simp [isSpaceToken_zero]
  | cons c r ih =>
    rw [List.cons_append, List.dropWhile_cons, List.dropWhile_cons, ih]
    split <;> rfl

/-- The zero is a separator here. -/
theorem skipSeparators_line {t : Text} (h : 0 ∉ t) :
    skipSeparators (t ++ [0])
      = match t.dropWhile isSpaceToken with
        | [] => none
        | c :: r => some (c :: r ++ [0]) := by
  induction t with
  | nil => simp [skipSeparators]
  | cons c r ih =>
    have hc : (c == 0) = false := by
      simpa using fun heq : c = 0 => h (by simp [heq])
    rw [List.cons_append, skipSeparators, List.dropWhile_cons, hc, Bool.or_false]
    split
    · exact ih fun hmem => h (List.mem_cons_of_mem _ hmem)
    · rfl

theorem findClose_line {close prev : UInt8} {t : Text} (h : 0 ∉ t) :
    findClose close prev (t ++ [0])
      = some ((closing close prev t).map fun (start, rest) => (start, rest ++ [0])) := by
  induction t generalizing prev with
  | nil => simp [findClose, closing]
  | cons c r ih =>
    have hc : c ≠ 0 := fun heq => h (by simp [heq])
    rw [List.cons_append, findClose, closing, if_neg hc]
    split
    · rfl
    · rw [ih fun hmem => h (List.mem_cons_of_mem _ hmem)]
      cases closing close c r <;> rfl

/-- What closes a text does not stand behind a backslash. -/
theorem closing_last {close prev : UInt8} {t start rest : Text} (h : closing close prev t = some (start, rest)) :
    (prev :: start).getLast? ≠ some (chr '\\') := by
  induction t generalizing prev start with
  | nil => simp [closing] at h
  | cons c r ih =>
    rw [closing] at h
    split at h
    next hc =>
      simp only [Option.some.injEq, Prod.mk.injEq] at h
      rw [← h.1]
      simpa using hc.2
    next =>
      obtain ⟨⟨start', rest'⟩, hr, heq⟩ := Option.map_eq_some_iff.1 h
      simp only [Prod.mk.injEq] at heq
      obtain ⟨hstart, rfl⟩ := heq
      rw [← hstart, List.getLast?_cons_cons]
      exact ih hr

/-- The rest behind a quoted text is a part of the line. -/
theorem closing_suffix {close prev : UInt8} {t start rest : Text} (h : closing close prev t = some (start, rest)) :
    rest <:+ t ∧ rest.length < t.length := by
  induction t generalizing prev start with
  | nil => simp [closing] at h
  | cons c r ih =>
    rw [closing] at h
    split at h
    · simp only [Option.some.injEq, Prod.mk.injEq] at h
      rw [← h.2]
      exact ⟨List.suffix_cons c r, by simp⟩
    · obtain ⟨⟨start', rest'⟩, hr, heq⟩ := Option.map_eq_some_iff.1 h
      simp only [Prod.mk.injEq] at heq
      obtain ⟨-, rfl⟩ := heq
      obtain ⟨hsuffix, hlen⟩ := ih hr
      exact ⟨hsuffix.trans (List.suffix_cons c r), by rw [List.length_cons]; omega⟩

/-- A text that ends in no backslash has its escapes complete. -/
theorem unescape_isSome (t : Text) (h : t.getLast? ≠ some (chr '\\')) : (unescape t).isSome := by
  induction t using unescape.induct with
  | case1 => rfl
  | case2 => simp at h
  | case3 d r ih =>
    rw [unescape, if_pos rfl, Option.isSome_map]
    apply ih
    cases r with
    | nil => simp
    | cons e r => simpa [List.getLast?_cons_cons] using h
  | case4 c r hc ih =>
    unfold unescape
    rw [if_neg hc, Option.isSome_map]
    apply ih
    cases r with
    | nil => simp
    | cons e r => simpa [List.getLast?_cons_cons] using h

theorem parseQuote_line {t : Text} (h : 0 ∉ t) :
    parseQuote (t ++ [0])
      = match piece t with
        | .blank => none
        | .openQuote => some .error
        | .quoted tkn rest => some (.found tkn (rest ++ [0]))
        | .word _ _ => some .plain := by
  have hdrop := not_mem_dropWhile h isSpaceToken
  rw [parseQuote, skipSeparators_line h, piece]
  cases hd : t.dropWhile isSpaceToken with
  | nil => rfl
  | cons c r =>
    rw [hd] at hdrop
    have hc : c ≠ 0 := fun heq => hdrop (by simp [heq])
    simp only [List.cons_append, if_neg hc]
    by_cases hquote : c = chr '"' ∨ c = chr '\''
    · rw [if_neg (by tauto), if_pos hquote, findClose_line fun hmem => hdrop (List.mem_cons_of_mem _ hmem)]
      cases hclosing : closing c c r with
      | none => rfl
      | some found =>
        obtain ⟨start, rest⟩ := found
        have hslash : c ≠ chr '\\' := by rcases hquote with rfl | rfl <;> decide
        have hlast : start.getLast? ≠ some (chr '\\') := by
          intro heq
          have := closing_last hclosing
          rw [List.getLast?_cons, heq] at this
          simp at this
        obtain ⟨tkn, htkn⟩ := Option.isSome_iff_exists.1 (unescape_isSome start hlast)
        simp [htkn]
    · rw [if_pos (by tauto), if_neg hquote]

/-- A word ends at a separator or at the zero. -/
theorem word_line {t : Text} (h : 0 ∉ t) :
    (t ++ [0]).takeWhile (fun c => !(isSpaceToken c || c == 0)) = t.takeWhile (fun c => !isSpaceToken c) ∧
      (t ++ [0]).dropWhile (fun c => !(isSpaceToken c || c == 0))
        = t.dropWhile (fun c => !isSpaceToken c) ++ [0] := by
  induction t with
  | nil => exact ⟨rfl, rfl⟩
  | cons c r ih =>
    have hc : (c == 0) = false := by
      simpa using fun heq : c = 0 => h (by simp [heq])
    obtain ⟨htake, hdrop⟩ := ih fun hmem => h (List.mem_cons_of_mem _ hmem)
    simp only [List.cons_append, List.takeWhile_cons, List.dropWhile_cons, hc, Bool.or_false, htake, hdrop]
    cases isSpaceToken c <;> simp

theorem strtok_line {t : Text} (h : 0 ∉ t) :
    strtok (t ++ [0])
      = some (match firstWord t with
        | none => (none, [0])
        | some (w, rest) => (some (w, behindWord rest), rest.tail ++ [0])) := by
  have hdrop := not_mem_dropWhile h isSpaceToken
  rw [strtok, dropWhile_line, firstWord]
  cases hd : t.dropWhile isSpaceToken with
  | nil => rfl
  | cons c r =>
    rw [hd] at hdrop
    have hc : c ≠ 0 := fun heq => hdrop (by simp [heq])
    obtain ⟨htake, hrest⟩ := word_line hdrop
    have hnot := not_mem_dropWhile hdrop fun c => !isSpaceToken c
    simp only [List.cons_append, if_neg hc] at htake hrest ⊢
    rw [htake, hrest]
    cases hw : (c :: r).dropWhile fun c => !isSpaceToken c with
    | nil => rfl
    | cons d behind =>
      rw [hw] at hnot
      have hd0 : d ≠ 0 := fun heq => hnot (by simp [heq])
      simp [hd0, behindWord]

/-! ## Tokens on a line -/

theorem takeNormal_line {t : Text} (h : 0 ∉ t) (last : Text → Taken) :
    takeNormal (t ++ [0]) last
      = some (match firstWord t with
        | none => last [0]
        | some (w, rest) => .token w (behindWord rest) (rest.tail ++ [0])) := by
  rw [takeNormal, strtok_line h]
  cases firstWord t <;> rfl

/-- A word is what `strtok_r` finds. -/
theorem firstWord_of_piece {t tkn rest : Text} (h : piece t = .word tkn rest) :
    firstWord t = some (tkn, rest) := by
  rw [piece] at h
  rw [firstWord]
  cases hd : t.dropWhile isSpaceToken with
  | nil => simp [hd] at h
  | cons c r =>
    rw [hd] at h
    dsimp only at h ⊢
    split at h
    · split at h <;> simp at h
    · simp only [Piece.word.injEq] at h
      rw [h.1, h.2]

theorem takeQuoted_line {t : Text} (h : 0 ∉ t) (last : Text → Taken) :
    takeQuoted (t ++ [0]) last
      = match piece t with
        | .blank => none
        | .openQuote => some .error
        | .quoted tkn rest => some (.token tkn (rest ++ [0]) (rest ++ [0]))
        | .word tkn rest => some (.token tkn (behindWord rest) (rest.tail ++ [0])) := by
  rw [takeQuoted, parseQuote_line h]
  cases hp : piece t with
  | blank => rfl
  | openQuote => rfl
  | quoted tkn rest => rfl
  | word tkn rest => rw [takeNormal_line h, firstWord_of_piece hp]

/-- What follows a word is a part of the line. -/
theorem firstWord_rest {t w rest : Text} (h : firstWord t = some (w, rest)) :
    rest.tail <:+ t ∧ rest.tail.length < t.length := by
  rw [firstWord] at h
  have hsuffix : t.dropWhile isSpaceToken <:+ t := List.dropWhile_suffix _
  split at h
  next => simp at h
  next c r hd =>
    simp only [Option.some.injEq, Prod.mk.injEq] at h
    rw [hd] at hsuffix
    have hrest : rest <:+ c :: r := by
      rw [← h.2]
      exact List.dropWhile_suffix _
    have hlen := hrest.length_le
    have hlen' := hsuffix.length_le
    refine ⟨((List.tail_suffix rest).trans hrest).trans hsuffix, ?_⟩
    rw [List.length_tail]
    simp only [List.length_cons] at hlen hlen'
    omega

theorem piece_rest {t tkn rest : Text} (h : piece t = .quoted tkn rest) :
    rest <:+ t ∧ rest.length < t.length := by
  rw [piece] at h
  have hsuffix : t.dropWhile isSpaceToken <:+ t := List.dropWhile_suffix _
  split at h
  next => simp at h
  next c r hd =>
    rw [hd] at hsuffix
    split at h
    · split at h
      next => simp at h
      next start rest' hclosing =>
        simp only [Piece.quoted.injEq] at h
        obtain ⟨-, rfl⟩ := h
        obtain ⟨hr, hlen⟩ := closing_suffix hclosing
        have hlen' := hsuffix.length_le
        rw [List.length_cons] at hlen'
        exact ⟨(hr.trans (List.suffix_cons c r)).trans hsuffix, by omega⟩
    · simp at h

/-! ## The values -/

/-- A comparison ends at a zero. -/
theorem sameMem_isSome (name : Text) {mem : Text} (h : 0 ∈ mem) : (sameMem name mem).isSome := by
  induction name generalizing mem with
  | nil =>
    cases mem with
    | nil => simp at h
    | cons c mem => rfl
  | cons d name ih =>
    cases mem with
    | nil => simp at h
    | cons c mem =>
      rw [sameMem]
      split
      next hc =>
        apply ih
        rcases List.mem_cons.1 h with heq | hmem
        · exact absurd heq.symm hc.1
        · exact hmem
      next => rfl

/-- A value is the bare start of the name of a version, and nothing follows it. -/
def BareVersion (key : Key) (tkn rest : Text) : Prop :=
  key.handle = some .getPwrVer ∧ sameName false tkn pwrVerBase = true ∧ rest = []

theorem getPwrVer_isSome {tkn behind : Text} (h : sameName false tkn pwrVerBase = true → 0 ∈ behind) :
    (getPwrVer tkn behind).isSome := by
  have hmem : 0 ∈ if sameName false tkn pwrVerBase then behind else tkn ++ [0] := by
    split
    next hbare => exact h hbare
    next => simp
  obtain ⟨none, hnone⟩ := Option.isSome_iff_exists.1 (sameMem_isSome (txt "NONE") hmem)
  obtain ⟨y2011, h2011⟩ := Option.isSome_iff_exists.1 (sameMem_isSome (txt "2011") hmem)
  obtain ⟨y2017, h2017⟩ := Option.isSome_iff_exists.1 (sameMem_isSome (txt "2017") hmem)
  simp only [getPwrVer, hnone, h2011, h2017]
  cases none <;> cases y2011 <;> cases y2017 <;> rfl

theorem run_none_iff {handle : Handle} {tkn rest : Text} {num : Int} :
    handle.run tkn (behindWord rest) num = none
      ↔ handle = .getPwrVer ∧ sameName false tkn pwrVerBase = true ∧ rest = [] := by
  cases handle with
  | getPwrVer =>
    simp only [Handle.run, true_and]
    constructor
    · intro hnone
      by_contra hbare
      have hsome : (getPwrVer tkn (behindWord rest)).isSome := by
        apply getPwrVer_isSome
        intro hname
        cases rest with
        | nil => exact absurd ⟨hname, rfl⟩ hbare
        | cons d r => simp [behindWord]
      rw [hnone] at hsome
      simp at hsome
    · rintro ⟨hname, rfl⟩
      rw [getPwrVer, if_pos hname]
      rfl
  | _ => simp [Handle.run]

/-- A value of a key is read to its end, but for the one that goes on behind it. -/
theorem take_none_iff (key : Key) (tkn rest : Text) :
    key.take tkn (behindWord rest) = none ↔ BareVersion key tkn rest := by
  rw [Key.take, BareVersion]
  cases hh : key.handle with
  | none => simp
  | some handle =>
    by_cases ht : tkn = []
    · subst ht
      have : sameName false [] pwrVerBase = false := by decide
      simp [this]
    · simp [ht, run_none_iff]

/-- What a value does not change of its key. -/
theorem take_kind {key key' : Key} {tkn behind : Text} (h : key.take tkn behind = some (some key')) :
    key'.canStr = key.canStr ∧ key'.handle = key.handle := by
  rw [Key.take] at h
  split at h
  next hnone =>
    have hranged : key.ranged.canStr = key.canStr ∧ key.ranged.handle = key.handle := by
      rw [Key.ranged]
      split <;> exact ⟨rfl, rfl⟩
    simp only [Option.some.injEq] at h
    split_ifs at h <;> simp only [Option.some.injEq] at h <;> (subst h; exact hranged)
  next handle hsome =>
    split at h
    next => simp at h
    next =>
      simp only [Option.map_eq_some_iff] at h
      obtain ⟨-, -, -, -, rfl⟩ := h
      exact ⟨rfl, rfl⟩

/-! ## A pass on a line -/

/-- The parsers of values are for keys that take no quoted text. -/
def Plain (keys : Keys) : Prop := ∀ k ∈ keys, k.2.canStr = true → k.2.handle = none

/-- What a pass asks of the line in front of it: where a text may stand something must stand that is no separator,
    and the bare start of the name of a version does not end the line. -/
def PassInside (keys : Keys) (t : Text) : Prop :=
  if keys.singleKey && keys.any (·.2.canStr) then
    match piece t with
    | .blank => False
    | .openQuote => True
    | .quoted _ rest => piece rest ≠ .blank
    | .word _ rest => piece rest.tail ≠ .blank
  else
    match firstWord t with
    | none => True
    | some (w, rest) =>
      match (keys.find w).bind (keys[·]?) with
      | none => True
      | some (_, key) =>
        if key.canStr then piece rest.tail ≠ .blank
        else
          match firstWord rest.tail with
          | some (v, rest') => ¬ BareVersion key v rest'
          | none => keys.singleKey = true → ¬ BareVersion key w rest

/-- What becomes of the token for the value of a key. -/
def afterValue (keys : Keys) (i : Nat) (name : Text) (key : Key) : Option Taken → Option Pass
  | none => none
  | some .error => some .error
  | some .stop => some .stop
  | some (.token tkn behind cur) =>
    match key.take tkn behind with
    | none => none
    | some none => some .error
    | some (some key) => some (.next (keys.set i (name, key)) cur)

theorem pass_unknown {keys : Keys} {cur tkn behind cur' : Text}
    (h : takeName keys cur = some (.token tkn behind cur')) (hkey : (keys.find tkn).bind (keys[·]?) = none) :
    pass keys cur = some .error := by
  rw [pass, h]
  cases hfind : keys.find tkn with
  | none => simp [hfind]
  | some i =>
    rw [hfind, Option.bind_some] at hkey
    simp [hfind, hkey]

theorem pass_known {keys : Keys} {cur tkn behind cur' name : Text} {i : Nat} {key : Key}
    (h : takeName keys cur = some (.token tkn behind cur')) (hfind : keys.find tkn = some i)
    (hkey : keys[i]? = some (name, key)) :
    pass keys cur = afterValue keys i name key (takeValue keys key tkn behind cur') := by
  simp only [pass, h, hfind, hkey]
  rcases takeValue keys key tkn behind cur' with - | - | - | ⟨tkn, behind, cur⟩
  · rfl
  · rfl
  · rfl
  · rcases key.take tkn behind with - | - | key <;> rfl

theorem take_ne_none {key : Key} (h : key.handle = none) (tkn behind : Text) : key.take tkn behind ≠ none := by
  rw [Key.take, h]
  simp

theorem afterValue_token {keys : Keys} {i : Nat} {name : Text} {key : Key} {tkn behind cur : Text} :
    afterValue keys i name key (some (.token tkn behind cur)) = none ↔ key.take tkn behind = none := by
  rw [afterValue]
  rcases key.take tkn behind with - | - | key <;> simp

/-- A text is looked for as long as something is left that is no separator. -/
theorem quotedValue_none_iff {keys : Keys} {i : Nat} {name : Text} {key : Key} {tkn behind t : Text}
    (h : 0 ∉ t) (hstr : key.canStr = true) (hhandle : key.handle = none) :
    afterValue keys i name key (takeValue keys key tkn behind (t ++ [0])) = none ↔ piece t = .blank := by
  rw [takeValue, if_pos hstr, takeQuoted_line h]
  cases piece t with
  | blank => simp [afterValue]
  | openQuote => simp [afterValue]
  | quoted tkn rest => simp [afterValue_token, take_ne_none hhandle]
  | word tkn rest => simp [afterValue_token, take_ne_none hhandle]

/-- A word is taken without a look behind the line, unless its parser looks there. -/
theorem wordValue_none_iff {keys : Keys} {i : Nat} {name : Text} {key : Key} {w rest : Text}
    (h : 0 ∉ rest.tail) (hstr : key.canStr = false) :
    afterValue keys i name key (takeValue keys key w (behindWord rest) (rest.tail ++ [0])) = none
      ↔ ¬ match firstWord rest.tail with
        | some (v, rest') => ¬ BareVersion key v rest'
        | none => keys.singleKey = true → ¬ BareVersion key w rest := by
  rw [takeValue, if_neg (by simp [hstr]), takeNormal_line h]
  cases firstWord rest.tail with
  | some found =>
    obtain ⟨v, rest'⟩ := found
    simp [afterValue_token, take_none_iff]
  | none =>
    cases keys.singleKey with
    | true => simp [afterValue_token, take_none_iff]
    | false => simp [afterValue]

theorem eq_singleton_of_singleKey {keys : Keys} (h : keys.singleKey = true) : ∃ k, keys = [k] :=
  List.length_eq_one_iff.1 (by simpa [Keys.singleKey] using h)

/-- **Where a pass leaves the line.** -/
theorem pass_none_iff {keys : Keys} {t : Text} (hplain : Plain keys) (h : 0 ∉ t) :
    pass keys (t ++ [0]) = none ↔ ¬ PassInside keys t := by
  by_cases htext : (keys.singleKey && keys.any (·.2.canStr)) = true
  · -- the one key is a text, and so is every token
    have hname : takeName keys (t ++ [0]) = takeQuoted (t ++ [0]) fun _ => .stop := by
      rw [takeName, if_pos htext]
    rw [Bool.and_eq_true] at htext
    obtain ⟨hsingle, hany⟩ := htext
    obtain ⟨⟨name, key⟩, rfl⟩ := eq_singleton_of_singleKey hsingle
    have hstr : key.canStr = true := by simpa using hany
    have hhandle : key.handle = none := hplain _ (List.mem_singleton_self _) hstr
    have hfind : ∀ tkn, Keys.find [(name, key)] tkn = some 0 := fun tkn => by rw [Keys.find, if_pos hsingle]
    rw [takeQuoted_line h] at hname
    rw [PassInside, if_pos (by simp [hsingle, hstr])]
    cases hp : piece t with
    | blank =>
      rw [hp] at hname
      simp [pass, hname]
    | openQuote =>
      rw [hp] at hname
      simp [pass, hname]
    | quoted tkn rest =>
      rw [hp] at hname
      have hrest : 0 ∉ rest := fun hmem => h ((piece_rest hp).1.subset hmem)
      rw [pass_known hname (hfind tkn) rfl, quotedValue_none_iff hrest hstr hhandle]
      simp
    | word tkn rest =>
      rw [hp] at hname
      have hrest : 0 ∉ rest.tail := fun hmem => h ((firstWord_rest (firstWord_of_piece hp)).1.subset hmem)
      rw [pass_known hname (hfind tkn) rfl, quotedValue_none_iff hrest hstr hhandle]
      simp
  -- the name is a word; its value is a quoted text or another word
  · have hname : takeName keys (t ++ [0]) = takeNormal (t ++ [0]) fun _ => .stop := by
      rw [takeName, if_neg htext]
    rw [takeNormal_line h] at hname
    rw [PassInside, if_neg htext]
    cases hw : firstWord t with
    | none =>
      rw [hw] at hname
      simp [pass, hname]
    | some found =>
      obtain ⟨w, rest⟩ := found
      rw [hw] at hname
      have hrest : 0 ∉ rest.tail := fun hmem => h ((firstWord_rest hw).1.subset hmem)
      dsimp only at hname ⊢
      cases hkey : (keys.find w).bind (keys[·]?) with
      | none =>
        rw [pass_unknown hname hkey]
        simp
      | some k =>
        obtain ⟨name, key⟩ := k
        obtain ⟨i, hfind, hi⟩ := Option.bind_eq_some_iff.1 hkey
        rw [pass_known hname hfind hi]
        by_cases hstr : key.canStr = true
        · have hhandle : key.handle = none := hplain _ (List.mem_of_getElem? hi) hstr
          rw [quotedValue_none_iff hrest hstr hhandle]
          simp [hstr]
        · rw [wordValue_none_iff hrest (by simpa using hstr)]
          simp [hstr]

/-- What is left after a token is a part of the line. -/
theorem takeQuoted_token {t tkn behind cur : Text} (h : 0 ∉ t) {last : Text → Taken}
    (htake : takeQuoted (t ++ [0]) last = some (.token tkn behind cur)) :
    ∃ t', cur = t' ++ [0] ∧ t' <:+ t ∧ t'.length < t.length := by
  rw [takeQuoted_line h] at htake
  cases hp : piece t with
  | blank => simp [hp] at htake
  | openQuote => simp [hp] at htake
  | quoted tkn rest =>
    simp only [hp, Option.some.injEq, Taken.token.injEq] at htake
    obtain ⟨-, -, rfl⟩ := htake
    exact ⟨rest, rfl, piece_rest hp⟩
  | word tkn rest =>
    simp only [hp, Option.some.injEq, Taken.token.injEq] at htake
    obtain ⟨-, -, rfl⟩ := htake
    exact ⟨rest.tail, rfl, firstWord_rest (firstWord_of_piece hp)⟩

theorem takeNormal_token {t tkn behind cur : Text} (h : 0 ∉ t) {last : Text → Taken}
    (htake : takeNormal (t ++ [0]) last = some (.token tkn behind cur)) :
    (∃ t', cur = t' ++ [0] ∧ t' <:+ t ∧ t'.length < t.length) ∨ last [0] = .token tkn behind cur := by
  rw [takeNormal_line h] at htake
  cases hw : firstWord t with
  | none =>
    rw [hw] at htake
    exact .inr (Option.some.inj htake)
  | some found =>
    obtain ⟨w, rest⟩ := found
    simp only [hw, Option.some.injEq, Taken.token.injEq] at htake
    obtain ⟨-, -, rfl⟩ := htake
    exact .inl ⟨rest.tail, rfl, firstWord_rest hw⟩

end PtpMgmt.MsgBuild
