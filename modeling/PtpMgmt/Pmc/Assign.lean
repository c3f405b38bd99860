import PtpMgmt.Pmc.Inside

set_option autoImplicit false

/-! # What a command line gives the keys

With keys for integers and flags alone, the line is its words: a name and a value in turns. The loop goes over the
words, and what it leaves is told by the values that are written for each name. -/

namespace PtpMgmt.MsgBuild

open Json
open Cfg.SppKeys (isSpaceToken words)

/-! ## The words of a line -/

theorem words_cons_space {c : UInt8} (h : isSpaceToken c = true) (t : Text) : words (c :: t) = words t := by
  simp [words, List.splitOnP_cons_eq_if_modifyHead, h]

theorem words_dropWhile (t : Text) : words (t.dropWhile isSpaceToken) = words t := by
  induction t with
  | nil => rfl
  | cons c t ih =>
    rw [List.dropWhile_cons]
    split
    next h => rw [ih, words_cons_space h]
    next => rfl

/-- A line is its first word and the words behind it. -/
theorem words_eq (t : Text) :
    words t = match firstWord t with
      | none => []
      | some (w, rest) => w :: words rest.tail := by
  rw [← words_dropWhile, firstWord]
  cases hd : t.dropWhile isSpaceToken with
  | nil => rfl
  | cons c r =>
    dsimp only
    have hc : isSpaceToken c = false := by
      have := List.head_dropWhile_not isSpaceToken (l := t) (by simp [hd])
      simpa [hd] using this
    have hword : ∀ d ∈ (c :: r).takeWhile fun c => !isSpaceToken c, isSpaceToken d = false := by
      intro d hmem
      simpa using List.mem_takeWhile_imp hmem
    have hne : (c :: r).takeWhile (fun c => !isSpaceToken c) ≠ [] := by simp [hc]
    rw [words]
    nth_rewrite 1 [← List.takeWhile_append_dropWhile (p := fun c => !isSpaceToken c) (l := c :: r)]
    cases hrest : (c :: r).dropWhile fun c => !isSpaceToken c with
    | nil =>
      rw [List.append_nil, List.splitOnP_eq_singleton hword]
      simp [hne, words]
    | cons d behind =>
      have hd : isSpaceToken d = true := by
        have := List.head_dropWhile_not (fun c => !isSpaceToken c) (l := c :: r) (by simp [hrest])
        simpa [hrest] using this
      rw [List.splitOnP_append_cons_of_forall_mem hword d hd, List.filter_cons_of_pos (by simpa using hne)]
      rfl

/-! ## The loop over the words -/

/-- The keys are integers and flags alone. -/
def OnlyNumbers (keys : Keys) : Prop := ∀ k ∈ keys, k.2.canStr = false ∧ k.2.handle = none

/-- A value of an integer or of a flag. -/
def Key.read (key : Key) (v : Text) : Option Key :=
  let num := strtoll key.base v
  if num.2 = [] ∧ key.ranged.min ≤ num.1 ∧ num.1 ≤ key.ranged.max then
    some { key.ranged with strVal := v, num := num.1, req := false }
  else if key.flag then some { key.ranged with strVal := v, num := if isOn v then 1 else 0, req := false }
  else none

theorem take_eq_read {key : Key} (hstr : key.canStr = false) (hhandle : key.handle = none) (v behind : Text) :
    key.take v behind = some (key.read v) := by
  have hbase : key.ranged.base = key.base ∧ key.ranged.flag = key.flag ∧ key.ranged.canStr = false := by
    rw [Key.ranged]
    split <;> exact ⟨rfl, rfl, hstr⟩
  obtain ⟨hbase, hflag, hstr'⟩ := hbase
  simp only [Key.take, hhandle, Key.read, hbase, hflag, hstr', Bool.false_eq_true, if_false]

namespace Keys

/-- The keys once a value is given to one of them. -/
def give (keys : Keys) (i : Nat) (v : Text) : Option Keys :=
  match keys[i]? with
  | none => none
  | some (name, key) => (key.read v).map fun key => keys.set i (name, key)

/-- The keys behind the words, names and values in turns. A single key takes its name for its value where nothing
    else follows. -/
def assign (keys : Keys) : List Text → Option Keys
  | [] => some keys
  | [w] => (keys.find w).bind fun i => if keys.singleKey then keys.give i w else some keys
  | w :: v :: ws => (keys.find w).bind fun i => (keys.give i v).bind fun keys => assign keys ws

end Keys

theorem Key.read_kind {key key' : Key} {v : Text} (h : key.read v = some key') :
    key'.canStr = key.canStr ∧ key'.handle = key.handle := by
  have hranged : key.ranged.canStr = key.canStr ∧ key.ranged.handle = key.handle := by
    rw [Key.ranged]
    split <;> exact ⟨rfl, rfl⟩
  rw [Key.read] at h
  dsimp only at h
  split_ifs at h <;> simp only [Option.some.injEq] at h <;> (subst h; exact hranged)

theorem OnlyNumbers.give {keys keys' : Keys} (h : OnlyNumbers keys) {i : Nat} {v : Text}
    (hgive : keys.give i v = some keys') : OnlyNumbers keys' := by
  rw [Keys.give] at hgive
  split at hgive
  next => simp at hgive
  next name key hi =>
    obtain ⟨key', hread, rfl⟩ := Option.map_eq_some_iff.1 hgive
    intro k hk
    rcases List.mem_or_eq_of_mem_set hk with hmem | rfl
    · exact h k hmem
    · obtain ⟨hstr, hhandle⟩ := Key.read_kind hread
      rw [hstr, hhandle]
      exact h _ (List.mem_of_getElem? hi)

theorem OnlyNumbers.withDefaults {keys : Keys} (h : OnlyNumbers keys) : OnlyNumbers keys.withDefaults := by
  intro k hk
  obtain ⟨k', hk', rfl⟩ := List.mem_map.1 hk
  have hkey := h k' hk'
  dsimp only
  split <;> exact hkey

/-- The end of the parsing: what is required must have been given. -/
def Keys.finish (keys : Keys) : Option Keys := if keys.missing then none else some keys

/-- What becomes of keys that were given a value, or were refused it. -/
def Pass.ofGive (cur : Text) : Option Keys → Pass
  | none => .error
  | some keys => .next keys cur

/-- A value for a key. -/
theorem afterValue_eq {keys : Keys} (h : OnlyNumbers keys) {i : Nat} {name : Text} {key : Key}
    (hi : keys[i]? = some (name, key)) (v behind cur : Text) :
    afterValue keys i name key (some (.token v behind cur)) = some (.ofGive cur (keys.give i v)) := by
  obtain ⟨hstr, hhandle⟩ := h _ (List.mem_of_getElem? hi)
  simp only [afterValue, take_eq_read hstr hhandle, Keys.give, hi]
  cases key.read v <;> rfl

theorem find_lt {keys : Keys} {w : Text} {i : Nat} (h : keys.find w = some i) : i < keys.length := by
  rw [Keys.find] at h
  split at h
  next hsingle =>
    have hlen : keys.length = 1 := by simpa [Keys.singleKey] using hsingle
    simp only [Option.some.injEq] at h
    omega
  next => exact (List.findIdx?_eq_some_iff_findIdx_eq.1 h).1

section Pass

variable {keys : Keys} (hkeys : OnlyNumbers keys) {t : Text} (h : 0 ∉ t)

include hkeys h

theorem takeName_line :
    takeName keys (t ++ [0]) = some (match firstWord t with
      | none => .stop
      | some (w, rest) => .token w (behindWord rest) (rest.tail ++ [0])) := by
  have hany : keys.any (·.2.canStr) = false := List.any_eq_false.2 fun k hk => by simp [(hkeys k hk).1]
  unfold takeName
  rw [hany, Bool.and_false, if_neg Bool.false_ne_true]
  exact takeNormal_line h _

theorem pass_blank (hfirst : firstWord t = none) : pass keys (t ++ [0]) = some .stop := by
  rw [pass, takeName_line hkeys h, hfirst]

variable {w rest : Text} (hfirst : firstWord t = some (w, rest))

include hfirst

theorem pass_unnamed (hfind : keys.find w = none) : pass keys (t ++ [0]) = some .error := by
  have hname := takeName_line hkeys h
  rw [hfirst] at hname
  exact pass_unknown hname (by rw [hfind, Option.bind_none])

/-- What a pass does with the words behind a name. -/
theorem pass_named {i : Nat} (hfind : keys.find w = some i) :
    pass keys (t ++ [0]) = some (match firstWord rest.tail with
      | some (v, rest') => .ofGive (rest'.tail ++ [0]) (keys.give i v)
      | none => if keys.singleKey then .ofGive [0] (keys.give i w) else .stop) := by
  have hname := takeName_line hkeys h
  rw [hfirst] at hname
  have hrest : 0 ∉ rest.tail := fun hmem => h ((firstWord_rest hfirst).1.subset hmem)
  have hlt := find_lt hfind
  have hi := List.getElem?_eq_getElem hlt
  have hstr : keys[i].2.canStr = false := (hkeys _ (List.getElem_mem _)).1
  rw [pass_known hname hfind hi, takeValue, if_neg (by simp [hstr]), takeNormal_line hrest]
  cases firstWord rest.tail with
  | some found => exact afterValue_eq hkeys hi ..
  | none =>
    by_cases hsingle : keys.singleKey = true
    · simp only [hsingle, if_true]
      exact afterValue_eq hkeys hi ..
    · simp [hsingle, afterValue]

end Pass

theorem assign_unnamed {keys : Keys} {w : Text} (h : keys.find w = none) (ws : List Text) :
    keys.assign (w :: ws) = none := by
  cases ws <;> simp [Keys.assign, h]

/-- The loop once a value is given. -/
theorem loop_give {n : Nat} {keys : Keys} {cur cur' : Text} {given : Option Keys}
    (hpass : pass keys cur = some (.ofGive cur' given)) :
    loop (n + 1) keys cur = given.elim (some none) fun keys => loop n keys cur' := by
  rw [loop, hpass]
  cases given <;> rfl

/-- **The loop goes over the words of the line.** -/
theorem loop_words {n : Nat} {keys : Keys} (hkeys : OnlyNumbers keys) {t : Text} (h : 0 ∉ t) (hn : t.length < n) :
    loop n keys (t ++ [0]) = some ((keys.assign (words t)).bind Keys.finish) := by
  -- each pass takes a word at least, so the fuel is enough for the line
  induction n generalizing keys t with
  | zero => omega
  | succ n ih =>
    rw [words_eq]
    cases hfirst : firstWord t with
    | none =>
      rw [loop, pass_blank hkeys h hfirst]
      rfl
    | some found =>
      obtain ⟨w, rest⟩ := found
      obtain ⟨hsuffix, hlen⟩ := firstWord_rest hfirst
      have hrest : 0 ∉ rest.tail := fun hmem => h (hsuffix.subset hmem)
      have hwords := words_eq rest.tail
      cases hfind : keys.find w with
      | none =>
        rw [loop, pass_unnamed hkeys h hfirst hfind]
        dsimp only
        rw [assign_unnamed hfind]
        rfl
      | some i =>
        have hpass := pass_named hkeys h hfirst hfind
        cases hvalue : firstWord rest.tail with
        | none =>
          simp only [hvalue] at hpass hwords
          simp only [hwords, Keys.assign, hfind, Option.bind_some]
          by_cases hsingle : keys.singleKey = true
          · simp only [hsingle, if_true] at hpass ⊢
            rw [loop_give hpass]
            cases hgive : keys.give i w with
            | none => rfl
            | some keys' => exact ih (hkeys.give hgive) (t := []) (by simp) (by simp; omega)
          · simp only [hsingle, Bool.false_eq_true, if_false] at hpass ⊢
            rw [loop, hpass]
            rfl
        | some found' =>
          obtain ⟨v, rest'⟩ := found'
          obtain ⟨hsuffix', hlen'⟩ := firstWord_rest hvalue
          simp only [hvalue] at hpass hwords
          simp only [hwords, Keys.assign, hfind, Option.bind_some]
          rw [loop_give hpass]
          cases hgive : keys.give i v with
          | none => rfl
          | some keys' => exact ih (hkeys.give hgive) (fun hmem => hrest (hsuffix'.subset hmem)) (by omega)

theorem parseKeys_words {keys : Keys} (hkeys : OnlyNumbers keys) {t : Text} (h : 0 ∉ t) :
    parseKeys keys (t ++ [0]) = some ((keys.withDefaults.assign (words t)).bind Keys.finish) := by
  have hfuel : t.length < (t ++ [0]).length + 1 := by
    rw [List.length_append]
    omega
  exact loop_words hkeys.withDefaults h hfuel

/-! ## What no value changes -/

/-- The base and the range that the values of a key are read with. -/
def Key.kind (key : Key) : Nat × Bool × Int × Int := (key.base, key.flag, key.ranged.min, key.ranged.max)

/-- A value is in the range of a key. -/
def Key.Allows (key : Key) (num : Int) : Prop := key.ranged.min ≤ num ∧ num ≤ key.ranged.max

instance (key : Key) (num : Int) : Decidable (key.Allows num) := inferInstanceAs (Decidable (_ ∧ _))

theorem Key.ranged_kind (key : Key) (v : Text) (num : Int) :
    { key.ranged with strVal := v, num, req := false }.kind = key.kind := by
  by_cases h : key.flag = true <;> simp [Key.kind, Key.ranged, h]

theorem Key.read_kind_eq {key key' : Key} {v : Text} (h : key.read v = some key') : key'.kind = key.kind := by
  rw [Key.read] at h
  dsimp only at h
  split_ifs at h <;> simp only [Option.some.injEq] at h <;> (subst h; exact key.ranged_kind ..)

namespace Keys

/-- The names with the kinds of their keys. -/
def kinds (keys : Keys) : List (Text × Nat × Bool × Int × Int) := keys.map fun k => (k.1, k.2.kind)

theorem kinds_withDefaults (keys : Keys) : keys.withDefaults.kinds = keys.kinds := by
  simp only [kinds, withDefaults, List.map_map]
  apply List.map_congr_left
  intro k _
  simp only [Function.comp_apply]
  split
  · rfl
  · by_cases h : k.2.flag = true <;> simp [Key.kind, Key.ranged, h]

theorem kinds_give {keys keys' : Keys} {i : Nat} {v : Text} (h : keys.give i v = some keys') :
    keys'.kinds = keys.kinds := by
  rw [give] at h
  split at h
  next => simp at h
  next name key hi =>
    obtain ⟨key', hread, rfl⟩ := Option.map_eq_some_iff.1 h
    obtain ⟨hlt, hget⟩ := List.getElem?_eq_some_iff.1 hi
    apply List.ext_getElem (by simp [kinds])
    intro j hj hj'
    simp only [kinds, List.getElem_map, List.getElem_set]
    split
    next hij =>
      subst hij
      rw [hget, Key.read_kind_eq hread]
    next => rfl

theorem names_of_kinds {keys keys' : Keys} (h : keys'.kinds = keys.kinds) :
    keys'.map Prod.fst = keys.map Prod.fst := by
  have hmap := congrArg (List.map Prod.fst) h
  rwa [kinds, kinds, List.map_map, List.map_map] at hmap

theorem length_of_kinds {keys keys' : Keys} (h : keys'.kinds = keys.kinds) : keys'.length = keys.length := by
  simpa [kinds] using congrArg List.length h

theorem singleKey_of_kinds {keys keys' : Keys} (h : keys'.kinds = keys.kinds) : keys'.singleKey = keys.singleKey := by
  rw [singleKey, singleKey, length_of_kinds h]

/-- The key in a place is of the kind that stood there. -/
theorem getElem?_of_kinds {keys keys' : Keys} (h : keys'.kinds = keys.kinds) {i : Nat} {name : Text} {key : Key}
    (hi : keys[i]? = some (name, key)) : ∃ key', keys'[i]? = some (name, key') ∧ key'.kind = key.kind := by
  have hold : keys.kinds[i]? = some (name, key.kind) := by rw [kinds, List.getElem?_map, hi, Option.map_some]
  rw [← h, kinds, List.getElem?_map] at hold
  obtain ⟨⟨name', key'⟩, hi', heq⟩ := Option.map_eq_some_iff.1 hold
  simp only [Prod.mk.injEq] at heq
  obtain ⟨rfl, hkind⟩ := heq
  exact ⟨key', hi', hkind⟩

/-- The names differ, also without their case. -/
def Distinct (keys : Keys) : Prop := (keys.map fun k => k.1.map toLower).Nodup

theorem Distinct.names {keys : Keys} (h : Distinct keys) : (keys.map Prod.fst).Nodup := by
  have : ((keys.map Prod.fst).map fun name => name.map toLower).Nodup := by rwa [List.map_map]
  exact this.of_map _

theorem distinct_of_kinds {keys keys' : Keys} (h : keys'.kinds = keys.kinds) (hdistinct : Distinct keys) :
    Distinct keys' := by
  have hnames := congrArg (List.map fun name => name.map toLower) (names_of_kinds h)
  rw [List.map_map, List.map_map] at hnames
  rw [Distinct]
  exact hnames ▸ hdistinct

/-- A name finds its key, whatever its case. -/
theorem find_name {keys : Keys} (hdistinct : Distinct keys) {i : Nat} {name w : Text} {key : Key}
    (hi : keys[i]? = some (name, key)) (hw : sameName false w name = true) : keys.find w = some i := by
  obtain ⟨hlt, hget⟩ := List.getElem?_eq_some_iff.1 hi
  rw [find]
  split
  next hsingle =>
    have hlen : keys.length = 1 := by simpa [singleKey] using hsingle
    rw [show i = 0 by omega]
  next =>
    refine List.findIdx?_eq_some_iff_getElem.2 ⟨hlt, by rwa [hget], fun j hj hsame => ?_⟩
    -- two names for one word are one name without its case
    have hlower : (keys[j].1).map toLower = name.map toLower := by
      simp only [sameName, Bool.false_eq_true, if_false, beq_iff_eq] at hsame hw
      rw [← hsame, hw]
    have hnodup := List.nodup_iff_injective_getElem.1 hdistinct
    have := @hnodup ⟨j, by simp; omega⟩ ⟨i, by simpa using hlt⟩ (by simp [hlower, hget])
    simp only [Fin.mk.injEq] at this
    omega

/-! ## Keys by their names -/

/-- The key of a name. -/
def at? (keys : Keys) (name : Text) : Option Key := (keys.find? fun k => k.1 == name).map (·.2)

theorem at?_cons (k : Text × Key) (keys : Keys) (name : Text) :
    at? (k :: keys) name = if k.1 = name then some k.2 else at? keys name := by
  by_cases h : k.1 = name
  · simp [at?, h]
  · simp [at?, h, List.find?_cons_of_neg]

theorem at?_set {keys : Keys} (hnodup : (keys.map Prod.fst).Nodup) {i : Nat} {name : Text} {key key' : Key}
    (hi : keys[i]? = some (name, key)) (n : Text) :
    at? (keys.set i (name, key')) n = if n = name then some key' else keys.at? n := by
  induction keys generalizing i with
  | nil => simp at hi
  | cons k keys ih =>
    rw [List.map_cons, List.nodup_cons] at hnodup
    cases i with
    | zero =>
      simp only [List.getElem?_cons_zero, Option.some.injEq] at hi
      subst hi
      rw [List.set_cons_zero, at?_cons, at?_cons]
      by_cases h : n = name
      · simp [h]
      · simp [h, Ne.symm h]
    | succ i =>
      rw [List.getElem?_cons_succ] at hi
      rw [List.set_cons_succ, at?_cons, at?_cons, ih hnodup.2 hi]
      have hmem : name ∈ keys.map Prod.fst := List.mem_map.2 ⟨_, List.mem_of_getElem? hi, rfl⟩
      by_cases h : n = name
      · subst h
        have hne : k.1 ≠ n := fun heq => hnodup.1 (heq ▸ hmem)
        simp [hne]
      · simp [h]

theorem at?_of_mem {keys : Keys} (hnodup : (keys.map Prod.fst).Nodup) {name : Text} {key : Key}
    (h : (name, key) ∈ keys) : keys.at? name = some key := by
  induction keys with
  | nil => simp at h
  | cons k keys ih =>
    rw [List.map_cons, List.nodup_cons] at hnodup
    rw [at?_cons]
    rcases List.mem_cons.1 h with rfl | hmem
    · simp
    · have hne : k.1 ≠ name := fun heq => hnodup.1 (heq ▸ List.mem_map.2 ⟨_, hmem, rfl⟩)
      rw [if_neg hne, ih hnodup.2 hmem]

end Keys

/-! ## The values of a line -/

/-- The words are names and values of keys, in the order of the assignment: the names in any case, the values in
    any notation that the base of the key allows. -/
inductive Spelled (keys : Keys) : List (Text × Int) → List Text → Prop
  | nil : Spelled keys [] []
  | cons {name : Text} {key : Key} {num : Int} {vals : List (Text × Int)} {w v : Text} {ws : List Text} :
    (name, key) ∈ keys → sameName false w name = true → strtoll key.base v = (num, []) → key.Allows num →
      Spelled keys vals ws → Spelled keys ((name, num) :: vals) (w :: v :: ws)

/-- The value of a key, and whether it is still asked for. -/
def Key.state (key : Key) : Int × Bool := (key.num, key.req)

/-- A key once an assignment has been over it. -/
def Key.after (key : Key) : Option Int → Int × Bool
  | none => key.state
  | some num => (num, false)

theorem Keys.give_allowed {keys : Keys} {i : Nat} {name v : Text} {key : Key} {num : Int}
    (hi : keys[i]? = some (name, key)) (hv : strtoll key.base v = (num, [])) (hnum : key.Allows num) :
    keys.give i v = some (keys.set i (name, { key.ranged with strVal := v, num, req := false })) := by
  have hread : key.read v = some { key.ranged with strVal := v, num, req := false } := by
    rw [Key.read]
    dsimp only
    rw [hv, if_pos ⟨rfl, hnum⟩]
  rw [Keys.give, hi]
  simp [hread]

/-- **An assignment that is spelled out is made.** -/
theorem Keys.assign_spelled {keys ks : Keys} {vals : List (Text × Int)} {ws : List Text} (hdistinct : keys.Distinct)
    (hspelled : Spelled keys vals ws) (hnodup : (vals.map Prod.fst).Nodup) (hkinds : ks.kinds = keys.kinds) :
    ∃ ks', ks.assign ws = some ks' ∧ ks'.kinds = keys.kinds ∧
      ∀ name, (ks'.at? name).map Key.state = (ks.at? name).map fun key => key.after (vals.lookup name) := by
  induction hspelled generalizing ks with
  | nil => exact ⟨ks, rfl, hkinds, fun name => rfl⟩
  | @cons name key num vals w v ws hmem hw hv hnum _ ih =>
    rw [List.map_cons, List.nodup_cons] at hnodup
    obtain ⟨i, hi⟩ := List.getElem?_of_mem hmem
    obtain ⟨key', hi', hkind⟩ := Keys.getElem?_of_kinds hkinds hi
    have hdistinct' := Keys.distinct_of_kinds hkinds hdistinct
    have hfind := Keys.find_name hdistinct' hi' hw
    -- the key is read with the base and the range that it started with
    simp only [Key.kind, Prod.mk.injEq] at hkind
    obtain ⟨hbase, -, hmin, hmax⟩ := hkind
    rw [Key.Allows, ← hmin, ← hmax] at hnum
    have hgive := Keys.give_allowed hi' (hbase ▸ hv) hnum
    obtain ⟨ks', hassign, hkinds', hstate⟩ := ih hnodup.2 ((Keys.kinds_give hgive).trans hkinds)
    refine ⟨ks', ?_, hkinds', fun n => ?_⟩
    · rw [Keys.assign, hfind, Option.bind_some, hgive, Option.bind_some, hassign]
    · rw [hstate n, Keys.at?_set hdistinct'.names hi', List.lookup_cons]
      by_cases hn : n = name
      · subst hn
        have hnone : vals.lookup n = none := List.lookup_eq_none_iff.2 fun p hp => by
          have hne : n ≠ p.1 := fun heq => hnodup.1 (List.mem_map.2 ⟨p, hp, heq.symm⟩)
          simpa using hne
        rw [Keys.at?_of_mem hdistinct'.names (List.mem_of_getElem? hi')]
        simp [hnone, Key.after, Key.state]
      · have hbeq : (n == name) = false := by simpa using hn
        simp [hn, hbeq]

/-- The value that an assignment leaves for a key. -/
def Keys.value (keys : Keys) (vals : List (Text × Int)) (name : Text) : Int :=
  (vals.lookup name).getD ((keys.at? name).getD .init).default

theorem Keys.at?_withDefaults {keys : Keys} (name : Text) :
    keys.withDefaults.at? name
      = (keys.at? name).map fun key => if key.req then key else { key with strVal := [], num := key.default } := by
  induction keys with
  | nil => rfl
  | cons k keys ih =>
    rw [Keys.withDefaults, List.map_cons, Keys.at?_cons, Keys.at?_cons]
    by_cases hname : k.1 = name
    · simp [hname]
    · simp only [hname, if_false]
      exact ih

/-- **A line that spells out an assignment gives each key its value.** -/
theorem parseKeys_spelled {keys : Keys} {vals : List (Text × Int)} {line : Text} (hkeys : OnlyNumbers keys)
    (hdistinct : keys.Distinct) (hline : 0 ∉ line) (hspelled : Spelled keys vals (words line))
    (hnodup : (vals.map Prod.fst).Nodup) (hreq : ∀ k ∈ keys, k.2.req = true → k.1 ∈ vals.map Prod.fst) :
    ∃ ks, parseKeys keys (line ++ [0]) = some (some ks) ∧ ks.length = keys.length ∧
      ∀ name key, (name, key) ∈ keys → ∃ key', ks.at? name = some key' ∧ key'.num = keys.value vals name := by
  obtain ⟨ks, hassign, hkinds, hstate⟩ := Keys.assign_spelled hdistinct hspelled hnodup
    keys.kinds_withDefaults
  have hafter : ∀ name key, (name, key) ∈ keys → ∃ key', ks.at? name = some key' ∧
      key'.state = ((vals.lookup name).getD key.default, false) := by
    intro name key hmem
    have hat := hstate name
    rw [Keys.at?_withDefaults, Keys.at?_of_mem hdistinct.names hmem] at hat
    obtain ⟨key', hkey', hval⟩ := Option.map_eq_some_iff.1 (hat.trans (Option.map_some ..))
    refine ⟨key', hkey', hval.trans ?_⟩
    cases hlookup : vals.lookup name with
    | some num => rfl
    | none =>
      -- a key that is required is in the assignment
      have hnot : key.req = false := by
        by_contra hreq'
        obtain ⟨p, hp, hpname⟩ := List.mem_map.1 (hreq _ hmem (by simpa using hreq'))
        have := List.lookup_eq_none_iff.1 hlookup p hp
        simp [hpname] at this
      simp [Key.after, Key.state, hnot]
  have hmissing : ks.missing = false := by
    rw [Keys.missing, List.any_eq_false]
    rintro ⟨name, key'⟩ hk
    have hname : name ∈ keys.map Prod.fst := by
      rw [← Keys.names_of_kinds hkinds]
      exact List.mem_map_of_mem (f := Prod.fst) hk
    obtain ⟨⟨name', key⟩, hmem, rfl⟩ := List.mem_map.1 hname
    obtain ⟨key'', hat, hval⟩ := hafter _ key hmem
    rw [Keys.at?_of_mem (Keys.distinct_of_kinds hkinds hdistinct).names hk, Option.some.injEq] at hat
    subst hat
    simp only [Key.state, Prod.mk.injEq] at hval
    simp [hval.2]
  refine ⟨ks, ?_, Keys.length_of_kinds hkinds, fun name key hmem => ?_⟩
  · rw [parseKeys_words hkeys hline, hassign, Option.bind_some, Keys.finish, hmissing]
    rfl
  · obtain ⟨key', hat, hval⟩ := hafter name key hmem
    simp only [Key.state, Prod.mk.injEq] at hval
    refine ⟨key', hat, ?_⟩
    rw [hval.1, Keys.value, Keys.at?_of_mem hdistinct.names hmem, Option.getD_some]

/-! ## Lines that are refused -/

/-- The words that stand for names. -/
def nameWords : List Text → List Text
  | [] => []
  | [w] => [w]
  | w :: _ :: ws => w :: nameWords ws

/-- The words for a name with the words for its value. The only word that is left is both where there is one key. -/
def pairs (single : Bool) : List Text → List (Text × Text)
  | [] => []
  | [w] => if single then [(w, w)] else []
  | w :: v :: ws => (w, v) :: pairs single ws

/-- A pair of words is for a key: it has its name, or it is the only one. -/
def IsFor (keys : Keys) (name : Text) (p : Text × Text) : Prop :=
  keys.singleKey = true ∨ sameName false p.1 name = true

theorem parseKeys_refused {keys : Keys} (hkeys : OnlyNumbers keys) {line : Text} (hline : 0 ∉ line)
    (h : ∀ ks, keys.withDefaults.assign (words line) = some ks → ks.missing = true) :
    parseKeys keys (line ++ [0]) = some none := by
  rw [parseKeys_words hkeys hline]
  cases hassign : keys.withDefaults.assign (words line) with
  | none => rfl
  | some ks => simp [Keys.finish, h ks hassign]

theorem find_unknown {keys : Keys} {w : Text} (hsingle : keys.singleKey = false)
    (h : ∀ k ∈ keys, sameName false w k.1 = false) : keys.find w = none := by
  rw [Keys.find, hsingle, if_neg (by simp), List.findIdx?_eq_none_iff]
  exact h

/-- A word that is no name. -/
theorem assign_unknown {keys ks : Keys} {ws : List Text} {w : Text} (hsingle : keys.singleKey = false)
    (h : ∀ k ∈ keys, sameName false w k.1 = false) (hw : w ∈ nameWords ws) (hkinds : ks.kinds = keys.kinds) :
    ks.assign ws = none := by
  have hfind : ∀ ks : Keys, ks.kinds = keys.kinds → ks.find w = none := by
    intro ks hkinds
    refine find_unknown ((Keys.singleKey_of_kinds hkinds).trans hsingle) fun k hk => ?_
    have hname : k.1 ∈ keys.map Prod.fst := by
      rw [← Keys.names_of_kinds hkinds]
      exact List.mem_map_of_mem hk
    obtain ⟨k', hk', heq⟩ := List.mem_map.1 hname
    exact heq ▸ h k' hk'
  induction ws using nameWords.induct generalizing ks with
  | case1 => simp [nameWords] at hw
  | case2 w' =>
    obtain rfl : w = w' := by simpa [nameWords] using hw
    exact assign_unnamed (hfind ks hkinds) []
  | case3 w' v ws ih =>
    rcases List.mem_cons.1 hw with rfl | hmem
    · exact assign_unnamed (hfind ks hkinds) _
    · rw [Keys.assign]
      cases ks.find w' with
      | none => rfl
      | some i =>
        rw [Option.bind_some]
        cases hgive : ks.give i v with
        | none => rfl
        | some ks' => exact ih hmem ((Keys.kinds_give hgive).trans hkinds)

/-- The key that a name finds. -/
theorem isFor_of_find {keys : Keys} {w v : Text} {i : Nat} {name : Text} {key : Key} (h : keys.find w = some i)
    (hi : keys[i]? = some (name, key)) : IsFor keys name (w, v) := by
  rw [Keys.find] at h
  split at h
  next hsingle => exact .inl hsingle
  next =>
    obtain ⟨hlt, hsame, -⟩ := List.findIdx?_eq_some_iff_getElem.1 h
    obtain ⟨_, hget⟩ := List.getElem?_eq_some_iff.1 hi
    rw [hget] at hsame
    exact .inr hsame

theorem isFor_of_kinds {keys ks : Keys} (h : ks.kinds = keys.kinds) {name : Text} {p : Text × Text} :
    IsFor ks name p ↔ IsFor keys name p := by
  rw [IsFor, IsFor, Keys.singleKey_of_kinds h]

/-- A value for another key. -/
theorem give_other {keys keys' : Keys} {i j : Nat} {v : Text} (h : keys.give i v = some keys') (hij : i ≠ j) :
    keys'[j]? = keys[j]? := by
  rw [Keys.give] at h
  split at h
  next => simp at h
  next name key hi =>
    obtain ⟨key', -, rfl⟩ := Option.map_eq_some_iff.1 h
    exact List.getElem?_set_ne hij

/-- A key that no pair of words is for stays as it is. -/
theorem assign_missing {keys ks ks' : Keys} {ws : List Text} {j : Nat} {name : Text} {key : Key}
    (hj : ks[j]? = some (name, key)) (hws : ∀ p ∈ pairs keys.singleKey ws, ¬ IsFor keys name p)
    (hkinds : ks.kinds = keys.kinds) (h : ks.assign ws = some ks') : ks'[j]? = some (name, key) := by
  have hother : ∀ {ks ks' : Keys} {i : Nat} {w v : Text}, ks.kinds = keys.kinds → ks[j]? = some (name, key) →
      ks.find w = some i → ¬ IsFor keys name (w, v) → ks.give i v = some ks' → ks'[j]? = some (name, key) := by
    intro ks ks' i w v hkinds hj hfind hnot hgive
    rw [give_other hgive fun heq => ?_, hj]
    subst heq
    exact hnot ((isFor_of_kinds hkinds).1 (isFor_of_find hfind hj))
  induction ws using nameWords.induct generalizing ks with
  | case1 =>
    rw [Keys.assign, Option.some.injEq] at h
    rwa [← h]
  | case2 w =>
    rw [Keys.assign] at h
    obtain ⟨i, hfind, h⟩ := Option.bind_eq_some_iff.1 h
    rw [Keys.singleKey_of_kinds hkinds] at h
    split at h
    next hsingle => exact hother hkinds hj hfind (hws _ (by simp [pairs, hsingle])) h
    next =>
      rw [Option.some.injEq] at h
      rwa [← h]
  | case3 w v ws ih =>
    rw [Keys.assign] at h
    obtain ⟨i, hfind, h⟩ := Option.bind_eq_some_iff.1 h
    obtain ⟨ks'', hgive, h⟩ := Option.bind_eq_some_iff.1 h
    exact ih (hother hkinds hj hfind (hws _ (by simp [pairs])) hgive) (fun p hp => hws p (by simp [pairs, hp]))
      ((Keys.kinds_give hgive).trans hkinds) h

/-- An integer out of range is no value. -/
theorem give_outside {keys ks : Keys} {i : Nat} {name v : Text} {key : Key} {num : Int}
    (hi : keys[i]? = some (name, key)) (hkinds : ks.kinds = keys.kinds) (hflag : key.flag = false)
    (hv : strtoll key.base v = (num, [])) (hnum : ¬ key.Allows num) : ks.give i v = none := by
  obtain ⟨key', hi', hkind⟩ := Keys.getElem?_of_kinds hkinds hi
  simp only [Key.kind, Prod.mk.injEq] at hkind
  obtain ⟨hbase, hflag', hmin, hmax⟩ := hkind
  have hread : key'.read v = none := by
    rw [Key.read]
    dsimp only
    rw [hbase, hv, if_neg fun hin => hnum ?_, hflag', hflag, if_neg (by simp)]
    exact ⟨hmin ▸ hin.2.1, hmax ▸ hin.2.2⟩
  rw [Keys.give, hi']
  simp [hread]

theorem assign_outside {keys ks : Keys} {ws : List Text} {name : Text} {key : Key} {p : Text × Text} {num : Int}
    (hdistinct : keys.Distinct) (hmem : (name, key) ∈ keys) (hflag : key.flag = false)
    (hp : p ∈ pairs keys.singleKey ws) (hfor : IsFor keys name p) (hv : strtoll key.base p.2 = (num, []))
    (hnum : ¬ key.Allows num) (hkinds : ks.kinds = keys.kinds) : ks.assign ws = none := by
  obtain ⟨i, hi⟩ := List.getElem?_of_mem hmem
  have hfind : ∀ ks : Keys, ks.kinds = keys.kinds → ks.find p.1 = some i := by
    intro ks hkinds
    rcases hfor with hsingle | hname
    · have hlen : keys.length = 1 := by simpa [Keys.singleKey] using hsingle
      obtain ⟨hlt, -⟩ := List.getElem?_eq_some_iff.1 hi
      rw [Keys.find, Keys.singleKey_of_kinds hkinds, if_pos hsingle, show i = 0 by omega]
    · obtain ⟨key', hi', -⟩ := Keys.getElem?_of_kinds hkinds hi
      exact Keys.find_name (Keys.distinct_of_kinds hkinds hdistinct) hi' hname
  induction ws using nameWords.induct generalizing ks with
  | case1 => simp [pairs] at hp
  | case2 w =>
    by_cases hsingle : keys.singleKey = true
    · obtain rfl : p = (w, w) := by simpa [pairs, hsingle] using hp
      rw [Keys.assign, hfind ks hkinds, Option.bind_some, Keys.singleKey_of_kinds hkinds, if_pos hsingle]
      exact give_outside hi hkinds hflag hv hnum
    · simp [pairs, hsingle] at hp
  | case3 w v ws ih =>
    rw [Keys.assign]
    rcases List.mem_cons.1 hp with rfl | hmem'
    · rw [hfind ks hkinds, Option.bind_some, give_outside hi hkinds hflag hv hnum, Option.bind_none]
    · cases ks.find w with
      | none => rfl
      | some j =>
        rw [Option.bind_some]
        cases hgive : ks.give j v with
        | none => rfl
        | some ks' => exact ih hmem' ((Keys.kinds_give hgive).trans hkinds)

end PtpMgmt.MsgBuild
