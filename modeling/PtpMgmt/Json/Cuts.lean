import Mathlib.Data.List.Chain
import Mathlib.Data.List.TakeWhile
import PtpMgmt.Json.Mirror

set_option autoImplicit false

/-! # Files and buffers

A file is parsed as the same text, with a zero where a chunk of the reader ends. The machine that knows
strings and comments tells where these zeros do harm: the digits of an escape and a sequence of octets must
stand in one chunk, and a comment is lost when its opening is cut, when it is one until the end of the line
and goes on in the next chunk, and when its closing is cut or comes first in a chunk. Where they do no harm,
file and buffer are parsed alike. -/

namespace PtpMgmt.Json

/-! ## Marks -/

/-- The text without the marks between its chunks. -/
def strip (m : Text) : Text := m.filter (· ≠ 0)

/-- No chunk is empty. -/
def Marked (m : Text) : Prop := m.IsChain fun a b => a ≠ 0 ∨ b ≠ 0

@[simp] theorem strip_nil : strip [] = [] := rfl

@[simp] theorem strip_mark (m : Text) : strip (0 :: m) = strip m := rfl

theorem strip_cons {c : UInt8} (hc : c ≠ 0) (m : Text) : strip (c :: m) = c :: strip m := by
  simp [strip, hc]

theorem Marked.of_suffix {m m' : Text} (h : Marked m) (hsuf : m' <:+ m) : Marked m' :=
  List.IsChain.suffix h hsuf

theorem Marked.tail {m : Text} (h : Marked m) : Marked m.tail := h.of_suffix (List.tail_suffix m)

/-- After a mark there is a character. -/
theorem Marked.after_mark {c : UInt8} {r : Text} (h : Marked (0 :: c :: r)) : c ≠ 0 := by
  have := (List.isChain_cons_cons.1 h).1
  simpa using this

theorem Marked.cons {m : Text} (h : Marked m) {c : UInt8} (hc : c ≠ 0) : Marked (c :: m) := by
  cases m with
  | nil => exact List.isChain_singleton c
  | cons d m => exact List.isChain_cons_cons.2 ⟨.inl hc, h⟩

theorem Marked.append {m : Text} (h : Marked m) {chunk : Text} (hchunk : Plain chunk) :
    Marked (chunk ++ m) := by
  induction chunk with
  | nil => exact h
  | cons c chunk ih =>
      have hrest := ih fun d hd => hchunk d (List.mem_cons_of_mem _ hd)
      exact hrest.cons (hchunk c List.mem_cons_self)

/-! ## Harm -/

/-- What the marks of a text do: no harm, or the parser fails at one, or it loses the end of a comment. -/
inductive Harm
  | none
  | fails
  | astray
deriving DecidableEq

def Lex.harm : Lex → Harm
  | .broken => .fails
  | .astray => .astray
  | _ => .none

/-- The harm that the marks do in a text that starts in this place. -/
def harm (useComments : Bool) (q : Lex) (m : Text) : Harm := (m.foldl (Lex.next useComments) q).harm

section Harm

variable {useComments : Bool} {q : Lex} {m : Text}

theorem harm_cons {c : UInt8} (hc : c ≠ 0) (m : Text) :
    harm useComments q (c :: m) = harm useComments (q.read useComments c) m := by
  rw [harm, List.foldl_cons, Lex.next, if_neg hc]
  rfl

theorem harm_mark (m : Text) : harm useComments q (0 :: m) = harm useComments q.cut m := rfl

theorem harm_broken (m : Text) : harm useComments .broken m = .fails := by
  induction m with
  | nil => rfl
  | cons c m ih =>
      by_cases hc : c = 0
      · rw [hc, harm_mark]
        exact ih
      · rw [harm_cons hc]
        exact ih

theorem harm_astray (m : Text) : harm useComments .astray m = .astray := by
  induction m with
  | nil => rfl
  | cons c m ih =>
      by_cases hc : c = 0
      · rw [hc, harm_mark]
        exact ih
      · rw [harm_cons hc]
        exact ih

end Harm

/-! ## The cursor -/

/-- At the end of a file the buffer with the same text ends too. -/
theorem Marked.done {m : Text} (hm : Marked m) (heof : isEOF m = none) :
    strip m = [] ∧ ∀ useComments q, Lex.cut q = q → harm useComments q m = q.harm := by
  cases m with
  | nil => exact ⟨rfl, fun _ _ _ => rfl⟩
  | cons c r =>
      by_cases hc : c = 0
      · subst hc
        cases r with
        | nil =>
            refine ⟨rfl, ?_⟩
            intro useComments q hq
            rw [harm_mark, hq]
            rfl
        | cons d r => cases heof
      · rw [isEOF_cons hc] at heof
        cases heof

/-- The character at the cursor of a file and of the buffer with the same text. A place that a mark does not
    change stays as it is. -/
theorem Marked.char {m cur : Text} (hm : Marked m) (heof : isEOF m = some cur) :
    ∃ c r, cur = c :: r ∧ c ≠ 0 ∧ Marked r ∧ strip m = c :: strip r ∧
      ∀ useComments q, Lex.cut q = q → harm useComments q m = harm useComments q (c :: r) := by
  cases m with
  | nil => cases heof
  | cons c r =>
      by_cases hc : c = 0
      · subst hc
        cases r with
        | nil => cases heof
        | cons d r =>
            cases heof
            have hd := hm.after_mark
            refine ⟨d, r, rfl, hd, hm.tail.tail, ?_, ?_⟩
            · rw [strip_mark, strip_cons hd]
            · intro useComments q hq
              rw [harm_mark, hq]
      · rw [isEOF_cons hc] at heof
        cases heof
        exact ⟨c, r, rfl, hc, hm.tail, strip_cons hc r, fun _ _ _ => rfl⟩

/-! ## Comments -/

theorem skipLine_harm {useComments : Bool} {m : Text} (hm : Marked m)
    (hharm : harm useComments .line m ≠ .astray) :
    harm useComments .line m = harm useComments .out (skipLine m) := by
  induction m with
  | nil => rfl
  | cons c m ih =>
      by_cases hc : c = 0
      · subst hc
        rw [skipLine, if_pos (.inl rfl), harm_mark, harm_mark]
        cases m with
        | nil => rfl
        | cons d r =>
            -- the rest of the line is not in the comment any more
            have hd := hm.after_mark
            rw [harm_mark, harm_cons hd] at hharm
            rw [harm_cons hd, harm_cons hd]
            by_cases hnl : d = chr '\n'
            · rw [hnl]
              rfl
            · simp only [Lex.cut, Lex.read, if_neg hnl, harm_astray] at hharm
              exact absurd rfl hharm
      · by_cases hnl : c = chr '\n'
        · rw [skipLine, if_pos (.inr hnl), harm_cons hc, harm_cons hc, hnl]
          rfl
        · rw [harm_cons hc, Lex.read, if_neg hnl] at hharm ⊢
          rw [skipLine, if_neg (by simp [hc, hnl])]
          exact ih hm.tail hharm

theorem skipLine_strip {useComments : Bool} {m : Text} (hm : Marked m)
    (hharm : harm useComments .line m ≠ .astray) : skipLine (strip m) = strip (skipLine m) := by
  induction m with
  | nil => rfl
  | cons c m ih =>
      by_cases hc : c = 0
      · subst hc
        have hstop : skipLine (0 :: m) = 0 :: m := by rw [skipLine, if_pos (.inl rfl)]
        rw [hstop, strip_mark]
        cases m with
        | nil => rfl
        | cons d r =>
            have hd := hm.after_mark
            rw [harm_mark, harm_cons hd] at hharm
            by_cases hnl : d = chr '\n'
            · rw [strip_cons hd, skipLine, if_pos (.inr hnl)]
            · simp only [Lex.cut, Lex.read, if_neg hnl, harm_astray] at hharm
              exact absurd rfl hharm
      · by_cases hnl : c = chr '\n'
        · rw [strip_cons hc, skipLine, skipLine, if_pos (.inr hnl), if_pos (.inr hnl), strip_cons hc]
        · rw [harm_cons hc, Lex.read, if_neg hnl] at hharm
          rw [strip_cons hc, skipLine, skipLine, if_neg (by simp [hc, hnl]), if_neg (by simp [hc, hnl])]
          exact ih hm.tail hharm

/-- The closing of a comment is found alike, from this place on. -/
def BlockAlike (useComments : Bool) (q : Lex) (inBuffer inFile : Bool) (m : Text) : Prop :=
  harm useComments q m ≠ .astray →
    skipBlock inBuffer (strip m) = ((skipBlock inFile m).1, strip (skipBlock inFile m).2) ∧
    harm useComments q m = harm useComments .out (skipBlock inFile m).2

section Block

variable {useComments : Bool} {c : UInt8} {m : Text}

theorem blockAlike_cons (hc : c ≠ 0) (ih : ∀ b, BlockAlike useComments (.block b) b b m) (b : Bool) :
    BlockAlike useComments (.block b) b b (c :: m) := by
  intro hharm
  rw [harm_cons hc, Lex.read] at hharm ⊢
  rw [strip_cons hc, skipBlock_cons hc, skipBlock_cons hc]
  by_cases hstar : c = chr '*'
  · rw [if_pos hstar] at hharm ⊢
    rw [if_pos hstar, if_pos hstar]
    exact ih true hharm
  · rw [if_neg hstar] at hharm ⊢
    rw [if_neg hstar, if_neg hstar]
    by_cases hslash : c = chr '/'
    · rw [if_pos hslash] at hharm ⊢
      cases b with
      | true =>
          -- here is the closing
          rw [if_pos ⟨hslash, rfl⟩, if_pos ⟨hslash, rfl⟩, if_pos hslash]
          exact ⟨rfl, rfl⟩
      | false =>
          rw [if_neg (by simp), if_neg (by simp), if_pos hslash, if_pos hslash]
          exact ih false hharm
    · rw [if_neg hslash] at hharm ⊢
      rw [if_neg (by simp [hslash]), if_neg (by simp [hslash]), if_neg hslash, if_neg hslash]
      exact ih false hharm

/-- After a star that the file has passed over. -/
theorem blockAlike_star (hc : c ≠ 0) (ih : ∀ b, BlockAlike useComments (.block b) b b m) :
    BlockAlike useComments .blockCutStar true false (c :: m) := by
  intro hharm
  rw [harm_cons hc, Lex.read] at hharm ⊢
  rw [strip_cons hc, skipBlock_cons hc, skipBlock_cons hc]
  by_cases hstar : c = chr '*'
  · rw [if_pos hstar] at hharm ⊢
    rw [if_pos hstar, if_pos hstar]
    exact ih true hharm
  · rw [if_neg hstar] at hharm ⊢
    rw [if_neg hstar, if_neg hstar]
    by_cases hslash : c = chr '/'
    · rw [if_pos hslash, harm_astray] at hharm
      exact absurd rfl hharm
    · rw [if_neg hslash] at hharm ⊢
      rw [if_neg (by simp [hslash]), if_neg (by simp [hslash]), if_neg hslash, if_neg hslash]
      exact ih false hharm

/-- The first character of a new chunk, which the file passes over. -/
theorem blockAlike_mark (hc : c ≠ 0) (ih : ∀ b, BlockAlike useComments (.block b) b b m)
    (ihstar : BlockAlike useComments .blockCutStar true false m) {q : Lex} {b : Bool}
    (hq : q.cut = .blockCut b) (inFile : Bool) : BlockAlike useComments q b inFile (0 :: c :: m) := by
  intro hharm
  rw [harm_mark, hq, harm_cons hc, Lex.read] at hharm ⊢
  have hfile : skipBlock inFile (0 :: c :: m) = skipBlock false m := rfl
  rw [hfile, strip_mark, strip_cons hc, skipBlock_cons hc]
  by_cases hstar : c = chr '*'
  · rw [if_pos hstar] at hharm ⊢
    rw [if_pos hstar]
    exact ihstar hharm
  · rw [if_neg hstar] at hharm ⊢
    rw [if_neg hstar]
    by_cases hlost : c = chr '/' ∧ b = true
    · rw [if_pos hlost, harm_astray] at hharm
      exact absurd rfl hharm
    · rw [if_neg hlost] at hharm ⊢
      rw [if_neg hlost]
      have hstate : (if c = chr '/' then skipBlock b (strip m) else skipBlock false (strip m)) =
          skipBlock false (strip m) := by
        split
        · next hslash =>
            have hb : b = false := by simpa [hslash] using hlost
            rw [hb]
        · rfl
      rw [hstate]
      exact ih false hharm

/-- By induction on the length, as a mark takes the character after it too. -/
theorem blockAlike_all (n : Nat) {m : Text} (hlen : m.length ≤ n) (hm : Marked m) :
    (∀ b, BlockAlike useComments (.block b) b b m) ∧ BlockAlike useComments .blockCutStar true false m := by
  induction n generalizing m with
  | zero =>
      have hnil : m = [] := List.eq_nil_of_length_eq_zero (Nat.le_zero.1 hlen)
      subst hnil
      exact ⟨fun _ _ => ⟨rfl, rfl⟩, fun _ => ⟨rfl, rfl⟩⟩
  | succ n ih =>
      rcases m with _ | ⟨c, m⟩
      · exact ⟨fun _ _ => ⟨rfl, rfl⟩, fun _ => ⟨rfl, rfl⟩⟩
      · rw [List.length_cons] at hlen
        by_cases hc : c = 0
        · subst hc
          rcases m with _ | ⟨d, m⟩
          · exact ⟨fun _ _ => ⟨rfl, rfl⟩, fun _ => ⟨rfl, rfl⟩⟩
          · rw [List.length_cons] at hlen
            obtain ⟨hblock, hstar⟩ := ih (m := m) (by omega) hm.tail.tail
            exact ⟨fun b => blockAlike_mark hm.after_mark hblock hstar rfl b,
              blockAlike_mark hm.after_mark hblock hstar rfl false⟩
        · obtain ⟨hblock, -⟩ := ih (m := m) (by omega) hm.tail
          exact ⟨blockAlike_cons hc hblock, blockAlike_star hc hblock⟩

end Block

/-- A comment, after its first solidus. A solidus that opens no comment is passed over. -/
theorem skipComments_alike {m : Text} (hm : Marked m) (hharm : harm true .slash m ≠ .astray) :
    skipComments (chr '/' :: strip m) =
      ((skipComments (chr '/' :: m)).1, strip (skipComments (chr '/' :: m)).2) ∧
    harm true .slash m = harm true .out (skipComments (chr '/' :: m)).2 := by
  cases m with
  | nil => exact ⟨rfl, rfl⟩
  | cons c r =>
      have hr : Marked r := hm.tail
      by_cases hc : c = 0
      · subst hc
        cases r with
        | nil => exact ⟨rfl, rfl⟩
        -- a mark behind the slash: the file sees no comment, so the next character must not open one
        | cons d r =>
            have hd := hm.after_mark
            rw [harm_mark, Lex.cut, harm_cons hd, Lex.read] at hharm ⊢
            by_cases hopen : d = chr '/' ∨ d = chr '*'
            · rw [if_pos hopen, harm_astray] at hharm
              exact absurd rfl hharm
            · rw [if_neg hopen]
              rw [not_or] at hopen
              have hfile : skipComments (chr '/' :: 0 :: d :: r) = (true, 0 :: d :: r) := rfl
              have hbuffer : skipComments (chr '/' :: d :: strip r) = (true, d :: strip r) := by
                simp only [skipComments, List.tail_cons, if_neg hopen.1, if_neg hopen.2]
              rw [hfile, strip_mark, strip_cons hd, hbuffer]
              refine ⟨rfl, ?_⟩
              rw [harm_mark, harm_cons hd]
              simp [Lex.cut, Lex.read, hopen.1]
      · rw [harm_cons hc, Lex.read] at hharm ⊢
        rw [strip_cons hc, skipComments, skipComments, List.tail_cons, List.tail_cons]
        simp only
        -- a line, a block, or no comment
        by_cases hslash : c = chr '/'
        · rw [if_pos hslash] at hharm ⊢
          rw [if_pos hslash, if_pos hslash, skipLine_strip hr hharm]
          exact ⟨rfl, skipLine_harm hr hharm⟩
        · rw [if_neg hslash] at hharm ⊢
          rw [if_neg hslash, if_neg hslash]
          by_cases hstar : c = chr '*'
          · rw [if_pos hstar] at hharm ⊢
            rw [if_pos hstar, if_pos hstar]
            exact (blockAlike_all r.length (Nat.le_refl _) hr).1 false hharm
          · rw [if_neg hstar, if_neg hstar, if_neg hstar]
            refine ⟨by rw [strip_cons hc], ?_⟩
            rw [harm_cons hc]
            simp [Lex.read, hslash]

/-! ## Strings -/

/-- Octets that stand in one chunk are the same in the buffer. -/
theorem harm_str_take {useComments : Bool} {n : Nat} {m : Text}
    (hharm : harm useComments (.str n) m ≠ .fails) :
    (strip m).take n = m.take n ∧ (strip m).drop n = strip (m.drop n) := by
  induction n generalizing m with
  | zero => exact ⟨rfl, rfl⟩
  | succ n ih =>
      cases m with
      | nil => exact ⟨rfl, rfl⟩
      | cons c m =>
          by_cases hc : c = 0
          · rw [hc, harm_mark, Lex.cut, harm_broken] at hharm
            exact absurd rfl hharm
          · rw [harm_cons hc, Lex.read] at hharm
            obtain ⟨htake, hdrop⟩ := ih hharm
            rw [strip_cons hc, List.take_succ_cons, List.take_succ_cons, List.drop_succ_cons,
              List.drop_succ_cons, htake, hdrop]
            exact ⟨rfl, rfl⟩

/-- The place after these octets. -/
theorem harm_str_drop {useComments : Bool} {n : Nat} {m : Text} (hlen : n ≤ m.length)
    (hplain : Plain (m.take n)) :
    harm useComments (.str n) m = harm useComments (.str 0) (m.drop n) := by
  induction n generalizing m with
  | zero => rfl
  | succ n ih =>
      cases m with
      | nil => cases hlen
      | cons c m =>
          rw [List.take_succ_cons] at hplain
          rw [harm_cons (hplain c List.mem_cons_self), Lex.read, List.drop_succ_cons]
          exact ih (Nat.le_of_succ_le_succ hlen) fun d hd => hplain d (List.mem_cons_of_mem _ hd)

/-! ## Readers -/

/-- Marks with this harm are ahead. -/
def Harms (useComments : Bool) (h : Harm) (q : Lex) (cur : Text) : Prop :=
  Marked cur ∧ harm useComments q cur = h

section Harms

variable {useComments : Bool} {h : Harm} {q : Lex} {m : Text}

theorem Harms.nil (hm : Harms useComments h .out m) (heof : isEOF m = none) : Harms useComments h .out [] := by
  refine ⟨List.isChain_nil, ?_⟩
  rw [← hm.2, (hm.1.done heof).2 useComments .out rfl]
  rfl

theorem Harms.char (hq : q.Calm) (hm : Harms useComments h q m) {cur : Text} (heof : isEOF m = some cur) :
    ∃ c r, cur = c :: r ∧ c ≠ 0 ∧ Harms useComments h q (c :: r) ∧ strip m = strip (c :: r) := by
  obtain ⟨c, r, rfl, hc, hr, hs, hh⟩ := hm.1.char heof
  exact ⟨c, r, rfl, hc, ⟨hr.cons hc, (hh useComments q hq.cut).symm.trans hm.2⟩, hs.trans (strip_cons hc r).symm⟩

theorem Harms.next {c : UInt8} (hc : c ≠ 0) (hm : Harms useComments h q (c :: m)) :
    Harms useComments h (q.read useComments c) m :=
  ⟨hm.1.tail, (harm_cons hc m).symm.trans hm.2⟩

theorem Harms.comment (hm : Harms true h .slash m) (hne : h ≠ .astray) :
    skipComments (chr '/' :: strip m) =
      ((skipComments (chr '/' :: m)).1, strip (skipComments (chr '/' :: m)).2) ∧
    Harms true h .out (skipComments (chr '/' :: m)).2 := by
  obtain ⟨halike, hrest⟩ := skipComments_alike hm.1 (hm.2.trans_ne hne)
  have hslash : Marked (chr '/' :: m) := hm.1.cons (by decide)
  exact ⟨halike, hslash.of_suffix (skipComments_suffix _), hrest.symm.trans hm.2⟩

theorem Harms.kept {n : Nat} (hm : Harms useComments h (.str n) m) (hlen : n ≤ m.length)
    (hplain : Plain (m.take n)) : Harms useComments h (.str 0) (m.drop n) :=
  ⟨hm.1.of_suffix (List.drop_suffix n m), (harm_str_drop hlen hplain).symm.trans hm.2⟩

end Harms

/-- **Where the marks do no harm, a buffer is read as the file is.** -/
theorem mirrors_strip (useComments : Bool) : Mirrors useComments (Harms useComments .none) fun _ => strip where
  eof _ hm heof := by
    rw [(hm.1.done heof).1]
    rfl
  nil hm heof := ⟨rfl, hm.nil heof⟩
  char hq hm heof := by
    obtain ⟨c, r, hcur, hc, hkind, hs⟩ := hm.char hq heof
    refine ⟨c, r, hcur, hc, hkind, ?_⟩
    rw [hs, strip_cons hc, isEOF_cons hc]
  next _ hc hm := ⟨strip_cons hc _, hm.next hc⟩
  comment huse _ hm := by
    subst huse
    obtain ⟨halike, hkind⟩ := hm.comment (by decide)
    rw [halike]
    exact ⟨rfl, rfl, hkind⟩
  take hm := (harm_str_take (hm.2.trans_ne (by decide))).1
  drop hm _ := (harm_str_take (hm.2.trans_ne (by decide))).2
  kept hm hlen hplain := hm.kept hlen hplain

/-- The parser does not come past a mark that it fails at. -/
theorem mirrors_fails (useComments : Bool) : Mirrors useComments (Harms useComments .fails) fun _ => id where
  eof _ _ heof := heof
  nil hm heof := ⟨rfl, hm.nil heof⟩
  char hq hm heof := by
    obtain ⟨c, r, rfl, hc, hkind, -⟩ := hm.char hq heof
    exact ⟨c, r, rfl, hc, hkind, heof⟩
  next _ hc hm := ⟨rfl, hm.next hc⟩
  comment huse _ hm := by
    subst huse
    exact ⟨rfl, rfl, (hm.comment (by decide)).2⟩
  take _ := rfl
  drop _ _ := rfl
  kept hm hlen hplain := hm.kept hlen hplain

/-! ## Documents -/

theorem getToken_eof {useComments : Bool} {cur : Text} (h : (getToken useComments cur).1 = .eof) :
    (getToken useComments cur).2 = [] := by
  have hkey : ∀ key cur, (getKey key cur).1 ≠ .eof := by
    intro key cur
    fun_induction getKey key cur with
    | case3 _ _ _ _ _ _ ih => exact ih
    | case4 => simp
    | _ =>
        unfold keyToken
        split_ifs <;> simp
  have hchar : ∀ c, charToken c ≠ .eof := by
    intro c
    unfold charToken
    split_ifs <;> decide
  fun_induction getToken useComments cur with
  | case1 => rfl
  | case3 _ _ _ _ _ _ ih => exact ih h
  | case5 => exact absurd h (hkey _ _)
  | case6 => exact absurd h (hchar _)
  | _ => cases h

/-- A document whose marks do no harm. -/
theorem paresJson_strip {useComments : Bool} {m : Text} (hm : Marked m)
    (hharm : harm useComments .out m = .none) : paresJson useComments (strip m) = paresJson useComments m :=
  (mirrors_strip useComments).paresJson_eq ⟨hm, hharm⟩

/-- A document that the parser fails at. -/
theorem paresJson_fails {useComments : Bool} {m : Text} (hm : Marked m)
    (hharm : harm useComments .out m = .fails) : paresJson useComments m = none := by
  refine (mirrors_fails useComments).paresJson_none (fun hcur heof => ?_) ⟨hm, hharm⟩
  have hrest := ((mirrors_fails useComments).token hcur).2.2
  rw [getToken_eof heof] at hrest
  cases hrest

/-- Without comments none is lost. -/
theorem harm_ne_astray {q : Lex} (hq : q = .out ∨ (∃ n, q = .str n) ∨ q = .esc ∨ q = .broken) (m : Text) :
    harm false q m ≠ .astray := by
  induction m generalizing q with
  | nil => rcases hq with rfl | ⟨n, rfl⟩ | rfl | rfl <;> exact fun h => by cases h
  | cons c m ih =>
      refine ih (q := q.next false c) ?_
      unfold Lex.next
      rcases hq with rfl | ⟨_ | n, rfl⟩ | rfl | rfl
      all_goals
        simp only [Lex.cut, Lex.read, Bool.false_eq_true, and_false, if_false]
        split_ifs <;> simp

/-! ## Chunks -/

theorem fgets_append (n : Nat) (file : Text) : (fgets n file).1 ++ (fgets n file).2 = file := by
  fun_induction fgets n file with
  | case1 => rfl
  | case2 => rfl
  | case3 => rfl
  | case4 _ _ _ _ ih => rw [List.cons_append, ih]

/-- The chunks of a file without zeros. -/
theorem fileText_cons {c : UInt8} {r : Text} (hplain : Plain (c :: r)) :
    ∃ chunk rest, (fgets (lineSize - 1) (c :: r)).1 = c :: chunk ∧ c :: r = c :: (chunk ++ rest) ∧
      fileText (c :: r) = c :: (chunk ++ 0 :: fileText rest) := by
  have hall := fgets_append (lineSize - 1) (c :: r)
  have hfirst : ∃ chunk, (fgets (lineSize - 1) (c :: r)).1 = c :: chunk := by
    simp only [lineSize, fgets]
    split
    · exact ⟨[], rfl⟩
    · exact ⟨_, rfl⟩
  obtain ⟨chunk, hchunk⟩ := hfirst
  rw [hchunk, List.cons_append] at hall
  refine ⟨chunk, (fgets (lineSize - 1) (c :: r)).2, hchunk, hall.symm, ?_⟩
  have htake : (c :: chunk).takeWhile (· ≠ 0) = c :: chunk := by
    rw [List.takeWhile_eq_self_iff]
    intro d hd
    have hmem : d ∈ c :: r := by
      rw [← hall, ← List.cons_append]
      exact List.mem_append_left _ hd
    simpa using hplain d hmem
  rw [fileText, hchunk, htake]
  rfl

theorem fileText_spec (n : Nat) {file : Text} (hlen : file.length ≤ n) (hplain : Plain file) :
    strip (fileText file) = file ∧ Marked (fileText file) := by
  induction n generalizing file with
  | zero =>
      have hnil : file = [] := List.eq_nil_of_length_eq_zero (Nat.le_zero.1 hlen)
      subst hnil
      rw [fileText]
      exact ⟨rfl, List.isChain_nil⟩
  | succ n ih =>
      cases file with
      | nil =>
          rw [fileText]
          exact ⟨rfl, List.isChain_nil⟩
      | cons c r =>
          -- one `fgets`: what it reads and the mark it leaves stand in front of the rest
          obtain ⟨chunk, rest, -, hfile, htext⟩ := fileText_cons hplain
          rw [hfile] at hplain hlen
          have hlen' : rest.length ≤ n := by
            simp only [List.length_cons, List.length_append] at hlen
            omega
          have hrest : Plain rest :=
            fun d hd => hplain d (List.mem_cons_of_mem _ (List.mem_append_right _ hd))
          have hchunk : Plain (c :: chunk) := by
            intro d hd
            rw [← List.cons_append] at hplain
            exact hplain d (List.mem_append_left _ hd)
          obtain ⟨hstrip, hmark⟩ := ih hlen' hrest
          rw [htext, hfile, ← List.cons_append, ← List.cons_append]
          refine ⟨?_, ?_⟩
          · have hself : strip (c :: chunk) = c :: chunk := by
              rw [strip, List.filter_eq_self]
              intro d hd
              simpa using hchunk d hd
            rw [strip, List.filter_append, ← strip, ← strip, hself, strip_mark, hstrip]
          · -- the text of the rest is empty or starts with a character of it
            have hmark' : Marked (0 :: fileText rest) := by
              cases rest with
              | nil =>
                  rw [fileText]
                  exact List.isChain_singleton 0
              | cons d rest =>
                  obtain ⟨chunk', rest', -, -, htext'⟩ := fileText_cons hrest
                  rw [htext'] at hmark ⊢
                  exact List.isChain_cons_cons.2 ⟨.inr (hrest d List.mem_cons_self), hmark⟩
            exact hmark'.append hchunk

theorem skipBOM_fileText {file : Text} (hplain : Plain file) :
    strip (skipBOM (fileText file)) = skipBOM file ∧ Marked (skipBOM (fileText file)) := by
  obtain ⟨hstrip, hmark⟩ := fileText_spec file.length (Nat.le_refl _) hplain
  refine ⟨?_, hmark.of_suffix (skipBOM_suffix _)⟩
  -- the three octets of the mark stand in the first chunk
  have hfirst : ∀ r, file = 0xef :: 0xbb :: 0xbf :: r → ∃ m, fileText file = 0xef :: 0xbb :: 0xbf :: m := by
    rintro r rfl
    rw [fileText]
    exact ⟨_, by rfl⟩
  by_cases hbom : ∃ r, file = 0xef :: 0xbb :: 0xbf :: r
  · obtain ⟨r, hr⟩ := hbom
    obtain ⟨m, hm⟩ := hfirst r hr
    rw [hm, hr] at hstrip
    rw [hm, hr]
    rw [strip_cons (by decide), strip_cons (by decide), strip_cons (by decide)] at hstrip
    simpa [skipBOM] using hstrip
  · have hno : ∀ m, fileText file ≠ 0xef :: 0xbb :: 0xbf :: m := by
      intro m hm
      rw [hm, strip_cons (by decide), strip_cons (by decide), strip_cons (by decide)] at hstrip
      exact hbom ⟨_, hstrip.symm⟩
    have hfile : skipBOM file = file := by
      unfold skipBOM
      split
      · exact absurd ⟨_, rfl⟩ hbom
      · rfl
    have htext : skipBOM (fileText file) = fileText file := by
      unfold skipBOM
      split
      · next heq => exact absurd heq (hno _)
      · rfl
    rw [hfile, htext, hstrip]

end PtpMgmt.Json
