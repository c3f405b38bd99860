import PtpMgmt.Json.Cuts

set_option autoImplicit false

/-! # What a file shows

Where a mark makes the parser of a file lose a comment, it reads on as if another character stood in front of
the next one: the end of the line ends the comment, or a blank parts the closing of it or the opening. With
these characters in it the text has marks that lose no comment, and it is parsed as before. So a lost comment
does no harm where the parser stops before it, whatever follows. -/

namespace PtpMgmt.Json

/-- What the parser of a file reads as if it stood in front of a character that it does not take for a part of
    the comment. -/
def Lex.separator : Lex → UInt8
  | .lineCut => chr '\n'
  | _ => chr ' '

/-- The text with the separators in it, from this place on. -/
def mend (useComments : Bool) : Lex → Text → Text
  | _, [] => []
  | q, c :: m =>
    if q.next useComments c = .astray then
      q.separator :: c :: mend useComments ((q.next useComments q.separator).next useComments c) m
    else c :: mend useComments (q.next useComments c) m

section Mend

variable {useComments : Bool} {q : Lex} {c : UInt8} {m : Text}

theorem mend_cons (h : q.next useComments c ≠ .astray) (m : Text) :
    mend useComments q (c :: m) = c :: mend useComments (q.next useComments c) m := by
  rw [mend, if_neg h]

theorem mend_lost (h : q.next useComments c = .astray) (m : Text) :
    mend useComments q (c :: m) =
      q.separator :: c :: mend useComments ((q.next useComments q.separator).next useComments c) m := by
  rw [mend, if_pos h]

/-- Outside of comments, and in a block, none is lost at once. -/
theorem next_out_ne (c : UInt8) : Lex.out.next useComments c ≠ .astray := by
  simp only [Lex.next, Lex.cut, Lex.read]
  split_ifs <;> exact Lex.noConfusion

theorem next_block_ne (b : Bool) (c : UInt8) : (Lex.block b).next useComments c ≠ .astray := by
  simp only [Lex.next, Lex.cut, Lex.read]
  split_ifs <;> exact Lex.noConfusion

/-- A comment is lost behind a mark, and a separator brings the parser back. -/
theorem separator_cases (hq : q ≠ .astray) (h : q.next useComments c = .astray) :
    q.next useComments q.separator = .out ∨ q.next useComments q.separator = .block false := by
  have hc : c ≠ 0 := by
    rintro rfl
    rcases q with _ | _ | _ | _ | _ | _ | _ | _ | (_ | _) | _ | _ | _ <;> first | exact absurd rfl hq | cases h
  rw [Lex.next, if_neg hc] at h
  cases q with
  | slashCut | lineCut => exact .inl rfl
  | blockCut | blockCutStar => exact .inr rfl
  | astray => exact absurd rfl hq
  | str n =>
      cases n with
      | zero =>
          simp only [Lex.read] at h
          split_ifs at h
      | succ n => cases h
  | broken => cases h
  | _ =>
      simp only [Lex.read] at h
      split_ifs at h

theorem separator_ne (hq : q ≠ .astray) (h : q.next useComments c = .astray) :
    (q.next useComments q.separator).next useComments c ≠ .astray := by
  rcases separator_cases hq h with hsep | hsep
  · rw [hsep]
    exact next_out_ne c
  · rw [hsep]
    exact next_block_ne false c

theorem separator_ne_zero (q : Lex) : q.separator ≠ 0 := by
  cases q <;> exact show chr _ ≠ 0 by decide

/-- The marks of the mended text lose no comment. -/
theorem harm_mend_ne (hq : q ≠ .astray) (m : Text) : harm useComments q (mend useComments q m) ≠ .astray := by
  induction m generalizing q with
  | nil =>
      cases q <;> first | exact absurd rfl hq | exact Harm.noConfusion
  | cons c m ih =>
      by_cases h : q.next useComments c = .astray
      · rw [mend_lost h]
        exact ih (separator_ne hq h)
      · rw [mend_cons h]
        exact ih h

theorem mend_marked (hm : Marked m) : Marked (mend useComments q m) := by
  induction m generalizing q with
  | nil => exact List.isChain_nil
  | cons c m ih =>
      -- the text from the character on, whatever stands in front of it
      have hrest : ∀ q, Marked (c :: mend useComments q m) := by
        intro q
        by_cases hc : c = 0
        · subst hc
          cases m with
          | nil => exact List.isChain_singleton 0
          | cons d m =>
              have hd := hm.after_mark
              have hmark := ih hm.tail (q := q)
              rw [mend] at hmark ⊢
              split at hmark
              · next h =>
                  rw [if_pos h]
                  exact List.isChain_cons_cons.2 ⟨.inr (separator_ne_zero q), hmark⟩
              · next h =>
                  rw [if_neg h]
                  exact List.isChain_cons_cons.2 ⟨.inr hd, hmark⟩
        · exact (ih hm.tail).cons hc
      rw [mend]
      split
      · exact (hrest _).cons (separator_ne_zero q)
      · exact hrest _

/-- Up to the first lost comment the text is as it was. -/
theorem mend_append {m₁ : Text} (h : harm useComments q m₁ ≠ .astray) (m₂ : Text) :
    ∃ q', mend useComments q (m₁ ++ m₂) = m₁ ++ mend useComments q' m₂ := by
  induction m₁ generalizing q with
  | nil => exact ⟨q, rfl⟩
  | cons c m ih =>
      have hne : q.next useComments c ≠ .astray := by
        intro hlost
        apply h
        rw [harm, List.foldl_cons, hlost]
        exact harm_astray m
      obtain ⟨q', hq'⟩ := ih (q := q.next useComments c) h
      exact ⟨q', by rw [List.cons_append, mend_cons hne, hq', List.cons_append]⟩

/-! ## The cursor -/

theorem Lex.Calm.next_ne (hq : q.Calm) (c : UInt8) : q.next useComments c ≠ .astray := by
  rcases hq with rfl | rfl | rfl
  · exact next_out_ne c
  all_goals
    simp only [Lex.next, Lex.cut, Lex.read]
    split_ifs <;> exact Lex.noConfusion

theorem Lex.Calm.mend_mark (hq : q.Calm) (m : Text) :
    mend useComments q (0 :: m) = 0 :: mend useComments q m := by
  have hcut : q.next useComments 0 = q := hq.cut
  rw [mend_cons (hq.next_ne 0), hcut]

theorem Lex.Calm.mend_char (hq : q.Calm) (hc : c ≠ 0) (m : Text) :
    mend useComments q (c :: m) = c :: mend useComments (q.read useComments c) m := by
  rw [mend_cons (hq.next_ne c), Lex.next, if_neg hc]

/-- The cursor of a mended text at the same character. -/
theorem mend_isEOF (hq : q.Calm) (m : Text) :
    isEOF (mend useComments q m) = (isEOF m).map (mend useComments q) := by
  cases m with
  | nil => rfl
  | cons c r =>
      by_cases hc : c = 0
      · subst hc
        rw [hq.mend_mark]
        cases r with
        | nil => rfl
        | cons d r =>
            have hne : mend useComments q (d :: r) ≠ [] := by
              rw [mend]
              split <;> simp
            have hfile : isEOF (0 :: d :: r) = some (d :: r) := rfl
            rw [hfile, Option.map_some, isEOF, if_neg hne]
      · rw [isEOF_cons hc, Option.map_some, hq.mend_char hc, isEOF_cons hc]

/-! ## Comments -/

/-- White space behind a mark. -/
theorem skipWs_mark {s c : UInt8} (hs : isSpace s = true) (hc : c ≠ 0) (r : Text) :
    skipWs (0 :: s :: c :: r) = skipWs (0 :: c :: r) := by
  have hspace : isEOF (0 :: s :: c :: r) = some (s :: c :: r) := rfl
  have hchar : isEOF (0 :: c :: r) = some (c :: r) := rfl
  rw [skipWs_some hspace, peek_cons, if_pos hs, List.tail_cons, skipWs_some hchar, skipWs_some (isEOF_cons hc r)]

/-- The rest of a line is left at the same token. -/
theorem mend_skipLine (hm : Marked m) :
    skipWs (skipLine (mend useComments .line m)) = skipWs (mend useComments .out (skipLine m)) := by
  induction m with
  | nil => rfl
  | cons c m ih =>
      by_cases hc : c = 0
      · subst hc
        have hstop : ∀ r, skipLine (0 :: r) = 0 :: r := fun r => by rw [skipLine, if_pos (.inl rfl)]
        rw [mend_cons Lex.noConfusion, hstop, hstop, Lex.calm_out.mend_mark]
        cases m with
        | nil => rfl
        | cons d r =>
            have hd := hm.after_mark
            have hout : mend useComments .out (d :: r) = _ := Lex.calm_out.mend_char hd r
            have hcut : Lex.next useComments .line 0 = .lineCut := rfl
            rw [hcut, hout]
            by_cases hnl : d = chr '\n'
            · subst hnl
              rw [mend_cons Lex.noConfusion]
              rfl
            · -- the line feed ends the comment before the character that the file reads on with
              have hlost : Lex.lineCut.next useComments d = .astray := by
                rw [Lex.next, if_neg hd, Lex.read, if_neg hnl]
              have hback : (Lex.lineCut.next useComments (Lex.separator .lineCut)).next useComments d =
                  Lex.out.read useComments d := by
                rw [Lex.next, if_neg hd]
                rfl
              rw [mend_lost hlost, hback]
              exact skipWs_mark rfl hd _
      · have hnext : Lex.line.next useComments c = Lex.line.read useComments c := by rw [Lex.next, if_neg hc]
        by_cases hnl : c = chr '\n'
        · subst hnl
          rw [mend_cons Lex.noConfusion]
          rfl
        · have hline : Lex.line.next useComments c = .line := by rw [hnext, Lex.read, if_neg hnl]
          have hgo : ∀ r, skipLine (c :: r) = skipLine r := fun r => by rw [skipLine, if_neg (by simp [hc, hnl])]
          rw [mend_cons (by rw [hline]; exact Lex.noConfusion), hline, hgo, hgo]
          exact ih hm.tail

/-- The closing of a comment is found alike, from this place on. -/
def BlockMended (useComments : Bool) (q : Lex) (b : Bool) (m : Text) : Prop :=
  skipBlock b (mend useComments q m) = ((skipBlock b m).1, mend useComments .out (skipBlock b m).2)

/-- A character in a block closes it, or leads on in the block. -/
theorem skipBlock_char (hc : c ≠ 0) (b : Bool) :
    ((∀ r, skipBlock b (c :: r) = (false, r)) ∧ (Lex.block b).read useComments c = .out) ∨
    ∃ b', (∀ r, skipBlock b (c :: r) = skipBlock b' r) ∧ (Lex.block b).read useComments c = .block b' := by
  by_cases hstar : c = chr '*'
  · exact .inr ⟨true, fun r => by rw [skipBlock_cons hc, if_pos hstar], by rw [Lex.read, if_pos hstar]⟩
  · by_cases hslash : c = chr '/'
    · cases b with
      | true =>
          exact .inl ⟨fun r => by rw [skipBlock_cons hc, if_neg hstar, if_pos ⟨hslash, rfl⟩],
            by rw [Lex.read, if_neg hstar, if_pos hslash, if_pos rfl]⟩
      | false =>
          exact .inr ⟨false, fun r => by rw [skipBlock_cons hc, if_neg hstar, if_neg (by simp), if_pos hslash],
            by rw [Lex.read, if_neg hstar, if_pos hslash, if_neg Bool.false_ne_true]⟩
    · refine .inr ⟨false, fun r => ?_, by rw [Lex.read, if_neg hstar, if_neg hslash]⟩
      rw [skipBlock_cons hc, if_neg hstar, if_neg fun h => hslash h.1, if_neg hslash]

theorem blockMended_cons (hc : c ≠ 0) (ih : ∀ b, BlockMended useComments (.block b) b m) (b : Bool) :
    BlockMended useComments (.block b) b (c :: m) := by
  unfold BlockMended at ih ⊢
  rw [mend_cons (next_block_ne b c), Lex.next, if_neg hc]
  obtain ⟨hclose, hread⟩ | ⟨b', hgo, hread⟩ := @skipBlock_char useComments c hc b
  · rw [hclose, hclose, hread]
  · rw [hgo, hgo, hread]
    exact ih b'

/-- The character behind a star that the file has passed over. -/
theorem blockMended_star (hc : c ≠ 0) (ih : ∀ b, BlockMended useComments (.block b) b m) :
    BlockMended useComments .blockCutStar false (c :: m) := by
  by_cases hslash : c = chr '/'
  · subst hslash
    -- the blank parts the closing, which the file does not see either
    have hmend : mend useComments .blockCutStar (chr '/' :: m) =
        chr ' ' :: chr '/' :: mend useComments (.block false) m := mend_lost rfl m
    have hblank : ∀ r, skipBlock false (chr ' ' :: chr '/' :: r) = skipBlock false r := fun r => rfl
    have hfile : skipBlock false (chr '/' :: m) = skipBlock false m := rfl
    rw [BlockMended, hmend, hblank, hfile]
    exact ih false
  · have hread : Lex.blockCutStar.next useComments c = (Lex.block false).next useComments c := by
      rw [Lex.next, Lex.next, if_neg hc, if_neg hc, Lex.read, Lex.read, if_neg hslash, if_neg hslash]
    have hsame : mend useComments .blockCutStar (c :: m) = mend useComments (.block false) (c :: m) := by
      have hne : (Lex.block false).next useComments c ≠ .astray := next_block_ne false c
      rw [mend_cons hne, mend_cons (hread ▸ hne), hread]
    rw [BlockMended, hsame]
    exact blockMended_cons hc ih false

/-- The first character of a new chunk, which the file passes over. -/
theorem blockMended_mark (hc : c ≠ 0) (ih : ∀ b, BlockMended useComments (.block b) b m)
    (ihstar : BlockMended useComments .blockCutStar false m) {q : Lex} {b : Bool} (hq : q.cut = .blockCut b)
    (inFile : Bool) : BlockMended useComments q inFile (0 :: c :: m) := by
  have hfile : ∀ r, skipBlock inFile (0 :: c :: r) = skipBlock false r := fun r => rfl
  have hmark : q.next useComments 0 = .blockCut b := hq
  rw [BlockMended, mend_cons (by rw [hmark]; exact Lex.noConfusion), hmark, hfile]
  by_cases hlost : c = chr '/' ∧ b = true
  · obtain ⟨rfl, rfl⟩ := hlost
    have hmend : mend useComments (.blockCut true) (chr '/' :: m) =
        chr ' ' :: chr '/' :: mend useComments (.block false) m := mend_lost rfl m
    have hblank : ∀ r, skipBlock inFile (0 :: chr ' ' :: chr '/' :: r) = skipBlock false r := fun r => rfl
    rw [hmend, hblank]
    exact ih false
  · have hread : (Lex.blockCut b).next useComments c = if c = chr '*' then .blockCutStar else .block false := by
      rw [Lex.next, if_neg hc, Lex.read, if_neg hlost]
    have hne : (Lex.blockCut b).next useComments c ≠ .astray := by
      rw [hread]
      split <;> exact Lex.noConfusion
    rw [mend_cons hne, hread, hfile]
    split
    · exact ihstar
    · exact ih false

/-- By induction on the length, as a mark takes the character after it too. -/
theorem blockMended_all (n : Nat) {m : Text} (hlen : m.length ≤ n) (hm : Marked m) :
    (∀ b, BlockMended useComments (.block b) b m) ∧ BlockMended useComments .blockCutStar false m := by
  induction n generalizing m with
  | zero =>
      have hnil : m = [] := List.eq_nil_of_length_eq_zero (Nat.le_zero.1 hlen)
      subst hnil
      exact ⟨fun _ => rfl, rfl⟩
  | succ n ih =>
      rcases m with _ | ⟨c, m⟩
      · exact ⟨fun _ => rfl, rfl⟩
      · rw [List.length_cons] at hlen
        by_cases hc : c = 0
        · subst hc
          rcases m with _ | ⟨d, m⟩
          · exact ⟨fun _ => rfl, rfl⟩
          · rw [List.length_cons] at hlen
            obtain ⟨hblock, hstar⟩ := ih (m := m) (by omega) hm.tail.tail
            exact ⟨fun b => blockMended_mark hm.after_mark hblock hstar rfl b,
              blockMended_mark hm.after_mark hblock hstar rfl false⟩
        · obtain ⟨hblock, -⟩ := ih (m := m) (by omega) hm.tail
          exact ⟨blockMended_cons hc hblock, blockMended_star hc hblock⟩

/-- A comment, after its first solidus, is as broken as before, and left at the same token. -/
theorem mend_skipComments (hm : Marked m) :
    (skipComments (chr '/' :: mend true .slash m)).1 = (skipComments (chr '/' :: m)).1 ∧
    skipWs (skipComments (chr '/' :: mend true .slash m)).2 =
      skipWs (mend true .out (skipComments (chr '/' :: m)).2) := by
  cases m with
  | nil => exact ⟨rfl, rfl⟩
  | cons c r =>
      have hr : Marked r := hm.tail
      by_cases hc : c = 0
      · subst hc
        have hbroken : ∀ r, skipComments (chr '/' :: 0 :: r) = (true, 0 :: r) := fun r => rfl
        have hmark : Lex.slash.next true 0 = .slashCut := rfl
        rw [mend_cons Lex.noConfusion, hmark, hbroken, hbroken, Lex.calm_out.mend_mark]
        refine ⟨rfl, ?_⟩
        cases r with
        | nil => rfl
        | cons d r =>
            have hd := hm.after_mark
            have hout : mend true .out (d :: r) = _ := Lex.calm_out.mend_char hd r
            by_cases hopen : d = chr '/' ∨ d = chr '*'
            · -- the blank parts the opening, which the file does not see either
              have hlost : Lex.slashCut.next true d = .astray := by
                rw [Lex.next, if_neg hd, Lex.read, if_pos hopen]
              have hback : (Lex.slashCut.next true (Lex.separator .slashCut)).next true d =
                  Lex.out.read true d := by
                rw [Lex.next, if_neg hd]
                rfl
              rw [mend_lost hlost, hback, hout]
              exact skipWs_mark rfl hd _
            · have hread : Lex.slashCut.next true d = Lex.out.read true d := by
                have hno : d ≠ chr '/' := fun h => hopen (.inl h)
                rw [Lex.next, if_neg hd, Lex.read, Lex.read, if_neg hopen]
                simp only [hno, false_and, if_false]
              have hne : Lex.out.next true d ≠ .astray := next_out_ne d
              rw [Lex.next, if_neg hd] at hne
              rw [mend_cons (hread ▸ hne), hread, hout]
      · have hnext : Lex.slash.next true c = Lex.slash.read true c := by rw [Lex.next, if_neg hc]
        by_cases hslash : c = chr '/'
        · subst hslash
          have hline : ∀ r, skipComments (chr '/' :: chr '/' :: r) = (false, skipLine r) := fun r => rfl
          have hread : Lex.slash.next true (chr '/') = .line := rfl
          rw [mend_cons Lex.noConfusion, hread, hline, hline]
          exact ⟨rfl, mend_skipLine hr⟩
        · by_cases hstar : c = chr '*'
          · subst hstar
            have hblock : ∀ r, skipComments (chr '/' :: chr '*' :: r) = skipBlock false r := fun r => rfl
            have hread : Lex.slash.next true (chr '*') = .block false := rfl
            rw [mend_cons Lex.noConfusion, hread, hblock, hblock,
              (blockMended_all r.length (Nat.le_refl _) hr).1 false]
            exact ⟨rfl, rfl⟩
          · have hbroken : ∀ r, skipComments (chr '/' :: c :: r) = (true, c :: r) := by
              intro r
              simp only [skipComments, List.tail_cons, if_neg hslash, if_neg hstar]
            have hread : Lex.slash.next true c = Lex.out.next true c := by
              rw [hnext, Lex.next, if_neg hc, Lex.read, Lex.read, if_neg hslash, if_neg hstar]
              simp only [hslash, false_and, if_false]
            have hne : Lex.out.next true c ≠ .astray := next_out_ne c
            rw [mend_cons (hread ▸ hne), hread, hbroken, hbroken, mend_cons hne]
            exact ⟨rfl, rfl⟩

/-! ## Strings -/

theorem mend_broken (m : Text) : mend useComments .broken m = m := by
  induction m with
  | nil => rfl
  | cons c m ih =>
      have hnext : Lex.broken.next useComments c = .broken := by
        rw [Lex.next]
        split <;> rfl
      rw [mend_cons (by rw [hnext]; exact Lex.noConfusion), hnext, ih]

theorem mend_str_mark (n : Nat) (m : Text) : mend useComments (.str (n + 1)) (0 :: m) = 0 :: m := by
  have hnext : (Lex.str (n + 1)).next useComments 0 = .broken := rfl
  rw [mend_cons (by rw [hnext]; exact Lex.noConfusion), hnext, mend_broken]

theorem mend_str_char (hc : c ≠ 0) (n : Nat) (m : Text) :
    mend useComments (.str (n + 1)) (c :: m) = c :: mend useComments (.str n) m := by
  have hnext : (Lex.str (n + 1)).next useComments c = .str n := by rw [Lex.next, if_neg hc, Lex.read]
  rw [mend_cons (by rw [hnext]; exact Lex.noConfusion), hnext]

/-- Octets that must stand in one chunk are as before. -/
theorem mend_str_take (n : Nat) (m : Text) : (mend useComments (.str n) m).take n = m.take n := by
  induction n generalizing m with
  | zero => rfl
  | succ n ih =>
      cases m with
      | nil => rfl
      | cons c m =>
          by_cases hc : c = 0
          · rw [hc, mend_str_mark]
          · rw [mend_str_char hc, List.take_succ_cons, List.take_succ_cons, ih]

/-- The text behind these octets. -/
theorem mend_str_drop {n : Nat} (hplain : Plain (m.take n)) :
    (mend useComments (.str n) m).drop n = mend useComments (.str 0) (m.drop n) := by
  induction n generalizing m with
  | zero => rfl
  | succ n ih =>
      cases m with
      | nil => rfl
      | cons c m =>
          rw [List.take_succ_cons] at hplain
          rw [mend_str_char (hplain c List.mem_cons_self), List.drop_succ_cons, List.drop_succ_cons]
          exact ih fun d hd => hplain d (List.mem_cons_of_mem _ hd)
end Mend

/-! ## Documents -/

/-- **The mended text of a file is read as the file is.** -/
theorem mirrors_mend (useComments : Bool) : Mirrors useComments (fun _ => Marked) (mend useComments) where
  eof hq _ heof := by
    rw [mend_isEOF hq, heof]
    rfl
  nil _ _ := ⟨rfl, List.isChain_nil⟩
  char hq hm heof := by
    obtain ⟨c, r, rfl, hc, hr, -, -⟩ := hm.char heof
    exact ⟨c, r, rfl, hc, hr.cons hc, by rw [mend_isEOF hq, heof, Option.map_some]⟩
  next hq hc hm := ⟨hq.mend_char hc _, hm.tail⟩
  comment huse r hm := by
    subst huse
    have hslash : Marked (chr '/' :: r) := hm.cons (by decide)
    obtain ⟨hbroken, hagain⟩ := mend_skipComments hm
    exact ⟨hbroken, hagain, hslash.of_suffix (skipComments_suffix _)⟩
  take _ := mend_str_take _ _
  drop _ hplain := mend_str_drop hplain
  kept hm _ _ := hm.of_suffix (List.drop_suffix _ _)

theorem paresJson_mend {useComments : Bool} {m : Text} (hm : Marked m) :
    paresJson useComments m =
      if harm useComments .out (mend useComments .out m) = .fails then none
      else paresJson useComments (strip (mend useComments .out m)) := by
  rw [← (mirrors_mend useComments).paresJson_eq hm]
  split
  · next hfails => exact paresJson_fails (mend_marked hm) hfails
  · next hfails =>
      have hnone : harm useComments .out (mend useComments .out m) = .none := by
        cases hharm : harm useComments .out (mend useComments .out m) with
        | none => rfl
        | fails => exact absurd hharm hfails
        | astray => exact absurd hharm (harm_mend_ne Lex.noConfusion m)
      exact (paresJson_strip (mend_marked hm) hnone).symm

theorem strip_append (m m' : Text) : strip (m ++ m') = strip m ++ strip m' := List.filter_append _ _

theorem strip_plain (m : Text) : Plain (strip m) := by
  intro c hc
  have := (List.mem_filter.1 hc).2
  simpa using this

/-- No text that begins so is a document: the parser has stopped before its end. -/
def Stops (useComments : Bool) (m : Text) : Prop := ∀ t, Plain t → paresJson useComments (m ++ t) = none

/-- The parser stops before a comment is lost. -/
def StopsBefore (useComments : Bool) (m : Text) : Prop :=
  ∃ m₁ m₂, m = m₁ ++ m₂ ∧ harm useComments .out m₁ ≠ .astray ∧ Stops useComments (strip m₁)

theorem StopsBefore.strip {useComments : Bool} {m : Text} (h : StopsBefore useComments m) :
    paresJson useComments (strip m) = none := by
  obtain ⟨m₁, m₂, rfl, -, hstops⟩ := h
  rw [strip_append]
  exact hstops _ (strip_plain m₂)

theorem StopsBefore.paresJson {useComments : Bool} {m : Text} (h : StopsBefore useComments m) (hm : Marked m) :
    paresJson useComments m = none := by
  rw [paresJson_mend hm]
  split
  · rfl
  · obtain ⟨m₁, m₂, rfl, hharm, hstops⟩ := h
    obtain ⟨q, hq⟩ := mend_append hharm m₂
    rw [hq, strip_append]
    exact hstops _ (strip_plain _)

/-! ## Files and buffers -/

/-- The harm that the ends of the chunks do in a file. -/
def fileHarm (useComments : Bool) (file : Text) : Harm := harm useComments .out (skipBOM (fileText file))

/-- The text of a file as its parser takes it, with the ends of the chunks. -/
def shown (useComments : Bool) (file : Text) : Text := mend useComments .out (skipBOM (fileText file))

section Files

variable {useComments : Bool} {s : Text}

theorem parseFile_of_ne (hs : s ≠ []) : parseFile useComments s = paresJson useComments (skipBOM (fileText s)) := by
  rw [parseFile, if_neg hs]

theorem parseBuffer_of_ne (hplain : Plain s) (hs : s ≠ []) :
    parseBuffer useComments s = paresJson useComments (strip (skipBOM (fileText s))) := by
  have htake : s.takeWhile (· ≠ 0) = s := by
    rw [List.takeWhile_eq_self_iff]
    intro c hc
    simpa using hplain c hc
  rw [parseBuffer, if_neg hs, htake, (skipBOM_fileText hplain).1]

/-- The empty file is refused, as the empty buffer is. -/
theorem parseFile_nil : parseFile useComments [] = parseBuffer useComments [] := by
  rw [parseFile, parseBuffer, if_pos rfl, if_pos rfl]

theorem parseFile_eq_of_none (hplain : Plain s) (hharm : fileHarm useComments s = .none) :
    parseFile useComments s = parseBuffer useComments s := by
  by_cases hs : s = []
  · rw [hs, parseFile_nil]
  · rw [parseFile_of_ne hs, parseBuffer_of_ne hplain hs, paresJson_strip (skipBOM_fileText hplain).2 hharm]

theorem parseFile_eq_of_stops (hplain : Plain s) (hstops : StopsBefore useComments (skipBOM (fileText s))) :
    parseFile useComments s = parseBuffer useComments s := by
  by_cases hs : s = []
  · rw [hs, parseFile_nil]
  · rw [parseFile_of_ne hs, parseBuffer_of_ne hplain hs, hstops.paresJson (skipBOM_fileText hplain).2, hstops.strip]

theorem parseFile_of_fails (hplain : Plain s) (hharm : fileHarm useComments s = .fails) :
    parseFile useComments s = none := by
  by_cases hs : s = []
  · rw [parseFile, if_pos hs]
  · rw [parseFile_of_ne hs, paresJson_fails (skipBOM_fileText hplain).2 hharm]

/-- A file in which a comment is lost is parsed as the buffer with the separators in it. -/
theorem parseFile_of_astray (hplain : Plain s) (hharm : fileHarm useComments s = .astray) :
    parseFile useComments s =
      if harm useComments .out (shown useComments s) = .fails then none
      else paresJson useComments (strip (shown useComments s)) := by
  have hs : s ≠ [] := by
    rintro rfl
    rw [fileHarm, fileText] at hharm
    cases hharm
  rw [parseFile_of_ne hs, paresJson_mend (skipBOM_fileText hplain).2, shown]

end Files

/-- **A file and a buffer with the same text are parsed alike where the ends of the chunks do no harm, and where
    the parser stops before a comment is lost.** Where they do harm, and no comment is lost, the file is not
    parsed; where one is lost, the file is parsed as the buffer with another character in front of each place
    that the comment was lost at. -/
theorem parseFile_eq_iff (useComments : Bool) {s : Text} (hplain : Plain s) :
    (fileHarm useComments s = .none ∨ StopsBefore useComments (skipBOM (fileText s)) →
      parseFile useComments s = parseBuffer useComments s) ∧
    (fileHarm useComments s ≠ .astray → (parseFile useComments s = parseBuffer useComments s ↔
      fileHarm useComments s = .none ∨ parseBuffer useComments s = none)) ∧
    (fileHarm useComments s = .astray → (parseFile useComments s = parseBuffer useComments s ↔
      if harm useComments .out (shown useComments s) = .fails then parseBuffer useComments s = none
      else parseBuffer useComments s = paresJson useComments (strip (shown useComments s)))) ∧
    fileHarm false s ≠ .astray := by
  refine ⟨?_, ?_, ?_, harm_ne_astray (.inl rfl) _⟩
  · rintro (hharm | hstops)
    · exact parseFile_eq_of_none hplain hharm
    · exact parseFile_eq_of_stops hplain hstops
  · intro hastray
    have hcases : fileHarm useComments s = .none ∨ fileHarm useComments s = .fails := by
      cases hh : fileHarm useComments s with
      | none => exact .inl rfl
      | fails => exact .inr rfl
      | astray => exact absurd hh hastray
    rcases hcases with hharm | hharm
    · exact ⟨fun _ => .inl hharm, fun _ => parseFile_eq_of_none hplain hharm⟩
    · rw [parseFile_of_fails hplain hharm, hharm]
      refine ⟨fun h => .inr h.symm, ?_⟩
      rintro (h | h)
      · cases h
      · exact h.symm
  · intro hastray
    rw [parseFile_of_astray hplain hastray]
    split
    · exact eq_comm
    · exact eq_comm

/-- A keyword that begins with another letter is none. -/
theorem stops_x : Stops true [chr 'x'] := by
  have hkey : ∀ key cur, (∀ k, keyToken (key ++ k) = .inv) → (getKey key cur).1 = .inv := by
    intro key cur hinv
    fun_induction getKey key cur with
    | case1 key => simpa using hinv []
    | case2 key => simpa using hinv []
    | case3 key cur cur' _ _ _ ih => exact ih fun k => by simpa using hinv (peek cur' :: k)
    | case4 => rfl
  intro t _
  have heof : isEOF (chr 'x' :: t) = some (chr 'x' :: t) := isEOF_cons (by decide) t
  have hws : skipWs (chr 'x' :: t) = some (chr 'x' :: t) := by rw [skipWs_some heof, peek_cons, if_neg (by decide)]
  have htok : (getToken true (chr 'x' :: t)).1 = .inv := by
    rw [getToken_some hws (by rw [peek_cons]; decide), peek_cons, if_pos (by decide), getKey_some heof, peek_cons,
      if_neg (by decide), if_pos (by decide)]
    refine hkey _ _ fun k => ?_
    have hno : ∀ word : Text, word.head? ≠ some (chr 'x') → chr 'x' :: k ≠ word := by
      rintro word hw rfl
      exact hw rfl
    rw [List.nil_append, List.cons_append, List.nil_append, keyToken, if_neg (hno _ (by decide)),
      if_neg (hno _ (by decide)), if_neg (hno _ (by decide))]
  simp only [List.cons_append, List.nil_append, paresJson, htok, parserVal]
  rfl

/-- A comment over the end of a line, an escape and a sequence of octets; and a comment that is lost behind the
    letter that the parser stops at. -/
theorem parseFile_eq_iff_lines :
    parseFile true (txt "[1, // one\n /* two\n\n */ \"\\u00e9\"]\n") =
      parseBuffer true (txt "[1, // one\n /* two\n\n */ \"\\u00e9\"]\n") ∧
    fileHarm true (txt "x/*\n*/1") = .astray ∧
    parseFile true (txt "x/*\n*/1") = parseBuffer true (txt "x/*\n*/1") :=
  ⟨(parseFile_eq_iff true (by decide)).1 (.inl (by decide +kernel)), by decide +kernel,
    (parseFile_eq_iff true (by decide)).1
      (.inr ⟨[chr 'x'], (skipBOM (fileText (txt "x/*\n*/1"))).tail, by decide +kernel, by decide, stops_x⟩)⟩

/-- The closing of a comment at the start of a line is missed in a file. -/
theorem parseFile_ne_parseBuffer :
    ¬ ∀ (useComments : Bool) (s : Text), Plain s → parseFile useComments s = parseBuffer useComments s := by
  intro h
  have heq := h true (txt "/*\n*/1") (by decide)
  have hfile : (parseFile true (txt "/*\n*/1")).isSome = false := by decide +kernel
  have hbuffer : (parseBuffer true (txt "/*\n*/1")).isSome = true := by decide +kernel
  rw [heq, hbuffer] at hfile
  cases hfile

end PtpMgmt.Json
