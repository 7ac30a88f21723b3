import Mathlib.Logic.Function.Iterate
import WireSql.Proofs.Connection.StoredText
import WireSql.Proofs.Introspection.CommentFree
import WireSql.Proofs.Sql.Uses

/-!
# `WireSql.Proofs.Introspection.FixedPoints`: what cleaning does to a cleaned text

The three passes leave alone what they have made (`cleanChars_of_unmarked`), so that a second cleaning only
looks at the end of the text once more. There the blanks and the semicolons are each taken off once: of
semicolons with blanks or comments between them only the last ones go, and the text still ends with one
(`getLast?_statementText_iff`). Texts that end so are said to *end apart*.

`clean_settles_iff` puts this together. A cleaned text is clean exactly if the text it comes from does not end
apart, and of the texts made of nothing but comments, blanks and semicolons only those that do not end apart
are reported as empty.
-/

namespace WireSql

namespace Introspection

open Text Sql

variable {c : Char} {s t u x y : List Char}

/-! ## Passes over what they have made -/

/-- **What the three passes leave alone.** -/
structure Unmarked (s : List Char) : Prop where
  /-- No comment goes from `/*` to a `*/` behind it. -/
  no_block : ¬ HasBlock s
  /-- No mark begins a comment up to the end of a line. -/
  no_hash : '#' ∉ s
  /-- Nor does the other one. -/
  no_dashes : ¬ ['-', '-'] <:+: s
  squeezed : IsSqueezed s

theorem Unmarked.of_within (h : Unmarked s) (hin : t <:+: s) : Unmarked t where
  no_block := fun ht => h.no_block (ht.of_within hin)
  no_hash := fun ht => h.no_hash (hin.subset ht)
  no_dashes := fun ht => h.no_dashes (ht.trans hin)
  squeezed := h.squeezed.of_within hin

theorem dropBlockComments_of_not_hasBlock (h : ¬ HasBlock s) : dropBlockComments s = s := by
  rw [dropBlockComments]
  induction s with
  | nil => rfl
  | cons c s ih =>
    rw [hasBlock_cons, not_or] at h
    rw [dropBlockCommentsFrom, blockComment?_eq_none_iff.2 h.1, ih h.2]

theorem cleanChars_of_unmarked (h : Unmarked s) : cleanChars s = statementText s := by
  rw [cleanChars, dropBlockComments_of_not_hasBlock h.no_block,
    dropLineComments_of_no_mark h.no_hash h.no_dashes, squeezeBlanks_eq_self_iff.2 h.squeezed]
  rfl

/-- The text with a space in place of every comment. -/
def withoutComments (s : List Char) : List Char := dropLineComments (dropBlockComments s)

theorem cleanChars_eq (s : List Char) : cleanChars s = statementText (squeezeBlanks (withoutComments s)) := rfl

/-- No pass makes a mark that one of the others has done away with. -/
theorem unmarked_squeezeBlanks (s : List Char) : Unmarked (squeezeBlanks (withoutComments s)) := by
  have hlines : Thins (dropBlockComments s) (withoutComments s) := (thins_dropLineCommentsFrom _).1
  have hblanks : Thins (withoutComments s) (squeezeBlanks (withoutComments s)) := (thins_squeezeFrom _).1
  obtain ⟨hhash, hdashes⟩ := no_mark_dropLineCommentsFrom false (dropBlockComments s)
  exact {
    no_block := fun h => not_hasBlock_dropBlockCommentsFrom 0 s (hlines.hasBlock (hblanks.hasBlock h))
    no_hash := fun h => by
      rw [← List.singleton_infix_iff] at h
      exact hhash ((List.singleton_infix_iff _ _).1 (hblanks.infix_of_word (by decide) h))
    no_dashes := fun h => hdashes (hblanks.infix_of_word (by decide) h)
    squeezed := (isSqueezed_squeezeFrom false _).1 }

/-- **A cleaned text is cleaned again at its end only.** -/
theorem cleanChars_cleanChars (s : List Char) : cleanChars (cleanChars s) = statementText (cleanChars s) :=
  cleanChars_of_unmarked ((unmarked_squeezeBlanks s).of_within (infix_statementText _))

/-! ## Ends -/

/-- What is dropped from an end is a run of what is to be dropped. -/
theorem exists_dropped (p : Char → Bool) (s : List Char) :
    ∃ dropped, s = dropEndWhile p s ++ dropped ∧ ∀ c ∈ dropped, p c = true :=
  ⟨s.rtakeWhile p, List.rdropWhile_append_rtakeWhile.symm, fun _ => List.mem_rtakeWhile_imp⟩

/-- A run behind a text that ends with another character is what is dropped. -/
theorem dropEndWhile_append {p : Char → Bool} (hs : ∀ c ∈ s.getLast?, p c = false) (ht : ∀ c ∈ t, p c = true) :
    dropEndWhile p (s ++ t) = s := by
  have hrun : dropEndWhile p (s ++ t) = dropEndWhile p s := by
    unfold dropEndWhile
    rw [List.reverse_append, List.dropWhile_append_of_pos fun d hd => ht d (List.mem_reverse.1 hd)]
  rw [hrun, dropEndWhile_eq_rdropWhile, List.rdropWhile_eq_self_iff]
  intro hne
  exact Bool.eq_false_iff.1 (hs _ (List.getLast?_eq_some_getLast hne))

/-- What holds of the characters of a part holds of the last one of the whole. -/
theorem forall_getLast?_append {P : Char → Prop} (hne : t ≠ []) (ht : ∀ c ∈ t, P c) :
    ∀ c ∈ (s ++ t).getLast?, P c := by
  intro c hc
  rw [List.getLast?_append_of_ne_nil _ hne] at hc
  exact ht c (List.mem_of_getLast? hc)

/-- An ending of blanks, of semicolons behind them, and of blanks again. -/
structure IsEnding (blanks semicolons trailing : List Char) : Prop where
  blanks_ne_nil : blanks ≠ []
  isBlank : ∀ c ∈ blanks, isBlank c = true
  semicolons_ne_nil : semicolons ≠ []
  eq_semicolon : ∀ c ∈ semicolons, c = ';'
  isBlank_trailing : ∀ c ∈ trailing, Text.isBlank c = true

/-- **A text ends apart**: in front of the semicolons at its end stands another one, with blanks between. -/
def EndsApart (s : List Char) : Prop :=
  ∃ lead blanks semicolons trailing, s = lead ++ ';' :: (blanks ++ (semicolons ++ trailing)) ∧
    IsEnding blanks semicolons trailing

variable {blanks semicolons trailing : List Char}

theorem IsEnding.not_blank (h : IsEnding blanks semicolons trailing) : ∀ c ∈ semicolons, Text.isBlank c = false := by
  intro c hc
  rw [h.eq_semicolon c hc]
  rfl

theorem IsEnding.ne_semicolon (h : IsEnding blanks semicolons trailing) : ∀ c ∈ blanks, (c == ';') = false := by
  intro c hc
  refine beq_false_of_ne fun hsemicolon => ?_
  have hblank := h.isBlank c hc
  rw [hsemicolon] at hblank
  cases hblank

/-- What is dropped from the front does not reach past another character. -/
theorem dropWhile_append_cons {p : Char → Bool} (hc : p c = false) (s t : List Char) :
    (s ++ c :: t).dropWhile p = s.dropWhile p ++ c :: t := by
  rw [List.dropWhile_append, List.dropWhile_cons_of_neg (by simp [hc])]
  split
  · next hnil => rw [List.isEmpty_iff.1 hnil, List.nil_append]
  · rfl

/-- A text is made of what is left of it as a statement and of what is taken off its ends. -/
theorem exists_statementText (s : List Char) : ∃ front blanks semicolons trailing,
    s = front ++ (statementText s ++ (blanks ++ (semicolons ++ trailing))) ∧
    (∀ c ∈ front, isBlank c = true) ∧ (∀ c ∈ blanks, isBlank c = true) ∧
    (∀ c ∈ semicolons, c = ';') ∧ (∀ c ∈ trailing, isBlank c = true) ∧
    trim s = statementText s ++ (blanks ++ semicolons) ∧
    dropEndWhile (· == ';') (trim s) = statementText s ++ blanks := by
  obtain ⟨trailing, htrailing, hblank⟩ := exists_dropped isBlank (s.dropWhile isBlank)
  obtain ⟨semicolons, hsemicolons, hsemicolon⟩ := exists_dropped (· == ';') (trim s)
  obtain ⟨blanks, hblanks, hblank'⟩ := exists_dropped isBlank (dropEndWhile (· == ';') (trim s))
  have htext : trim s = statementText s ++ (blanks ++ semicolons) := by
    rw [← List.append_assoc]
    exact hsemicolons.trans (congrArg (· ++ semicolons) hblanks)
  refine ⟨s.takeWhile isBlank, blanks, semicolons, trailing, ?_, fun c hc => List.mem_takeWhile_imp hc, hblank',
    fun c hc => beq_iff_eq.1 (hsemicolon c hc), hblank, htext, hblanks⟩
  have hdropped : s.dropWhile isBlank = trim s ++ trailing := htrailing
  rw [htext, List.append_assoc, List.append_assoc] at hdropped
  rw [← hdropped, List.takeWhile_append_dropWhile]

/-- Of such an ending nothing is left, and the semicolon in front of it stays. -/
theorem statementText_append (h : IsEnding blanks semicolons trailing) (lead : List Char) :
    statementText (lead ++ ';' :: (blanks ++ (semicolons ++ trailing))) = lead.dropWhile isBlank ++ [';'] := by
  generalize hfront : lead.dropWhile isBlank = front
  have htrim : trim (lead ++ ';' :: (blanks ++ (semicolons ++ trailing))) =
      (front ++ ';' :: blanks) ++ semicolons := by
    have hshape : front ++ ';' :: (blanks ++ (semicolons ++ trailing)) =
        ((front ++ ';' :: blanks) ++ semicolons) ++ trailing := by simp
    rw [trim, dropAroundWhile, dropWhile_append_cons (by decide), hfront, hshape]
    exact dropEndWhile_append (forall_getLast?_append h.semicolons_ne_nil h.not_blank) h.isBlank_trailing
  have hdrop : dropEndWhile (· == ';') ((front ++ ';' :: blanks) ++ semicolons) = (front ++ [';']) ++ blanks := by
    have hshape : front ++ ';' :: blanks = (front ++ [';']) ++ blanks := by simp
    rw [hshape]
    exact dropEndWhile_append (forall_getLast?_append h.blanks_ne_nil h.ne_semicolon) fun c hc =>
      beq_iff_eq.2 (h.eq_semicolon c hc)
  rw [statementText, htrim, hdrop]
  refine dropEndWhile_append (forall_getLast?_append (List.cons_ne_nil _ _) ?_) h.isBlank
  exact List.forall_mem_singleton.2 rfl

theorem endsApart_of_getLast? (hlast : (statementText s).getLast? = some ';') : EndsApart s := by
  obtain ⟨front, blanks, semicolons, trailing, hs, -, hblanks, hsemicolons, htrailing, htrim, hdrop⟩ :=
    exists_statementText s
  obtain ⟨lead, hlead⟩ := List.getLast?_eq_some_iff.1 hlast
  -- nothing more is dropped behind a run that has been dropped
  have hne : blanks ≠ [] := by
    rintro rfl
    rw [List.append_nil] at hdrop
    have hend : (dropEndWhile (· == ';') (trim s)).getLast? = some ';' := hdrop ▸ hlast
    have hnot : (';' == ';') = false := not_of_getLast?_dropEndWhile (p := (· == ';')) _ hend
    cases hnot
  have hne' : semicolons ≠ [] := by
    rintro rfl
    rw [List.append_nil] at htrim
    have hblank : isBlank (blanks.getLast hne) = true := hblanks _ (List.getLast_mem hne)
    have hend : (trim s).getLast? = some (blanks.getLast hne) := by
      rw [htrim, List.getLast?_append_of_ne_nil _ hne, List.getLast?_eq_some_getLast]
    rw [not_of_getLast?_dropEndWhile _ hend] at hblank
    cases hblank
  refine ⟨front ++ lead, blanks, semicolons, trailing, ?_, hne, hblanks, hne', hsemicolons, htrailing⟩
  rw [hlead] at hs
  simpa only [List.append_assoc, List.singleton_append] using hs

/-- **A statement still ends with a semicolon exactly if its text ends apart.** -/
theorem getLast?_statementText_iff : (statementText s).getLast? = some ';' ↔ EndsApart s := by
  refine ⟨endsApart_of_getLast?, ?_⟩
  rintro ⟨lead, blanks, semicolons, trailing, rfl, hending⟩
  rw [statementText_append hending, List.getLast?_concat]

/-- **Nothing is left of a statement exactly if there are only blanks and semicolons, and they do not end
apart.** -/
theorem statementText_eq_nil_iff :
    statementText s = [] ↔ (∀ c ∈ s, isBlank c = true ∨ c = ';') ∧ ¬ EndsApart s := by
  constructor
  · intro hnil
    obtain ⟨front, blanks, semicolons, trailing, hs, hfront, hblanks, hsemicolons, htrailing, -, -⟩ :=
      exists_statementText s
    rw [hnil, List.nil_append] at hs
    rw [← getLast?_statementText_iff, hnil, hs]
    simp only [List.forall_mem_append]
    exact ⟨⟨fun c hc => .inl (hfront c hc), fun c hc => .inl (hblanks c hc),
      fun c hc => .inr (hsemicolons c hc), fun c hc => .inl (htrailing c hc)⟩, nofun⟩
  · rintro ⟨hall, hends⟩
    refine Classical.byContradiction fun hne => hends (getLast?_statementText_iff.1 ?_)
    -- what is left would end with one of them, and not with a blank
    have hlast : (statementText s).getLast? = some ((statementText s).getLast hne) :=
      List.getLast?_eq_some_getLast hne
    have hblank : isBlank ((statementText s).getLast hne) = false := not_of_getLast?_dropEndWhile _ hlast
    rcases hall _ ((infix_statementText s).subset (List.getLast_mem hne)) with h | h
    · rw [hblank] at h
      cases h
    · rw [hlast, h]

/-! ## Ends of a squeezed text -/

/-- A squeezed text in two parts comes from a text in two parts. -/
theorem exists_of_squeezeFrom_eq_append {inBlanks : Bool} (h : squeezeFrom inBlanks s = x ++ y) :
    ∃ p q inBlanks', s = p ++ q ∧ squeezeFrom inBlanks p = x ∧ squeezeFrom inBlanks' q = y := by
  induction s generalizing inBlanks x with
  | nil =>
    obtain ⟨rfl, rfl⟩ := List.append_eq_nil_iff.1 h.symm
    exact ⟨[], [], inBlanks, rfl, rfl, rfl⟩
  | cons c s ih =>
    cases x with
    | nil => exact ⟨[], c :: s, inBlanks, rfl, rfl, h⟩
    | cons d x =>
      rw [squeezeFrom] at h
      split at h
      · next hc =>
        split at h
        · next hin =>
          obtain ⟨p, q, inBlanks', rfl, hp, hq⟩ := ih h
          refine ⟨c :: p, q, inBlanks', rfl, ?_, hq⟩
          rw [squeezeFrom, if_pos hc, if_pos hin, hp]
        · next hin =>
          obtain ⟨rfl, hs⟩ := List.cons.inj h
          obtain ⟨p, q, inBlanks', rfl, hp, hq⟩ := ih hs
          refine ⟨c :: p, q, inBlanks', rfl, ?_, hq⟩
          rw [squeezeFrom, if_pos hc, if_neg hin, hp]
      · next hc =>
        obtain ⟨rfl, hs⟩ := List.cons.inj h
        obtain ⟨p, q, inBlanks', rfl, hp, hq⟩ := ih hs
        refine ⟨c :: p, q, inBlanks', rfl, ?_, hq⟩
        rw [squeezeFrom, if_neg hc, hp]

/-- Squeezing keeps every character that is no blank, and adds none. -/
theorem mem_squeezeFrom (hc : isBlank c = false) (inBlanks : Bool) : c ∈ squeezeFrom inBlanks s ↔ c ∈ s := by
  have hspace : c ≠ ' ' := by
    rintro rfl
    cases hc
  induction s generalizing inBlanks with
  | nil => simp [squeezeFrom]
  | cons d s ih =>
    have hblank : isBlank d = true → c ≠ d := by
      rintro hd rfl
      rw [hc] at hd
      cases hd
    rw [squeezeFrom, List.mem_cons]
    split
    · next hd =>
      split
      · rw [or_iff_right (hblank hd)]
        exact ih true
      · rw [List.mem_cons, or_iff_right hspace, or_iff_right (hblank hd)]
        exact ih true
    · rw [List.mem_cons]
      exact or_congr_right (ih false)

/-- What is squeezed into blanks is made of blanks, and the other way round. -/
theorem forall_blank_squeezeFrom {inBlanks : Bool} :
    (∀ c ∈ squeezeFrom inBlanks s, isBlank c = true) ↔ ∀ c ∈ s, isBlank c = true := by
  have hnot (t : List Char) : (∀ c ∈ t, isBlank c = true) ↔ ∀ c, isBlank c = false → c ∉ t := by
    constructor
    · intro h c hc hmem
      rw [h c hmem] at hc
      cases hc
    · intro h c hmem
      cases hc : isBlank c with
      | true => rfl
      | false => exact absurd hmem (h c hc)
  rw [hnot, hnot]
  exact forall_congr' fun c => imp_congr_right fun hc => not_congr (mem_squeezeFrom hc inBlanks)

/-- What is squeezed into a text without blanks is that text, with blanks in front of it where one stands in
front already. -/
theorem exists_blanks_of_squeezeFrom {inBlanks : Bool} (h : ∀ c ∈ squeezeFrom inBlanks s, isBlank c = false) :
    ∃ blanks, s = blanks ++ squeezeFrom inBlanks s ∧ (∀ c ∈ blanks, isBlank c = true) ∧
      (inBlanks = false → blanks = []) := by
  induction s generalizing inBlanks with
  | nil => exact ⟨[], rfl, List.forall_mem_nil _, fun _ => rfl⟩
  | cons c s ih =>
    rw [squeezeFrom] at h ⊢
    split
    · next hc =>
      rw [if_pos hc] at h
      cases inBlanks with
      | false =>
        have hspace : isBlank ' ' = false := h ' ' List.mem_cons_self
        cases hspace
      | true =>
        obtain ⟨blanks, hs, hblanks, -⟩ := ih h
        refine ⟨c :: blanks, congrArg (c :: ·) hs, ?_, fun h => absurd h.symm Bool.false_ne_true⟩
        rw [List.forall_mem_cons]
        exact ⟨hc, hblanks⟩
    · next hc =>
      rw [if_neg hc, List.forall_mem_cons] at h
      obtain ⟨blanks, hs, -, hnil⟩ := ih h.2
      rw [hnil rfl, List.nil_append] at hs
      exact ⟨[], congrArg (c :: ·) hs, List.forall_mem_nil _, fun _ => rfl⟩

/-- An ending is squeezed into one. -/
theorem IsEnding.squeeze (h : IsEnding blanks semicolons trailing) :
    IsEnding (squeezeBlanks blanks) semicolons (squeezeBlanks trailing) where
  blanks_ne_nil := by
    obtain ⟨c, others, rfl⟩ := List.exists_cons_of_ne_nil h.blanks_ne_nil
    rw [squeezeBlanks, squeezeFrom, if_pos (h.isBlank c List.mem_cons_self), if_neg Bool.false_ne_true]
    exact List.cons_ne_nil _ _
  isBlank := forall_blank_squeezeFrom.2 h.isBlank
  semicolons_ne_nil := h.semicolons_ne_nil
  eq_semicolon := h.eq_semicolon
  isBlank_trailing := forall_blank_squeezeFrom.2 h.isBlank_trailing

theorem squeezeBlanks_append (h : IsEnding blanks semicolons trailing) (lead : List Char) :
    squeezeBlanks (lead ++ ';' :: (blanks ++ (semicolons ++ trailing))) =
      squeezeBlanks lead ++ ';' :: (squeezeBlanks blanks ++ (semicolons ++ squeezeBlanks trailing)) := by
  have hblanks : endsInBlank false blanks = true := endsInBlank_of_forall h.blanks_ne_nil h.isBlank
  have hsemicolons : endsInBlank true semicolons = false :=
    endsInBlank_of_forall h.semicolons_ne_nil h.not_blank
  rw [squeezeBlanks, squeezeFrom_append, squeezeFrom_cons_of_not_blank (by decide), squeezeFrom_append,
    hblanks, squeezeFrom_append, hsemicolons, squeezeFrom_of_no_blank h.not_blank]
  rfl

theorem endsApart_of_squeezeBlanks (h : EndsApart (squeezeBlanks s)) : EndsApart s := by
  obtain ⟨lead, blanks, semicolons, trailing, hs, hending⟩ := h
  -- the parts of the squeezed text come from parts of the text
  obtain ⟨lead', rest, first, rfl, -, hrest⟩ := exists_of_squeezeFrom_eq_append hs
  rw [← List.singleton_append] at hrest
  obtain ⟨mark, behind, second, rfl, hmark, hbehind⟩ := exists_of_squeezeFrom_eq_append hrest
  obtain ⟨blanks', ending, third, rfl, hblanks', hending'⟩ := exists_of_squeezeFrom_eq_append hbehind
  obtain ⟨semicolons', trailing', fourth, rfl, hsemicolons', htrailing'⟩ :=
    exists_of_squeezeFrom_eq_append hending'
  obtain ⟨front, hfront, -, -⟩ := exists_blanks_of_squeezeFrom (s := mark) (by rw [hmark]; decide)
  obtain ⟨between, hbetween, hblank, -⟩ :=
    exists_blanks_of_squeezeFrom (s := semicolons') (by rw [hsemicolons']; exact hending.not_blank)
  rw [hmark] at hfront
  rw [hsemicolons'] at hbetween
  subst hfront hbetween
  refine ⟨lead' ++ front, blanks' ++ between, semicolons, trailing', by simp, ?_⟩
  exact {
    blanks_ne_nil := by
      rintro hnil
      rw [(List.append_eq_nil_iff.1 hnil).1] at hblanks'
      exact hending.blanks_ne_nil hblanks'.symm
    isBlank := by
      have hall := hending.isBlank
      rw [← hblanks', forall_blank_squeezeFrom] at hall
      exact List.forall_mem_append.2 ⟨hall, hblank⟩
    semicolons_ne_nil := hending.semicolons_ne_nil
    eq_semicolon := hending.eq_semicolon
    isBlank_trailing := by
      have hall := hending.isBlank_trailing
      rwa [← htrailing', forall_blank_squeezeFrom] at hall }

/-- **Squeezing neither puts semicolons together nor apart.** -/
theorem endsApart_squeezeBlanks : EndsApart (squeezeBlanks s) ↔ EndsApart s := by
  refine ⟨endsApart_of_squeezeBlanks, ?_⟩
  rintro ⟨lead, blanks, semicolons, trailing, rfl, hending⟩
  exact ⟨_, _, _, _, squeezeBlanks_append hending lead, hending.squeeze⟩

/-! ## Cleaning again -/

/-- Of a cleaned text, a second cleaning takes away what it ends with, and only where that is a semicolon. -/
theorem exists_cut_cleanChars (s : List Char) : ∃ cut, cleanChars s = cleanChars (cleanChars s) ++ cut ∧
    (cut = [] ↔ (cleanChars s).getLast? ≠ some ';') := by
  obtain ⟨cut, htext, hcut⟩ := exists_cut (trim_cleanChars s)
  refine ⟨cut, by rwa [cleanChars_cleanChars], ?_⟩
  rcases hcut with ⟨hmem, hlast⟩ | ⟨rfl, hlast⟩
  · exact ⟨fun hnil => absurd hmem (hnil ▸ List.not_mem_nil), fun hne => absurd hlast hne⟩
  · exact ⟨fun _ => hlast, fun _ => rfl⟩

theorem toList_clean (sql : String) : (clean sql).toList = cleanChars sql.toList := by
  rw [clean, String.toList_ofList]

theorem clean_clean_eq_iff (sql : String) :
    clean (clean sql) = clean sql ↔ (clean sql).toList.getLast? ≠ some ';' := by
  obtain ⟨cut, htext, hcut⟩ := exists_cut_cleanChars sql.toList
  rw [← String.toList_inj, toList_clean (clean sql), toList_clean, ← hcut]
  constructor
  · intro hfixed
    rw [hfixed] at htext
    exact List.append_right_eq_self.1 htext.symm
  · rintro rfl
    rw [← List.append_nil (cleanChars (cleanChars sql.toList))]
    exact htext.symm

/-- What is not settled by a second cleaning is shorter behind it. -/
theorem length_clean_clean_lt {sql : String} (h : clean (clean sql) ≠ clean sql) :
    (clean (clean sql)).length < (clean sql).length := by
  obtain ⟨cut, htext, -⟩ := exists_cut_cleanChars sql.toList
  rw [← toList_clean, ← toList_clean] at htext
  have hne : cut ≠ [] := by
    rintro rfl
    rw [List.append_nil] at htext
    exact h (String.toList_inj.1 htext.symm)
  rw [← String.length_toList (s := clean sql), htext, List.length_append, String.length_toList]
  exact Nat.lt_add_of_pos_right (List.length_pos_iff.2 hne)

/-- **Cleaning again and again comes to an end.** -/
theorem exists_clean_fixed (sql : String) : ∃ n, clean (clean^[n] sql) = clean^[n] sql := by
  by_cases h : clean (clean sql) = clean sql
  · exact ⟨1, h⟩
  · obtain ⟨n, hn⟩ := exists_clean_fixed (clean sql)
    exact ⟨n + 1, hn⟩
termination_by (clean sql).length
decreasing_by exact length_clean_clean_lt h

/-- A text that cleaning leaves alone ends in no semicolon. -/
theorem getLast?_of_clean_eq {sql : String} (h : clean sql = sql) : sql.toList.getLast? ≠ some ';' := by
  have hagain := clean_clean_eq_iff sql
  rw [h] at hagain
  exact hagain.1 h

theorem getLast?_clean_iff (sql : String) :
    (clean sql).toList.getLast? = some ';' ↔ EndsApart (withoutComments sql.toList) := by
  rw [toList_clean, cleanChars_eq, getLast?_statementText_iff, endsApart_squeezeBlanks]

theorem clean_eq_empty_iff (sql : String) : clean sql = "" ↔
    (∀ c ∈ withoutComments sql.toList, isBlank c = true ∨ c = ';') ∧
      ¬ EndsApart (withoutComments sql.toList) := by
  rw [← String.toList_eq_nil_iff, toList_clean, cleanChars_eq, statementText_eq_nil_iff,
    endsApart_squeezeBlanks]
  refine and_congr_left' ?_
  have hnot (s : List Char) :
      (∀ c ∈ s, isBlank c = true ∨ c = ';') ↔ ∀ c, isBlank c = false → c ∈ s → c = ';' := by
    refine forall_congr' fun c => ?_
    cases isBlank c <;> simp
  rw [hnot, hnot]
  exact forall_congr' fun c => forall_congr' fun hc => imp_congr_left (mem_squeezeFrom hc false)

end Introspection

/-! ## Queries without text -/

namespace Command

open Introspection Text

variable {σ : Type}

/-- The failure of a query without text. -/
def emptyQuery : Fault := .error (senseless "Query was empty")

theorem switchAndReport_ne_emptyQuery (backend : Backend σ) (s : Session) (state : σ) (name : List Char)
    (packet : Wire.OkPacket) : (switchAndReport backend s state name packet).reply ≠ .error emptyQuery := by
  unfold switchAndReport switch emptyQuery senseless
  dsimp only
  cases hselect : backend.selectDatabase state (String.ofList (bareName name)) with
  | ok => nofun
  | error e =>
    obtain ⟨missing, rfl⟩ := backend.selectDatabase_error state _ e hselect
    nofun

/-- **A query fails for want of text exactly if nothing is left of it.** -/
theorem query_eq_emptyQuery_iff (backend : Backend σ) (s : Session) (state : σ) (sql : String) :
    (query backend s state sql).reply = .error emptyQuery ↔ sql = "" := by
  unfold query
  split
  · next hempty => exact ⟨fun _ => String.isEmpty_iff.1 hempty, fun _ => rfl⟩
  · next hsome =>
    unfold emptyQuery senseless
    refine iff_of_false ?_ fun hempty => hsome (String.isEmpty_iff.2 hempty)
    split
    · exact switchAndReport_ne_emptyQuery _ _ _ _ _
    · split
      · nofun
      · nofun
      · unfold forward
        split
        · nofun
        · nofun

/-- **What cleaning makes of the end of a text.** -/
structure CleanedEnd (sql : String) : Prop where
  /-- A semicolon is left at the end exactly where the text ends apart. -/
  semicolon_iff : (clean sql).toList.getLast? = some ';' ↔ EndsApart (withoutComments sql.toList)
  /-- A second cleaning changes nothing exactly where it does not. -/
  again_iff : clean (clean sql) = clean sql ↔ ¬ EndsApart (withoutComments sql.toList)
  /-- Cleaning often enough comes to a text that is clean and ends in no semicolon. -/
  settles : ∃ n, clean (clean^[n] sql) = clean^[n] sql ∧ (clean^[n] sql).toList.getLast? ≠ some ';'
  /-- The text is reported as empty exactly if it has only comments, blanks and semicolons and does not end
  apart, over every backend in every state. -/
  reported_iff : ∀ {σ : Type} (backend : Backend σ) (s : Session) (state : σ),
    (dispatch backend s state (0x03 :: encode sql)).reply = .error emptyQuery ↔
      (∀ c ∈ withoutComments sql.toList, isBlank c = true ∨ c = ';') ∧
        ¬ EndsApart (withoutComments sql.toList)

/-- **Cleaning is done at once exactly for the texts that do not end apart.** -/
theorem clean_settles_iff (sql : String) : CleanedEnd sql where
  semicolon_iff := getLast?_clean_iff sql
  again_iff := (clean_clean_eq_iff sql).trans (not_congr (getLast?_clean_iff sql))
  settles := by
    obtain ⟨n, hn⟩ := exists_clean_fixed sql
    exact ⟨n, hn, getLast?_of_clean_eq hn⟩
  reported_iff backend s state := by
    have hquery : dispatch backend s state (0x03 :: encode sql) =
        query backend s state (clean (decode (encode sql))) := rfl
    rw [hquery, decode_encode, query_eq_emptyQuery_iff, clean_eq_empty_iff]

/-- Of two semicolons with a blank between them only the second one goes: the text is not clean yet, and
alone it is not reported as empty. -/
theorem clean_semicolons_apart :
    let session : Session :=
      { connectionId := 1, challenge := .ofBytes [], authenticated := true, phase := .authenticated }
    clean "a ; ;" = "a ;" ∧ clean (clean "a ; ;") = "a" ∧ clean "; ;" = ";" ∧
      (dispatch Store.backend session {} (0x03 :: encode "; ;")).reply ≠ .error emptyQuery := by
  intro session
  refine ⟨by decide +kernel, by decide +kernel, by decide +kernel, ?_⟩
  have hquery : dispatch Store.backend session {} (0x03 :: encode "; ;") =
      query Store.backend session {} (clean (decode (encode "; ;"))) := rfl
  rw [hquery, ne_eq, query_eq_emptyQuery_iff]
  decide +kernel

end Command

end WireSql
