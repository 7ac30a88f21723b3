import WireSql.Proofs.Introspection.Cleaning

/-!
# `WireSql.Proofs.Introspection.CommentFree`: what no cleaned text has in it

A text is cleaned in three passes, and each of them was written without regard to what the others leave
behind. What makes them fit together is that a pass puts a space wherever it takes something away: what
stands side by side afterwards stood side by side before. `Thins` is this relation between a text and what
a pass has made of it. A word without a space is found behind a pass only if it was there before
(`Thins.infix_of_word`), so no pass makes a mark that an earlier one has done away with.

`clean_commentFree` is the result: a cleaned text holds no comment of either kind, its only blanks are
single spaces, and none of them stands at an end.
-/

namespace WireSql.Introspection

open Text

variable {c : Char} {s t r word after : List Char}

/-! ## Stretches that became spaces -/

/-- **A text, and the same text with a space in place of each of some stretches.** -/
inductive Thins : List Char → List Char → Prop where
  | nil : Thins [] []
  | keep (c : Char) {s t : List Char} (h : Thins s t) : Thins (c :: s) (c :: t)
  /-- A stretch became a space. -/
  | space (c : Char) (stretch : List Char) {s t : List Char} (h : Thins s t) :
      Thins (c :: (stretch ++ s)) (' ' :: t)

namespace Thins

theorem append_inv {before : List Char} (h : Thins s (before ++ after)) :
    ∃ lead rest, s = lead ++ rest ∧ Thins lead before ∧ Thins rest after := by
  induction before generalizing s with
  | nil => exact ⟨[], s, rfl, .nil, h⟩
  | cons d before ih =>
    cases h with
    | keep _ h =>
      obtain ⟨lead, rest, rfl, hlead, hrest⟩ := ih h
      exact ⟨d :: lead, rest, rfl, .keep d hlead, hrest⟩
    | space c stretch h =>
      obtain ⟨lead, rest, rfl, hlead, hrest⟩ := ih h
      exact ⟨c :: (stretch ++ lead), rest, by simp, .space c stretch hlead, hrest⟩

/-- A character in front that is not a space is the one that stood there. -/
theorem cons_inv (h : Thins s (c :: after)) (hc : c ≠ ' ') :
    ∃ rest, s = c :: rest ∧ Thins rest after := by
  cases h with
  | keep _ h => exact ⟨_, rfl, h⟩
  | space => exact absurd rfl hc

/-- A word without a space in front is the word that stood there. -/
theorem word_inv (h : Thins s (word ++ after)) (hword : ' ' ∉ word) :
    ∃ rest, s = word ++ rest ∧ Thins rest after := by
  induction word generalizing s with
  | nil => exact ⟨s, rfl, h⟩
  | cons d word ih =>
    rw [List.mem_cons, not_or] at hword
    obtain ⟨behind, rfl, hbehind⟩ := h.cons_inv (Ne.symm hword.1)
    obtain ⟨rest, rfl, hrest⟩ := ih hbehind hword.2
    exact ⟨rest, rfl, hrest⟩

/-- **A word without a space is found only where it stood before.** -/
theorem infix_of_word (h : Thins s t) (hword : ' ' ∉ word) (hfound : word <:+: t) : word <:+: s := by
  obtain ⟨before, after, rfl⟩ := hfound
  rw [List.append_assoc] at h
  obtain ⟨lead, rest, rfl, -, hrest⟩ := h.append_inv
  obtain ⟨rest, rfl, -⟩ := hrest.word_inv hword
  exact ⟨lead, rest, List.append_assoc _ _ _⟩

end Thins

/-! ## Comments up to a mark -/

/-- **A comment from `/*` to `*/` stands in the text.** -/
def HasBlock (s : List Char) : Prop :=
  ∃ before inside after, s = before ++ "/*".toList ++ inside ++ "*/".toList ++ after

theorem not_hasBlock_nil : ¬ HasBlock [] := by
  rintro ⟨before, inside, after, h⟩
  simp at h

/-- It begins at the first character or behind it. -/
theorem hasBlock_cons : HasBlock (c :: s) ↔
    (∃ r, c = '/' ∧ s = '*' :: r ∧ ['*', '/'] <:+: r) ∨ HasBlock s := by
  constructor
  · rintro ⟨before, inside, after, h⟩
    cases before with
    | nil =>
      obtain ⟨rfl, rfl⟩ := List.cons.inj h
      exact .inl ⟨_, rfl, rfl, inside, after, rfl⟩
    | cons d before =>
      obtain ⟨rfl, rfl⟩ := List.cons.inj h
      exact .inr ⟨before, inside, after, rfl⟩
  · rintro (⟨r, rfl, rfl, inside, after, rfl⟩ | ⟨before, inside, after, rfl⟩)
    · exact ⟨[], inside, after, rfl⟩
    · exact ⟨c :: before, inside, after, rfl⟩

/-- A comment is found only where one stood before. -/
theorem Thins.hasBlock (h : Thins s t) (ht : HasBlock t) : HasBlock s := by
  obtain ⟨before, inside, after, rfl⟩ := ht
  simp only [List.append_assoc] at h
  obtain ⟨lead, opened, rfl, -, hopened⟩ := h.append_inv
  obtain ⟨begun, rfl, hbegun⟩ := hopened.word_inv (by decide)
  obtain ⟨middle, closed, rfl, -, hclosed⟩ := hbegun.append_inv
  obtain ⟨rest, rfl, -⟩ := hclosed.word_inv (by decide)
  exact ⟨lead, middle, rest, by simp only [List.append_assoc]⟩

theorem blockEnd?_eq_none_iff : blockEnd? s = none ↔ ¬ ['*', '/'] <:+: s := by
  fun_induction blockEnd? s with
  | case1 => simp
  | case2 r => simp [pair_infix_cons]
  | case3 c r hopen ih =>
    rw [Option.map_eq_none_iff, ih, pair_infix_cons, not_or, iff_and_self]
    rintro - ⟨rfl, hslash⟩
    obtain ⟨rest, rfl⟩ := List.head?_eq_some_iff.1 hslash
    exact hopen rest rfl rfl

/-- No comment is found at the front of a text just where none begins there. -/
theorem blockComment?_eq_none_iff : blockComment? (c :: s) = none ↔
    ¬ ∃ r, c = '/' ∧ s = '*' :: r ∧ ['*', '/'] <:+: r := by
  unfold blockComment?
  split
  · next r heq =>
    obtain ⟨rfl, rfl⟩ := List.cons.inj heq
    rw [Option.map_eq_none_iff, blockEnd?_eq_none_iff]
    simp
  · next hother =>
    simp only [true_iff]
    rintro ⟨r, rfl, rfl, -⟩
    exact hother r rfl

theorem thins_dropBlockCommentsFrom (skip : Nat) (s : List Char) :
    Thins (s.drop skip) (dropBlockCommentsFrom skip s) := by
  induction s generalizing skip with
  | nil =>
    rw [List.drop_nil, dropBlockCommentsFrom]
    exact .nil
  | cons c r ih =>
    cases skip with
    | succ skip => exact ih skip
    | zero =>
      rw [dropBlockCommentsFrom]
      cases blockComment? (c :: r) with
      | none => exact .keep c (ih 0)
      | some length =>
        have hrest := Thins.space c (r.take (length - 1)) (ih (length - 1))
        rwa [List.take_append_drop] at hrest

/-- **The first pass leaves no comment up to a mark.** -/
theorem not_hasBlock_dropBlockCommentsFrom (skip : Nat) (s : List Char) :
    ¬ HasBlock (dropBlockCommentsFrom skip s) := by
  induction s generalizing skip with
  | nil =>
    rw [dropBlockCommentsFrom]
    exact not_hasBlock_nil
  | cons c r ih =>
    cases skip with
    | succ skip => exact ih skip
    | zero =>
      rw [dropBlockCommentsFrom]
      cases hcomment : blockComment? (c :: r) with
      | some length =>
        rw [hasBlock_cons]
        rintro (⟨_, hspace, -⟩ | hrest)
        · cases hspace
        · exact ih (length - 1) hrest
      | none =>
        rw [hasBlock_cons]
        rintro (⟨inside, rfl, hopen, hend⟩ | hrest)
        · -- the comment would have been found in the text as it was
          have hthins : Thins r ('*' :: inside) := hopen ▸ thins_dropBlockCommentsFrom 0 r
          obtain ⟨begun, rfl, hbegun⟩ := hthins.cons_inv (by decide)
          exact blockComment?_eq_none_iff.1 hcomment
            ⟨begun, rfl, rfl, hbegun.infix_of_word (by decide) hend⟩
        · exact ih 0 hrest

/-! ## Comments up to the end of a line -/

/-- What is left of a text that begins inside a comment is what is left of a rest of it. -/
theorem thins_dropLineCommentsFrom (s : List Char) :
    Thins s (dropLineCommentsFrom false s) ∧
      ∃ comment rest, s = comment ++ rest ∧ Thins rest (dropLineCommentsFrom true s) := by
  induction s with
  | nil => exact ⟨.nil, [], [], rfl, .nil⟩
  | cons c r ih =>
    obtain ⟨hkept, comment, rest, hr, hskipped⟩ := ih
    constructor
    · rw [dropLineCommentsFrom]
      split
      · rw [hr]
        exact .space c comment (hr ▸ hskipped)
      · exact .keep c hkept
    · rw [dropLineCommentsFrom]
      split
      · exact ⟨[], c :: r, rfl, .keep c hkept⟩
      · exact ⟨c :: comment, rest, congrArg (c :: ·) hr, hskipped⟩

/-- **The second pass leaves neither of the marks that begin a comment up to the end of a line.** -/
theorem no_mark_dropLineCommentsFrom (skipping : Bool) (s : List Char) :
    '#' ∉ dropLineCommentsFrom skipping s ∧ ¬ ['-', '-'] <:+: dropLineCommentsFrom skipping s := by
  induction s generalizing skipping with
  | nil => simp [dropLineCommentsFrom]
  | cons c r ih =>
    cases skipping with
    | true =>
      rw [dropLineCommentsFrom]
      split
      · next hline =>
        obtain rfl := beq_iff_eq.1 hline
        rw [pair_infix_cons]
        simpa using ih false
      · exact ih true
    | false =>
      rw [dropLineCommentsFrom]
      split
      · rw [pair_infix_cons]
        simpa using ih true
      · next hplain =>
        obtain ⟨hhash, hdash⟩ := ih false
        simp only [Bool.or_eq_true, beq_iff_eq, Bool.and_eq_true, not_or, not_and] at hplain
        rw [List.mem_cons, not_or, pair_infix_cons, not_or]
        refine ⟨⟨Ne.symm hplain.1, hhash⟩, ?_, hdash⟩
        rintro ⟨rfl, hnext⟩
        -- the second dash stood behind the first one
        obtain ⟨after, hafter⟩ := List.head?_eq_some_iff.1 hnext
        have hthins : Thins r ('-' :: after) := hafter ▸ (thins_dropLineCommentsFrom r).1
        obtain ⟨rest, rfl, -⟩ := hthins.cons_inv (by decide)
        exact hplain.2 rfl rfl

/-! ## Blanks -/

theorem thins_squeezeFrom (s : List Char) : Thins s (squeezeFrom false s) ∧
    ∃ blanks rest, s = blanks ++ rest ∧ Thins rest (squeezeFrom true s) := by
  induction s with
  | nil => exact ⟨.nil, [], [], rfl, .nil⟩
  | cons c r ih =>
    obtain ⟨hkept, blanks, rest, hr, hsqueezed⟩ := ih
    rw [squeezeFrom, squeezeFrom]
    split
    · refine ⟨?_, c :: blanks, rest, congrArg (c :: ·) hr, hsqueezed⟩
      rw [hr]
      exact .space c blanks (hr ▸ hsqueezed)
    · exact ⟨.keep c hkept, [], c :: r, rfl, .keep c hkept⟩

/-- **The third pass leaves single spaces**, and none in front where a blank stands before the text. -/
theorem isSqueezed_squeezeFrom (inBlanks : Bool) (s : List Char) :
    IsSqueezed (squeezeFrom inBlanks s) ∧
      (inBlanks = true → (squeezeFrom inBlanks s).head? ≠ some ' ') := by
  induction s generalizing inBlanks with
  | nil => simp [squeezeFrom, IsSqueezed]
  | cons c r ih =>
    rw [squeezeFrom]
    split
    · cases inBlanks with
      | true => exact ih true
      | false =>
        obtain ⟨hsqueezed, hhead⟩ := ih true
        have hspace : IsSqueezed (' ' :: squeezeFrom true r) :=
          isSqueezed_cons.2 ⟨fun _ => ⟨rfl, hhead rfl⟩, hsqueezed⟩
        exact ⟨hspace, fun h => absurd h Bool.false_ne_true⟩
    · next hblank =>
      refine ⟨isSqueezed_cons.2 ⟨fun h => absurd h hblank, (ih false).1⟩, ?_⟩
      rintro - hspace
      obtain rfl := Option.some.inj hspace
      exact hblank rfl

/-! ## Cleaned texts -/

theorem IsSqueezed.of_within (h : IsSqueezed s) (hin : t <:+: s) : IsSqueezed t :=
  ⟨fun c hc => h.1 c (hin.subset hc), fun hpair => h.2 (hpair.trans hin)⟩

theorem HasBlock.of_within (h : HasBlock t) (hin : t <:+: s) : HasBlock s := by
  obtain ⟨before, inside, after, rfl⟩ := h
  obtain ⟨front, behind, rfl⟩ := hin
  exact ⟨front ++ before, inside, after ++ behind, by simp only [List.append_assoc]⟩

/-- **What no cleaned text has in it.** -/
structure CommentFree (s : List Char) : Prop where
  /-- No mark begins a comment up to the end of a line. -/
  no_hash : '#' ∉ s
  /-- Nor does the other one. -/
  no_dashes : ¬ "--".toList <:+: s
  /-- No comment goes from `/*` to a `*/` behind it. -/
  no_block : ¬ HasBlock s
  only_spaces : ∀ c ∈ s, isBlank c = true → c = ' '
  single_spaces : ¬ [' ', ' '] <:+: s
  head_not_blank : ∀ c ∈ s.head?, isBlank c = false
  last_not_blank : ∀ c ∈ s.getLast?, isBlank c = false

/-- **A cleaned text has no comments and no blanks but single spaces between other characters.** -/
theorem clean_commentFree (sql : String) : CommentFree (clean sql).toList := by
  rw [clean, String.toList_ofList]
  generalize sql.toList = s
  let first := dropBlockComments s
  let second := dropLineComments first
  let third := squeezeBlanks second
  have hwithin : cleanChars s <:+: third := Sql.infix_statementText third
  have hthinned : Thins first second := (thins_dropLineCommentsFrom first).1
  have hsqueezed : Thins second third := (thins_squeezeFrom second).1
  -- what a pass has done away with is in no text that came after
  have hblock : ¬ HasBlock third := fun h =>
    not_hasBlock_dropBlockCommentsFrom 0 s (hthinned.hasBlock (hsqueezed.hasBlock h))
  obtain ⟨hhash, hdashes⟩ := no_mark_dropLineCommentsFrom false first
  have hspaces : IsSqueezed (cleanChars s) := (isSqueezed_squeezeFrom false second).1.of_within hwithin
  have htrim : trim (cleanChars s) = cleanChars s := trim_cleanChars s
  exact {
    no_hash := fun h => by
      have hfound : ['#'] <:+: third := ((List.singleton_infix_iff _ _).2 h).trans hwithin
      exact hhash ((List.singleton_infix_iff _ _).1 (hsqueezed.infix_of_word (by decide) hfound))
    no_dashes := fun h => hdashes (hsqueezed.infix_of_word (by decide) (h.trans hwithin))
    no_block := fun h => hblock (h.of_within hwithin)
    only_spaces := hspaces.1
    single_spaces := hspaces.2
    head_not_blank := htrim ▸ not_of_head?_dropAroundWhile
    last_not_blank := htrim ▸ not_of_getLast?_dropEndWhile }

/-- The star of `/*/` does not close what it has opened. -/
example : cleanChars "a /*/ b -- c */\n;".toList = "a".toList ∧
    cleanChars "a /*/ b -- c\n;".toList = "a /*/ b".toList := by decide +kernel

end WireSql.Introspection
