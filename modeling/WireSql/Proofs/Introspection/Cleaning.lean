import WireSql.Introspection.Clean
import WireSql.Proofs.Sql.Bare
import WireSql.Proofs.Sql.Pieces

/-!
# `WireSql.Proofs.Introspection.Cleaning`: what cleaning does to a quoted text

Cleaning a statement does not look at quotes. A text in it keeps its comments only if it has none
(`HasNoMark`), and even then its blanks are squeezed with those of the statement around it: every run of
blanks becomes one space. Since neither a mark nor a backslash is a blank, squeezing a printed text is
printing the squeezed one (`squeezeFrom_escape`), so that a statement around a text is cleaned into the same
statement around the squeezed text (`clean_bareInsertion`).

`squeezeBlanks_eq_self_iff` says which texts come through as they are. A query with bare names is one
(`clean_bareQuery`).
-/

namespace WireSql.Introspection

open Text

variable {c : Char} {s r text : List Char} {table column : String}

/-! ## Comments -/

/-- The texts that a comment begins with. -/
def commentMarks : List String := ["/*", "--", "#"]

/-- **No comment begins in the text.** -/
def HasNoMark (s : List Char) : Prop := ∀ mark ∈ commentMarks, ¬ mark.toList <:+: s

instance (s : List Char) : Decidable (HasNoMark s) :=
  inferInstanceAs (Decidable (∀ mark ∈ commentMarks, ¬ mark.toList <:+: s))

theorem hasNoMark_nil : HasNoMark [] := by decide

/-- Two characters stand side by side at the front of a text or behind its first character. -/
theorem pair_infix_cons {a b : Char} :
    [a, b] <:+: c :: s ↔ (c = a ∧ s.head? = some b) ∨ [a, b] <:+: s := by
  rw [List.infix_cons_iff]
  cases s with
  | nil => simp
  | cons d s => simp [List.cons_prefix_cons, eq_comm]

/-- A mark begins at the first character or behind it. -/
theorem hasNoMark_cons : HasNoMark (c :: s) ↔
    ¬ (c = '/' ∧ s.head? = some '*') ∧ ¬ (c = '-' ∧ s.head? = some '-') ∧ c ≠ '#' ∧ HasNoMark s := by
  have hone : ['#'] <:+: c :: s ↔ c = '#' ∨ ['#'] <:+: s := by
    rw [List.infix_cons_iff]
    simp [List.cons_prefix_cons, eq_comm]
  have hmarks (s : List Char) :
      HasNoMark s ↔ ¬ ['/', '*'] <:+: s ∧ ¬ ['-', '-'] <:+: s ∧ ¬ ['#'] <:+: s := by
    simp [HasNoMark, commentMarks]
  rw [hmarks, hmarks, pair_infix_cons, pair_infix_cons, hone]
  tauto

theorem blockComment?_of_hasNoMark (h : HasNoMark s) : blockComment? s = none := by
  unfold blockComment?
  split
  · exact absurd ⟨rfl, rfl⟩ (hasNoMark_cons.1 h).1
  · rfl

theorem dropBlockComments_of_hasNoMark (h : HasNoMark s) : dropBlockComments s = s := by
  rw [dropBlockComments]
  induction s with
  | nil => rfl
  | cons c s ih => rw [dropBlockCommentsFrom, blockComment?_of_hasNoMark h, ih (hasNoMark_cons.1 h).2.2.2]

theorem dropLineComments_of_no_mark (hhash : '#' ∉ s) (hdashes : ¬ ['-', '-'] <:+: s) :
    dropLineComments s = s := by
  rw [dropLineComments]
  induction s with
  | nil => rfl
  | cons c s ih =>
    rw [List.mem_cons, not_or] at hhash
    rw [pair_infix_cons, not_or] at hdashes
    have hnone : (c == '#' || (c == '-' && s.head? == some '-')) = false := by
      simpa [Ne.symm hhash.1] using hdashes.1
    rw [dropLineCommentsFrom, hnone, if_neg Bool.false_ne_true, ih hhash.2 hdashes.2]

theorem dropLineComments_of_hasNoMark (h : HasNoMark s) : dropLineComments s = s :=
  dropLineComments_of_no_mark
    (fun hhash => h "#" (by decide) ((List.singleton_infix_iff _ _).2 hhash)) (h "--" (by decide))

/-! ## Blanks -/

theorem squeezeFrom_cons_of_not_blank (h : isBlank c = false) (inBlanks : Bool) (s : List Char) :
    squeezeFrom inBlanks (c :: s) = c :: squeezeFrom false s := by
  rw [squeezeFrom, h, if_neg Bool.false_ne_true]

theorem squeezeFrom_of_no_blank (h : ∀ c ∈ s, isBlank c = false) (inBlanks : Bool) :
    squeezeFrom inBlanks s = s := by
  induction s generalizing inBlanks with
  | nil => rfl
  | cons c s ih =>
    rw [List.forall_mem_cons] at h
    rw [squeezeFrom_cons_of_not_blank h.1, ih h.2]

/-- Is there a blank in front of what follows the text, where `inBlanks` says so of the text itself? -/
def endsInBlank (inBlanks : Bool) (s : List Char) : Bool := s.foldl (fun _ c => isBlank c) inBlanks

theorem endsInBlank_of_forall {blank : Bool} (hne : s ≠ []) (h : ∀ c ∈ s, isBlank c = blank)
    {inBlanks : Bool} : endsInBlank inBlanks s = blank := by
  obtain ⟨lead, c, rfl⟩ : ∃ lead c, s = lead ++ [c] := ⟨_, _, (List.dropLast_append_getLast hne).symm⟩
  rw [endsInBlank, List.foldl_append, List.foldl_cons, List.foldl_nil]
  exact h c List.mem_concat_self

/-- A text in front is squeezed by itself; what follows needs to know whether it ends in a blank. -/
theorem squeezeFrom_append (inBlanks : Bool) (s t : List Char) :
    squeezeFrom inBlanks (s ++ t) = squeezeFrom inBlanks s ++ squeezeFrom (endsInBlank inBlanks s) t := by
  induction s generalizing inBlanks with
  | nil => rfl
  | cons c s ih =>
    rw [List.cons_append, squeezeFrom, squeezeFrom, endsInBlank, List.foldl_cons]
    cases hc : isBlank c with
    | true =>
      cases inBlanks with
      | true => exact ih true
      | false => exact congrArg (' ' :: ·) (ih true)
    | false => exact congrArg (c :: ·) (ih false)

/-- **The texts that squeezing leaves alone**: their only blanks are spaces, and no two stand side by side. -/
def IsSqueezed (s : List Char) : Prop := (∀ c ∈ s, isBlank c = true → c = ' ') ∧ ¬ [' ', ' '] <:+: s

theorem isSqueezed_cons : IsSqueezed (c :: s) ↔
    (isBlank c = true → c = ' ' ∧ s.head? ≠ some ' ') ∧ IsSqueezed s := by
  have hblank : c = ' ' → isBlank c = true := by
    rintro rfl
    rfl
  unfold IsSqueezed
  rw [pair_infix_cons, List.forall_mem_cons]
  tauto

/-- The first blank of a squeezed text is a space. -/
theorem IsSqueezed.head_not_blank_iff (h : IsSqueezed s) :
    (∀ c ∈ s.head?, isBlank c = false) ↔ s.head? ≠ some ' ' := by
  cases s with
  | nil => simp
  | cons c s =>
    simp only [List.head?_cons, Option.mem_some_iff, forall_eq', ne_eq, Option.some.injEq]
    constructor
    · rintro hc rfl
      cases hc
    · intro hc
      exact Bool.eq_false_iff.2 fun hblank => hc (h.1 c List.mem_cons_self hblank)

theorem length_squeezeFrom_le (inBlanks : Bool) (s : List Char) :
    (squeezeFrom inBlanks s).length ≤ s.length := by
  induction s generalizing inBlanks with
  | nil => exact Nat.le_refl 0
  | cons c s ih =>
    rw [squeezeFrom]
    split
    · split
      · exact Nat.le_succ_of_le (ih true)
      · exact Nat.succ_le_succ (ih true)
    · exact Nat.succ_le_succ (ih false)

/-- Behind a blank such a text must not begin with one. -/
theorem squeezeFrom_eq_self_iff (inBlanks : Bool) :
    squeezeFrom inBlanks s = s ↔ IsSqueezed s ∧ (inBlanks = true → ∀ c ∈ s.head?, isBlank c = false) := by
  induction s generalizing inBlanks with
  | nil => simp [squeezeFrom, IsSqueezed]
  | cons c s ih =>
    rw [isSqueezed_cons]
    cases hc : isBlank c with
    | false =>
      rw [squeezeFrom_cons_of_not_blank hc, List.cons_inj_right, ih]
      simp [hc]
    | true =>
      cases inBlanks with
      | true =>
        -- one blank is lost
        have hshort : squeezeFrom true (c :: s) ≠ c :: s := by
          intro h
          have hle := length_squeezeFrom_le true s
          rw [squeezeFrom, if_pos hc, if_pos rfl] at h
          rw [h, List.length_cons] at hle
          exact absurd hle (Nat.not_succ_le_self _)
        simp [hshort, hc]
      | false =>
        rw [squeezeFrom, if_pos hc, if_neg Bool.false_ne_true, List.cons.injEq, ih, eq_comm]
        constructor
        · rintro ⟨rfl, hs, hhead⟩
          exact ⟨⟨fun _ => ⟨rfl, hs.head_not_blank_iff.1 (hhead rfl)⟩, hs⟩, nofun⟩
        · rintro ⟨⟨hspace, hs⟩, -⟩
          exact ⟨(hspace rfl).1, hs, fun _ => hs.head_not_blank_iff.2 (hspace rfl).2⟩

/-- **A text is squeezed into itself exactly if its only blanks are single spaces.** -/
theorem squeezeBlanks_eq_self_iff : squeezeBlanks s = s ↔ IsSqueezed s := by
  rw [squeezeBlanks, squeezeFrom_eq_self_iff]
  simp

/-- A squeezed text has no blanks but spaces. -/
theorem eq_space_of_mem_squeezeFrom {inBlanks : Bool} (h : c ∈ squeezeFrom inBlanks s)
    (hc : isBlank c = true) : c = ' ' := by
  induction s generalizing inBlanks with
  | nil => cases h
  | cons d s ih =>
    rw [squeezeFrom] at h
    split at h
    · split at h
      · exact ih h
      · rcases List.mem_cons.1 h with rfl | h
        · rfl
        · exact ih h
    · next hd =>
      rcases List.mem_cons.1 h with rfl | h
      · exact absurd hc hd
      · exact ih h

/-! ## Cleaned texts -/

/-- A cleaned text has no blanks but spaces. -/
theorem eq_space_of_mem_cleanChars (h : c ∈ cleanChars s) (hc : isBlank c = true) : c = ' ' := by
  have hwithin : cleanChars s <:+: squeezeBlanks (dropLineComments (dropBlockComments s)) :=
    Sql.infix_statementText _
  exact eq_space_of_mem_squeezeFrom (hwithin.subset h) hc

/-- A cleaned text has no blanks around it. -/
theorem trim_cleanChars (s : List Char) : trim (cleanChars s) = cleanChars s := by
  have hprefix : cleanChars s <+: trim (squeezeBlanks (dropLineComments (dropBlockComments s))) :=
    (List.rdropWhile_prefix _ _).trans (List.rdropWhile_prefix _ _)
  exact trim_eq_self (fun c hc => not_of_head?_dropAroundWhile c (mem_head?_of_lead hprefix hc))
    not_of_getLast?_dropEndWhile

/-! ## Texts in statements -/

open Sql

theorem head?_escape (s r : List Char) : (Print.escape s ++ r).head? = (s ++ r).head? := by
  cases s with
  | nil => rfl
  | cons c s =>
    rw [Print.escape]
    split
    · rfl
    · rfl

/-- Doubling the marks and backslashes of a text makes no comment. -/
theorem hasNoMark_escape (hs : HasNoMark s) (hr : HasNoMark (apostrophe :: r)) :
    HasNoMark (Print.escape s ++ apostrophe :: r) := by
  induction s with
  | nil => exact hr
  | cons c s ih =>
    obtain ⟨hstar, hdash, hhash, hs⟩ := hasNoMark_cons.1 hs
    have hrest := ih hs
    rw [Print.escape]
    split
    · next hc =>
      rw [Bool.or_eq_true, beq_iff_eq, beq_iff_eq] at hc
      have hplain : c ≠ '/' ∧ c ≠ '-' ∧ c ≠ '#' := by
        rcases hc with rfl | rfl
        · decide
        · decide
      simp only [List.cons_append, hasNoMark_cons, hplain.1, hplain.2.1, hplain.2.2, false_and,
        not_false_eq_true, ne_eq, true_and]
      exact hrest
    · -- behind the last character stands the mark, with which no comment goes on
      have hhead : ∀ d ∈ ['*', '-'], (Print.escape s ++ apostrophe :: r).head? = some d →
          s.head? = some d := by
        intro d hd h
        rw [head?_escape] at h
        cases s with
        | nil =>
          obtain rfl : apostrophe = d := Option.some.inj h
          revert hd
          decide
        | cons b s => exact h
      rw [List.cons_append, hasNoMark_cons]
      exact ⟨fun h => hstar ⟨h.1, hhead '*' (by decide) h.2⟩,
        fun h => hdash ⟨h.1, hhead '-' (by decide) h.2⟩, hhash, hrest⟩

/-- **Squeezing a printed text is printing the squeezed one**: what is written twice is no blank. -/
theorem squeezeFrom_escape (inBlanks : Bool) (s r : List Char) :
    squeezeFrom inBlanks (Print.escape s ++ apostrophe :: r) =
      Print.escape (squeezeFrom inBlanks s) ++ apostrophe :: squeezeFrom false r := by
  induction s generalizing inBlanks with
  | nil => exact squeezeFrom_cons_of_not_blank (by decide) inBlanks r
  | cons c s ih =>
    cases hc : isBlank c with
    | true =>
      have hplain : (c == apostrophe || c == backslash) = false := by
        refine Bool.eq_false_iff.2 fun h => ?_
        rw [Bool.or_eq_true, beq_iff_eq, beq_iff_eq] at h
        rcases h with rfl | rfl
        · cases hc
        · cases hc
      rw [Print.escape, hplain, if_neg Bool.false_ne_true, List.cons_append, squeezeFrom, squeezeFrom,
        if_pos hc, if_pos hc]
      cases inBlanks with
      | true => exact ih true
      | false => rw [if_neg Bool.false_ne_true, if_neg Bool.false_ne_true, ih]; rfl
    | false =>
      rw [squeezeFrom_cons_of_not_blank hc, Print.escape, Print.escape]
      split
      · rw [List.cons_append, List.cons_append, squeezeFrom_cons_of_not_blank hc,
          squeezeFrom_cons_of_not_blank hc, ih]
        rfl
      · rw [List.cons_append, squeezeFrom_cons_of_not_blank hc, ih]
        rfl

/-! ## Statements with bare names -/

theorem cleanChars_of_hasNoMark (h : HasNoMark s) : cleanChars s = statementText (squeezeBlanks s) := by
  rw [cleanChars, dropBlockComments_of_hasNoMark h, dropLineComments_of_hasNoMark h]
  rfl

/-- A word in which no comment can begin makes none. -/
theorem hasNoMark_append {word : List Char} (h : ∀ c ∈ word, c ≠ '/' ∧ c ≠ '-' ∧ c ≠ '#')
    (hs : HasNoMark s) : HasNoMark (word ++ s) := by
  induction word with
  | nil => exact hs
  | cons c word ih =>
    rw [List.forall_mem_cons] at h
    rw [List.cons_append, hasNoMark_cons]
    exact ⟨fun hc => h.1.1 hc.1, fun hc => h.1.2.1 hc.1, h.1.2.2, ih h.2⟩

theorem no_mark_of_name (h : IsName table) : ∀ c ∈ table.toList, c ≠ '/' ∧ c ≠ '-' ∧ c ≠ '#' :=
  fun c hc => ⟨ne_of_inColumnName (by decide) (h.2 c hc), ne_of_inColumnName (by decide) (h.2 c hc),
    ne_of_inColumnName (by decide) (h.2 c hc)⟩

theorem hasNoMark_name (h : IsName table) : HasNoMark table.toList := by
  have hname := hasNoMark_append (no_mark_of_name h) hasNoMark_nil
  rwa [List.append_nil] at hname

theorem squeezeFrom_name (h : IsName table) (inBlanks : Bool) :
    squeezeFrom inBlanks table.toList = table.toList :=
  squeezeFrom_of_no_blank (fun c hc => isBlank_of_inColumnName (h.2 c hc)) inBlanks

theorem endsInBlank_name (h : IsName table) (inBlanks : Bool) :
    endsInBlank inBlanks table.toList = false :=
  endsInBlank_of_forall (toList_ne_nil h) fun c hc => isBlank_of_inColumnName (h.2 c hc)

/-- A quoted text with its closing parenthesis is squeezed by itself. -/
theorem squeezeFrom_quoted (text : List Char) :
    squeezeFrom false (Print.quoted text ++ [')']) = Print.quoted (squeezeBlanks text) ++ [')'] := by
  have happend (text : List Char) : Print.quoted text ++ [')'] =
      apostrophe :: (Print.escape text ++ apostrophe :: [')']) := by simp [Print.quoted]
  have hend : squeezeFrom false [')'] = [')'] := by decide
  rw [happend, happend, squeezeFrom_cons_of_not_blank (by decide), squeezeFrom_escape, hend, squeezeBlanks]

theorem squeezeBlanks_bareInsertion (htable : IsName table) (text : List Char) :
    squeezeBlanks (bareInsertion table text) = bareInsertion table (squeezeBlanks text) := by
  have hverb : squeezeFrom false "INSERT INTO ".toList = "INSERT INTO ".toList ∧
      endsInBlank false "INSERT INTO ".toList = true := by decide
  have hvalues : squeezeFrom false " VALUES (".toList = " VALUES (".toList ∧
      endsInBlank false " VALUES (".toList = false := by decide
  unfold bareInsertion squeezeBlanks
  generalize "INSERT INTO ".toList = verb at hverb ⊢
  generalize " VALUES (".toList = values at hvalues ⊢
  rw [squeezeFrom_append, hverb.1, hverb.2, squeezeFrom_append,
    squeezeFrom_name htable, endsInBlank_name htable, squeezeFrom_append, hvalues.1, hvalues.2,
    squeezeFrom_quoted]
  rfl

theorem squeezeBlanks_bareQuery (htable : IsName table) (hcolumn : IsName column) :
    squeezeBlanks (bareQuery column table) = bareQuery column table := by
  have hverb : squeezeFrom false "SELECT ".toList = "SELECT ".toList ∧
      endsInBlank false "SELECT ".toList = true := by decide
  have hfrom : squeezeFrom false " FROM ".toList = " FROM ".toList ∧
      endsInBlank false " FROM ".toList = true := by decide
  unfold bareQuery squeezeBlanks
  generalize "SELECT ".toList = verb at hverb ⊢
  generalize " FROM ".toList = «from» at hfrom ⊢
  rw [squeezeFrom_append, hverb.1, hverb.2, squeezeFrom_append,
    squeezeFrom_name hcolumn, endsInBlank_name hcolumn, squeezeFrom_append, hfrom.1, hfrom.2,
    squeezeFrom_name htable]

/-- **An insertion is cleaned into the insertion of the squeezed text.** -/
theorem clean_bareInsertion (htable : IsName table) (htext : HasNoMark text) :
    clean (String.ofList (bareInsertion table text)) =
      String.ofList (bareInsertion table (squeezeBlanks text)) := by
  have hend : HasNoMark (apostrophe :: [')']) := by decide
  have hquoted : HasNoMark (Print.quoted text ++ [')']) := by
    have happend : Print.quoted text ++ [')'] =
        [apostrophe] ++ (Print.escape text ++ apostrophe :: [')']) := by simp [Print.quoted]
    rw [happend]
    exact hasNoMark_append (by decide) (hasNoMark_escape htext hend)
  have hmark : HasNoMark (bareInsertion table text) :=
    hasNoMark_append (by decide) (hasNoMark_append (no_mark_of_name htable)
      (hasNoMark_append (by decide) hquoted))
  rw [clean, String.toList_ofList, cleanChars_of_hasNoMark hmark, squeezeBlanks_bareInsertion htable,
    statementText_bareInsertion]

/-- A query with bare names is clean. -/
theorem clean_bareQuery (htable : IsName table) (hcolumn : IsName column) :
    clean (String.ofList (bareQuery column table)) = String.ofList (bareQuery column table) := by
  have hmark : HasNoMark (bareQuery column table) :=
    hasNoMark_append (by decide) (hasNoMark_append (no_mark_of_name hcolumn)
      (hasNoMark_append (by decide) (hasNoMark_name htable)))
  rw [clean, String.toList_ofList, cleanChars_of_hasNoMark hmark, squeezeBlanks_bareQuery htable hcolumn,
    statementText_bareQuery htable]

end WireSql.Introspection
