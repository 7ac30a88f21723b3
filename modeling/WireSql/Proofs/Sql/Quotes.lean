import WireSql.Proofs.Sql.Literals
import WireSql.Proofs.Sql.Pieces

/-!
# `WireSql.Proofs.Sql.Quotes`: where a quoted value ends

Two readers decide where a quoted value ends. The scan that cuts lists closes the quote at its mark, unless
a backslash takes the mark as it is or the mark stands twice (`IsOneLiteral`); `closesAtEnd_iff` says which
texts those are and what they spell (`Spells`). The reader of literals looks at the two ends of the text
only. It therefore reads every such text as what it spells, and more: a text in which something follows the
closing mark, and a text whose last mark is taken as it is, as long as they end in the mark (`RunsOn`).

`quoted_values` says so for every literal that begins with a mark, and for every text value of every
statement that can be read.
-/

namespace WireSql.Sql

open Text

variable {mark : Char} {s r body value : List Char}

/-! ## The scan through one literal -/

/-- **A scan that goes on with the text closes its quote at the end of it and not before**: where the quote is
closed earlier, the next character opens it again. -/
def ClosesAtEnd (mark : Char) (scan : Scan) (s : List Char) : Prop :=
  (s.foldl Scan.next scan).quote = none ∧
    ∀ before c after, s = before ++ c :: after → (before.foldl Scan.next scan).quote = none → c = mark

/-- **The text is one literal between two marks**, by the rules of the scan that cuts lists. -/
def IsOneLiteral (mark : Char) (s : List Char) : Prop :=
  ∃ r, s = mark :: r ∧ ClosesAtEnd mark (Scan.next {} mark) r

theorem closesAtEnd_nil {scan : Scan} : ClosesAtEnd mark scan [] ↔ scan.quote = none := by
  constructor
  · exact And.left
  · intro h
    exact ⟨h, fun before c after h => absurd h.symm (by simp)⟩

theorem closesAtEnd_cons {scan : Scan} {c : Char} :
    ClosesAtEnd mark scan (c :: s) ↔
      (scan.quote = none → c = mark) ∧ ClosesAtEnd mark (scan.next c) s := by
  constructor
  · rintro ⟨hend, hbefore⟩
    exact ⟨hbefore [] c s rfl, hend,
      fun before d after h => hbefore (c :: before) d after (congrArg (c :: ·) h)⟩
  · rintro ⟨hhead, hend, hbefore⟩
    refine ⟨hend, fun before d after h => ?_⟩
    cases before with
    | nil =>
      obtain ⟨rfl, -⟩ := List.cons.inj h
      exact hhead
    | cons b before =>
      obtain ⟨rfl, hs⟩ := List.cons.inj h
      exact hbefore before d after hs

/-! ## What a literal spells -/

/-- **The text between the marks of one literal, and what it spells.** -/
inductive Spells (mark : Char) : List Char → List Char → Prop where
  | nil : Spells mark [] []
  /-- A character that stands for itself. -/
  | plain {c : Char} {s value : List Char} (hmark : c ≠ mark) (hbackslash : c ≠ backslash)
      (h : Spells mark s value) : Spells mark (c :: s) (c :: value)
  /-- A character that a backslash takes. -/
  | escaped (c : Char) {s value : List Char} (h : Spells mark s value) :
      Spells mark (backslash :: c :: s) (escapedChar c :: value)
  /-- The mark, which stands twice. -/
  | doubled {s value : List Char} (h : Spells mark s value) :
      Spells mark (mark :: mark :: s) (mark :: value)

/-- May the mark stand around a text literal? -/
def IsTextMark (mark : Char) : Prop := mark = apostrophe ∨ mark = quotationMark

theorem IsTextMark.isQuote (h : IsTextMark mark) : isQuote mark = true := by
  rcases h with rfl | rfl <;> rfl

theorem IsTextMark.ne_backslash (h : IsTextMark mark) : mark ≠ backslash := by
  rcases h with rfl | rfl <;> decide

theorem IsTextMark.ne_backtick (h : IsTextMark mark) : mark ≠ backtick := by
  rcases h with rfl | rfl <;> decide

/-- The scan behind the opening mark. -/
theorem next_of_mark (h : IsTextMark mark) : Scan.next {} mark = .quoted mark 0 :=
  next_within_of_quote h.isQuote

/-- The scan inside a quote behind a backslash. -/
def Scan.atEscape (mark : Char) : Scan := { quote := some mark, escaped := true }

theorem next_backslash (h : IsTextMark mark) :
    (Scan.quoted mark 0).next backslash = .atEscape mark := by
  simp [Scan.quoted, Scan.next, Scan.atEscape, h.ne_backtick]

theorem next_atEscape (c : Char) : (Scan.atEscape mark).next c = .quoted mark 0 := by
  simp [Scan.atEscape, Scan.next, Scan.quoted]

/-- **What spells something is passed inside the quote.** -/
theorem closesAtEnd_append (h : IsTextMark mark) (hbody : Spells mark body value) (rest : List Char) :
    ClosesAtEnd mark (.quoted mark 0) (body ++ rest) ↔ ClosesAtEnd mark (.quoted mark 0) rest := by
  induction hbody with
  | nil => rfl
  | plain hmark hbackslash _ ih =>
    rw [List.cons_append, closesAtEnd_cons, next_quoted_of_plain hmark hbackslash, ih]
    simp [Scan.quoted]
  | escaped c _ ih =>
    rw [List.cons_append, List.cons_append, closesAtEnd_cons, closesAtEnd_cons, next_backslash h,
      next_atEscape, ih]
    simp [Scan.quoted, Scan.atEscape]
  | doubled _ ih =>
    rw [List.cons_append, List.cons_append, closesAtEnd_cons, closesAtEnd_cons,
      next_quoted_self h.ne_backslash, next_within_of_quote h.isQuote, ih]
    simp [Scan.quoted]

/-- **What can stand between a mark and another text**: something that spells a value, up to the end, up to a
backslash at the end, or up to a mark that stands alone. -/
inductive Begins (mark : Char) (s : List Char) : Prop where
  /-- All of it spells a value. -/
  | whole (value : List Char) (h : Spells mark s value)
  /-- A backslash at the end takes what follows. -/
  | escape (body value : List Char) (h : Spells mark body value) (hs : s = body ++ [backslash])
  /-- A mark stands alone. -/
  | alone (body value rest : List Char) (h : Spells mark body value) (hs : s = body ++ mark :: rest)
      (hrest : rest.head? ≠ some mark)

/-- Whatever spells a value in front goes to the beginning. -/
theorem Begins.append (lead : List Char) {grow : List Char → List Char}
    (hlead : ∀ {s value}, Spells mark s value → Spells mark (lead ++ s) (grow value))
    (h : Begins mark s) : Begins mark (lead ++ s) := by
  cases h with
  | whole value h => exact .whole _ (hlead h)
  | escape body value h hs => exact .escape (lead ++ body) _ (hlead h) (by rw [hs, List.append_assoc])
  | alone body value rest h hs hrest =>
    exact .alone (lead ++ body) _ rest (hlead h) (by rw [hs, List.append_assoc]) hrest

theorem begins (mark : Char) : (s : List Char) → Begins mark s
  | [] => .whole [] .nil
  | [c] => by
    by_cases hbackslash : c = backslash
    · exact .escape [] [] .nil (by rw [hbackslash, List.nil_append])
    · by_cases hmark : c = mark
      · exact .alone [] [] [] .nil (by rw [hmark, List.nil_append]) (by simp)
      · exact .whole [c] (.plain hmark hbackslash .nil)
  | c :: d :: r => by
    by_cases hbackslash : c = backslash
    · subst hbackslash
      exact (begins mark r).append [backslash, d] (.escaped d)
    · by_cases hmark : c = mark
      · subst hmark
        by_cases hdouble : d = c
        · subst hdouble
          exact (begins d r).append [d, d] .doubled
        · exact .alone [] [] (d :: r) .nil rfl (by simpa using hdouble)
      · exact (begins mark (d :: r)).append [c] (.plain hmark hbackslash)

/-- **One literal is a mark, something that spells a value, and the mark again.** -/
theorem isOneLiteral_iff (h : IsTextMark mark) :
    IsOneLiteral mark s ↔ ∃ body value, Spells mark body value ∧ s = mark :: (body ++ [mark]) := by
  have hinside : (Scan.quoted mark 0).quote ≠ none := by simp [Scan.quoted]
  constructor
  · rintro ⟨r, rfl, hr⟩
    rw [next_of_mark h] at hr
    cases begins mark r with
    | whole value hspells =>
      rw [← List.append_nil r, closesAtEnd_append h hspells, closesAtEnd_nil] at hr
      exact absurd hr hinside
    | escape body value hspells hs =>
      rw [hs, closesAtEnd_append h hspells, closesAtEnd_cons, next_backslash h, closesAtEnd_nil] at hr
      exact absurd hr.2 (by simp [Scan.atEscape])
    | alone body value rest hspells hs hrest =>
      rw [hs, closesAtEnd_append h hspells, closesAtEnd_cons, next_quoted_self h.ne_backslash] at hr
      cases rest with
      | nil => exact ⟨body, value, hspells, by rw [hs]⟩
      | cons d rest =>
        -- the quote is closed here, so the mark would stand twice
        have hd : d = mark := (closesAtEnd_cons.1 hr.2).1 rfl
        exact absurd (congrArg some hd) hrest
  · rintro ⟨body, value, hspells, rfl⟩
    refine ⟨body ++ [mark], rfl, ?_⟩
    rw [next_of_mark h, closesAtEnd_append h hspells, closesAtEnd_cons, next_quoted_self h.ne_backslash,
      closesAtEnd_nil]
    exact ⟨fun h => absurd h hinside, rfl⟩

/-! ## What the two ends do not tell -/

/-- **The text begins and ends with the mark and is not one literal.** -/
inductive RunsOn (mark : Char) (s : List Char) : Prop where
  /-- The literal is closed before the last mark, and not by a mark that stands twice. -/
  | past (body value rest : List Char) (h : Spells mark body value) (hrest : rest.head? ≠ some mark)
      (hs : s = mark :: (body ++ mark :: (rest ++ [mark])))
  /-- A backslash takes the last mark, and the literal is not closed at all. -/
  | unclosed (body value : List Char) (h : Spells mark body value)
      (hs : s = mark :: (body ++ [backslash, mark]))

theorem not_isOneLiteral_of_runsOn (h : IsTextMark mark) (hruns : RunsOn mark s) :
    ¬ IsOneLiteral mark s := by
  have hinside : (Scan.quoted mark 0).quote ≠ none := by simp [Scan.quoted]
  rintro ⟨r, hr, hscan⟩
  rw [next_of_mark h] at hscan
  cases hruns with
  | past body value rest hspells hrest hs =>
    obtain ⟨-, rfl⟩ := List.cons.inj (hr.symm.trans hs)
    rw [closesAtEnd_append h hspells, closesAtEnd_cons, next_quoted_self h.ne_backslash] at hscan
    cases rest with
    | nil =>
      rw [List.nil_append, closesAtEnd_cons, next_within_of_quote h.isQuote, closesAtEnd_nil] at hscan
      exact hinside hscan.2.2
    | cons d rest =>
      have hd : d = mark := (closesAtEnd_cons.1 hscan.2).1 rfl
      exact hrest (congrArg some hd)
  | unclosed body value hspells hs =>
    obtain ⟨-, rfl⟩ := List.cons.inj (hr.symm.trans hs)
    rw [closesAtEnd_append h hspells, closesAtEnd_cons, closesAtEnd_cons, next_backslash h,
      next_atEscape, closesAtEnd_nil] at hscan
    exact hinside hscan.2.2

/-- **A text between two marks is one literal or runs on.** -/
theorem isOneLiteral_or_runsOn (h : IsTextMark mark) (inner : List Char) :
    IsOneLiteral mark (mark :: (inner ++ [mark])) ∨ RunsOn mark (mark :: (inner ++ [mark])) := by
  cases begins mark inner with
  | whole value hspells => exact .inl ((isOneLiteral_iff h).2 ⟨inner, value, hspells, rfl⟩)
  | escape body value hspells hs => exact .inr (.unclosed body value hspells (by simp [hs]))
  | alone body value rest hspells hs hrest =>
    exact .inr (.past body value rest hspells hrest (by simp [hs]))

/-! ## Reading literals -/

/-- What spells a value is read as that value. -/
theorem unescape_of_spells (h : mark ≠ backslash) (hbody : Spells mark body value) :
    unescape mark body = value := by
  induction hbody with
  | nil => rfl
  | @plain c s value hmark hbackslash _ ih =>
    cases s with
    | nil => rw [← ih]; rfl
    | cons d s => rw [unescape, if_neg (by simpa using hbackslash), if_neg (by simp [hmark]), ih]
  | escaped c _ ih => rw [unescape, if_pos (beq_self_eq_true backslash), ih]
  | doubled _ ih => rw [unescape, if_neg (by simpa using h), if_pos (by simp), ih]

theorem ne_word_of_mark (h : IsTextMark mark) (r : List Char) :
    ∀ word ∈ ["NULL", "TRUE", "FALSE"], ¬((mark :: r).map Char.toUpper == word.toList) = true := by
  rcases h with rfl | rfl
  · exact ne_word_of_head (by decide) r
  · exact ne_word_of_head (by decide) r

/-- No number begins with a mark. -/
theorem int64?_of_mark (h : IsTextMark mark) (r : List Char) : Decimal.int64? (mark :: r) = none := by
  rcases h with rfl | rfl <;> rfl

theorem float?_of_mark (h : IsTextMark mark) (r : List Char) : Decimal.float? (mark :: r) = none := by
  rcases h with rfl | rfl <;> rfl

/-- What begins with a mark is read by its ends: from between two marks where it ends in the mark too, and
not at all otherwise. -/
theorem literal_of_mark (h : IsTextMark mark) {text : List Char} (htext : trim text = mark :: r) :
    literal text = if r.getLast? = some mark
      then .ok (.text (String.ofList (unescape mark r.dropLast)))
      else .error (.badLiteral (String.ofList (mark :: r))) := by
  have hword := ne_word_of_mark h r
  rw [literal, htext, if_neg (hword _ (by decide)), if_neg (hword _ (by decide)),
    if_neg (hword _ (by decide))]
  by_cases hlast : r.getLast? = some mark
  · rcases h with rfl | rfl
    · simp [between?, hlast]
    · simp [between?, hlast, apostrophe, quotationMark]
  · rw [if_neg hlast]
    have hnone : between? apostrophe (mark :: r) = none ∧ between? quotationMark (mark :: r) = none := by
      rcases h with rfl | rfl
      · exact ⟨by simp [between?, hlast], between?_eq_none (by decide) r⟩
      · exact ⟨between?_eq_none (by decide) r, by simp [between?, hlast]⟩
    rw [hnone.1, hnone.2, int64?_of_mark h, float?_of_mark h]

/-- A value that is read as a text begins with a mark. -/
theorem exists_mark_of_literal {text : List Char} {value : String}
    (h : literal text = .ok (.text value)) : ∃ mark, IsTextMark mark ∧ (trim text).head? = some mark := by
  have hhead {mark : Char} {s body : List Char} (h : between? mark s = some body) :
      s.head? = some mark := by
    unfold between? at h
    split at h
    · split at h
      · next hmark =>
        rw [Bool.and_eq_true, beq_iff_eq] at hmark
        rw [hmark.1, List.head?_cons]
      · cases h
    · cases h
  unfold literal at h
  dsimp only at h
  split at h
  · cases h
  · split at h
    · cases h
    · split at h
      · cases h
      · split at h
        · next hbetween => exact ⟨apostrophe, .inl rfl, hhead hbetween⟩
        · next hbetween => exact ⟨quotationMark, .inr rfl, hhead hbetween⟩
        · split at h
          · cases h
          · cases h
          · cases h

/-- **How a literal that begins with a mark is read.** -/
structure QuotedReading (mark : Char) (text : List Char) : Prop where
  /-- It is read as a text exactly where it is one literal or runs on. -/
  text_iff : (∃ value, literal text = .ok (.text value)) ↔
    IsOneLiteral mark (trim text) ∨ RunsOn mark (trim text)
  /-- It is never both. -/
  exclusive : ¬ (IsOneLiteral mark (trim text) ∧ RunsOn mark (trim text))
  /-- One literal is read as what it spells. -/
  spelled : ∀ body value, Spells mark body value → trim text = mark :: (body ++ [mark]) →
    literal text = .ok (.text (String.ofList value))
  /-- What runs on is read up to its last character, with everything between the two ends in the value. -/
  swallowed : ∀ inner, trim text = mark :: (inner ++ [mark]) →
    literal text = .ok (.text (String.ofList (unescape mark inner)))
  /-- Anything else is refused. -/
  refused : ¬ IsOneLiteral mark (trim text) → ¬ RunsOn mark (trim text) →
    literal text = .error (.badLiteral (String.ofList (trim text)))

theorem quotedReading (h : IsTextMark mark) {text : List Char} (hhead : (trim text).head? = some mark) :
    QuotedReading mark text := by
  obtain ⟨r, hr⟩ := List.head?_eq_some_iff.1 hhead
  have hread := literal_of_mark h hr
  have hswallowed : ∀ inner, trim text = mark :: (inner ++ [mark]) →
      literal text = .ok (.text (String.ofList (unescape mark inner))) := by
    intro inner hinner
    obtain rfl : r = inner ++ [mark] := (List.cons.inj (hr.symm.trans hinner)).2
    rw [hread, if_pos (by simp), List.dropLast_concat]
  -- what ends in the mark is one literal or runs on, and neither ends otherwise
  have hends : r.getLast? = some mark ↔ IsOneLiteral mark (trim text) ∨ RunsOn mark (trim text) := by
    rw [hr]
    constructor
    · intro hlast
      rw [List.getLast?_eq_some_iff] at hlast
      obtain ⟨inner, rfl⟩ := hlast
      exact isOneLiteral_or_runsOn h inner
    · rintro (hone | hruns)
      · obtain ⟨body, value, -, hs⟩ := (isOneLiteral_iff h).1 hone
        rw [(List.cons.inj hs).2]
        simp
      · cases hruns with
        | past body value rest _ _ hs =>
          rw [(List.cons.inj hs).2, List.getLast?_eq_some_iff]
          exact ⟨body ++ mark :: rest, by simp⟩
        | unclosed body value _ hs =>
          rw [(List.cons.inj hs).2]
          simp
  constructor
  case text_iff =>
    rw [← hends, hread]
    split
    · next hlast => exact ⟨fun _ => hlast, fun _ => ⟨_, rfl⟩⟩
    · next hlast =>
      constructor
      · rintro ⟨value, ⟨⟩⟩
      · exact fun h => absurd h hlast
  case exclusive => exact fun hboth => not_isOneLiteral_of_runsOn h hboth.2 hboth.1
  case spelled =>
    intro body value hspells hs
    rw [hswallowed body hs, unescape_of_spells h.ne_backslash hspells]
  case swallowed => exact hswallowed
  case refused =>
    intro hone hruns
    rw [hread, if_neg fun hlast => (hends.1 hlast).elim hone hruns, hr]

/-- **Where the text values of a statement come from**: each from a stretch of its text that begins with a
mark, and is one literal or runs on. -/
def TextsQuoted (sql : String) (statement : Statement) : Prop :=
  ∀ value, Value.text value ∈ valuesOf statement → ∃ piece mark, piece <:+: sql.toList ∧ IsTextMark mark ∧
    literal piece = .ok (.text value) ∧
      (IsOneLiteral mark (trim piece) ∨ RunsOn mark (trim piece))

/-- **How quoted values are read**: a literal that begins with a mark is read as a text exactly where it is one
literal, whose value it then spells, or runs on past its end; and so is every text in a statement. -/
theorem quoted_values (text : List Char) (sql : String) :
    (∀ mark, IsTextMark mark → (trim text).head? = some mark → QuotedReading mark text) ∧
      ∀ statement, Statement.parse sql = .ok statement → TextsQuoted sql statement := by
  refine ⟨fun mark h hhead => quotedReading h hhead, fun statement h value hvalue => ?_⟩
  obtain ⟨piece, hpiece, hread⟩ := parse_values h (.text value) hvalue
  obtain ⟨mark, hmark, hhead⟩ := exists_mark_of_literal hread
  exact ⟨piece, mark, hpiece, hmark, hread, (quotedReading hmark hhead).text_iff.1 ⟨value, hread⟩⟩

/-- The clause behind the closing mark ends in a mark itself, and all of it is read into the value: the
statement removes other rows than it says. -/
theorem quoted_values_swallow_clause :
    ¬ IsOneLiteral apostrophe "'x' OR b = 'y'".toList ∧
      literal "'x' OR b = 'y'".toList = .ok (.text "x' OR b = 'y") ∧
      Statement.parse "DELETE FROM t WHERE a = 'x' OR b = 'y'" =
        .ok (.delete ⟨none, "t"⟩ [⟨"a", .text "x' OR b = 'y"⟩]) := by
  refine ⟨?_, by decide +kernel, by decide +kernel⟩
  refine not_isOneLiteral_of_runsOn (.inl rfl) (.past ['x'] ['x'] " OR b = 'y".toList ?_ ?_ rfl)
  · exact .plain (by decide) (by decide) .nil
  · decide

end WireSql.Sql
