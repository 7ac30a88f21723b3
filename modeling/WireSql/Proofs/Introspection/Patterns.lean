import Mathlib.Data.List.Infix
import WireSql.Introspection.Regex
import WireSql.Proofs.Introspection.Leads
import WireSql.Proofs.Text.Pieces

/-!
# `WireSql.Proofs.Introspection.Patterns`: which variables a pattern covers

`Like.Holds` says by recursion over a pattern which names it covers. The ends of the name that `advance`
keeps are each an end of those before it, and the pattern covers the name if what is left of it holds of one
of them (`contains_foldl_advance`): one step of the pattern, and the rest by induction.

The same pattern written as a regular expression is read back as one part for each of its characters, and is
found in just the names that the pattern holds of (`finds_toRegex`).

Names of variables are made of ASCII, so that of a case folding only the characters matter that fold to the
same one as a character of ASCII. `showVariables_like` puts this together for every such folding.
-/

namespace WireSql

namespace Introspection

open Text

variable {q : Char} {p s t : List Char} {fold : Char → Char}

/-! ## Patterns -/

/-- A case folding of single characters. Which characters fold to the same one as a character of ASCII is
told by the folding of keywords; nothing is said of the others. -/
structure CaseFolding where
  fold : Char → Char
  /-- A character of ASCII is matched by its other form, by the long s and by the sign for kelvin. -/
  ascii_iff : ∀ c d, d.toNat < 128 → (fold c = fold d ↔ Text.fold c = Text.fold d)

/-- The folding of keywords. -/
def CaseFolding.keywords : CaseFolding := ⟨Text.fold, fun _ _ _ => Iff.rfl⟩

namespace Like

/-- **The names a pattern covers**: `%` stands for any run of characters, `_` for any one, and every other
character for those that fold to the same one. -/
def Holds (fold : Char → Char) : List Char → List Char → Prop
  | [], s => s = []
  | q :: p, s =>
    if q = '%' then ∃ run rest, s = run ++ rest ∧ Holds fold p rest
    else ∃ c rest, s = c :: rest ∧ (q = '_' ∨ fold q = fold c) ∧ Holds fold p rest

theorem holds_run : Holds fold ('%' :: p) s ↔ ∃ rest, rest <:+ s ∧ Holds fold p rest := by
  rw [Holds, if_pos rfl]
  constructor
  · rintro ⟨run, rest, rfl, hrest⟩
    exact ⟨rest, List.suffix_append run rest, hrest⟩
  · rintro ⟨rest, ⟨run, rfl⟩, hrest⟩
    exact ⟨run, rest, rfl, hrest⟩

theorem holds_one (hq : q ≠ '%') :
    Holds fold (q :: p) s ↔ ∃ c rest, s = c :: rest ∧ (q = '_' ∨ fold q = fold c) ∧ Holds fold p rest := by
  rw [Holds, if_neg hq]

instance decidableHolds (fold : Char → Char) : (p s : List Char) → Decidable (Holds fold p s)
  | [], s => inferInstanceAs (Decidable (s = []))
  | q :: p, s =>
    have (t : List Char) : Decidable (Holds fold p t) := decidableHolds fold p t
    if hq : q = '%' then
      decidable_of_iff (∃ rest ∈ s.tails, Holds fold p rest) (by rw [hq, holds_run]; simp only [List.mem_tails])
    else match s with
      | [] => .isFalse (by rw [holds_one hq]; rintro ⟨c, rest, ⟨⟩, -⟩)
      | c :: rest =>
        decidable_of_iff ((q = '_' ∨ fold q = fold c) ∧ Holds fold p rest) (by
          rw [holds_one hq]
          constructor
          · exact fun h => ⟨c, rest, rfl, h⟩
          · rintro ⟨_, _, ⟨⟩, h⟩
            exact h)

/-- Among names of ASCII, case foldings do not differ. -/
theorem holds_ascii (folding : CaseFolding) (hs : ∀ c ∈ s, c.toNat < 128) :
    Holds folding.fold p s ↔ Holds Text.fold p s := by
  induction p generalizing s with
  | nil => exact Iff.rfl
  | cons q p ih =>
    by_cases hq : q = '%'
    · subst hq
      rw [holds_run, holds_run]
      refine exists_congr fun rest => and_congr_right fun hrest => ?_
      exact ih fun c hc => hs c (hrest.subset hc)
    · rw [holds_one hq, holds_one hq]
      refine exists_congr fun c => exists_congr fun rest => and_congr_right ?_
      rintro rfl
      rw [List.forall_mem_cons] at hs
      rw [folding.ascii_iff q c hs.1, ih hs.2]

/-! ## One pass over a pattern -/

/-- Each of the texts is an end of those before it. -/
def Nested (left : List (List Char)) : Prop := left.Pairwise fun a b => b <:+ a

theorem mem_ends : t ∈ ends s ↔ t <:+ s := by
  have htails : ends s = s.tails := by
    induction s with
    | nil => rfl
    | cons c s ih => rw [ends, List.tails_cons, ih]
  rw [htails, List.mem_tails]

theorem nested_ends (s : List Char) : Nested (ends s) := by
  induction s with
  | nil => exact List.pairwise_singleton _ _
  | cons c s ih =>
    rw [ends, Nested, List.pairwise_cons]
    exact ⟨fun t ht => (mem_ends.1 ht).trans (List.suffix_cons c s), ih⟩

theorem step_eq_some_iff : step q s = some t ↔
    ∃ c, s = c :: t ∧ (q = '_' ∨ Text.fold q = Text.fold c) := by
  cases s with
  | nil => simp [step]
  | cons c s =>
    rw [step]
    constructor
    · intro h
      split at h
      · next hsame =>
        obtain rfl := Option.some.inj h
        exact ⟨c, rfl, by simpa using hsame⟩
      · cases h
    · rintro ⟨_, ⟨⟩, hsame⟩
      rw [if_pos (by simpa using hsame)]

theorem nested_advance {left : List (List Char)} (h : Nested left) (q : Char) : Nested (advance left q) := by
  unfold advance
  split
  · cases left with
    | nil => exact List.Pairwise.nil
    | cons longest _ => exact nested_ends longest
  · refine List.Pairwise.filterMap (step q) (fun a b hab a' ha b' hb => ?_) h
    obtain ⟨c, rfl, -⟩ := step_eq_some_iff.1 ha
    obtain ⟨d, rfl, -⟩ := step_eq_some_iff.1 hb
    rcases List.suffix_cons_iff.1 hab with heq | hin
    · rw [(List.cons.inj heq).2]
    · exact (List.suffix_cons d b').trans hin

/-- **One step of a pattern**: what the rest holds of is left behind what the pattern holds of. -/
theorem exists_mem_advance_iff {left : List (List Char)} (h : Nested left) :
    (∃ s ∈ advance left q, Holds Text.fold p s) ↔ ∃ s ∈ left, Holds Text.fold (q :: p) s := by
  by_cases hq : q = '%'
  · subst hq
    cases left with
    | nil => simp [advance]
    | cons longest others =>
      have hmem : advance (longest :: others) '%' = ends longest := rfl
      simp only [hmem, mem_ends, holds_run]
      constructor
      · rintro ⟨rest, hrest, hholds⟩
        exact ⟨longest, List.mem_cons_self, rest, hrest, hholds⟩
      · -- an end of any other one is an end of the longest
        rintro ⟨s, hs, rest, hrest, hholds⟩
        rcases List.mem_cons.1 hs with rfl | hs
        · exact ⟨rest, hrest, hholds⟩
        · exact ⟨rest, hrest.trans (List.rel_of_pairwise_cons h hs), hholds⟩
  · have hmem : advance left q = left.filterMap (step q) := by
      unfold advance
      exact if_neg (by simpa using hq)
    simp only [hmem, List.mem_filterMap, step_eq_some_iff, holds_one hq]
    constructor
    · rintro ⟨rest, ⟨s, hs, c, rfl, hsame⟩, hholds⟩
      exact ⟨_, hs, c, rest, rfl, hsame, hholds⟩
    · rintro ⟨s, hs, c, rest, rfl, hsame, hholds⟩
      exact ⟨rest, ⟨_, hs, c, rfl, hsame⟩, hholds⟩

theorem contains_foldl_advance {left : List (List Char)} (h : Nested left) :
    (p.foldl advance left).contains [] = true ↔ ∃ s ∈ left, Holds Text.fold p s := by
  induction p generalizing left with
  | nil => simp [Holds]
  | cons q p ih => rw [List.foldl_cons, ih (nested_advance h q), exists_mem_advance_iff h]

/-- **A pattern covers the names that it holds of.** -/
theorem coversChars_iff : coversChars p s = true ↔ Holds Text.fold p s := by
  rw [coversChars, contains_foldl_advance (List.pairwise_singleton _ s)]
  simp

/-! ## Patterns as regular expressions -/

open Regex

/-- What one pattern character means in a regular expression. -/
def partTokens (q : Char) : List Token :=
  if q = '%' then [.atom .any, .star] else if q = '_' then [.atom .any] else [.atom (.char q)]

theorem tokens?_regexPart (q : Char) (s : List Char) :
    tokens? (regexPart q ++ s) = (tokens? s).map (partTokens q ++ ·) := by
  unfold regexPart partTokens
  by_cases hrun : q = '%'
  · subst hrun
    show ((tokens? s).map (Token.star :: ·)).map (Token.atom .any :: ·) = _
    rw [Option.map_map]
    rfl
  by_cases hone : q = '_'
  · subst hone
    rfl
  have hmarks : regexMarks = marks := rfl
  rw [if_neg (by simpa using hrun), if_neg (by simpa using hone), if_neg hrun, if_neg hone, hmarks]
  by_cases hmark : marks.contains q = true
  · rw [if_pos hmark]
    show (if marks.contains q then (tokens? s).map (Token.atom (.char q) :: ·) else none) = _
    rw [if_pos hmark]
    rfl
  · have hplain : q ≠ '\\' := by
      rintro rfl
      exact hmark (by decide)
    rw [if_neg hmark, List.singleton_append, tokens?, if_neg hmark]
    · rfl
    · intro c r hq
      exact absurd hq hplain

/-- What an expression of pattern characters begins with is never a star. -/
theorem head?_flatMap_partTokens (p : List Char) :
    (p.flatMap partTokens ++ [Token.stop]).head? ≠ some .star := by
  cases p with
  | nil => nofun
  | cons q p =>
    rw [List.flatMap_cons]
    unfold partTokens
    split
    · nofun
    · split
      · nofun
      · nofun

theorem matches_atom {a : Atom} {r : List Token} (hr : r.head? ≠ some .star) (passed left : List Char) :
    Matches fold (.atom a :: r) passed left ↔
      ∃ c rest, left = c :: rest ∧ a.Accepts fold c ∧ Matches fold r (passed ++ [c]) rest := by
  rw [Matches]
  rintro r rfl
  exact hr rfl

/-- **The parts of a pattern match what it holds of**, up to the end of the text. -/
theorem matches_flatMap_partTokens {left : List Char} (hleft : '\n' ∉ left) (passed : List Char) :
    Matches fold (p.flatMap partTokens ++ [Token.stop]) passed left ↔ Holds fold p left := by
  induction p generalizing passed left with
  | nil => simp [Matches, Holds]
  | cons q p ih =>
    rw [List.flatMap_cons, List.append_assoc]
    by_cases hrun : q = '%'
    · subst hrun
      show Matches fold (.atom .any :: .star :: (p.flatMap partTokens ++ [Token.stop])) passed left ↔ _
      rw [Matches, Holds, if_pos rfl]
      refine exists_congr fun run => exists_congr fun rest => and_congr_right ?_
      rintro rfl
      rw [List.mem_append, not_or] at hleft
      rw [ih hleft.2]
      exact and_iff_right fun c hc hline => hleft.1 (hline ▸ hc)
    · rw [holds_one hrun]
      -- one character of the text in either case
      have hone (a : Atom) (ha : ∀ c ∈ left, a.Accepts fold c ↔ q = '_' ∨ fold q = fold c) :
          Matches fold (.atom a :: (p.flatMap partTokens ++ [Token.stop])) passed left ↔
            ∃ c rest, left = c :: rest ∧ (q = '_' ∨ fold q = fold c) ∧ Holds fold p rest := by
        rw [matches_atom (head?_flatMap_partTokens p)]
        refine exists_congr fun c => exists_congr fun rest => and_congr_right ?_
        rintro rfl
        rw [ha c List.mem_cons_self, ih fun hrest => hleft (List.mem_cons_of_mem c hrest)]
      unfold partTokens
      rw [if_neg hrun]
      split
      · next hq =>
        refine hone .any fun c hc => ?_
        simp only [hq, true_or, iff_true]
        rintro rfl
        exact hleft hc
      · next hq => exact hone (.char q) fun c _ => (or_iff_right hq).symm

theorem tokens?_flatMap_regexPart (p : List Char) :
    tokens? (p.flatMap regexPart ++ ['$']) = some (p.flatMap partTokens ++ [Token.stop]) := by
  induction p with
  | nil => rfl
  | cons q p ih =>
    rw [List.flatMap_cons, List.append_assoc, tokens?_regexPart, ih, List.flatMap_cons, List.append_assoc,
      Option.map_some]

theorem read?_lead (s : List Char) :
    read? ('(' :: '?' :: 'i' :: ')' :: '^' :: s) = (tokens? s).map fun tokens => ⟨true, .start :: tokens⟩ := by
  have hstart : tokens? ('^' :: s) = (tokens? s).map (Token.start :: ·) := rfl
  rw [read?, hstart, Option.map_map]
  rfl

/-- The pattern as a regular expression is read as one part after the other, between the two anchors. -/
theorem read?_toRegex (pattern : String) : read? (toRegex pattern).toList =
    some ⟨true, .start :: (pattern.toList.flatMap partTokens ++ [Token.stop])⟩ := by
  have hlead : "(?i)^".toList = ['(', '?', 'i', ')', '^'] := by decide
  have htext : (toRegex pattern).toList =
      '(' :: '?' :: 'i' :: ')' :: '^' :: (pattern.toList.flatMap regexPart ++ ['$']) := by
    unfold toRegex
    rw [String.toList_ofList, hlead]
    rfl
  rw [htext, read?_lead, tokens?_flatMap_regexPart, Option.map_some]

/-- **The regular expression of a pattern is found in the names that it holds of.** -/
theorem finds_toRegex {regex : Regex} {pattern : String} (h : read? (toRegex pattern).toList = some regex)
    (hs : '\n' ∉ s) : regex.Finds fold s ↔ Holds fold pattern.toList s := by
  rw [read?_toRegex] at h
  obtain rfl := Option.some.inj h
  rw [← matches_flatMap_partTokens hs []]
  constructor
  · -- the first anchor leaves no other place than the beginning
    rintro ⟨passed, left, rfl, rfl, hmatches⟩
    exact hmatches
  · exact fun hmatches => ⟨[], s, rfl, rfl, hmatches⟩

end Like

/-! ## Patterns in statements -/

open Like

/-- Where the keyword does not stand, the search for a pattern goes on. -/
theorem firstMatch?_patternAt?_cons {before : Option Char} {c : Char} {r : List Char}
    {result : Option (List Char)} (hnone : afterKeyword? "LIKE" (c :: r) = none)
    (hrest : firstMatch? patternAt? (some c) r = result) :
    firstMatch? patternAt? before (c :: r) = result := by
  have hhere : patternAt? before (c :: r) = none := by
    unfold patternAt? afterPhrase? afterWords?
    rw [hnone]
    exact ite_self none
  rw [firstMatch?, hhere, hrest]

/-- A pattern in a statement is found as it is, if it holds no mark that encloses it. -/
theorem likePattern?_quoted (h : ∀ c ∈ p, isPatternMark c = false) :
    likePattern? ("SHOW VARIABLES LIKE '".toList ++ (p ++ [apostrophe])) = some p := by
  have hlead : "SHOW VARIABLES LIKE '".toList =
      ['S', 'H', 'O', 'W', ' ', 'V', 'A', 'R', 'I', 'A', 'B', 'L', 'E', 'S', ' ', 'L', 'I', 'K', 'E', ' ',
        apostrophe] := by decide
  have hspan : (p ++ [apostrophe]).span (!isPatternMark ·) = (p, [apostrophe]) := by
    refine span_append (fun c hc => by rw [h c hc, Bool.not_false]) fun c hc => ?_
    obtain rfl := Option.some.inj hc
    rfl
  have hword : ¬ (some ' ').any isWord = true := by decide +kernel
  have hpattern : patternAt? (some ' ')
      ('L' :: 'I' :: 'K' :: 'E' :: ' ' :: apostrophe :: (p ++ [apostrophe])) = some p := by
    have hphrase : afterPhrase? ["LIKE"]
        ('L' :: 'I' :: 'K' :: 'E' :: ' ' :: apostrophe :: (p ++ [apostrophe])) =
          some (apostrophe :: (p ++ [apostrophe])) := rfl
    unfold patternAt?
    rw [if_neg hword, hphrase, Option.bind_eq_bind, Option.bind_some]
    dsimp only
    rw [hspan]
    rfl
  rw [likePattern?, hlead]
  iterate 15 refine firstMatch?_patternAt?_cons rfl ?_
  change firstMatch? patternAt? (some ' ')
    ('L' :: 'I' :: 'K' :: 'E' :: ' ' :: apostrophe :: (p ++ [apostrophe])) = some p
  rw [firstMatch?, hpattern]

/-- A statement that asks for all variables, or those of a pattern, is none of the questions looked for
before. -/
theorem answer_of_showsVariables (view : View) {sql : String}
    (h : startsIgnoringCase "SHOW VARIABLES" sql.toList = true) :
    answer view sql = .ok (some (showVariables sql.toList)) := by
  have hapart : ∀ text ∈ ["SELECT 1", "SHOW DATABASES", "SHOW SCHEMAS", "SELECT @@", "SELECT DATABASE()",
      "SHOW ENGINES", "SHOW CHARSET", "SHOW CHARACTER SET", "SHOW COLLATION", "SHOW PLUGINS"],
      Apart "SHOW VARIABLES" text := by decide
  have hsame := fun text htext => (hapart text htext).not_same h
  have hstarts := fun text htext => (hapart text htext).not_starts h
  simp only [List.forall_mem_cons] at hsame hstarts
  unfold answer
  simp only [beginsWith, List.any_cons, List.any_nil, hsame, hstarts, h, Bool.or_self, Bool.or_false,
    Bool.true_or, Bool.false_eq_true, if_false, if_true]

theorem isAscii_systemVariables : ∀ v ∈ systemVariables, ∀ c ∈ v.1.toList, c.toNat < 128 ∧ c ≠ '\n' := by
  decide +kernel

/-- The statement that asks for the variables of a pattern. -/
def patternQuestion (pattern : String) : String := "SHOW VARIABLES LIKE '" ++ pattern ++ "'"

/-- The variables whose names a pattern holds of. -/
def coveredVariables (folding : CaseFolding) (pattern : String) : List (String × String) :=
  systemVariables.filter fun v => Like.Holds folding.fold pattern.toList v.1.toList

theorem showVariables_patternQuestion (folding : CaseFolding) {pattern : String}
    (h : ∀ c ∈ pattern.toList, isPatternMark c = false) :
    showVariables (patternQuestion pattern).toList =
      .ofRows ["Variable_name", "Value"] ((coveredVariables folding pattern).map fun v => [some v.1, some v.2]) := by
  have htext : (patternQuestion pattern).toList =
      "SHOW VARIABLES LIKE '".toList ++ (pattern.toList ++ [apostrophe]) := by
    have hmark : "'".toList = [apostrophe] := by decide
    unfold patternQuestion
    rw [String.toList_append, String.toList_append, hmark, List.append_assoc]
  have hcovered : systemVariables.filter (fun v => coversChars pattern.toList v.1.toList) =
      coveredVariables folding pattern := by
    refine List.filter_congr fun v hv => ?_
    rw [Bool.eq_iff_iff, coversChars_iff, decide_eq_true_iff,
      holds_ascii folding fun c hc => (isAscii_systemVariables v hv c hc).1]
  rw [showVariables, htext, likePattern?_quoted h]
  dsimp only
  rw [hcovered]

theorem starts_patternQuestion (pattern : String) :
    startsIgnoringCase "SHOW VARIABLES" (patternQuestion pattern).toList = true := by
  unfold patternQuestion
  rw [String.toList_append, String.toList_append, List.append_assoc]
  rfl

/-- **The variables of a pattern are those whose names it holds of**, in the order of the table, for every
pattern without a mark that encloses it and under every case folding. The same pattern written as a regular
expression is found in the names of just these variables. -/
theorem showVariables_like (folding : CaseFolding) (view : View) {pattern : String}
    (h : ∀ c ∈ pattern.toList, isPatternMark c = false) :
    answer view (patternQuestion pattern) = .ok (some (.ofRows ["Variable_name", "Value"]
      ((coveredVariables folding pattern).map fun v => [some v.1, some v.2]))) ∧
    ∃ regex, Regex.read? (toRegex pattern).toList = some regex ∧
      ∀ v ∈ systemVariables, v ∈ coveredVariables folding pattern ↔ regex.Finds folding.fold v.1.toList := by
  constructor
  · rw [answer_of_showsVariables view (starts_patternQuestion pattern), showVariables_patternQuestion folding h]
  · refine ⟨_, read?_toRegex pattern, fun v hv => ?_⟩
    have hline : '\n' ∉ v.1.toList := fun hmem => (isAscii_systemVariables v hv '\n' hmem).2 rfl
    rw [finds_toRegex (read?_toRegex pattern) hline, coveredVariables, List.mem_filter, decide_eq_true_iff,
      and_iff_right hv]

/-- The long s folds to the letter that the name begins with, and the dot is found nowhere. -/
theorem showVariables_like_longS :
    (∀ c ∈ "ſerver_i%".toList, isPatternMark c = false) ∧
    answer {} "SHOW VARIABLES LIKE 'ſerver_i%'" =
      .ok (some (.ofRows ["Variable_name", "Value"] [[some "server_id", some "1"]])) ∧
    (∀ c ∈ "%.%".toList, isPatternMark c = false) ∧
    answer {} "SHOW VARIABLES LIKE '%.%'" = .ok (some (.ofRows ["Variable_name", "Value"] [])) := by
  have hserver : ∀ c ∈ "ſerver_i%".toList, isPatternMark c = false := by decide
  have hdot : ∀ c ∈ "%.%".toList, isPatternMark c = false := by decide
  have hone : coveredVariables .keywords "ſerver_i%" = [("server_id", "1")] := by decide +kernel
  have hnone : coveredVariables .keywords "%.%" = [] := by decide +kernel
  refine ⟨hserver, ?_, hdot, ?_⟩
  · have hanswer := (showVariables_like .keywords {} hserver).1
    rw [hone] at hanswer
    exact hanswer
  · have hanswer := (showVariables_like .keywords {} hdot).1
    rw [hnone] at hanswer
    exact hanswer

end Introspection

end WireSql
