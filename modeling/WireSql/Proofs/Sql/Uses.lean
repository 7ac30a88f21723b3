import WireSql.Proofs.Sql.Pieces
import WireSql.Proofs.Sql.Statements

/-!
# `WireSql.Proofs.Sql.Uses`: which texts are read as `USE`

A text without blanks around it is read as `USE` if it begins with the three letters and a blank, and what
stands behind the blanks is one word, up to the semicolons that are cut off at the end of the text
(`ReadsAsUse`, `readsAsUse_of_parse`). The letters match under case folding, under which one of them has a
third form beside the two of ASCII: the long s.
-/

namespace WireSql.Sql

open Text Outline

/-- The long s, which folds to `s`. -/
def longS : Char := '\u017f'

variable {c : Char} {s t r word : List Char} {name sql : String}

/-! ## Keywords -/

/-- What follows a keyword is what is left behind as many characters, which fold to the same ones. -/
theorem afterKeyword?_eq_some {keyword : String} (h : afterKeyword? keyword s = some r) :
    ∃ head, s = head ++ r ∧ head.map fold = keyword.toList.map fold := by
  unfold afterKeyword? at h
  generalize keyword.toList = letters at h ⊢
  induction letters generalizing s with
  | nil =>
    obtain rfl := Option.some.inj h
    exact ⟨[], rfl, rfl⟩
  | cons w letters ih =>
    cases s with
    | nil => cases h
    | cons c s =>
      rw [afterKeyword?.go] at h
      by_cases hc : (fold w == fold c) = true
      · rw [if_pos hc] at h
        obtain ⟨head, rfl, hfold⟩ := ih h
        exact ⟨c :: head, rfl, by rw [List.map_cons, List.map_cons, hfold, eq_of_beq hc]⟩
      · rw [if_neg hc] at h
        cases h

/-- Apart from the long s, only the two forms of ASCII fold to a letter of the word `use`. -/
theorem toUpper_of_fold {d : Char} (hd : d ∈ "use".toList) (h : fold c = d) (hlong : c ≠ longS) :
    c.toUpper = d.toUpper := by
  have hletter : ∀ d ∈ "use".toList, d.toNat < 128 ∧ 'k' ≠ d := by decide
  obtain ⟨hascii, hk⟩ := hletter d hd
  have hlower : c.toLower = d := by
    rw [fold] at h
    split at h
    · next hnumber =>
      have hc : c = longS := by rw [← Char.ofNat_toNat c, eq_of_beq hnumber]; rfl
      exact absurd hc hlong
    · split at h
      · exact absurd h hk
      · exact h
  have hnumber : c.toNat < 128 := by
    by_cases hupper : c.isUpper = true
    · exact toNat_lt_of_isUpper hupper
    · have hsame : c.toLower = c := dif_neg fun hrange => hupper (decide_eq_true hrange)
      rw [← hsame, hlower]
      exact hascii
  exact forall_ascii (p := fun c => ∀ d ∈ "use".toList, c.toLower = d → c.toUpper = d.toUpper) (by decide)
    hnumber d hd hlower

/-! ## The end of a text -/

/-- The last character of a trimmed text is no blank. -/
theorem not_blank_of_trim_concat (h : trim (s ++ [c]) = s ++ [c]) : isBlank c = false := by
  rw [← Bool.not_eq_true]
  intro hc
  have hshort : (trim s).length ≤ s.length := (infix_trim s).length_le
  rw [trim_concat_of_blank hc] at h
  rw [h, List.length_append, List.length_singleton] at hshort
  omega

/-- **What is cut off at the end of a trimmed text** holds the semicolon that the text ends in, or is nothing
where the text ends in none. -/
theorem exists_cut (htrim : trim t = t) :
    ∃ cut, t = statementText t ++ cut ∧
      (';' ∈ cut ∧ t.getLast? = some ';' ∨ cut = [] ∧ t.getLast? ≠ some ';') := by
  rcases List.eq_nil_or_concat t with rfl | ⟨lead, c, hconcat⟩
  · exact ⟨[], rfl, .inr ⟨rfl, nofun⟩⟩
  · rw [List.concat_eq_append] at hconcat
    subst hconcat
    have hblank : isBlank c = false := not_blank_of_trim_concat htrim
    by_cases hc : c = ';'
    · subst hc
      have hdrop : dropEndWhile (· == ';') (lead ++ [';']) = dropEndWhile (· == ';') lead :=
        List.rdropWhile_concat_pos _ lead ';' rfl
      have hprefix : statementText (lead ++ [';']) <+: lead := by
        rw [statementText, htrim, hdrop]
        exact (List.rdropWhile_prefix _ _).trans (List.rdropWhile_prefix _ _)
      obtain ⟨behind, hbehind⟩ := hprefix
      refine ⟨behind ++ [';'], ?_, .inl ⟨List.mem_concat_self, List.getLast?_concat⟩⟩
      rw [← List.append_assoc, hbehind]
    · have hself : statementText (lead ++ [c]) = lead ++ [c] := by
        rw [statementText, htrim, dropEndWhile_concat (by simpa using hc), trimEnd,
          dropEndWhile_concat hblank]
      refine ⟨[], by rw [hself, List.append_nil], .inr ⟨rfl, ?_⟩⟩
      rw [List.getLast?_concat]
      exact fun h => hc (Option.some.inj h)

/-! ## The statement -/

/-- Only the outline of a `USE` is read as one. -/
theorem yields_toStatement_use (o : Outline) :
    Yields o.toStatement fun statement =>
      statement = .use name → ∃ word, o = .use word ∧ identifier word = name := by
  cases o with
  | use word => exact yields_ok fun h => ⟨word, rfl, Statement.use.inj h⟩
  | createDatabase guarded name => exact yields_ok nofun
  | dropDatabase guarded name => exact yields_ok nofun
  | createTable guarded name body => exact yields_bind fun _ _ => yields_pure nofun
  | dropTable guarded name => exact yields_ok nofun
  | showTables => exact yields_ok nofun
  | insert name columns values => exact yields_bind fun _ _ => yields_pure nofun
  | select projection name condition limit =>
    exact yields_bind fun _ _ => yields_bind fun _ _ => yields_bind fun _ _ => yields_pure nofun
  | update name items condition => exact yields_bind fun _ _ => yields_bind fun _ _ => yields_pure nofun
  | delete name condition => exact yields_bind fun _ _ => yields_pure nofun

/-- A statement is read as `USE` from the outline of one. -/
theorem exists_use_of_parse (h : Statement.parse sql = .ok (.use name)) :
    ∃ word, ofChars? (statementText sql.toList) = some (.use word) ∧ identifier word = name := by
  unfold Statement.parse at h
  dsimp only at h
  cases houtline : ofChars? (statementText sql.toList) with
  | none =>
    rw [houtline] at h
    cases h
  | some o =>
    rw [houtline] at h
    obtain ⟨word, rfl, hname⟩ := yields_toStatement_use o _ h rfl
    exact ⟨word, rfl, hname⟩

/-- Is the outline that of a `USE`? -/
def isUse : Outline → Bool
  | .use _ => true
  | _ => false

/-- What is found, if anything, is the outline of another statement. -/
def NoUse (found : Option Outline) : Prop := ∀ o, found = some o → isUse o = false

theorem noUse_some {o : Outline} (h : isUse o = false) : NoUse (some o) := by
  rintro o' ⟨⟩
  exact h

theorem noUse_of_bind {α : Type} {x : Option α} {f : α → Option Outline} (h : ∀ a, NoUse (f a)) :
    NoUse (x >>= f) := by
  intro o hbind
  obtain ⟨a, -, ha⟩ := Option.bind_eq_some_iff.1 hbind
  exact h a o ha

theorem noUse_showTables (s : List Char) : NoUse (showTables? s) := by
  refine noUse_of_bind fun rest => ?_
  intro o h
  split at h
  · obtain rfl := Option.some.inj h
    rfl
  · cases h

/-- Only the recogniser of `USE` finds one. -/
theorem use?_of_ofChars? (h : ofChars? s = some (.use word)) : use? s = some (.use word) := by
  obtain ⟨recogniser, hmem, h⟩ := List.exists_of_findSome?_eq_some h
  have hother (hnone : NoUse (recogniser s)) : use? s = some (.use word) :=
    absurd (hnone (.use word) h) Bool.noConfusion
  simp only [recognisers, List.mem_cons, List.not_mem_nil, or_false] at hmem
  rcases hmem with rfl | rfl | rfl | rfl | rfl | rfl | rfl | rfl | rfl | rfl
  · exact hother (noUse_of_bind fun _ => noUse_of_bind fun _ => noUse_some rfl)
  · exact hother (noUse_of_bind fun _ => noUse_of_bind fun _ => noUse_some rfl)
  · exact h
  · exact hother (noUse_of_bind fun _ => noUse_of_bind fun _ => noUse_some rfl)
  · exact hother (noUse_of_bind fun _ => noUse_of_bind fun _ => noUse_some rfl)
  · exact hother (noUse_showTables s)
  · exact hother (noUse_of_bind fun _ => noUse_of_bind fun _ => noUse_some rfl)
  · exact hother (noUse_of_bind fun _ => noUse_of_bind fun _ => noUse_some rfl)
  · exact hother (noUse_of_bind fun _ => noUse_of_bind fun _ => noUse_of_bind fun _ =>
      noUse_of_bind fun _ => noUse_of_bind fun _ => noUse_some rfl)
  · exact hother (noUse_of_bind fun _ => noUse_of_bind fun _ => noUse_of_bind fun _ => noUse_some rfl)

/-- **The text is read as `USE` of a name**: behind three letters and blanks stand a word and what is cut off
at the end. -/
inductive ReadsAsUse (name : String) : List Char → Prop where
  /-- What is cut off holds the semicolon that the text ends in, or is nothing where it ends in none. -/
  | intro {u s e blank : Char} {rest word cut : List Char} (hu : fold u = 'u') (hs : fold s = 's')
      (he : fold e = 'e') (hblank : isBlank blank = true) (hrest : skipBlanks rest = word ++ cut)
      (hnonempty : word ≠ []) (hword : ∀ c ∈ word, isBlank c = false) (hname : identifier word = name)
      (hcut : ';' ∈ cut ∧ (u :: s :: e :: blank :: rest).getLast? = some ';' ∨
        cut = [] ∧ (u :: s :: e :: blank :: rest).getLast? ≠ some ';') :
      ReadsAsUse name (u :: s :: e :: blank :: rest)

/-- A text that is one word is not empty and holds no blank. -/
theorem wholeName?_eq_some (h : wholeName? s = some word) :
    s = word ∧ word ≠ [] ∧ ∀ c ∈ word, isBlank c = false := by
  unfold wholeName? at h
  by_cases hbad : (s.isEmpty || s.any isBlank) = true
  · rw [if_pos hbad] at h
    cases h
  · rw [if_neg hbad] at h
    obtain rfl := Option.some.inj h
    rw [Bool.not_eq_true, Bool.or_eq_false_iff, List.isEmpty_eq_false_iff, List.any_eq_false] at hbad
    exact ⟨rfl, hbad.1, fun c hc => Bool.eq_false_iff.2 (hbad.2 c hc)⟩

theorem afterBlanks?_eq_some (h : afterBlanks? s = some r) :
    ∃ blank rest, s = blank :: rest ∧ isBlank blank = true ∧ skipBlanks rest = r := by
  cases s with
  | nil => cases h
  | cons blank rest =>
    rw [afterBlanks?] at h
    by_cases hblank : isBlank blank = true
    · rw [if_pos hblank] at h
      exact ⟨blank, rest, rfl, hblank, Option.some.inj h⟩
    · rw [if_neg hblank] at h
      cases h

/-- Of three characters that fold to the word, each folds to its letter. -/
theorem letters_of_map_fold {head : List Char} (h : head.map fold = "USE".toList.map fold) :
    ∃ u s e, head = [u, s, e] ∧ fold u = 'u' ∧ fold s = 's' ∧ fold e = 'e' := by
  have hletters : "USE".toList.map fold = ['u', 's', 'e'] := by decide
  rw [hletters] at h
  obtain ⟨u, rest, rfl, hu, hrest⟩ := List.map_eq_cons_iff.1 h
  obtain ⟨s, rest, rfl, hs, hrest⟩ := List.map_eq_cons_iff.1 hrest
  obtain ⟨e, rest, rfl, he, hrest⟩ := List.map_eq_cons_iff.1 hrest
  obtain rfl := List.map_eq_nil_iff.1 hrest
  exact ⟨u, s, e, rfl, hu, hs, he⟩

/-- **What a trimmed text is that is read as `USE`.** -/
theorem readsAsUse_of_parse (htrim : trim sql.toList = sql.toList)
    (h : Statement.parse sql = .ok (.use name)) : ReadsAsUse name sql.toList := by
  obtain ⟨word, houtline, hname⟩ := exists_use_of_parse h
  obtain ⟨found, hphrase, hfound⟩ := Option.bind_eq_some_iff.1 (use?_of_ofChars? houtline)
  obtain ⟨found', hwhole, hsome⟩ := Option.bind_eq_some_iff.1 hfound
  obtain rfl : found' = word := Outline.use.inj (Option.some.inj hsome)
  obtain ⟨rfl, hnonempty, hword⟩ := wholeName?_eq_some hwhole
  obtain ⟨behind, hkeyword, hblanks⟩ := Option.bind_eq_some_iff.1 hphrase
  obtain ⟨head, hhead, hfold⟩ := afterKeyword?_eq_some hkeyword
  obtain ⟨u, s, e, rfl, hu, hs, he⟩ := letters_of_map_fold hfold
  obtain ⟨blank, rest, rfl, hblank, hrest⟩ := afterBlanks?_eq_some hblanks
  obtain ⟨cut, htext, hcut⟩ := exists_cut htrim
  -- the word is not empty, so that the blanks in front of it end where they did
  have hskip : skipBlanks (rest ++ cut) = found ++ cut := by
    have hsome : ¬ (List.dropWhile isBlank rest).isEmpty = true := by
      rw [List.isEmpty_iff]
      exact fun hnil => hnonempty (hrest.symm.trans hnil)
    rw [skipBlanks, List.dropWhile_append, if_neg hsome]
    exact congrArg (· ++ cut) hrest
  have hsql : sql.toList = u :: s :: e :: blank :: (rest ++ cut) := by
    rw [htext, hhead]
    rfl
  rw [hsql] at hcut ⊢
  exact .intro hu hs he hblank hskip hnonempty hword hname hcut

end WireSql.Sql
