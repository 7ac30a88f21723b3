import WireSql.Proofs.Sql.Queries

/-!
# `WireSql.Proofs.Sql.Updates`: which updates are read as they were printed

The assignments of an update end at the first `WHERE` behind them, and quotes are not looked at when it is
searched for. So an update is read as it was printed where none of the texts that it assigns holds the word
between blanks, and only there (`parse_print_update_iff`). Otherwise the list of assignments is cut inside
the first such text: what is left of that text can be an error, or a shorter text with the rest of it taken
for a condition (`parse_print_update_other`).
-/

namespace WireSql.Sql

open Text Outline

/-! ## The word inside a text -/

/-- Does the text begin with the word `WHERE`, in any letter case and with a blank on either side? -/
def beginsWithWhere : List Char → Bool
  | before :: c₁ :: c₂ :: c₃ :: c₄ :: c₅ :: behind :: _ =>
    isBlank before && [c₁, c₂, c₃, c₄, c₅].map Char.toLower == "where".toList && isBlank behind
  | _ => false

/-- Does the word stand between blanks anywhere in the text? -/
def holdsWhere : List Char → Bool
  | [] => false
  | c :: s => beginsWithWhere (c :: s) || holdsWhere s

/-- Is the value a text that holds the word? -/
def valueHoldsWhere : Value → Bool
  | .text s => holdsWhere s.toList
  | _ => false

variable {c : Char} {s t rest : List Char}

theorem beginsWithWhere_iff :
    beginsWithWhere (c :: s) = true ↔
      isBlank c = true ∧ ∃ word behind tail, s = word ++ behind :: tail ∧
        word.map Char.toLower = "where".toList ∧ isBlank behind = true := by
  constructor
  · intro h
    unfold beginsWithWhere at h
    split at h
    · next heq =>
      obtain ⟨rfl, rfl⟩ := List.cons.inj heq
      simp only [Bool.and_eq_true, beq_iff_eq] at h
      exact ⟨h.1.1, _, _, _, rfl, h.1.2, h.2⟩
    · cases h
  · rintro ⟨hc, word, behind, tail, rfl, hword, hbehind⟩
    have hlength := congrArg List.length hword
    match word, hlength, hword with
    | [c₁, c₂, c₃, c₄, c₅], _, hword =>
      simp only [beginsWithWhere, List.cons_append, List.nil_append, hc, hbehind, hword, Bool.and_true]
      decide

/-- Simple case folding tells the letters of the word from others as `Char.toLower` does. -/
theorem fold_eq_iff {d : Char} (hd : d ∈ "where".toList) : fold c = d ↔ c.toLower = d := by
  have hletters : ∀ d ∈ "where".toList,
      's' ≠ d ∧ 'k' ≠ d ∧ Char.ofNat 0x17F ≠ d ∧ Char.ofNat 0x212A ≠ d := by decide
  obtain ⟨hs, hk, hlong, hkelvin⟩ := hletters d hd
  rw [fold]
  split
  · next h =>
    obtain rfl : c = Char.ofNat 0x17F := by rw [← Char.ofNat_toNat c, eq_of_beq h]
    exact iff_of_false hs hlong
  · split
    · next h =>
      obtain rfl : c = Char.ofNat 0x212A := by rw [← Char.ofNat_toNat c, eq_of_beq h]
      exact iff_of_false hk hkelvin
    · rfl

theorem map_fold_eq_iff {word : List Char} (h : ∀ d ∈ word, d ∈ "where".toList) :
    s.map fold = word ↔ s.map Char.toLower = word := by
  induction s generalizing word with
  | nil => rfl
  | cons c s ih =>
    cases word with
    | nil => exact iff_of_false (List.cons_ne_nil _ _) (List.cons_ne_nil _ _)
    | cons d word =>
      rw [List.forall_mem_cons] at h
      rw [List.map_cons, List.map_cons, List.cons.injEq, List.cons.injEq, fold_eq_iff h.1, ih h.2]

theorem toLower_of_isBlank (h : isBlank c = true) : c.toLower = c := by
  refine dif_neg ?_
  intro hupper
  have hletter : c.isUpper = true := decide_eq_true hupper
  have hblank : isBlank c = false :=
    forall_ascii (p := fun c => c.isUpper = true → isBlank c = false) (by decide)
      (toNat_lt_of_isUpper hletter) hletter
  rw [hblank] at h
  cases h

/-- The word does not begin with a blank. -/
theorem skipBlanks_word {word tail : List Char} (h : word.map Char.toLower = "where".toList) :
    skipBlanks (word ++ tail) = word ++ tail := by
  cases word with
  | nil => cases h
  | cons d word =>
    refine skipBlanks_cons_of_not_blank ?_
    obtain ⟨hd, -⟩ := List.cons.inj h
    rw [← Bool.not_eq_true]
    intro hblank
    rw [toLower_of_isBlank hblank] at hd
    subst hd
    cases hblank

/-- Blanks in front of the word do not matter, as long as there is one. -/
theorem holdsWhere_of_skipBlanks {word tail : List Char} {behind : Char} (hc : isBlank c = true)
    (hs : skipBlanks s = word ++ behind :: tail) (hword : word.map Char.toLower = "where".toList)
    (hbehind : isBlank behind = true) : holdsWhere (c :: s) = true := by
  induction s generalizing c with
  | nil =>
    cases word with
    | nil => cases hword
    | cons d word => cases hs
  | cons d s ih =>
    cases hd : isBlank d with
    | true =>
      rw [skipBlanks, List.dropWhile_cons_of_pos hd] at hs
      rw [holdsWhere, ih hd hs, Bool.or_true]
    | false =>
      rw [skipBlanks_cons_of_not_blank hd] at hs
      have hbegins : beginsWithWhere (c :: d :: s) = true :=
        beginsWithWhere_iff.2 ⟨hc, word, behind, tail, hs, hword, hbehind⟩
      rw [holdsWhere, hbegins, Bool.true_or]

/-! ## The search inside a literal -/

theorem escape_cons_of_plain (hmark : c ≠ apostrophe) (hbackslash : c ≠ backslash) (s : List Char) :
    Print.escape (c :: s) = c :: Print.escape s := by
  rw [Print.escape, if_neg (by simp [hmark, hbackslash])]

theorem escape_cons_of_blank (hc : isBlank c = true) (s : List Char) :
    Print.escape (c :: s) = c :: Print.escape s := by
  refine escape_cons_of_plain ?_ ?_ s
  · rintro rfl
    cases hc
  · rintro rfl
    cases hc

theorem escape_append (s t : List Char) : Print.escape (s ++ t) = Print.escape s ++ Print.escape t := by
  induction s with
  | nil => rfl
  | cons c s ih =>
    rw [List.cons_append, Print.escape, Print.escape, ih]
    split <;> rfl

theorem skipBlanks_escape (s rest : List Char) :
    skipBlanks (Print.escape s ++ apostrophe :: rest) =
      Print.escape (skipBlanks s) ++ apostrophe :: rest := by
  induction s with
  | nil => rfl
  | cons c s ih =>
    cases hc : isBlank c with
    | true =>
      rw [escape_cons_of_blank hc, List.cons_append, skipBlanks, List.dropWhile_cons_of_pos hc, skipBlanks,
        List.dropWhile_cons_of_pos hc]
      exact ih
    | false =>
      rw [skipBlanks_cons_of_not_blank hc, Print.escape]
      split <;> exact skipBlanks_cons_of_not_blank hc

/-- A letter of a keyword is found in a literal where it is found in the text: it is not escaped. -/
theorem afterKeyword?_go_escape_cons {w : Char} (hmark : fold w ≠ fold apostrophe)
    (hbackslash : fold w ≠ fold backslash) (word : List Char) :
    afterKeyword?.go (w :: word) (Print.escape (c :: s) ++ rest) =
      if fold w = fold c then afterKeyword?.go word (Print.escape s ++ rest) else none := by
  by_cases hfold : fold w = fold c
  · have hc : c ≠ apostrophe := by
      rintro rfl
      exact hmark hfold
    have hc' : c ≠ backslash := by
      rintro rfl
      exact hbackslash hfold
    rw [escape_cons_of_plain hc hc', List.cons_append, afterKeyword?.go]
    simp [hfold]
  · have hgo (r : List Char) : afterKeyword?.go (w :: word) (c :: r) = none := by
      rw [afterKeyword?.go, if_neg (by simpa using hfold)]
    rw [if_neg hfold, Print.escape]
    split
    · next hescaped =>
      rw [Bool.or_eq_true, beq_iff_eq, beq_iff_eq] at hescaped
      rcases hescaped with rfl | rfl
      · exact hgo _
      · exact hgo _
    · exact hgo _

/-- What is spelled by a text is spelled by its first character and the rest. -/
theorem exists_front_cons_iff {w : Char} {word : List Char} {P : List Char → Prop} :
    (∃ front behind, c :: s = front ++ behind ∧ front.map fold = (w :: word).map fold ∧ P behind) ↔
      fold w = fold c ∧ ∃ front behind, s = front ++ behind ∧ front.map fold = word.map fold ∧ P behind := by
  constructor
  · rintro ⟨front, behind, hsplit, hfront, hbehind⟩
    cases front with
    | nil => cases hfront
    | cons d front =>
      obtain ⟨rfl, hs⟩ := List.cons.inj hsplit
      obtain ⟨hfold, hletters⟩ := List.cons.inj hfront
      exact ⟨hfold.symm, front, behind, hs, hletters, hbehind⟩
  · rintro ⟨hfold, front, behind, rfl, hfront, hbehind⟩
    exact ⟨c :: front, behind, rfl, by rw [List.map_cons, List.map_cons, hfront, hfold], hbehind⟩

/-- A keyword is found in a literal where it is found in the text: no letter of it is escaped. -/
theorem afterKeyword?_escape {word : List Char}
    (hword : ∀ w ∈ word, fold w ≠ fold apostrophe ∧ fold w ≠ fold backslash) :
    afterKeyword?.go word (Print.escape s ++ apostrophe :: rest) = some t ↔
      ∃ front behind, s = front ++ behind ∧ front.map fold = word.map fold ∧
        t = Print.escape behind ++ apostrophe :: rest := by
  induction word generalizing s with
  | nil =>
    constructor
    · intro h
      exact ⟨[], s, rfl, rfl, (Option.some.inj h).symm⟩
    · rintro ⟨front, behind, rfl, hfront, rfl⟩
      obtain rfl := List.map_eq_nil_iff.1 hfront
      rfl
  | cons w word ih =>
    obtain ⟨⟨hmark, hbackslash⟩, hword⟩ := List.forall_mem_cons.1 hword
    cases s with
    | nil =>
      have hgo : afterKeyword?.go (w :: word) (apostrophe :: rest) = none := by
        rw [afterKeyword?.go, if_neg (by simpa using hmark)]
      refine iff_of_false (by rw [Print.escape, List.nil_append, hgo]; simp) ?_
      rintro ⟨front, behind, hs, hfront, -⟩
      obtain ⟨rfl, -⟩ := List.append_eq_nil_iff.1 hs.symm
      cases hfront
    | cons c s =>
      rw [afterKeyword?_go_escape_cons hmark hbackslash, exists_front_cons_iff, ← ih hword,
        Option.ite_none_right_eq_some]

/-- Blanks in a literal are those of the text. -/
theorem afterBlanks?_escape_cons (d : Char) (s rest : List Char) :
    afterBlanks? (Print.escape (d :: s) ++ apostrophe :: rest) =
      if isBlank d then some (Print.escape (skipBlanks s) ++ apostrophe :: rest) else none := by
  cases hd : isBlank d with
  | true =>
    rw [escape_cons_of_blank hd, List.cons_append, afterBlanks?, if_pos hd, skipBlanks_escape]
    rfl
  | false =>
    rw [Print.escape]
    split <;> simp [afterBlanks?, hd]

theorem whereTail?_cons_escape (hc : isBlank c = true) (s rest : List Char) :
    whereTail? (c :: (Print.escape s ++ apostrophe :: rest)) =
      (afterKeyword? "WHERE" (Print.escape (skipBlanks s) ++ apostrophe :: rest)).bind fun r =>
        (afterBlanks? r).bind fun r => if r.isEmpty then none else some (some r) := by
  have h (r : List Char) : whereTail? (c :: r) =
      (afterBlanks? (c :: r)).bind fun r => ((afterKeyword? "WHERE" r).bind afterBlanks?).bind fun r =>
        if r.isEmpty then none else some (some r) := Option.bind_assoc ..
  rw [h, afterBlanks?, if_pos hc, Option.bind_some, skipBlanks_escape, Option.bind_assoc]

/-- **A condition is found behind a blank of a text where the word and another blank follow**: the mark that
closes the text is something to take for the condition. -/
theorem whereTail?_escape (hc : isBlank c = true) (s rest : List Char) :
    whereTail? (c :: (Print.escape s ++ apostrophe :: rest)) ≠ none ↔
      ∃ word behind tail, skipBlanks s = word ++ behind :: tail ∧
        word.map Char.toLower = "where".toList ∧ isBlank behind = true := by
  have hletters : ∀ w ∈ "WHERE".toList, fold w ≠ fold apostrophe ∧ fold w ≠ fold backslash := by decide
  have hlower {word : List Char} :
      word.map fold = "WHERE".toList.map fold ↔ word.map Char.toLower = "where".toList :=
    map_fold_eq_iff fun d hd => hd
  rw [whereTail?_cons_escape hc]
  constructor
  · intro h
    cases hkey : afterKeyword? "WHERE" (Print.escape (skipBlanks s) ++ apostrophe :: rest) with
    | none =>
      rw [hkey] at h
      exact absurd rfl h
    | some t =>
      obtain ⟨front, behind, hs, hfront, rfl⟩ := (afterKeyword?_escape hletters).1 hkey
      rw [hkey, Option.bind_some] at h
      cases behind with
      | nil => exact absurd rfl h
      | cons d tail =>
        rw [afterBlanks?_escape_cons] at h
        cases hd : isBlank d with
        | true => exact ⟨front, d, tail, hs, hlower.1 hfront, hd⟩
        | false =>
          rw [hd] at h
          exact absurd rfl h
  · rintro ⟨word, behind, tail, hs, hword, hbehind⟩
    have hkey : afterKeyword? "WHERE" (Print.escape (skipBlanks s) ++ apostrophe :: rest) =
        some (Print.escape (behind :: tail) ++ apostrophe :: rest) :=
      (afterKeyword?_escape hletters).2 ⟨word, behind :: tail, hs, hlower.2 hword, rfl⟩
    rw [hkey, Option.bind_some, afterBlanks?_escape_cons, if_pos hbehind, Option.bind_some, if_neg (by simp)]
    exact Option.some_ne_none _

theorem whereTail?_of_not_isBlank (hc : isBlank c = false) (s : List Char) : whereTail? (c :: s) = none := by
  refine seeks_whereTail c s ?_
  rw [afterBlanks?, hc]
  rfl

/-- The search passes through the literal of a text without the word. -/
theorem rejects_escape_whereTail (h : holdsWhere s = false) (rest : List Char) :
    Rejects whereTail? (Print.escape s) (apostrophe :: rest) := by
  induction s with
  | nil => trivial
  | cons c s ih =>
    have hs : holdsWhere s = false := (Bool.or_eq_false_iff.1 h).2
    cases hc : isBlank c with
    | true =>
      rw [escape_cons_of_blank hc]
      refine ⟨?_, ih hs⟩
      by_contra hne
      obtain ⟨word, behind, tail, hskip, hword, hbehind⟩ := (whereTail?_escape hc s rest).1 hne
      rw [holdsWhere_of_skipBlanks hc hskip hword hbehind] at h
      cases h
    | false =>
      have hnone := whereTail?_of_not_isBlank hc
      rw [Print.escape]
      split
      · exact ⟨hnone _, hnone _, ih hs⟩
      · exact ⟨hnone _, ih hs⟩

/-- **In the literal of a text with the word the search stops**, at the first place it accepts. -/
theorem exists_cut_of_holdsWhere (h : holdsWhere s = true) (rest : List Char) :
    ∃ s₁ s₂ m, s = s₁ ++ s₂ ∧ s₂ ≠ [] ∧
      Rejects whereTail? (Print.escape s₁) (Print.escape s₂ ++ apostrophe :: rest) ∧
        whereTail? (Print.escape s₂ ++ apostrophe :: rest) = some m := by
  induction s with
  | nil => cases h
  | cons c s ih =>
    cases hm : whereTail? (Print.escape (c :: s) ++ apostrophe :: rest) with
    | some m => exact ⟨[], c :: s, m, rfl, List.cons_ne_nil _ _, trivial, hm⟩
    | none =>
      have hbegins : beginsWithWhere (c :: s) = false := by
        rw [← Bool.not_eq_true, beginsWithWhere_iff]
        rintro ⟨hc, word, behind, tail, rfl, hword, hbehind⟩
        rw [escape_cons_of_blank hc] at hm
        exact (whereTail?_escape hc _ rest).2 ⟨word, behind, tail, skipBlanks_word hword, hword, hbehind⟩ hm
      rw [holdsWhere, hbegins, Bool.false_or] at h
      obtain ⟨s₁, s₂, m, rfl, hne, hrejects, hm'⟩ := ih h
      refine ⟨c :: s₁, s₂, m, rfl, hne, ?_, hm'⟩
      rw [Print.escape] at hm ⊢
      split at hm
      · next hc =>
        rw [if_pos hc]
        have hblank : isBlank c = false := by
          rw [Bool.or_eq_true, beq_iff_eq, beq_iff_eq] at hc
          rcases hc with rfl | rfl <;> decide
        exact ⟨whereTail?_of_not_isBlank hblank _, whereTail?_of_not_isBlank hblank _, hrejects⟩
      · next hc =>
        rw [if_neg hc]
        rw [escape_append, List.cons_append, List.append_assoc] at hm
        exact ⟨hm, hrejects⟩

/-! ## What is left of a cut literal -/

/-- No more characters are read from the front of a literal than its text has. -/
theorem length_unescape_le {p : List Char} (h : p <+: Print.escape s) :
    (unescape apostrophe p).length ≤ s.length := by
  induction s generalizing p with
  | nil =>
    obtain rfl := List.prefix_nil.1 h
    exact Nat.le_refl 0
  | cons c s ih =>
    rw [Print.escape] at h
    split at h
    · next hc =>
      rcases List.prefix_cons_iff.1 h with rfl | ⟨q, rfl, hq⟩
      · exact Nat.zero_le _
      rcases List.prefix_cons_iff.1 hq with rfl | ⟨p, rfl, hp⟩
      · exact Nat.succ_le_succ (Nat.zero_le _)
      -- two characters of the literal are one of the text
      rw [Bool.or_eq_true, beq_iff_eq, beq_iff_eq] at hc
      rcases hc with rfl | rfl
      · exact Nat.succ_le_succ (ih hp)
      · exact Nat.succ_le_succ (ih hp)
    · next hc =>
      rw [Bool.or_eq_true, beq_iff_eq, beq_iff_eq, not_or] at hc
      rcases List.prefix_cons_iff.1 h with rfl | ⟨p, rfl, hp⟩
      · exact Nat.zero_le _
      · rw [Print.unescape_cons_of_plain hc.2 hc.1]
        exact Nat.succ_le_succ (ih hp)

theorem exists_trim_eq_cons (hc : isBlank c = false) (s : List Char) :
    ∃ p, trim (c :: s) = c :: p ∧ p <+: s := by
  have htrim : trim (c :: s) = (c :: s).rdropWhile isBlank := by
    rw [trim, dropAroundWhile, List.dropWhile_cons_of_neg (by simp [hc]), dropEndWhile_eq_rdropWhile]
  rw [htrim]
  have hfront : (c :: s).rdropWhile isBlank <+: c :: s := List.rdropWhile_prefix isBlank _
  rcases List.prefix_cons_iff.1 hfront with hnil | ⟨p, hp, hprefix⟩
  · have hall := List.rdropWhile_eq_nil_iff.1 hnil c List.mem_cons_self
    rw [hc] at hall
    cases hall
  · exact ⟨p, hp, hprefix⟩

/-- The text that is read from an unclosed literal, if any, is no longer than the text in it. -/
theorem length_le_of_literal {u : String} (h : literal (apostrophe :: Print.escape s) = .ok (.text u)) :
    u.toList.length ≤ s.length := by
  obtain ⟨p, htrim, hp⟩ := exists_trim_eq_cons (c := apostrophe) (by decide) (Print.escape s)
  have hword := ne_word_of_head (c := apostrophe) (by decide) p
  have hquotation : between? quotationMark (apostrophe :: p) = none := between?_eq_none (by decide) p
  rw [literal, htrim, if_neg (hword _ (by decide)), if_neg (hword _ (by decide)),
    if_neg (hword _ (by decide)), hquotation] at h
  cases hbody : between? apostrophe (apostrophe :: p) with
  | some body =>
    simp only [hbody, Except.ok.injEq, Value.text.injEq] at h
    have hprefix : body <+: Print.escape s := by
      rw [between?] at hbody
      split at hbody
      · obtain rfl := Option.some.inj hbody
        have hdrop : p.dropLast <+: p := List.dropLast_prefix p
        exact hdrop.trans hp
      · cases hbody
    rw [← h, String.toList_ofList]
    exact length_unescape_le hprefix
  | none =>
    simp only [hbody] at h
    split at h
    · cases h
    · cases h
    · cases h

/-! ## Cut lists -/

theorem list_cons_eq (p : List Char) (items : List (List Char)) :
    Print.list (p :: items) = p ++ items.flatMap ([',', ' '] ++ ·) := by
  induction items generalizing p with
  | nil => exact List.intercalate_singleton.trans (List.append_nil p).symm
  | cons q items ih =>
    rw [list_cons (List.cons_ne_nil q items), ih, List.flatMap_cons]
    simp

theorem list_append_cons (before : List (List Char)) (p : List Char) (after : List (List Char)) :
    Print.list (before ++ p :: after) =
      before.flatMap (· ++ [',', ' ']) ++ (p ++ after.flatMap ([',', ' '] ++ ·)) := by
  induction before with
  | nil => exact list_cons_eq p after
  | cons q before ih =>
    rw [List.cons_append, list_cons (by simp), ih, List.flatMap_cons]
    simp

variable {before after items : List Assignment} {a : Assignment} {s₁ s₂ : List Char}

/-- An assignment whose text is cut: its literal is not closed. -/
def cutEquation (column : String) (s : List Char) : List Char :=
  Print.identifier column ++ (" = ".toList ++ apostrophe :: Print.escape s)

/-- The assignments in front of a cut one, and that one. -/
def cutAssignments (before : List Assignment) (column : String) (s : List Char) : List Char :=
  Print.list ((before.map fun b => Print.equation b.column b.value) ++ [cutEquation column s])

theorem cutAssignments_eq_append (before : List Assignment) (column : String) (s : List Char) :
    cutAssignments before column s = cutAssignments before column [] ++ Print.escape s := by
  have hnil : Print.escape [] = [] := rfl
  simp only [cutAssignments, cutEquation, list_append_cons, hnil, List.flatMap_nil, List.append_assoc,
    List.cons_append, List.nil_append, List.append_nil]

theorem assignments_eq_append {u : String} (hvalue : a.value = .text u) (hu : u.toList = s₁ ++ s₂)
    (before after : List Assignment) :
    ∃ rest, Print.assignments (before ++ a :: after) =
      cutAssignments before a.column s₁ ++ (Print.escape s₂ ++ apostrophe :: rest) := by
  have hquoted : Print.value a.value =
      apostrophe :: (Print.escape s₁ ++ (Print.escape s₂ ++ [apostrophe])) := by
    rw [hvalue, Print.value, Print.quoted, hu, escape_append, List.append_assoc]
  refine ⟨(after.map fun b => Print.equation b.column b.value).flatMap ([',', ' '] ++ ·), ?_⟩
  have hequation : Print.equation a.column a.value =
      Print.identifier a.column ++
        (" = ".toList ++ apostrophe :: (Print.escape s₁ ++ (Print.escape s₂ ++ [apostrophe]))) := by
    rw [Print.equation, hquoted, List.append_assoc]
  rw [Print.assignments, List.map_append, List.map_cons, hequation]
  simp only [cutAssignments, cutEquation, list_append_cons, List.flatMap_nil, List.append_assoc,
    List.cons_append, List.nil_append]

theorem assignment_cutEquation {column : String} (hcolumn : IsName column) (s : List Char) :
    assignment (cutEquation column s) =
      (literal (apostrophe :: Print.escape s)).map fun v => ⟨column, v⟩ := by
  rw [cutEquation, assignment, equality?_append hcolumn]
  dsimp only
  rw [literal_cons_blank]
  cases literal (apostrophe :: Print.escape s) with
  | error e => rfl
  | ok v => rfl

theorem passes_cutEquation {column : String} (hcolumn : IsName column) (s : List Char) :
    Passes .comma (.within 0) (cutEquation column s) (.quoted apostrophe 0) :=
  (passes_name hcolumn).append (passes_equals (by decide) (passes_openQuote.append (passes_escape s)))

/-- What a cut list is read as hangs on the literal that is not closed. -/
theorem assignments_cutAssignments (hbefore : ∀ b ∈ before, IsName b.column ∧ b.value.isDouble = false)
    {column : String} (hcolumn : IsName column) (s : List Char) :
    assignments (cutAssignments before column s) =
      (literal (apostrophe :: Print.escape s)).map fun v => before ++ [⟨column, v⟩] := by
  have hpasses : ∀ p ∈ before.map fun b => Print.equation b.column b.value,
      Passes .comma (.within 0) p (.within 0) :=
    List.forall_mem_map.2 fun b hb => passes_equation (hbefore b hb).1 (hbefore b hb).2
  have hread : (before.map fun b => Print.equation b.column b.value).mapM assignment = .ok before :=
    mapM_map_eq_ok fun b hb => assignment_equation (hbefore b hb).1 (hbefore b hb).2
  rw [assignments, cutAssignments, splitTopLevel_list_concat hpasses (passes_cutEquation hcolumn s),
    mapM_spaced assignment_cons_blank, List.mapM_append, hread, List.mapM_cons,
    assignment_cutEquation hcolumn]
  cases literal (apostrophe :: Print.escape s) with
  | error e => rfl
  | ok v => rfl

/-- **A list that is cut inside a text is not read as the whole list**: the text would be shorter. -/
theorem assignments_cutAssignments_ne {u : String}
    (hbefore : ∀ b ∈ before, IsName b.column ∧ b.value.isDouble = false) (hcolumn : IsName a.column)
    (hvalue : a.value = .text u) (hu : u.toList = s₁ ++ s₂) (hne : s₂ ≠ []) :
    assignments (cutAssignments before a.column s₁) ≠ .ok (before ++ a :: after) := by
  rw [assignments_cutAssignments hbefore hcolumn]
  intro h
  cases hliteral : literal (apostrophe :: Print.escape s₁) with
  | error e =>
    rw [hliteral] at h
    cases h
  | ok v =>
    rw [hliteral] at h
    have hitems : before ++ [⟨a.column, v⟩] = before ++ a :: after := Except.ok.inj h
    obtain ⟨ha, -⟩ := List.cons.inj (List.append_cancel_left hitems)
    rw [← ha] at hvalue
    obtain rfl : v = .text u := hvalue
    have hlength := length_le_of_literal hliteral
    rw [hu, List.length_append] at hlength
    exact hne (List.length_eq_zero_iff.1 (by omega))

/-! ## Where the assignments end -/

/-- The search passes through an assignment whose text does not hold the word. -/
theorem rejects_assignment (hcolumn : IsName a.column) (hdouble : a.value.isDouble = false)
    (hfree : valueHoldsWhere a.value = false) (rest : List Char) :
    Rejects whereTail? (Print.equation a.column a.value) rest := by
  refine rejects_equation 'w' seeks_whereTail rfl (by decide) hcolumn hdouble ?_
  intro s hs
  rw [hs] at hfree
  exact rejects_escape_whereTail hfree rest

theorem rejects_assignments (h : ∀ b ∈ items, IsName b.column ∧ b.value.isDouble = false)
    (hfree : ∀ b ∈ items, valueHoldsWhere b.value = false) (rest : List Char) :
    Rejects whereTail? (Print.assignments items) rest := by
  refine rejects_intercalate 'w' seeks_whereTail rfl rfl
    (List.forall_mem_map.2 fun b hb => ⟨⟨_, rfl⟩, fun rest => ?_⟩) rest
  exact rejects_assignment (h b hb).1 (h b hb).2 (hfree b hb) rest

/-- The search reaches the text of the assignment behind them. -/
theorem rejects_cutAssignments (h : ∀ b ∈ before, IsName b.column ∧ b.value.isDouble = false)
    (hfree : ∀ b ∈ before, valueHoldsWhere b.value = false) (hcolumn : IsName a.column)
    (rest : List Char) : Rejects whereTail? (cutAssignments before a.column []) rest := by
  have hlast : isClear 'w' (cutEquation a.column []) = true :=
    isClear_append (isClear_identifier hcolumn) (isClear_equals (by decide) (by decide) rfl)
  refine rejects_intercalate 'w' seeks_whereTail rfl rfl (fun p hp => ?_) rest
  rcases List.mem_append.1 hp with hp | hp
  · obtain ⟨b, hb, rfl⟩ := List.mem_map.1 hp
    exact ⟨⟨_, rfl⟩, fun rest => rejects_assignment (h b hb).1 (h b hb).2 (hfree b hb) rest⟩
  · obtain rfl := List.mem_singleton.1 hp
    exact ⟨⟨_, rfl⟩, fun rest => rejects_of_isClear 'w' seeks_whereTail rfl hlast⟩

/-- **Where no text holds the word the assignments end at the statement's own condition.** -/
theorem shortest?_assignments (h : ∀ b ∈ items, IsName b.column ∧ b.value.isDouble = false)
    (hfree : ∀ b ∈ items, valueHoldsWhere b.value = false) (filter : List Condition) :
    shortest? (fun _ => true) whereTail? (Print.assignments items ++ Print.filter filter) =
      some (Print.assignments items, filterPiece filter) := by
  rw [shortest?_append (rejects_assignments h hfree _), shortest?_of_some (whereTail?_filter filter),
    Option.map_some, List.append_nil]

/-- **Where a text holds the word they end in the first such text.** -/
theorem shortest?_cutAssignments (hbefore : ∀ b ∈ before, IsName b.column ∧ b.value.isDouble = false)
    (hfree : ∀ b ∈ before, valueHoldsWhere b.value = false) (hcolumn : IsName a.column) {u : String}
    (hvalue : a.value = .text u) (hu : holdsWhere u.toList = true) (after : List Assignment)
    (filter : List Condition) :
    ∃ s₁ s₂ m, u.toList = s₁ ++ s₂ ∧ s₂ ≠ [] ∧
      shortest? (fun _ => true) whereTail? (Print.assignments (before ++ a :: after) ++ Print.filter filter) =
        some (cutAssignments before a.column s₁, m) := by
  obtain ⟨rest, hprint⟩ :=
    assignments_eq_append hvalue (List.nil_append _).symm before after
  obtain ⟨s₁, s₂, m, hs, hne, hrejects, hm⟩ := exists_cut_of_holdsWhere hu (rest ++ Print.filter filter)
  refine ⟨s₁, s₂, m, hs, hne, ?_⟩
  have htext : Print.assignments (before ++ a :: after) ++ Print.filter filter =
      cutAssignments before a.column [] ++
        (Print.escape s₁ ++ (Print.escape s₂ ++ apostrophe :: (rest ++ Print.filter filter))) := by
    rw [hprint, hs, escape_append]
    simp only [List.append_assoc, List.cons_append]
  rw [htext, shortest?_append (rejects_cutAssignments hbefore hfree hcolumn _), shortest?_append hrejects,
    shortest?_of_some hm, cutAssignments_eq_append before a.column s₁]
  simp

/-! ## Updates -/

variable {table : TableRef} {filter : List Condition}

theorem chars_update (table : TableRef) (items : List Assignment) (filter : List Condition) :
    (Statement.update table items filter).chars =
      "UPDATE ".toList ++ (Print.tableRef table ++
        (" SET ".toList ++ (Print.assignments items ++ Print.filter filter))) := by
  have h : (Statement.update table items filter).chars =
      "UPDATE ".toList ++ Print.tableRef table ++ " SET ".toList ++ Print.assignments items ++
        Print.filter filter := rfl
  rewrite [h]
  simp only [List.append_assoc]

/-- An update is cut where the search for its condition says. -/
theorem ofChars?_update {lead : List Char} {condition : Option (List Char)} (htable : IsNamed table)
    (hne : items ≠ [])
    (hsearch : shortest? (fun _ => true) whereTail? (Print.assignments items ++ Print.filter filter) =
      some (lead, condition)) :
    ofChars? (Statement.update table items filter).chars =
      some (.update (Print.tableRef table) lead condition) := by
  obtain ⟨b, items, rfl⟩ := List.exists_cons_of_ne_nil hne
  obtain ⟨r, hr⟩ : ∃ r, Print.assignments (b :: items) = backtick :: r :=
    exists_list_eq_cons backtick _ _
  have hnonempty : shortestNonempty? (fun _ => true) whereTail?
      (Print.assignments (b :: items) ++ Print.filter filter) = some (lead, condition) := by
    rw [hr, List.cons_append] at hsearch ⊢
    rwa [shortestNonempty?_of_none (whereTail?_of_not_isBlank (by decide) _)]
  have hname := nameThen?_tableRef htable
    (" SET ".toList ++ (Print.assignments (b :: items) ++ Print.filter filter)) (by simp [isBlank])
  have hblanks (s : List Char) : afterBlanks? (" SET ".toList ++ s) = some ("SET ".toList ++ s) := rfl
  have hset : afterPhrase? ["SET"] ("SET ".toList ++
      (Print.assignments (b :: items) ++ Print.filter filter)) =
        some (Print.assignments (b :: items) ++ Print.filter filter) := by
    rw [hr]
    rfl
  have hupdate (s : List Char) : afterPhrase? ["UPDATE"] ("UPDATE ".toList ++ (Print.tableRef table ++ s)) =
      some (Print.tableRef table ++ s) := by
    obtain ⟨t, ht⟩ := exists_tableRef_eq_cons table
    rw [ht]
    rfl
  rw [chars_update]
  refine ofChars?_of_rejected
    [createDatabase?, dropDatabase?, use?, createTable?, dropTable?, showTables?, insert?, select?] rfl ?_ ?_
  · simp only [List.forall_mem_cons]
    exact ⟨rfl, rfl, rfl, rfl, rfl, rfl, rfl, rfl, List.forall_mem_nil _⟩
  · simp only [update?, hupdate, hname, hblanks, hset, hnonempty, Option.bind_eq_bind, Option.bind_some]

/-- The assignments of an update are those that its piece is read as. -/
theorem assignments_of_toStatement {name lead : List Char} {condition : Option (List Char)}
    (h : (Outline.update name lead condition).toStatement = .ok (.update table items filter)) :
    assignments lead = .ok items := by
  rw [Outline.toStatement] at h
  cases hassignments : assignments lead with
  | error e =>
    rw [hassignments] at h
    cases h
  | ok assigned =>
    rw [hassignments] at h
    cases hfilter : Sql.filter condition with
    | error e =>
      rw [hfilter] at h
      cases h
    | ok conditions =>
      rw [hfilter] at h
      cases h
      rfl

theorem endsWhole_update (hne : items ≠ []) (h : ∀ b ∈ items, IsName b.column ∧ b.value.isDouble = false)
    (hfilter : ∀ c ∈ filter, IsName c.column ∧ c.value.isDouble = false) :
    EndsWhole (Statement.update table items filter).chars := by
  have hitems : EndsWhole (Print.assignments items) :=
    endsWhole_intercalate (by simpa using hne)
      (List.forall_mem_map.2 fun b hb => endsWhole_equation b.column (h b hb).2)
  rw [chars_update]
  exact .append _ (.append _ (.append _ (hitems.append_of_eq_nil_or (endsWhole_filter hfilter))))

/-- **An update is read as it was printed exactly where none of the texts that it assigns holds `WHERE`
between blanks.** The texts of its conditions may hold anything. -/
theorem parse_print_update_iff (table : TableRef) (items : List Assignment) (filter : List Condition)
    (htable : IsNamed table) (hne : items ≠ [])
    (h : ∀ b ∈ items, IsName b.column ∧ b.value.isDouble = false)
    (hfilter : ∀ c ∈ filter, IsName c.column ∧ c.value.isDouble = false) :
    Statement.parse (Statement.update table items filter).print = .ok (.update table items filter) ↔
      ∀ b ∈ items, valueHoldsWhere b.value = false := by
  have hread {lead : List Char} {condition : Option (List Char)}
      (hsearch : shortest? (fun _ => true) whereTail? (Print.assignments items ++ Print.filter filter) =
        some (lead, condition)) :
      Statement.parse (Statement.update table items filter).print =
        (Outline.update (Print.tableRef table) lead condition).toStatement :=
    parse_print (chars_update table items filter) (by decide) (endsWhole_update hne h hfilter)
      (ofChars?_update htable hne hsearch)
  constructor
  · intro hparse b hb
    by_contra hholds
    rw [Bool.not_eq_false] at hholds
    -- the first assignment with the word is the one that is cut
    obtain ⟨a, ha⟩ : ∃ a, items.find? (fun b => valueHoldsWhere b.value) = some a :=
      Option.isSome_iff_exists.1 (List.find?_isSome.2 ⟨b, hb, hholds⟩)
    obtain ⟨hword, before, after, rfl, hbefore⟩ := List.find?_eq_some_iff_append.1 ha
    rw [List.forall_mem_append, List.forall_mem_cons] at h
    obtain ⟨hnamed, ⟨hcolumn, -⟩, -⟩ := h
    obtain ⟨u, hvalue⟩ : ∃ u, a.value = .text u := by
      cases hv : a.value with
      | text u => exact ⟨u, rfl⟩
      | _ =>
        rw [hv] at hword
        cases hword
    rw [hvalue] at hword
    obtain ⟨s₁, s₂, m, hs, hrest, hsearch⟩ := shortest?_cutAssignments hnamed
      (fun b hb => by simpa using hbefore b hb) hcolumn hvalue hword after filter
    rw [hread hsearch] at hparse
    exact assignments_cutAssignments_ne hnamed hcolumn hvalue hs hrest (assignments_of_toStatement hparse)
  · intro hfree
    rw [hread (shortest?_assignments h hfree filter), Outline.toStatement, assignments_assignments hne h,
      filter_filterPiece hfilter, tableRef_tableRef htable]
    rfl

/-- The word inside a longer one, at the ends of a text and between other marks, and between blanks in a
condition. -/
theorem parse_print_update_iff_harmless_texts :
    let items : List Assignment :=
      [⟨"set", .text "nowhere to be, somewhere"⟩, ⟨"where", .text "where"⟩,
        ⟨"b", .text "'where', \\ = WHERE"⟩, ⟨"c", .int (-7)⟩]
    let filter : List Condition := [⟨"d", .text "x' WHERE y AND z = '"⟩]
    let update := Statement.update ⟨none, "t"⟩ items filter
    (∀ b ∈ items, valueHoldsWhere b.value = false) ∧ Statement.parse update.print = .ok update := by
  intro items filter update
  have hfree : ∀ b ∈ items, valueHoldsWhere b.value = false := by decide
  exact ⟨hfree,
    (parse_print_update_iff ⟨none, "t"⟩ items filter (by decide) (by decide) (by decide)
      (by decide)).2 hfree⟩

/-- **An update that is read as another one**: of a text with marks in it the first part is assigned, and the
rest becomes a condition that nobody wrote. -/
theorem parse_print_update_other :
    let update := Statement.update ⟨none, "t"⟩ [⟨"a", .text "x' WHERE b = 'y"⟩] []
    update.print = "UPDATE \x60t\x60 SET \x60a\x60 = 'x'' WHERE b = ''y'" ∧
      Statement.parse update.print =
        .ok (.update ⟨none, "t"⟩ [⟨"a", .text "x'"⟩] [⟨"b", .text "'y"⟩]) ∧
      Statement.parse update.print ≠ .ok update := by
  decide +kernel

end WireSql.Sql
