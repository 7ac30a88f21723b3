import WireSql.Proofs.Sql.Literals

/-!
# `WireSql.Proofs.Sql.Keywords`: no keyword is found inside a printed piece

A statement is cut at its keywords before quotes are looked at, so a keyword inside a text could be taken
for one of the statement's own. The searches for `FROM`, for `WHERE` and for `LIMIT` reject every place in
printed names, and every place in the equations of a list as long as they reject those in its texts
(`rejects_equation`, `rejects_intercalate`).

In a text a row limit is never found: the mark that closes the text stands behind it, and a limit ends
the statement (`rejects_escape_limitTail`).
-/

namespace WireSql.Sql

open Text Outline

variable {α : Type} {k : List Char → Option α} {word : String} {letter : Char} {s : List Char}

/-! ## What the searches look for -/

/-- What goes on behind blanks and the keyword seeks the keyword. -/
theorem seeks_of_eq_bind {f : List Char → Option α}
    (h : ∀ c s, k (c :: s) = (afterBlanks? (c :: s)).bind fun r => (afterPhrase? [word] r).bind f) :
    Seeks word k := by
  intro c s hnone
  rw [h]
  cases hblanks : afterBlanks? (c :: s) with
  | none => rfl
  | some r =>
    rw [hblanks, Option.bind_some] at hnone
    have hphrase : afterPhrase? [word] r = none := by
      show (afterKeyword? word r).bind afterBlanks? = none
      rw [hnone, Option.bind_none]
    rw [Option.bind_some, hphrase, Option.bind_none]

theorem seeks_fromTail : Seeks "FROM" fromTail? := seeks_of_eq_bind fun _ _ => rfl

theorem seeks_whereTail : Seeks "WHERE" whereTail? :=
  seeks_of_eq_bind fun _ _ => Option.bind_assoc ..

theorem seeks_limitTail : Seeks "LIMIT" limitTail? := by
  refine seeks_of_eq_bind
    (f := fun digits => if digits.isEmpty || !digits.all isDecimalDigit then none else some (some digits))
    fun c s => ?_
  show Option.map some ((afterBlanks? (c :: s)).bind fun r => (afterPhrase? ["LIMIT"] r).bind _) = _
  cases afterBlanks? (c :: s) with
  | none => rfl
  | some r =>
    rw [Option.bind_some, Option.bind_some]
    cases afterPhrase? ["LIMIT"] r with
    | none => rfl
    | some digits =>
      rw [Option.bind_some, Option.bind_some]
      split <;> rfl

/-! ## Pieces without the keyword -/

theorem isClear_identifier {name : String} (h : IsName name) :
    isClear letter (Print.identifier name) = true :=
  isClear_of_forall (isBlank_of_mem_identifier h)

/-- The literal of a value that is neither a float nor a text has no blanks. -/
theorem isBlank_of_mem_value {v : Value} (h : v.isDouble = false) (htext : ∀ s, v ≠ .text s) :
    ∀ c ∈ Print.value v, isBlank c = false := by
  cases v with
  | null => decide
  | bool b => cases b <;> decide
  | int i => exact fun c hc => isBlank_of_beginsLiteral (beginsLiteral_of_number (isDigit_of_mem_repr hc))
  | double x => cases h
  | text s => exact absurd rfl (htext s)

/-- What equals signs and literals begin with, letters in lower case. -/
def equationStarts : List Char := "='-0123456789ntf".toList

theorem fold_mem_equationStarts {c : Char} (h : beginsLiteral c = true) : fold c ∈ equationStarts :=
  forall_ascii (p := fun c => beginsLiteral c = true → fold c ∈ equationStarts) (by decide)
    (toNat_lt_of_beginsLiteral h) h

/-- An equals sign between blanks is clear in front of a literal that is, if the keyword begins like
neither. -/
theorem isClear_equals {c : Char} (hletter : letter ∉ equationStarts) (hc : beginsLiteral c = true)
    (hs : isClear letter (c :: s) = true) : isClear letter (" = ".toList ++ c :: s) = true := by
  have hequals : fold '=' ≠ letter := by
    rintro rfl
    exact hletter (by decide)
  have hliteral : fold c ≠ letter := by
    rintro rfl
    exact hletter (fold_mem_equationStarts hc)
  have hbehind := isClear_blank_cons (b := ' ') (isBlank_of_beginsLiteral hc) hliteral hs
  show isClear letter (' ' :: '=' :: ' ' :: c :: s) = true
  refine isClear_blank_cons (by decide) hequals ?_
  rw [isClear, hbehind]
  rfl

/-- An equation is rejected as a whole where the text in it is. -/
theorem rejects_equation (letter : Char) {column : String} {v : Value} {rest : List Char} (hk : Seeks word k)
    (hword : word.toList.head?.map fold = some letter) (hletter : letter ∉ equationStarts)
    (hcolumn : IsName column) (hv : v.isDouble = false)
    (htext : ∀ s, v = .text s → Rejects k (Print.escape s.toList) (apostrophe :: rest)) :
    Rejects k (Print.equation column v) rest := by
  have hclear : isClear letter (Print.identifier column) = true := isClear_identifier hcolumn
  rw [Print.equation, List.append_assoc, rejects_append]
  refine ⟨rejects_of_isClear letter hk hword hclear, ?_⟩
  by_cases hquoted : ∃ s, v = .text s
  · obtain ⟨s, rfl⟩ := hquoted
    have hlead : isClear letter (" = ".toList ++ [apostrophe]) = true :=
      isClear_equals hletter (by decide) rfl
    have hend : isClear letter [apostrophe] = true := rfl
    have hsplit : " = ".toList ++ Print.value (.text s) =
        (" = ".toList ++ [apostrophe]) ++ (Print.escape s.toList ++ [apostrophe]) := rfl
    have hbody : Rejects k (Print.escape s.toList ++ [apostrophe]) rest :=
      rejects_append.2 ⟨htext s rfl, rejects_of_isClear letter hk hword hend⟩
    rw [hsplit]
    exact rejects_append.2 ⟨rejects_of_isClear letter hk hword hlead, hbody⟩
  · obtain ⟨c, r, hcr, hc⟩ := exists_value_eq_cons hv
    have hvalue : isClear letter (Print.value v) = true :=
      isClear_of_forall (isBlank_of_mem_value hv fun s hs => hquoted ⟨s, hs⟩)
    rw [hcr] at hvalue ⊢
    exact rejects_of_isClear letter hk hword (isClear_equals hletter hc hvalue)

theorem exists_intercalate_eq_cons (separator : List Char) (c : Char) (r : List Char)
    (items : List (List Char)) : ∃ t, List.intercalate separator ((c :: r) :: items) = c :: t := by
  cases items with
  | nil => exact ⟨r, by rw [List.intercalate_singleton]⟩
  | cons q items => exact ⟨_, by rw [List.intercalate_cons_cons, List.cons_append, List.cons_append]⟩

/-- The pieces of a list are rejected together, where each begins with a backtick and what stands between
them is rejected in front of one. -/
theorem rejects_intercalate (letter : Char) {separator : List Char} {items : List (List Char)}
    (hk : Seeks word k)
    (hword : word.toList.head?.map fold = some letter)
    (hseparator : isClear letter (separator ++ [backtick]) = true)
    (h : ∀ p ∈ items, (∃ r, p = backtick :: r) ∧ ∀ rest, Rejects k p rest) (rest : List Char) :
    Rejects k (List.intercalate separator items) rest := by
  induction items with
  | nil => trivial
  | cons p items ih =>
    rw [List.forall_mem_cons] at h
    cases items with
    | nil =>
      rw [List.intercalate_singleton]
      exact h.1.2 rest
    | cons q items =>
      obtain ⟨r, rfl⟩ := (h.2 q List.mem_cons_self).1
      have hrest := ih h.2
      obtain ⟨t, ht⟩ := exists_intercalate_eq_cons separator backtick r items
      rw [List.intercalate_cons_cons, List.append_assoc]
      refine rejects_append.2 ⟨h.1.2 _, rejects_append.2 ⟨?_, hrest⟩⟩
      -- a blank at the end of the separator stands in front of the backtick of the next piece
      rw [ht]
      exact (rejects_append.1 (rejects_of_isClear letter hk hword hseparator)).1

/-! ## Row limits -/

/-- What a row limit is made of: blanks, the letters of its keyword and digits. -/
def inLimit (c : Char) : Bool :=
  isBlank c || "LIMIT".toList.any (fun w => fold w == fold c) || isDecimalDigit c

theorem forall_mem_of_afterBlanks? {p : Char → Prop} {r : List Char} (h : afterBlanks? s = some r)
    (hblank : ∀ c, isBlank c = true → p c) (hr : ∀ c ∈ r, p c) : ∀ c ∈ s, p c := by
  cases s with
  | nil => cases h
  | cons c s =>
    rw [afterBlanks?] at h
    split at h
    · next hc =>
      obtain rfl := Option.some.inj h
      intro d hd
      rw [← List.takeWhile_append_dropWhile (p := isBlank) (l := s)] at hd
      rcases List.mem_cons.1 hd with rfl | hd
      · exact hblank d hc
      · rcases List.mem_append.1 hd with hd | hd
        · exact hblank d (List.mem_takeWhile_imp hd)
        · exact hr d hd
    · cases h

theorem forall_mem_of_afterKeyword? {p : Char → Prop} {word : String} {r : List Char}
    (h : afterKeyword? word s = some r) (hword : ∀ w ∈ word.toList, ∀ c, fold w = fold c → p c)
    (hr : ∀ c ∈ r, p c) : ∀ c ∈ s, p c := by
  unfold afterKeyword? at h
  generalize word.toList = ws at h hword
  induction ws generalizing s with
  | nil =>
    obtain rfl := Option.some.inj h
    exact hr
  | cons w ws ih =>
    rw [List.forall_mem_cons] at hword
    cases s with
    | nil => cases h
    | cons c s =>
      rw [afterKeyword?.go] at h
      split at h
      · next hc => exact List.forall_mem_cons.2 ⟨hword.1 c (eq_of_beq hc), ih h hword.2⟩
      · cases h

/-- A row limit takes up the whole text. -/
theorem inLimit_of_mem {digits : List Char} (h : limit? s = some digits) : ∀ c ∈ s, inLimit c = true := by
  obtain ⟨behindBlanks, hblanks, h⟩ := Option.bind_eq_some_iff.1 h
  obtain ⟨behindPhrase, hphrase, h⟩ := Option.bind_eq_some_iff.1 h
  obtain ⟨behindWord, hword, hdigits⟩ := Option.bind_eq_some_iff.1 hphrase
  have hall : ∀ c ∈ behindPhrase, isDecimalDigit c = true := by
    split at h
    · cases h
    · next hvalid => simpa using (by simpa using hvalid : _ ∧ _).2
  have hblank : ∀ c, isBlank c = true → inLimit c = true := fun c hc => by simp [inLimit, hc]
  have hletter : ∀ w ∈ "LIMIT".toList, ∀ c, fold w = fold c → inLimit c = true := fun w hw c hc => by
    have hany : "LIMIT".toList.any (fun w => fold w == fold c) = true :=
      List.any_eq_true.2 ⟨w, hw, beq_iff_eq.2 hc⟩
    rw [inLimit, hany, Bool.or_true, Bool.true_or]
  refine forall_mem_of_afterBlanks? hblanks hblank (forall_mem_of_afterKeyword? hword hletter ?_)
  refine forall_mem_of_afterBlanks? hdigits hblank fun c hc => ?_
  rw [inLimit, hall c hc, Bool.or_true]

/-- No row limit is found in a text: the mark that ends it stands behind every place. -/
theorem rejects_escape_limitTail (s rest : List Char) :
    Rejects limitTail? (Print.escape s) (apostrophe :: rest) := by
  have hnone (c : Char) (t : List Char) : limitTail? (c :: (t ++ apostrophe :: rest)) = none := by
    cases hlimit : limit? (c :: (t ++ apostrophe :: rest)) with
    | none => simp [limitTail?, hlimit]
    | some digits =>
      have hmark := inLimit_of_mem hlimit apostrophe (by simp)
      exact absurd hmark (by decide)
  induction Print.escape s with
  | nil => trivial
  | cons c t ih => exact ⟨hnone c t, ih⟩

end WireSql.Sql
