import WireSql.Proofs.Introspection.Questions
import WireSql.Proofs.Sql.Items
import WireSql.Proofs.Sql.Keywords
import WireSql.Proofs.Wire.Results

/-!
# `WireSql.Proofs.Introspection.Lists`: a question for a list of variables

A list of variables is taken apart in four steps, each of which looks for something in the text: the next
clause behind blanks, a comma, a label behind the word `AS`, and a scope in front of the name. None of them
finds it in a name or in a label, however they are spelled. A clause and the word stand behind blanks, and
the only blanks of an item are those around its own `AS`; a scope is cut off once, and what it is in front of
is not looked at again.

`answer_listQuestion` puts the steps together: one row with one cell for each item, under its label or under
the name that it asks for.
-/

namespace WireSql

namespace Introspection

open Text Sql

variable {s r : List Char} {scope : String}

/-! ## Lists of items -/

/-- What an item of a list asks for. -/
inductive Asked where
  | database
  /-- A variable, with the scope in front of its name if there is one. -/
  | named (scope : Option String) (name : String)
deriving DecidableEq, Repr

/-- An item of a list. -/
structure Item where
  asked : Asked
  /-- The name to show it under. -/
  label : Option String := none
deriving DecidableEq, Repr

namespace Asked

/-- The text that asks for it. -/
def chars : Asked → List Char
  | database => "DATABASE()".toList
  | named scope name => "@@".toList ++ (scope.elim [] String.toList ++ name.toList)

/-- The name that it has without a label. -/
def name : Asked → String
  | database => "DATABASE()"
  | named _ name => name

/-- Its scope is one of those that there are, and its name is a bare one. -/
def IsPlain : Asked → Prop
  | database => True
  | named scope name => (∀ s ∈ scope, s ∈ scopes) ∧ IsName name

instance (asked : Asked) : Decidable asked.IsPlain :=
  match asked with
  | database => inferInstanceAs (Decidable True)
  | named scope name => inferInstanceAs (Decidable ((∀ s ∈ scope, s ∈ scopes) ∧ IsName name))

/-- **The cell that answers it**: the value in the table under the name, whatever its letter case, or the one
told for all other names. -/
inductive HasCell (current : Option String) : Asked → Cell → Prop where
  /-- The database of the session, or NULL. -/
  | database : HasCell current .database current
  /-- A variable of the table. -/
  | known (scope : Option String) (name : String) {v : String × String} (hv : v ∈ systemVariables)
      (hname : sameIgnoringCase v.1 name = true) : HasCell current (.named scope name) (some v.2)
  /-- Any other name. -/
  | unknown (scope : Option String) (name : String)
      (hnone : ∀ v ∈ systemVariables, sameIgnoringCase v.1 name = false) :
      HasCell current (.named scope name) (some unknownValue)

end Asked

namespace Item

/-- The text of the item. -/
def chars (item : Item) : List Char :=
  match item.label with
  | none => item.asked.chars
  | some label => item.asked.chars ++ (" AS ".toList ++ backtick :: (label.toList ++ [backtick]))

/-- The name of its column. -/
def column (item : Item) : String := item.label.getD item.asked.name

/-- Its names are bare ones. -/
def IsPlain (item : Item) : Prop := item.asked.IsPlain ∧ ∀ label ∈ item.label, IsName label

instance (item : Item) : Decidable item.IsPlain :=
  inferInstanceAs (Decidable (item.asked.IsPlain ∧ ∀ label ∈ item.label, IsName label))

end Item

/-- What stands between two items: a comma, with a space behind it or without. -/
def itemSeparator (spaced : Bool) : List Char := if spaced then [',', ' '] else [',']

/-- The question for a list of items, with a limit to its rows or without. -/
def listQuestion (spaced : Bool) (items : List Item) (limit : Option String) : String :=
  String.ofList ("SELECT ".toList ++ ((itemSeparator spaced).intercalate (items.map Item.chars) ++
    limit.elim [] fun n => " LIMIT ".toList ++ n.toList))

/-! ## The end of a list -/

/-- The words that a clause behind a list begins with. -/
def clauseWords : List String := ["FROM", "LIMIT", "WHERE"]

/-- The letters that these words begin with. -/
def clauseLetters : List Char := ['f', 'l', 'w']

/-- No clause begins in the text. -/
def IsClauseFree (s : List Char) : Prop := ∀ letter ∈ clauseLetters, isClear letter s = true

instance (s : List Char) : Decidable (IsClauseFree s) :=
  inferInstanceAs (Decidable (∀ letter ∈ clauseLetters, isClear letter s = true))

theorem IsClauseFree.append (hs : IsClauseFree s) (hr : IsClauseFree r) : IsClauseFree (s ++ r) :=
  fun letter hletter => isClear_append (hs letter hletter) (hr letter hletter)

theorem isClauseFree_of_no_blank (h : ∀ c ∈ s, isBlank c = false) : IsClauseFree s :=
  fun _ _ => isClear_of_forall h

/-- A list does not end where none of the words follows. -/
theorem atListEnd_eq_false (h : ∀ word ∈ clauseWords, (afterBlanks? s).bind (afterKeyword? word) = none) :
    atListEnd s = false := by
  unfold atListEnd
  cases hs : afterBlanks? s with
  | none => rfl
  | some r =>
    refine List.any_eq_false.2 fun word hword => ?_
    have hnone : afterKeyword? word r = none := by simpa [hs] using h word hword
    rw [hnone]
    exact Bool.false_ne_true

/-- **A list goes on where no clause begins.** -/
theorem itemList_append (h : IsClauseFree s) (rest : List Char) :
    itemList (s ++ rest) = s ++ itemList rest := by
  have hletters : ∀ word ∈ clauseWords,
      clauseLetters.any (word.toList.head?.map fold == some ·) = true := by decide
  have hrejects : ∀ word ∈ clauseWords,
      Rejects (fun s => (afterBlanks? s).bind (afterKeyword? word)) s rest := by
    intro word hword
    obtain ⟨letter, hletter, hfirst⟩ := List.any_eq_true.1 (hletters word hword)
    exact rejects_of_isClear letter (fun _ _ hnone => hnone) (beq_iff_eq.1 hfirst) (h letter hletter)
  clear h
  induction s with
  | nil => rfl
  | cons c s ih =>
    have hend : atListEnd (c :: (s ++ rest)) = false :=
      atListEnd_eq_false fun word hword => (hrejects word hword).1
    rw [List.cons_append, itemList, hend, if_neg Bool.false_ne_true,
      ih fun word hword => (hrejects word hword).2, List.cons_append]

/-- A limit ends the list. -/
theorem itemList_limit (limit : Option String) :
    itemList (limit.elim [] fun n => " LIMIT ".toList ++ n.toList) = [] := by
  cases limit with
  | none => rfl
  | some n =>
    have hlimit : " LIMIT ".toList = [' ', 'L', 'I', 'M', 'I', 'T', ' '] := by decide
    have hend : atListEnd (' ' :: 'L' :: 'I' :: 'M' :: 'I' :: 'T' :: ' ' :: n.toList) = true := rfl
    rw [Option.elim_some, hlimit]
    exact if_pos hend

/-! ## The items of a list -/

theorem splitAtCommas_ne_nil (s : List Char) : splitAtCommas s ≠ [] := by
  unfold splitAtCommas
  split
  · exact List.cons_ne_nil _ _
  · split
    · exact List.cons_ne_nil _ _
    · split
      · exact List.cons_ne_nil _ _
      · exact List.cons_ne_nil _ _

theorem splitAtCommas_append (h : ',' ∉ s) (rest : List Char) :
    splitAtCommas (s ++ ',' :: rest) = s :: splitAtCommas rest := by
  induction s with
  | nil => rfl
  | cons c s ih =>
    rw [List.mem_cons, not_or] at h
    rw [List.cons_append, splitAtCommas, beq_false_of_ne (Ne.symm h.1), if_neg Bool.false_ne_true, ih h.2]

/-- A blank in front of a list is trimmed from its first item. -/
theorem map_trim_splitAtCommas_cons {c : Char} (hc : isBlank c = true) (s : List Char) :
    (splitAtCommas (c :: s)).map trim = (splitAtCommas s).map trim := by
  have hcomma : (c == ',') = false := beq_false_of_ne fun h => by rw [h] at hc; cases hc
  obtain ⟨part, parts, hparts⟩ := List.exists_cons_of_ne_nil (splitAtCommas_ne_nil s)
  rw [splitAtCommas, hcomma, if_neg Bool.false_ne_true, hparts]
  rw [List.map_cons, List.map_cons, trim_cons_of_blank hc]

/-- **A list is cut into its items.** -/
theorem map_trim_splitAtCommas (spaced : Bool) {items : List (List Char)} (hne : items ≠ [])
    (h : ∀ p ∈ items, ',' ∉ p ∧ trim p = p) :
    (splitAtCommas ((itemSeparator spaced).intercalate items)).map trim = items := by
  induction items with
  | nil => exact absurd rfl hne
  | cons p items ih =>
    rw [List.forall_mem_cons] at h
    cases items with
    | nil => rw [List.intercalate_singleton, splitAtCommas_of_not_mem h.1.1, List.map_singleton, h.1.2]
    | cons q items =>
      have hrest := ih (List.cons_ne_nil q items) h.2
      rw [List.intercalate_cons_cons, List.append_assoc]
      generalize (itemSeparator spaced).intercalate (q :: items) = rest at hrest ⊢
      have hsplit : (splitAtCommas (p ++ (itemSeparator spaced ++ rest))).map trim =
          trim p :: (splitAtCommas rest).map trim := by
        cases spaced with
        | false => exact congrArg (List.map trim) (splitAtCommas_append h.1.1 rest)
        | true =>
          have hblank : (splitAtCommas (' ' :: rest)).map trim = (splitAtCommas rest).map trim :=
            map_trim_splitAtCommas_cons (by decide) rest
          rw [← hblank]
          exact congrArg (List.map trim) (splitAtCommas_append h.1.1 (' ' :: rest))
      rw [hsplit, hrest, h.1.2]

/-! ## Scopes -/

/-- A scope in front of a name is cut off. -/
theorem withoutScope_cons_append {others : List String} (hscope : IsSingleByte scope.toList) (s : List Char) :
    withoutScope (scope :: others) (scope.toList ++ s) = .ok s := by
  have hcut : cutAtByte scope.length (scope.toList ++ s) = .at scope.toList s := by
    rw [← String.length_toList, cutAtByte_of_isSingleByte hscope (Nat.le_refl _), List.take_length,
      List.drop_length, List.nil_append]
  rw [withoutScope, hcut]
  dsimp only
  rw [String.ofList_toList, sameIgnoringCase_refl, if_pos rfl]

/-- **One scope is cut off**, whatever the name behind it is. -/
theorem withoutScope_append (hscope : scope ∈ scopes) (hname : IsSingleByte s) :
    withoutScope scopes (scope.toList ++ s) = .ok s := by
  have hapart : scopes.Pairwise Apart := by decide
  have hbytes : ∀ scope ∈ scopes, IsSingleByte scope.toList := by decide
  obtain ⟨before, after, hscopes⟩ := List.append_of_mem hscope
  have hsingle : IsSingleByte (scope.toList ++ s) := List.forall_mem_append.2 ⟨hbytes scope hscope, hname⟩
  have hbefore : ∀ other ∈ before, Apart other scope := fun other hother =>
    (List.pairwise_append.1 (hscopes ▸ hapart)).2.2 other hother scope List.mem_cons_self
  rw [hscopes]
  clear hscopes
  induction before with
  | nil => exact withoutScope_cons_append (hbytes scope hscope) s
  | cons other before ih =>
    rw [List.forall_mem_cons] at hbefore
    rw [List.cons_append, withoutScope_cons_of_not_begins hsingle, ih hbefore.2]
    -- another scope in front would begin this one, or begin with it
    intro hother
    rw [List.map_append] at hother
    rcases List.prefix_or_prefix_of_prefix hother (List.prefix_append _ _) with hle | hle
    · exact hbefore.1.1 hle
    · exact hbefore.1.2 hle

/-! ## Items -/

namespace Asked

variable {asked : Asked}

/-- What the characters of an item without its label are not. -/
theorem plain_of_mem_chars (h : asked.IsPlain) : ∀ c ∈ asked.chars, isBlank c = false ∧ c ≠ ',' := by
  cases asked with
  | database => decide
  | named scope name =>
    have hscopes : ∀ scope ∈ scopes, ∀ c ∈ scope.toList, isBlank c = false ∧ c ≠ ',' := by decide
    have hscope : ∀ c ∈ scope.elim [] String.toList, isBlank c = false ∧ c ≠ ',' := by
      cases scope with
      | none => nofun
      | some scope => exact hscopes scope (h.1 scope rfl)
    unfold chars
    rw [List.forall_mem_append, List.forall_mem_append]
    refine ⟨by decide, hscope, fun c hc => ?_⟩
    obtain ⟨hblank, -, -, hcomma, -⟩ := plain_of_inColumnName (h.2.2 c hc)
    exact ⟨hblank, hcomma⟩

/-- Marks and a scope in front of a name are taken off. -/
theorem withoutScope_chars {scope : Option String} {name : String} (h : (named scope name).IsPlain) :
    withoutScope scopes (withoutMarks (named scope name).chars) = .ok name.toList := by
  cases scope with
  | none =>
    have hmarks : withoutMarks (named none name).chars = name.toList := withoutMarks_name h.2
    have hscope : withoutScope scopes name.toList = .ok name.toList :=
      withoutScope_of_no_dot (by decide) (isSingleByte_name h.2) fun c hc =>
        (plain_of_inColumnName (h.2.2 c hc)).2.1
    rw [hmarks, hscope]
  | some scope =>
    have hheads : ∀ scope ∈ scopes, scope.toList ≠ [] ∧ scope.toList.head? ≠ some '@' := by decide
    have hscope : scope ∈ scopes := h.1 scope rfl
    have hhead : (scope.toList ++ name.toList).head? ≠ some '@' := by
      rw [List.head?_append_of_ne_nil _ (hheads scope hscope).1]
      exact (hheads scope hscope).2
    have hmarks : withoutMarks (named (some scope) name).chars = scope.toList ++ name.toList :=
      withoutMarks_of_head hhead
    rw [hmarks, withoutScope_append hscope (isSingleByte_name h.2)]

/-- The cell that answers what is asked for. -/
def cell (current : Option String) : Asked → Cell
  | database => current
  | named _ name => some ((variableValue? name).getD unknownValue)

theorem hasCell_cell (current : Option String) (asked : Asked) : asked.HasCell current (asked.cell current) := by
  cases asked with
  | database => exact .database
  | named scope name =>
    rw [cell, variableValue?]
    cases hfind : systemVariables.find? fun v => sameIgnoringCase v.1 name with
    | none => exact .unknown scope name fun v hv => Bool.eq_false_iff.2 (List.find?_eq_none.1 hfind v hv)
    | some v =>
      have hname : sameIgnoringCase v.1 name = true := by simpa using List.find?_some hfind
      exact .known scope name (List.mem_of_find?_eq_some hfind) hname

/-- The table has one variable of a name, so that there is one cell. -/
theorem HasCell.unique {current : Option String} {c c' : Cell} (h : asked.HasCell current c)
    (h' : asked.HasCell current c') : c = c' := by
  have honce : ∀ v ∈ systemVariables, ∀ w ∈ systemVariables, sameIgnoringCase v.1 w.1 = true → v = w := by
    decide +kernel
  cases h with
  | database =>
    cases h'
    rfl
  | known scope name hv hname =>
    cases h' with
    | known _ _ hw hname' =>
      rw [honce _ hv _ hw (sameIgnoringCase_trans hname (sameIgnoringCase_comm .. ▸ hname'))]
    | unknown _ _ hnone =>
      rw [hnone _ hv] at hname
      cases hname
  | unknown scope name hnone =>
    cases h' with
    | known _ _ hw hname' =>
      rw [hnone _ hw] at hname'
      cases hname'
    | unknown => rfl

end Asked

namespace Item

variable {item : Item}

/-- A label is a word and a name between marks. -/
theorem aliasTail?_label {label : String} (h : IsName label) :
    aliasTail? (" AS ".toList ++ backtick :: (label.toList ++ [backtick])) =
      some (backtick :: (label.toList ++ [backtick])) := by
  have hword : " AS ".toList = [' ', 'A', 'S', ' '] := by decide
  have hquoted : skipBlanks (backtick :: (label.toList ++ [backtick])) =
      backtick :: (label.toList ++ [backtick]) := skipBlanks_cons_of_not_blank (by decide)
  have hline : '\n' ∉ backtick :: (label.toList ++ [backtick]) := by
    rw [List.mem_cons, List.mem_append, List.mem_singleton]
    rintro (hmark | hname | hmark)
    · cases hmark
    · exact not_mem_name (by decide) h hname
    · cases hmark
  rw [hword]
  show (if (skipBlanks (backtick :: (label.toList ++ [backtick]))).isEmpty ||
      (skipBlanks (backtick :: (label.toList ++ [backtick]))).contains '\n' then none
    else some (skipBlanks (backtick :: (label.toList ++ [backtick])))) = _
  rw [hquoted, if_neg (by simpa using hline)]

/-- What is asked for holds no label, as there is no blank in it. -/
theorem rejects_aliasTail {s : List Char} (h : ∀ c ∈ s, isBlank c = false) (rest : List Char) :
    Rejects aliasTail? s rest := by
  induction s with
  | nil => trivial
  | cons c s ih =>
    rw [List.forall_mem_cons] at h
    exact ⟨aliasTail?_of_not_blank h.1 _, ih h.2⟩

/-- **A label is found behind the last word of an item**, and not in what the item asks for. -/
theorem itemParts_chars (h : item.IsPlain) :
    itemParts item.chars = (item.asked.chars, item.label.map String.toList) := by
  obtain ⟨asked, label⟩ := item
  have hblank : ∀ c ∈ asked.chars, isBlank c = false := fun c hc => (asked.plain_of_mem_chars h.1 c hc).1
  cases label with
  | none => exact itemParts_of_no_blank hblank
  | some label =>
    have hlabel : IsName label := h.2 label rfl
    have hadmits : ∀ c ∈ asked.chars, (c != '\n') = true := by
      intro c hc
      rw [bne_iff_ne]
      rintro rfl
      cases hblank '\n' hc
    have hmarks : ∀ c ∈ label.toList, (c == backtick) = false := fun c hc =>
      beq_false_of_ne (ne_of_inColumnName (by decide) (hlabel.2 c hc))
    have hfound : shortest? (· != '\n') aliasTail? (Item.chars ⟨asked, some label⟩) =
        some (asked.chars, backtick :: (label.toList ++ [backtick])) := by
      show shortest? _ aliasTail? (asked.chars ++ _) = _
      rw [shortest?_append_of_admits hadmits (rejects_aliasTail hblank _),
        shortest?_of_some (aliasTail?_label hlabel), Option.map_some, List.append_nil]
    rw [itemParts, hfound]
    dsimp only
    rw [trim_of_forall hblank, trim_between (by decide) (by decide),
      dropAroundWhile_between (by decide) (by decide) hmarks]
    rfl

/-- **An item is answered under its label**, or else under the name that it asks for. -/
theorem itemAnswer_chars (h : item.IsPlain) (current : Option String) :
    itemAnswer current item.chars = .ok (item.column, item.asked.cell current) := by
  obtain ⟨asked, label⟩ := item
  have hlabel (name : String) : ((label.map String.toList).map String.ofList).getD name = label.getD name := by
    rw [Option.map_map]
    cases label with
    | none => rfl
    | some label => exact String.ofList_toList
  unfold itemAnswer
  rw [itemParts_chars h]
  dsimp only
  cases asked with
  | database =>
    rw [if_pos (by decide)]
    exact congrArg (fun name => Except.ok (name, current)) (hlabel "DATABASE()")
  | named scope name =>
    have hblank : ∀ c ∈ (Asked.named scope name).chars, isBlank c = false := fun c hc =>
      (Asked.plain_of_mem_chars h.1 c hc).1
    have hother : ¬ sameIgnoringCase (String.ofList (Asked.named scope name).chars) "DATABASE()" = true := by
      rw [sameIgnoringCase, String.toList_ofList]
      exact Bool.false_ne_true
    rw [if_neg hother, trim_of_forall hblank, Asked.withoutScope_chars h.1]
    show Except.ok (((label.map String.toList).map String.ofList).getD (String.ofList name.toList),
      some ((variableValue? (String.ofList name.toList)).getD unknownValue)) = _
    rw [hlabel, String.ofList_toList]
    rfl

/-- An item begins with what it asks for. -/
theorem exists_chars_eq (item : Item) : ∃ behind, item.chars = item.asked.chars ++ behind := by
  obtain ⟨asked, label⟩ := item
  cases label with
  | none => exact ⟨[], (List.append_nil _).symm⟩
  | some label => exact ⟨_, rfl⟩

/-- What an item begins with is neither a blank nor the letter of a clause. -/
theorem exists_chars_eq_cons (item : Item) :
    ∃ c r, item.chars = c :: r ∧ isBlank c = false ∧ fold c ∉ clauseLetters := by
  obtain ⟨behind, hbehind⟩ := item.exists_chars_eq
  cases hasked : item.asked with
  | database => exact ⟨'D', _, by rw [hbehind, hasked]; rfl, by decide, by decide⟩
  | named scope name => exact ⟨'@', _, by rw [hbehind, hasked]; rfl, by decide, by decide⟩

theorem isClauseFree_chars (h : item.IsPlain) : IsClauseFree item.chars := by
  obtain ⟨asked, label⟩ := item
  have hasked : IsClauseFree asked.chars :=
    isClauseFree_of_no_blank fun c hc => (asked.plain_of_mem_chars h.1 c hc).1
  cases label with
  | none => exact hasked
  | some label =>
    have hword : IsClauseFree (" AS ".toList ++ [backtick]) := by decide
    have hlabel : IsClauseFree (label.toList ++ [backtick]) := by
      refine isClauseFree_of_no_blank (List.forall_mem_append.2 ⟨fun c hc => ?_, by decide⟩)
      exact isBlank_of_inColumnName ((h.2 label rfl).2 c hc)
    have hchars : Item.chars ⟨asked, some label⟩ =
        asked.chars ++ ((" AS ".toList ++ [backtick]) ++ (label.toList ++ [backtick])) := by
      rw [List.append_assoc]
      rfl
    rw [hchars]
    exact hasked.append (hword.append hlabel)

/-- What is looked for between items is not in them. -/
theorem separate_chars (h : item.IsPlain) : ',' ∉ item.chars ∧ trim item.chars = item.chars := by
  obtain ⟨asked, label⟩ := item
  have hplain := asked.plain_of_mem_chars h.1
  have hcomma : ',' ∉ asked.chars := fun hmem => (hplain ',' hmem).2 rfl
  cases label with
  | none => exact ⟨hcomma, trim_of_forall fun c hc => (hplain c hc).1⟩
  | some label =>
    have hchars : Item.chars ⟨asked, some label⟩ =
        asked.chars ++ (" AS ".toList ++ backtick :: (label.toList ++ [backtick])) := rfl
    have hword : ',' ∉ " AS ".toList := by decide
    have hlabel : ',' ∉ label.toList := not_mem_name (by decide) (h.2 label rfl)
    have hmark : ¬ ',' = backtick := by decide
    constructor
    · rw [hchars]
      simp only [List.mem_append, List.mem_cons, not_or]
      exact ⟨hcomma, hword, hmark, hlabel, hmark, List.not_mem_nil⟩
    · obtain ⟨c, r, hcons, hblank, -⟩ := exists_chars_eq_cons ⟨asked, some label⟩
      refine trim_eq_self (fun d hd => ?_) fun d hd => ?_
      · rw [hcons] at hd
        obtain rfl := Option.some.inj hd
        exact hblank
      · have hlast : (Item.chars ⟨asked, some label⟩).getLast? = some backtick := by
          rw [hchars, ← List.cons_append, ← List.append_assoc, ← List.append_assoc, List.getLast?_concat]
        rw [hlast] at hd
        obtain rfl := Option.some.inj hd
        decide

end Item

/-! ## The row -/

variable {items : List Item}

/-- **No clause begins in a list of items**, neither in one of them nor behind the space after a comma. -/
theorem isClauseFree_list (spaced : Bool) (h : ∀ item ∈ items, item.IsPlain) :
    IsClauseFree ((itemSeparator spaced).intercalate (items.map Item.chars)) := by
  induction items with
  | nil => decide +revert
  | cons item items ih =>
    rw [List.forall_mem_cons] at h
    cases items with
    | nil =>
      rw [List.map_singleton, List.intercalate_singleton]
      exact item.isClauseFree_chars h.1
    | cons next items =>
      have hrest := ih h.2
      obtain ⟨c, r, hnext, hblank, hletter⟩ := next.exists_chars_eq_cons
      obtain ⟨t, ht⟩ := exists_intercalate_eq_cons (itemSeparator spaced) c r (items.map Item.chars)
      rw [List.map_cons, hnext, ht] at hrest
      rw [List.map_cons, List.map_cons, List.intercalate_cons_cons, List.append_assoc, hnext, ht]
      refine (item.isClauseFree_chars h.1).append ?_
      have hcomma : IsClauseFree [','] := by decide
      cases spaced with
      | false => exact hcomma.append hrest
      | true =>
        refine hcomma.append fun letter hmem => isClear_blank_cons hblank ?_ (hrest letter hmem)
        rintro rfl
        exact hletter hmem

/-- **A list of items is answered by one row with a cell for each.** -/
theorem selectVariables_list (spaced : Bool) (hne : items ≠ []) (h : ∀ item ∈ items, item.IsPlain)
    (current limit : Option String) :
    selectVariables current ((itemSeparator spaced).intercalate (items.map Item.chars) ++
        limit.elim [] fun n => " LIMIT ".toList ++ n.toList) =
      .ok (.ofRows (items.map Item.column) [items.map fun item => item.asked.cell current]) := by
  have hsplit : (splitAtCommas ((itemSeparator spaced).intercalate (items.map Item.chars))).map trim =
      items.map Item.chars :=
    map_trim_splitAtCommas spaced (by simpa using hne)
      (List.forall_mem_map.2 fun item hitem => item.separate_chars (h item hitem))
  have hsome : (items.map Item.chars).filter (!·.isEmpty) = items.map Item.chars := by
    refine List.filter_eq_self.2 (List.forall_mem_map.2 fun item _ => ?_)
    obtain ⟨c, r, hcons, -⟩ := item.exists_chars_eq_cons
    rw [hcons]
    rfl
  have hcells : (items.map Item.chars).mapM (itemAnswer current) =
      .ok (items.map fun item => (item.column, item.asked.cell current)) :=
    mapM_map_eq_ok_map fun item hitem => item.itemAnswer_chars (h item hitem) current
  rw [selectVariables, itemList_append (isClauseFree_list spaced h), itemList_limit, List.append_nil, hsplit,
    hsome, hcells]
  show Except.ok (ResultSet.ofRows _ [_]) = _
  rw [List.map_map, List.map_map]
  rfl

theorem asksForVariables_listQuestion (spaced : Bool) (hne : items ≠ []) (limit : Option String) :
    asksForVariables (listQuestion spaced items limit) = true := by
  obtain ⟨item, items, rfl⟩ := List.exists_cons_of_ne_nil hne
  obtain ⟨behind, hbehind⟩ := item.exists_chars_eq
  have hlist : ∃ t, (itemSeparator spaced).intercalate ((item :: items).map Item.chars) =
      item.asked.chars ++ t := by
    rw [List.map_cons, hbehind]
    cases items.map Item.chars with
    | nil => exact ⟨behind, List.intercalate_singleton⟩
    | cons p ps => exact ⟨_, by rw [List.intercalate_cons_cons, List.append_assoc, List.append_assoc]⟩
  obtain ⟨t, ht⟩ := hlist
  unfold asksForVariables listQuestion
  rw [String.toList_ofList, ht]
  cases item.asked with
  | database => rfl
  | named scope name => rfl

/-- **What answers a list of items.** -/
structure AnswersItems (current : Option String) (items : List Item) (r : ResultSet) : Prop where
  /-- There is one column for each item, in order, under its label or under what it asks for. -/
  columns_eq : r.columns = items.map Item.column
  /-- There is one row, and its cells are those that answer the items. -/
  rows_eq_iff : ∀ rows, r.rows = rows ↔
    ∃ cells, rows = [cells] ∧ List.Forall₂ (fun item cell => item.asked.HasCell current cell) items cells
  /-- The result is never sent as the report that a statement is done. -/
  not_ok : ∀ capabilities first (p : Wire.OkPacket) sequence,
    Wire.resultFrames r capabilities first ≠ [p.toFrame sequence]

theorem answersItems_ofRows (hne : items ≠ []) (current : Option String) : AnswersItems current items
    (.ofRows (items.map Item.column) [items.map fun item => item.asked.cell current]) where
  columns_eq := rfl
  rows_eq_iff := by
    have hrows : (ResultSet.ofRows (items.map Item.column) [items.map fun item => item.asked.cell current]).rows =
        [items.map fun item => item.asked.cell current] :=
      congrArg ([·]) (fitRow_of_length_eq (by rw [List.length_map, List.length_map]))
    have hcells : List.Forall₂ (fun (item : Item) cell => item.asked.HasCell current cell) items
        (items.map fun item => item.asked.cell current) := by
      rw [List.forall₂_map_right_iff, List.forall₂_same]
      exact fun item _ => item.asked.hasCell_cell current
    intro rows
    rw [hrows]
    constructor
    · rintro rfl
      exact ⟨_, rfl, hcells⟩
    · rintro ⟨cells, rfl, hother⟩
      have honce : Relator.RightUnique fun (item : Item) cell => item.asked.HasCell current cell :=
        fun _ _ _ h h' => h.unique h'
      rw [honce.forall₂ hcells hother]
  not_ok := by
    intro capabilities first p sequence h
    have hcolumns : (items.map Item.column) ≠ [] := by simpa using hne
    rw [Wire.resultFrames_of_columns _ _ hcolumns] at h
    -- the number of columns, their names and the end of the result are frames of their own
    have hlength := congrArg List.length h
    rw [Wire.length_frames, Wire.resultPayloads] at hlength
    simp at hlength

/-- **A list of variables is answered item by item.** -/
theorem answer_listQuestion (view : View) (hne : items ≠ []) (h : ∀ item ∈ items, item.IsPlain) (spaced : Bool)
    (limit : Option String) : ∃ r, answer view (listQuestion spaced items limit) = .ok (some r) ∧
      AnswersItems view.database items r := by
  refine ⟨_, ?_, answersItems_ofRows hne view.database⟩
  have hdrop (s : List Char) : ("SELECT ".toList ++ s).drop "SELECT ".length = s := rfl
  rw [answer_of_asksForVariables view (asksForVariables_listQuestion spaced hne limit)]
  unfold listQuestion
  rw [String.toList_ofList, hdrop, selectVariables_list spaced hne h]
  rfl

/-- Names and labels spelled like the words that a list is taken apart at. -/
theorem answer_listQuestion_keywords :
    let items : List Item :=
      [⟨.named (some "session.") "limit", some "from"⟩, ⟨.named none "as", none⟩, ⟨.database, some "WHERE"⟩,
        ⟨.named (some "global.") "session", none⟩, ⟨.named (some "local.") "Port", none⟩]
    listQuestion true items (some "1") =
        "SELECT @@session.limit AS `from`, @@as, DATABASE() AS `WHERE`, @@global.session, @@local.Port LIMIT 1" ∧
      items ≠ [] ∧ (∀ item ∈ items, item.IsPlain) ∧
      ∃ r, answer ⟨some "shop", []⟩ (listQuestion true items (some "1")) = .ok (some r) ∧
        AnswersItems (some "shop") items r := by
  intro items
  have hne : items ≠ [] := by decide
  have hplain : ∀ item ∈ items, item.IsPlain := by decide
  exact ⟨by decide +kernel, hne, hplain, answer_listQuestion ⟨some "shop", []⟩ hne hplain true (some "1")⟩

end Introspection

end WireSql
