import WireSql.Proofs.Sql.Statements

/-!
# `WireSql.Proofs.Sql.Queries`: queries and deletions are read as they were printed

The select list of a query ends at the first `FROM` with a complete tail behind it. That is the statement's
own, since the names in front of it hold no blanks (`rejects_projection`). The condition ends at the first
row limit that ends the statement too, and so not inside a text (`queryTail?_filter`); the condition of a
deletion takes up the rest (`whereTail?_filter`). Whatever stands in the texts of its condition, a query or
a deletion is read as it was printed: `parse_print_select_and_delete`.
-/

namespace WireSql.Sql

open Text Outline

variable {table : TableRef} {p : Projection} {filter : List Condition} {n : Option Nat}

/-! ## Names up to a blank -/

theorem nameThen?_append {lead rest : List Char} (hne : lead ≠ [])
    (hlead : ∀ c ∈ lead, isBlank c = false) (hrest : ∀ c ∈ rest.head?, isBlank c = true) :
    nameThen? (lead ++ rest) = some (lead, rest) := by
  have hspan : (lead ++ rest).span (!isBlank ·) = (lead, rest) :=
    span_append (fun c hc => by rw [hlead c hc, Bool.not_false]) fun c hc => by
      rw [hrest c hc, Bool.not_true]
  obtain ⟨c, lead, rfl⟩ := List.exists_cons_of_ne_nil hne
  rw [nameThen?, hspan]

theorem nameThen?_tableRef (h : IsNamed table) (rest : List Char)
    (hrest : ∀ c ∈ rest.head?, isBlank c = true) :
    nameThen? (Print.tableRef table ++ rest) = some (Print.tableRef table, rest) := by
  obtain ⟨r, hr⟩ := exists_tableRef_eq_cons table
  exact nameThen?_append (by simp [hr]) (isBlank_of_mem_tableRef h) hrest

/-! ## Select lists -/

/-- The columns and the labels of a select list have names, and it is not empty. -/
def IsNamedProjection : Projection → Prop
  | .all => True
  | .items items =>
    items ≠ [] ∧ ∀ item ∈ items, IsName item.column ∧ ∀ label ∈ item.label, IsName label

instance (p : Projection) : Decidable (IsNamedProjection p) :=
  match p with
  | .all => inferInstanceAs (Decidable True)
  | .items items =>
    inferInstanceAs (Decidable
      (items ≠ [] ∧ ∀ item ∈ items, IsName item.column ∧ ∀ label ∈ item.label, IsName label))

variable {item : SelectItem}

theorem exists_selectItem_eq_cons (item : SelectItem) : ∃ r, Print.selectItem item = backtick :: r := by
  obtain ⟨column, label⟩ := item
  cases label with
  | none => exact ⟨_, rfl⟩
  | some label => exact ⟨_, rfl⟩

theorem endsWhole_selectItem (item : SelectItem) : EndsWhole (Print.selectItem item) := by
  obtain ⟨column, label⟩ := item
  cases label with
  | none => exact endsWhole_identifier column
  | some label => exact (endsWhole_identifier label).append _

theorem labelTail?_label {label : String} (h : IsName label) :
    labelTail? (" AS ".toList ++ Print.identifier label) = some (some (Print.identifier label)) := by
  have hblank : (Print.identifier label).any isBlank = false :=
    List.any_eq_false.2 fun c hc => by simp [isBlank_of_mem_identifier h c hc]
  have hname : wholeName? (Print.identifier label) = some (Print.identifier label) := by
    rw [wholeName?, hblank]
    rfl
  have hphrase : afterPhrase? ["AS"] ("AS ".toList ++ Print.identifier label) =
      some (Print.identifier label) := rfl
  have hskip : afterBlanks? (" AS ".toList ++ Print.identifier label) =
      some ("AS ".toList ++ Print.identifier label) := rfl
  rw [labelTail?, hskip]
  · simp only [Option.bind_eq_bind, Option.bind_some, hphrase, hname]
  · exact List.cons_ne_nil _ _

theorem selectItem_cons_blank (s : List Char) : selectItem (' ' :: s) = selectItem s := by
  rw [selectItem, selectItem, trim_cons_of_blank (by decide)]

theorem selectItem_selectItem (hcolumn : IsName item.column) (hlabel : ∀ label ∈ item.label, IsName label) :
    selectItem (Print.selectItem item) = .ok item := by
  have htrim : trim (Print.selectItem item) = Print.selectItem item := by
    have hends := endsWhole_selectItem item
    obtain ⟨r, hr⟩ := exists_selectItem_eq_cons item
    rw [hr] at hends ⊢
    exact hends.trim_cons (by decide)
  have hname (rest : List Char) (hrest : ∀ c ∈ rest.head?, isBlank c = true) :
      nameThen? (Print.identifier item.column ++ rest) = some (Print.identifier item.column, rest) :=
    nameThen?_append (by simp [Print.identifier]) (isBlank_of_mem_identifier hcolumn) hrest
  obtain ⟨column, label⟩ := item
  rw [selectItem, htrim]
  cases label with
  | none =>
    have hnone := hname [] (by simp)
    rw [List.append_nil] at hnone
    simp [Print.selectItem, hnone, labelTail?, identifier_identifier hcolumn]
  | some label =>
    have hsome := hname (" AS ".toList ++ Print.identifier label) (by simp [isBlank])
    have hprint : Print.selectItem ⟨column, some label⟩ =
        Print.identifier column ++ (" AS ".toList ++ Print.identifier label) := List.append_assoc ..
    simp only [hprint, hsome, Option.bind_some, labelTail?_label (hlabel label rfl), Option.map_some,
      identifier_identifier hcolumn, identifier_identifier (hlabel label rfl)]

theorem passes_selectItem (hcolumn : IsName item.column) (hlabel : ∀ label ∈ item.label, IsName label) :
    Passes .comma (.within 0) (Print.selectItem item) (.within 0) := by
  obtain ⟨column, label⟩ := item
  cases label with
  | none => exact passes_name hcolumn
  | some label =>
    exact ((passes_name hcolumn).append (passes_of_forall (by decide))).append
      (passes_name (hlabel label rfl))

/-- **A select list is read as it was printed.** -/
theorem projection_projection (h : IsNamedProjection p) :
    projection (Print.projection p) = .ok p := by
  cases p with
  | all => decide
  | items items =>
    obtain ⟨hne, hitems⟩ := h
    have hread := mapM_splitTopLevel_list selectItem_cons_blank hne
      (fun item hitem => passes_selectItem (hitems item hitem).1 (hitems item hitem).2)
      fun item hitem => selectItem_selectItem (hitems item hitem).1 (hitems item hitem).2
    have hends : EndsWhole (Print.list (items.map Print.selectItem)) :=
      endsWhole_intercalate (by simpa using hne)
        (List.forall_mem_map.2 fun item _ => endsWhole_selectItem item)
    obtain ⟨item, items, rfl⟩ := List.exists_cons_of_ne_nil hne
    obtain ⟨r, hr⟩ := exists_selectItem_eq_cons item
    obtain ⟨t, ht⟩ := exists_list_eq_cons backtick r (items.map Print.selectItem)
    have hcons : Print.list ((item :: items).map Print.selectItem) = backtick :: t := by
      rw [List.map_cons, hr, ht]
    have hstar : ¬(trim (backtick :: t) == ['*']) = true := by
      rw [hcons] at hends
      rw [hends.trim_cons (by decide)]
      simp [backtick]
    rw [Print.projection, projection, hread, hcons, if_neg hstar]
    rfl

theorem rejects_projection (h : IsNamedProjection p) (rest : List Char) :
    Rejects fromTail? (Print.projection p) rest := by
  have hk := seeks_fromTail
  cases p with
  | all => exact rejects_of_isClear 'f' hk rfl rfl
  | items items =>
    refine rejects_intercalate 'f' hk rfl rfl (List.forall_mem_map.2 fun item hitem => ?_) rest
    refine ⟨exists_selectItem_eq_cons item, fun rest => rejects_of_isClear 'f' hk rfl ?_⟩
    obtain ⟨hcolumn, hlabel⟩ := h.2 item hitem
    obtain ⟨column, label⟩ := item
    cases label with
    | none => exact isClear_identifier hcolumn
    | some label =>
      have hclear : isClear 'f' (' ' :: Print.identifier label) = true :=
        isClear_blank_cons (by decide) (by decide) (isClear_identifier (hlabel label rfl))
      have hword : isClear 'f' " AS".toList = true := by decide
      have hprint : Print.selectItem ⟨column, some label⟩ =
          Print.identifier column ++ (" AS".toList ++ ' ' :: Print.identifier label) :=
        List.append_assoc ..
      rw [hprint]
      exact isClear_append (isClear_identifier hcolumn) (isClear_append hword hclear)

/-! ## Conditions and row limits -/

/-- The piece that a printed filter is cut out as. -/
def filterPiece : List Condition → Option (List Char)
  | [] => none
  | items => some (Print.conditions items)

theorem filter_filterPiece (h : ∀ c ∈ filter, IsName c.column ∧ c.value.isDouble = false) :
    Sql.filter (filterPiece filter) = .ok filter := by
  cases filter with
  | nil => rfl
  | cons c filter => exact conditions_conditions (by simp) h

theorem limit_limit (h : ∀ k ∈ n, k < Nat.pow 2 64) : limit (n.map Decimal.digits) = .ok n := by
  cases n with
  | none => rfl
  | some k =>
    rw [Option.map_some, limit, Decimal.unsigned?_digits (h k rfl)]

theorem exists_conditions_eq_cons (c : Condition) (filter : List Condition) :
    ∃ r, Print.conditions (c :: filter) = backtick :: r := by
  obtain ⟨r, hr⟩ : ∃ r, Print.equation c.column c.value = backtick :: r := ⟨_, rfl⟩
  rw [Print.conditions, List.map_cons, hr]
  exact exists_intercalate_eq_cons _ backtick r _

theorem head?_limit (n : Option Nat) : ∀ c ∈ (Print.limit n).head?, isBlank c = true := by
  cases n with
  | none => exact fun c hc => nomatch hc
  | some k =>
    have hcons : Print.limit (some k) = ' ' :: ("LIMIT ".toList ++ Decimal.digits k) := rfl
    rw [hcons]
    simp [isBlank]

theorem head?_filter_append (filter : List Condition) (rest : List Char)
    (hrest : ∀ c ∈ rest.head?, isBlank c = true) :
    ∀ c ∈ (Print.filter filter ++ rest).head?, isBlank c = true := by
  cases filter with
  | nil => exact hrest
  | cons c filter =>
    have hcons : Print.filter (c :: filter) = ' ' :: ("WHERE ".toList ++ Print.conditions (c :: filter)) :=
      rfl
    rw [hcons]
    simp [isBlank]

theorem limitTail?_limit (n : Option Nat) : limitTail? (Print.limit n) = some (n.map Decimal.digits) := by
  cases n with
  | none => rfl
  | some k =>
    have hdigits : ∀ c ∈ Decimal.digits k, isDecimalDigit c = true :=
      fun c hc => isDecimalDigit_of_isDigit (Decimal.isDigit_of_mem_digits hc)
    have hvalid : ((Decimal.digits k).isEmpty || !(Decimal.digits k).all isDecimalDigit) = false := by
      simpa [Decimal.digits_ne_nil] using hdigits
    obtain ⟨c, r, hcr⟩ := List.exists_cons_of_ne_nil (Decimal.digits_ne_nil k)
    have hc : isBlank c = false :=
      isBlank_of_isDigit (Decimal.isDigit_of_mem_digits (hcr ▸ List.mem_cons_self))
    have hskip : skipBlanks (Decimal.digits k) = Decimal.digits k := by
      rw [hcr, skipBlanks_cons_of_not_blank hc]
    have hword : limitTail? (" LIMIT ".toList ++ Decimal.digits k) =
        (if (skipBlanks (Decimal.digits k)).isEmpty ||
            !(skipBlanks (Decimal.digits k)).all isDecimalDigit then none
          else some (skipBlanks (Decimal.digits k))).map some := rfl
    refine hword.trans ?_
    rw [hskip, hvalid]
    rfl

/-- What follows the word `WHERE` is the condition and what stands behind it. -/
theorem afterWhere?_conditions (c : Condition) (filter : List Condition) (rest : List Char) :
    afterWhere? (Print.filter (c :: filter) ++ rest) = some (Print.conditions (c :: filter) ++ rest) := by
  obtain ⟨r, hr⟩ := exists_conditions_eq_cons c filter
  show afterWhere? (" WHERE ".toList ++ Print.conditions (c :: filter) ++ rest) = _
  rw [hr]
  rfl

theorem rejects_conditions (h : ∀ c ∈ filter, IsName c.column ∧ c.value.isDouble = false)
    (rest : List Char) : Rejects limitTail? (Print.conditions filter) rest := by
  refine rejects_intercalate 'l' seeks_limitTail rfl rfl
    (List.forall_mem_map.2 fun c hc => ⟨⟨_, rfl⟩, fun rest => ?_⟩) rest
  exact rejects_equation 'l' seeks_limitTail rfl (by decide) (h c hc).1 (h c hc).2
    fun s _ => rejects_escape_limitTail s.toList rest

/-- **The condition of a query ends where its row limit begins**, at the end of the statement. -/
theorem queryTail?_filter (h : ∀ c ∈ filter, IsName c.column ∧ c.value.isDouble = false) (n : Option Nat) :
    queryTail? (Print.filter filter ++ Print.limit n) = some (filterPiece filter, n.map Decimal.digits) := by
  cases filter with
  | nil =>
    have hwhere : afterWhere? (Print.limit n) = none := by cases n <;> rfl
    show queryTail? (Print.limit n) = _
    rw [queryTail?, hwhere, limitTail?_limit]
    rfl
  | cons c filter =>
    obtain ⟨r, hr⟩ := exists_conditions_eq_cons c filter
    have hfirst : limitTail? (backtick :: (r ++ Print.limit n)) = none := rfl
    have hsearch : shortestNonempty? (fun _ => true) limitTail?
        (Print.conditions (c :: filter) ++ Print.limit n) =
          some (Print.conditions (c :: filter), n.map Decimal.digits) := by
      rw [hr, List.cons_append, shortestNonempty?_of_none hfirst, ← List.cons_append, ← hr,
        shortest?_append (rejects_conditions h _), shortest?_of_some (limitTail?_limit n),
        Option.map_some, List.append_nil]
    rw [queryTail?, afterWhere?_conditions, Option.bind_some, hsearch]
    rfl

/-- The condition of a deletion takes up the rest of the statement. -/
theorem whereTail?_filter (filter : List Condition) :
    whereTail? (Print.filter filter) = some (filterPiece filter) := by
  cases filter with
  | nil => rfl
  | cons c filter =>
    have hwhere := afterWhere?_conditions c filter []
    rw [List.append_nil, List.append_nil] at hwhere
    obtain ⟨r, hr⟩ := exists_conditions_eq_cons c filter
    have htail : whereTail? (Print.filter (c :: filter)) =
        (afterWhere? (Print.filter (c :: filter))).bind fun r => if r.isEmpty then none else some (some r) :=
      rfl
    rw [htail, hwhere, Option.bind_some, hr, List.isEmpty_cons, if_neg Bool.false_ne_true, ← hr]
    rfl

theorem endsWhole_filter (h : ∀ c ∈ filter, IsName c.column ∧ c.value.isDouble = false) :
    Print.filter filter = [] ∨ EndsWhole (Print.filter filter) := by
  cases filter with
  | nil => exact .inl rfl
  | cons c filter =>
    refine .inr (.append _ (endsWhole_intercalate (by simp) ?_))
    exact List.forall_mem_map.2 fun c hc => endsWhole_equation c.column (h c hc).2

theorem endsWhole_limit (n : Option Nat) : Print.limit n = [] ∨ EndsWhole (Print.limit n) := by
  cases n with
  | none => exact .inl rfl
  | some k =>
    refine .inr (.append _ (endsWhole_of_forall (Decimal.digits_ne_nil k) fun c hc => ?_))
    have hdigit := Decimal.isDigit_of_mem_digits hc
    refine ⟨isBlank_of_isDigit hdigit, ?_⟩
    rintro rfl
    exact absurd hdigit (by decide)

/-! ## Queries -/

theorem chars_select (table : TableRef) (p : Projection) (filter : List Condition) (n : Option Nat) :
    (Statement.select table p filter n).chars =
      "SELECT ".toList ++ (Print.projection p ++ (" FROM ".toList ++
        (Print.tableRef table ++ (Print.filter filter ++ Print.limit n)))) := by
  have h : (Statement.select table p filter n).chars =
      "SELECT ".toList ++ Print.projection p ++ " FROM ".toList ++ Print.tableRef table ++
        Print.filter filter ++ Print.limit n := rfl
  rewrite [h]
  simp only [List.append_assoc]

/-- The tail of a query: the name of its table, however that is written, and what follows it. -/
theorem fromTail?_of_name {name tail : List Char} {condition digits : Option (List Char)} (hne : name ≠ [])
    (hname : ∀ c ∈ name, isBlank c = false) (htail : ∀ c ∈ tail.head?, isBlank c = true)
    (hquery : queryTail? tail = some (condition, digits)) :
    fromTail? (" FROM ".toList ++ (name ++ tail)) = some (name, condition, digits) := by
  have hcut := nameThen?_append hne hname htail
  obtain ⟨c, r, rfl⟩ := List.exists_cons_of_ne_nil hne
  have hblanks (s : List Char) : afterBlanks? (" FROM ".toList ++ s) = some ("FROM ".toList ++ s) := rfl
  have hphrase : afterPhrase? ["FROM"] ("FROM ".toList ++ (c :: r ++ tail)) =
      some (skipBlanks (c :: (r ++ tail))) := rfl
  rw [skipBlanks_cons_of_not_blank (hname c List.mem_cons_self), ← List.cons_append] at hphrase
  simp only [fromTail?, hblanks, hphrase, hcut, hquery, Option.bind_eq_bind, Option.bind_some]

/-- The tail of a query: its table, its condition and its row limit. -/
theorem fromTail?_append (htable : IsNamed table)
    (hfilter : ∀ c ∈ filter, IsName c.column ∧ c.value.isDouble = false) (n : Option Nat) :
    fromTail? (" FROM ".toList ++ (Print.tableRef table ++ (Print.filter filter ++ Print.limit n))) =
      some (Print.tableRef table, filterPiece filter, n.map Decimal.digits) := by
  obtain ⟨r, hr⟩ := exists_tableRef_eq_cons table
  exact fromTail?_of_name (by simp [hr]) (isBlank_of_mem_tableRef htable)
    (head?_filter_append filter _ (head?_limit n)) (queryTail?_filter hfilter n)

/-- A query is cut in front of the first `FROM` with a complete tail behind it. -/
theorem select?_of_rejects {lead tail name : List Char} {condition digits : Option (List Char)} {c : Char}
    {r : List Char} (hcr : lead = c :: r) (hblank : isBlank c = false) (hlead : Rejects fromTail? lead tail)
    (htail : fromTail? tail = some (name, condition, digits)) :
    select? ("SELECT ".toList ++ (lead ++ tail)) = some (.select lead name condition digits) := by
  have hfirst : fromTail? (c :: (r ++ tail)) = none := by
    simp only [fromTail?, afterBlanks?, hblank]
    rfl
  have hsearch : shortestNonempty? (fun _ => true) fromTail? (lead ++ tail) =
      some (lead, name, condition, digits) := by
    rw [hcr, List.cons_append, shortestNonempty?_of_none hfirst, ← List.cons_append, ← hcr,
      shortest?_append hlead, shortest?_of_some htail, Option.map_some, List.append_nil]
  have hkeyword (s : List Char) : afterKeyword? "SELECT" ("SELECT ".toList ++ s) = some ([' '] ++ s) := rfl
  have hblanks : longestNonempty? isBlank (shortestNonempty? (fun _ => true) fromTail?)
      ([' '] ++ (lead ++ tail)) = some ([' '], lead, name, condition, digits) :=
    longestNonempty?_append (by decide) (by decide) (by simp [hcr, hblank]) hsearch
  simp only [select?, hkeyword, hblanks, Option.bind_eq_bind, Option.bind_some]

theorem select?_append {tail name : List Char} {condition digits : Option (List Char)}
    (hprojection : IsNamedProjection p) (htail : fromTail? tail = some (name, condition, digits)) :
    select? ("SELECT ".toList ++ (Print.projection p ++ tail)) =
      some (.select (Print.projection p) name condition digits) := by
  obtain ⟨c, r, hcr, hblank⟩ : ∃ c r, Print.projection p = c :: r ∧ isBlank c = false := by
    cases p with
    | all => exact ⟨'*', [], rfl, by decide⟩
    | items items =>
      obtain ⟨item, items, rfl⟩ := List.exists_cons_of_ne_nil hprojection.1
      obtain ⟨r, hr⟩ := exists_selectItem_eq_cons item
      obtain ⟨t, ht⟩ := exists_list_eq_cons backtick r (items.map Print.selectItem)
      exact ⟨backtick, t, by rw [Print.projection, List.map_cons, hr, ht], by decide⟩
  exact select?_of_rejects hcr hblank (rejects_projection hprojection tail) htail

/-- **A query is cut into its select list, its table, its condition and its row limit.** -/
theorem ofChars?_select (htable : IsNamed table) (hprojection : IsNamedProjection p)
    (hfilter : ∀ c ∈ filter, IsName c.column ∧ c.value.isDouble = false) (n : Option Nat) :
    ofChars? (Statement.select table p filter n).chars =
      some (.select (Print.projection p) (Print.tableRef table) (filterPiece filter)
        (n.map Decimal.digits)) := by
  rw [chars_select]
  refine ofChars?_of_rejected
    [createDatabase?, dropDatabase?, use?, createTable?, dropTable?, showTables?, insert?] rfl ?_
    (select?_append hprojection (fromTail?_append htable hfilter n))
  simp only [List.forall_mem_cons]
  exact ⟨rfl, rfl, rfl, rfl, rfl, rfl, rfl, List.forall_mem_nil _⟩

theorem endsWhole_select (hfilter : ∀ c ∈ filter, IsName c.column ∧ c.value.isDouble = false)
    (n : Option Nat) : EndsWhole (Statement.select table p filter n).chars := by
  have htail : EndsWhole (Print.tableRef table ++ (Print.filter filter ++ Print.limit n)) := by
    rw [← List.append_assoc]
    exact ((endsWhole_tableRef table).append_of_eq_nil_or (endsWhole_filter hfilter)).append_of_eq_nil_or
      (endsWhole_limit n)
  rw [chars_select]
  exact .append _ (.append _ (.append _ htail))

/-- A query is read as it was printed. -/
theorem parse_print_select (htable : IsNamed table) (hprojection : IsNamedProjection p)
    (hfilter : ∀ c ∈ filter, IsName c.column ∧ c.value.isDouble = false)
    (hlimit : ∀ k ∈ n, k < Nat.pow 2 64) :
    Statement.parse (Statement.select table p filter n).print = .ok (.select table p filter n) := by
  have hparse := parse_print (chars_select table p filter n) (by decide) (endsWhole_select hfilter n)
    (ofChars?_select htable hprojection hfilter n)
  rw [hparse, Outline.toStatement, limit_limit hlimit, projection_projection hprojection,
    filter_filterPiece hfilter, tableRef_tableRef htable]
  rfl

/-! ## Deletions -/

theorem chars_delete (table : TableRef) (filter : List Condition) :
    (Statement.delete table filter).chars =
      "DELETE FROM ".toList ++ (Print.tableRef table ++ Print.filter filter) := by
  have h : (Statement.delete table filter).chars =
      "DELETE FROM ".toList ++ Print.tableRef table ++ Print.filter filter := rfl
  rewrite [h]
  exact List.append_assoc ..

/-- **A deletion is cut into its table and its condition.** -/
theorem ofChars?_delete (htable : IsNamed table) (filter : List Condition) :
    ofChars? (Statement.delete table filter).chars =
      some (.delete (Print.tableRef table) (filterPiece filter)) := by
  have hhead : ∀ c ∈ (Print.filter filter).head?, isBlank c = true := by
    have h := head?_filter_append filter [] (by simp)
    rwa [List.append_nil] at h
  have hname := nameThen?_tableRef htable _ hhead
  have hwhere := whereTail?_filter filter
  rw [chars_delete]
  generalize Print.filter filter = tail at hname hwhere ⊢
  obtain ⟨r, hr⟩ := exists_tableRef_eq_cons table
  have hphrase : afterPhrase? ["DELETE", "FROM"] ("DELETE FROM ".toList ++ (Print.tableRef table ++ tail)) =
      some (Print.tableRef table ++ tail) := by
    rw [hr]
    rfl
  refine ofChars?_of_rejected
    [createDatabase?, dropDatabase?, use?, createTable?, dropTable?, showTables?, insert?, select?, update?]
    rfl ?_ ?_
  · simp only [List.forall_mem_cons]
    exact ⟨rfl, rfl, rfl, rfl, rfl, rfl, rfl, rfl, rfl, List.forall_mem_nil _⟩
  · simp only [delete?, hphrase, hname, hwhere, Option.bind_eq_bind, Option.bind_some]

/-- A deletion is read as it was printed. -/
theorem parse_print_delete (htable : IsNamed table)
    (hfilter : ∀ c ∈ filter, IsName c.column ∧ c.value.isDouble = false) :
    Statement.parse (Statement.delete table filter).print = .ok (.delete table filter) := by
  have hlast : EndsWhole (Statement.delete table filter).chars := by
    rw [chars_delete]
    exact ((endsWhole_tableRef table).append_of_eq_nil_or (endsWhole_filter hfilter)).append _
  have hparse := parse_print (chars_delete table filter) (by decide) hlast (ofChars?_delete htable filter)
  rw [hparse, Outline.toStatement, filter_filterPiece hfilter, tableRef_tableRef htable]
  rfl

/-- **Queries and deletions are read as they were printed.** The texts of their conditions may hold
anything, their keywords and row limits included. -/
theorem parse_print_select_and_delete (table : TableRef) (p : Projection) (filter : List Condition)
    (n : Option Nat) (htable : IsNamed table) (hprojection : IsNamedProjection p)
    (hfilter : ∀ c ∈ filter, IsName c.column ∧ c.value.isDouble = false)
    (hlimit : ∀ k ∈ n, k < Nat.pow 2 64) :
    Statement.parse (Statement.select table p filter n).print = .ok (.select table p filter n) ∧
      Statement.parse (Statement.delete table filter).print = .ok (.delete table filter) :=
  ⟨parse_print_select htable hprojection hfilter hlimit, parse_print_delete htable hfilter⟩

/-- Texts with a keyword, a row limit and a line break, and columns that are named like keywords. -/
theorem parse_print_select_and_delete_hostile_texts :
    let p : Projection := .items [⟨"from", some "limit"⟩, ⟨"where", none⟩]
    let filter : List Condition :=
      [⟨"and", .text "x' AND \x60b\x60 = 'y\n FROM t WHERE a LIMIT 5"⟩, ⟨"$1", .bool true⟩,
        ⟨"_", .text " LIMIT 7"⟩]
    let select := Statement.select ⟨some "d", "t"⟩ p filter (some 18446744073709551615)
    let delete := Statement.delete ⟨some "d", "t"⟩ filter
    select.print =
        "SELECT \x60from\x60 AS \x60limit\x60, \x60where\x60 FROM \x60d\x60.\x60t\x60 WHERE " ++
          "\x60and\x60 = 'x'' AND \x60b\x60 = ''y\n FROM t WHERE a LIMIT 5' AND \x60$1\x60 = TRUE " ++
          "AND \x60_\x60 = ' LIMIT 7' LIMIT 18446744073709551615" ∧
      Statement.parse select.print = .ok select ∧ Statement.parse delete.print = .ok delete := by
  intro p filter select delete
  exact ⟨by decide +kernel,
    parse_print_select_and_delete ⟨some "d", "t"⟩ p filter (some 18446744073709551615) (by decide)
      (by decide) (by decide) (by decide)⟩

end WireSql.Sql
