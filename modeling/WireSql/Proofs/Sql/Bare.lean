import WireSql.Proofs.Sql.Queries

/-!
# `WireSql.Proofs.Sql.Bare`: names without backticks

A client need not write backticks around a name. An insertion of one text and a query for one column are
read with bare names as they are with printed ones: a bare name holds no blank, no parenthesis and no mark,
so that every cut is made behind it. What the text holds does not matter.
-/

namespace WireSql.Sql

open Text Outline

variable {table column : String}

/-- The text of an insertion of one text into the only column of a table. -/
def bareInsertion (table : String) (text : List Char) : List Char :=
  "INSERT INTO ".toList ++ (table.toList ++ (" VALUES (".toList ++ (Print.quoted text ++ [')'])))

/-- The text of a query for one column of a table. -/
def bareQuery (column table : String) : List Char :=
  "SELECT ".toList ++ (column.toList ++ (" FROM ".toList ++ table.toList))

/-! ## Bare names -/

theorem toList_ne_nil (h : IsName table) : table.toList ≠ [] :=
  fun hnil => h.1 (String.toList_eq_nil_iff.1 hnil)

/-- What is kept from the characters of names is kept from a bare name. -/
theorem not_mem_name {c : Char} (hc : inColumnName c = false) (h : IsName table) : c ∉ table.toList :=
  fun hmem => ne_of_inColumnName hc (h.2 c hmem) rfl

theorem trim_name (h : IsName table) : trim table.toList = table.toList :=
  trim_of_forall fun c hc => isBlank_of_inColumnName (h.2 c hc)

theorem endsWhole_name (h : IsName table) : EndsWhole table.toList :=
  endsWhole_of_forall (toList_ne_nil h) fun c hc =>
    ⟨isBlank_of_inColumnName (h.2 c hc), ne_of_inColumnName (by decide) (h.2 c hc)⟩

theorem identifier_bare (h : IsName table) : identifier table.toList = table := by
  have hmarks : ∀ c ∈ table.toList, (c == backtick) = false := fun c hc =>
    beq_false_of_ne (ne_of_inColumnName (by decide) (h.2 c hc))
  rw [identifier, trim_name h, dropAroundWhile_of_forall hmarks, String.ofList_toList]

theorem tableRef_bare (h : IsName table) : tableRef table.toList = ⟨none, table⟩ := by
  rw [tableRef, splitAtFirst?_eq_none (not_mem_name (by decide) h), identifier_bare h]

/-! ## Insertions -/

theorem endsWhole_bareInsertion (table : String) (text : List Char) : EndsWhole (bareInsertion table text) :=
  .append _ (.append _ (.append _ (.append _ ⟨[], ')', rfl, by decide, by decide⟩)))

theorem statementText_bareInsertion (table : String) (text : List Char) :
    statementText (bareInsertion table text) = bareInsertion table text :=
  statementText_eq_self (by decide) (endsWhole_bareInsertion table text)

theorem list_row_text (text : List Char) :
    Print.list ([[Value.text (String.ofList text)]].map Print.row) = '(' :: (Print.quoted text ++ [')']) := by
  simp [Print.list, Print.row, Print.parenthesised, Print.value, List.intercalate]

/-- **An insertion with a bare name is read as it stands there**, whatever its text holds. -/
theorem parse_bareInsertion (h : IsName table) (text : List Char) :
    Statement.parse (String.ofList (bareInsertion table text)) =
      .ok (.insert ⟨none, table⟩ none [[.text (String.ofList text)]]) := by
  have hname : ∀ c ∈ table.toList, inTableName c = true := by
    intro c hc
    simp [inTableName, isBlank_of_inColumnName (h.2 c hc),
      ne_of_inColumnName (d := '(') (by decide) (h.2 c hc)]
  have hhead : ∀ c ∈ (" VALUES (".toList ++ (Print.quoted text ++ [')'])).head?, inTableName c = false := by
    intro c hc
    obtain rfl : ' ' = c := Option.some.inj hc
    rfl
  have htail : insertTail? (" VALUES (".toList ++ (Print.quoted text ++ [')'])) =
      some (none, '(' :: (Print.quoted text ++ [')'])) := rfl
  have houtline : ofChars? (bareInsertion table text) =
      some (.insert table.toList none ('(' :: (Print.quoted text ++ [')']))) := by
    refine ofChars?_of_rejected
      [createDatabase?, dropDatabase?, use?, createTable?, dropTable?, showTables?] rfl ?_
      (insert?_append (toList_ne_nil h) hname hhead htail)
    -- each of them asks for another first word
    simp only [List.forall_mem_cons]
    exact ⟨rfl, rfl, rfl, rfl, rfl, rfl, List.forall_mem_nil _⟩
  have hrows : rows (Print.list ([[Value.text (String.ofList text)]].map Print.row)) =
      .ok [[.text (String.ofList text)]] := rows_list (List.cons_ne_nil _ _) (by simp [Value.isDouble])
  rw [list_row_text] at hrows
  rw [Statement.parse, String.toList_ofList, statementText_bareInsertion, houtline]
  simp only [Outline.toStatement, tableRef_bare h, hrows]
  rfl

/-! ## Queries -/

theorem endsWhole_bareQuery (htable : IsName table) : EndsWhole (bareQuery column table) :=
  .append _ (.append _ (.append _ (endsWhole_name htable)))

theorem statementText_bareQuery (htable : IsName table) :
    statementText (bareQuery column table) = bareQuery column table :=
  statementText_eq_self (by decide) (endsWhole_bareQuery htable)

/-- A bare name in a select list is the column of that name. -/
theorem projection_bare (h : IsName column) :
    projection column.toList = .ok (.items [⟨column, none⟩]) := by
  have hstar : ¬(trim column.toList == ['*']) = true := by
    rw [trim_name h, beq_iff_eq]
    intro hstar
    have hmem : '*' ∈ column.toList := by rw [hstar]; exact List.mem_singleton_self _
    exact not_mem_name (by decide) h hmem
  have hpasses : Passes .comma (.within 0) column.toList (.within 0) := by
    refine passes_of_forall fun c hc => ?_
    have hname : inColumnName c = true := h.2 c hc
    exact forall_ascii
      (p := fun c => inColumnName c = true →
        Separator.comma.mayBegin c = false ∧ isQuote c = false ∧ c ≠ '(' ∧ c ≠ ')')
      (by decide) (toNat_lt_of_inColumnName hname) hname
  have hname : nameThen? (column.toList ++ []) = some (column.toList, []) :=
    nameThen?_append (toList_ne_nil h) (fun c hc => isBlank_of_inColumnName (h.2 c hc)) (by simp)
  rw [List.append_nil] at hname
  have hitem : selectItem column.toList = .ok ⟨column, none⟩ := by
    simp [selectItem, trim_name h, hname, labelTail?, identifier_bare h]
  rw [projection, if_neg hstar, splitTopLevel_of_passes hpasses, List.mapM_cons, hitem]
  rfl

/-- **A query with bare names is read as it stands there.** -/
theorem parse_bareQuery (htable : IsName table) (hcolumn : IsName column) :
    Statement.parse (String.ofList (bareQuery column table)) =
      .ok (.select ⟨none, table⟩ (.items [⟨column, none⟩]) [] none) := by
  have hblank : ∀ c ∈ column.toList, isBlank c = false := fun c hc =>
    isBlank_of_inColumnName (hcolumn.2 c hc)
  have htail : fromTail? (" FROM ".toList ++ (table.toList ++ [])) = some (table.toList, none, none) :=
    fromTail?_of_name (toList_ne_nil htable) (fun c hc => isBlank_of_inColumnName (htable.2 c hc))
      (by simp) rfl
  rw [List.append_nil] at htail
  obtain ⟨c, r, hcr⟩ := List.exists_cons_of_ne_nil (toList_ne_nil hcolumn)
  have hlead : Rejects fromTail? column.toList (" FROM ".toList ++ table.toList) :=
    rejects_of_isClear 'f' seeks_fromTail rfl (isClear_of_forall hblank)
  have houtline : ofChars? (bareQuery column table) =
      some (.select column.toList table.toList none none) := by
    refine ofChars?_of_rejected
      [createDatabase?, dropDatabase?, use?, createTable?, dropTable?, showTables?, insert?] rfl ?_
      (select?_of_rejects hcr (hblank c (hcr ▸ List.mem_cons_self)) hlead htail)
    simp only [List.forall_mem_cons]
    exact ⟨rfl, rfl, rfl, rfl, rfl, rfl, rfl, List.forall_mem_nil _⟩
  rw [Statement.parse, String.toList_ofList, statementText_bareQuery htable, houtline]
  simp only [Outline.toStatement, tableRef_bare htable, projection_bare hcolumn, limit, filter]
  rfl

end WireSql.Sql
