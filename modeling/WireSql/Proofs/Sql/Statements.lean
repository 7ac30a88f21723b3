import WireSql.Proofs.Sql.Items
import WireSql.Proofs.Sql.Keywords

/-!
# `WireSql.Proofs.Sql.Statements`: printed statements, and insertions

A printed statement begins with a letter and `EndsWhole`, so that nothing is trimmed from its text. It is
read from the pieces that the recogniser of its kind finds, as those before it do not know its first words
(`parse_print`, `ofChars?_of_rejected`).

An insertion is cut behind the name of its table and behind its column list, whatever its texts hold, and
is read as it was printed (`parse_print_insert`).
-/

namespace WireSql.Sql

open Text Outline

/-! ## The text of a statement -/

/-- The text ends with a character that is neither a blank nor a semicolon. -/
def EndsWhole (s : List Char) : Prop := ∃ lead c, s = lead ++ [c] ∧ isBlank c = false ∧ c ≠ ';'

variable {s t : List Char}

theorem EndsWhole.append (s : List Char) (h : EndsWhole t) : EndsWhole (s ++ t) := by
  obtain ⟨lead, c, rfl, hblank, hsemicolon⟩ := h
  exact ⟨s ++ lead, c, by rw [List.append_assoc], hblank, hsemicolon⟩

/-- Nothing, or a text that ends whole, may follow. -/
theorem EndsWhole.append_of_eq_nil_or (hs : EndsWhole s) (ht : t = [] ∨ EndsWhole t) :
    EndsWhole (s ++ t) := by
  rcases ht with rfl | ht
  · rwa [List.append_nil]
  · exact ht.append s

theorem endsWhole_of_forall (hne : s ≠ []) (h : ∀ c ∈ s, isBlank c = false ∧ c ≠ ';') : EndsWhole s :=
  ⟨s.dropLast, s.getLast hne, (List.dropLast_append_getLast hne).symm, h _ (List.getLast_mem hne)⟩

/-- Nothing is trimmed from a text that ends whole and does not begin with a blank. -/
theorem EndsWhole.trim_cons {c : Char} (hc : isBlank c = false) (h : EndsWhole (c :: s)) :
    trim (c :: s) = c :: s := by
  obtain ⟨lead, d, hd, hblank, -⟩ := h
  refine trim_eq_self (by simpa using hc) ?_
  rw [hd]
  simpa using hblank

/-- Nor are semicolons taken from its end. -/
theorem statementText_eq_self {c : Char} (hc : isBlank c = false) (h : EndsWhole (c :: s)) :
    statementText (c :: s) = c :: s := by
  have htrim := h.trim_cons hc
  obtain ⟨lead, d, hd, hblank, hsemicolon⟩ := h
  rw [statementText, htrim, hd, dropEndWhile_concat (by simpa using hsemicolon), trimEnd,
    dropEndWhile_concat hblank]

/-- A recogniser is asked if those before it do not know the statement. -/
theorem ofChars?_of_rejected (before : List (List Char → Option Outline))
    {after : List (List Char → Option Outline)} {recognise : List Char → Option Outline} {o : Outline}
    (hsplit : recognisers = before ++ recognise :: after) (hbefore : ∀ f ∈ before, f s = none)
    (h : recognise s = some o) : ofChars? s = some o := by
  rw [ofChars?, hsplit, List.findSome?_append, List.findSome?_eq_none_iff.2 hbefore, Option.none_or,
    List.findSome?_cons, h]

/-- A statement is read from the pieces that its text is cut into. -/
theorem parse_print {statement : Statement} {o : Outline} {c : Char}
    (hchars : statement.chars = c :: s) (hc : isBlank c = false) (hlast : EndsWhole statement.chars)
    (ho : ofChars? statement.chars = some o) : Statement.parse statement.print = o.toStatement := by
  have htext : statementText statement.chars = statement.chars := by
    rw [hchars] at hlast ⊢
    exact statementText_eq_self hc hlast
  rw [Statement.parse, Statement.print, String.toList_ofList, htext, ho]

theorem endsWhole_parenthesised (s : List Char) : EndsWhole (Print.parenthesised s) :=
  ⟨'(' :: s, ')', rfl, by decide, by decide⟩

theorem endsWhole_identifier (name : String) : EndsWhole (Print.identifier name) :=
  ⟨backtick :: name.toList, backtick, rfl, by decide, by decide⟩

theorem endsWhole_tableRef (table : TableRef) : EndsWhole (Print.tableRef table) := by
  obtain ⟨database, name⟩ := table
  cases database with
  | none => exact endsWhole_identifier name
  | some database =>
    exact .append (Print.identifier database) (.append ['.'] (endsWhole_identifier name))

/-- A list ends as its last item does. -/
theorem endsWhole_intercalate {separator : List Char} {items : List (List Char)} (hne : items ≠ [])
    (h : ∀ p ∈ items, EndsWhole p) : EndsWhole (List.intercalate separator items) := by
  induction items with
  | nil => exact absurd rfl hne
  | cons p items ih =>
    rw [List.forall_mem_cons] at h
    cases items with
    | nil =>
      rw [List.intercalate_singleton]
      exact h.1
    | cons q items =>
      rw [List.intercalate_cons_cons]
      exact (ih (by simp) h.2).append _

theorem endsWhole_value {v : Value} (h : v.isDouble = false) : EndsWhole (Print.value v) := by
  cases v with
  | null => exact endsWhole_of_forall (by decide) (by decide)
  | bool b => cases b <;> exact endsWhole_of_forall (by decide) (by decide)
  | int i =>
    obtain ⟨c, r, hcr, -⟩ := exists_value_eq_cons h
    refine endsWhole_of_forall (by simp [hcr]) fun c hc => ?_
    have hnumber := isDigit_of_mem_repr hc
    refine ⟨isBlank_of_beginsLiteral (beginsLiteral_of_number hnumber), ?_⟩
    rintro rfl
    exact absurd hnumber (by decide)
  | double x => cases h
  | text s => exact ⟨apostrophe :: Print.escape s.toList, apostrophe, rfl, by decide, by decide⟩

theorem endsWhole_equation {v : Value} (column : String) (h : v.isDouble = false) :
    EndsWhole (Print.equation column v) := (endsWhole_value h).append _

/-! ## Table names and lists -/

theorem exists_tableRef_eq_cons (table : TableRef) : ∃ r, Print.tableRef table = backtick :: r := by
  obtain ⟨database, name⟩ := table
  cases database with
  | none => exact ⟨_, rfl⟩
  | some database => exact ⟨_, rfl⟩

theorem inTableName_of_mem {table : TableRef} (h : IsNamed table) :
    ∀ c ∈ Print.tableRef table, inTableName c = true := by
  refine forall_mem_tableRef h (by decide) (by decide) fun c hc => ?_
  simp [inTableName, isBlank_of_inColumnName hc, ne_of_inColumnName (d := '(') (by decide) hc]

theorem exists_list_eq_cons (c : Char) (r : List Char) (items : List (List Char)) :
    ∃ t, Print.list ((c :: r) :: items) = c :: t := exists_intercalate_eq_cons _ c r items

theorem forall_mem_list {p : Char → Prop} {items : List (List Char)} (hcomma : p ',') (hblank : p ' ')
    (h : ∀ item ∈ items, ∀ c ∈ item, p c) : ∀ c ∈ Print.list items, p c :=
  intercalate_closed (P := fun s => ∀ c ∈ s, p c) (List.forall_mem_nil _)
    (fun _ _ hs ht => List.forall_mem_append.2 ⟨hs, ht⟩) (by simp [hcomma, hblank]) h

/-! ## Insertions -/

/-- The column list of a printed insertion, with the blank in front of it. -/
def columnList : Option (List String) → List Char
  | some names => ' ' :: Print.names names
  | none => []

/-- The piece that a column list is cut out as. -/
def columnPiece (columns : Option (List String)) : Option (List Char) :=
  columns.map fun names => Print.list (names.map Print.identifier)

variable {table : TableRef} {columns : Option (List String)} {rows : List (List Value)}

/-- What follows the name of the table is the column list, where there is one, and the rows. -/
theorem insertTail?_append (hcolumns : ∀ names ∈ columns, ∀ name ∈ names, IsName name) (r : List Char) :
    insertTail? (columnList columns ++ (" VALUES ".toList ++ '(' :: r)) =
      some (columnPiece columns, '(' :: r) := by
  cases columns with
  | none => rfl
  | some names =>
    have hnames : ∀ c ∈ Print.list (names.map Print.identifier), c ≠ ')' := by
      refine forall_mem_list (by decide) (by decide) ?_
      rw [List.forall_mem_map]
      intro name hname
      exact forall_mem_identifier (hcolumns names rfl name hname) (by decide) fun _ =>
        ne_of_inColumnName rfl
    have hsplit := splitAtFirst?_append (fun hmem => hnames ')' hmem rfl) (" VALUES ".toList ++ '(' :: r)
    have htext : columnList (some names) ++ (" VALUES ".toList ++ '(' :: r) =
        ' ' :: '(' :: (Print.list (names.map Print.identifier) ++ ')' :: (" VALUES ".toList ++ '(' :: r)) := by
      simp [columnList, Print.names, Print.parenthesised]
    have hcolumns : columnsThenValues?
        ('(' :: (Print.list (names.map Print.identifier) ++ ')' :: (" VALUES ".toList ++ '(' :: r))) =
          some (columnPiece (some names), '(' :: r) := by
      rw [columnsThenValues?, hsplit]
      rfl
    have hskip (s : List Char) : skipBlanks (' ' :: '(' :: s) = '(' :: s := rfl
    rw [htext, insertTail?, hskip, hcolumns]

/-- An insertion is cut behind the name of its table, however that is written. -/
theorem insert?_append {name tail values : List Char} {piece : Option (List Char)} (hne : name ≠ [])
    (hname : ∀ c ∈ name, inTableName c = true) (hhead : ∀ c ∈ tail.head?, inTableName c = false)
    (htail : insertTail? tail = some (piece, values)) :
    insert? ("INSERT INTO ".toList ++ (name ++ tail)) = some (.insert name piece values) := by
  obtain ⟨c, r, rfl⟩ := List.exists_cons_of_ne_nil hne
  have hblank : isBlank c = false := by
    have hc : (!isBlank c && c != '(') = true := hname c List.mem_cons_self
    rw [Bool.and_eq_true, Bool.not_eq_true'] at hc
    exact hc.1
  have hskip : afterPhrase? ["INSERT", "INTO"] ("INSERT INTO ".toList ++ (c :: r ++ tail)) =
      some (skipBlanks (c :: (r ++ tail))) := rfl
  have hsearch := longestNonempty?_append hne hname hhead htail
  rw [skipBlanks_cons_of_not_blank hblank, ← List.cons_append] at hskip
  simp only [insert?, hskip, hsearch, Option.bind_eq_bind, Option.bind_some]

theorem chars_insert (table : TableRef) (columns : Option (List String)) (rows : List (List Value)) :
    (Statement.insert table columns rows).chars =
      "INSERT INTO ".toList ++ (Print.tableRef table ++
        (columnList columns ++ (" VALUES ".toList ++ Print.list (rows.map Print.row)))) := by
  have h : (Statement.insert table columns rows).chars =
      "INSERT INTO ".toList ++ Print.tableRef table ++ columnList columns ++ " VALUES ".toList ++
        Print.list (rows.map Print.row) := by
    cases columns with
    | none => rfl
    | some names => rfl
  -- `rw` would try to compare the two texts character by character
  rewrite [h]
  simp only [List.append_assoc]

/-- **An insertion is cut into the name of its table, its column list and its rows.** -/
theorem ofChars?_insert (htable : IsNamed table)
    (hcolumns : ∀ names ∈ columns, ∀ name ∈ names, IsName name) (hrows : rows ≠ []) :
    ofChars? (Statement.insert table columns rows).chars =
      some (.insert (Print.tableRef table) (columnPiece columns) (Print.list (rows.map Print.row))) := by
  obtain ⟨row, rows, rfl⟩ := List.exists_cons_of_ne_nil hrows
  obtain ⟨r, hr⟩ : ∃ r, Print.list ((row :: rows).map Print.row) = '(' :: r :=
    exists_list_eq_cons '(' _ _
  have hhead : ∀ c ∈ (columnList columns ++ (" VALUES ".toList ++ '(' :: r)).head?, inTableName c = false := by
    intro c hc
    obtain rfl : c = ' ' := by cases columns <;> exact (Option.some.inj hc).symm
    rfl
  obtain ⟨t, ht⟩ := exists_tableRef_eq_cons table
  have hne : Print.tableRef table ≠ [] := by simp [ht]
  rw [chars_insert, hr]
  refine ofChars?_of_rejected
    [createDatabase?, dropDatabase?, use?, createTable?, dropTable?, showTables?] rfl ?_
    (insert?_append hne (inTableName_of_mem htable) hhead (insertTail?_append hcolumns r))
  -- each of them asks for another first word
  simp only [List.forall_mem_cons]
  exact ⟨rfl, rfl, rfl, rfl, rfl, rfl, List.forall_mem_nil _⟩

theorem endsWhole_insert (table : TableRef) (columns : Option (List String)) (hrows : rows ≠ []) :
    EndsWhole (Statement.insert table columns rows).chars := by
  have hlast : EndsWhole (Print.list (rows.map Print.row)) :=
    endsWhole_intercalate (by simpa using hrows)
      (List.forall_mem_map.2 fun values _ => endsWhole_parenthesised _)
  rw [chars_insert]
  exact .append _ (.append _ (.append _ (.append _ hlast)))

/-- A column list is read as it was printed. -/
theorem map_columnPiece (h : ∀ names ∈ columns, names ≠ [] ∧ ∀ name ∈ names, IsName name) :
    ((columnPiece columns).map fun s => (splitTopLevel .comma s).map identifier) = columns := by
  cases columns with
  | none => rfl
  | some names =>
    obtain ⟨hne, hnamed⟩ := h names rfl
    rw [columnPiece, Option.map_some, Option.map_some, map_identifier_splitTopLevel hne hnamed]

/-- **An insertion is read as it was printed.** Its texts may hold anything: commas and parentheses,
marks and backslashes, semicolons, the word `VALUES`. -/
theorem parse_print_insert (table : TableRef) (columns : Option (List String)) (rows : List (List Value))
    (htable : IsNamed table) (hcolumns : ∀ names ∈ columns, names ≠ [] ∧ ∀ name ∈ names, IsName name)
    (hrows : rows ≠ []) (hvalues : ∀ values ∈ rows, values ≠ [] ∧ ∀ v ∈ values, v.isDouble = false) :
    Statement.parse (Statement.insert table columns rows).print = .ok (.insert table columns rows) := by
  have houtline := ofChars?_insert htable (fun names hnames => (hcolumns names hnames).2) hrows
  have hparse := parse_print (chars_insert table columns rows) (by decide)
    (endsWhole_insert table columns hrows) houtline
  rw [hparse, Outline.toStatement, map_columnPiece hcolumns, tableRef_tableRef htable,
    rows_list hrows hvalues]
  rfl

/-- The keyword, a separator, parentheses and escapes in the texts of two rows. -/
theorem parse_print_insert_hostile_texts :
    let rows : List (List Value) :=
      [[.text "a', 'b') VALUES ('c;", .int (-9223372036854775808)], [.text "\\\n,\x22(", .null],
        [.bool false, .text ""]]
    (Statement.insert ⟨some "d$", "values"⟩ (some ["key", "select"]) rows).print =
        "INSERT INTO \x60d$\x60.\x60values\x60 (\x60key\x60, \x60select\x60) VALUES " ++
          "('a'', ''b'') VALUES (''c;', -9223372036854775808), " ++
          "('\\\\\n,\x22(', NULL), (FALSE, '')" ∧
      Statement.parse (Statement.insert ⟨some "d$", "values"⟩ (some ["key", "select"]) rows).print =
        .ok (.insert ⟨some "d$", "values"⟩ (some ["key", "select"]) rows) := by
  intro rows
  exact ⟨by decide +kernel,
    parse_print_insert _ _ rows (by decide) (by decide) (by decide) (by decide)⟩

end WireSql.Sql
