import WireSql.Proofs.Sql.Queries

/-!
# `WireSql.Proofs.Sql.Creation`: table declarations are read as they were printed

Every type is read from its spelling (`ColumnType.ofText?_name`). An element of a table's body that begins
with a backtick is neither a key nor an index or a constraint, whatever the name behind the mark is, so
that a declared column is always read as one (`tableElement_columnDef`), and the key, where there is one,
as the key (`tableElement_key`). Together they are the body (`tableBody_tableBody`), which stands between
the first parenthesis behind the table's name and the last one of the statement: `parse_print_createTable`.
-/

namespace WireSql

open Text Sql

/-! ## The spelling of types -/

namespace ColumnType

theorem toList_name_varChar (limit : UInt32) :
    (varChar limit).name.toList = "VARCHAR".toList ++ Print.parenthesised (Decimal.digits limit.toNat) := by
  have h : (varChar limit).name = "VARCHAR(" ++ Nat.repr limit.toNat ++ ")" := rfl
  rw [h, String.toList_append, String.toList_append, Nat.toList_repr]
  simp [Print.parenthesised, Decimal.digits]

theorem length?_digits {n : Nat} (h : n < Nat.pow 2 32) : length? (Decimal.digits n ++ [')']) = some n := by
  have hdigits : ∀ c ∈ Decimal.digits n, isBlank c = false := by
    intro c hc
    exact isBlank_of_isDigit (Decimal.isDigit_of_mem_digits hc)
  rw [length?, trimEnd, dropEndWhile_concat (by decide), List.reverse_concat]
  simp only [List.reverse_reverse]
  rw [trim_of_forall hdigits, Decimal.unsigned?_digits h]

/-- **A type is read from its spelling.** -/
theorem ofText?_name (t : ColumnType) : ofText? t.name = some t := by
  cases t with
  | varChar limit =>
    have htrim : trim ("VARCHAR".toList ++ Print.parenthesised (Decimal.digits limit.toNat)) =
        "VARCHAR".toList ++ Print.parenthesised (Decimal.digits limit.toNat) :=
      trim_between (a := 'V') (b := ')') (by decide) (by decide)
        ("ARCHAR(".toList ++ Decimal.digits limit.toNat)
    have hsplit : splitAtFirst? '(' ("VARCHAR".toList ++ Print.parenthesised (Decimal.digits limit.toNat)) =
        some ("VARCHAR".toList, Decimal.digits limit.toNat ++ [')']) :=
      splitAtFirst?_append (by decide) _
    have hname : named? "VARCHAR" (some limit.toNat) = some (varChar (UInt32.ofNat limit.toNat)) := rfl
    rw [ofText?, toList_name_varChar, ofChars?, htrim, hsplit]
    dsimp only
    rw [length?_digits limit.toNat_lt, Option.bind_some]
    exact hname.trans (by rw [UInt32.ofNat_toNat])
  | _ => rfl

/-- The spelling of a type: capital letters, and a length behind them where it has one. -/
theorem exists_name_eq_append (t : ColumnType) :
    ∃ letters length, t.name.toList = letters ++ length ∧ letters ≠ [] ∧
      (∀ c ∈ letters, c.isUpper = true) ∧
        (length = [] ∨ ∃ n, length = Print.parenthesised (Decimal.digits n)) := by
  cases t with
  | varChar limit => exact ⟨_, _, toList_name_varChar limit, by decide, by decide, .inr ⟨_, rfl⟩⟩
  | _ => exact ⟨_, [], (List.append_nil _).symm, by decide, by decide, .inl rfl⟩

end ColumnType

namespace Sql

open Outline

variable {table : TableRef} {c : ColumnDef} {separator : Separator}

/-- Capital letters separate nothing, open and close nothing and are no blanks. -/
theorem plain_of_isUpper {d : Char} (h : d.isUpper = true) :
    isLatinLetter d = true ∧ isBlank d = false ∧ d ≠ ';' ∧ Separator.comma.mayBegin d = false ∧
      isQuote d = false ∧ d ≠ '(' ∧ d ≠ ')' := by
  exact forall_ascii
    (p := fun d => d.isUpper = true →
      isLatinLetter d = true ∧ isBlank d = false ∧ d ≠ ';' ∧ Separator.comma.mayBegin d = false ∧
        isQuote d = false ∧ d ≠ '(' ∧ d ≠ ')')
    (by decide) (toNat_lt_of_isUpper h) h

/-! ## Columns -/

/-- The scan passes a declaration: the parentheses around a length are closed in it. -/
theorem passes_columnDef (h : IsName c.name) :
    Passes .comma (.within 0) (Print.columnDef c) (.within 0) := by
  obtain ⟨letters, length, htype, -, hletters, hlength⟩ := c.type.exists_name_eq_append
  have hblank : Passes .comma (.within 0) [' '] (.within 0) := passes_of_forall (by decide)
  have hword : Passes .comma (.within 0) letters (.within 0) :=
    passes_of_forall fun d hd => (plain_of_isUpper (hletters d hd)).2.2.2
  have htail : Passes .comma (.within 0) length (.within 0) := by
    rcases hlength with rfl | ⟨n, rfl⟩
    · exact .nil _
    · refine passes_parenthesised (passes_of_forall fun d hd => ?_)
      have hnumber : (d == '-' || d.isDigit) = true := by
        rw [Decimal.isDigit_of_mem_digits hd, Bool.or_true]
      obtain ⟨-, hquote, hopen, hclose, hcomma, -⟩ := plain_of_number hnumber
      exact ⟨hcomma, hquote, hopen, hclose⟩
  rw [Print.columnDef, htype]
  exact (passes_name h).append (hblank.append (hword.append htail))

theorem endsWhole_columnDef (c : ColumnDef) : EndsWhole (Print.columnDef c) := by
  obtain ⟨letters, length, htype, hne, hletters, hlength⟩ := c.type.exists_name_eq_append
  have hword : EndsWhole letters :=
    endsWhole_of_forall hne fun d hd =>
      ⟨(plain_of_isUpper (hletters d hd)).2.1, (plain_of_isUpper (hletters d hd)).2.2.1⟩
  have htail : length = [] ∨ EndsWhole length := by
    rcases hlength with rfl | ⟨n, rfl⟩
    · exact .inl rfl
    · exact .inr (endsWhole_parenthesised _)
  rw [Print.columnDef, htype]
  exact .append _ (.append [' '] (hword.append_of_eq_nil_or htail))

/-- **A declaration is its name and its type**, length included; nothing is left of it. -/
theorem columnParts?_columnDef (h : IsName c.name) :
    columnParts? (Print.columnDef c) = some (Print.identifier c.name, c.type.name.toList, []) := by
  obtain ⟨letters, length, htype, hne, hletters, hlength⟩ := c.type.exists_name_eq_append
  have hname : nameThen? (Print.columnDef c) =
      some (Print.identifier c.name, ' ' :: c.type.name.toList) :=
    nameThen?_append (by simp [Print.identifier]) (isBlank_of_mem_identifier h) (by simp [isBlank])
  have hskip : skipBlanks (letters ++ length) = letters ++ length := by
    obtain ⟨d, letters, rfl⟩ := List.exists_cons_of_ne_nil hne
    exact skipBlanks_cons_of_not_blank (plain_of_isUpper (hletters d List.mem_cons_self)).2.1
  have hblanks : afterBlanks? (' ' :: (letters ++ length)) = some (letters ++ length) := by
    rw [afterBlanks?, if_pos (by decide), hskip]
  have hspan : (letters ++ length).span isLatinLetter = (letters, length) := by
    refine span_append (fun d hd => (plain_of_isUpper (hletters d hd)).1) fun d hd => ?_
    rcases hlength with rfl | ⟨n, rfl⟩
    · cases hd
    · obtain rfl : '(' = d := Option.some.inj hd
      decide
  simp only [columnParts?, hname, htype, hblanks, hspan, Option.bind_eq_bind, Option.bind_some]
  rw [if_neg (by simpa using hne)]
  rcases hlength with rfl | ⟨n, rfl⟩
  · have hnone : lengthThen? [] = none := rfl
    rw [hnone, List.append_nil]
  · have hclose : ')' ∉ Decimal.digits n := fun hmem =>
      absurd (Decimal.isDigit_of_mem_digits hmem) (by decide)
    have hsome : lengthThen? (Print.parenthesised (Decimal.digits n)) =
        some (Print.parenthesised (Decimal.digits n), []) := by
      have hsplit := splitAtFirst?_append hclose []
      have h : lengthThen? (Print.parenthesised (Decimal.digits n)) =
          (splitAtFirst? ')' (Decimal.digits n ++ [')'])).map fun m => ([] ++ '(' :: m.1 ++ [')'], m.2) := rfl
      rw [h, hsplit]
      rfl
    rw [hsome]

theorem tableElement_cons_blank (s : List Char) : tableElement (' ' :: s) = tableElement s := by
  rw [tableElement, tableElement, trim_cons_of_blank (by decide)]

/-- **A declared column is read as one**, also where its name is a keyword of table bodies. -/
theorem tableElement_columnDef (h : IsName c.name) :
    tableElement (Print.columnDef c) = .ok ⟨[c], []⟩ := by
  obtain ⟨r, hr⟩ : ∃ r, Print.columnDef c = backtick :: r := ⟨_, rfl⟩
  have hparts := columnParts?_columnDef h
  have hends := endsWhole_columnDef c
  have htype : ColumnType.ofChars? c.type.name.toList = some c.type := c.type.ofText?_name
  rw [hr] at hparts hends ⊢
  -- no keyword of a table's body begins with a backtick
  have hkey : keyElement? (backtick :: r) = none := rfl
  have hignored : isIgnoredElement (backtick :: r) = false := rfl
  have hdeclares : declaresKey [] = false := rfl
  rw [tableElement, hends.trim_cons (by decide)]
  simp only [List.isEmpty_cons, hkey, hignored, columnElement, hparts, htype, hdeclares,
    identifier_identifier h, Bool.false_eq_true, if_false]

/-! ## Keys -/

variable {names : List String}

theorem passes_key (h : ∀ name ∈ names, IsName name) :
    ∀ p ∈ Print.key names, Passes .comma (.within 0) p (.within 0) := by
  intro p hp
  cases names with
  | nil => cases hp
  | cons name names =>
    obtain rfl := List.mem_singleton.1 hp
    have hlist : ∀ p ∈ (name :: names).map Print.identifier,
        Passes .comma (.within 1) p (.within 1) :=
      List.forall_mem_map.2 fun name hname => passes_name (h name hname)
    exact (passes_of_forall (by decide)).append (passes_parenthesised (passes_list hlist))

/-- **A key is read as the key**, and as nothing where there is none. -/
theorem mapM_tableElement_key (h : ∀ name ∈ names, IsName name) :
    ∃ elements, (Print.key names).mapM tableElement = .ok elements ∧
      elements.flatMap (·.columns) = [] ∧ elements.flatMap (·.primaryKey) = names := by
  cases names with
  | nil => exact ⟨[], rfl, rfl, rfl⟩
  | cons name names =>
    have htrim : trim ("PRIMARY KEY ".toList ++ Print.names (name :: names)) =
        "PRIMARY KEY ".toList ++ Print.names (name :: names) :=
      trim_between (a := 'P') (b := ')') (by decide) (by decide)
        ("RIMARY KEY (".toList ++ Print.list ((name :: names).map Print.identifier))
    have hwords (s : List Char) : afterWords? ["PRIMARY", "KEY"] ("PRIMARY KEY ".toList ++ s) =
        some (' ' :: s) := rfl
    have hkey : keyElement? ("PRIMARY KEY ".toList ++ Print.names (name :: names)) =
        some (Print.list ((name :: names).map Print.identifier)) := by
      rw [keyElement?, hwords]
      exact parenthesised?_parenthesised _
    have hread : tableElement ("PRIMARY KEY ".toList ++ Print.names (name :: names)) =
        .ok { primaryKey := name :: names } := by
      rw [tableElement, htrim]
      simp only [hkey, map_identifier_splitTopLevel (List.cons_ne_nil name names) h]
      rfl
    refine ⟨[{ primaryKey := name :: names }], ?_, rfl, List.append_nil _⟩
    show [_].mapM tableElement = _
    rw [List.mapM_cons, hread]
    rfl

/-! ## Bodies -/

/-- **A table's body is read as it was printed**: its columns in order, and its key in order. -/
theorem tableBody_list {columns : List ColumnDef} (hne : columns ≠ [])
    (hcolumns : ∀ c ∈ columns, IsName c.name) (hnames : ∀ name ∈ names, IsName name) :
    tableBody (Print.list (columns.map Print.columnDef ++ Print.key names)) = .ok ⟨columns, names⟩ := by
  have hpasses : ∀ p ∈ columns.map Print.columnDef ++ Print.key names,
      Passes .comma (.within 0) p (.within 0) := by
    rw [List.forall_mem_append, List.forall_mem_map]
    exact ⟨fun c hc => passes_columnDef (hcolumns c hc), passes_key hnames⟩
  have hitems : columns.map Print.columnDef ++ Print.key names ≠ [] :=
    List.append_ne_nil_of_left_ne_nil (mt List.map_eq_nil_iff.1 hne) _
  have hread := mapM_map_eq_ok_map (f := fun c => (⟨[c], []⟩ : TableBody)) fun c hc =>
    tableElement_columnDef (hcolumns c hc)
  obtain ⟨elements, hkey, hnone, hall⟩ := mapM_tableElement_key hnames
  rw [tableBody, splitTopLevel_list hitems hpasses, mapM_spaced tableElement_cons_blank,
    List.mapM_append, hread, hkey]
  have hbody :
      ((columns.map fun c => (⟨[c], []⟩ : TableBody)) ++ elements).flatMap (·.columns) = columns := by
    rw [List.flatMap_append, hnone, List.append_nil, List.flatMap_map]
    exact List.flatMap_singleton' columns
  have hprimaryKey :
      ((columns.map fun c => (⟨[c], []⟩ : TableBody)) ++ elements).flatMap (·.primaryKey) = names := by
    rw [List.flatMap_append, hall, List.flatMap_map]
    simp
  show Except.ok (⟨_, _⟩ : TableBody) = _
  rw [hbody, hprimaryKey]

/-! ## Statements -/

theorem chars_createTable (table : TableRef) (guarded : Bool) (columns : List ColumnDef)
    (names : List String) :
    (Statement.createTable table guarded columns names).chars =
      "CREATE TABLE ".toList ++ (Print.unlessThere guarded ++
        (Print.tableRef table ++ ' ' :: Print.tableBody columns names)) := by
  have h : (Statement.createTable table guarded columns names).chars =
      "CREATE TABLE ".toList ++ Print.unlessThere guarded ++ Print.tableRef table ++
        ' ' :: Print.tableBody columns names := rfl
  rewrite [h]
  simp only [List.append_assoc]

/-- The body of a table reaches up to the last parenthesis. -/
theorem tableBody?_append (h : IsNamed table) (s : List Char) :
    tableBody? (Print.tableRef table ++ ' ' :: Print.parenthesised s) = some (Print.tableRef table, s) := by
  have hspan : (Print.tableRef table ++ ' ' :: Print.parenthesised s).span inTableName =
      (Print.tableRef table, ' ' :: Print.parenthesised s) :=
    span_append (inTableName_of_mem h) (by simp [inTableName, isBlank])
  have hskip : skipBlanks (' ' :: Print.parenthesised s) = '(' :: (s ++ [')']) := rfl
  obtain ⟨r, hr⟩ := exists_tableRef_eq_cons table
  rw [hr] at hspan ⊢
  rw [tableBody?, hspan]
  simp only [hskip, splitAtLast?_concat, Option.map_some]

/-- The guard is read where it is printed, and no table's name is taken for one. -/
theorem guarded?_unlessThere (h : IsNamed table) (guarded : Bool) (s : List Char) :
    guarded? ["IF", "NOT", "EXISTS"] tableBody?
        (Print.unlessThere guarded ++ (Print.tableRef table ++ ' ' :: Print.parenthesised s)) =
      some (guarded, Print.tableRef table, s) := by
  have hbody := tableBody?_append h s
  obtain ⟨r, hr⟩ := exists_tableRef_eq_cons table
  rw [hr] at hbody ⊢
  cases guarded with
  | true =>
    have hphrase (s : List Char) :
        afterPhrase? ["IF", "NOT", "EXISTS"] (Print.unlessThere true ++ backtick :: s) =
          some (backtick :: s) := rfl
    rw [guarded?, List.cons_append, hphrase, ← List.cons_append, Option.bind_some, hbody]
  | false =>
    have hphrase (s : List Char) :
        afterPhrase? ["IF", "NOT", "EXISTS"] (Print.unlessThere false ++ backtick :: s) = none := rfl
    rw [guarded?, List.cons_append, hphrase, Option.bind_none]
    show Option.map _ (tableBody? (backtick :: r ++ ' ' :: Print.parenthesised s)) = _
    rw [hbody]
    rfl

theorem createTable?_append (h : IsNamed table) (guarded : Bool) (s : List Char) :
    createTable? ("CREATE TABLE ".toList ++ (Print.unlessThere guarded ++
        (Print.tableRef table ++ ' ' :: Print.parenthesised s))) =
      some (.createTable guarded (Print.tableRef table) s) := by
  have hguarded := guarded?_unlessThere h guarded s
  have hphrase (s : List Char) :
      afterPhrase? ["CREATE", "TABLE"]
          ("CREATE TABLE ".toList ++ (Print.unlessThere guarded ++ (Print.tableRef table ++ s))) =
        some (Print.unlessThere guarded ++ (Print.tableRef table ++ s)) := by
    obtain ⟨r, hr⟩ := exists_tableRef_eq_cons table
    rw [hr]
    cases guarded with
    | true => rfl
    | false => rfl
  simp only [createTable?, hphrase, hguarded, Option.bind_eq_bind, Option.bind_some]

/-- **A table declaration is cut into its guard, its name and its body.** -/
theorem ofChars?_createTable (h : IsNamed table) (guarded : Bool) (columns : List ColumnDef)
    (names : List String) :
    ofChars? (Statement.createTable table guarded columns names).chars =
      some (.createTable guarded (Print.tableRef table)
        (Print.list (columns.map Print.columnDef ++ Print.key names))) := by
  rw [chars_createTable, Print.tableBody]
  refine ofChars?_of_rejected [createDatabase?, dropDatabase?, use?] rfl ?_ (createTable?_append h guarded _)
  simp only [List.forall_mem_cons]
  exact ⟨rfl, rfl, rfl, List.forall_mem_nil _⟩

/-- **A table declaration is read as it was printed**, and every type from its spelling. No column is lost
to its name, be it `KEY`, `INDEX`, `UNIQUE`, `CONSTRAINT` or `PRIMARY`. -/
theorem parse_print_createTable :
    (∀ t : ColumnType, ColumnType.ofText? t.name = some t) ∧
      ∀ (table : TableRef) (guarded : Bool) (columns : List ColumnDef) (names : List String),
        IsNamed table → columns ≠ [] → (∀ c ∈ columns, IsName c.name) → (∀ name ∈ names, IsName name) →
          Statement.parse (Statement.createTable table guarded columns names).print =
            .ok (.createTable table guarded columns names) := by
  refine ⟨ColumnType.ofText?_name, ?_⟩
  intro table guarded columns names htable hne hcolumns hnames
  have hlast : EndsWhole (Statement.createTable table guarded columns names).chars := by
    rw [chars_createTable]
    exact .append _ (.append _ (.append _ (.append [' '] (endsWhole_parenthesised _))))
  have hparse := parse_print (chars_createTable table guarded columns names) (by decide) hlast
    (ofChars?_createTable htable guarded columns names)
  rw [hparse, Outline.toStatement, tableBody_list hne hcolumns hnames, tableRef_tableRef htable]
  rfl

/-- Columns that are named like the keywords of a table's body, the largest length, and a key that names a
column twice and one that is not declared. -/
theorem parse_print_createTable_keyword_columns :
    let columns : List ColumnDef :=
      [⟨"KEY", .varChar 4294967295⟩, ⟨"index", .boolean⟩, ⟨"PRIMARY", .int⟩, ⟨"$", .varChar 0⟩]
    let statement := Statement.createTable ⟨some "d", "table"⟩ true columns ["PRIMARY", "PRIMARY", "x"]
    statement.print =
        "CREATE TABLE IF NOT EXISTS \x60d\x60.\x60table\x60 (\x60KEY\x60 VARCHAR(4294967295), " ++
          "\x60index\x60 BOOLEAN, \x60PRIMARY\x60 INT, \x60$\x60 VARCHAR(0), " ++
          "PRIMARY KEY (\x60PRIMARY\x60, \x60PRIMARY\x60, \x60x\x60))" ∧
      Statement.parse statement.print = .ok statement := by
  intro columns statement
  exact ⟨by decide +kernel,
    parse_print_createTable.2 ⟨some "d", "table"⟩ true columns ["PRIMARY", "PRIMARY", "x"] (by decide)
      (by decide) (by decide) (by decide)⟩

end Sql

end WireSql
