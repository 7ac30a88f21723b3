import WireSql.Proofs.Introspection.Cleaning
import WireSql.Proofs.Introspection.Leads
import WireSql.Proofs.Sql.Bare
import WireSql.Proofs.Store.AllOrNothing
import WireSql.Proofs.Text.Utf8
import WireSql.Proofs.Wire.Results

/-!
# `WireSql.Proofs.Connection.StoredText`: a text on its way into a table and out again

A client inserts a text into a table of one text column and asks for that column. On the way the text is
printed into a statement, sent as UTF-8, cleaned, cut out of the statement, unescaped, stored, read from the
table and sent in a row. Every step but one gives the text that went into it: cleaning squeezes its blanks.

`text_comes_back_squeezed` is the whole way, over every text without a comment in it, every store and every
session: the last row holds the text with each run of blanks as one space, and so the text itself exactly
if its only blanks are single spaces.
-/

namespace WireSql

open Text Sql Introspection

variable {table column : String} {text s : List Char}

/-! ## Leaving the two statements to the store -/

namespace Command

variable {σ : Type} {backend : Backend σ} {session : Session} {state : σ}

/-- What is neither empty nor meant for the connection itself is run by the backend. -/
theorem dispatch_forward {body : Bytes} {sql : String} (hclean : clean (decode body) = sql) (hne : sql ≠ "")
    (huse : useStatement? sql = none) (hanswer : ∀ view, Introspection.answer view sql = .ok none) :
    dispatch backend session state (0x03 :: body) = forward backend session state sql := by
  have hquery : dispatch backend session state (0x03 :: body) =
      query backend session state (clean (decode body)) := rfl
  have hsome : ¬ sql.isEmpty = true := fun hempty => hne (String.isEmpty_iff.1 hempty)
  rw [hquery, hclean, query, if_neg hsome, huse, hanswer]

theorem starts_bareInsertion (table : String) (text : List Char) :
    startsIgnoringCase "INSERT " (String.ofList (bareInsertion table text)).toList = true := by
  rw [String.toList_ofList]
  rfl

theorem starts_bareQuery (column table : String) :
    startsIgnoringCase "SELECT " (String.ofList (bareQuery column table)).toList = true := by
  rw [String.toList_ofList]
  rfl

theorem length_bareQuery (column table : String) :
    (bareQuery column table).length = 13 + column.length + table.length := by
  have hwords : "SELECT ".toList.length = 7 ∧ " FROM ".toList.length = 6 := by decide
  unfold bareQuery
  generalize "SELECT ".toList = verb at hwords ⊢
  generalize " FROM ".toList = «from» at hwords ⊢
  simp only [List.length_append, hwords, String.length_toList]
  omega

/-- The characters that the questions for variables hold do not stand in a query with bare names. -/
theorem toUpper_ne_of_mem_bareQuery (htable : IsName table) (hcolumn : IsName column) :
    ∀ c ∈ bareQuery column table, c.toUpper ≠ '@' ∧ c.toUpper ≠ '(' := by
  have hname {name : String} (h : IsName name) : ∀ c ∈ name.toList, c.toUpper ≠ '@' ∧ c.toUpper ≠ '(' :=
    fun c hc => forall_ascii
      (p := fun c => inColumnName c = true → c.toUpper ≠ '@' ∧ c.toUpper ≠ '(') (by decide)
      (toNat_lt_of_inColumnName (h.2 c hc)) (h.2 c hc)
  have hwords : (∀ c ∈ "SELECT ".toList, c.toUpper ≠ '@' ∧ c.toUpper ≠ '(') ∧
      ∀ c ∈ " FROM ".toList, c.toUpper ≠ '@' ∧ c.toUpper ≠ '(' := by decide
  unfold bareQuery
  generalize "SELECT ".toList = verb at hwords ⊢
  generalize " FROM ".toList = «from» at hwords ⊢
  simp only [List.forall_mem_append]
  exact ⟨hwords.1, hname hcolumn, hwords.2, hname htable⟩

theorem answer_bareQuery (htable : IsName table) (hcolumn : IsName column) (view : View) :
    Introspection.answer view (String.ofList (bareQuery column table)) = .ok none := by
  have hstarts := starts_bareQuery column table
  -- the questions that begin with the same word are longer or hold a character that is not there
  have hmem {lead : String} {c : Char} (hlead : c ∈ lead.toList.map Char.toUpper)
      (hc : c = '@' ∨ c = '(') :
      startsIgnoringCase lead (String.ofList (bareQuery column table)).toList = false := by
    refine Bool.eq_false_iff.2 fun h => ?_
    have hc' := (prefix_of_starts h).subset hlead
    rw [String.toList_ofList] at hc'
    obtain ⟨d, hd, rfl⟩ := List.mem_map.1 hc'
    have hne := toUpper_ne_of_mem_bareQuery htable hcolumn d hd
    exact hc.elim hne.1 hne.2
  have hone : sameIgnoringCase (String.ofList (bareQuery column table)) "SELECT 1" = false := by
    refine Bool.eq_false_iff.2 fun h => ?_
    rw [sameIgnoringCase, beq_iff_eq, String.toList_ofList] at h
    have hlength := congrArg List.length h
    rw [List.length_map, length_bareQuery] at hlength
    have height : ("SELECT 1".toList.map Char.toUpper).length = 8 := by decide
    omega
  have hapart : ∀ text ∈ wholeStatements.tail ++ answeredLeads.tail.tail, Apart "SELECT " text := by decide
  rw [List.forall_mem_append] at hapart
  refine answer_eq_none view ?_ ?_
  · rw [wholeStatements, List.forall_mem_cons]
    exact ⟨hone, fun text htext => (hapart.1 text htext).not_same hstarts⟩
  · rw [answeredLeads, List.forall_mem_cons, List.forall_mem_cons]
    exact ⟨hmem (c := '@') (by decide) (.inl rfl), hmem (c := '(') (by decide) (.inr rfl),
      fun lead hlead => (hapart.2 lead hlead).not_starts hstarts⟩

theorem dispatch_bareInsertion (htable : IsName table) (htext : HasNoMark text) :
    dispatch backend session state (0x03 :: encode (String.ofList (bareInsertion table text))) =
      forward backend session state (String.ofList (bareInsertion table (squeezeBlanks text))) := by
  have hstarts := starts_bareInsertion table (squeezeBlanks text)
  refine dispatch_forward ?_ (fun hempty => ?_) (useStatement?_of_word hstarts (by decide))
    fun view => answer_of_word view hstarts (by decide)
  · rw [decode_encode, clean_bareInsertion htable htext]
  · rw [hempty] at hstarts
    exact absurd hstarts (by decide)

theorem dispatch_bareQuery (htable : IsName table) (hcolumn : IsName column) :
    dispatch backend session state (0x03 :: encode (String.ofList (bareQuery column table))) =
      forward backend session state (String.ofList (bareQuery column table)) := by
  have hstarts := starts_bareQuery column table
  refine dispatch_forward ?_ (fun hempty => ?_) (useStatement?_of_word hstarts (by decide))
    (answer_bareQuery htable hcolumn)
  · rw [decode_encode, clean_bareQuery htable hcolumn]
  · rw [hempty] at hstarts
    exact absurd hstarts (by decide)

end Command

/-! ## A table of texts -/

namespace Table

variable {t : Table}

/-- A text is added as it is, where the key admits it. -/
theorem insert_text (hcolumns : t.columns = [⟨column, .text⟩]) (x : String) :
    t.insert none [[.text x]] =
      (t.checkKeys (t.rows ++ [[.text x]])).map fun _ => (1, { t with rows := t.rows ++ [[.text x]] }) := by
  have htargets : t.insertTargets none = .ok [(0, ⟨column, .text⟩)] := by
    rw [insertTargets, hcolumns]
    rfl
  have hrow : t.newRow [(0, ⟨column, .text⟩)] 1 [.text x] = .ok [.text x] := by
    have hwidth : t.width = 1 := by rw [width, hcolumns]; rfl
    rw [newRow, hwidth]
    rfl
  have hadded : ([[Value.text x]].zipIdx 1).mapM (fun numbered =>
      t.newRow [(0, ⟨column, .text⟩)] numbered.2 numbered.1) = .ok [[.text x]] := by
    rw [List.zipIdx_cons, List.zipIdx_nil, List.mapM_cons, hrow]
    rfl
  have hinsert : t.insert none [[.text x]] = do
      let added ← ([[Value.text x]].zipIdx 1).mapM fun numbered =>
        t.newRow [(0, ⟨column, .text⟩)] numbered.2 numbered.1
      return (1, ← t.withRows (t.rows ++ added)) := by
    unfold insert
    rw [htargets]
    rfl
  rw [hinsert, hadded]
  show (t.withRows (t.rows ++ [[.text x]]) >>= fun t' => pure (1, t')) = _
  unfold withRows
  cases t.checkKeys (t.rows ++ [[.text x]]) with
  | ok _ => rfl
  | error e => rfl

/-- Asked for, the texts are shown as they are. -/
theorem select_text (hcolumns : t.columns = [⟨column, .text⟩]) :
    t.select (.items [⟨column, none⟩]) [] none =
      .ok (.ofRows [column] (t.rows.map fun row => [(row.cell 0).toText])) := by
  have hindex : columnIndex? t.columns column = some 0 := by
    rw [columnIndex?, hcolumns, List.findIdx?_cons, if_pos (sameIgnoringCase_refl column)]
  have hshown : t.shown (.items [⟨column, none⟩]) = .ok [(column, 0)] := by
    have hcolumn : t.column .fieldList column = .ok (0, ⟨column, .text⟩) := by
      rw [Table.column, hindex, hcolumns]
      rfl
    rw [shown, List.mapM_cons, hcolumn]
    rfl
  have hall : t.rows.filter (·.passes []) = t.rows := List.filter_eq_self.2 fun _ _ => rfl
  unfold select
  rw [hshown]
  show Except.ok (ResultSet.ofRows [column] ((t.rows.filter (·.passes [])).map _)) = _
  rw [hall]
  rfl

end Table

/-! ## The store -/

namespace Catalog

variable {c : Catalog} {d : Database} {t : Table} {database : String}

theorem table_of_find (hd : c.databases.find? database = some d) (ht : d.tables.find? table = some t) :
    c.table database table = .ok t := by
  have hdatabase : c.database database = .ok d := by rw [Catalog.database, hd]
  unfold Catalog.table
  rw [hdatabase]
  simp only [bind, Except.bind, ht]

theorem changeTable_of_find (hd : c.databases.find? database = some d) (ht : d.tables.find? table = some t)
    (change : Table → Except StatementError (Nat × Table)) :
    c.changeTable database table change =
      (change t).map fun changed => (changed.1, c.setTables database (d.tables.insert table changed.2)) := by
  have hdatabase : c.database database = .ok d := by rw [Catalog.database, hd]
  unfold changeTable
  rw [hdatabase]
  simp only [bind, Except.bind, ht]
  cases change t with
  | ok _ => rfl
  | error _ => rfl

end Catalog

namespace Store

variable {store : Store} {database : String} {t : Table}

/-- **The store has the table** in the database. -/
def Has (store : Store) (database table : String) (t : Table) : Prop :=
  ∃ d, store.catalog.databases.find? database = some d ∧ d.tables.find? table = some t

/-- Adding a text fails where the key does not admit it, and leaves the table with one more row otherwise. -/
theorem execute_bareInsertion (hname : IsName table) (h : store.Has database table t)
    (hcolumns : t.columns = [⟨column, .text⟩]) (text : List Char) :
    ∃ store', store'.Has database table { t with rows := t.rows ++ [[.text (String.ofList text)]] } ∧
      store.execute (String.ofList (bareInsertion table text)) (some database) =
        (t.checkKeys (t.rows ++ [[.text (String.ofList text)]])).map fun _ => (.affected 1, store') := by
  obtain ⟨d, hd, ht⟩ := h
  generalize hadded : ({ t with rows := t.rows ++ [[.text (String.ofList text)]] } : Table) = added
  refine ⟨Store.save { store with
    catalog := store.catalog.setTables database (d.tables.insert table added) }, ?_, ?_⟩
  · exact ⟨⟨d.tables.insert table added⟩, by simp [save, Catalog.setTables], by simp⟩
  · have hchange : store.catalog.changeTable database table
        (fun t => t.insert none [[.text (String.ofList text)]]) =
          (t.checkKeys (t.rows ++ [[.text (String.ofList text)]])).map fun _ =>
            (1, store.catalog.setTables database (d.tables.insert table added)) := by
      rw [Catalog.changeTable_of_find hd ht, Table.insert_text hcolumns, hadded]
      cases t.checkKeys (t.rows ++ [[.text (String.ofList text)]]) with
      | ok _ => rfl
      | error e => rfl
    unfold execute
    rw [parse_bareInsertion hname]
    show (affecting (store.catalog.changeTable database table _) >>= _) = _
    rw [hchange]
    cases t.checkKeys (t.rows ++ [[.text (String.ofList text)]]) with
    | ok _ => rfl
    | error e => rfl

/-- A query for the column shows the texts and changes nothing. -/
theorem execute_bareQuery (hname : IsName table) (hcolumn : IsName column)
    (h : store.Has database table t) (hcolumns : t.columns = [⟨column, .text⟩]) :
    store.execute (String.ofList (bareQuery column table)) (some database) =
      .ok (.ofRows [column] (t.rows.map fun row => [(row.cell 0).toText]), store) := by
  obtain ⟨d, hd, ht⟩ := h
  unfold execute
  rw [parse_bareQuery hname hcolumn]
  have hrun : store.catalog.run (.select ⟨none, table⟩ (.items [⟨column, none⟩]) [] none) (some database) =
      .ok (.ofRows [column] (t.rows.map fun row => [(row.cell 0).toText]), store.catalog) := by
    show (do
      let t ← store.catalog.table database table
      return (← t.select (.items [⟨column, none⟩]) [] none, store.catalog)) = _
    rw [Catalog.table_of_find hd ht]
    show (do return (← t.select (.items [⟨column, none⟩]) [] none, store.catalog)) = _
    rw [Table.select_text hcolumns]
    rfl
  show (store.catalog.run _ (some database) >>= _) = _
  rw [hrun]
  rfl

end Store

/-! ## The last row of a reply -/

namespace Wire

/-- **A reply ends with a row of these cells**: behind it stands what ends the rows and nothing else. -/
def EndsWithRow (reply : List Frame) (cells : List Cell) : Prop :=
  ∃ lead last ending, reply = lead ++ [last, ending] ∧ Client.EndsRows ending.payload ∧
    rowCells? last.payload cells.length = some cells

/-- The last row of a result is the last one that is sent. -/
theorem endsWithRow_resultFrames {r : ResultSet} {cells : List Cell} (hcolumns : r.columns ≠ [])
    (hlast : ∃ rows, r.rows = rows ++ [cells]) (hcells : ∀ c ∈ cells, Read.cellLength c < UInt64.size)
    (capabilities : UInt32) (first : UInt8) : EndsWithRow (resultFrames r capabilities first) cells := by
  obtain ⟨rows, hrows⟩ := hlast
  rw [resultFrames_of_columns capabilities first hcolumns]
  generalize Capability.has capabilities Capability.deprecateEof = deprecateEof
  obtain ⟨earlier, hearlier⟩ : ∃ earlier, resultPayloads r deprecateEof =
      earlier ++ [rowPayload cells, EofPacket.payload {}] := by
    refine ⟨ofPrefixedInt (UInt64.ofNat r.columns.length) :: r.columns.map columnPayload ++
      ((if deprecateEof then [] else [EofPacket.payload {}]) ++ rows.map rowPayload), ?_⟩
    simp [resultPayloads, hrows]
  rw [hearlier, frames_append]
  exact ⟨_, _, _, rfl, endsRows_eof, rowCells?_of_cells hcells⟩

end Wire

/-! ## The whole way -/

namespace Command

variable {session : Session} {store : Store}

/-- The backend that keeps its tables in memory reports what running the statement answers. -/
theorem forward_store (session : Session) (store : Store) (sql : String) :
    forward Store.backend session store sql =
      match store.execute sql session.database with
      | .ok (r, store') =>
        ⟨.ok (report session r),
          if r.isCommand then forgetMissing Store.backend store' session else session, store'⟩
      | .error e =>
        ⟨.error (.error (.query { e.toQueryError with sql := some sql })), session, store⟩ := by
  unfold forward
  rw [Store.backend_execute]
  cases store.execute sql session.database with
  | ok v => rfl
  | error e => rfl

/-- A session keeps a database that is there. -/
theorem forgetMissing_of_has {database : String} {t : Table} (h : store.Has database table t)
    (hsession : session.database = some database) : forgetMissing Store.backend store session = session := by
  obtain ⟨d, hd, -⟩ := h
  have hthere : Store.backend.selectDatabase store database = .ok () := by
    have hcontains : store.catalog.hasDatabase database = true := by
      rw [Catalog.hasDatabase, NameMap.contains, hd, Option.isSome_some]
    exact if_pos hcontains
  rw [forgetMissing, hsession]
  dsimp only
  rw [hthere]

/-- The text as it is stored. -/
def storedText (text : String) : String := String.ofList (squeezeBlanks text.toList)

/-- The payload that inserts a text. -/
def insertionPayload (table text : String) : Bytes :=
  0x03 :: encode (String.ofList (bareInsertion table text.toList))

/-- The payload that asks for the texts. -/
def queryPayload (column table : String) : Bytes :=
  0x03 :: encode (String.ofList (bareQuery column table))

/-- **A query shows the text of the last row last.** -/
theorem query_ends_with {database : String} {t : Table} {rows : List Row} {x : String}
    (hsession : session.database = some database) (htable : store.Has database table t)
    (hcolumns : t.columns = [⟨column, .text⟩]) (hname : IsName table) (hcolumn : IsName column)
    (hlast : t.rows = rows ++ [[.text x]]) (hword : (encode x).length < UInt64.size) :
    ∃ reply, dispatch Store.backend session store (queryPayload column table) =
        ⟨.ok (.frames reply), session, store⟩ ∧ Wire.EndsWithRow reply [some x] := by
  have hquery : dispatch Store.backend session store (queryPayload column table) = _ :=
    (dispatch_bareQuery hname hcolumn).trans (forward_store session store _)
  rw [hsession, Store.execute_bareQuery hname hcolumn htable hcolumns] at hquery
  refine ⟨_, hquery, Wire.endsWithRow_resultFrames (List.cons_ne_nil column [])
    ⟨(rows.map fun row => [(row.cell 0).toText]).map (fitRow 1), ?_⟩ ?_ _ _⟩
  · have hrows (rows : List (List Cell)) :
        (ResultSet.ofRows [column] rows).rows = rows.map (fitRow 1) := rfl
    rw [hrows, hlast, List.map_append, List.map_append]
    rfl
  · intro c hc
    obtain rfl := List.mem_singleton.1 hc
    exact hword

/-- **What becomes of a text** that a client inserts into a table and asks for. -/
structure ComesBack (session : Session) (store : Store) (table column : String) (t : Table)
    (text : String) : Prop where
  /-- Where the key admits the stored text, the insertion succeeds, and whatever session of the database then
  asks for the column gets a result that ends with it. -/
  accepted : t.checkKeys (t.rows ++ [[.text (storedText text)]]) = .ok () → ∃ store',
    dispatch Store.backend session store (insertionPayload table text) =
        ⟨.ok (.frames [(Wire.OkPacket.affected 1).toFrame session.nextSequence]), session, store'⟩ ∧
      ∀ later : Session, later.database = session.database → ∃ reply,
        dispatch Store.backend later store' (queryPayload column table) =
            ⟨.ok (.frames reply), later, store'⟩ ∧
          Wire.EndsWithRow reply [some (storedText text)]
  /-- Where it does not, the insertion fails for that reason and changes nothing. -/
  refused : ∀ e, t.checkKeys (t.rows ++ [[.text (storedText text)]]) = .error e → ∃ sql,
    dispatch Store.backend session store (insertionPayload table text) =
      ⟨.error (.error (.query { e.toQueryError with sql := some sql })), session, store⟩
  /-- A table without a key admits every text. -/
  keyless : t.primaryKey = [] → t.checkKeys (t.rows ++ [[.text (storedText text)]]) = .ok ()
  /-- The text is stored as it is exactly if its only blanks are single spaces. -/
  unchanged_iff : storedText text = text ↔ IsSqueezed text.toList

/-- **A text comes back with its blanks squeezed.** The text holds no mark of a comment, and as every text in
memory it has fewer bytes than a word can count. -/
theorem text_comes_back_squeezed (session : Session) (store : Store) (database table column : String)
    (t : Table) (text : String) (hsession : session.database = some database)
    (htable : store.Has database table t) (hcolumns : t.columns = [⟨column, .text⟩])
    (hname : IsName table) (hcolumn : IsName column) (htext : HasNoMark text.toList)
    (hword : (encode (storedText text)).length < UInt64.size) :
    ComesBack session store table column t text := by
  obtain ⟨store', hstore', hexecute⟩ :=
    Store.execute_bareInsertion hname htable hcolumns (squeezeBlanks text.toList)
  have hinsert : dispatch Store.backend session store (insertionPayload table text) = _ :=
    (dispatch_bareInsertion hname htext).trans (forward_store session store _)
  rw [hsession, hexecute] at hinsert
  rw [← storedText] at hstore' hinsert
  constructor
  case accepted =>
    intro hkeys
    rw [hkeys] at hinsert
    refine ⟨store', ?_, fun later hlater => ?_⟩
    · have hkept := forgetMissing_of_has hstore' hsession
      exact hinsert.trans (congrArg (fun s => Outcome.mk _ s store') hkept)
    · exact query_ends_with (hlater.trans hsession) hstore' hcolumns hname hcolumn rfl hword
  case refused =>
    intro e hkeys
    rw [hkeys] at hinsert
    exact ⟨_, hinsert⟩
  case keyless =>
    intro hkey
    have hindices : t.keyIndices.isEmpty = true := by
      rw [Table.keyIndices, hkey]
      rfl
    rw [Table.checkKeys, if_pos hindices]
  case unchanged_iff =>
    rw [← squeezeBlanks_eq_self_iff]
    constructor
    · intro h
      simpa only [storedText, String.toList_ofList] using congrArg String.toList h
    · intro h
      rw [storedText, h, String.ofList_toList]

/-- A text with a mark, a tab and a line end in it, in an empty table. -/
theorem text_comes_back_squeezed_tab :
    let t : Table := { columns := [⟨"c", .text⟩] }
    let store : Store :=
      { catalog := { databases := .ofEntries [("d", { tables := .ofEntries [("t", t)] })] } }
    let session : Session :=
      { connectionId := 1, challenge := .ofBytes [], authenticated := true, database := some "d",
        phase := .authenticated }
    session.database = some "d" ∧ store.Has "d" "t" t ∧ HasNoMark "it's\t\n日".toList ∧
      storedText "it's\t\n日" = "it's 日" ∧ ComesBack session store "t" "c" t "it's\t\n日" := by
  intro t store session
  have htable : store.Has "d" "t" t :=
    ⟨{ tables := .ofEntries [("t", t)] }, by decide +kernel, by decide +kernel⟩
  have htext : HasNoMark "it's\t\n日".toList := by decide
  have hword : (encode (storedText "it's\t\n日")).length < UInt64.size := by decide +kernel
  exact ⟨rfl, htable, htext, by decide +kernel,
    text_comes_back_squeezed session store "d" "t" "c" t _ rfl htable rfl (by decide) (by decide) htext hword⟩

/-- Two spaces come back as one, and a key does not admit a text for a second time. -/
theorem text_comes_back_changed :
    let t : Table := { columns := [⟨"c", .text⟩] }
    let keyed : Table := { t with primaryKey := ["c"], rows := [[.text "x"]] }
    let storeOf (t : Table) : Store :=
      { catalog := { databases := .ofEntries [("d", { tables := .ofEntries [("t", t)] })] } }
    let session : Session :=
      { connectionId := 1, challenge := .ofBytes [], authenticated := true, database := some "d",
        phase := .authenticated }
    let inserted := dispatch Store.backend session (storeOf t) (insertionPayload "t" "a  b")
    HasNoMark "a  b".toList ∧
      inserted.reply = .ok (.frames [(Wire.OkPacket.affected 1).toFrame 1]) ∧
      (dispatch Store.backend session inserted.state (queryPayload "c" "t")).reply =
        .ok (.frames (Wire.resultFrames (.ofRows ["c"] [[some "a b"]]) 0 1)) ∧
      (dispatch Store.backend session (storeOf keyed) (insertionPayload "t" "x")).reply.isOk = false := by
  intro t keyed storeOf session inserted
  exact ⟨by decide, by decide +kernel, by decide +kernel, by decide +kernel⟩

end Command

end WireSql
