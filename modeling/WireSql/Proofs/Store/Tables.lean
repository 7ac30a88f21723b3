import WireSql.Proofs.Store.AllOrNothing
import WireSql.Proofs.Table.WellFormed

/-!
# `WireSql.Proofs.Store.Tables`: every table is well formed, always

The invariant of tables, carried through the operations on catalogs (`Catalog.Holds`), through a statement
(`holds_run`) and through the text of one (`holds_execute`) to whole runs. `wellFormed_after` is the
result: whatever texts an empty store is asked to run, every table that it holds afterwards is well
formed.
-/

namespace WireSql

/-! ## Catalogs -/

/-- Every table of a database has a property. -/
def Database.Holds (P : Table → Prop) (d : Database) : Prop := ∀ e ∈ d.tables.entries, P e.2

/-- **Every table of every database has a property.** -/
def Catalog.Holds (P : Table → Prop) (c : Catalog) : Prop := ∀ e ∈ c.databases.entries, e.2.Holds P

namespace Catalog

variable {P : Table → Prop} {c : Catalog}

theorem Holds.database (h : c.Holds P) {name : String} {d : Database}
    (hd : c.database name = .ok d) : d.Holds P :=
  h (name, d) (NameMap.mem_of_find? (find?_of_database hd))

/-- What holds of every table holds of one that is looked up. -/
theorem Holds.table (h : c.Holds P) {database name : String} {t : Table}
    (ht : c.table database name = .ok t) : P t := by
  have hfound : Yields (c.table database name) P := by
    refine yields_bind fun d hd => ?_
    split
    · next t' ht' => exact yields_ok (h.database hd (name, t') (NameMap.mem_of_find? ht'))
    · exact yields_error _
  exact hfound t ht

theorem Holds.insert (h : c.Holds P) (name : String) {d : Database} (hd : d.Holds P) :
    Holds P { databases := c.databases.insert name d } := by
  intro e he
  rcases NameMap.mem_insert he with rfl | he
  · exact hd
  · exact h e he

/-- Creating a database adds no table. -/
theorem Holds.createDatabase (h : c.Holds P) (name : String) (ifNotExists : Bool) :
    Yields (c.createDatabase name ifNotExists) fun m => m.2.Holds P := by
  unfold Catalog.createDatabase
  split
  · split
    · exact yields_ok h
    · exact yields_error _
  · refine yields_ok (h.insert name ?_)
    intro e he
    cases he

theorem Holds.dropDatabase (h : c.Holds P) (name : String) (ifExists : Bool) :
    Yields (c.dropDatabase name ifExists) fun m => m.2.Holds P := by
  unfold Catalog.dropDatabase
  split
  · exact yields_ok fun e he => h e (NameMap.mem_erase he)
  · split
    · exact yields_ok h
    · exact yields_error _

theorem Holds.createTable (h : c.Holds P) (database name : String) {t : Table} (ht : P t)
    (ifNotExists : Bool) :
    Yields (c.createTable database name t ifNotExists) fun m => m.2.Holds P := by
  refine yields_bind fun d hd => ?_
  split
  · split
    · exact yields_ok h
    · exact yields_error _
  · refine yields_ok (h.insert database fun e he => ?_)
    rcases NameMap.mem_insert he with rfl | he
    · exact ht
    · exact h.database hd e he

theorem Holds.dropTable (h : c.Holds P) (database name : String) (ifExists : Bool) :
    Yields (c.dropTable database name ifExists) fun m => m.2.Holds P := by
  refine yields_bind fun d hd => ?_
  split
  · refine yields_ok (h.insert database fun e he => ?_)
    exact h.database hd e (NameMap.mem_erase he)
  · split
    · exact yields_ok h
    · exact yields_error _

/-- A change of one table that keeps a property of it keeps the property of all. -/
theorem Holds.changeTable (h : c.Holds P) (database name : String)
    {change : Table → Except StatementError (Nat × Table)}
    (hchange : ∀ t, P t → Yields (change t) fun m => P m.2) :
    Yields (c.changeTable database name change) fun m => m.2.Holds P := by
  refine yields_bind fun d hd => ?_
  dsimp only
  split
  · exact yields_error _
  · next t ht =>
    have hbefore : P t := h.database hd (name, t) (NameMap.mem_of_find? ht)
    refine yields_bind fun m hm => yields_pure (h.insert database fun e he => ?_)
    rcases NameMap.mem_insert he with rfl | he
    · exact hchange t hbefore m hm
    · exact h.database hd e he

end Catalog

/-! ## Statements -/

/-- **A statement keeps the invariant of all tables.** -/
theorem holds_run {c : Catalog} (h : c.Holds Table.Invariant) (statement : Statement)
    (database : Option String) :
    Yields (c.run statement database) fun v => v.2.Holds Table.Invariant := by
  -- a statement that reads leaves the catalog, and all its tables with it
  have hreads : statement.isMutation = false →
      Yields (c.run statement database) fun v => v.2.Holds Table.Invariant := by
    intro hreads v hv
    rw [InPlace.run_of_not_isMutation hreads hv]
    exact h
  cases statement with
  | use name => exact hreads rfl
  | showTables => exact hreads rfl
  | select table projection filter limit => exact hreads rfl
  | createDatabase name ifNotExists => exact yields_map (h.createDatabase name ifNotExists)
  | dropDatabase name ifExists => exact yields_map (h.dropDatabase name ifExists)
  | createTable table ifNotExists columns primaryKey =>
    refine yields_bind fun name _ => yields_bind fun t ht => yields_map ?_
    exact h.createTable name table.name (Table.invariant_create columns primaryKey t ht) ifNotExists
  | dropTable table ifExists =>
    refine yields_bind fun name _ => yields_map ?_
    exact h.dropTable name table.name ifExists
  | insert table columns rows =>
    refine yields_bind fun name _ => yields_map ?_
    exact h.changeTable name table.name fun t ht => ht.insert columns rows
  | update table assignments filter =>
    refine yields_bind fun name _ => yields_map ?_
    exact h.changeTable name table.name fun t ht => ht.update assignments filter
  | delete table filter =>
    refine yields_bind fun name _ => yields_map ?_
    exact h.changeTable name table.name fun t ht => ht.delete filter

namespace Store

/-- **The backend keeps the invariant of all tables**, whatever text it is asked to run and whether that
succeeds or fails. -/
theorem holds_execute {s : Store} (h : s.catalog.Holds Table.Invariant) (sql : String)
    (capabilities : UInt32) (database : Option String) :
    (Store.backend.execute s sql capabilities database).2.catalog.Holds Table.Invariant := by
  have hruns : Yields (s.execute sql database) fun v => v.2.catalog.Holds Table.Invariant := by
    refine yields_bind fun statement _ => yields_bind fun v hv => yields_pure ?_
    have hkept := holds_run h statement database v hv
    -- writing a snapshot touches the file only
    cases statement.isMutation with
    | true => exact hkept
    | false => exact hkept
  rw [backend_execute]
  cases hrun : s.execute sql database with
  | ok v => exact hruns v hrun
  | error e => exact h

/-! ## Runs -/

/-- A text that a client has the backend run, with the client's capabilities and database. -/
structure Request where
  sql : String
  capabilities : UInt32 := 0
  database : Option String := none
deriving DecidableEq, Repr

/-- The store after requests, one behind the other, whichever of them fail. -/
def after (s : Store) (requests : List Request) : Store :=
  requests.foldl
    (fun s r => (Store.backend.execute s r.sql r.capabilities r.database).2) s

theorem holds_after {s : Store} (h : s.catalog.Holds Table.Invariant) (requests : List Request) :
    (s.after requests).catalog.Holds Table.Invariant := by
  unfold after
  induction requests generalizing s with
  | nil => exact h
  | cons r requests ih =>
    rw [List.foldl_cons]
    exact ih (holds_execute h r.sql r.capabilities r.database)

/-- **Every table of every run is well formed.** The run starts from an empty store, with or without a file
for its snapshots, and is asked to run any texts at all. -/
theorem wellFormed_after (autosave : Option SnapshotFile) (requests : List Request) :
    (Store.after { autosave } requests).catalog.Holds Table.WellFormed := by
  have hempty : Catalog.Holds Table.Invariant {} := by
    intro e he
    cases he
  have hinvariant : (Store.after { autosave } requests).catalog.Holds Table.Invariant :=
    holds_after hempty requests
  intro e he f hf
  exact (hinvariant e he f hf).wellFormed

/-- A table that two statements have tried to give a key twice: it holds the rows of the statement before
them, and is well formed. -/
theorem wellFormed_after_duplicate_keys :
    let requests : List Request := [
      { sql := "CREATE DATABASE d" },
      { sql := "CREATE TABLE d.t (id INT PRIMARY KEY, name VARCHAR(3))" },
      { sql := "INSERT INTO t VALUES (1, 'a'), (2, NULL)", database := some "d" },
      { sql := "INSERT INTO t VALUES (3, 'b'), (1, 'c')", database := some "d" },
      { sql := "UPDATE t SET id = 2 WHERE name = 'a'", database := some "d" }]
    let t : Table :=
      { columns := [⟨"id", .int⟩, ⟨"name", .varChar 3⟩], primaryKey := ["id"],
        rows := [[.int 1, .text "a"], [.int 2, .null]] }
    (Store.after {} requests).catalog.table "d" "t" = .ok t ∧ t.WellFormed := by
  intro requests t
  have htable : (Store.after {} requests).catalog.table "d" "t" = .ok t := by decide +kernel
  have hholds : (Store.after {} requests).catalog.Holds Table.WellFormed :=
    wellFormed_after none requests
  exact ⟨htable, hholds.table htable⟩

end Store

end WireSql
