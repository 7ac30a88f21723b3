import WireSql.Proofs.Store.AllOrNothing
import WireSql.Proofs.Store.Places

/-!
# `WireSql.Proofs.Store.Effects`: what a statement changes

`Statement.Effect` lists the ways in which a statement can succeed, each with what it leaves of the
catalog. One that only reads leaves all of it. Creating or dropping a database concerns that database and no
other; every statement about a table concerns the place of that table and no other, and those that change
rows keep the schema of their table. Where IF EXISTS or IF NOT EXISTS is what lets a statement succeed,
nothing changes at all.

`effect_run` shows that there is no other way, over every statement and every catalog, and
`effect_of_execute` carries it to the texts that clients send.
-/

namespace WireSql

/-! ## Tables -/

namespace Table

variable {t : Table}

/-- **Two tables have the same schema**: the same columns and the same key. -/
def SameSchema (t t' : Table) : Prop := t'.columns = t.columns ∧ t'.primaryKey = t.primaryKey

theorem sameSchema_withRows (t : Table) (rows : List Row) : Yields (t.withRows rows) t.SameSchema :=
  yields_bind fun _ _ => yields_pure ⟨rfl, rfl⟩

theorem sameSchema_insert (t : Table) (columns : Option (List String)) (rows : List (List Value)) :
    Yields (t.insert columns rows) fun m => t.SameSchema m.2 :=
  yields_bind fun _ _ => yields_bind fun _ _ => yields_bind fun t' ht' =>
    yields_pure (sameSchema_withRows t _ t' ht')

theorem sameSchema_update (t : Table) (assignments : List Assignment) (filter : List Condition) :
    Yields (t.update assignments filter) fun m => t.SameSchema m.2 :=
  yields_bind fun _ _ => yields_bind fun _ _ => yields_bind fun t' ht' =>
    yields_pure (sameSchema_withRows t _ t' ht')

theorem sameSchema_delete (t : Table) (filter : List Condition) :
    Yields (t.delete filter) fun m => t.SameSchema m.2 :=
  yields_bind fun _ _ => yields_pure ⟨rfl, rfl⟩

end Table

/-! ## The ways to succeed -/

/-- Does a statement change the rows of a table and nothing else of it? -/
def Statement.changesRows : Statement → Bool
  | insert .. | update .. | delete .. => true
  | _ => false

/-- **What a statement that succeeds leaves of a catalog**, with a constructor for each way to succeed. The
statement is run with the session's database. -/
inductive Statement.Effect (database : Option String) (c : Catalog) : Statement → Catalog → Prop where
  /-- A statement that only reads leaves the catalog. -/
  | reads {statement : Statement} (hreads : statement.isMutation = false) :
    Effect database c statement c
  /-- A database is created: it is empty, and the others stay. -/
  | createsDatabase {name : String} {ifNotExists : Bool} {c' : Catalog}
    (hbefore : c.databases.find? name = none) (hafter : c'.databases.find? name = some {})
    (hothers : ∀ other, other ≠ name → c'.databases.find? other = c.databases.find? other) :
    Effect database c (.createDatabase name ifNotExists) c'
  /-- A database to create is there already, and nothing changes. -/
  | keepsDatabase {name : String} (hbefore : c.hasDatabase name = true) :
    Effect database c (.createDatabase name true) c
  /-- A database is dropped, and the others stay. -/
  | dropsDatabase {name : String} {ifExists : Bool} {c' : Catalog}
    (hbefore : c.hasDatabase name = true) (hafter : c'.databases.find? name = none)
    (hothers : ∀ other, other ≠ name → c'.databases.find? other = c.databases.find? other) :
    Effect database c (.dropDatabase name ifExists) c'
  /-- A database to drop is not there, and nothing changes. -/
  | lacksDatabase {name : String} (hbefore : c.hasDatabase name = false) :
    Effect database c (.dropDatabase name true) c
  /-- A table is created: it is new, and all other places stay. -/
  | createsTable {table : TableRef} {ifNotExists : Bool} {columns : List ColumnDef}
    {primaryKey : List String} {p : Place} {t : Table} {c' : Catalog}
    (hplace : (Statement.createTable table ifNotExists columns primaryKey).place? database = some p)
    (hbefore : c.standsAt? p = some none) (hnew : Table.create columns primaryKey = .ok t)
    (hafter : c'.standsAt? p = some (some t)) (hothers : c.AgreesBeside p c') :
    Effect database c (.createTable table ifNotExists columns primaryKey) c'
  /-- A table to create is there already, and nothing changes. -/
  | keepsTable {table : TableRef} {columns : List ColumnDef} {primaryKey : List String} {p : Place}
    {t : Table} (hplace : (Statement.createTable table true columns primaryKey).place? database = some p)
    (hbefore : c.standsAt? p = some (some t)) :
    Effect database c (.createTable table true columns primaryKey) c
  /-- A table is dropped, and all other places stay. -/
  | dropsTable {table : TableRef} {ifExists : Bool} {p : Place} {t : Table} {c' : Catalog}
    (hplace : (Statement.dropTable table ifExists).place? database = some p)
    (hbefore : c.standsAt? p = some (some t)) (hafter : c'.standsAt? p = some none)
    (hothers : c.AgreesBeside p c') : Effect database c (.dropTable table ifExists) c'
  /-- A table to drop is not there, and nothing changes. -/
  | lacksTable {table : TableRef} {p : Place}
    (hplace : (Statement.dropTable table true).place? database = some p)
    (hbefore : c.standsAt? p = some none) : Effect database c (.dropTable table true) c
  /-- The rows of a table change: its schema stays, and so do all other places. -/
  | changesRows {statement : Statement} {p : Place} {t t' : Table} {c' : Catalog}
    (hrows : statement.changesRows = true) (hplace : statement.place? database = some p)
    (hbefore : c.standsAt? p = some (some t)) (hafter : c'.standsAt? p = some (some t'))
    (hschema : t.SameSchema t') (hothers : c.AgreesBeside p c') : Effect database c statement c'

namespace Catalog

open Statement (Effect)

variable {c : Catalog} {database : Option String} {p : Place}

/-! ## Databases -/

theorem effect_createDatabase (c : Catalog) (database : Option String) (name : String) (ifNotExists : Bool) :
    Yields (c.createDatabase name ifNotExists) fun m =>
      Effect database c (.createDatabase name ifNotExists) m.2 := by
  unfold createDatabase hasDatabase NameMap.contains
  cases hbefore : c.databases.find? name with
  | none =>
    refine yields_ok (.createsDatabase hbefore ?_ fun other hother => ?_)
    · rw [NameMap.find?_insert, if_pos rfl]
    · rw [NameMap.find?_insert, if_neg (Ne.symm hother)]
  | some d =>
    have hthere : c.hasDatabase name = true := by simp [hasDatabase, NameMap.contains, hbefore]
    cases ifNotExists with
    | true => exact yields_ok (.keepsDatabase hthere)
    | false => exact yields_error _

theorem effect_dropDatabase (c : Catalog) (database : Option String) (name : String) (ifExists : Bool) :
    Yields (c.dropDatabase name ifExists) fun m =>
      Effect database c (.dropDatabase name ifExists) m.2 := by
  unfold dropDatabase
  cases hbefore : c.databases.find? name with
  | none =>
    have hlacks : c.hasDatabase name = false := by simp [hasDatabase, NameMap.contains, hbefore]
    cases ifExists with
    | true => exact yields_ok (.lacksDatabase hlacks)
    | false => exact yields_error _
  | some d =>
    have hthere : c.hasDatabase name = true := by simp [hasDatabase, NameMap.contains, hbefore]
    refine yields_ok (.dropsDatabase hthere ?_ fun other hother => ?_)
    · rw [NameMap.find?_erase, if_pos rfl]
    · rw [NameMap.find?_erase, if_neg (Ne.symm hother)]

/-! ## Tables -/

theorem standsAt?_putAt_of_some {found : Option Table} (h : c.standsAt? p = some found) (t : Option Table) :
    (c.putAt p t).standsAt? p = some t := by rw [standsAt?_putAt, h, Option.map_some]

theorem effect_createTable {table : TableRef} {ifNotExists : Bool} {columns : List ColumnDef}
    {primaryKey : List String} {t : Table} (hnew : Table.create columns primaryKey = .ok t)
    (hplace : (Statement.createTable table ifNotExists columns primaryKey).place? database = some p) :
    Yields (c.createTable p.database p.table t ifNotExists) fun m =>
      Effect database c (.createTable table ifNotExists columns primaryKey) m.2 := by
  rw [createTable_eq]
  split
  · exact yields_error _
  · next hbefore =>
    exact yields_ok (.createsTable hplace hbefore hnew (standsAt?_putAt_of_some hbefore _)
      (agreesBeside_putAt c p _))
  · next old hbefore =>
    cases ifNotExists with
    | true => exact yields_ok (.keepsTable hplace hbefore)
    | false => exact yields_error _

theorem effect_dropTable {table : TableRef} {ifExists : Bool}
    (hplace : (Statement.dropTable table ifExists).place? database = some p) :
    Yields (c.dropTable p.database p.table ifExists) fun m =>
      Effect database c (.dropTable table ifExists) m.2 := by
  rw [dropTable_eq]
  split
  · exact yields_error _
  · next hbefore =>
    cases ifExists with
    | true => exact yields_ok (.lacksTable hplace hbefore)
    | false => exact yields_error _
  · next old hbefore =>
    exact yields_ok (.dropsTable hplace hbefore (standsAt?_putAt_of_some hbefore _)
      (agreesBeside_putAt c p _))

/-- A change that keeps the schema of the one table it is made to. -/
theorem effect_changeTable {statement : Statement} (hrows : statement.changesRows = true)
    (hplace : statement.place? database = some p)
    {change : Table → Except StatementError (Nat × Table)}
    (hschema : ∀ t, Yields (change t) fun m => t.SameSchema m.2) :
    Yields (c.changeTable p.database p.table change) fun m => Effect database c statement m.2 := by
  rw [changeTable_eq]
  split
  · exact yields_error _
  · exact yields_error _
  · next t hbefore =>
    refine yields_map fun m hm => ?_
    exact .changesRows hrows hplace hbefore (standsAt?_putAt_of_some hbefore _) (hschema t m hm)
      (agreesBeside_putAt c p _)

/-! ## Statements -/

/-- **A statement that succeeds has one of the known effects.** -/
theorem effect_run (c : Catalog) (statement : Statement) (database : Option String) :
    Yields (c.run statement database) fun v => Effect database c statement v.2 := by
  have hreads : statement.isMutation = false →
      Yields (c.run statement database) fun v => Effect database c statement v.2 := by
    intro hreads v hv
    rw [InPlace.run_of_not_isMutation hreads hv]
    exact .reads hreads
  cases statement with
  | use name => exact hreads rfl
  | showTables => exact hreads rfl
  | select table projection filter limit => exact hreads rfl
  | createDatabase name ifNotExists => exact yields_map (effect_createDatabase c database name ifNotExists)
  | dropDatabase name ifExists => exact yields_map (effect_dropDatabase c database name ifExists)
  | createTable table ifNotExists columns primaryKey =>
    refine yields_bind fun name hname => yields_bind fun t hnew => yields_map ?_
    exact effect_createTable (p := ⟨name, table.name⟩) hnew (Statement.place?_of_resolve rfl hname)
  | dropTable table ifExists =>
    refine yields_bind fun name hname => yields_map ?_
    exact effect_dropTable (p := ⟨name, table.name⟩) (Statement.place?_of_resolve rfl hname)
  | insert table columns rows =>
    refine yields_bind fun name hname => yields_map ?_
    exact effect_changeTable (p := ⟨name, table.name⟩) rfl (Statement.place?_of_resolve rfl hname)
      fun t => t.sameSchema_insert columns rows
  | update table assignments filter =>
    refine yields_bind fun name hname => yields_map ?_
    exact effect_changeTable (p := ⟨name, table.name⟩) rfl (Statement.place?_of_resolve rfl hname)
      fun t => t.sameSchema_update assignments filter
  | delete table filter =>
    refine yields_bind fun name hname => yields_map ?_
    exact effect_changeTable (p := ⟨name, table.name⟩) rfl (Statement.place?_of_resolve rfl hname)
      fun t => t.sameSchema_delete filter

end Catalog

/-! ## Texts -/

namespace Store

variable {s s' : Store} {sql : String} {capabilities : UInt32} {database : Option String} {result : ResultSet}

/-- **The effect of a text that succeeds is that of the statement it spells**, and if that only reads, the
file for snapshots is not touched either. -/
theorem effect_of_execute
    (h : Store.backend.execute s sql capabilities database = (.ok result, s')) :
    ∃ statement, Statement.parse sql = .ok statement ∧
      Statement.Effect database s.catalog statement s'.catalog ∧
      (statement.isMutation = false → s' = s) := by
  have hruns : Yields (s.execute sql database) fun v =>
      ∃ statement, Statement.parse sql = .ok statement ∧
        Statement.Effect database s.catalog statement v.2.catalog ∧
        (statement.isMutation = false → v.2 = s) := by
    refine yields_bind fun statement hparse => yields_bind fun v hv => yields_pure ?_
    have heffect := Catalog.effect_run s.catalog statement database v hv
    refine ⟨statement, hparse, ?_⟩
    -- writing a snapshot touches the file only
    cases hmutates : statement.isMutation with
    | true => exact ⟨heffect, fun hreads => absurd hreads (by decide)⟩
    | false =>
      refine ⟨heffect, fun _ => ?_⟩
      have hkept := InPlace.run_of_not_isMutation hmutates hv
      obtain ⟨result, catalog⟩ := v
      obtain rfl : catalog = s.catalog := hkept
      rfl
  rw [backend_execute] at h
  cases hrun : s.execute sql database with
  | error e =>
    rw [hrun] at h
    cases h
  | ok v =>
    rw [hrun] at h
    cases h
    exact hruns v hrun

/-- An update of a table beside another one of the same name: the two rows change, the other table stays. -/
theorem effect_of_execute_same_name :
    let t (rows : List Row) : Table := { columns := [⟨"id", .int⟩], rows }
    let catalog (rows : List Row) : Catalog :=
      { databases := .ofEntries [("a", { tables := .ofEntries [("t", t [[.int 7]])] }),
          ("b", { tables := .ofEntries [("t", t rows), ("u", t [[.int 7]])] })] }
    let s : Store := { catalog := catalog [[.int 7], [.int 8]] }
    let s' : Store := { catalog := catalog [[.int 9], [.int 8]] }
    Store.backend.execute s "UPDATE t SET id = 9 WHERE id = 7" 0 (some "b") = (.ok (.affected 1), s') ∧
      ∃ statement, Statement.parse "UPDATE t SET id = 9 WHERE id = 7" = .ok statement ∧
        Statement.Effect (some "b") s.catalog statement s'.catalog ∧
        (statement.isMutation = false → s' = s) := by
  intro t catalog s s'
  have hrun : Store.backend.execute s "UPDATE t SET id = 9 WHERE id = 7" 0 (some "b") =
      (.ok (.affected 1), s') := by decide +kernel
  exact ⟨hrun, effect_of_execute hrun⟩

end Store

end WireSql
