import WireSql.Store

/-!
# `WireSql.Proofs.Store.Places`: what stands where in a catalog

A place is a database and the name of a table in it, whether or not there is such a table or such a
database. `Catalog.standsAt?` says what stands at a place and `Catalog.putAt` puts something else there.
A catalog is known by what stands at its places (`ext_standsAt?`), and putting something at one of them
leaves all others alone (`agreesBeside_putAt`).

Each operation on a table looks at one place and changes nothing else: the equations `table_eq`,
`createTable_eq`, `dropTable_eq` and `changeTable_eq` say so.
-/

namespace WireSql

/-! ## Putting and removing -/

namespace NameMap

variable {α : Type}

/-- The map with a thing under a name, or with nothing there. -/
def assign (m : NameMap α) (name : String) : Option α → NameMap α
  | some v => m.insert name v
  | none => m.erase name

@[simp] theorem find?_assign (m : NameMap α) (name other : String) (v : Option α) :
    (m.assign name v).find? other = if name = other then v else m.find? other := by
  cases v with
  | some v => exact find?_insert m name other v
  | none => exact find?_erase m name other

end NameMap

/-! ## Places -/

/-- A database and the name of a table in it. -/
structure Place where
  database : String
  table : String
deriving DecidableEq, Repr

namespace Catalog

variable {c c' : Catalog} {p : Place}

/-- What stands at a place: nothing can where there is no such database, and otherwise a table or none. -/
def standsAt? (c : Catalog) (p : Place) : Option (Option Table) :=
  (c.databases.find? p.database).map fun d => d.tables.find? p.table

/-- The catalog with a table, or none, at a place. A database that is not there is not made. -/
def putAt (c : Catalog) (p : Place) (t : Option Table) : Catalog :=
  match c.databases.find? p.database with
  | some d => c.setTables p.database (d.tables.assign p.table t)
  | none => c

/-- **Two catalogs agree beside a place**: they have the same other databases, and in its own database the
same other tables. -/
structure AgreesBeside (p : Place) (c c' : Catalog) : Prop where
  databases : ∀ other, other ≠ p.database → c'.databases.find? other = c.databases.find? other
  places : ∀ other, other ≠ p → c'.standsAt? other = c.standsAt? other

theorem AgreesBeside.refl (p : Place) (c : Catalog) : c.AgreesBeside p c := ⟨fun _ _ => rfl, fun _ _ => rfl⟩

theorem find?_putAt_of_ne {other : String} (h : other ≠ p.database) (t : Option Table) :
    (c.putAt p t).databases.find? other = c.databases.find? other := by
  unfold putAt
  split
  · rw [setTables, NameMap.find?_insert, if_neg (Ne.symm h)]
  · rfl

theorem standsAt?_putAt (c : Catalog) (p : Place) (t : Option Table) :
    (c.putAt p t).standsAt? p = (c.standsAt? p).map fun _ => t := by
  unfold putAt standsAt?
  split
  · next d hd => simp [setTables, hd]
  · next hd => simp [hd]

theorem standsAt?_putAt_of_ne {other : Place} (h : other ≠ p) (t : Option Table) :
    (c.putAt p t).standsAt? other = c.standsAt? other := by
  by_cases hd : other.database = p.database
  · -- in the same database it is a table of another name
    have ht : p.table ≠ other.table := by
      intro ht
      obtain ⟨database, table⟩ := other
      obtain rfl : database = p.database := hd
      obtain rfl : p.table = table := ht
      exact h rfl
    unfold putAt standsAt?
    rw [hd]
    split
    · next d hfound => simp [setTables, hfound, ht]
    · rfl
  · unfold standsAt?
    rw [find?_putAt_of_ne hd]

theorem agreesBeside_putAt (c : Catalog) (p : Place) (t : Option Table) : c.AgreesBeside p (c.putAt p t) :=
  ⟨fun _ h => find?_putAt_of_ne h t, fun _ h => standsAt?_putAt_of_ne h t⟩

/-- Catalogs with the same at every place are equal. -/
theorem ext_standsAt? (h : ∀ p, c.standsAt? p = c'.standsAt? p) : c = c' := by
  obtain ⟨databases⟩ := c
  obtain ⟨databases'⟩ := c'
  refine congrArg Catalog.mk (NameMap.ext_find? fun name => ?_)
  have hplaces : ∀ table, (databases.find? name).map (fun d => d.tables.find? table) =
      (databases'.find? name).map fun d => d.tables.find? table := fun table => h ⟨name, table⟩
  -- the database is there in both or in neither, and has the same tables
  generalize databases.find? name = found at hplaces ⊢
  generalize databases'.find? name = found' at hplaces ⊢
  cases found with
  | none =>
    cases found' with
    | none => rfl
    | some d' => cases hplaces ""
  | some d =>
    cases found' with
    | none => cases hplaces ""
    | some d' =>
      have htables : d.tables = d'.tables :=
        NameMap.ext_find? fun table => Option.some.inj (hplaces table)
      obtain ⟨tables⟩ := d
      obtain ⟨tables'⟩ := d'
      exact congrArg (fun tables => some (Database.mk tables)) htables

/-- Putting back what stands at a place changes nothing. -/
theorem putAt_of_standsAt? {t : Option Table} (h : c.standsAt? p = some t) : c.putAt p t = c := by
  refine ext_standsAt? fun other => ?_
  by_cases hother : other = p
  · subst hother
    rw [standsAt?_putAt, h]
    rfl
  · exact standsAt?_putAt_of_ne hother t

/-! ## The operations at their places -/

theorem bind_database {α : Type} (c : Catalog) (name : String) (f : Database → Except StatementError α) :
    (c.database name >>= f) =
      match c.databases.find? name with
      | some d => f d
      | none => .error (.unknownDatabase name) := by
  unfold database
  cases c.databases.find? name <;> rfl

theorem table_eq (c : Catalog) (p : Place) :
    c.table p.database p.table =
      match c.standsAt? p with
      | none => .error (.unknownDatabase p.database)
      | some none => .error (.unknownTable p.database p.table)
      | some (some t) => .ok t := by
  unfold table standsAt?
  rw [bind_database]
  cases c.databases.find? p.database with
  | none => rfl
  | some d => cases ht : d.tables.find? p.table <;> simp [ht]

theorem createTable_eq (c : Catalog) (p : Place) (t : Table) (ifNotExists : Bool) :
    c.createTable p.database p.table t ifNotExists =
      match c.standsAt? p with
      | none => .error (.unknownDatabase p.database)
      | some none => .ok (0, c.putAt p (some t))
      | some (some _) => if ifNotExists then .ok (0, c) else .error (.tableExists p.table) := by
  unfold createTable putAt standsAt?
  rw [bind_database]
  cases c.databases.find? p.database with
  | none => rfl
  | some d => cases ht : d.tables.find? p.table <;> simp [NameMap.contains, NameMap.assign, ht]

theorem dropTable_eq (c : Catalog) (p : Place) (ifExists : Bool) :
    c.dropTable p.database p.table ifExists =
      match c.standsAt? p with
      | none => .error (.unknownDatabase p.database)
      | some none =>
        if ifExists then .ok (0, c) else .error (.unknownTable p.database p.table)
      | some (some _) => .ok (0, c.putAt p none) := by
  unfold dropTable putAt standsAt?
  rw [bind_database]
  cases c.databases.find? p.database with
  | none => rfl
  | some d => cases ht : d.tables.find? p.table <;> simp [NameMap.contains, NameMap.assign, ht]

theorem changeTable_eq (c : Catalog) (p : Place)
    (change : Table → Except StatementError (Nat × Table)) :
    c.changeTable p.database p.table change =
      match c.standsAt? p with
      | none => .error (.unknownDatabase p.database)
      | some none => .error (.unknownTable p.database p.table)
      | some (some t) => (change t).map fun m => (m.1, c.putAt p (some m.2)) := by
  unfold changeTable putAt standsAt?
  rw [bind_database]
  cases c.databases.find? p.database with
  | none => rfl
  | some d =>
    cases ht : d.tables.find? p.table with
    | none => simp [ht]
    | some t =>
      simp only [ht, Option.map_some]
      cases change t <;> rfl

end Catalog

/-! ## The place of a statement -/

namespace Statement

/-- The table that a statement is about, where it is about one. -/
def table? : Statement → Option TableRef
  | createTable table .. | dropTable table _ | insert table .. | select table .. | update table .. |
    delete table _ => some table
  | createDatabase .. | dropDatabase .. | use _ | showTables => none

/-- The place that a statement is about, where it is about a table and its database is known. -/
def place? (statement : Statement) (database : Option String) : Option Place :=
  statement.table?.bind fun table =>
    match table.resolve database with
    | .ok name => some ⟨name, table.name⟩
    | .error _ => none

variable {statement : Statement} {database : Option String} {p : Place} {table : TableRef}

/-- A statement about a table has a place where the table's name resolves. -/
theorem place?_of_resolve (h : statement.table? = some table) {name : String}
    (hname : table.resolve database = .ok name) : statement.place? database = some ⟨name, table.name⟩ := by
  rw [place?, h]
  simp [hname]

/-- The place of a statement about a table is the one to which the table's name resolves. -/
theorem resolve_of_place? (h : statement.table? = some table) (hp : statement.place? database = some p) :
    ∃ name, table.resolve database = .ok name ∧ p = ⟨name, table.name⟩ := by
  rw [place?, h, Option.bind_some] at hp
  split at hp
  · next name hname => exact ⟨name, hname, (Option.some.inj hp).symm⟩
  · cases hp

end Statement

end WireSql
