import Mathlib.Data.List.Induction
import WireSql.Backend
import WireSql.Proofs.Outcome

/-!
# `WireSql.Proofs.Store.AllOrNothing`: a failed statement leaves no trace

The programs that serve a client overwrite tables and catalogs where they stand, and nothing undoes what a
program has written before it fails. `Transacts` says of such a program that it does to its place what a
function computes from it, and nothing at all where that function fails.

Every operation of `InPlace` transacts its counterpart of `Table`, `Catalog` and `Store`, which answer new
contents and touch none. `execute_transacts` is the whole: the backend runs the text of a statement as
`Store.execute` says, and a statement that fails leaves the store exactly as it was.
-/

namespace WireSql

namespace InPlace

variable {σ τ α β : Type}

/-! ## Running programs -/

@[simp] theorem exec_pure (a : α) (s : σ) : (pure a : InPlace σ α).exec s = (.ok a, s) := rfl

theorem exec_bind (p : InPlace σ α) (f : α → InPlace σ β) (s : σ) :
    (p >>= f).exec s =
      match p.exec s with
      | (.ok a, s') => (f a).exec s'
      | (.error e, s') => (.error e, s') := by
  show ExceptT.bindCont f (p s).1 (p s).2 = _
  unfold exec ExceptT.run StateT.run Id.run
  split
  · next a s' h => rw [h]; rfl
  · next e s' h => rw [h]; rfl

/-- A program succeeds behind another one where both do, the second at what the first has left. -/
theorem exec_bind_eq_ok_iff {p : InPlace σ α} {f : α → InPlace σ β} {s s' : σ} {b : β} :
    (p >>= f).exec s = (.ok b, s') ↔ ∃ a t, p.exec s = (.ok a, t) ∧ (f a).exec t = (.ok b, s') := by
  rw [exec_bind]
  obtain ⟨outcome, t⟩ := p.exec s
  cases outcome with
  | ok a => simp
  | error e => simp

@[simp] theorem exec_bind_get (f : σ → InPlace σ β) (s : σ) :
    ((get : InPlace σ σ) >>= f).exec s = (f s).exec s := rfl

@[simp] theorem exec_bind_modify (g : σ → σ) (f : Unit → InPlace σ β) (s : σ) :
    ((modify g : InPlace σ Unit) >>= f).exec s = (f ()).exec (g s) := rfl

@[simp] theorem exec_within (get : σ → τ) (put : σ → τ → σ) (p : InPlace τ α) (s : σ) :
    (within get put p).exec s = ((p.exec (get s)).1, put s (p.exec (get s)).2) := rfl

/-! ## All or nothing -/

/-- What becomes of a place: the new contents, or the old ones where there is a failure. -/
def settled (s : σ) : Except StatementError (α × σ) → Except StatementError α × σ
  | .ok (a, s') => (.ok a, s')
  | .error e => (.error e, s)

/-- **A program does to its place what a function computes from it**, and nothing where that fails. -/
def Transacts (p : InPlace σ α) (f : σ → Except StatementError (α × σ)) : Prop :=
  ∀ s, p.exec s = settled s (f s)

/-- A computation that touches no place, in front of a program that settles the place as a function
says. -/
theorem settles_bind {x : Except StatementError α} {f : α → InPlace σ β}
    {g : α → Except StatementError (β × σ)} {s : σ}
    (h : ∀ a, x = .ok a → (f a).exec s = settled s (g a)) :
    ((liftM x : InPlace σ α) >>= f).exec s = settled s (x >>= g) := by
  cases x with
  | error e => rfl
  | ok a => exact h a rfl

/-- The same, where the program goes on with something made of the outcome. -/
theorem settles_bind_map {γ : Type} {x : Except StatementError γ} {made : γ → α}
    {f : α → InPlace σ β} {g : γ → Except StatementError (β × σ)} {s : σ}
    (h : ∀ a, (f (made a)).exec s = settled s (g a)) :
    ((liftM (x.map made) : InPlace σ α) >>= f).exec s = settled s (x >>= g) := by
  cases x with
  | error e => rfl
  | ok a => exact h a

/-! ## Tables -/

/-- A loop that writes one thing for each element could have computed all the things first. -/
theorem foldlM_eq_foldl_mapM {γ δ ε : Type} {step : δ → γ → Except StatementError δ}
    {compute : γ → Except StatementError ε} {write : δ → ε → δ}
    (h : ∀ b a, step b a = (compute a).map (write b)) (b : δ) (l : List γ) :
    l.foldlM step b = (l.mapM compute).map (List.foldl write b) := by
  induction l generalizing b with
  | nil => rfl
  | cons a l ih =>
    rw [List.foldlM_cons, List.mapM_cons, h]
    cases compute a with
    | error e => rfl
    | ok v =>
      -- the rest of the loop starts from what the first step has written
      show l.foldlM step (write b v) = _
      rw [ih]
      cases l.mapM compute with
      | error e => rfl
      | ok vs => rfl

theorem foldlM_writeCell (targets : List (Nat × ColumnDef)) (values : List Value) (row : Row) :
    (targets.zip values).foldlM writeCell row =
      (Table.cellWrites targets values).map row.write := by
  unfold Table.cellWrites Row.write
  refine foldlM_eq_foldl_mapM (fun row write => ?_) row _
  obtain ⟨⟨i, c⟩, v⟩ := write
  unfold writeCell
  dsimp only
  cases c.type.coerce c.name v with
  | error e => rfl
  | ok w => rfl

theorem stageRow_eq (t : Table) (targets : List (Nat × ColumnDef)) (staged : List Row)
    (values : List Value) (number : Nat) :
    stageRow t targets staged (values, number) =
      (t.newRow targets number values).map fun row => staged ++ [row] := by
  unfold stageRow Table.newRow
  dsimp only
  split
  · rfl
  · rw [foldlM_writeCell]
    cases Table.cellWrites targets values with
    | error e => rfl
    | ok writes => rfl

theorem stageRows_eq (t : Table) (targets : List (Nat × ColumnDef)) (rows : List (List Value)) :
    stageRows t targets rows =
      ((rows.zipIdx 1).mapM fun (values, number) => t.newRow targets number values).map
        fun added => t.rows ++ added := by
  have hadded : List.foldl (fun staged row => staged ++ [row]) t.rows =
      fun added : List Row => t.rows ++ added := by
    funext added
    induction added using List.reverseRecOn with
    | nil => simp
    | append_singleton added row ih => simp [ih]
  unfold stageRows
  rw [foldlM_eq_foldl_mapM fun staged numbered =>
    stageRow_eq t targets staged numbered.1 numbered.2, hadded]

theorem insert_transacts (columns : Option (List String)) (rows : List (List Value)) :
    Transacts (insert columns rows) fun t => t.insert columns rows := by
  intro t
  show exec (liftM (t.insertTargets columns) >>= _) t = settled t (t.insertTargets columns >>= _)
  refine settles_bind fun targets _ => ?_
  rw [stageRows_eq]
  refine settles_bind_map fun added => ?_
  show _ = settled t (t.withRows (t.rows ++ added) >>= fun t' => pure (rows.length, t'))
  unfold Table.withRows
  rw [bind_assoc]
  exact settles_bind fun _ _ => rfl

theorem foldl_stageUpdate (width : Nat) (writes : List CellWrite) (tests : List CellTest)
    (rows : List Row) :
    rows.foldl (stageUpdate width writes tests) ([], 0) =
      (rows.map (Table.updateRow width writes tests), rows.countP fun row =>
        row.passes tests && !(Table.updateRow width writes tests row).same row) := by
  induction rows using List.reverseRecOn with
  | nil => rfl
  | append_singleton rows row ih =>
    rw [List.foldl_append, ih, List.map_append, List.countP_append]
    unfold stageUpdate Table.updateRow
    by_cases hp : row.passes tests
    · by_cases hs : ((row.padded width).write writes).same row <;> simp [hp, hs]
    · simp [hp]

theorem update_transacts (assignments : List Assignment) (filter : List Condition) :
    Transacts (update assignments filter) fun t => t.update assignments filter := by
  intro t
  unfold update Table.update
  rw [exec_bind_get]
  refine settles_bind fun writes _ => settles_bind fun tests _ => ?_
  dsimp only
  rw [foldl_stageUpdate]
  unfold Table.withRows
  rw [bind_assoc]
  refine settles_bind fun _ _ => ?_
  rw [exec_bind_modify, exec_pure]
  rfl

theorem delete_transacts (filter : List Condition) :
    Transacts (delete filter) fun t => t.delete filter := by
  intro t
  show exec (liftM (t.tests filter) >>= _) t = settled t (t.tests filter >>= _)
  exact settles_bind fun _ _ => rfl

/-! ## Catalogs -/

theorem createDatabase_transacts (name : String) (ifNotExists : Bool) :
    Transacts (createDatabase name ifNotExists) fun c => c.createDatabase name ifNotExists := by
  intro c
  unfold createDatabase Catalog.createDatabase
  rw [exec_bind_get]
  dsimp only
  cases c.hasDatabase name <;> cases ifNotExists <;> rfl

/-- The database is removed before the check whether there is one. -/
theorem dropDatabase_transacts (name : String) (ifExists : Bool) :
    Transacts (dropDatabase name ifExists) fun c => c.dropDatabase name ifExists := by
  intro c
  unfold dropDatabase Catalog.dropDatabase
  rw [exec_bind_get, exec_bind_modify]
  dsimp only
  -- where there is none, removing it has changed nothing
  cases hfound : c.databases.find? name with
  | some d => rfl
  | none =>
    rw [NameMap.erase_of_find? hfound]
    cases ifExists <;> rfl

theorem createTable_transacts (database name : String) (t : Table) (ifNotExists : Bool) :
    Transacts (createTable database name t ifNotExists) fun c =>
      c.createTable database name t ifNotExists := by
  intro c
  show exec (liftM (c.database database) >>= _) c = settled c (c.database database >>= _)
  refine settles_bind fun d _ => ?_
  cases d.tables.contains name <;> cases ifNotExists <;> rfl

/-- The table is removed before the check whether there is one. -/
theorem dropTable_transacts (database name : String) (ifExists : Bool) :
    Transacts (dropTable database name ifExists) fun c => c.dropTable database name ifExists := by
  intro c
  show exec (liftM (c.database database) >>= _) c = settled c (c.database database >>= _)
  refine settles_bind fun d hd => ?_
  rw [exec_bind_modify]
  cases hfound : d.tables.find? name with
  | some t =>
    have hcontains : d.tables.contains name = true := by simp [NameMap.contains, hfound]
    rw [hcontains]
    rfl
  | none =>
    have hcontains : d.tables.contains name = false := by simp [NameMap.contains, hfound]
    rw [hcontains, NameMap.erase_of_find? hfound, Catalog.setTables_of_find? (Catalog.find?_of_database hd)]
    cases ifExists <;> rfl

/-- **A program on a table where it stands changes the catalog as a change of the table does.** -/
theorem atTable_transacts {p : InPlace Table Nat} {f : Table → Except StatementError (Nat × Table)}
    (h : Transacts p f) (database name : String) :
    Transacts (atTable database name p) fun c => c.changeTable database name f := by
  intro c
  show exec (liftM (c.database database) >>= _) c = settled c (c.database database >>= _)
  refine settles_bind fun d hd => ?_
  cases hfound : d.tables.find? name with
  | none => rfl
  | some t =>
    show exec (within _ _ p) c = settled c (f t >>= _)
    rw [exec_within, h t]
    cases f t with
    | ok changed => rfl
    | error e =>
      -- the table that is put back is the one that was there
      show (_, c.setTables database (d.tables.insert name t)) = (_, c)
      rw [NameMap.insert_of_find? hfound, Catalog.setTables_of_find? (Catalog.find?_of_database hd)]
      rfl

/-! ## Statements -/

theorem reporting_transacts {p : InPlace Catalog Nat}
    {f : Catalog → Except StatementError (Nat × Catalog)} (h : Transacts p f) :
    Transacts (reporting p) fun c => affecting (f c) := by
  intro c
  unfold reporting affecting
  rw [exec_bind, h c]
  dsimp only
  cases f c with
  | ok m => rfl
  | error e => rfl

/-- A statement that only reads leaves the catalog. -/
theorem run_of_not_isMutation {c c' : Catalog} {statement : Statement} {database : Option String}
    {result : ResultSet} (hreads : statement.isMutation = false)
    (h : c.run statement database = .ok (result, c')) : c' = c := by
  have hkept : Yields (c.run statement database) fun v => v.2 = c := by
    cases statement with
    | use name => exact yields_bind fun _ _ => yields_pure rfl
    | showTables => exact yields_bind fun _ _ => yields_bind fun _ _ => yields_pure rfl
    | select table projection filter limit =>
      exact yields_bind fun _ _ => yields_bind fun _ _ => yields_bind fun _ _ => yields_pure rfl
    | _ => cases hreads
  exact hkept (result, c') h

theorem run_transacts (statement : Statement) (database : Option String) :
    Transacts (run statement database) fun c => c.run statement database := by
  intro c
  -- a statement that reads runs on a copy and leaves the catalog
  have hreads : statement.isMutation = false →
      exec (do return (← liftM (c.run statement database)).1) c =
        settled c (c.run statement database) := by
    intro hreads
    cases hrun : c.run statement database with
    | error e => rfl
    | ok v =>
      rw [← run_of_not_isMutation hreads hrun]
      rfl
  cases statement with
  | use name => exact hreads rfl
  | showTables => exact hreads rfl
  | select table projection filter limit => exact hreads rfl
  | createDatabase name ifNotExists =>
    exact reporting_transacts (createDatabase_transacts name ifNotExists) c
  | dropDatabase name ifExists => exact reporting_transacts (dropDatabase_transacts name ifExists) c
  | createTable table ifNotExists columns primaryKey =>
    refine settles_bind fun name _ => settles_bind fun t _ => ?_
    exact reporting_transacts (createTable_transacts name table.name t ifNotExists) c
  | dropTable table ifExists =>
    refine settles_bind fun name _ => ?_
    exact reporting_transacts (dropTable_transacts name table.name ifExists) c
  | insert table columns rows =>
    refine settles_bind fun name _ => ?_
    exact reporting_transacts (atTable_transacts (insert_transacts columns rows) name table.name) c
  | update table assignments filter =>
    refine settles_bind fun name _ => ?_
    exact reporting_transacts
      (atTable_transacts (update_transacts assignments filter) name table.name) c
  | delete table filter =>
    refine settles_bind fun name _ => ?_
    exact reporting_transacts (atTable_transacts (delete_transacts filter) name table.name) c

/-- **The text of a statement is run as a whole or not at all.** -/
theorem execute_transacts (sql : String) (database : Option String) :
    Transacts (execute sql database) fun s => s.execute sql database := by
  intro s
  refine settles_bind fun statement _ => ?_
  rw [exec_bind, exec_within, run_transacts statement database s.catalog]
  dsimp only
  cases s.catalog.run statement database with
  | error e => rfl
  | ok v => cases statement.isMutation <;> rfl

end InPlace

/-- **The backend runs a statement as `Store.execute` says**, and keeps the store where that fails. -/
theorem Store.backend_execute (s : Store) (sql : String) (capabilities : UInt32)
    (database : Option String) :
    Store.backend.execute s sql capabilities database =
      match s.execute sql database with
      | .ok (result, s') => (.ok result, s')
      | .error e => (.error e.toQueryError, s) := by
  have h := InPlace.execute_transacts sql database s
  unfold Store.backend
  dsimp only
  rw [h]
  dsimp only
  cases s.execute sql database with
  | ok v => rfl
  | error e => rfl

end WireSql
