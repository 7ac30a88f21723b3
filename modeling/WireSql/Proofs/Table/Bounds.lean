import WireSql.Proofs.Store.AllOrNothing
import WireSql.Proofs.Table.Invariant
import WireSql.Table.Checked

/-!
# `WireSql.Proofs.Table.Bounds`: no index out of range

The operations of `Checked` stop where they would read a column or write a cell that is not there. They
never do: `inRange` says that on every table, its rows as long as its columns or not and its key made of
columns or not, they have the outcomes of the operations that check nothing.

Three facts carry this. A column is found at a position where there is one, the positions of a key are
among these, and a row is as long as the columns before it is written.
-/

namespace WireSql

namespace Checked

variable {α β : Type} {t : Table} {row : Row}

/-! ## Outcomes -/

theorem ofOutcome_bind (x : Except StatementError α) (f : α → Except StatementError β) :
    ofOutcome (x >>= f) = ofOutcome x >>= fun a => ofOutcome (f a) := by
  cases x with
  | ok a => rfl
  | error e => rfl

theorem ofOutcome_mapM (f : α → Except StatementError β) (l : List α) :
    ofOutcome (l.mapM f) = l.mapM fun a => ofOutcome (f a) := by
  induction l with
  | nil => rfl
  | cons a l ih =>
    rw [List.mapM_cons, List.mapM_cons, ofOutcome_bind]
    congr 1
    funext b
    rw [ofOutcome_bind, ih]
    rfl

/-- A checked step behind an outcome is an outcome where it is one for each answer. -/
theorem bind_eq_ofOutcome {x : Except StatementError α} {f : α → Checked β}
    {g : α → Except StatementError β} (h : ∀ a, x = .ok a → f a = ofOutcome (g a)) :
    ofOutcome x >>= f = ofOutcome (x >>= g) := by
  cases x with
  | ok a => exact h a rfl
  | error e => rfl

/-- The same, where the step goes on with something made of the answer. -/
theorem bind_map_eq_ofOutcome {γ : Type} {x : Except StatementError γ} {made : γ → α} {f : α → Checked β}
    {g : γ → Except StatementError β} (h : ∀ a, x = .ok a → f (made a) = ofOutcome (g a)) :
    ofOutcome (x.map made) >>= f = ofOutcome (x >>= g) := by
  cases x with
  | ok a => exact h a rfl
  | error e => rfl

/-! ## Columns -/

theorem entry_of_getElem? {l : List α} {i : Nat} {a : α} (h : l[i]? = some a) : entry l i = .ok a := by
  unfold entry
  rw [h]

/-- **A column is found where there is one.** -/
theorem position_bind {part : ClausePart} {name : String} {f : Nat → Checked α}
    {g : Nat × ColumnDef → Except StatementError α}
    (h : ∀ i c, t.columns[i]? = some c → f i = ofOutcome (g (i, c))) :
    position t part name >>= f = ofOutcome (t.column part name >>= g) := by
  unfold position Table.column
  cases hi : Table.columnIndex? t.columns name with
  | none => rfl
  | some i =>
    obtain ⟨c, hc⟩ := Table.exists_column_of_columnIndex? hi
    dsimp only
    rw [hc]
    exact h i c hc

theorem coerceAt_of_getElem? {i : Nat} {c : ColumnDef} (hc : t.columns[i]? = some c) (v : Value) :
    coerceAt t i v = ofOutcome (c.type.coerce c.name v) := by
  unfold coerceAt
  rw [entry_of_getElem? hc]
  rfl

theorem tests_eq (t : Table) (filter : List Condition) :
    filter.mapM (test t) = ofOutcome (t.tests filter) := by
  unfold Table.tests
  rw [ofOutcome_mapM]
  congr 1
  funext condition
  refine position_bind fun i c hc => ?_
  rw [entry_of_getElem? hc]
  rfl

theorem shown_eq (t : Table) (projection : Projection) :
    shown t projection = ofOutcome (t.shown projection) := by
  cases projection with
  | all => rfl
  | items items =>
    show items.mapM (shownItem t) = ofOutcome (items.mapM _)
    rw [ofOutcome_mapM]
    congr 1
    funext item
    refine position_bind fun i c hc => ?_
    rw [entry_of_getElem? hc]
    cases item.label with
    | some label => rfl
    | none => rfl

theorem assigned_eq (t : Table) (assignments : List Assignment) :
    assignments.mapM (assignedCell t) = ofOutcome (t.assigned assignments) := by
  unfold Table.assigned
  rw [ofOutcome_mapM]
  congr 1
  funext a
  refine position_bind fun i c hc => ?_
  rw [coerceAt_of_getElem? hc]
  exact bind_eq_ofOutcome fun v _ => rfl

/-! ## Keys -/

theorem checkKeysFrom_eq {columns : List ColumnDef} {key : List Nat}
    (hkey : ∀ i ∈ key, i < columns.length) (earlier rows : List Row) :
    checkKeysFrom columns key earlier rows = ofOutcome (Table.checkKeysFrom columns key earlier rows) := by
  induction rows generalizing earlier with
  | nil => rfl
  | cons row rows ih =>
    rw [checkKeysFrom, Table.checkKeysFrom]
    cases hnull : key.find? fun i => (row.cell i).isNull with
    | some i =>
      have hc := List.getElem?_eq_getElem (hkey i (List.mem_of_find?_eq_some hnull))
      dsimp only
      rw [entry_of_getElem? hc, hc]
      rfl
    | none =>
      dsimp only
      split
      · rfl
      · exact ih (earlier ++ [row])

/-- **The positions of a key are those of columns**, also where the key names others as well. -/
theorem lt_of_mem_keyIndices {i : Nat} (h : i ∈ t.keyIndices) : i < t.columns.length := by
  obtain ⟨name, -, hi⟩ := List.mem_filterMap.mp h
  obtain ⟨c, hc⟩ := Table.exists_column_of_columnIndex? hi
  exact (List.getElem?_eq_some_iff.mp hc).1

theorem withRows_eq (t : Table) (rows : List Row) : withRows t rows = ofOutcome (t.withRows rows) := by
  unfold withRows Table.withRows Table.checkKeys
  split
  · rfl
  · rw [checkKeysFrom_eq fun i hi => lt_of_mem_keyIndices hi]
    exact bind_eq_ofOutcome fun _ _ => rfl

/-! ## Rows -/

theorem put_of_lt {i : Nat} (h : i < row.length) (v : Value) : put row i v = .ok (row.set i v) := if_pos h

/-- What a row as long as the columns is written with stands within it. -/
theorem foldlM_writeCell {writes : List ((Nat × ColumnDef) × Value)}
    (hwrites : ∀ write ∈ writes, t.columns[write.1.1]? = some write.1.2) (hrow : row.length = t.width) :
    (writes.map fun write => (write.1.1, write.2)).foldlM (writeCell t) row =
      ofOutcome (writes.foldlM InPlace.writeCell row) := by
  induction writes generalizing row with
  | nil => rfl
  | cons write writes ih =>
    rw [List.forall_mem_cons] at hwrites
    obtain ⟨⟨i, c⟩, v⟩ := write
    have hi : i < row.length := hrow ▸ (List.getElem?_eq_some_iff.mp hwrites.1).1
    rw [List.map_cons, List.foldlM_cons, List.foldlM_cons]
    have hcell : writeCell t row (i, v) = ofOutcome (InPlace.writeCell row ((i, c), v)) := by
      unfold writeCell InPlace.writeCell
      rw [coerceAt_of_getElem? hwrites.1]
      exact bind_eq_ofOutcome fun w _ => put_of_lt hi w
    rw [hcell]
    refine bind_eq_ofOutcome fun written hwritten => ih hwrites.2 ?_
    unfold InPlace.writeCell at hwritten
    obtain ⟨w, -, ⟨⟩⟩ := bind_eq_ok_iff.mp hwritten
    rw [List.length_set, hrow]

theorem newRow_eq {targets : List (Nat × ColumnDef)}
    (htargets : ∀ target ∈ targets, t.columns[target.1]? = some target.2) (number : Nat)
    (values : List Value) :
    newRow t (targets.map Prod.fst) number values = ofOutcome (t.newRow targets number values) := by
  unfold newRow Table.newRow
  rw [List.length_map]
  split
  · rfl
  · have hwrites : ∀ write ∈ targets.zip values, t.columns[write.1.1]? = some write.1.2 :=
      fun write hwrite => htargets write.1 (List.of_mem_zip hwrite).1
    rw [List.zip_map_left]
    refine (foldlM_writeCell hwrites List.length_replicate).trans (congrArg ofOutcome ?_)
    rw [InPlace.foldlM_writeCell]
    cases Table.cellWrites targets values with
    | ok writes => rfl
    | error e => rfl

theorem newRows_eq {targets : List (Nat × ColumnDef)}
    (htargets : ∀ target ∈ targets, t.columns[target.1]? = some target.2)
    (numbered : List (List Value × Nat)) :
    (numbered.mapM fun (values, number) => newRow t (targets.map Prod.fst) number values) =
      ofOutcome (numbered.mapM fun (values, number) => t.newRow targets number values) := by
  rw [ofOutcome_mapM]
  congr 1
  funext (values, number)
  exact newRow_eq htargets number values

theorem position_eq (t : Table) (part : ClausePart) (name : String) :
    position t part name = ofOutcome ((t.column part name).map Prod.fst) := by
  unfold position Table.column
  cases Table.columnIndex? t.columns name with
  | none => rfl
  | some i => rfl

theorem insertTargets_eq (t : Table) (columns : Option (List String)) :
    insertTargets t columns = ofOutcome ((t.insertTargets columns).map (List.map Prod.fst)) := by
  cases columns with
  | none =>
    show Except.ok (List.range t.width) = Except.ok (List.map _ (List.map _ _))
    unfold Table.width
    rw [List.map_map, List.range_eq_range', ← List.zipIdx_map_snd 0 t.columns]
    rfl
  | some names =>
    show names.mapM (position t .fieldList) = ofOutcome ((names.mapM (t.column .fieldList)).map _)
    induction names with
    | nil => rfl
    | cons name names ih =>
      rw [List.mapM_cons, List.mapM_cons, ih, position_eq]
      cases t.column .fieldList name with
      | error e => rfl
      | ok p => cases names.mapM (t.column .fieldList) <;> rfl

theorem foldlM_put {writes : List CellWrite} (h : ∀ w ∈ writes, w.index < row.length) :
    writes.foldlM (fun r w => put r w.index w.value) row = .ok (row.write writes) := by
  induction writes generalizing row with
  | nil => rfl
  | cons w writes ih =>
    rw [List.forall_mem_cons] at h
    rw [List.foldlM_cons, put_of_lt h.1]
    exact ih (by simpa using h.2)

/-- **A row is padded to the columns before it is written**, and so every write stands within it. -/
theorem updateRow_eq {width : Nat} {writes : List CellWrite} (hwrites : ∀ w ∈ writes, w.index < width)
    (tests : List CellTest) (row : Row) :
    updateRow width writes tests row = .ok (Table.updateRow width writes tests row) := by
  unfold updateRow Table.updateRow
  split
  · refine foldlM_put fun w hw => Nat.lt_of_lt_of_le (hwrites w hw) ?_
    rw [Row.length_padded]
    exact Nat.le_max_right _ _
  · rfl

/-! ## Operations -/

/-- **No operation on a table uses an index out of range.** Checked at every index, it has the outcome that it
has without a check, and so it is never stopped by one. -/
structure InRange (t : Table) : Prop where
  /-- A selection reads the columns that are there. -/
  select : ∀ projection filter limit,
    select t projection filter limit = ofOutcome (t.select projection filter limit)
  /-- An insertion reads the columns that are there, and writes within its rows. -/
  insert : ∀ columns rows, insert t columns rows = ofOutcome (t.insert columns rows)
  /-- An update reads the columns that are there, and writes within the rows that it changes. -/
  update : ∀ assignments filter, update t assignments filter = ofOutcome (t.update assignments filter)
  /-- A removal reads the columns that are there. -/
  delete : ∀ filter, delete t filter = ofOutcome (t.delete filter)

theorem inRange (t : Table) : InRange t := by
  constructor
  · intro projection filter limit
    unfold select Table.select
    rw [shown_eq, tests_eq]
    exact bind_eq_ofOutcome fun shown _ => bind_eq_ofOutcome fun tests _ => rfl
  · intro columns rows
    unfold insert Table.insert
    rw [insertTargets_eq]
    refine bind_map_eq_ofOutcome fun targets htargets => ?_
    rw [newRows_eq (Table.yields_insertTargets t columns targets htargets)]
    refine bind_eq_ofOutcome fun added _ => ?_
    rw [withRows_eq]
    exact bind_eq_ofOutcome fun _ _ => rfl
  · intro assignments filter
    unfold update Table.update
    rw [assigned_eq, tests_eq]
    refine bind_eq_ofOutcome fun writes hwrites => bind_eq_ofOutcome fun tests _ => ?_
    have hwithin : ∀ w ∈ writes, w.index < t.width := by
      intro w hw
      obtain ⟨c, hc, -⟩ := Table.yields_assigned t assignments writes hwrites w hw
      exact (List.getElem?_eq_some_iff.mp hc).1
    have hrows : t.rows.mapM (updateRow t.width writes tests) =
        .ok (t.rows.map (Table.updateRow t.width writes tests)) := by
      rw [funext (updateRow_eq hwithin tests)]
      exact List.mapM_pure
    rw [hrows]
    show (withRows t _ >>= _) = _
    rw [withRows_eq]
    refine bind_eq_ofOutcome fun t' _ => ?_
    rw [← List.map_prod_left_eq_zip, List.countP_map]
    rfl
  · intro filter
    unfold delete Table.delete
    rw [tests_eq]
    exact bind_eq_ofOutcome fun tests _ => rfl

end Checked

end WireSql
