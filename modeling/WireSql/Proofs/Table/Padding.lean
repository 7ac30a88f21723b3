import WireSql.Proofs.Table.Assignments
import WireSql.Proofs.Table.Bounds

/-!
# `WireSql.Proofs.Table.Padding`: rows that are too short

A snapshot may hold rows with fewer cells than the table has columns. Nothing fills them up but an update, and
that only where it changes them; every operation reads the missing cells as NULL instead. This comes to the
same as if the rows had been filled up from the start: `Table.ReadsAsPadded` compares a table with its padded
version, operation by operation, and says that the two have the same outcomes and stay each other's versions.

The one difference is what an update reports. A row that it pads has changed, even where it writes into the
row what stood there; in the padded table it has not.

That the operations can take short rows as they are is one half. The other is that they do not go beyond their
ends: see `Checked.InRange`.
-/

namespace WireSql

namespace Row

@[simp] theorem passes_padded (row : Row) (width : Nat) (tests : List CellTest) :
    (row.padded width).passes tests = row.passes tests := by
  simp [Row.passes]

@[simp] theorem padded_padded (row : Row) (width : Nat) : (row.padded width).padded width = row.padded width :=
  padded_of_le (by rw [length_padded]; exact Nat.le_max_right _ _)

/-- **Padding before an update and after it comes to the same.** -/
theorem updateRow_padded (width : Nat) (writes : List CellWrite) (tests : List CellTest) (row : Row) :
    Table.updateRow width writes tests (row.padded width) =
      (Table.updateRow width writes tests row).padded width := by
  unfold Table.updateRow
  rw [passes_padded]
  split
  · have hwidth : width ≤ ((row.padded width).write writes).length := by
      rw [length_write, length_padded]
      exact Nat.le_max_right _ _
    rw [padded_padded, padded_of_le hwidth]
  · rfl

end Row

namespace Table

variable {t : Table}

/-- The table with its short rows filled up. -/
def padded (t : Table) : Table := { t with rows := t.rows.map (·.padded t.width) }

/-! ## Keys -/

/-- The check of keys reads cells only. -/
theorem checkKeysFrom_padded (columns : List ColumnDef) (key : List Nat) (width : Nat)
    (earlier rows : List Row) :
    checkKeysFrom columns key (earlier.map (·.padded width)) (rows.map (·.padded width)) =
      checkKeysFrom columns key earlier rows := by
  induction rows generalizing earlier with
  | nil => rfl
  | cons row rows ih =>
    have hcells : (row.padded width).cell = row.cell := funext fun i => Row.cell_padded row width i
    have hsame : (earlier.map (·.padded width)).any (fun other => sameKey key other (row.padded width)) =
        earlier.any fun other => sameKey key other row := by
      simp [sameKey, Function.comp_def]
    rw [List.map_cons, checkKeysFrom, checkKeysFrom, hsame, hcells, ← ih, List.map_append]
    rfl

theorem withRows_padded (t : Table) (rows : List Row) :
    t.padded.withRows (rows.map (·.padded t.width)) = (t.withRows rows).map padded := by
  have hkeys : t.padded.checkKeys (rows.map (·.padded t.width)) = t.checkKeys rows := by
    unfold checkKeys
    rw [← checkKeysFrom_padded t.columns t.keyIndices t.width [] rows]
    rfl
  unfold withRows
  rw [hkeys]
  cases t.checkKeys rows with
  | ok u => rfl
  | error e => rfl

/-! ## Operations -/

/-- The rows that pass tests are found in the padded table as well, padded. -/
theorem filter_padded (t : Table) (p : Row → Bool) (h : ∀ row : Row, p (row.padded t.width) = p row) :
    t.padded.rows.filter p = (t.rows.filter p).map (·.padded t.width) := by
  show (t.rows.map _).filter p = _
  rw [List.filter_map]
  congr 2
  exact funext h

/-- Short rows are shown as the padded ones are. -/
theorem showing_padded (shown : List (String × Nat)) (width : Nat) (rows : List Row) :
    showing shown (rows.map (·.padded width)) = showing shown rows := by
  simp [showing, Function.comp_def]

theorem select_padded (t : Table) (projection : Projection) (filter : List Condition) (limit : Option Nat) :
    t.padded.select projection filter limit = t.select projection filter limit := by
  show (t.shown projection >>= _) = (t.shown projection >>= _)
  congr 1
  funext shown
  show (t.tests filter >>= _) = (t.tests filter >>= _)
  congr 1
  funext tests
  dsimp only
  rw [filter_padded t (·.passes tests) fun row => Row.passes_padded row t.width tests]
  cases limit with
  | none => exact congrArg Except.ok (showing_padded shown t.width _)
  | some n =>
    show Except.ok (showing shown (List.take n _)) = _
    rw [← List.map_take]
    exact congrArg Except.ok (showing_padded shown t.width _)

theorem insert_padded (t : Table) (columns : Option (List String)) (rows : List (List Value)) :
    t.padded.insert columns rows = (t.insert columns rows).map (Prod.map id padded) := by
  refine bind_eq_map_bind fun targets htargets => bind_eq_map_bind fun added hadded => ?_
  have htargets := yields_insertTargets t columns targets htargets
  have hfits := yields_mapM (fun _ _ => yields_newRow htargets _ _) added hadded
  have hrows : t.padded.rows ++ added = (t.rows ++ added).map (·.padded t.width) := by
    have hadded : added.map (·.padded t.width) = added :=
      (List.map_congr_left fun row hrow => (hfits row hrow).padded).trans (List.map_id added)
    rw [List.map_append, hadded]
    rfl
  rw [hrows, withRows_padded]
  cases t.withRows (t.rows ++ added) with
  | ok t' => rfl
  | error e => rfl

/-- The two updates leave versions of each other; how many rows they have changed may differ. -/
theorem update_padded (t : Table) (assignments : List Assignment) (filter : List Condition) :
    (t.padded.update assignments filter).map Prod.snd =
      (t.update assignments filter).map fun m => m.2.padded := by
  show ((t.assigned assignments >>= _).map _) = ((t.assigned assignments >>= _).map _)
  cases t.assigned assignments with
  | error e => rfl
  | ok writes =>
    show ((t.tests filter >>= _).map _) = ((t.tests filter >>= _).map _)
    cases t.tests filter with
    | error e => rfl
    | ok tests =>
      have hrows : t.padded.rows.map (updateRow t.width writes tests) =
          (t.rows.map (updateRow t.width writes tests)).map (·.padded t.width) := by
        show (t.rows.map _).map _ = _
        rw [List.map_map, List.map_map]
        exact List.map_congr_left fun row _ => Row.updateRow_padded t.width writes tests row
      show ((t.padded.withRows (t.padded.rows.map (updateRow t.width writes tests)) >>= _).map _) =
        ((t.withRows (t.rows.map (updateRow t.width writes tests)) >>= _).map _)
      rw [hrows, withRows_padded]
      cases t.withRows (t.rows.map (updateRow t.width writes tests)) with
      | ok t' => rfl
      | error e => rfl

theorem delete_padded (t : Table) (filter : List Condition) :
    t.padded.delete filter = (t.delete filter).map (Prod.map id padded) := by
  refine bind_eq_map_bind fun tests _ => ?_
  have hpasses : ∀ row : Row, (!(row.padded t.width).passes tests) = !row.passes tests :=
    fun row => congrArg _ (Row.passes_padded row t.width tests)
  dsimp only
  rw [filter_padded t _ hpasses, List.length_map]
  show Except.ok ((t.rows.map _).length - _, _) = _
  rw [List.length_map]
  rfl

/-- A program does to the padded table what it does to the table, if what is computed from them agrees. -/
theorem exec_padded {p : InPlace Table Nat} {f : Table → Except StatementError (Nat × Table)}
    (htransacts : InPlace.Transacts p f) (hf : f t.padded = (f t).map (Prod.map id padded)) :
    p.exec t.padded = (p.exec t).map id padded := by
  rw [htransacts t, htransacts t.padded, hf]
  cases f t with
  | ok m => rfl
  | error e => rfl

/-- The same, where the computations agree but for what is reported. -/
theorem exec_padded_of_snd {p : InPlace Table Nat} {f : Table → Except StatementError (Nat × Table)}
    (htransacts : InPlace.Transacts p f)
    (hf : (f t.padded).map Prod.snd = (f t).map fun m => m.2.padded) :
    (∀ e, (p.exec t.padded).1 = .error e ↔ (p.exec t).1 = .error e) ∧
      (p.exec t.padded).2 = (p.exec t).2.padded := by
  rw [htransacts t, htransacts t.padded]
  cases hpadded : f t.padded with
  | ok m =>
    cases hshort : f t with
    | ok m' =>
      rw [hpadded, hshort] at hf
      exact ⟨fun e => ⟨nofun, nofun⟩, Except.ok.inj hf⟩
    | error e =>
      rw [hpadded, hshort] at hf
      cases hf
  | error e =>
    cases hshort : f t with
    | ok m =>
      rw [hpadded, hshort] at hf
      cases hf
    | error e' =>
      rw [hpadded, hshort] at hf
      cases hf
      exact ⟨fun _ => Iff.rfl, rfl⟩

/-- **A table and its padded version cannot be told apart** but by the number that an update reports, and they
stay versions of each other. -/
structure ReadsAsPadded (t : Table) : Prop where
  /-- A selection has the same outcome. -/
  select : ∀ projection filter limit,
    t.padded.select projection filter limit = t.select projection filter limit
  /-- An insertion has the same outcome. -/
  insert : ∀ columns rows, (InPlace.insert columns rows).exec t.padded =
    ((InPlace.insert columns rows).exec t).map id padded
  /-- An update is refused for the same reason or not at all. -/
  update : ∀ assignments filter,
    (∀ e, ((InPlace.update assignments filter).exec t.padded).1 = .error e ↔
      ((InPlace.update assignments filter).exec t).1 = .error e) ∧
    ((InPlace.update assignments filter).exec t.padded).2 =
      ((InPlace.update assignments filter).exec t).2.padded
  /-- A removal has the same outcome. -/
  delete : ∀ filter, (InPlace.delete filter).exec t.padded = ((InPlace.delete filter).exec t).map id padded

/-- **Short rows are read as if they had been filled up**, by every operation and whatever else is wrong with
the table: rows that are too long, or names in its key that no column has. And none of the operations uses an
index out of range. -/
theorem reads_as_padded (t : Table) : t.ReadsAsPadded ∧ Checked.InRange t := by
  refine ⟨⟨select_padded t, fun columns rows => ?_, fun assignments filter => ?_, fun filter => ?_⟩,
    Checked.inRange t⟩
  · exact exec_padded (InPlace.insert_transacts columns rows) (insert_padded t columns rows)
  · exact exec_padded_of_snd (InPlace.update_transacts assignments filter)
      (update_padded t assignments filter)
  · exact exec_padded (InPlace.delete_transacts filter) (delete_padded t filter)

/-- Writing NULL into a cell that is missing changes the short row, but not the padded one. -/
example :
    let t : Table := { columns := [⟨"a", .int⟩, ⟨"b", .int⟩], rows := [[.int 1]] }
    let assignments : List Assignment := [⟨"b", .null⟩]
    (InPlace.update assignments []).exec t = (.ok 1, t.padded) ∧
      (InPlace.update assignments []).exec t.padded = (.ok 0, t.padded) := by decide +kernel

end Table

end WireSql
