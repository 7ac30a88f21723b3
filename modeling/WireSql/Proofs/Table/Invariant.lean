import WireSql.Proofs.Table.Schema

/-!
# `WireSql.Proofs.Table.Invariant`: what every operation on a table keeps

`Table.Invariant` is the condition that a table meets between two statements: its declaration is in order,
every row has a cell for every column and fits it, and the cells of the key are in order. Inserting and
updating establish the last part by `Table.checkKeys`, which looks at every pair of rows
(`keysInOrder_of_checkKeysFrom`); removing rows cannot break it.

The operations are gone through one by one, from the cell over the row to the table.
-/

namespace WireSql

/-! ## Rows that fit -/

/-- **A row fits columns**: it has one cell for each, with a value that the column stores. -/
structure Row.Fits (row : Row) (columns : List ColumnDef) : Prop where
  width : row.length = columns.length
  stores : ∀ (i : Nat) (c : ColumnDef), columns[i]? = some c → c.type.Stores (row.cell i)

/-- A write fits columns: it puts into one of them what that one stores. -/
def CellWrite.Fits (w : CellWrite) (columns : List ColumnDef) : Prop :=
  ∃ c, columns[w.index]? = some c ∧ c.type.Stores w.value

namespace Row

variable {row : Row} {columns : List ColumnDef}

theorem cell_set (row : Row) (i j : Nat) (v : Value) :
    Row.cell (row.set i v) j = if i = j ∧ i < row.length then v else row.cell j := by
  unfold cell
  rw [List.getElem?_set]
  by_cases hij : i = j
  · subst hij
    by_cases hi : i < row.length
    · simp [hi]
    · simp [hi]
  · simp [hij]

theorem length_padded (row : Row) (width : Nat) : (row.padded width).length = max row.length width := by
  unfold Row.padded
  rw [List.length_append, List.length_replicate]
  omega

/-- **A missing cell reads as the NULL that it would be padded with.** -/
@[simp] theorem cell_padded (row : Row) (width i : Nat) : (row.padded width).cell i = row.cell i := by
  unfold Row.padded cell
  by_cases hi : i < row.length
  · rw [List.getElem?_append_left hi]
  · have hi : row.length ≤ i := Nat.not_lt.mp hi
    rw [List.getElem?_append_right hi, List.getElem?_replicate, List.getElem?_eq_none hi]
    split
    · rfl
    · rfl

theorem padded_of_le {width : Nat} (h : width ≤ row.length) : row.padded width = row := by
  unfold Row.padded
  rw [Nat.sub_eq_zero_of_le h, List.replicate_zero, List.append_nil]

theorem Fits.set (h : row.Fits columns) {w : CellWrite} (hw : w.Fits columns) :
    Fits (row.set w.index w.value) columns := by
  constructor
  · rw [List.length_set]
    exact h.width
  · intro i c hc
    rw [cell_set]
    split
    · next hi =>
      -- the column written and the column looked at are the same
      obtain ⟨d, hd, hstores⟩ := hw
      rw [hi.1, hc] at hd
      obtain rfl := Option.some.inj hd
      exact hstores
    · exact h.stores i c hc

/-- Writes that fit keep a row fitting. -/
theorem Fits.write (h : row.Fits columns) {writes : List CellWrite}
    (hw : ∀ w ∈ writes, w.Fits columns) : Fits (row.write writes) columns := by
  unfold Row.write
  induction writes generalizing row with
  | nil => exact h
  | cons w writes ih =>
    rw [List.foldl_cons]
    exact ih (h.set (hw w List.mem_cons_self)) fun v hv => hw v (List.mem_cons_of_mem _ hv)

/-- A row of NULLs fits. -/
theorem fits_null (columns : List ColumnDef) :
    Fits (List.replicate columns.length .null) columns := by
  constructor
  · exact List.length_replicate
  · intro i c _
    have hnull : cell (List.replicate columns.length .null) i = .null := by
      unfold cell
      rw [List.getElem?_replicate]
      split <;> rfl
    rw [hnull]
    exact .null _

/-- A row that fits needs no padding. -/
theorem Fits.padded (h : row.Fits columns) : row.padded columns.length = row :=
  padded_of_le (Nat.le_of_eq h.width.symm)

end Row

/-! ## Keys in order -/

namespace Table

/-- **The keys of rows are in order**: none has a NULL in it, and no two are equal. -/
structure KeysInOrder (key : List Nat) (rows : List Row) : Prop where
  not_null : ∀ row ∈ rows, ∀ i ∈ key, (row.cell i).isNull = false
  differ : rows.Pairwise fun a b => sameKey key a b = false

theorem KeysInOrder.sublist {key : List Nat} {rows fewer : List Row} (h : KeysInOrder key rows)
    (hfewer : fewer.Sublist rows) : KeysInOrder key fewer where
  not_null row hrow := h.not_null row (hfewer.subset hrow)
  differ := h.differ.sublist hfewer

/-- The check compares each row with all before it, so what it lets through is in order as a whole. -/
theorem keysInOrder_of_checkKeysFrom {columns : List ColumnDef} {key : List Nat}
    {earlier rows : List Row} (h : checkKeysFrom columns key earlier rows = .ok ()) :
    (∀ e ∈ earlier, ∀ row ∈ rows, sameKey key e row = false) ∧ KeysInOrder key rows := by
  induction rows generalizing earlier with
  | nil =>
    refine ⟨fun e _ row hrow => ?_, ⟨fun row hrow => ?_, List.Pairwise.nil⟩⟩
    · cases hrow
    · cases hrow
  | cons row rows ih =>
    unfold checkKeysFrom at h
    split at h
    · cases h
    · next hnull =>
      split at h
      · cases h
      · next hfresh =>
        -- the rows behind `row` were compared with the earlier ones and with `row` itself
        obtain ⟨hearlier, hrest⟩ := ih h
        have hnew : ∀ e ∈ earlier, sameKey key e row = false := by
          intro e he
          exact Bool.eq_false_iff.mpr fun hsame => hfresh (List.any_eq_true.mpr ⟨e, he, hsame⟩)
        have hcells : ∀ i ∈ key, (row.cell i).isNull = false := by
          intro i hi
          exact Bool.eq_false_iff.mpr (List.find?_eq_none.mp hnull i hi)
        refine ⟨fun e he later hlater => ?_, ⟨fun later hlater => ?_, ?_⟩⟩
        · rcases List.mem_cons.mp hlater with rfl | hlater
          · exact hnew e he
          · exact hearlier e (List.mem_append_left _ he) later hlater
        · rcases List.mem_cons.mp hlater with rfl | hlater
          · exact hcells
          · exact hrest.not_null later hlater
        · refine List.pairwise_cons.mpr ⟨fun later hlater => ?_, hrest.differ⟩
          exact hearlier row (List.mem_append_right _ (List.mem_singleton.mpr rfl)) later hlater

/-! ## Tables -/

/-- **What holds of a table between two statements.** -/
structure Invariant (t : Table) : Prop where
  declared : t.Declared
  fits : ∀ row ∈ t.rows, row.Fits t.columns
  keys : t.keyIndices ≠ [] → KeysInOrder t.keyIndices t.rows

/-- A new table meets the invariant. -/
theorem invariant_create (columns : List ColumnDef) (primaryKey : List String) :
    Yields (create columns primaryKey) Invariant := by
  refine (yields_create columns primaryKey).mono fun t h => ?_
  obtain ⟨hdeclared, hrows⟩ := h
  have hnone : ∀ row, row ∉ t.rows := by
    intro row hrow
    rw [hrows] at hrow
    cases hrow
  exact {
    declared := hdeclared
    fits := fun row hrow => absurd hrow (hnone row)
    keys := fun _ => ⟨fun row hrow => absurd hrow (hnone row), hrows ▸ List.Pairwise.nil⟩ }

/-- Rows that fit and whose keys pass the check meet the invariant. -/
theorem invariant_withRows {t : Table} (h : t.Declared) {rows : List Row}
    (hfits : ∀ row ∈ rows, row.Fits t.columns) : Yields (t.withRows rows) Invariant := by
  refine yields_bind fun _ hcheck => yields_pure ?_
  refine ⟨h.with_rows rows, hfits, fun hkey => ?_⟩
  have hsome : ¬ t.keyIndices.isEmpty = true := fun hempty => hkey (List.isEmpty_iff.mp hempty)
  unfold checkKeys at hcheck
  rw [if_neg hsome] at hcheck
  exact (keysInOrder_of_checkKeysFrom hcheck).2

/-! ## Insertion -/

/-- The columns that an insertion writes are the table's. -/
theorem yields_insertTargets (t : Table) (columns : Option (List String)) :
    Yields (t.insertTargets columns) fun targets =>
      ∀ target ∈ targets, t.columns[target.1]? = some target.2 := by
  cases columns with
  | none =>
    apply yields_ok
    intro target htarget
    obtain ⟨⟨c, i⟩, hc, rfl⟩ := List.mem_map.mp htarget
    exact List.mem_zipIdx_iff_getElem?.mp hc
  | some names => exact yields_mapM fun name _ => yields_column t .fieldList name

theorem yields_cellWrites {t : Table} {targets : List (Nat × ColumnDef)}
    (htargets : ∀ target ∈ targets, t.columns[target.1]? = some target.2) (values : List Value) :
    Yields (cellWrites targets values) fun writes => ∀ w ∈ writes, w.Fits t.columns := by
  refine yields_mapM fun write hwrite => ?_
  obtain ⟨⟨i, c⟩, v⟩ := write
  refine yields_bind fun w hw => yields_pure ?_
  exact ⟨c, htargets (i, c) (List.of_mem_zip hwrite).1, c.type.yields_coerce c.name v w hw⟩

/-- A row made of values fits the columns. -/
theorem yields_newRow {t : Table} {targets : List (Nat × ColumnDef)}
    (htargets : ∀ target ∈ targets, t.columns[target.1]? = some target.2) (number : Nat)
    (values : List Value) : Yields (t.newRow targets number values) fun row => row.Fits t.columns := by
  unfold newRow
  split
  · exact yields_error _
  · refine yields_bind fun writes hwrites => yields_pure ?_
    exact (Row.fits_null t.columns).write (yields_cellWrites htargets values writes hwrites)

/-- **Inserting keeps the invariant.** -/
theorem Invariant.insert {t : Table} (h : t.Invariant) (columns : Option (List String))
    (rows : List (List Value)) : Yields (t.insert columns rows) fun m => m.2.Invariant := by
  refine yields_bind fun targets htargets => ?_
  have htargets := yields_insertTargets t columns targets htargets
  refine yields_bind fun added hadded => ?_
  have hadded := yields_mapM (fun _ _ => yields_newRow htargets _ _) added hadded
  refine yields_bind fun t' ht' => yields_pure ?_
  refine invariant_withRows h.declared (fun row hrow => ?_) t' ht'
  rcases List.mem_append.mp hrow with hrow | hrow
  · exact h.fits row hrow
  · exact hadded row hrow

/-! ## Change and removal -/

theorem yields_assigned (t : Table) (assignments : List Assignment) :
    Yields (t.assigned assignments) fun writes => ∀ w ∈ writes, w.Fits t.columns := by
  refine yields_mapM fun a _ => yields_bind fun p hp => yields_bind fun w hw => yields_pure ?_
  exact ⟨p.2, yields_column t .fieldList a.column p hp, p.2.type.yields_coerce p.2.name a.value w hw⟩

theorem fits_updateRow {t : Table} {row : Row} (h : row.Fits t.columns) {writes : List CellWrite}
    (hwrites : ∀ w ∈ writes, w.Fits t.columns) (tests : List CellTest) :
    (updateRow t.width writes tests row).Fits t.columns := by
  unfold updateRow width
  rw [h.padded]
  split
  · exact h.write hwrites
  · exact h

/-- **Updating keeps the invariant.** -/
theorem Invariant.update {t : Table} (h : t.Invariant) (assignments : List Assignment)
    (filter : List Condition) : Yields (t.update assignments filter) fun m => m.2.Invariant := by
  refine yields_bind fun writes hwrites => yields_bind fun tests _ => ?_
  have hwrites := yields_assigned t assignments writes hwrites
  refine yields_bind fun t' ht' => yields_pure ?_
  refine invariant_withRows h.declared (fun row hrow => ?_) t' ht'
  obtain ⟨before, hbefore, rfl⟩ := List.mem_map.mp hrow
  exact fits_updateRow (h.fits before hbefore) hwrites tests

/-- **Removing rows keeps the invariant**, without any check. -/
theorem Invariant.delete {t : Table} (h : t.Invariant) (filter : List Condition) :
    Yields (t.delete filter) fun m => m.2.Invariant := by
  refine yields_bind fun tests _ => yields_pure ?_
  exact {
    declared := h.declared.with_rows _
    fits := fun row hrow => h.fits row (List.mem_filter.mp hrow).1
    keys := fun hkey => (h.keys hkey).sublist List.filter_sublist }

end Table

end WireSql
