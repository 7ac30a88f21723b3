import WireSql.Proofs.Snapshot.Reading
import WireSql.Proofs.Table.Lookup

/-!
# `WireSql.Proofs.Table.Assignments`: what assignments leave behind

An update writes its assignments one after the other into each row that matches, so that of several
assignments to one column, whatever letter case they spell it in, the last one stays (`Table.Carries`). A row
that has been written is in its final form: written once more it stays as it is, whether it still matches
the filter or not (`rewritten_rewritten`).

`update_settles` draws the conclusion for tables. Running an update again succeeds and leaves the table, since
the keys it checks are those that it has checked before. That it reports no row needs values that are the same
as themselves, which floats need not be.
-/

namespace WireSql

/-! ## Rows -/

namespace Row

variable {row : Row} {writes : List CellWrite} {i : Nat}

/-- Rows of one length are told apart by their cells. -/
theorem ext_cell {a b : Row} (hlength : a.length = b.length) (hcell : ∀ i < a.length, a.cell i = b.cell i) :
    a = b := by
  refine List.ext_getElem hlength fun i ha hb => ?_
  have hi := hcell i ha
  unfold cell at hi
  rwa [List.getElem?_eq_getElem ha, List.getElem?_eq_getElem hb] at hi

/-- A cell that nothing is written into stays. -/
theorem cell_write_of_untouched (row : Row) (h : ∀ w ∈ writes, w.index ≠ i) :
    (row.write writes).cell i = row.cell i := by
  unfold Row.write
  induction writes generalizing row with
  | nil => rfl
  | cons w writes ih =>
    rw [List.forall_mem_cons] at h
    rw [List.foldl_cons, ih _ h.2, cell_set, if_neg fun hi => h.1 hi.1]

/-- **Writing again what has been written changes nothing.** -/
theorem write_write (row : Row) (writes : List CellWrite) :
    (row.write writes).write writes = row.write writes := by
  apply ext_cell
  · rw [length_write]
  · intro i hi
    rw [length_write] at hi
    rw [cell_write _ _ hi, cell_write _ _ (length_write row writes ▸ hi : i < row.length)]
    cases writes.reverse.find? (·.index == i) with
    | none => rfl
    | some w => rfl

/-- What stands in a row after writing stood there before or was written. -/
theorem mem_write {v : Value} (h : v ∈ row.write writes) : v ∈ row ∨ ∃ w ∈ writes, w.value = v := by
  unfold Row.write at h
  induction writes generalizing row with
  | nil => exact .inl h
  | cons w writes ih =>
    rw [List.foldl_cons] at h
    rcases ih h with hset | ⟨u, hu, hv⟩
    · rcases List.mem_or_eq_of_mem_set hset with hrow | rfl
      · exact .inl hrow
      · exact .inr ⟨w, List.mem_cons_self, rfl⟩
    · exact .inr ⟨u, List.mem_cons_of_mem _ hu, hv⟩

/-- A row without floats holds the same as itself. -/
theorem same_self (h : ∀ v ∈ row, v.isDouble = false) : row.same row = true := by
  have hvalue : ∀ v ∈ row, Value.same v v = true := by
    intro v hv
    cases v with
    | double x => cases h _ hv
    | null => rfl
    | _ => exact beq_self_eq_true _
  unfold Row.same
  rw [beq_self_eq_true, Bool.true_and, List.zipWith_self, List.all_map, List.all_eq_true]
  exact hvalue

end Row

namespace Table

variable {t t' : Table} {assignments : List Assignment} {filter : List Condition} {writes : List CellWrite}
  {row : Row} {changed : Nat}

/-! ## The last assignment to a column -/

/-- **An assignment writes a cell**: that of its column, with what the column stores for its literal. -/
def Writes (t : Table) (a : Assignment) (w : CellWrite) : Prop :=
  columnIndex? t.columns a.column = some w.index ∧
    ∃ c, t.columns[w.index]? = some c ∧ c.type.coerce c.name a.value = .ok w.value

theorem assigned_eq_ok_iff :
    t.assigned assignments = .ok writes ↔ List.Forall₂ t.Writes assignments writes := by
  unfold assigned
  rw [mapM_eq_ok_iff]
  refine ⟨fun h => h.imp fun a w hw => ?_, fun h => h.imp fun a w hw => ?_⟩
  · simp only [bind_eq_ok_iff] at hw
    obtain ⟨⟨i, c⟩, hcolumn, v, hv, ⟨⟩⟩ := hw
    have hc : t.columns[i]? = some c := yields_column t .fieldList a.column _ hcolumn
    unfold column at hcolumn
    split at hcolumn
    · next j hj =>
      cases hcolumn
      exact ⟨hj, _, hc, hv⟩
    · cases hcolumn
  · obtain ⟨hi, c, hc, hv⟩ := hw
    unfold column
    rw [hi]
    dsimp only
    rw [hc]
    show (c.type.coerce c.name a.value >>= _) = _
    rw [hv]
    rfl

/-- **A row carries assignments**: it reads the value of the last assignment to each column that is assigned,
and what it read before in every other place. -/
structure Carries (t : Table) (assignments : List Assignment) (row row' : Row) : Prop where
  /-- The last assignment to a column stays. -/
  last : ∀ before a after i, assignments = before ++ a :: after →
    columnIndex? t.columns a.column = some i → (∀ b ∈ after, columnIndex? t.columns b.column ≠ some i) →
    ∃ c, t.columns[i]? = some c ∧ c.type.coerce c.name a.value = .ok (row'.cell i)
  /-- A place that is not assigned keeps its cell. -/
  others : ∀ i, (∀ a ∈ assignments, columnIndex? t.columns a.column ≠ some i) → row'.cell i = row.cell i
  /-- The row has a cell for each column, and those beyond them that it had. -/
  length : row'.length = max row.length t.width

theorem index_ne_of_writes {i : Nat} (hwrites : List.Forall₂ t.Writes assignments writes)
    (h : ∀ a ∈ assignments, columnIndex? t.columns a.column ≠ some i) : ∀ w ∈ writes, w.index ≠ i := by
  induction hwrites with
  | nil => simp
  | cons hw _ ih =>
    rw [List.forall_mem_cons] at h ⊢
    refine ⟨?_, ih h.2⟩
    rintro rfl
    exact h.1 hw.1

theorem cell_write_last {before after : List Assignment} {a : Assignment} {i : Nat}
    (hwrites : List.Forall₂ t.Writes (before ++ a :: after) writes)
    (hi : columnIndex? t.columns a.column = some i)
    (hlast : ∀ b ∈ after, columnIndex? t.columns b.column ≠ some i) (hwidth : i < row.length) :
    ∃ c, t.columns[i]? = some c ∧ c.type.coerce c.name a.value = .ok ((row.write writes).cell i) := by
  induction before generalizing row writes with
  | nil =>
    obtain ⟨w, later, ⟨hindex, c, hc, hv⟩, hlater, rfl⟩ := List.forall₂_cons_left_iff.mp hwrites
    obtain rfl : w.index = i := Option.some.inj (hindex.symm.trans hi)
    refine ⟨c, hc, ?_⟩
    show _ = Except.ok (Row.cell (Row.write (row.set w.index w.value) later) w.index)
    rw [Row.cell_write_of_untouched _ (index_ne_of_writes hlater hlast), Row.cell_set,
      if_pos ⟨rfl, hwidth⟩, hv]
  | cons b before ih =>
    obtain ⟨w, later, -, hlater, rfl⟩ := List.forall₂_cons_left_iff.mp hwrites
    show ∃ c, _ ∧ _ = Except.ok (Row.cell (Row.write (row.set w.index w.value) later) i)
    exact ih hlater (by rwa [List.length_set])

/-- **A row that has been padded and written carries the assignments.** -/
theorem carries_write (hassigned : t.assigned assignments = .ok writes) (row : Row) :
    t.Carries assignments row ((row.padded t.width).write writes) := by
  have hwrites := assigned_eq_ok_iff.mp hassigned
  constructor
  · rintro before a after i rfl hi hlast
    refine cell_write_last hwrites hi hlast ?_
    obtain ⟨c, hc⟩ := exists_column_of_columnIndex? hi
    have hwidth : i < t.width := (List.getElem?_eq_some_iff.mp hc).1
    rw [Row.length_padded]
    exact Nat.lt_of_lt_of_le hwidth (Nat.le_max_right _ _)
  · intro i h
    rw [Row.cell_write_of_untouched _ (index_ne_of_writes hwrites h), Row.cell_padded]
  · rw [Row.length_write, Row.length_padded]

/-! ## Updates -/

/-- **A row that has been written is in its final form.** -/
theorem rewritten_rewritten (t : Table) (writes : List CellWrite) (p : Row → Bool) (row : Row) :
    t.rewritten writes p (t.rewritten writes p row) = t.rewritten writes p row := by
  by_cases hp : p row
  · have hrow : t.rewritten writes p row = (row.padded t.width).write writes := if_pos hp
    rw [hrow, rewritten]
    split
    · have hwidth : t.width ≤ ((row.padded t.width).write writes).length := by
        rw [Row.length_write, Row.length_padded]
        exact Nat.le_max_right _ _
      rw [Row.padded_of_le hwidth, Row.write_write]
    · rfl
  · have hrow : t.rewritten writes p row = row := if_neg hp
    rw [hrow, hrow]

/-- Without floats in the rows and in what is written there are none in a row that was written. -/
theorem not_isDouble_rewritten {p : Row → Bool} (hrow : ∀ v ∈ row, v.isDouble = false)
    (hwrites : ∀ w ∈ writes, w.value.isDouble = false) :
    ∀ v ∈ t.rewritten writes p row, v.isDouble = false := by
  intro v hv
  unfold rewritten at hv
  split at hv
  · rcases Row.mem_write hv with hpadded | ⟨w, hw, rfl⟩
    · rcases List.mem_append.mp hpadded with hstored | hnull
      · exact hrow v hstored
      · rw [List.eq_of_mem_replicate hnull]
        rfl
    · exact hwrites w hw
  · exact hrow v hv

/-- **An update does what it says and is then done.** Each row that matches carries the assignments
afterwards, and each other row is what it was. The same update succeeds on the table that it has made and
leaves it. It counts no row then, if neither the rows nor the assigned values hold a float. -/
theorem update_settles (h : (InPlace.update assignments filter).exec t = (.ok changed, t')) :
    (∃ rows, t' = { t with rows } ∧ List.Forall₂ (fun row row' =>
        if t.matching filter row then t.Carries assignments row row' else row' = row) t.rows rows) ∧
    ∃ again, (InPlace.update assignments filter).exec t' = (.ok again, t') ∧
      (t.NoDouble → (∀ writes, t.assigned assignments = .ok writes →
        ∀ w ∈ writes, w.value.isDouble = false) → again = 0) := by
  obtain ⟨writes, hwrites, hknows, hkeys, rfl, -⟩ := exec_update_eq_ok_iff.mp h
  let write : Row → Row := t.rewritten writes (t.matching filter)
  have hfinal : ∀ row, write (write row) = write row := rewritten_rewritten t writes _
  have hrows : (t.rows.map write).map write = t.rows.map write := by
    rw [List.map_map]
    exact List.map_congr_left fun row _ => hfinal row
  refine ⟨⟨_, rfl, ?_⟩, _, exec_update_eq_ok_iff.mpr ⟨writes, hwrites, hknows, ?_, ?_, rfl⟩, ?_⟩
  · rw [List.forall₂_map_right_iff, List.forall₂_same]
    intro row _
    unfold rewritten
    split
    · exact carries_write hwrites row
    · rfl
  · -- the keys that are checked are those that the first update has checked
    exact (congrArg t.checkKeys hrows).trans hkeys
  · exact congrArg (fun rows => { t with rows }) hrows.symm
  · intro hstored hassigned
    refine List.countP_eq_zero.mpr fun row hrow hchanged => ?_
    obtain ⟨before, hbefore, rfl⟩ : ∃ before ∈ t.rows, write before = row := List.mem_map.mp hrow
    have hsame : Row.same (write (write before)) (write before) = true := by
      rw [hfinal]
      exact Row.same_self (not_isDouble_rewritten (hstored before hbefore) (hassigned writes hwrites))
    have hdiffers : (!Row.same (write (write before)) (write before)) = true :=
      (Bool.and_eq_true _ _ ▸ hchanged).2
    rw [hsame] at hdiffers
    cases hdiffers

/-- A row without a cell for its last column leaves the filter that has found it, gets another key and a name
that is assigned twice. -/
theorem update_settles_short_row :
    let t : Table :=
      { columns := [⟨"id", .int⟩, ⟨"name", .text⟩, ⟨"n", .int⟩], primaryKey := ["id"]
        rows := [[.int 1, .text "a"], [.int 2, .text "b", .int 5]] }
    let assignments : List Assignment := [⟨"NAME", .text "x"⟩, ⟨"id", .text "7"⟩, ⟨"name", .bool true⟩]
    let filter : List Condition := [⟨"name", .text "a"⟩]
    let t' : Table := { t with rows := [[.int 7, .text "1", .null], [.int 2, .text "b", .int 5]] }
    (InPlace.update assignments filter).exec t = (.ok 1, t') ∧
      t.Carries assignments [.int 1, .text "a"] [.int 7, .text "1", .null] ∧
      (InPlace.update assignments filter).exec t' = (.ok 0, t') := by
  intro t assignments filter t'
  have hupdate : (InPlace.update assignments filter).exec t = (.ok 1, t') := by decide +kernel
  have hstored : t.NoDouble := by decide +kernel
  have hassigned : ∀ writes, t.assigned assignments = .ok writes →
      ∀ w ∈ writes, w.value.isDouble = false := by
    intro writes hwrites
    have hread : t.assigned assignments =
        .ok [⟨1, .text "x"⟩, ⟨0, .int 7⟩, ⟨1, .text "1"⟩] := by decide +kernel
    rw [hread] at hwrites
    cases hwrites
    decide
  obtain ⟨⟨rows, hrows, hcarries⟩, again, hsecond, hzero⟩ := update_settles hupdate
  obtain rfl : t'.rows = rows := congrArg Table.rows hrows
  obtain ⟨hfirst, -⟩ := List.forall₂_cons.mp hcarries
  have hmatches : t.matching filter [.int 1, .text "a"] = true := by decide +kernel
  rw [if_pos hmatches] at hfirst
  obtain rfl := hzero hstored hassigned
  exact ⟨hupdate, hfirst, hsecond⟩

end Table

end WireSql
