import WireSql.Proofs.Store.AllOrNothing

/-!
# `WireSql.Proofs.Table.Filtering`: one filter, three operations

Selecting, updating and deleting go through the rows of a table in three different ways: one passes the
rows on, one writes over them, one drops them. `Table.matching` says of a single row whether it meets a
filter, and `Table.Picks` says that all three work on the rows with some property, each in its way, and
leave the other rows alone.

`picks` is what every statement about filters builds on: a filter that names columns only picks out the
rows that match it, or have any other property that says the same of the rows of the table. From it follows
`select_update_delete_agree`, how the three are related to each other on any table and any filter.
-/

namespace WireSql

/-! ## Rows and conditions -/

/-- What the cells of a column are compared with for the literal of a condition: what the column stores for
it, or the literal itself where the column refuses it. -/
def ColumnDef.compared (c : ColumnDef) (v : Value) : Value :=
  match c.type.coerce c.name v with
  | .ok w => w
  | .error _ => v

namespace Table

variable {t t' : Table} {filter : List Condition} {assignments : List Assignment} {p : Row → Bool}
  {changed : Nat}

/-- Does a row meet a condition? -/
def meets (t : Table) (condition : Condition) (row : Row) : Bool :=
  match columnIndex? t.columns condition.column with
  | some i => (row.cell i).equals (((t.columns[i]?).getD default).compared condition.value)
  | none => false

/-- Does a row meet every condition of a filter? -/
def matching (t : Table) (filter : List Condition) (row : Row) : Bool :=
  filter.all fun condition => t.meets condition row

/-- Every condition of a filter names a column. -/
def Knows (t : Table) (filter : List Condition) : Prop :=
  ∀ condition ∈ filter, ∃ i, columnIndex? t.columns condition.column = some i

/-- The test that a condition becomes, where its column is the one at a position. -/
def testAt (t : Table) (condition : Condition) (i : Nat) : CellTest :=
  ⟨i, ((t.columns[i]?).getD default).compared condition.value⟩

/-- The test that a condition becomes. -/
def test (t : Table) (condition : Condition) : Except StatementError CellTest :=
  match columnIndex? t.columns condition.column with
  | some i => .ok (t.testAt condition i)
  | none => .error (.unknownColumn condition.column .condition)

theorem tests_eq (t : Table) (filter : List Condition) : t.tests filter = filter.mapM t.test := by
  unfold tests
  congr 1
  funext condition
  unfold column test testAt ColumnDef.compared
  cases columnIndex? t.columns condition.column with
  | none => rfl
  | some i =>
    dsimp only
    generalize (t.columns[i]?).getD default = c
    show Except.ok _ = Except.ok _
    cases c.type.coerce c.name condition.value <;> rfl

/-- **The tests of a filter say whether a row matches it.** -/
theorem exists_tests (h : t.Knows filter) :
    ∃ tests, t.tests filter = .ok tests ∧ ∀ row, row.passes tests = t.matching filter row := by
  rw [tests_eq]
  induction filter with
  | nil => exact ⟨[], rfl, fun _ => rfl⟩
  | cons condition filter ih =>
    obtain ⟨i, hi⟩ := h condition List.mem_cons_self
    obtain ⟨tests, htests, hpasses⟩ := ih fun c hc => h c (List.mem_cons_of_mem _ hc)
    have htest : t.test condition = .ok (t.testAt condition i) := by
      unfold test
      rw [hi]
    refine ⟨t.testAt condition i :: tests, ?_, fun row => ?_⟩
    · rw [List.mapM_cons, htest, htests]
      rfl
    · have hmeets : t.meets condition row =
          (row.cell i).equals (t.testAt condition i).value := by
        unfold meets
        rw [hi]
        rfl
      show ((row.cell i).equals _ && row.passes tests) =
        (t.meets condition row && t.matching filter row)
      rw [hpasses, hmeets]

/-- A filter with a name that no column has is refused. -/
theorem tests_error (h : ¬ t.Knows filter) : ∃ e, t.tests filter = .error e := by
  rw [tests_eq, mapM_error_iff]
  unfold Knows at h
  push Not at h
  obtain ⟨condition, hmem, hnone⟩ := h
  refine ⟨condition, hmem, .unknownColumn condition.column .condition, ?_⟩
  unfold test
  rw [Option.eq_none_iff_forall_ne_some.mpr hnone]

/-- A filter that becomes tests names columns only, and the tests say whether a row matches it. -/
theorem tests_eq_ok {tests : List CellTest} (h : t.tests filter = .ok tests) :
    t.Knows filter ∧ (fun row : Row => row.passes tests) = t.matching filter := by
  by_cases hknows : t.Knows filter
  · obtain ⟨tests', htests', hpasses⟩ := exists_tests hknows
    rw [h] at htests'
    cases htests'
    exact ⟨hknows, funext hpasses⟩
  · obtain ⟨e, he⟩ := tests_error hknows
    rw [h] at he
    cases he

/-! ## The three operations -/

/-- The first rows, as many as a limit allows. -/
def limited (limit : Option Nat) (rows : List Row) : List Row :=
  match limit with
  | some n => rows.take n
  | none => rows

/-- Rows as a select list shows them. -/
def showing (shown : List (String × Nat)) (rows : List Row) : ResultSet :=
  .ofRows (shown.map (·.1)) (rows.map fun row => shown.map fun s => (row.cell s.2).toText)

/-- A row with cells written into it, where it has a property. -/
def rewritten (t : Table) (writes : List CellWrite) (p : Row → Bool) (row : Row) : Row :=
  if p row then (row.padded t.width).write writes else row

/-- **A filter picks out the rows with a property.** These are the rows that a selection shows, that an
update writes and that a removal takes away; the others stay as they are and where they are. -/
structure Picks (t : Table) (filter : List Condition) (p : Row → Bool) : Prop where
  /-- A selection shows the rows with the property in their order, the first ones where it is limited. -/
  selects : ∀ projection limit, t.select projection filter limit =
    (t.shown projection).map fun shown => showing shown (limited limit (t.rows.filter p))
  /-- An update that succeeds has written its cells into the rows with the property, and it counts those
  of them that it has changed. -/
  updates : ∀ assignments changed t', (InPlace.update assignments filter).exec t = (.ok changed, t') →
    ∃ writes, t.assigned assignments = .ok writes ∧
      t' = { t with rows := t.rows.map (t.rewritten writes p) } ∧
      changed = t.rows.countP fun row => p row && !(t.rewritten writes p row).same row
  /-- A removal takes away the rows with the property and counts them. -/
  deletes : (InPlace.delete filter).exec t =
    (.ok (t.rows.countP p), { t with rows := t.rows.filter fun row => !p row })

/-- A place settled without a failure has been given what was computed. -/
theorem settled_eq_ok {σ α : Type} {s s' : σ} {a : α} {x : Except StatementError (α × σ)}
    (h : InPlace.settled s x = (.ok a, s')) : x = .ok (a, s') := by
  cases x with
  | ok v => cases h; rfl
  | error e => cases h

/-- A program succeeds where what is computed from its place does. -/
theorem exec_eq_ok_iff {σ α : Type} {p : InPlace σ α} {f : σ → Except StatementError (α × σ)}
    (h : InPlace.Transacts p f) {s s' : σ} {a : α} : p.exec s = (.ok a, s') ↔ f s = .ok (a, s') := by
  rw [h s]
  constructor
  · exact settled_eq_ok
  · intro hf
    rw [hf]
    rfl

/-- How many rows with a property are not the same once they have been written. -/
def changes (t : Table) (writes : List CellWrite) (p : Row → Bool) : Nat :=
  t.rows.countP fun row => p row && !(t.rewritten writes p row).same row

/-- **An update succeeds with what it writes**, if the filter names columns and the new keys pass. -/
theorem exec_update_eq_ok_iff : (InPlace.update assignments filter).exec t = (.ok changed, t') ↔
    ∃ writes, t.assigned assignments = .ok writes ∧ t.Knows filter ∧
      t.checkKeys (t.rows.map (t.rewritten writes (t.matching filter))) = .ok () ∧
      t' = { t with rows := t.rows.map (t.rewritten writes (t.matching filter)) } ∧
      changed = t.changes writes (t.matching filter) := by
  rw [exec_eq_ok_iff (InPlace.update_transacts assignments filter)]
  unfold update withRows
  simp only [bind_eq_ok_iff]
  constructor
  · rintro ⟨writes, hwrites, tests, htests, t₁, ⟨⟨⟩, hkeys, ⟨⟩⟩, ⟨⟩⟩
    obtain ⟨hknows, hpasses⟩ := tests_eq_ok htests
    refine ⟨writes, hwrites, hknows, ?_⟩
    rw [← hpasses]
    exact ⟨hkeys, rfl, rfl⟩
  · rintro ⟨writes, hwrites, hknows, hkeys, rfl, rfl⟩
    obtain ⟨tests, htests, hpasses⟩ := exists_tests hknows
    have hpasses : (fun row : Row => row.passes tests) = t.matching filter := funext hpasses
    refine ⟨writes, hwrites, tests, htests, ?_⟩
    rw [← hpasses] at hkeys ⊢
    exact ⟨_, ⟨(), hkeys, rfl⟩, rfl⟩

theorem exec_delete_of_tests {tests : List CellTest} (h : t.tests filter = .ok tests) :
    (InPlace.delete filter).exec t = (.ok (t.rows.countP (·.passes tests)),
      { t with rows := t.rows.filter fun row => !row.passes tests }) := by
  have hcount : t.rows.length - (t.rows.filter fun row => !row.passes tests).length =
      t.rows.countP (·.passes tests) := by
    have hsplit := List.length_eq_countP_add_countP (·.passes tests) (l := t.rows)
    rw [← List.countP_eq_length_filter, hsplit]
    simp
  rw [InPlace.delete_transacts filter t, ← hcount]
  show InPlace.settled t (t.tests filter >>= _) = _
  rw [h]
  rfl

/-- **A filter that names columns picks out the rows that match it**, or that have any property that says
the same of the rows there are. -/
theorem picks (hknows : t.Knows filter) (h : ∀ row ∈ t.rows, t.matching filter row = p row) :
    t.Picks filter p := by
  obtain ⟨tests, htests, hpasses⟩ := exists_tests hknows
  have hp : ∀ row ∈ t.rows, row.passes tests = p row := fun row hrow => (hpasses row).trans (h row hrow)
  constructor
  · intro projection limit
    have hfilter : t.rows.filter (·.passes tests) = t.rows.filter p := List.filter_congr hp
    unfold select
    rw [htests, ← hfilter]
    cases t.shown projection with
    | error e => rfl
    | ok shown => cases limit <;> rfl
  · intro assignments changed t' hexec
    obtain ⟨writes, hwrites, -, -, rfl, rfl⟩ := exec_update_eq_ok_iff.mp hexec
    have hsame : ∀ row ∈ t.rows,
        t.rewritten writes (t.matching filter) row = t.rewritten writes p row := by
      intro row hrow
      unfold rewritten
      rw [h row hrow]
    refine ⟨writes, hwrites, ?_, List.countP_congr fun row hrow => ?_⟩
    · rw [List.map_congr_left hsame]
    · rw [h row hrow, hsame row hrow]
  · have hcount : t.rows.countP (·.passes tests) = t.rows.countP p :=
      List.countP_congr fun row hrow => by rw [hp row hrow]
    have hrest : t.rows.filter (fun row => !row.passes tests) = t.rows.filter fun row => !p row :=
      List.filter_congr fun row hrow => by rw [hp row hrow]
    rw [exec_delete_of_tests htests, hcount, hrest]

/-! ## How the three agree -/

/-- The texts of the cells of a row, one for each column. -/
def texts (t : Table) (row : Row) : List Cell :=
  (List.range t.width).map fun i => (row.cell i).toText

/-- **What the rows that a selection has found say of the other operations with the same filter.** -/
structure Agrees (t : Table) (filter : List Condition) (found : ResultSet) : Prop where
  /-- The rows found are those that match the filter, in their order. -/
  finds : found.rows = (t.rows.filter (t.matching filter)).map t.texts
  /-- A removal counts as many rows as were found; it leaves the others in their order, and the same filter
  finds nothing among them. -/
  removes : ∃ t', (InPlace.delete filter).exec t = (.ok found.rows.length, t') ∧
    t' = { t with rows := t.rows.filter fun row => !t.matching filter row } ∧
    ∃ again, t'.select .all filter none = .ok again ∧ again.rows = []
  /-- A limit cuts the rows found, whatever is shown of them. -/
  limits : ∀ projection all n, t.select projection filter none = .ok all →
    ∃ first, t.select projection filter (some n) = .ok first ∧ first.columns = all.columns ∧
      first.rows = all.rows.take n
  /-- An update that succeeds writes the same cells into each row that matches, where it stands. It keeps the
  number of the rows, leaves each row that does not match as it is and in its place, and counts no more rows
  than were found. -/
  changes : ∀ assignments changed t', (InPlace.update assignments filter).exec t = (.ok changed, t') →
    (∃ writes, t.assigned assignments = .ok writes ∧
      t' = { t with rows := t.rows.map (t.rewritten writes (t.matching filter)) }) ∧
    t'.rows.length = t.rows.length ∧ changed ≤ found.rows.length ∧
      ∀ (i : Nat) (row : Row), t.rows[i]? = some row → t.matching filter row = false →
        t'.rows[i]? = some row

/-- All columns with their positions, as a select list shows them. -/
def listed (t : Table) : List (String × Nat) := t.columns.zipIdx.map fun c => (c.1.name, c.2)

theorem shown_all (t : Table) : t.shown .all = .ok t.listed := rfl

/-- All columns are shown in their order, and a missing cell of a row as NULL. -/
theorem rows_showing_all (t : Table) (rows : List Row) :
    (showing t.listed rows).rows = rows.map t.texts := by
  have htexts : ∀ row : Row, (t.listed.map fun s => (row.cell s.2).toText) = t.texts row := by
    intro row
    unfold listed texts width
    rw [List.map_map, List.range_eq_range', ← List.zipIdx_map_snd 0 t.columns, List.map_map]
    rfl
  show List.map _ (List.map _ rows) = _
  rw [List.map_map]
  refine List.map_congr_left fun row _ => ?_
  show fitRow _ (t.listed.map fun s => (row.cell s.2).toText) = t.texts row
  rw [fitRow_of_length_eq (by simp), htexts]

theorem rows_showing_take (shown : List (String × Nat)) (rows : List Row) (n : Nat) :
    (showing shown (rows.take n)).rows = (showing shown rows).rows.take n := by
  simp [showing, ResultSet.ofRows]

/-- A filter that picks out the rows that match it agrees with what it has found. -/
theorem Picks.agrees (h : t.Picks filter (t.matching filter)) (hknows : t.Knows filter)
    {found : ResultSet} (hfound : t.select .all filter none = .ok found) : t.Agrees filter found := by
  have hshows : found = showing t.listed (t.rows.filter (t.matching filter)) := by
    rw [h.selects] at hfound
    exact (Except.ok.inj hfound).symm
  have hrows : found.rows = (t.rows.filter (t.matching filter)).map t.texts := by
    rw [hshows, rows_showing_all]
  have hcount : t.rows.countP (t.matching filter) = found.rows.length := by
    rw [hrows, List.length_map, List.countP_eq_length_filter]
  refine ⟨hrows, ?_, ?_, ?_⟩
  · -- what is left of the table holds no row that matches
    let rest : Table := { t with rows := t.rows.filter fun row => !t.matching filter row }
    have hrest : rest.Picks filter (rest.matching filter) := picks hknows fun _ _ => rfl
    have hnone : rest.rows.filter (rest.matching filter) = [] := by
      rw [List.filter_eq_nil_iff]
      intro row hrow hmatches
      have hnot := (List.mem_filter.mp hrow).2
      rw [show t.matching filter row = true from hmatches] at hnot
      cases hnot
    refine ⟨rest, ?_, rfl, showing rest.listed [], ?_, rfl⟩
    · rw [h.deletes, hcount]
    · rw [hrest.selects, shown_all, hnone]
      rfl
  · intro projection all n hall
    rw [h.selects] at hall ⊢
    cases hshown : t.shown projection with
    | error e => rw [hshown] at hall; cases hall
    | ok shown =>
      rw [hshown] at hall
      obtain rfl := Except.ok.inj hall
      exact ⟨_, rfl, rfl, rows_showing_take shown _ n⟩
  · intro assignments changed t' hexec
    obtain ⟨writes, hwrites, rfl, rfl⟩ := h.updates assignments changed t' hexec
    refine ⟨⟨writes, hwrites, rfl⟩, List.length_map _, ?_, fun i row hrow hmatches => ?_⟩
    · rw [← hcount]
      exact List.countP_mono_left fun row _ hchanged => (Bool.and_eq_true _ _ ▸ hchanged).1
    · show (t.rows.map _)[i]? = _
      rw [List.getElem?_map, hrow, Option.map_some]
      unfold rewritten
      rw [hmatches]
      rfl

/-- **A selection, an update and a removal agree on every filter.** A selection of all columns and a removal
fail on the same filters, with the same error; and where they succeed, the rows found tell what the other
operations do, on any table, its rows as long as its columns or not. -/
theorem select_update_delete_agree (t : Table) (filter : List Condition) :
    (∀ e, t.select .all filter none = .error e ↔ (InPlace.delete filter).exec t = (.error e, t)) ∧
    ∀ found, t.select .all filter none = .ok found → t.Agrees filter found := by
  by_cases hknows : t.Knows filter
  · have hpicks : t.Picks filter (t.matching filter) := picks hknows fun _ _ => rfl
    refine ⟨fun e => ?_, fun found hfound => hpicks.agrees hknows hfound⟩
    rw [hpicks.selects, hpicks.deletes, shown_all]
    constructor
    · intro h
      cases h
    · intro h
      cases h
  · obtain ⟨e, htests⟩ := tests_error hknows
    have hselect : t.select .all filter none = .error e := by
      unfold select
      rw [shown_all, htests]
      rfl
    have hdelete : (InPlace.delete filter).exec t = (.error e, t) := by
      rw [InPlace.delete_transacts filter t]
      show InPlace.settled t (t.tests filter >>= _) = _
      rw [htests]
      rfl
    rw [hselect, hdelete]
    constructor
    · intro e'
      constructor
      · rintro ⟨⟩
        rfl
      · rintro ⟨⟩
        rfl
    · intro found hfound
      cases hfound

/-- A row that is too short, one that is too long and one that fits: two of them are found, the first with NULL
for the cell that it does not have. -/
theorem agree_on_ragged_rows :
    let t : Table :=
      { columns := [⟨"id", .int⟩, ⟨"name", .text⟩]
        rows := [[.int 1], [.int 2, .text "b", .null], [.int 1, .text "c"]] }
    let filter : List Condition := [⟨"ID", .text "1"⟩]
    ∃ found, t.select .all filter none = .ok found ∧
      found.rows = [[some "1", none], [some "1", some "c"]] ∧ t.Agrees filter found := by
  intro t filter
  have hfound : t.select .all filter none =
      .ok (.ofRows ["id", "name"] [[some "1", none], [some "1", some "c"]]) := by decide +kernel
  exact ⟨_, hfound, rfl, (select_update_delete_agree t filter).2 _ hfound⟩

end Table

end WireSql
