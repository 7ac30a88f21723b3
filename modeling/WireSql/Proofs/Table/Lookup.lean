import Mathlib.Data.List.Induction
import WireSql.Proofs.Table.Batches
import WireSql.Proofs.Table.WellFormed

/-!
# `WireSql.Proofs.Table.Lookup`: what was inserted is found again

A literal is turned into a value of its column twice: when a row is inserted, and when a condition asks for
the same literal. Both times it becomes the same value, and the `=` of a condition is equality of values as
long as both are of the one kind that the column stores, unless that kind is floats
(`ColumnType.Stores.equals_iff`). So a condition that repeats a literal of an inserted row finds that row,
and finds just the rows that hold the same value: `inserted_row_is_found`.

This is said of every table that operations have made of a new one, in whatever order and whichever of them
fail (`Table.Reachable`).
-/

namespace WireSql

/-! ## Values of one column -/

namespace ColumnType

variable {type : ColumnType} {column : String} {v w : Value}

/-- **Two values that a column stores are equal in a condition just where they are the same value**, unless
they are NULL or the column holds floats. -/
theorem Stores.equals_iff (hv : type.Stores v) (hw : type.Stores w) (hfloat : type ≠ .float)
    (hdouble : type ≠ .double) (hnull : w ≠ .null) : v.equals w = true ↔ v = w := by
  cases hv with
  | null => simpa using hnull.symm
  | int i =>
    cases hw with
    | null => exact absurd rfl hnull
    | int j => simp
  | bigInt i =>
    cases hw with
    | null => exact absurd rfl hnull
    | bigInt j => simp
  | float x => exact absurd rfl hfloat
  | double x => exact absurd rfl hdouble
  | boolean a =>
    cases hw with
    | null => exact absurd rfl hnull
    | boolean b => cases a <;> cases b <;> decide
  | varChar =>
    cases hw with
    | null => exact absurd rfl hnull
    | varChar => simp
  | text s =>
    cases hw with
    | null => exact absurd rfl hnull
    | text s' => simp
  | date s =>
    cases hw with
    | null => exact absurd rfl hnull
    | date s' => simp
  | dateTime s =>
    cases hw with
    | null => exact absurd rfl hnull
    | dateTime s' => simp

end ColumnType

/-! ## Cells of a new row -/

namespace Row

theorem length_write (row : Row) (writes : List CellWrite) : (row.write writes).length = row.length := by
  unfold Row.write
  induction writes generalizing row with
  | nil => rfl
  | cons w writes ih => rw [List.foldl_cons, ih, List.length_set]

/-- **A cell holds what was last written into it**, or what it held before. -/
theorem cell_write (row : Row) (writes : List CellWrite) {i : Nat} (h : i < row.length) :
    (row.write writes).cell i =
      ((writes.reverse.find? (·.index == i)).map (·.value)).getD (row.cell i) := by
  induction writes using List.reverseRecOn with
  | nil => rfl
  | append_singleton writes w ih =>
    have hlast : row.write (writes ++ [w]) = (row.write writes).set w.index w.value := by
      unfold Row.write
      rw [List.foldl_append]
      rfl
    rw [hlast, cell_set, List.reverse_append, List.reverse_singleton, List.singleton_append,
      List.find?_cons, length_write]
    by_cases hi : w.index = i
    · subst hi
      simp [h]
    · rw [if_neg fun h => hi h.1, beq_eq_false_iff_ne.mpr hi, ih]

end Row

namespace Table

variable {t t' : Table} {filter : List Condition} {values : List Value}

/-- The writes of a row stand where their columns stand. -/
theorem yields_cellWrites_getElem? (t : Table) (values : List Value) :
    Yields (cellWrites (t.columns.zipIdx.map fun c => (c.2, c.1)) values) fun writes =>
      (∀ (i : Nat) (w : CellWrite), writes[i]? = some w → w.index = i) ∧
      ∀ (i : Nat) (c : ColumnDef) (v : Value), t.columns[i]? = some c → values[i]? = some v →
        ∃ w, writes[i]? = some ⟨i, w⟩ ∧ c.type.coerce c.name v = .ok w := by
  intro writes hwrites
  obtain ⟨hlength, hstands⟩ := yields_mapM_getElem? _ _ writes hwrites
  have hstands : ∀ (i : Nat) (c : ColumnDef) (v : Value), t.columns[i]? = some c → values[i]? = some v →
      ∃ w, writes[i]? = some ⟨i, w⟩ ∧ c.type.coerce c.name v = .ok w := by
    intro i c v hc hv
    have hzip : ((t.columns.zipIdx.map fun c => (c.2, c.1)).zip values)[i]? = some ((i, c), v) :=
      List.getElem?_zip_eq_some.mpr ⟨by simp [hc], hv⟩
    obtain ⟨write, hwrite, hmade⟩ := hstands i _ hzip
    dsimp only at hmade
    cases hcoerce : c.type.coerce c.name v with
    | error e => rw [hcoerce] at hmade; cases hmade
    | ok w =>
      rw [hcoerce] at hmade
      obtain rfl := Except.ok.inj hmade
      exact ⟨w, hwrite, rfl⟩
  refine ⟨fun i write hwrite => ?_, hstands⟩
  -- behind every write there is a column with its literal
  have hi : i < ((t.columns.zipIdx.map fun c => (c.2, c.1)).zip values).length :=
    hlength ▸ (List.getElem?_eq_some_iff.mp hwrite).1
  simp only [List.length_zip, List.length_map, List.length_zipIdx] at hi
  obtain ⟨w, hw, -⟩ := hstands i _ _ (List.getElem?_eq_getElem (by omega))
    (List.getElem?_eq_getElem (by omega))
  rw [hwrite] at hw
  exact congrArg CellWrite.index (Option.some.inj hw)

/-- **A new row holds in each column what that one stores for its literal.** -/
theorem yields_newRow_cell (t : Table) (number : Nat) (values : List Value) :
    Yields (t.newRow (t.columns.zipIdx.map fun c => (c.2, c.1)) number values) fun row =>
      ∀ (i : Nat) (c : ColumnDef) (v : Value), t.columns[i]? = some c → values[i]? = some v →
        c.type.coerce c.name v = .ok (row.cell i) := by
  unfold newRow
  split
  · exact yields_error _
  · refine yields_bind fun writes hwrites => yields_pure ?_
    intro i c v hc hv
    obtain ⟨hindex, hstands⟩ := yields_cellWrites_getElem? t values writes hwrites
    obtain ⟨w, hwrite, hcoerce⟩ := hstands i c v hc hv
    have hmem : ⟨i, w⟩ ∈ writes.reverse := List.mem_reverse.mpr (List.mem_of_getElem? hwrite)
    have hfound : writes.reverse.find? (·.index == i) = some ⟨i, w⟩ := by
      cases hfind : writes.reverse.find? (·.index == i) with
      | none => simpa using List.find?_eq_none.mp hfind _ hmem
      | some write =>
        -- a write for the column stands where the column stands, and there is but one there
        have hi : write.index = i := by simpa using List.find?_some hfind
        obtain ⟨k, hk⟩ := List.mem_iff_getElem?.mp (List.mem_reverse.mp (List.mem_of_find?_eq_some hfind))
        rw [← hindex k write hk, hi, hwrite] at hk
        exact hk.symm
    have hlength : i < (List.replicate t.width Value.null).length := by
      rw [List.length_replicate]
      exact (List.getElem?_eq_some_iff.mp hc).1
    rw [Row.cell_write _ writes hlength, hfound, hcoerce]
    rfl

/-- A row is inserted at the end, if its literals make one. -/
theorem yields_insert_row (t : Table) (values : List Value) :
    Yields (t.insert none [values]) fun m => ∃ row,
      t.newRow (t.columns.zipIdx.map fun c => (c.2, c.1)) 1 values = .ok row ∧
      m = (1, { t with rows := t.rows ++ [row] }) := by
  rintro ⟨n, t'⟩ h
  obtain ⟨rfl, added, ⟨-, hmade, -⟩, rfl⟩ := insert_eq_ok_iff.mp h
  obtain ⟨row, more, hrow, hmore, rfl⟩ := List.forall₂_cons_left_iff.mp hmade
  obtain rfl := List.forall₂_nil_left_iff.mp hmore
  exact ⟨row, (makes_iff rfl).mp hrow, rfl⟩

/-! ## Tables that are reached -/

/-- **The tables that operations make of a new one**, in any order and whichever of them fail. -/
inductive Reachable : Table → Prop where
  | create {columns : List ColumnDef} {primaryKey : List String} {t : Table}
    (h : Table.create columns primaryKey = .ok t) : Reachable t
  | insert {t : Table} (h : Reachable t) (columns : Option (List String)) (rows : List (List Value)) :
    Reachable ((InPlace.insert columns rows).exec t).2
  | update {t : Table} (h : Reachable t) (assignments : List Assignment) (filter : List Condition) :
    Reachable ((InPlace.update assignments filter).exec t).2
  | delete {t : Table} (h : Reachable t) (filter : List Condition) :
    Reachable ((InPlace.delete filter).exec t).2

/-- What a program leaves has a property, if the place had it and what is computed from it does. -/
theorem exec_transacts {p : InPlace Table Nat} {f : Table → Except StatementError (Nat × Table)}
    {P : Table → Prop} (htransacts : InPlace.Transacts p f) (h : P t) (hf : Yields (f t) fun m => P m.2) :
    P (p.exec t).2 := by
  rw [htransacts t]
  cases hm : f t with
  | ok m => exact hf m hm
  | error e => exact h

/-- **Every table that is reached meets the invariant.** -/
theorem Reachable.invariant (h : t.Reachable) : t.Invariant := by
  induction h with
  | create h => exact invariant_create _ _ _ h
  | insert _ columns rows ih =>
    exact exec_transacts (InPlace.insert_transacts columns rows) ih (ih.insert columns rows)
  | update _ assignments filter ih =>
    exact exec_transacts (InPlace.update_transacts assignments filter) ih (ih.update assignments filter)
  | delete _ filter ih =>
    exact exec_transacts (InPlace.delete_transacts filter) ih (ih.delete filter)

/-! ## Finding rows -/

/-- **A condition repeats a literal of an inserted row**: it asks a column for the literal that was given for
it, which is not NULL, and the column does not hold floats. -/
def Repeats (t : Table) (values : List Value) (condition : Condition) : Prop :=
  condition.value ≠ .null ∧ ∃ i c, columnIndex? t.columns condition.column = some i ∧
    t.columns[i]? = some c ∧ c.type ≠ .float ∧ c.type ≠ .double ∧ values[i]? = some condition.value

/-- Does a row hold, in the column of a condition, the very value that the column stores for its literal? -/
def holds (t : Table) (condition : Condition) (row : Row) : Bool :=
  match columnIndex? t.columns condition.column with
  | some i =>
    let c := (t.columns[i]?).getD default
    match c.type.coerce c.name condition.value with
    | .ok w => row.cell i == w
    | .error _ => false
  | none => false

/-- Does a row hold all that a filter asks for? -/
def holding (t : Table) (filter : List Condition) (row : Row) : Bool :=
  filter.all fun condition => t.holds condition row

section Asked

variable {condition : Condition} {i : Nat} {c : ColumnDef} {w : Value}

theorem meets_of_column (hi : columnIndex? t.columns condition.column = some i)
    (hc : t.columns[i]? = some c) (row : Row) :
    t.meets condition row = (row.cell i).equals (c.compared condition.value) := by
  unfold meets
  rw [hi]
  dsimp only
  rw [hc, Option.getD_some]

theorem holds_of_column (hi : columnIndex? t.columns condition.column = some i)
    (hc : t.columns[i]? = some c) (hw : c.type.coerce c.name condition.value = .ok w) (row : Row) :
    t.holds condition row = (row.cell i == w) := by
  unfold holds
  rw [hi]
  dsimp only
  rw [hc, Option.getD_some, hw]

/-- **A row meets a condition just where it holds what is asked for**, if the column takes the literal and
does not hold floats. -/
theorem meets_eq_holds {row : Row} (hfits : row.Fits t.columns)
    (hi : columnIndex? t.columns condition.column = some i) (hc : t.columns[i]? = some c)
    (hfloat : c.type ≠ .float) (hdouble : c.type ≠ .double) (hnull : condition.value ≠ .null)
    (hw : c.type.coerce c.name condition.value = .ok w) :
    t.meets condition row = t.holds condition row := by
  have hcompared : c.compared condition.value = w := by
    unfold ColumnDef.compared
    rw [hw]
  have hstores : c.type.Stores w := c.type.yields_coerce c.name _ w hw
  have hne : w ≠ .null := ColumnType.yields_coerce_ne_null hnull w hw
  rw [meets_of_column hi hc, holds_of_column hi hc hw, hcompared, Bool.eq_iff_iff, beq_iff_eq]
  exact (hfits.stores i c hc).equals_iff hstores hfloat hdouble hne

/-- No row meets a condition that asks for NULL. -/
theorem meets_null (hnull : condition.value = .null) (row : Row) : t.meets condition row = false := by
  unfold meets
  split
  · unfold ColumnDef.compared
    rw [hnull, ColumnType.coerce_null]
    exact Value.equals_null_right _
  · rfl

end Asked

/-- A filter that asks for NULL picks out no row. -/
theorem picks_null (hknows : t.Knows filter) {condition : Condition} (hmem : condition ∈ filter)
    (hnull : condition.value = .null) : t.Picks filter fun _ => false := by
  apply picks hknows
  intro row _
  exact List.all_eq_false.mpr ⟨condition, hmem, by simp [meets_null hnull row]⟩

/-- **What was inserted is found by the same literals.** A row inserted into a table that was reached stands
at its end, with the value in each column that this one stores for its literal. A filter that repeats any of
its literals, but for NULLs and those of columns of floats, picks out the rows that hold the same values in
these columns, and the new row is one of them. A filter that asks for NULL picks out no row. -/
theorem inserted_row_is_found (hreached : t.Reachable) {n : Nat}
    (hinsert : (InPlace.insert none [values]).exec t = (.ok n, t')) :
    ∃ row, t' = { t with rows := t.rows ++ [row] } ∧
      (∀ (i : Nat) (c : ColumnDef) (v : Value), t.columns[i]? = some c → values[i]? = some v →
        c.type.coerce c.name v = .ok (row.cell i)) ∧
      (∀ filter, (∀ condition ∈ filter, t'.Repeats values condition) →
        t'.Picks filter (t'.holding filter) ∧ t'.holding filter row = true) ∧
      ∀ filter, t'.Knows filter → (∃ condition ∈ filter, condition.value = .null) →
        t'.Picks filter fun _ => false := by
  have hinvariant : t'.Invariant := by
    have hreached' := (hreached.insert none [values]).invariant
    rwa [hinsert] at hreached'
  rw [InPlace.insert_transacts none [values] t] at hinsert
  obtain ⟨row, hrow, hmade⟩ := yields_insert_row t values _ (settled_eq_ok hinsert)
  obtain ⟨-, rfl⟩ := Prod.mk.inj hmade
  have hcells := yields_newRow_cell t 1 values row hrow
  refine ⟨row, rfl, hcells, fun filter hrepeats => ⟨?_, ?_⟩, fun filter hknows hnull => ?_⟩
  · have hknows : Knows { t with rows := t.rows ++ [row] } filter := by
      intro condition hmem
      obtain ⟨-, i, -, hi, -⟩ := hrepeats condition hmem
      exact ⟨i, hi⟩
    refine picks hknows fun other hother => ?_
    unfold matching holding
    rw [Bool.eq_iff_iff, List.all_eq_true, List.all_eq_true]
    refine forall₂_congr fun condition hmem => ?_
    obtain ⟨hnull, i, c, hi, hc, hfloat, hdouble, hv⟩ := hrepeats condition hmem
    rw [meets_eq_holds (hinvariant.fits other hother) hi hc hfloat hdouble hnull (hcells i c _ hc hv)]
  · unfold holding
    rw [List.all_eq_true]
    intro condition hmem
    obtain ⟨-, i, c, hi, hc, -, -, hv⟩ := hrepeats condition hmem
    rw [holds_of_column hi hc (hcells i c _ hc hv), beq_self_eq_true]
  · obtain ⟨condition, hmem, hnull⟩ := hnull
    exact picks_null hknows hmem hnull

/-- A number given as a text with a blank in front, and a truth value in a column of characters: both are
asked for as they were given, and the row before them is not found, though its name looks alike. -/
theorem inserted_row_is_found_as_given :
    let t : Table :=
      { columns := [⟨"id", .int⟩, ⟨"name", .varChar 4⟩], primaryKey := ["id"], rows := [[.int 1, .text "1.0"]] }
    let values : List Value := [.text " 2", .bool true]
    let t' : Table := { t with rows := [[.int 1, .text "1.0"], [.int 2, .text "1"]] }
    let filter : List Condition := [⟨"NAME", .bool true⟩, ⟨"id", .text " 2"⟩]
    t.Reachable ∧ (InPlace.insert none [values]).exec t = (.ok 1, t') ∧
      (∀ condition ∈ filter, t'.Repeats values condition) ∧ t'.Picks filter (t'.holding filter) ∧
      t'.rows.map (t'.holding filter) = [false, true] := by
  intro t values t' filter
  have hcreate : Table.create t.columns ["id"] = .ok { t with rows := [] } := rfl
  have hnew : Reachable { t with rows := [] } := .create hcreate
  have hreached : t.Reachable := hnew.insert none [[.int 1, .text "1.0"]]
  have hinsert : (InPlace.insert none [values]).exec t = (.ok 1, t') := by decide +kernel
  have hrepeats : ∀ condition ∈ filter, t'.Repeats values condition := by
    intro condition hmem
    rcases List.mem_cons.mp hmem with rfl | hmem
    · exact ⟨by decide, 1, ⟨"name", .varChar 4⟩, by decide, rfl, by decide, by decide, rfl⟩
    · obtain rfl := List.mem_singleton.mp hmem
      exact ⟨by decide, 0, ⟨"id", .int⟩, by decide, rfl, by decide, by decide, rfl⟩
  obtain ⟨row, -, -, hfinds, -⟩ := inserted_row_is_found hreached hinsert
  exact ⟨hreached, hinsert, hrepeats, (hfinds filter hrepeats).1, by decide +kernel⟩

end Table

end WireSql
