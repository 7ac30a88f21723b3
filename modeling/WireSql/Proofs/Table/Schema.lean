import WireSql.Proofs.Outcome
import WireSql.Table.Basic

/-!
# `WireSql.Proofs.Table.Schema`: columns, keys and what they store

What a table declares when it is created, and keeps for good. `Table.Declared` is the condition on its
columns and its key: there is a column, no two have the same name, and the key names some of them, each
once. `yields_create` says that no other table comes out of `Table.create`.

`ColumnType.Stores` names the values that a column of each type holds, and `yields_coerce` says that a
literal is turned into one of them or not taken at all.
-/

namespace WireSql

/-! ## Values of columns -/

/-- **What a column of a type stores**: NULL, or a value of the one kind that belongs to the type. -/
inductive ColumnType.Stores : ColumnType → Value → Prop where
  /-- Every column may hold NULL. -/
  | null (type : ColumnType) : Stores type .null
  /-- A small integer is held as a 64-bit one. -/
  | int (i : Int64) : Stores .int (.int i)
  | bigInt (i : Int64) : Stores .bigInt (.int i)
  /-- A float of single precision is held as a 64-bit one. -/
  | float (x : Float) : Stores .float (.double x)
  | double (x : Float) : Stores .double (.double x)
  | boolean (b : Bool) : Stores .boolean (.bool b)
  | varChar {limit : UInt32} {s : String} (h : s.length ≤ limit.toNat) :
      Stores (.varChar limit) (.text s)
  | text (s : String) : Stores .text (.text s)
  /-- A date is held as text. -/
  | date (s : String) : Stores .date (.text s)
  /-- A date with a time is held as text. -/
  | dateTime (s : String) : Stores .dateTime (.text s)

namespace ColumnType

/-- Only columns of floats store floats. -/
theorem Stores.ne_double {type : ColumnType} {v : Value} (h : type.Stores v) (hfloat : type ≠ .float)
    (hdouble : type ≠ .double) (x : Float) : v ≠ .double x := by
  rintro rfl
  cases h with
  | float => exact hfloat rfl
  | double => exact hdouble rfl

/-- A value made of an optional one, or an error where there is none. -/
theorem yields_orError {α : Type} {P : Value → Prop} {make : α → Value} (h : ∀ a, P (make a))
    (w : Option α) (e : StatementError) :
    Yields (((w.map make).map Except.ok).getD (.error e)) P := by
  cases w with
  | none => exact yields_error e
  | some a => exact yields_ok (h a)

/-- A literal is NULL and stays it, or it becomes another value of its column, or the column refuses it. -/
theorem yields_coerce_cases (type : ColumnType) (column : String) (v : Value) :
    Yields (type.coerce column v) fun w => w = .null ∧ v = .null ∨ w ≠ .null ∧ type.Stores w := by
  unfold coerce
  split
  · next hnull =>
    cases v with
    | null => exact yields_ok (.inl ⟨rfl, rfl⟩)
    | _ => cases hnull
  · cases type with
    | int => exact yields_orError (fun i => .inr ⟨nofun, .int i⟩) _ _
    | bigInt => exact yields_orError (fun i => .inr ⟨nofun, .bigInt i⟩) _ _
    | float => exact yields_orError (fun x => .inr ⟨nofun, .float x⟩) _ _
    | double => exact yields_orError (fun x => .inr ⟨nofun, .double x⟩) _ _
    | boolean => exact yields_orError (fun b => .inr ⟨nofun, .boolean b⟩) _ _
    | varChar limit =>
      dsimp only
      split
      · exact yields_error _
      · next hfits => exact yields_ok (.inr ⟨nofun, .varChar (Nat.not_lt.mp hfits)⟩)
    | text => exact yields_ok (.inr ⟨nofun, .text _⟩)
    | date => exact yields_ok (.inr ⟨nofun, .date _⟩)
    | dateTime => exact yields_ok (.inr ⟨nofun, .dateTime _⟩)

/-- **A literal becomes a value of its column, or the column refuses it.** -/
theorem yields_coerce (type : ColumnType) (column : String) (v : Value) :
    Yields (type.coerce column v) type.Stores := by
  refine (yields_coerce_cases type column v).mono ?_
  rintro w (⟨rfl, -⟩ | ⟨-, hstores⟩)
  · exact .null type
  · exact hstores

/-- Only NULL is stored as NULL. -/
theorem yields_coerce_ne_null {type : ColumnType} {column : String} {v : Value} (hv : v ≠ .null) :
    Yields (type.coerce column v) fun w => w ≠ .null := by
  refine (yields_coerce_cases type column v).mono ?_
  rintro w (⟨-, hnull⟩ | ⟨hne, -⟩)
  · exact absurd hnull hv
  · exact hne

end ColumnType

namespace Table

/-! ## Columns -/

/-- No two columns have the same name, ignoring ASCII letter case. -/
def NamesDiffer (columns : List ColumnDef) : Prop :=
  columns.Pairwise fun a b => Text.sameIgnoringCase a.name b.name = false

theorem exists_column_of_columnIndex? {columns : List ColumnDef} {name : String} {i : Nat}
    (h : columnIndex? columns name = some i) : ∃ c, columns[i]? = some c := by
  obtain ⟨hi, -, -⟩ := List.findIdx?_eq_some_iff_getElem.mp h
  exact ⟨columns[i], List.getElem?_eq_getElem hi⟩

/-- A column is found under its own name where names differ. -/
theorem columnIndex?_name {columns : List ColumnDef} (hnames : NamesDiffer columns) {i : Nat}
    {c : ColumnDef} (h : columns[i]? = some c) : columnIndex? columns c.name = some i := by
  obtain ⟨hi, rfl⟩ := List.getElem?_eq_some_iff.mp h
  refine List.findIdx?_eq_some_iff_getElem.mpr ⟨hi, Text.sameIgnoringCase_refl _, ?_⟩
  -- an earlier column that is found under this name would have the same name
  intro j hj hsame
  have hdiffer := List.pairwise_iff_getElem.mp hnames j i (Nat.lt_trans hj hi) hi hj
  rw [hdiffer] at hsame
  cases hsame

/-- A column that a statement names is one of the table's. -/
theorem yields_column (t : Table) (part : ClausePart) (name : String) :
    Yields (t.column part name) fun p => t.columns[p.1]? = some p.2 := by
  unfold column
  split
  · next i h =>
    obtain ⟨c, hc⟩ := exists_column_of_columnIndex? h
    apply yields_ok
    rw [hc]
    rfl
  · exact yields_error _

theorem namesDiffer_of_duplicateColumn? {earlier later : List ColumnDef}
    (h : duplicateColumn? earlier later = none) :
    (∀ e ∈ earlier, ∀ c ∈ later, Text.sameIgnoringCase e.name c.name = false) ∧
      NamesDiffer later := by
  induction later generalizing earlier with
  | nil =>
    refine ⟨fun e _ c hc => ?_, List.Pairwise.nil⟩
    cases hc
  | cons c later ih =>
    unfold duplicateColumn? at h
    split at h
    · cases h
    · next hc =>
      have hnew : ∀ e ∈ earlier, Text.sameIgnoringCase e.name c.name = false := by
        intro e he
        exact Bool.eq_false_iff.mpr fun hsame => hc (List.any_eq_true.mpr ⟨e, he, hsame⟩)
      obtain ⟨hearlier, hlater⟩ := ih h
      constructor
      · intro e he d hd
        rcases List.mem_cons.mp hd with rfl | hd
        · exact hnew e he
        · exact hearlier e (List.mem_append_left _ he) d hd
      -- `c` is among the columns that the later ones were compared with
      · refine List.pairwise_cons.mpr ⟨fun d hd => ?_, hlater⟩
        exact hearlier c (List.mem_append_right _ (List.mem_singleton.mpr rfl)) d hd

/-! ## Keys -/

/-- A key names columns, each once. -/
structure KeyOf (columns : List ColumnDef) (key : List String) : Prop where
  nodup : key.Nodup
  declared : ∀ name ∈ key, ∃ c ∈ columns, c.name = name

theorem yields_addKeyColumn {columns : List ColumnDef} {key : List String} (h : KeyOf columns key)
    (name : String) : Yields (addKeyColumn columns key name) (KeyOf columns) := by
  unfold addKeyColumn
  split
  · exact yields_error _
  · next i hi =>
    obtain ⟨c, hc⟩ := exists_column_of_columnIndex? hi
    rw [hc]
    show Yields (.ok (if key.contains c.name then key else key ++ [c.name])) _
    apply yields_ok
    split
    · exact h
    · next hfresh =>
      have hfresh : c.name ∉ key := fun hmem => hfresh (List.contains_iff_mem.mpr hmem)
      constructor
      · exact List.nodup_append.mpr ⟨h.nodup, by simp, fun a ha b hb hab => by
          rw [List.mem_singleton.mp hb] at hab
          exact hfresh (hab ▸ ha)⟩
      · intro declared hmem
        rcases List.mem_append.mp hmem with hmem | hmem
        · exact h.declared declared hmem
        · exact ⟨c, List.mem_of_getElem? hc, (List.mem_singleton.mp hmem).symm⟩

theorem yields_canonicalKey (columns : List ColumnDef) (names : List String) :
    Yields (canonicalKey columns names) (KeyOf columns) :=
  yields_foldlM (fun _ name h => yields_addKeyColumn h name)
    ⟨List.nodup_nil, fun _ h => by cases h⟩

/-! ## Declarations -/

/-- **What a table declares is in order.** -/
structure Declared (t : Table) : Prop where
  columns_ne_nil : t.columns ≠ []
  names_differ : NamesDiffer t.columns
  key : KeyOf t.columns t.primaryKey

/-- The rows take no part in a declaration. -/
theorem Declared.with_rows {t : Table} (h : t.Declared) (rows : List Row) :
    Declared { t with rows } := ⟨h.columns_ne_nil, h.names_differ, h.key⟩

/-- **A new table is declared in order and has no rows.** -/
theorem yields_create (columns : List ColumnDef) (primaryKey : List String) :
    Yields (create columns primaryKey) fun t => t.Declared ∧ t.rows = [] := by
  unfold create
  split
  · exact yields_error _
  · next hne =>
    split
    · exact yields_error _
    · next hnone =>
      refine yields_bind fun key hkey => yields_pure ⟨?_, rfl⟩
      exact {
        columns_ne_nil := fun h => hne (List.isEmpty_iff.mpr h)
        names_differ := (namesDiffer_of_duplicateColumn? hnone).2
        key := yields_canonicalKey columns primaryKey key hkey }

/-- Is this the position of a key column? -/
def InKey (t : Table) (i : Nat) : Prop := ∃ c, t.columns[i]? = some c ∧ c.name ∈ t.primaryKey

/-- The positions that are checked are those of the key columns. -/
theorem Declared.mem_keyIndices_iff {t : Table} (h : t.Declared) {i : Nat} :
    i ∈ t.keyIndices ↔ t.InKey i := by
  unfold keyIndices
  rw [List.mem_filterMap]
  constructor
  · rintro ⟨name, hname, hi⟩
    obtain ⟨c, hc, rfl⟩ := h.key.declared name hname
    obtain ⟨j, hcolumn⟩ := List.mem_iff_getElem?.mp hc
    rw [columnIndex?_name h.names_differ hcolumn] at hi
    obtain rfl := Option.some.inj hi
    exact ⟨c, hcolumn, hname⟩
  · rintro ⟨c, hc, hname⟩
    exact ⟨c.name, hname, columnIndex?_name h.names_differ hc⟩

/-- A key has a column to check. -/
theorem Declared.keyIndices_ne_nil {t : Table} (h : t.Declared) (hkey : t.primaryKey ≠ []) :
    t.keyIndices ≠ [] := by
  obtain ⟨name, hname⟩ := List.exists_mem_of_ne_nil _ hkey
  obtain ⟨c, hc, rfl⟩ := h.key.declared name hname
  obtain ⟨i, hcolumn⟩ := List.mem_iff_getElem?.mp hc
  exact List.ne_nil_of_mem (h.mem_keyIndices_iff.mpr ⟨c, hcolumn, hname⟩)

end Table

end WireSql
