import WireSql.Proofs.Table.Filtering

/-!
# `WireSql.Proofs.Table.Batches`: many rows at once and one by one

An insertion of many rows makes all of them before it looks at a key, and then looks at all keys together.
Rows that are inserted one by one are looked at again and again, each time with those before it. Both come
to the same: the check goes through the rows from the front, so that it lets some rows through just where it
lets through a lead of them and then the others behind that lead (`checkKeysFrom_append`).

`Table.Adds` says what an insertion adds that succeeds. It takes rows apart as the check does
(`adds_cons_iff`), and `insert_one_by_one` follows from that.
-/

namespace WireSql

/-- Add rows to a table, each by an insertion of its own, and answer how many. -/
def InPlace.insertEach (columns : Option (List String)) : List (List Value) → InPlace Table Nat
  | [] => return 0
  | values :: rows => do
    let one ← insert columns [values]
    return (← insertEach columns rows) + one

namespace Table

variable {t t' : Table} {columns : Option (List String)} {values : List Value} {rows : List (List Value)}
  {row : Row} {added : List Row} {n : Nat}

/-! ## Keys of leads -/

/-- **Rows pass the check just where a lead of them passes and then the others behind it.** -/
theorem checkKeysFrom_append (columns : List ColumnDef) (key : List Nat) (earlier rows more : List Row) :
    checkKeysFrom columns key earlier (rows ++ more) = (do
      checkKeysFrom columns key earlier rows
      checkKeysFrom columns key (earlier ++ rows) more) := by
  induction rows generalizing earlier with
  | nil => rw [List.append_nil]; rfl
  | cons row rows ih =>
    rw [List.cons_append, checkKeysFrom, checkKeysFrom]
    split
    · rfl
    · split
      · rfl
      · rw [ih, List.append_assoc]; rfl

/-- A lead of rows that pass the check passes it. -/
theorem checkKeys_of_append {t : Table} {rows more : List Row} (h : t.checkKeys (rows ++ more) = .ok ()) :
    t.checkKeys rows = .ok () := by
  unfold checkKeys at h ⊢
  split
  · rfl
  · next hkey =>
    rw [if_neg hkey, checkKeysFrom_append] at h
    cases hlead : checkKeysFrom t.columns t.keyIndices [] rows with
    | ok u => rfl
    | error e => rw [hlead] at h; cases h

/-! ## Added rows -/

/-- The table with rows added at its end. -/
def withAdded (t : Table) (added : List Row) : Table := { t with rows := t.rows ++ added }

@[simp] theorem withAdded_withAdded (t : Table) (added more : List Row) :
    (t.withAdded added).withAdded more = t.withAdded (added ++ more) := by
  simp [withAdded]

/-- **A row is what the values of a statement make of the columns that it names.** -/
def Makes (t : Table) (columns : Option (List String)) (values : List Value) (row : Row) : Prop :=
  ∃ targets, t.insertTargets columns = .ok targets ∧ t.newRow targets 1 values = .ok row

/-- **What an insertion adds**: a row for the values of each, in their order, so that all keys are in order. -/
structure Adds (t : Table) (columns : Option (List String)) (rows : List (List Value))
    (added : List Row) : Prop where
  targets : ∃ targets, t.insertTargets columns = .ok targets
  /-- Each row is what its values make. -/
  made : List.Forall₂ (t.Makes columns) rows added
  keys : t.checkKeys (t.withAdded added).rows = .ok ()

/-- The place of the values in the statement matters to a message only. -/
theorem newRow_eq_ok_iff {targets : List (Nat × ColumnDef)} {number : Nat} :
    t.newRow targets number values = .ok row ↔ t.newRow targets 1 values = .ok row := by
  unfold newRow
  split
  · exact ⟨nofun, nofun⟩
  · rfl

/-- Rows are made of numbered values as they are made of the values. -/
theorem forall₂_zipIdx_iff {targets : List (Nat × ColumnDef)} (first : Nat) :
    List.Forall₂ (fun numbered row => t.newRow targets numbered.2 numbered.1 = .ok row)
        (rows.zipIdx first) added ↔
      List.Forall₂ (fun values row => t.newRow targets 1 values = .ok row) rows added := by
  induction rows generalizing first added with
  | nil => rw [List.zipIdx_nil, List.forall₂_nil_left_iff, List.forall₂_nil_left_iff]
  | cons values rows ih =>
    simp only [List.zipIdx_cons, List.forall₂_cons_left_iff, ih]
    refine exists₂_congr fun row more => and_congr_left fun _ => newRow_eq_ok_iff

/-- Where the columns are known, a row is what values make of them. -/
theorem makes_iff {targets : List (Nat × ColumnDef)} (htargets : t.insertTargets columns = .ok targets) :
    t.Makes columns values row ↔ t.newRow targets 1 values = .ok row := by
  unfold Makes
  simp [htargets]

/-- **An insertion succeeds with what it adds.** -/
theorem insert_eq_ok_iff : t.insert columns rows = .ok (n, t') ↔
    n = rows.length ∧ ∃ added, t.Adds columns rows added ∧ t' = t.withAdded added := by
  unfold insert withRows
  simp only [bind_eq_ok_iff, mapM_eq_ok_iff, forall₂_zipIdx_iff]
  constructor
  · rintro ⟨targets, htargets, added, hadded, t₁, ⟨⟨⟩, hkeys, ⟨⟩⟩, ⟨⟩⟩
    refine ⟨rfl, added, ⟨⟨targets, htargets⟩, ?_, hkeys⟩, rfl⟩
    exact hadded.imp fun _ _ hrow => (makes_iff htargets).mpr hrow
  · rintro ⟨rfl, added, ⟨⟨targets, htargets⟩, hmade, hkeys⟩, rfl⟩
    refine ⟨targets, htargets, added, ?_, _, ⟨(), hkeys, rfl⟩, rfl⟩
    exact hmade.imp fun _ _ hrow => (makes_iff htargets).mp hrow

theorem exec_insert_eq_ok_iff : (InPlace.insert columns rows).exec t = (.ok n, t') ↔
    n = rows.length ∧ ∃ added, t.Adds columns rows added ∧ t' = t.withAdded added :=
  (exec_eq_ok_iff (InPlace.insert_transacts columns rows)).trans insert_eq_ok_iff

/-- **The first row is added by itself, and then the others to the table that has it.** -/
theorem adds_cons_iff : t.Adds columns (values :: rows) added ↔
    ∃ row more, added = row :: more ∧ t.Adds columns [values] [row] ∧
      (t.withAdded [row]).Adds columns rows more := by
  constructor
  · rintro ⟨htargets, hmade, hkeys⟩
    obtain ⟨row, more, hrow, hmore, rfl⟩ := List.forall₂_cons_left_iff.mp hmade
    have hsplit : t.withAdded (row :: more) = (t.withAdded [row]).withAdded more := by simp
    rw [hsplit] at hkeys
    -- the check of all rows has let the first one through
    have hfirst : t.checkKeys (t.withAdded [row]).rows = .ok () := checkKeys_of_append hkeys
    exact ⟨row, more, rfl, ⟨htargets, .cons hrow .nil, hfirst⟩, ⟨htargets, hmore, hkeys⟩⟩
  · rintro ⟨row, more, rfl, ⟨htargets, hrow, -⟩, -, hmore, hkeys⟩
    refine ⟨htargets, .cons (List.forall₂_cons.mp hrow).1 hmore, ?_⟩
    rw [withAdded_withAdded] at hkeys
    exact hkeys

/-! ## One by one -/

/-- An insertion of a row and then of the others. -/
theorem exec_insertEach_cons_eq_ok_iff :
    (InPlace.insertEach columns (values :: rows)).exec t = (.ok n, t') ↔
      ∃ row others, t.Adds columns [values] [row] ∧
        (InPlace.insertEach columns rows).exec (t.withAdded [row]) = (.ok others, t') ∧
        n = others + 1 := by
  rw [InPlace.insertEach, InPlace.exec_bind_eq_ok_iff]
  simp only [InPlace.exec_bind_eq_ok_iff, exec_insert_eq_ok_iff]
  constructor
  · rintro ⟨one, t₁, ⟨rfl, added, hadds, rfl⟩, others, t₂, hothers, ⟨⟩⟩
    obtain ⟨row, more, rfl, hfirst, hmore⟩ := adds_cons_iff.mp hadds
    obtain rfl := List.forall₂_nil_left_iff.mp hmore.made
    exact ⟨row, others, hfirst, hothers, rfl⟩
  · rintro ⟨row, others, hfirst, hothers, rfl⟩
    exact ⟨1, t.withAdded [row], ⟨rfl, [row], hfirst, rfl⟩, others, t', hothers, rfl⟩

/-- **Rows that are inserted one by one are added as they are all at once.** -/
theorem exec_insertEach_eq_ok_iff :
    (InPlace.insertEach columns (values :: rows)).exec t = (.ok n, t') ↔
      n = (values :: rows).length ∧
        ∃ added, t.Adds columns (values :: rows) added ∧ t' = t.withAdded added := by
  induction rows generalizing values t n with
  | nil =>
    rw [exec_insertEach_cons_eq_ok_iff]
    constructor
    · rintro ⟨row, others, hfirst, ⟨⟩, rfl⟩
      exact ⟨rfl, [row], hfirst, rfl⟩
    · rintro ⟨rfl, added, hadds, rfl⟩
      obtain ⟨row, more, rfl, hfirst, hmore⟩ := adds_cons_iff.mp hadds
      obtain rfl := List.forall₂_nil_left_iff.mp hmore.made
      exact ⟨row, 0, hfirst, rfl, rfl⟩
  | cons next rows ih =>
    rw [exec_insertEach_cons_eq_ok_iff]
    simp only [ih]
    constructor
    · rintro ⟨row, others, hfirst, ⟨rfl, more, hmore, rfl⟩, rfl⟩
      refine ⟨rfl, row :: more, adds_cons_iff.mpr ⟨row, more, rfl, hfirst, hmore⟩, ?_⟩
      rw [withAdded_withAdded]
      rfl
    · rintro ⟨rfl, added, hadds, rfl⟩
      obtain ⟨row, more, rfl, hfirst, hmore⟩ := adds_cons_iff.mp hadds
      refine ⟨row, (next :: rows).length, hfirst, ⟨rfl, more, hmore, ?_⟩, rfl⟩
      rw [withAdded_withAdded]
      rfl

/-- **An insertion of many rows does what an insertion of each row in its turn does.** It succeeds exactly
where all of them succeed, and leaves the same table and the same count: the old rows and behind them one new
row for each that was given, in the same order. -/
theorem insert_one_by_one (t : Table) (columns : Option (List String)) (values : List Value)
    (rows : List (List Value)) :
    (∀ n t', (InPlace.insert columns (values :: rows)).exec t = (.ok n, t') ↔
      (InPlace.insertEach columns (values :: rows)).exec t = (.ok n, t')) ∧
    ∀ n t', (InPlace.insert columns (values :: rows)).exec t = (.ok n, t') →
      n = (values :: rows).length ∧ ∃ added, t' = { t with rows := t.rows ++ added } ∧
        List.Forall₂ (t.Makes columns) (values :: rows) added := by
  constructor
  · intro n t'
    rw [exec_insert_eq_ok_iff, exec_insertEach_eq_ok_iff]
  · intro n t' h
    obtain ⟨hn, added, hadds, ht'⟩ := exec_insert_eq_ok_iff.mp h
    exact ⟨hn, added, ht', hadds.made⟩

/-- Two rows for columns in another order, with a number given as a text and a name left open. -/
theorem insert_one_by_one_reordered :
    let t : Table :=
      { columns := [⟨"id", .int⟩, ⟨"name", .text⟩], primaryKey := ["id"], rows := [[.int 1, .text "a"]] }
    let columns : Option (List String) := some ["name", "ID"]
    let rows : List (List Value) := [[.text "b", .text " 2"], [.null, .int 3]]
    let t' : Table := { t with rows := [[.int 1, .text "a"], [.int 2, .text "b"], [.int 3, .null]] }
    (InPlace.insert columns rows).exec t = (.ok 2, t') ∧
      (InPlace.insertEach columns rows).exec t = (.ok 2, t') ∧
      ∃ added, t' = { t with rows := t.rows ++ added } ∧ List.Forall₂ (t.Makes columns) rows added := by
  intro t columns rows t'
  have hinsert : (InPlace.insert columns rows).exec t = (.ok 2, t') := by decide +kernel
  obtain ⟨hsame, hadds⟩ := insert_one_by_one t columns _ [[.null, .int 3]]
  exact ⟨hinsert, (hsame 2 t').mp hinsert, (hadds 2 t' hinsert).2⟩

end Table

end WireSql
