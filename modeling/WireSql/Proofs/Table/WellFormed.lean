import WireSql.Proofs.Table.Invariant
import WireSql.Proofs.Value.Equality

/-!
# `WireSql.Proofs.Table.WellFormed`: what a client may rely on of a stored table

`Table.WellFormed` spells out what holds of every table that statements have made, in terms of its
columns, its rows and the names in its key, without a word about how keys are checked. It follows from
`Table.Invariant`, which is what the operations keep.

The invariant compares each row with the earlier ones only. That any two rows differ rests on the symmetry
of `Value.equals`, and that they differ as values rests on `Value.equals_self`.
-/

namespace WireSql

namespace Table

/-- **What a stored table guarantees.** -/
structure WellFormed (t : Table) : Prop where
  columns_ne_nil : t.columns ≠ []
  /-- Any two columns have different names, ignoring ASCII letter case. -/
  names_differ : ∀ (i j : Nat) (a b : ColumnDef), i ≠ j → t.columns[i]? = some a →
    t.columns[j]? = some b → Text.sameIgnoringCase a.name b.name = false
  key_nodup : t.primaryKey.Nodup
  key_declared : ∀ name ∈ t.primaryKey, ∃ c ∈ t.columns, c.name = name
  row_width : ∀ row ∈ t.rows, row.length = t.columns.length
  /-- Every cell is NULL or of the one kind that its column stores, and within its limit. -/
  cells_stored : ∀ row ∈ t.rows, ∀ (i : Nat) (c : ColumnDef), t.columns[i]? = some c →
    c.type.Stores (row.cell i)
  key_not_null : ∀ row ∈ t.rows, ∀ k, t.InKey k → row.cell k ≠ .null
  /-- Any two rows differ by the `=` of a condition in a cell of the key, where there is a key. -/
  keys_differ : t.primaryKey ≠ [] → ∀ (i j : Nat) (a b : Row), i ≠ j → t.rows[i]? = some a →
    t.rows[j]? = some b → ∃ k, t.InKey k ∧ (a.cell k).equals (b.cell k) = false
  /-- Any two rows hold different values in a cell of the key, where it has no column of floats. -/
  exact_keys_differ : t.primaryKey ≠ [] →
    (∀ c ∈ t.columns, c.name ∈ t.primaryKey → c.type ≠ .float ∧ c.type ≠ .double) →
    ∀ (i j : Nat) (a b : Row), i ≠ j → t.rows[i]? = some a → t.rows[j]? = some b →
      ∃ k, t.InKey k ∧ a.cell k ≠ b.cell k

theorem sameKey_comm (key : List Nat) (a b : Row) : sameKey key a b = sameKey key b a := by
  unfold sameKey
  congr 1
  funext i
  exact Value.equals_comm _ _

/-- What holds of each entry and all later ones holds of any two, where the order does not matter. -/
theorem of_pairwise {α : Type} {R : α → α → Prop} (hsymm : ∀ a b, R a b → R b a) {l : List α}
    (h : l.Pairwise R) {i j : Nat} {a b : α} (hij : i ≠ j) (ha : l[i]? = some a)
    (hb : l[j]? = some b) : R a b := by
  obtain ⟨hi, rfl⟩ := List.getElem?_eq_some_iff.mp ha
  obtain ⟨hj, rfl⟩ := List.getElem?_eq_some_iff.mp hb
  rcases Nat.lt_or_gt_of_ne hij with hlt | hgt
  · exact List.pairwise_iff_getElem.mp h i j hi hj hlt
  · exact hsymm _ _ (List.pairwise_iff_getElem.mp h j i hj hi hgt)

/-- **The invariant makes a table well formed.** -/
theorem Invariant.wellFormed {t : Table} (h : t.Invariant) : t.WellFormed := by
  have hkeys : t.primaryKey ≠ [] → KeysInOrder t.keyIndices t.rows :=
    fun hkey => h.keys (h.declared.keyIndices_ne_nil hkey)
  have hnull : ∀ row ∈ t.rows, ∀ k, t.InKey k → row.cell k ≠ .null := by
    intro row hrow k hk hcell
    have hmem : k ∈ t.keyIndices := h.declared.mem_keyIndices_iff.mpr hk
    have hnot := (h.keys (List.ne_nil_of_mem hmem)).not_null row hrow k hmem
    rw [hcell] at hnot
    cases hnot
  have hdiffer : t.primaryKey ≠ [] → ∀ (i j : Nat) (a b : Row), i ≠ j → t.rows[i]? = some a →
      t.rows[j]? = some b → ∃ k, t.InKey k ∧ (a.cell k).equals (b.cell k) = false := by
    intro hkey i j a b hij ha hb
    have hsame : sameKey t.keyIndices a b = false :=
      of_pairwise (fun a b hab => (sameKey_comm _ b a).trans hab) (hkeys hkey).differ hij ha hb
    -- keys that are not the same differ in one of their cells
    obtain ⟨k, hk, hne⟩ := List.all_eq_false.mp hsame
    exact ⟨k, h.declared.mem_keyIndices_iff.mp hk, Bool.eq_false_iff.mpr hne⟩
  exact {
    columns_ne_nil := h.declared.columns_ne_nil
    names_differ := fun i j a b hij ha hb =>
      of_pairwise (fun a b hab => (Text.sameIgnoringCase_comm _ _).trans hab)
        h.declared.names_differ hij ha hb
    key_nodup := h.declared.key.nodup
    key_declared := h.declared.key.declared
    row_width := fun row hrow => (h.fits row hrow).width
    cells_stored := fun row hrow => (h.fits row hrow).stores
    key_not_null := hnull
    keys_differ := hdiffer
    exact_keys_differ := by
      intro hkey hexact i j a b hij ha hb
      obtain ⟨k, hk, hne⟩ := hdiffer hkey i j a b hij ha hb
      refine ⟨k, hk, fun heq => ?_⟩
      -- a cell of the key is neither NULL nor a float, and so it would equal itself
      obtain ⟨c, hc, hname⟩ := hk
      obtain ⟨hfloat, hdouble⟩ := hexact c (List.mem_of_getElem? hc) hname
      have hstores := (h.fits a (List.mem_of_getElem? ha)).stores k c hc
      rw [← heq, Value.equals_self (hnull a (List.mem_of_getElem? ha) k ⟨c, hc, hname⟩)
        (hstores.ne_double hfloat hdouble)] at hne
      cases hne }

end Table

end WireSql
