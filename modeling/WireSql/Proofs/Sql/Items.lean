import WireSql.Proofs.Sql.Literals

/-!
# `WireSql.Proofs.Sql.Items`: the items of statements are read as they were printed

Equations stand in the assignments of an update and, with `AND` between them, in the filter of a
statement; literals stand in rows, and rows in an insertion. Each is read back from its text, and a list
of them item by item: the scan that cuts lists passes every item, and no reader minds the blank behind a
comma.
-/

namespace WireSql.Sql

open Text

variable {α β γ ε : Type}

/-- What is read one by one as `f` says is read so as a list. -/
theorem mapM_map_eq_ok_map {read : α → Except ε γ} {write : β → α} {f : β → γ} {l : List β}
    (h : ∀ b ∈ l, read (write b) = .ok (f b)) : (l.map write).mapM read = .ok (l.map f) := by
  induction l with
  | nil => rfl
  | cons b l ih =>
    rw [List.forall_mem_cons] at h
    rw [List.map_cons, List.mapM_cons, h.1, ih h.2]
    rfl

/-- What is read back one by one is read back as a list. -/
theorem mapM_map_eq_ok {read : α → Except ε β} {write : β → α} {l : List β}
    (h : ∀ b ∈ l, read (write b) = .ok b) : (l.map write).mapM read = .ok l :=
  (mapM_map_eq_ok_map h).trans (congrArg _ (List.map_id l))

/-- A printed list whose items the scan passes is read back item by item. -/
theorem mapM_splitTopLevel_list {read : List Char → Except ε β} {write : β → List Char} {l : List β}
    (hblank : ∀ s, read (' ' :: s) = read s) (hne : l ≠ [])
    (hpasses : ∀ b ∈ l, Passes .comma (.within 0) (write b) (.within 0))
    (hread : ∀ b ∈ l, read (write b) = .ok b) :
    (splitTopLevel .comma (Print.list (l.map write))).mapM read = .ok l := by
  have hitems : ∀ p ∈ l.map write, Passes .comma (.within 0) p (.within 0) := by
    simpa using hpasses
  rw [splitTopLevel_list (by simpa using hne) hitems, mapM_spaced hblank, mapM_map_eq_ok hread]

/-! ## Equations -/

variable {column : String} {v : Value} {separator : Separator} {b : Scan} {s : List Char} {depth : Nat}

/-- A blank in front of a character that does not begin `AND` separates nothing. -/
theorem passes_blank {c : Char} (hc : c.toUpper ≠ 'A')
    (hs : Passes separator (.within depth) (c :: s) b) :
    Passes separator (.within depth) (' ' :: c :: s) b := by
  refine .cons (fun rest => ?_) ?_
  · cases separator with
    | comma => exact Bool.and_false _
    | conjunction =>
      have hheads : Separator.conjunction.heads (' ' :: c :: (s ++ rest)) = false := by
        unfold Separator.heads
        split
        · next heq _ => cases heq
        · next heq =>
          obtain ⟨-, rfl, -⟩ : _ ∧ _ ∧ _ := by simpa using heq
          simp [hc]
        · rfl
      exact (congrArg _ hheads).trans (Bool.and_false _)
  · rw [next_within_of_plain (by decide) (by decide) (by decide)]
    exact hs

/-- The equals sign and the blanks around it are passed together with what follows. -/
theorem passes_equals {c : Char} (hc : c.toUpper ≠ 'A')
    (hs : Passes separator (.within depth) (c :: s) b) :
    Passes separator (.within depth) (" = ".toList ++ c :: s) b := by
  refine passes_blank (by decide) (passes_cons_of_not_mayBegin (by cases separator <;> rfl) ?_)
  rw [next_within_of_plain (by decide) (by decide) (by decide)]
  exact passes_blank hc hs

theorem passes_equation (hcolumn : IsName column) (hv : v.isDouble = false) :
    Passes separator (.within depth) (Print.equation column v) (.within depth) := by
  obtain ⟨c, r, hcr, hc⟩ := exists_value_eq_cons hv
  have hvalue : Passes separator (.within depth) (Print.value v) (.within depth) := passes_value hv
  have hletter : c.toUpper ≠ 'A' :=
    forall_ascii (p := fun c => beginsLiteral c = true → c.toUpper ≠ 'A') (by decide)
      (toNat_lt_of_beginsLiteral hc) hc
  rw [Print.equation, List.append_assoc]
  rw [hcr] at hvalue ⊢
  exact (passes_name hcolumn).append (passes_equals hletter hvalue)

theorem equality?_cons_blank (s : List Char) : equality? (' ' :: s) = equality? s := by
  rw [equality?, equality?, splitAtFirst?, if_neg (by decide)]
  cases splitAtFirst? '=' s <;> simp

/-- The two sides of an equation, whatever stands on its right side. -/
theorem equality?_append (hcolumn : IsName column) (s : List Char) :
    equality? (Print.identifier column ++ (" = ".toList ++ s)) = some (column, ' ' :: s) := by
  have hleft : '=' ∉ Print.identifier column ++ [' '] := by
    simpa using not_mem_identifier hcolumn (by decide) (by decide)
  have hsplit : splitAtFirst? '=' (Print.identifier column ++ (" = ".toList ++ s)) =
      some (Print.identifier column ++ [' '], ' ' :: s) := by
    have h := splitAtFirst?_append hleft (' ' :: s)
    rwa [List.append_assoc] at h
  have hname : identifier (Print.identifier column ++ [' ']) = column := by
    rw [identifier_concat_blank, identifier_identifier hcolumn]
  have hvalid : (!column.isEmpty && column.toList.all inColumnName) = true := by
    simpa [IsName] using hcolumn
  rw [equality?, hsplit, Option.bind_some]
  dsimp only
  rw [hname, if_pos hvalid]

theorem assignment_cons_blank (s : List Char) : assignment (' ' :: s) = assignment s := by
  rw [assignment, assignment, equality?_cons_blank, trim_cons_of_blank (by decide)]

theorem assignment_equation {a : Assignment} (hcolumn : IsName a.column)
    (hv : a.value.isDouble = false) : assignment (Print.equation a.column a.value) = .ok a := by
  rw [Print.equation, List.append_assoc, assignment, equality?_append hcolumn]
  dsimp only
  rw [literal_cons_blank, literal_value hv]
  rfl

theorem condition_equation {c : Condition} (hcolumn : IsName c.column)
    (hv : c.value.isDouble = false) : condition (Print.equation c.column c.value) = .ok c := by
  rw [Print.equation, List.append_assoc, condition, equality?_append hcolumn]
  dsimp only
  rw [literal_cons_blank, literal_value hv]
  rfl

/-- **Assignments are read as they were printed.** -/
theorem assignments_assignments {items : List Assignment} (hne : items ≠ [])
    (h : ∀ a ∈ items, IsName a.column ∧ a.value.isDouble = false) :
    assignments (Print.assignments items) = .ok items :=
  mapM_splitTopLevel_list assignment_cons_blank hne (fun a ha => passes_equation (h a ha).1 (h a ha).2)
    fun a ha => assignment_equation (h a ha).1 (h a ha).2

/-- **Conditions are read as they were printed.** -/
theorem conditions_conditions {items : List Condition} (hne : items ≠ [])
    (h : ∀ c ∈ items, IsName c.column ∧ c.value.isDouble = false) :
    conditions (Print.conditions items) = .ok items := by
  have hpasses : ∀ p ∈ items.map fun c => Print.equation c.column c.value,
      Passes .conjunction (.within 0) p (.within 0) := by
    simpa using fun c hc => passes_equation (h c hc).1 (h c hc).2
  rw [conditions, Print.conditions, splitTopLevel_conjunction (by simpa using hne) hpasses]
  exact mapM_map_eq_ok fun c hc => condition_equation (h c hc).1 (h c hc).2

/-! ## Rows -/

theorem parenthesised?_parenthesised (s : List Char) :
    parenthesised? (Print.parenthesised s) = some s := by
  simp [parenthesised?, Print.parenthesised]

theorem row_cons_blank (s : List Char) : row (' ' :: s) = row s := by
  rw [row, row, trim_cons_of_blank (by decide)]

/-- A row is read as it was printed. -/
theorem row_row {values : List Value} (hne : values ≠ []) (h : ∀ v ∈ values, v.isDouble = false) :
    row (Print.row values) = .ok values := by
  have htrim : trim (Print.row values) = Print.row values := trim_between (by decide) (by decide) _
  rw [row, htrim, Print.row, parenthesised?_parenthesised]
  exact mapM_splitTopLevel_list literal_cons_blank hne (fun v hv => passes_value (h v hv))
    fun v hv => literal_value (h v hv)

theorem passes_row {values : List Value} (h : ∀ v ∈ values, v.isDouble = false) :
    Passes separator (.within depth) (Print.row values) (.within depth) :=
  passes_parenthesised (passes_list (by simpa using fun v hv => passes_value (h v hv)))

/-- **Rows are read as they were printed.** -/
theorem rows_list {items : List (List Value)} (hne : items ≠ [])
    (h : ∀ values ∈ items, values ≠ [] ∧ ∀ v ∈ values, v.isDouble = false) :
    rows (Print.list (items.map Print.row)) = .ok items :=
  mapM_splitTopLevel_list row_cons_blank hne (fun values hvalues => passes_row (h values hvalues).2)
    fun values hvalues => row_row (h values hvalues).1 (h values hvalues).2

end WireSql.Sql
