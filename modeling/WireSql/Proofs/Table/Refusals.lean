import WireSql.Proofs.Decimal.PlainText
import WireSql.Proofs.Sql.Literals
import WireSql.Proofs.Table.Lookup
import WireSql.Proofs.Value.Equality

/-!
# `WireSql.Proofs.Table.Refusals`: conditions with literals that their column refuses

A column of a type takes some literals and refuses others: `ColumnType.Refuses` lists what is refused, and
`coerce_error_iff` says that the list is complete. A condition with a literal that its column refuses is
still compared with the cells, as it stands, and this comparison takes numbers and texts of different kinds
for the same where they look alike. `ColumnType.lookalike` names the pairs that come out as equal, and
`equals_refused` says that there are no others: columns of floats, of texts without a limit and of dates
have none, the other types do.

`refused_literal_finds_lookalikes` carries this to tables: such a condition picks out the rows whose cell is
a lookalike of the literal.
-/

namespace WireSql

namespace ColumnType

variable {type : ColumnType} {column : String} {v w : Value}

/-! ## Refused literals -/

/-- **The literals that a column refuses.** Nothing but a text is refused by a column of numbers, and columns
of texts without a limit and of dates refuse nothing. -/
inductive Refuses : ColumnType → Value → Prop where
  /-- A text that is no 64-bit integer, with blanks around it left out. -/
  | int {s : String} (h : Decimal.int64? (Text.trim s.toList) = none) : Refuses .int (.text s)
  | bigInt {s : String} (h : Decimal.int64? (Text.trim s.toList) = none) : Refuses .bigInt (.text s)
  | float {s : String} (h : Decimal.float? s.toList = none) : Refuses .float (.text s)
  | double {s : String} (h : Decimal.float? s.toList = none) : Refuses .double (.text s)
  /-- A float has no truth value. -/
  | booleanOfDouble (x : Float) : Refuses .boolean (.double x)
  /-- A text that is none of the two words for truth values. -/
  | booleanOfText {s : String} (htrue : Text.sameIgnoringCase s "true" = false)
      (hfalse : Text.sameIgnoringCase s "false" = false) : Refuses .boolean (.text s)
  /-- A literal with a text beyond the limit. -/
  | varChar {limit : UInt32} {v : Value} {text : String} (htext : v.toText = some text)
      (h : limit.toNat < text.length) : Refuses (.varChar limit) v

/-- A value made of an optional one is an error where there is none. -/
theorem orError_eq_error {α β : Type} {make : α → β} {o : Option α} {e e' : StatementError}
    (h : ((o.map make).map Except.ok).getD (.error e) = .error e') : o = none := by
  cases o with
  | none => rfl
  | some a => cases h

theorem whole?_eq_none (hv : v.isNull = false) (h : whole? v = none) :
    ∃ s, v = .text s ∧ Decimal.int64? (Text.trim s.toList) = none := by
  cases v with
  | null => cases hv
  | text s => exact ⟨s, rfl, h⟩
  | _ => cases h

theorem real?_eq_none (hv : v.isNull = false) (h : real? v = none) :
    ∃ s, v = .text s ∧ Decimal.float? s.toList = none := by
  cases v with
  | null => cases hv
  | text s =>
    refine ⟨s, rfl, ?_⟩
    cases hs : Decimal.float? s.toList with
    | none => rfl
    | some x => simp [real?, Value.asFloat?, hs] at h
  | _ => cases h

theorem truth?_eq_none (hv : v.isNull = false) (h : truth? v = none) : Refuses .boolean v := by
  cases v with
  | null => cases hv
  | double x => exact .booleanOfDouble x
  | text s =>
    unfold truth? at h
    dsimp only at h
    split at h
    · cases h
    · next htrue =>
      split at h
      · cases h
      · next hfalse =>
        exact .booleanOfText (Bool.eq_false_iff.mpr htrue) (Bool.eq_false_iff.mpr hfalse)
  | _ => cases h

/-- **A column that does not take a literal refuses it.** -/
theorem refuses_of_coerce {e : StatementError} (h : type.coerce column v = .error e) :
    type.Refuses v := by
  unfold coerce at h
  split at h
  · cases h
  · next hnull =>
    have hnull : v.isNull = false := by simpa using hnull
    obtain ⟨text, htext⟩ : ∃ text, v.toText = some text := by
      cases v with
      | null => cases hnull
      | _ => exact ⟨_, rfl⟩
    cases type with
    | int =>
      obtain ⟨s, rfl, hs⟩ := whole?_eq_none hnull (orError_eq_error h)
      exact .int hs
    | bigInt =>
      obtain ⟨s, rfl, hs⟩ := whole?_eq_none hnull (orError_eq_error h)
      exact .bigInt hs
    | float =>
      obtain ⟨s, rfl, hs⟩ := real?_eq_none hnull (orError_eq_error h)
      exact .float hs
    | double =>
      obtain ⟨s, rfl, hs⟩ := real?_eq_none hnull (orError_eq_error h)
      exact .double hs
    | boolean => exact truth?_eq_none hnull (orError_eq_error h)
    | varChar limit =>
      dsimp only at h
      rw [htext] at h
      split at h
      · next hlong => exact .varChar htext hlong
      · cases h
    | text => cases h
    | date => cases h
    | dateTime => cases h

/-- **These are the literals that a column refuses**, under whatever name. -/
theorem coerce_error_iff : (∃ e, type.coerce column v = .error e) ↔ type.Refuses v := by
  constructor
  · rintro ⟨e, he⟩
    exact refuses_of_coerce he
  · intro h
    cases h with
    | int h => simp [coerce, Value.isNull, whole?, h]
    | bigInt h => simp [coerce, Value.isNull, whole?, h]
    | float h => simp [coerce, Value.isNull, real?, Value.asFloat?, Value.asInt64?, h]
    | double h => simp [coerce, Value.isNull, real?, Value.asFloat?, Value.asInt64?, h]
    | booleanOfDouble x => exact ⟨_, rfl⟩
    | booleanOfText htrue hfalse => simp [coerce, Value.isNull, truth?, htrue, hfalse]
    | varChar htext h =>
      have hnull : v.isNull = false := by
        cases v with
        | null => cases htext
        | _ => rfl
      simp [coerce, hnull, htext, h]

/-! ## Lookalikes -/

/-- **What a column stores looks like a literal that it refuses**: an integer like the text of a number close
to it, a truth value like the digit that stands for it, and a text like a number that it spells in fewer
characters than the number's own text has. -/
def lookalike (type : ColumnType) (stored literal : Value) : Bool :=
  match type, stored, literal with
  | .int, .int i, .text s | .bigInt, .int i, .text s =>
    (Decimal.float? s.toList).any fun y => Value.closeTo (Value.floatOfInt64 i) y
  | .boolean, .bool b, literal => literal.toText == (Value.bool b).toText
  | .varChar _, .text s, .int j =>
    (Decimal.float? s.toList).any fun x => Value.closeTo x (Value.floatOfInt64 j)
  | .varChar _, .text s, .double y => (Decimal.float? s.toList).any fun x => Value.closeTo x y
  | _, _, _ => false

/-- The text of an integer is read as an integer. -/
theorem ne_repr_of_no_integer {s : String} (h : Decimal.int64? (Text.trim s.toList) = none) (i : Int64) :
    i.toInt.repr ≠ s := by
  rintro rfl
  have htrim : Text.trim i.toInt.repr.toList = i.toInt.repr.toList := Sql.trim_value (v := .int i) rfl
  rw [htrim, Decimal.int64?_repr] at h
  cases h

/-- The text of a float is read as a number. -/
theorem ne_plainText_of_no_number {s : String} (h : Decimal.float? s.toList = none) (x : Float) :
    Decimal.plainText x ≠ s := by
  rintro rfl
  have hread := Decimal.float?_plainText x
  rw [h] at hread
  cases hread

/-- An integer is equal to a text that is no integer just where this one is a number close to it. -/
theorem equals_int_text (i : Int64) {s : String} (h : Decimal.int64? (Text.trim s.toList) = none) :
    (Value.int i).equals (.text s) =
      (Decimal.float? s.toList).any fun y => Value.closeTo (Value.floatOfInt64 i) y := by
  show Value.equalsMixed (.int i) (.text s) = _
  cases hs : Decimal.float? s.toList with
  | some y => exact Value.equalsMixed_of_numbers rfl hs
  | none =>
    have hnone : (Value.text s).asFloat? = none := hs
    rw [Value.equalsMixed_of_no_number (.inr hnone)]
    exact beq_false_of_ne fun heq => ne_repr_of_no_integer h i (Option.some.inj heq)

/-- A float is equal to no text that is no number. -/
theorem equals_double_text (x : Float) {s : String} (h : Decimal.float? s.toList = none) :
    (Value.double x).equals (.text s) = false := by
  have hnone : (Value.text s).asFloat? = none := h
  show Value.equalsMixed (.double x) (.text s) = false
  rw [Value.equalsMixed_of_no_number (.inr hnone)]
  exact beq_false_of_ne fun heq => ne_plainText_of_no_number h x (Option.some.inj heq)

/-- Where one of them is no number, a text is equal to no value with another text. -/
theorem equalsMixed_text_of_ne {s t : String} (hv : v.toText = some t) (hne : s ≠ t)
    (hnumber : (Value.text s).asFloat? = none ∨ v.asFloat? = none) :
    (Value.text s).equalsMixed v = false := by
  rw [Value.equalsMixed_of_no_number hnumber, hv]
  exact beq_false_of_ne fun heq => hne (Option.some.inj heq)

/-- A text is equal to a number with another text just where it is itself a number close to it. -/
theorem equalsMixed_text_number {s t : String} (hv : v.toText = some t) (hne : s ≠ t) {y : Float}
    (hy : v.asFloat? = some y) : (Value.text s).equalsMixed v =
      (Decimal.float? s.toList).any fun x => Value.closeTo x y := by
  cases hs : Decimal.float? s.toList with
  | some x => exact Value.equalsMixed_of_numbers hs hy
  | none => exact equalsMixed_text_of_ne hv hne (.inl hs)

/-- A truth value is equal to a refused literal just where they have the same text. -/
theorem equals_refused_boolean (h : Refuses .boolean v) (b : Bool) :
    (Value.bool b).equals v = lookalike .boolean (.bool b) v := by
  have hmixed : (Value.bool b).equalsMixed v = (v.toText == (Value.bool b).toText) := by
    rw [Value.equalsMixed_of_no_number (.inl rfl)]
    exact Bool.beq_comm
  cases h with
  | booleanOfDouble => exact hmixed
  | booleanOfText => exact hmixed

/-- A text within the limit is equal to a literal beyond it just where both are numbers close to each other. -/
theorem equals_refused_varChar {limit : UInt32} (h : Refuses (.varChar limit) v) {s : String}
    (hs : s.length ≤ limit.toNat) : (Value.text s).equals v = lookalike (.varChar limit) (.text s) v := by
  obtain ⟨t, ht, hlong⟩ : ∃ t, v.toText = some t ∧ limit.toNat < t.length := by
    cases h with
    | varChar ht hlong => exact ⟨_, ht, hlong⟩
  have hne : s ≠ t := by
    rintro rfl
    exact absurd hs (Nat.not_le.mpr hlong)
  cases v with
  | null => cases ht
  | bool b => exact equalsMixed_text_of_ne ht hne (.inr rfl)
  | int j => exact equalsMixed_text_number ht hne rfl
  | double y => exact equalsMixed_text_number ht hne rfl
  | text t' =>
    obtain rfl := Option.some.inj ht
    exact beq_false_of_ne hne

/-- **A stored value is equal to a refused literal just where it looks like it.** -/
theorem equals_refused (h : type.Refuses v) (hw : type.Stores w) :
    w.equals v = type.lookalike w v := by
  cases hw with
  | null => cases type <;> simp [lookalike]
  | int i =>
    cases h with
    | int hs => exact equals_int_text i hs
  | bigInt i =>
    cases h with
    | bigInt hs => exact equals_int_text i hs
  | float x =>
    cases h with
    | float hs => exact equals_double_text x hs
  | double x =>
    cases h with
    | double hs => exact equals_double_text x hs
  | boolean b => exact equals_refused_boolean h b
  | varChar hs => exact equals_refused_varChar h hs
  | text s => cases h
  | date s => cases h
  | dateTime s => cases h

end ColumnType

/-! ## Conditions with refused literals -/

namespace Table

variable {t : Table} {before after : List Condition} {condition : Condition} {i : Nat} {c : ColumnDef}
  {e : StatementError}

/-- **A row meets a condition with a refused literal just where its cell looks like it.** -/
theorem meets_eq_lookalike {row : Row} (hfits : row.Fits t.columns)
    (hi : columnIndex? t.columns condition.column = some i) (hc : t.columns[i]? = some c)
    (he : c.type.coerce c.name condition.value = .error e) :
    t.meets condition row = c.type.lookalike (row.cell i) condition.value := by
  have hcompared : c.compared condition.value = condition.value := by
    unfold ColumnDef.compared
    rw [he]
  rw [meets_of_column hi hc, hcompared]
  exact ColumnType.equals_refused (ColumnType.refuses_of_coerce he) (hfits.stores i c hc)

/-- A condition of a filter is one of the tests that a row has to pass. -/
theorem matching_insert (row : Row) : t.matching (before ++ condition :: after) row =
    (t.meets condition row && t.matching (before ++ after) row) := by
  unfold matching
  rw [List.all_append, List.all_cons, List.all_append, Bool.and_left_comm]

/-- **A refused literal finds what looks like it.** A value that a column stores is equal to a literal that
the column refuses just where it is a lookalike of the literal. So a condition with such a literal, in a
filter on a table that was reached, picks out the rows that have a lookalike in its column and match the
other conditions. -/
theorem refused_literal_finds_lookalikes {type : ColumnType} {column : String} {literal : Value}
    (he : type.coerce column literal = .error e) :
    (∀ given stored, type.coerce column given = .ok stored →
      stored.equals literal = type.lookalike stored literal) ∧
    ∀ t : Table, t.Reachable → ∀ (name : String) (i : Nat), columnIndex? t.columns name = some i →
      t.columns[i]? = some ⟨column, type⟩ → ∀ before after : List Condition,
        t.Knows (before ++ ⟨name, literal⟩ :: after) →
          t.Picks (before ++ ⟨name, literal⟩ :: after) fun row =>
            type.lookalike (row.cell i) literal && t.matching (before ++ after) row := by
  constructor
  · intro given stored hstored
    exact ColumnType.equals_refused (ColumnType.refuses_of_coerce he)
      (type.yields_coerce column given stored hstored)
  · intro t hreached name i hi hc before after hknows
    have hi : columnIndex? t.columns (Condition.mk name literal).column = some i := hi
    apply picks hknows
    intro row hrow
    have hmeets : t.meets ⟨name, literal⟩ row = type.lookalike (row.cell i) literal :=
      meets_eq_lookalike (hreached.invariant.fits row hrow) hi hc he
    rw [matching_insert, hmeets]

/-- A column of integers refuses `1.0`, and a removal of the rows with this text in it takes away the row with
the integer, where the other condition is met as well. -/
theorem refused_text_finds_integer :
    let t : Table :=
      { columns := [⟨"id", .int⟩, ⟨"name", .text⟩]
        rows := [[.int 1, .text "a"], [.int 2, .text "a"], [.null, .text "a"], [.int 1, .text "b"]] }
    let filter : List Condition := [⟨"name", .text "a"⟩, ⟨"ID", .text "1.0"⟩]
    t.Reachable ∧ t.Picks filter (fun row =>
        ColumnType.int.lookalike (row.cell 0) (.text "1.0") && t.matching [⟨"name", .text "a"⟩] row) ∧
      (InPlace.delete filter).exec t = (.ok 1, { t with rows := t.rows.tail }) := by
  intro t filter
  have hcreate : Table.create t.columns [] = .ok { t with rows := [] } := rfl
  have hnew : Reachable { t with rows := [] } := .create hcreate
  have hreached : t.Reachable := hnew.insert none t.rows
  have hknows : t.Knows filter := by
    intro condition hmem
    rcases List.mem_cons.mp hmem with rfl | hmem
    · exact ⟨1, by decide⟩
    · obtain rfl := List.mem_singleton.mp hmem
      exact ⟨0, by decide⟩
  have he : ColumnType.int.coerce "id" (.text "1.0") = .error (.badValue .int (.text "1.0") "id") := by
    decide +kernel
  have hpicks := (refused_literal_finds_lookalikes he).2 t hreached "ID" 0 (by decide) rfl
    [⟨"name", .text "a"⟩] [] hknows
  exact ⟨hreached, hpicks, hpicks.deletes.trans (by decide +kernel)⟩

/-- Three types with a literal that is refused and a stored value that is equal to it: an integer and the
same number with a point, a truth value and its digit, and three characters that spell a longer number. -/
theorem refused_literal_matches :
    (ColumnType.int.coerce "a" (.text "1.0") = .error (.badValue .int (.text "1.0") "a") ∧
      ColumnType.int.coerce "a" (.int 1) = .ok (.int 1) ∧
      (Value.int 1).equals (.text "1.0") = true) ∧
    (ColumnType.boolean.coerce "a" (.text "1") = .error (.badValue .boolean (.text "1") "a") ∧
      ColumnType.boolean.coerce "a" (.bool true) = .ok (.bool true) ∧
      (Value.bool true).equals (.text "1") = true) ∧
    (ColumnType.varChar 3).coerce "a" (.int 100000) = .error (.tooLong "a") ∧
      (ColumnType.varChar 3).coerce "a" (.text "1e5") = .ok (.text "1e5") ∧
      (Value.text "1e5").equals (.int 100000) = true := by
  decide +kernel

end Table

end WireSql
