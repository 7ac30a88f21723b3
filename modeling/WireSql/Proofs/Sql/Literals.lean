import WireSql.Proofs.Snapshot.Reading
import WireSql.Proofs.Sql.Splitting
import WireSql.Sql.Parser

/-!
# `WireSql.Proofs.Sql.Literals`: names and literals are read as they were printed

A name is read back from its text between backticks (`identifier_identifier`) and a table's name from the
names that make it up (`tableRef_tableRef`). A value that is no float is read back from its literal
(`literal_value`): an integer from its digits, a text from between its marks, where each mark and each
backslash stands twice. The scan that cuts lists passes through both.
-/

namespace WireSql.Sql

open Text

variable {α β ε : Type}

/-! ## Characters -/

/-- What holds of the first 128 characters, each tried, holds of every character below 128. -/
theorem forall_ascii {p : Char → Prop} (h : ∀ n : Fin 128, p (Char.ofNat n)) {c : Char}
    (hc : c.toNat < 128) : p c := by
  have hp := h ⟨c.toNat, hc⟩
  rwa [Char.ofNat_toNat] at hp

theorem toNat_lt_of_isUpper {c : Char} (h : c.isUpper = true) : c.toNat < 128 := by
  have hrange : 'A'.val ≤ c.val ∧ c.val ≤ 'Z'.val := of_decide_eq_true h
  exact Nat.lt_of_le_of_lt (UInt32.le_iff_toNat_le.1 hrange.2) (by decide)

theorem toNat_lt_of_isAlphanum {c : Char} (h : c.isAlphanum = true) : c.toNat < 128 := by
  have hbelow {z : Char} {b : Bool} (hz : z.toNat < 128)
      (h : (b && decide (c.val ≤ z.val)) = true) : c.toNat < 128 := by
    have hle : c.val ≤ z.val := of_decide_eq_true (Bool.and_eq_true_iff.1 h).2
    exact Nat.lt_of_le_of_lt (UInt32.le_iff_toNat_le.1 hle) hz
  have hkinds : ((c.isUpper || c.isLower) || c.isDigit) = true := h
  rw [Bool.or_eq_true, Bool.or_eq_true] at hkinds
  rcases hkinds with (hupper | hlower) | hdigit
  · exact toNat_lt_of_isUpper hupper
  · exact hbelow (z := 'z') (by decide) hlower
  · exact hbelow (z := '9') (by decide) hdigit

theorem toNat_lt_of_inColumnName {c : Char} (h : inColumnName c = true) : c.toNat < 128 := by
  rw [inColumnName, Bool.or_eq_true, Bool.or_eq_true, beq_iff_eq, beq_iff_eq] at h
  rcases h with (h | rfl) | rfl
  · exact toNat_lt_of_isAlphanum h
  · decide
  · decide

theorem ne_of_inColumnName {c d : Char} (hd : inColumnName d = false) (h : inColumnName c = true) :
    c ≠ d := by
  rintro rfl
  rw [h] at hd
  cases hd

theorem isBlank_of_inColumnName {c : Char} (h : inColumnName c = true) : isBlank c = false :=
  forall_ascii (p := fun c => inColumnName c = true → isBlank c = false) (by decide)
    (toNat_lt_of_inColumnName h) h

/-! ## Names -/

/-- **A name that can stand between backticks**: letters, digits, `_` and `$`, and at least one. -/
def IsName (name : String) : Prop := name ≠ "" ∧ ∀ c ∈ name.toList, inColumnName c = true

instance (name : String) : Decidable (IsName name) :=
  inferInstanceAs (Decidable (name ≠ "" ∧ ∀ c ∈ name.toList, inColumnName c = true))

/-- The table has such a name, and its database too where that is given. -/
def IsNamed (t : TableRef) : Prop := (∀ database ∈ t.database, IsName database) ∧ IsName t.name

instance (t : TableRef) : Decidable (IsNamed t) :=
  inferInstanceAs (Decidable ((∀ database ∈ t.database, IsName database) ∧ IsName t.name))

variable {name column : String}

/-- What holds of the mark and of the characters of names holds of a printed name. -/
theorem forall_mem_identifier {p : Char → Prop} (h : IsName name) (hmark : p backtick)
    (hp : ∀ c, inColumnName c = true → p c) : ∀ c ∈ Print.identifier name, p c := by
  intro c hc
  rw [Print.identifier, List.mem_cons, List.mem_append, List.mem_singleton] at hc
  rcases hc with rfl | hc | rfl
  · exact hmark
  · exact hp c (h.2 c hc)
  · exact hmark

theorem forall_mem_tableRef {p : Char → Prop} {t : TableRef} (h : IsNamed t) (hmark : p backtick)
    (hpoint : p '.') (hp : ∀ c, inColumnName c = true → p c) : ∀ c ∈ Print.tableRef t, p c := by
  obtain ⟨database, table⟩ := t
  have htable := forall_mem_identifier h.2 hmark hp
  cases database with
  | none => exact htable
  | some database =>
    intro c hc
    rcases List.mem_append.1 hc with hc | hc
    · exact forall_mem_identifier (h.1 database rfl) hmark hp c hc
    · rcases List.mem_cons.1 hc with rfl | hc
      · exact hpoint
      · exact htable c hc

theorem not_mem_identifier {d : Char} (h : IsName name) (hmark : backtick ≠ d)
    (hd : inColumnName d = false) : d ∉ Print.identifier name := fun hmem =>
  forall_mem_identifier (p := (· ≠ d)) h hmark (fun _ => ne_of_inColumnName hd) d hmem rfl

theorem isBlank_of_mem_identifier (h : IsName name) : ∀ c ∈ Print.identifier name, isBlank c = false :=
  forall_mem_identifier h (by decide) fun _ => isBlank_of_inColumnName

theorem isBlank_of_mem_tableRef {t : TableRef} (h : IsNamed t) :
    ∀ c ∈ Print.tableRef t, isBlank c = false :=
  forall_mem_tableRef h (by decide) (by decide) fun _ => isBlank_of_inColumnName

@[simp] theorem identifier_cons_blank (s : List Char) : identifier (' ' :: s) = identifier s := by
  rw [identifier, identifier, trim_cons_of_blank (by decide)]

theorem identifier_concat_blank (s : List Char) : identifier (s ++ [' ']) = identifier s := by
  rw [identifier, identifier, trim_concat_of_blank (by decide)]

/-- **A name is read as it was printed.** -/
theorem identifier_identifier (h : IsName name) : identifier (Print.identifier name) = name := by
  have hmarks : ∀ c ∈ name.toList, (c == backtick) = false := fun c hc =>
    beq_false_of_ne (ne_of_inColumnName (by decide) (h.2 c hc))
  rw [identifier, trim_of_forall (isBlank_of_mem_identifier h), Print.identifier,
    dropAroundWhile_between (by decide) (by decide) hmarks, String.ofList_toList]

/-- **A table's name is read as it was printed.** -/
theorem tableRef_tableRef {t : TableRef} (h : IsNamed t) : tableRef (Print.tableRef t) = t := by
  obtain ⟨database, table⟩ := t
  have hpoint {name : String} (hname : IsName name) : '.' ∉ Print.identifier name :=
    not_mem_identifier hname (by decide) (by decide)
  cases database with
  | none =>
    rw [Print.tableRef, tableRef, splitAtFirst?_eq_none (hpoint h.2), identifier_identifier h.2]
  | some database =>
    have hdatabase : IsName database := h.1 database rfl
    have hsplit := splitAtFirst?_append (hpoint hdatabase) (Print.identifier table)
    simp [Print.tableRef, tableRef, hsplit, identifier_identifier hdatabase,
      identifier_identifier h.2]

theorem passes_name {separator : Separator} {depth : Nat} (h : IsName name) :
    Passes separator (.within depth) (Print.identifier name) (.within depth) :=
  passes_identifier fun hc => ne_of_inColumnName (by decide) (h.2 _ hc) rfl

/-- Names that are printed as a list are read from its parts. -/
theorem map_identifier_splitTopLevel {names : List String} (hne : names ≠ [])
    (h : ∀ name ∈ names, IsName name) :
    (splitTopLevel .comma (Print.list (names.map Print.identifier))).map identifier = names := by
  have hpasses : ∀ p ∈ names.map Print.identifier, Passes .comma (.within 0) p (.within 0) := by
    simpa using fun name hname => passes_name (h name hname)
  have hread : (names.map Print.identifier).map identifier = names := by
    rw [List.map_map]
    exact (List.map_congr_left fun name hname => identifier_identifier (h name hname)).trans
      (List.map_id names)
  rw [splitTopLevel_list (by simpa using hne) hpasses, map_spaced identifier_cons_blank, hread]

/-! ## Literals -/

variable {v : Value}

/-- May the printed literal of a value that is no float begin with the character? -/
def beginsLiteral (c : Char) : Bool :=
  c == apostrophe || c == 'N' || c == 'T' || c == 'F' || c == '-' || c.isDigit

theorem toNat_lt_of_beginsLiteral {c : Char} (h : beginsLiteral c = true) : c.toNat < 128 := by
  simp only [beginsLiteral, Char.isDigit, Bool.or_eq_true, Bool.and_eq_true, decide_eq_true_eq,
    beq_iff_eq, UInt32.le_iff_toNat_le] at h
  rcases h with ((((rfl | rfl) | rfl) | rfl) | rfl) | h
  · decide
  · decide
  · decide
  · decide
  · decide
  · exact Nat.lt_of_le_of_lt h.2 (by decide)

/-- A printed literal begins with one of those characters. -/
theorem exists_value_eq_cons (h : v.isDouble = false) :
    ∃ c r, Print.value v = c :: r ∧ beginsLiteral c = true := by
  have hdigits (n : Nat) : ∃ c r, Decimal.digits n = c :: r ∧ c.isDigit = true := by
    obtain ⟨c, r, hcr⟩ := List.exists_cons_of_ne_nil (Decimal.digits_ne_nil n)
    exact ⟨c, r, hcr, Decimal.isDigit_of_mem_digits (hcr ▸ List.mem_cons_self)⟩
  cases v with
  | null => exact ⟨'N', _, rfl, by decide⟩
  | bool b =>
    cases b with
    | true => exact ⟨'T', _, rfl, by decide⟩
    | false => exact ⟨'F', _, rfl, by decide⟩
  | int i =>
    rw [Print.value]
    cases i.toInt with
    | ofNat n =>
      obtain ⟨c, r, hcr, hc⟩ := hdigits n
      exact ⟨c, r, by rw [Decimal.toList_repr_ofNat, hcr], by simp [beginsLiteral, hc]⟩
    | negSucc n => exact ⟨'-', _, Decimal.toList_repr_negSucc n, by decide⟩
  | double x => cases h
  | text s => exact ⟨apostrophe, _, rfl, by decide⟩

theorem isDigit_of_mem_repr {i : Int} {c : Char} (h : c ∈ i.repr.toList) :
    (c == '-' || c.isDigit) = true := by
  cases i with
  | ofNat n =>
    rw [Decimal.toList_repr_ofNat] at h
    simp [Decimal.isDigit_of_mem_digits h]
  | negSucc n =>
    rw [Decimal.toList_repr_negSucc, List.mem_cons] at h
    rcases h with rfl | h
    · rfl
    · simp [Decimal.isDigit_of_mem_digits h]

theorem beginsLiteral_of_number {c : Char} (h : (c == '-' || c.isDigit) = true) :
    beginsLiteral c = true := by
  simp only [Bool.or_eq_true] at h
  rcases h with h | h <;> simp [beginsLiteral, h]

theorem isBlank_of_beginsLiteral {c : Char} (h : beginsLiteral c = true) : isBlank c = false :=
  forall_ascii (p := fun c => beginsLiteral c = true → isBlank c = false) (by decide)
    (toNat_lt_of_beginsLiteral h) h

theorem isBlank_of_isDigit {c : Char} (h : c.isDigit = true) : isBlank c = false := by
  refine isBlank_of_beginsLiteral (beginsLiteral_of_number ?_)
  rw [h, Bool.or_true]

theorem trim_value (h : v.isDouble = false) : trim (Print.value v) = Print.value v := by
  cases v with
  | null => decide
  | bool b => cases b <;> decide
  | int i =>
    exact trim_of_forall fun c hc =>
      isBlank_of_beginsLiteral (beginsLiteral_of_number (isDigit_of_mem_repr hc))
  | double x => cases h
  | text s => exact trim_between (by decide) (by decide) _

@[simp] theorem literal_cons_blank (s : List Char) : literal (' ' :: s) = literal s := by
  rw [literal, literal, trim_cons_of_blank (by decide)]

/-- A text whose first letter begins none of the words for values is none of them. -/
theorem ne_word_of_head {c : Char} (hc : ∀ d ∈ ['N', 'T', 'F'], c.toUpper ≠ d) (r : List Char) :
    ∀ word ∈ ["NULL", "TRUE", "FALSE"], ¬((c :: r).map Char.toUpper == word.toList) = true := by
  have hword {d : Char} (hd : d ∈ ['N', 'T', 'F']) (word : List Char) :
      ¬((c :: r).map Char.toUpper == d :: word) = true := by
    simpa using fun h => absurd h (hc d hd)
  intro word h
  simp only [List.mem_cons, List.not_mem_nil, or_false] at h
  rcases h with rfl | rfl | rfl
  · exact hword (d := 'N') (by decide) "ULL".toList
  · exact hword (d := 'T') (by decide) "RUE".toList
  · exact hword (d := 'F') (by decide) "ALSE".toList

variable {s body : List Char}

theorem literal_of_between? (htrim : trim s = s)
    (hword : ∀ word ∈ ["NULL", "TRUE", "FALSE"], ¬(s.map Char.toUpper == word.toList) = true)
    (h : between? apostrophe s = some body) :
    literal s = .ok (.text (String.ofList (unescape apostrophe body))) := by
  rw [literal, htrim, if_neg (hword _ (by decide)), if_neg (hword _ (by decide)),
    if_neg (hword _ (by decide)), h]

theorem literal_of_int64? {i : Int64} (htrim : trim s = s)
    (hword : ∀ word ∈ ["NULL", "TRUE", "FALSE"], ¬(s.map Char.toUpper == word.toList) = true)
    (hapostrophe : between? apostrophe s = none) (hquotation : between? quotationMark s = none)
    (h : Decimal.int64? s = some i) : literal s = .ok (.int i) := by
  rw [literal, htrim, if_neg (hword _ (by decide)), if_neg (hword _ (by decide)),
    if_neg (hword _ (by decide)), hapostrophe, hquotation, h]

theorem between?_eq_none {mark c : Char} (h : c ≠ mark) (r : List Char) :
    between? mark (c :: r) = none := by
  simp [between?, h]

theorem between?_between (mark : Char) (s : List Char) :
    between? mark (mark :: (s ++ [mark])) = some s := by
  simp [between?]

/-- The characters of numbers open no quotes and no parentheses, separate nothing and begin no word. -/
theorem plain_of_number {c : Char} (h : (c == '-' || c.isDigit) = true) :
    (∀ d ∈ ['N', 'T', 'F'], c.toUpper ≠ d) ∧ isQuote c = false ∧ c ≠ '(' ∧ c ≠ ')' ∧
      Separator.comma.mayBegin c = false ∧ Separator.conjunction.mayBegin c = false :=
  forall_ascii
    (p := fun c => (c == '-' || c.isDigit) = true →
      (∀ d ∈ ['N', 'T', 'F'], c.toUpper ≠ d) ∧ isQuote c = false ∧ c ≠ '(' ∧ c ≠ ')' ∧
        Separator.comma.mayBegin c = false ∧ Separator.conjunction.mayBegin c = false)
    (by decide) (toNat_lt_of_beginsLiteral (beginsLiteral_of_number h)) h

theorem ne_of_not_isQuote {c mark : Char} (hmark : isQuote mark = true) (h : isQuote c = false) :
    c ≠ mark := by
  rintro rfl
  rw [hmark] at h
  cases h

/-- **A value that is no float is read from its literal as it was.** -/
theorem literal_value (h : v.isDouble = false) : literal (Print.value v) = .ok v := by
  have htrim := trim_value h
  cases v with
  | null => decide
  | bool b => cases b <;> decide
  | int i =>
    have hread : Decimal.int64? (Print.value (.int i)) = some i := Decimal.int64?_repr i
    obtain ⟨c, r, hcr, -⟩ := exists_value_eq_cons h
    have hc : c ∈ Print.value (.int i) := hcr ▸ List.mem_cons_self
    obtain ⟨hword, hquote, -⟩ := plain_of_number (isDigit_of_mem_repr hc)
    rw [hcr] at htrim hread ⊢
    exact literal_of_int64? htrim (ne_word_of_head hword r)
      (between?_eq_none (ne_of_not_isQuote (by decide) hquote) r)
      (between?_eq_none (ne_of_not_isQuote (by decide) hquote) r) hread
  | double x => cases h
  | text s =>
    have hbody : between? apostrophe (Print.value (.text s)) = some (Print.escape s.toList) :=
      between?_between apostrophe _
    rw [literal_of_between? htrim (ne_word_of_head (by decide) _) hbody, Print.unescape_escape,
      String.ofList_toList]

theorem passes_value {separator : Separator} {depth : Nat} (h : v.isDouble = false) :
    Passes separator (.within depth) (Print.value v) (.within depth) := by
  cases v with
  | text s => exact passes_quoted s.toList
  | double x => cases h
  | null => cases separator <;> exact passes_of_forall (by decide)
  | bool b => cases b <;> cases separator <;> exact passes_of_forall (by decide)
  | int i =>
    refine passes_of_forall fun c hc => ?_
    obtain ⟨-, hquote, hopen, hclose, hcomma, hconjunction⟩ := plain_of_number (isDigit_of_mem_repr hc)
    cases separator with
    | comma => exact ⟨hcomma, hquote, hopen, hclose⟩
    | conjunction => exact ⟨hconjunction, hquote, hopen, hclose⟩

end WireSql.Sql
