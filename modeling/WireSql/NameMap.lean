/-!
# `WireSql.NameMap`: things found by name

A `NameMap` holds at most one thing under each name, with the names in ascending order of code
points. Names are told apart by every character, letter case included. The order is part of the
type, so two maps that answer every look-up alike are equal (`NameMap.ext_find?`).
-/

namespace WireSql

/-- Are names in strictly ascending order? -/
abbrev Ascending {α : Type} (entries : List (String × α)) : Prop :=
  entries.Pairwise fun a b => a.1 < b.1

/-- Things under names, in ascending order of names. -/
structure NameMap (α : Type) where
  entries : List (String × α)
  ascending : Ascending entries
deriving DecidableEq

namespace NameMap

variable {α β : Type}

theorem lt_of_not_lt {a b : String} (h : ¬a < b) (h' : a ≠ b) : b < a := by
  rcases Decidable.em (b < a) with hb | hb
  · exact hb
  · exact absurd (String.le_antisymm (String.not_lt.1 hb) (String.not_lt.1 h)) h'

/-- The map without entries. -/
def empty : NameMap α := ⟨[], .nil⟩

instance : Inhabited (NameMap α) := ⟨empty⟩

/-- Look a name up in a list of entries. -/
def lookup? (name : String) : List (String × α) → Option α
  | [] => none
  | (k, v) :: r => if k = name then some v else lookup? name r

/-- Put a thing under a name in a list of ascending entries. -/
def insertEntry (name : String) (v : α) : List (String × α) → List (String × α)
  | [] => [(name, v)]
  | (k, w) :: r =>
    if name < k then (name, v) :: (k, w) :: r
    else if name = k then (name, v) :: r
    else (k, w) :: insertEntry name v r

theorem mem_insertEntry {name : String} {v : α} {entries : List (String × α)} {e : String × α}
    (h : e ∈ insertEntry name v entries) : e = (name, v) ∨ e ∈ entries := by
  induction entries with
  | nil => simpa [insertEntry] using h
  | cons p r ih =>
    obtain ⟨k, w⟩ := p
    rw [insertEntry] at h
    split at h
    · simpa using h
    · split at h
      · rcases List.mem_cons.1 h with h | h
        · exact .inl h
        · exact .inr (List.mem_cons_of_mem _ h)
      · rcases List.mem_cons.1 h with h | h
        · exact .inr (h ▸ List.mem_cons_self)
        · exact (ih h).imp id (List.mem_cons_of_mem _)

theorem ascending_insertEntry (name : String) (v : α) {entries : List (String × α)}
    (h : Ascending entries) : Ascending (insertEntry name v entries) := by
  induction entries with
  | nil => simp [insertEntry]
  | cons p r ih =>
    obtain ⟨k, w⟩ := p
    obtain ⟨hk, hr⟩ := List.pairwise_cons.1 h
    rw [insertEntry]
    split
    · next hlt =>
      refine List.pairwise_cons.2 ⟨fun e he => ?_, h⟩
      rcases List.mem_cons.1 he with rfl | he
      · exact hlt
      · exact String.lt_trans hlt (hk e he)
    · next hlt =>
      split
      · next heq =>
        subst heq
        exact List.pairwise_cons.2 ⟨hk, hr⟩
      · next hne =>
        refine List.pairwise_cons.2 ⟨fun e he => ?_, ih hr⟩
        rcases mem_insertEntry he with rfl | he
        · exact lt_of_not_lt hlt hne
        · exact hk e he

/-- What stands under a name. -/
def find? (m : NameMap α) (name : String) : Option α := lookup? name m.entries

/-- Does anything stand under a name? -/
def contains (m : NameMap α) (name : String) : Bool := (m.find? name).isSome

/-- The map with a thing under a name, in place of what stood there. -/
def insert (m : NameMap α) (name : String) (v : α) : NameMap α :=
  ⟨insertEntry name v m.entries, ascending_insertEntry name v m.ascending⟩

/-- The map with nothing under a name. -/
def erase (m : NameMap α) (name : String) : NameMap α :=
  ⟨m.entries.filter (·.1 ≠ name), m.ascending.filter _⟩

/-- The names, in ascending order. -/
def names (m : NameMap α) : List String := m.entries.map Prod.fst

/-- The number of entries. -/
def size (m : NameMap α) : Nat := m.entries.length

/-- The map of a list of entries; a later entry replaces an earlier one of the same name. -/
def ofEntries (entries : List (String × α)) : NameMap α :=
  entries.foldl (fun m e => m.insert e.1 e.2) empty

/-! ## Look-up after each operation -/

@[simp] theorem find?_empty (name : String) : (empty : NameMap α).find? name = none := rfl

theorem lookup?_insertEntry (name other : String) (v : α) (entries : List (String × α)) :
    lookup? other (insertEntry name v entries) =
      if name = other then some v else lookup? other entries := by
  induction entries with
  | nil => simp [insertEntry, lookup?]
  | cons p r ih =>
    obtain ⟨k, w⟩ := p
    rw [insertEntry]
    split
    · simp [lookup?]
    · split
      · next hk =>
        subst hk
        by_cases h : name = other <;> simp [lookup?, h]
      · next hk =>
        by_cases h : k = other
        · subst h
          simp [lookup?, hk]
        · simp [lookup?, h, ih]

@[simp] theorem find?_insert (m : NameMap α) (name other : String) (v : α) :
    (m.insert name v).find? other = if name = other then some v else m.find? other :=
  lookup?_insertEntry ..

theorem lookup?_filter (name other : String) (entries : List (String × α)) :
    lookup? other (entries.filter (·.1 ≠ name)) =
      if name = other then none else lookup? other entries := by
  induction entries with
  | nil => simp [lookup?]
  | cons p r ih =>
    obtain ⟨k, w⟩ := p
    by_cases hk : k = name
    · subst hk
      by_cases h : k = other <;> simp_all [lookup?]
    · by_cases h : k = other
      · subst h
        simp [lookup?, hk, Ne.symm hk]
      · simp_all [lookup?]

@[simp] theorem find?_erase (m : NameMap α) (name other : String) :
    (m.erase name).find? other = if name = other then none else m.find? other :=
  lookup?_filter ..

theorem lookup?_eq_none {name : String} {entries : List (String × α)}
    (h : ∀ e ∈ entries, name < e.1) : lookup? name entries = none := by
  induction entries with
  | nil => rfl
  | cons p r ih =>
    obtain ⟨k, v⟩ := p
    have hk : k ≠ name := by
      rintro rfl
      exact String.lt_irrefl _ (h (k, v) List.mem_cons_self)
    simp [lookup?, hk, ih fun e he => h e (List.mem_cons_of_mem _ he)]

/-- Nothing stands under a name in front of the first one. -/
theorem lookup?_cons_of_lt {k l : String} {w : α} {s : List (String × α)} (hl : ∀ e ∈ s, l < e.1)
    (hlt : k < l) : lookup? k ((l, w) :: s) = none :=
  lookup?_eq_none (List.forall_mem_cons.2 ⟨hlt, fun e he => String.lt_trans hlt (hl e he)⟩)

/-- The first names of two lists are the same if the lists answer the look-up of both alike. -/
theorem first_eq_of_lookup? {k l : String} {v w : α} {r s : List (String × α)} (hk : ∀ e ∈ r, k < e.1)
    (hl : ∀ e ∈ s, l < e.1) (h : ∀ name, lookup? name ((k, v) :: r) = lookup? name ((l, w) :: s)) :
    k = l := by
  refine Decidable.byContradiction fun hne => ?_
  rcases Decidable.em (k < l) with hlt | hlt
  · have hsame := h k
    rw [lookup?_cons_of_lt hl hlt] at hsame
    simp [lookup?] at hsame
  · have hsame := h l
    rw [lookup?_cons_of_lt hk (lt_of_not_lt hlt hne)] at hsame
    simp [lookup?] at hsame

theorem entries_eq_of_lookup? {a b : List (String × α)} (ha : Ascending a) (hb : Ascending b)
    (h : ∀ name, lookup? name a = lookup? name b) : a = b := by
  induction a generalizing b with
  | nil =>
    cases b with
    | nil => rfl
    | cons p r => simpa [lookup?] using h p.1
  | cons p r ih =>
    obtain ⟨k, v⟩ := p
    cases b with
    | nil => simpa [lookup?] using h k
    | cons q s =>
      obtain ⟨l, w⟩ := q
      obtain ⟨hk, hr⟩ := List.pairwise_cons.1 ha
      obtain ⟨hl, hs⟩ := List.pairwise_cons.1 hb
      obtain rfl : k = l := first_eq_of_lookup? hk hl h
      obtain rfl : v = w := by simpa [lookup?] using h k
      refine congrArg _ (ih hr hs fun name => ?_)
      by_cases hn : k = name
      · subst hn
        rw [lookup?_eq_none hk, lookup?_eq_none hl]
      · simpa [lookup?, hn] using h name

/-- Maps that answer every look-up alike are equal. -/
theorem ext_find? {a b : NameMap α} (h : ∀ name, a.find? name = b.find? name) : a = b := by
  obtain ⟨a, ha⟩ := a
  obtain ⟨b, hb⟩ := b
  obtain rfl := entries_eq_of_lookup? ha hb h
  rfl

/-- Putting back what stands under a name changes nothing. -/
theorem insert_of_find? {m : NameMap α} {name : String} {v : α} (h : m.find? name = some v) :
    m.insert name v = m := by
  refine ext_find? fun other => ?_
  rw [find?_insert]
  split
  · next heq => rw [← heq, h]
  · rfl

/-- Removing what is not there changes nothing. -/
theorem erase_of_find? {m : NameMap α} {name : String} (h : m.find? name = none) :
    m.erase name = m := by
  refine ext_find? fun other => ?_
  rw [find?_erase]
  split
  · next heq => rw [← heq, h]
  · rfl

theorem mem_of_lookup? {name : String} {v : α} {entries : List (String × α)}
    (h : lookup? name entries = some v) : (name, v) ∈ entries := by
  induction entries with
  | nil => cases h
  | cons e r ih =>
    obtain ⟨k, w⟩ := e
    rw [lookup?] at h
    split at h
    · next hk =>
      subst hk
      obtain rfl := Option.some.inj h
      exact List.mem_cons_self
    · exact List.mem_cons_of_mem _ (ih h)

/-- What is found is an entry. -/
theorem mem_of_find? {m : NameMap α} {name : String} {v : α} (h : m.find? name = some v) :
    (name, v) ∈ m.entries := mem_of_lookup? h

/-- An entry is new or was there before. -/
theorem mem_insert {m : NameMap α} {name : String} {v : α} {e : String × α}
    (h : e ∈ (m.insert name v).entries) : e = (name, v) ∨ e ∈ m.entries := mem_insertEntry h

/-- What comes behind all names is put at the end. -/
theorem insertEntry_of_forall_lt {name : String} (v : α) {entries : List (String × α)}
    (h : ∀ e ∈ entries, e.1 < name) : insertEntry name v entries = entries ++ [(name, v)] := by
  induction entries with
  | nil => rfl
  | cons p r ih =>
    obtain ⟨k, w⟩ := p
    have hk : k < name := h (k, w) List.mem_cons_self
    have hne : name ≠ k := by
      rintro rfl
      exact String.lt_irrefl _ hk
    rw [insertEntry, if_neg (String.lt_asymm hk), if_neg hne, ih fun e he => h e (List.mem_cons_of_mem _ he),
      List.cons_append]

/-- The map of entries that ascend has just these entries. -/
theorem entries_ofEntries {entries : List (String × α)} (h : Ascending entries) :
    (ofEntries entries).entries = entries := by
  have hbehind : ∀ (l : List (String × α)) (m : NameMap α), Ascending (m.entries ++ l) →
      (l.foldl (fun m e => m.insert e.1 e.2) m).entries = m.entries ++ l := by
    intro l
    induction l with
    | nil => simp
    | cons e l ih =>
      intro m hm
      have hlast : (m.insert e.1 e.2).entries = m.entries ++ [e] :=
        insertEntry_of_forall_lt e.2 fun f hf => (List.pairwise_append.1 hm).2.2 f hf e List.mem_cons_self
      rw [List.foldl_cons, ih _ (by rwa [hlast, List.append_assoc]), hlast, List.append_assoc,
        List.singleton_append]
  exact hbehind entries empty h

@[simp] theorem ofEntries_entries (m : NameMap α) : ofEntries m.entries = m := by
  obtain ⟨entries, h⟩ := m
  have hentries := entries_ofEntries h
  generalize ofEntries entries = m at hentries
  subst hentries
  rfl

theorem mem_erase {m : NameMap α} {name : String} {e : String × α}
    (h : e ∈ (m.erase name).entries) : e ∈ m.entries := (List.mem_filter.mp h).1

end NameMap

end WireSql
