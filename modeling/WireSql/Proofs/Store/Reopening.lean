import Mathlib.Data.List.Forall2
import WireSql.Proofs.Snapshot.Reading

/-!
# `WireSql.Proofs.Store.Reopening`: what a store finds in its file

A store that keeps its snapshot in a file has written it anew after every change, so that the file is
always the snapshot of the catalog, or is not there yet and the catalog is empty (`Saved`, kept by every
request: `saved_after`). A store that opens the same file finds what the snapshot comes back as.

That is the same catalog just where every float in it comes back as an equal one: `reopen_same_iff`. A
store without floats comes back as it was (`reopen_of_noDouble`). Floats are what fails: an infinity
has no number, and a store that holds one leaves a file that cannot be opened (`reopen_infinity_fails`). A
finite float has a number that is read with a rounding error, and may come back as its neighbour
(`reopen_finite_differs`).
-/

namespace WireSql

variable {α β : Type}

/-! ## Floats that come back -/

/-- Does a float come back from its number as an equal one? -/
def floatComesBack (x : Float) : Bool := (Json.asFloat? (Json.ofFloat x)).any (x == ·)

/-- **Every float in the table comes back** from its number as an equal one. -/
def Table.FloatsComeBack (t : Table) : Prop :=
  ∀ row ∈ t.rows, ∀ v ∈ row, ∀ x, v = .double x → floatComesBack x = true

theorem Value.exists_reread?_same_iff {v : Value} :
    (∃ w, v.reread? = some w ∧ v.same w = true) ↔ ∀ x, v = .double x → floatComesBack x = true := by
  cases v with
  | double x =>
    simp only [Value.double.injEq, forall_eq', floatComesBack, reread?]
    generalize Json.asFloat? (Json.ofFloat x) = y
    cases y <;> simp [same]
  | _ => simp [reread?, same]

/-! ## Lists and maps of things that come back -/

theorem mapM_cons_eq_some {f : α → Option β} {a : α} {l : List α} {m : List β}
    (h : (a :: l).mapM f = some m) : ∃ b bs, f a = some b ∧ l.mapM f = some bs ∧ m = b :: bs := by
  rw [List.mapM_cons] at h
  obtain ⟨b, hb, h⟩ := Option.bind_eq_some_iff.1 h
  obtain ⟨bs, hbs, h⟩ := Option.bind_eq_some_iff.1 h
  exact ⟨b, bs, hb, hbs, (Option.some.inj h).symm⟩

/-- Something comes back for a list just where something does for every element. -/
theorem exists_mapM_iff {f : α → Option β} {R : α → β → Prop} {l : List α} :
    (∃ m, l.mapM f = some m ∧ List.Forall₂ R l m) ↔ ∀ a ∈ l, ∃ b, f a = some b ∧ R a b := by
  induction l with
  | nil => simp
  | cons a l ih =>
    rw [List.forall_mem_cons, ← ih]
    constructor
    · rintro ⟨m, hm, hR⟩
      obtain ⟨b, bs, hb, hbs, rfl⟩ := mapM_cons_eq_some hm
      obtain ⟨hab, hR⟩ := List.forall₂_cons.1 hR
      exact ⟨⟨b, hb, hab⟩, bs, hbs, hR⟩
    · rintro ⟨⟨b, hb, hab⟩, m, hm, hR⟩
      exact ⟨b :: m, by rw [List.mapM_cons, hb, hm]; rfl, .cons hab hR⟩

theorem forall₂_iff_zipWith {p : α → β → Bool} {l : List α} {m : List β} :
    List.Forall₂ (fun a b => p a b = true) l m ↔
      l.length = m.length ∧ (List.zipWith p l m).all id = true := by
  induction l generalizing m with
  | nil => cases m <;> simp
  | cons a l ih =>
    cases m with
    | nil => simp
    | cons b m =>
      rw [List.forall₂_cons, ih]
      simp [and_left_comm]

theorem Row.same_iff {a b : Row} :
    a.same b = true ↔ List.Forall₂ (fun v w => Value.same v w = true) a b := by
  rw [forall₂_iff_zipWith, Row.same, Bool.and_eq_true, beq_iff_eq]

theorem sameEntries_iff {same : α → α → Bool} {a b : NameMap α} :
    Catalog.sameEntries same a b = true ↔
      List.Forall₂ (fun x y => x.1 = y.1 ∧ same x.2 y.2 = true) a.entries b.entries := by
  have hnames : (a.names == b.names) = true ↔
      List.Forall₂ (fun x y => x.1 = y.1) a.entries b.entries := by
    rw [beq_iff_eq, NameMap.names, NameMap.names, ← List.forall₂_eq_eq_eq, List.forall₂_map_left_iff,
      List.forall₂_map_right_iff]
  rw [Catalog.sameEntries, Bool.and_eq_true, hnames]
  constructor
  · rintro ⟨hnames, hsame⟩
    have hsame := forall₂_iff_zipWith.2 ⟨hnames.length_eq, hsame⟩
    exact List.Forall₂.mp (fun _ _ => And.intro) hnames hsame
  · intro h
    have hsame := h.imp fun _ _ => And.right
    exact ⟨h.imp fun _ _ => And.left, (forall₂_iff_zipWith.1 hsame).2⟩

theorem names_of_mapM {f : α → Option β} {l : List (String × α)} {m : List (String × β)}
    (h : (l.mapM fun e => (f e.2).map (e.1, ·)) = some m) : m.map Prod.fst = l.map Prod.fst := by
  induction l generalizing m with
  | nil =>
    obtain rfl := Option.some.inj h
    rfl
  | cons e l ih =>
    obtain ⟨b, bs, hb, hbs, rfl⟩ := mapM_cons_eq_some h
    obtain ⟨c, -, rfl⟩ := Option.map_eq_some_iff.1 hb
    rw [List.map_cons, List.map_cons, ih hbs]

/-- What comes back for the entries of a map are the entries of a map. -/
theorem NameMap.entries_of_mapM {f : α → Option β} {m : NameMap α} {entries : List (String × β)}
    (h : (m.entries.mapM fun e => (f e.2).map (e.1, ·)) = some entries) :
    (ofEntries entries).entries = entries := by
  refine entries_ofEntries (List.pairwise_map.1 ?_)
  rw [names_of_mapM h]
  exact List.pairwise_map.2 m.ascending

/-- The same thing comes back for a map just where it does for every entry. -/
theorem NameMap.exists_mapM?_same_iff {f : α → Option α} {same : α → α → Bool} {m : NameMap α} :
    (∃ m', m.mapM? f = some m' ∧ Catalog.sameEntries same m m' = true) ↔
      ∀ e ∈ m.entries, ∃ a, f e.2 = some a ∧ same e.2 a = true := by
  have hentries : (∃ m', m.mapM? f = some m' ∧ Catalog.sameEntries same m m' = true) ↔
      ∃ entries, (m.entries.mapM fun e => (f e.2).map (e.1, ·)) = some entries ∧
        List.Forall₂ (fun x y => x.1 = y.1 ∧ same x.2 y.2 = true) m.entries entries := by
    constructor
    · rintro ⟨m', hread, hsame⟩
      obtain ⟨entries, hm, rfl⟩ := Option.map_eq_some_iff.1 hread
      rw [sameEntries_iff, entries_of_mapM hm] at hsame
      exact ⟨entries, hm, hsame⟩
    · rintro ⟨entries, hm, hsame⟩
      refine ⟨.ofEntries entries, by rw [mapM?, hm, Option.map_some], ?_⟩
      rw [sameEntries_iff, entries_of_mapM hm]
      exact hsame
  rw [hentries, exists_mapM_iff]
  simp [Option.map_eq_some_iff]

/-! ## Catalogs that come back -/

theorem Table.exists_reread?_same_iff {t : Table} :
    (∃ u, t.reread? = some u ∧ Catalog.sameTable t u = true) ↔ t.FloatsComeBack := by
  have hrows : (∃ u, t.reread? = some u ∧ Catalog.sameTable t u = true) ↔
      ∃ rows, (t.rows.mapM fun row : Row => row.mapM Value.reread?) = some rows ∧
        List.Forall₂ (fun a b => Row.same a b = true) t.rows rows := by
    simp only [reread?, Option.map_eq_some_iff, exists_exists_and_eq_and, forall₂_iff_zipWith,
      Catalog.sameTable, Bool.and_eq_true, beq_iff_eq, true_and, and_assoc]
  rw [hrows, exists_mapM_iff]
  simp only [Row.same_iff, exists_mapM_iff, Value.exists_reread?_same_iff]
  rfl

/-- **The same catalog comes back from a snapshot just where all floats in it do.** -/
theorem Catalog.exists_reread?_same_iff {c : Catalog} :
    (∃ d, c.reread? = some d ∧ c.same d = true) ↔ c.Holds Table.FloatsComeBack := by
  simp only [reread?, Database.reread?, Option.map_eq_some_iff, exists_exists_and_eq_and, same,
    NameMap.exists_mapM?_same_iff, Table.exists_reread?_same_iff]
  rfl

namespace Store

/-! ## The file -/

/-- What a new process finds: the store that opens the file of this one. -/
def reopen (s : Store) : Except Error Store := openFile (s.autosave.getD {})

/-- The file holds the snapshot of the catalog, or is not there yet and nothing else is. -/
def Saved (s : Store) : Prop :=
  s.autosave = some { text := some (Snapshot.text s.catalog) } ∨ s = { autosave := some {} }

/-- **A request keeps the file up to date**, whatever text it is and whether it succeeds or fails. -/
theorem saved_execute {s : Store} (h : s.Saved) (sql : String) (capabilities : UInt32)
    (database : Option String) : (Store.backend.execute s sql capabilities database).2.Saved := by
  have hruns : Yields (s.execute sql database) fun v => v.2.Saved := by
    refine yields_bind fun statement _ => yields_bind fun v hv => yields_pure ?_
    obtain ⟨result, catalog⟩ := v
    cases hmutation : statement.isMutation with
    | true =>
      -- the snapshot is written anew, whether there was one or not
      refine .inl ?_
      rcases h with h | rfl
      · simp [save, h]
      · rfl
    | false =>
      have hkept : catalog = s.catalog := InPlace.run_of_not_isMutation hmutation hv
      rw [hkept]
      exact h
  rw [backend_execute]
  cases hrun : s.execute sql database with
  | ok v => exact hruns v hrun
  | error e => exact h

theorem saved_after {s : Store} (h : s.Saved) (requests : List Request) : (s.after requests).Saved := by
  unfold after
  induction requests generalizing s with
  | nil => exact h
  | cons r requests ih =>
    rw [List.foldl_cons]
    exact ih (saved_execute h r.sql r.capabilities r.database)

/-- What a store with an up-to-date file finds in it. -/
theorem reopen_of_saved {s : Store} (h : s.Saved) :
    s.reopen = match s.catalog.reread? with
      | some catalog => .ok { catalog, autosave := s.autosave }
      | none => .error unreadable := by
  rcases h with h | rfl
  · simp only [reopen, h, Option.getD_some, openFile, load, Snapshot.read?_text]
    cases s.catalog.reread? <;> rfl
  · rfl

/-- **A run leaves a file from which the same catalog can be opened again just where every float that is
stored then comes back.** The run starts without a file and is asked to run any texts at all. -/
theorem reopen_same_iff (requests : List Request) :
    let s := Store.after { autosave := some {} } requests
    (∃ t, s.reopen = .ok t ∧ s.catalog.same t.catalog = true) ↔
      s.catalog.Holds Table.FloatsComeBack := by
  intro s
  have hsaved : s.Saved := saved_after (.inr rfl) requests
  rw [← Catalog.exists_reread?_same_iff, reopen_of_saved hsaved]
  cases s.catalog.reread? with
  | none => simp
  | some catalog => simp

/-- A store without floats finds itself in its file. -/
theorem reopen_of_noDouble (requests : List Request)
    (h : (Store.after { autosave := some {} } requests).catalog.Holds Table.NoDouble) :
    (Store.after { autosave := some {} } requests).reopen =
      .ok (Store.after { autosave := some {} } requests) := by
  rw [reopen_of_saved (saved_after (.inr rfl) requests), Catalog.reread?_of_noDouble h]

/-- An infinity is stored, and the file cannot be opened any more. -/
theorem reopen_infinity_fails :
    let requests : List Request := [
      { sql := "CREATE DATABASE d" },
      { sql := "CREATE TABLE d.t (x DOUBLE)" },
      { sql := "INSERT INTO d.t VALUES (inf)" }]
    let s := Store.after { autosave := some {} } requests
    s.reopen = .error unreadable := by
  intro requests s
  have hlost : s.catalog.reread? = none := by decide +kernel
  rw [reopen_of_saved (saved_after (.inr rfl) requests), hlost]

/-- A finite float is stored, and its neighbour is found in the file. -/
theorem reopen_finite_differs :
    let requests : List Request := [
      { sql := "CREATE DATABASE d" },
      { sql := "CREATE TABLE d.t (x DOUBLE)" },
      { sql := "INSERT INTO d.t VALUES (3.7416573867739413)" }]
    let s := Store.after { autosave := some {} } requests
    ∃ t, s.reopen = .ok t ∧ s.catalog.same t.catalog = false := by
  intro requests s
  have hdiffers : s.catalog.reread?.map (fun catalog => s.catalog.same catalog) = some false := by
    decide +kernel
  obtain ⟨catalog, hcatalog, hsame⟩ := Option.map_eq_some_iff.1 hdiffers
  refine ⟨{ catalog, autosave := s.autosave }, ?_, hsame⟩
  rw [reopen_of_saved (saved_after (.inr rfl) requests), hcatalog]

end Store

end WireSql
