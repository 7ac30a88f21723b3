import WireSql.Proofs.Json.Documents
import WireSql.Proofs.Store.Tables

/-!
# `WireSql.Proofs.Snapshot.Reading`: what comes back from a snapshot

The document of a catalog can be printed and read (`printable_ofCatalog`), and the readers undo the
writers member by member, up to one kind of cell: a float comes back as what its number reads as, and
nothing comes back at all where that is no float. `Catalog.reread?` is the catalog that comes back, and
`read?_text` says that it does. A catalog without floats comes back as it was (`read?_text_of_noDouble`).
-/

namespace WireSql

variable {α β : Type}

/-! ## Lists and maps of things that may fail to come back -/

theorem mapM_eq_some_map {f : α → Option β} {g : α → β} {l : List α} (h : ∀ a ∈ l, f a = some (g a)) :
    l.mapM f = some (l.map g) := by
  induction l with
  | nil => rfl
  | cons a l ih =>
    rw [List.mapM_cons, h a List.mem_cons_self, ih fun b hb => h b (List.mem_cons_of_mem _ hb)]
    rfl

theorem mapM_eq_some_self {f : α → Option α} {l : List α} (h : ∀ a ∈ l, f a = some a) :
    l.mapM f = some l := by
  rw [mapM_eq_some_map h, List.map_id']

/-- The map of what `f` makes of each thing in a map. -/
def NameMap.mapM? (f : α → Option β) (m : NameMap α) : Option (NameMap β) :=
  (m.entries.mapM fun e => (f e.2).map (e.1, ·)).map .ofEntries

theorem NameMap.mapM?_eq_some_self {f : α → Option α} {m : NameMap α}
    (h : ∀ e ∈ m.entries, f e.2 = some e.2) : m.mapM? f = some m := by
  have hentries : (m.entries.mapM fun e => (f e.2).map (e.1, ·)) = some m.entries :=
    mapM_eq_some_self fun e he => by rw [h e he, Option.map_some]
  rw [mapM?, hentries, Option.map_some, ofEntries_entries]

/-! ## The catalog that comes back -/

/-- What a value comes back as: floats are read anew from their numbers. -/
def Value.reread? : Value → Option Value
  | .double x => (Json.asFloat? (Json.ofFloat x)).map .double
  | v => some v

/-- What a table comes back as. -/
def Table.reread? (t : Table) : Option Table :=
  (t.rows.mapM fun row : Row => row.mapM Value.reread?).map fun rows => { t with rows }

/-- What a database comes back as. -/
def Database.reread? (d : Database) : Option Database :=
  (d.tables.mapM? Table.reread?).map fun tables => { tables }

/-- **What a catalog comes back as** from its snapshot. -/
def Catalog.reread? (c : Catalog) : Option Catalog :=
  (c.databases.mapM? Database.reread?).map fun databases => { databases }

namespace Json

/-! ## Readers undo writers -/

/-- Of members with different names only one has a name. -/
theorem filter_name_eq {members : List (String × Json)} (h : (members.map Prod.fst).Nodup)
    {m : String × Json} (hm : m ∈ members) : members.filter (·.1 == m.1) = [m] := by
  induction members with
  | nil => cases hm
  | cons n members ih =>
    obtain ⟨hn, hrest⟩ := List.nodup_cons.1 h
    rcases List.mem_cons.1 hm with rfl | hm
    · have hnone : members.filter (·.1 == m.1) = [] := by
        refine List.filter_eq_nil_iff.2 fun e he heq => hn ?_
        rw [← eq_of_beq heq]
        exact List.mem_map_of_mem he
      rw [List.filter_cons, if_pos (beq_self_eq_true m.1), hnone]
    · have hne : ¬(n.1 == m.1) = true := by
        intro heq
        rw [eq_of_beq heq] at hn
        exact hn (List.mem_map_of_mem hm)
      rw [List.filter_cons, if_neg hne, ih hrest hm]

/-- **A record is read member by member.** -/
theorem asRecord?_record {members : List (String × Json)} {names : List String}
    (h : members.map Prod.fst = names) (hnames : names.Nodup) :
    asRecord? names (Snapshot.record members) = some (members.map fun m => some m.2) := by
  subst h
  have honly : ∀ m ∈ members,
      onlyMember? (members.map fun m => (some m.1, m.2)) m.1 = some (some m.2) := by
    intro m hm
    have hname : (fun e : Option String × Json => e.1 == some m.1) ∘ (fun e => (some e.1, e.2)) =
        fun e : String × Json => e.1 == m.1 := by
      funext e
      simp
    unfold onlyMember?
    rw [List.filter_map, hname, filter_name_eq hnames hm]
    rfl
  have hwhole : (members.map fun m => (some m.1, m.2)).all (·.1.isSome) = true := by simp
  unfold asRecord? Snapshot.record
  dsimp only
  rw [if_pos hwhole, List.mapM_map]
  exact mapM_eq_some_map honly

theorem integer?_ofInt (i : Int) :
    Number.integer? { negative := i < 0, whole := Decimal.digits i.natAbs } = some i := by
  have hdigits : Nat.ofDigitChars 10 (Decimal.digits i.natAbs) 0 = i.natAbs :=
    Nat.ofDigitChars_toDigits (by decide) (by decide)
  simp only [Number.integer?, hdigits]
  rcases Int.lt_or_le i 0 with hi | hi
  · have hne : (i.natAbs == 0) = false := beq_false_of_ne (Int.natAbs_ne_zero.2 hi.ne)
    rw [if_pos (decide_eq_true hi), hne]
    exact congrArg some (by omega)
  · rw [if_neg (by simpa using hi)]
    exact congrArg some (Int.natAbs_of_nonneg hi)

@[simp] theorem asInt64?_ofInt (i : Int64) : asInt64? (ofInt i.toInt) = some i := by
  rw [ofInt, asInt64?, integer?_ofInt, Option.bind_some, Decimal.toInt64?_toInt]

theorem asNat?_ofNat {width n : Nat} (h : n < 2 ^ width) : asNat? width (ofNat n) = some n := by
  rw [ofNat, ofInt, asNat?, integer?_ofInt]
  exact if_pos h

theorem asList?_array (read : Json → Option α) (write : β → Json) (l : List β) :
    asList? read (array (l.map write)) = l.mapM fun a => read (write a) :=
  List.mapM_map

theorem asMap?_ofMap (read : Json → Option α) (write : β → Json) (m : NameMap β) :
    asMap? read (Snapshot.ofMap write m) = m.mapM? fun a => read (write a) := by
  unfold Snapshot.ofMap Snapshot.record asMap? NameMap.mapM?
  dsimp only
  rw [List.map_map, List.mapM_map]
  have hentry : ((fun m : Option String × Json => (do return (← m.1, ← read m.2) : Option (String × α))) ∘
        ((fun m => (some m.1, m.2)) ∘ fun e : String × β => (e.1, write e.2))) =
      fun e => (read (write e.2)).map (e.1, ·) := by
    funext e
    show (do return (e.1, ← read (write e.2)) : Option (String × α)) = _
    cases read (write e.2) <;> rfl
  rw [hentry]
  cases m.entries.mapM fun e => (read (write e.2)).map (e.1, ·) <;> rfl

end Json

namespace Snapshot

open Json

theorem columnType?_ofColumnType (t : ColumnType) : columnType? (ofColumnType t) = some t := by
  cases t with
  | varChar limit =>
    have hlimit : asNat? 32 (ofNat limit.toNat) = some limit.toNat := asNat?_ofNat limit.toNat_lt
    simp [columnType?, ofColumnType, choice, record, asChoice?, hlimit]
  | _ => rfl

theorem value?_ofValue (v : Value) : value? (ofValue v) = v.reread? := by
  cases v with
  | null => rfl
  | bool b => rfl
  | int i => simp [value?, ofValue, choice, record, asChoice?, Value.reread?]
  | double x => rfl
  | text s => rfl

theorem columnDef?_ofColumnDef (c : ColumnDef) : columnDef? (ofColumnDef c) = some c := by
  have hrecord : asRecord? ["name", "column_type"] (ofColumnDef c) =
      some [some (ofString c.name), some (ofColumnType c.type)] :=
    asRecord?_record rfl (by decide)
  unfold columnDef?
  rw [hrecord]
  simp [required?, columnType?_ofColumnType, ofString, asString?]

theorem table?_ofTable (t : Table) : table? (ofTable t) = t.reread? := by
  have hrecord : asRecord? ["columns", "primary_key", "rows"] (ofTable t) =
      some [some (array (t.columns.map ofColumnDef)), some (array (t.primaryKey.map ofString)),
        some (array (t.rows.map fun row => array (row.map ofValue)))] :=
    asRecord?_record rfl (by decide)
  have hcolumns : asList? columnDef? (array (t.columns.map ofColumnDef)) = some t.columns := by
    rw [asList?_array]
    exact mapM_eq_some_self fun c _ => columnDef?_ofColumnDef c
  have hkey : asList? asString? (array (t.primaryKey.map ofString)) = some t.primaryKey := by
    rw [asList?_array]
    exact mapM_eq_some_self fun name _ => rfl
  have hrows : asList? (asList? value?) (array (t.rows.map fun row => array (row.map ofValue))) =
      t.rows.mapM fun row : Row => row.mapM Value.reread? := by
    rw [asList?_array]
    simp only [asList?_array, value?_ofValue]
  unfold table?
  rw [hrecord]
  simp only [required?, withDefault?, hcolumns, hkey, hrows, Option.bind_eq_bind, Option.bind_some]
  unfold Table.reread?
  cases t.rows.mapM fun row : Row => row.mapM Value.reread? <;> rfl

theorem database?_ofDatabase (d : Database) : database? (ofDatabase d) = d.reread? := by
  have hrecord : asRecord? ["tables"] (ofDatabase d) = some [some (ofMap ofTable d.tables)] :=
    asRecord?_record rfl (by decide)
  unfold database? Database.reread?
  rw [hrecord]
  simp only [withDefault?, asMap?_ofMap, table?_ofTable]
  cases d.tables.mapM? Table.reread? <;> rfl

theorem catalog?_ofCatalog (c : Catalog) : catalog? (ofCatalog c) = c.reread? := by
  have hrecord : asRecord? ["databases"] (ofCatalog c) = some [some (ofMap ofDatabase c.databases)] :=
    asRecord?_record rfl (by decide)
  unfold catalog? Catalog.reread?
  rw [hrecord]
  simp only [withDefault?, asMap?_ofMap, database?_ofDatabase]
  cases c.databases.mapM? Database.reread? <;> rfl

/-! ## The document of a catalog -/

theorem printable_record {members : List (String × Json)} (h : ∀ m ∈ members, Printable m.2) :
    Printable (record members) := by
  refine .object (fun e he => ?_) fun e he => ?_
  · obtain ⟨m, -, rfl⟩ := List.mem_map.1 he
    rfl
  · obtain ⟨m, hm, rfl⟩ := List.mem_map.1 he
    exact h m hm

theorem printable_choice (name : String) {contents : Json} (h : Printable contents) :
    Printable (choice name contents) := by
  refine printable_record fun m hm => ?_
  obtain rfl := List.mem_singleton.1 hm
  exact h

theorem printable_array {write : α → Json} (h : ∀ a, Printable (write a)) (l : List α) :
    Printable (array (l.map write)) := by
  refine .array fun j hj => ?_
  obtain ⟨a, -, rfl⟩ := List.mem_map.1 hj
  exact h a

theorem printable_ofMap {write : α → Json} (h : ∀ a, Printable (write a)) (m : NameMap α) :
    Printable (ofMap write m) := by
  refine printable_record fun e he => ?_
  obtain ⟨a, -, rfl⟩ := List.mem_map.1 he
  exact h a.2

theorem printable_ofInt (i : Int) : Printable (ofInt i) := .number (wellFormed_ofInt i)

/-- A float that is not finite has no number, but a document all the same. -/
theorem printable_ofFloat (x : Float) : Printable (ofFloat x) := by
  rcases ofFloat_cases x with h | ⟨n, hn, h⟩
  · exact h ▸ .null
  · exact h ▸ .number hn

theorem printable_ofColumnType (t : ColumnType) : Printable (ofColumnType t) := by
  cases t with
  | varChar limit => exact printable_choice _ (printable_ofInt _)
  | _ => exact .string _

theorem printable_ofValue (v : Value) : Printable (ofValue v) := by
  cases v with
  | null => exact .string _
  | bool b => exact printable_choice _ (.bool b)
  | int i => exact printable_choice _ (printable_ofInt _)
  | double x => exact printable_choice _ (printable_ofFloat x)
  | text s => exact printable_choice _ (.string s)

theorem printable_ofColumnDef (c : ColumnDef) : Printable (ofColumnDef c) := by
  refine printable_record (List.forall_mem_cons.2 ⟨.string _, List.forall_mem_singleton.2 ?_⟩)
  exact printable_ofColumnType c.type

theorem printable_ofTable (t : Table) : Printable (ofTable t) := by
  refine printable_record (List.forall_mem_cons.2 ⟨?columns, List.forall_mem_cons.2
    ⟨?key, List.forall_mem_singleton.2 ?rows⟩⟩)
  case columns => exact printable_array printable_ofColumnDef t.columns
  case key => exact printable_array (fun name => .string name) t.primaryKey
  case rows => exact printable_array (fun row => printable_array printable_ofValue row) t.rows

theorem printable_ofDatabase (d : Database) : Printable (ofDatabase d) :=
  printable_record (List.forall_mem_singleton.2 (printable_ofMap printable_ofTable d.tables))

/-- **Every catalog makes a document that can be read back.** -/
theorem printable_ofCatalog (c : Catalog) : Printable (ofCatalog c) :=
  printable_record (List.forall_mem_singleton.2 (printable_ofMap printable_ofDatabase c.databases))

/-- **A snapshot comes back as the catalog**, its floats read anew. -/
theorem read?_text (c : Catalog) : read? (text c) = c.reread? := by
  rw [read?, text, String.toList_ofList, parse?_render (printable_ofCatalog c), Option.bind_some,
    catalog?_ofCatalog]

end Snapshot

/-! ## Catalogs without floats -/

/-- Is the value a float? -/
def Value.isDouble : Value → Bool
  | .double _ => true
  | _ => false

/-- No cell of the table is a float. -/
def Table.NoDouble (t : Table) : Prop := ∀ row ∈ t.rows, ∀ v ∈ row, v.isDouble = false

instance (t : Table) : Decidable t.NoDouble :=
  inferInstanceAs (Decidable (∀ row ∈ t.rows, ∀ v ∈ row, v.isDouble = false))

instance (P : Table → Prop) [DecidablePred P] (c : Catalog) : Decidable (c.Holds P) :=
  inferInstanceAs (Decidable (∀ e ∈ c.databases.entries, ∀ f ∈ e.2.tables.entries, P f.2))

theorem Value.reread?_of_not_isDouble {v : Value} (h : v.isDouble = false) : v.reread? = some v := by
  cases v with
  | double x => cases h
  | _ => rfl

theorem Table.reread?_of_noDouble {t : Table} (h : t.NoDouble) : t.reread? = some t := by
  have hrows : (t.rows.mapM fun row : Row => row.mapM Value.reread?) = some t.rows :=
    mapM_eq_some_self fun row hrow =>
      mapM_eq_some_self fun v hv => Value.reread?_of_not_isDouble (h row hrow v hv)
  rw [reread?, hrows, Option.map_some]

theorem Catalog.reread?_of_noDouble {c : Catalog} (h : c.Holds Table.NoDouble) :
    c.reread? = some c := by
  have hdatabases : c.databases.mapM? Database.reread? = some c.databases := by
    refine NameMap.mapM?_eq_some_self fun e he => ?_
    have htables : e.2.tables.mapM? Table.reread? = some e.2.tables :=
      NameMap.mapM?_eq_some_self fun f hf => Table.reread?_of_noDouble (h e he f hf)
    rw [Database.reread?, htables, Option.map_some]
  rw [reread?, hdatabases, Option.map_some]

namespace Snapshot

/-- **A catalog without floats comes back from its snapshot exactly as it was**, whatever its names,
columns, keys, rows and texts. -/
theorem read?_text_of_noDouble {c : Catalog} (h : c.Holds Table.NoDouble) : read? (text c) = some c := by
  rw [read?_text, Catalog.reread?_of_noDouble h]

/-- Names with quotation marks and control characters, a key that names no column, rows of any length,
one of them twice, and the least integer. -/
theorem read?_text_of_noDouble_odd_names :
    let t : Table :=
      { columns := [⟨"\x22q\\\x22", .varChar 4294967295⟩, ⟨"", .bigInt⟩], primaryKey := ["absent"],
        rows := [[.text "a\x00\n\x1fé"], [.null, .int Int64.minValue, .bool true], [.text ""], [.text ""]] }
    let c : Catalog :=
      { databases := .ofEntries [("d\x00", { tables := .ofEntries [("t/\x22", t)] }), ("Δ", {})] }
    c.Holds Table.NoDouble ∧ read? (text c) = some c := by
  intro t c
  have hfree : c.Holds Table.NoDouble := by decide +kernel
  exact ⟨hfree, read?_text_of_noDouble hfree⟩

end Snapshot

end WireSql
