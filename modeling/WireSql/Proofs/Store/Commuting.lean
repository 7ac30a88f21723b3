import WireSql.Proofs.Store.AllOrNothing
import WireSql.Proofs.Store.Places

/-!
# `WireSql.Proofs.Store.Commuting`: statements about different tables

A statement about a table is computed at the place of that table: what it answers, be it a result or an
error, and what it puts there are functions of what stands there (`computedAt_run`). So the program that
serves it looks at nothing else and leaves everything else alone (`WorksAt`), and two programs that work at
different places can be run in either order (`WorksAt.commutes`).

`run_commutes` is the result: two statements about different tables, each with a session database of its
own, have the same outcomes in either order and leave the same catalog, whichever of them fail.
-/

namespace WireSql

/-! ## What is computed at a place -/

namespace Catalog

variable {α β : Type} {p : Place}

/-- **A change of catalogs is computed at a place**: what it answers and what it puts there are functions of
what stands there. -/
def ComputedAt (p : Place) (change : Catalog → Except StatementError (α × Catalog)) : Prop :=
  ∃ compute : Option (Option Table) → Except StatementError (α × Option Table),
    ∀ c, change c = (compute (c.standsAt? p)).map fun m => (m.1, c.putAt p m.2)

/-- A computation that looks at no catalog, in front of a change. -/
theorem computedAt_bind {x : Except StatementError β}
    {change : β → Catalog → Except StatementError (α × Catalog)}
    (h : ∀ b, x = .ok b → ComputedAt p (change b)) : ComputedAt p fun c => x >>= fun b => change b c := by
  cases x with
  | error e => exact ⟨fun _ => .error e, fun _ => rfl⟩
  | ok b => exact h b rfl

/-- The same, where the computation is known to succeed. -/
theorem computedAt_bind_ok {x : Except StatementError β} {b : β} (hx : x = .ok b)
    {change : β → Catalog → Except StatementError (α × Catalog)} (h : ComputedAt p (change b)) :
    ComputedAt p fun c => x >>= fun b => change b c := by
  subst hx
  exact h

/-- A change reported as the result of a statement. -/
theorem computedAt_affecting {change : Catalog → Except StatementError (Nat × Catalog)}
    (h : ComputedAt p change) : ComputedAt p fun c => affecting (change c) := by
  obtain ⟨compute, hcompute⟩ := h
  refine ⟨fun found => (compute found).map fun m => (.affected m.1, m.2), fun c => ?_⟩
  dsimp only [affecting]
  rw [hcompute]
  cases compute (c.standsAt? p) <;> rfl

/-- What becomes of a place whose table is changed. -/
def changed (p : Place) (change : Table → Except StatementError (α × Table)) :
    Option (Option Table) → Except StatementError (α × Option Table)
  | none => .error (.unknownDatabase p.database)
  | some none => .error (.unknownTable p.database p.table)
  | some (some t) => (change t).map fun m => (m.1, some m.2)

/-- What becomes of a place where a table is created. -/
def created (p : Place) (t : Table) (ifNotExists : Bool) :
    Option (Option Table) → Except StatementError (Nat × Option Table)
  | none => .error (.unknownDatabase p.database)
  | some none => .ok (0, some t)
  | some (some old) => if ifNotExists then .ok (0, some old) else .error (.tableExists p.table)

/-- What becomes of a place whose table is dropped. -/
def dropped (p : Place) (ifExists : Bool) :
    Option (Option Table) → Except StatementError (Nat × Option Table)
  | none => .error (.unknownDatabase p.database)
  | some none => if ifExists then .ok (0, none) else .error (.unknownTable p.database p.table)
  | some (some _) => .ok (0, none)

/-- What is read off the table at a place. -/
theorem computedAt_table (p : Place) (read : Table → Except StatementError α) :
    ComputedAt p fun c => do
      let t ← c.table p.database p.table
      return (← read t, c) := by
  refine ⟨changed p fun t => (read t).map fun a => (a, t), fun c => ?_⟩
  dsimp only
  rw [table_eq]
  cases hfound : c.standsAt? p with
  | none => rfl
  | some found =>
    cases found with
    | none => rfl
    | some t =>
      dsimp only [bind, Except.bind, changed]
      cases read t with
      | error e => rfl
      | ok a => simp [Except.map, pure, Except.pure, putAt_of_standsAt? hfound]

theorem computedAt_createTable (p : Place) (t : Table) (ifNotExists : Bool) :
    ComputedAt p fun c => c.createTable p.database p.table t ifNotExists := by
  refine ⟨created p t ifNotExists, fun c => ?_⟩
  dsimp only
  rw [createTable_eq]
  cases hfound : c.standsAt? p with
  | none => rfl
  | some found =>
    cases found with
    | none => rfl
    | some old =>
      cases ifNotExists with
      | false => rfl
      | true => simp [created, Except.map, putAt_of_standsAt? hfound]

theorem computedAt_dropTable (p : Place) (ifExists : Bool) :
    ComputedAt p fun c => c.dropTable p.database p.table ifExists := by
  refine ⟨dropped p ifExists, fun c => ?_⟩
  dsimp only
  rw [dropTable_eq]
  cases hfound : c.standsAt? p with
  | none => rfl
  | some found =>
    cases found with
    | some old => rfl
    | none =>
      cases ifExists with
      | false => rfl
      | true => simp [dropped, Except.map, putAt_of_standsAt? hfound]

theorem computedAt_changeTable (p : Place) (change : Table → Except StatementError (Nat × Table)) :
    ComputedAt p fun c => c.changeTable p.database p.table change := by
  refine ⟨changed p change, fun c => ?_⟩
  dsimp only
  rw [changeTable_eq]
  cases c.standsAt? p with
  | none => rfl
  | some found =>
    cases found with
    | none => rfl
    | some t => cases hchange : change t <;> simp [changed, Except.map, hchange]

/-- **A statement about a table is computed at the place of the table.** -/
theorem computedAt_run {statement : Statement} {database : Option String}
    (hp : statement.place? database = some p) : ComputedAt p fun c => c.run statement database := by
  cases statement with
  | createDatabase name ifNotExists => cases hp
  | dropDatabase name ifExists => cases hp
  | use name => cases hp
  | showTables => cases hp
  | select table projection filter limit =>
    obtain ⟨name, hname, rfl⟩ := Statement.resolve_of_place? rfl hp
    refine computedAt_bind_ok hname ?_
    exact computedAt_table _ fun t => t.select projection filter limit
  | createTable table ifNotExists columns primaryKey =>
    obtain ⟨name, hname, rfl⟩ := Statement.resolve_of_place? rfl hp
    refine computedAt_bind_ok hname (computedAt_bind fun t _ => computedAt_affecting ?_)
    exact computedAt_createTable _ t ifNotExists
  | dropTable table ifExists =>
    obtain ⟨name, hname, rfl⟩ := Statement.resolve_of_place? rfl hp
    refine computedAt_bind_ok hname (computedAt_affecting ?_)
    exact computedAt_dropTable _ ifExists
  | insert table columns rows =>
    obtain ⟨name, hname, rfl⟩ := Statement.resolve_of_place? rfl hp
    refine computedAt_bind_ok hname (computedAt_affecting ?_)
    exact computedAt_changeTable _ fun t => t.insert columns rows
  | update table assignments filter =>
    obtain ⟨name, hname, rfl⟩ := Statement.resolve_of_place? rfl hp
    refine computedAt_bind_ok hname (computedAt_affecting ?_)
    exact computedAt_changeTable _ fun t => t.update assignments filter
  | delete table filter =>
    obtain ⟨name, hname, rfl⟩ := Statement.resolve_of_place? rfl hp
    refine computedAt_bind_ok hname (computedAt_affecting ?_)
    exact computedAt_changeTable _ fun t => t.delete filter

end Catalog

/-! ## Programs that work at a place -/

namespace InPlace

variable {α β : Type} {p p' : Place}

/-- **A program works at a place**: it looks at nothing else and leaves everything else alone. -/
structure WorksAt (p : Place) (q : InPlace Catalog α) : Prop where
  /-- Everything else is left alone. -/
  beside : ∀ c : Catalog, c.AgreesBeside p (q.exec c).2
  /-- The outcome comes from what stands at the place. -/
  outcome : ∀ c c' : Catalog, c.standsAt? p = c'.standsAt? p → (q.exec c).1 = (q.exec c').1
  /-- So does what is left there. -/
  left : ∀ c c' : Catalog, c.standsAt? p = c'.standsAt? p → (q.exec c).2.standsAt? p = (q.exec c').2.standsAt? p

/-- A program that does what is computed at a place works there. -/
theorem worksAt_of_transacts {q : InPlace Catalog α}
    {change : Catalog → Except StatementError (α × Catalog)} (h : Transacts q change)
    (hchange : Catalog.ComputedAt p change) : WorksAt p q := by
  obtain ⟨compute, hcompute⟩ := hchange
  have hexec : ∀ c, q.exec c = settled c ((compute (c.standsAt? p)).map fun m => (m.1, c.putAt p m.2)) :=
    fun c => by rw [h c, hcompute c]
  constructor
  case beside =>
    intro c
    rw [hexec]
    cases compute (c.standsAt? p) with
    | error e => exact Catalog.AgreesBeside.refl p c
    | ok m => exact Catalog.agreesBeside_putAt c p m.2
  case outcome =>
    intro c c' hsame
    rw [hexec, hexec, hsame]
    cases compute (c'.standsAt? p) <;> rfl
  case left =>
    intro c c' hsame
    rw [hexec, hexec, hsame]
    cases compute (c'.standsAt? p) with
    | error e => exact hsame
    | ok m =>
      show (c.putAt p m.2).standsAt? p = (c'.putAt p m.2).standsAt? p
      rw [Catalog.standsAt?_putAt, Catalog.standsAt?_putAt, hsame]

/-- **Two programs commute at a place in memory**: in either order each has the same outcome, and the same
is left. -/
structure Commutes {σ : Type} (q : InPlace σ α) (r : InPlace σ β) (s : σ) : Prop where
  /-- The first program has the same outcome behind the second one. -/
  first : (q.exec (r.exec s).2).1 = (q.exec s).1
  /-- The second program has the same outcome behind the first one. -/
  second : (r.exec (q.exec s).2).1 = (r.exec s).1
  /-- The same is left. -/
  left : (r.exec (q.exec s).2).2 = (q.exec (r.exec s).2).2

/-- **Programs that work at different places commute.** -/
theorem WorksAt.commutes {q : InPlace Catalog α} {r : InPlace Catalog β} (hq : WorksAt p q)
    (hr : WorksAt p' r) (hne : p ≠ p') (c : Catalog) : Commutes q r c := by
  -- each program finds its own place as if the other one had not run
  have hplace : (r.exec c).2.standsAt? p = c.standsAt? p := (hr.beside c).places p hne
  have hplace' : (q.exec c).2.standsAt? p' = c.standsAt? p' := (hq.beside c).places p' (Ne.symm hne)
  refine ⟨hq.outcome _ _ hplace, hr.outcome _ _ hplace', Catalog.ext_standsAt? fun other => ?_⟩
  have hbehind := (hr.beside (q.exec c).2).places other
  have hbehind' := (hq.beside (r.exec c).2).places other
  by_cases hp : other = p
  · subst hp
    calc (r.exec (q.exec c).2).2.standsAt? other
        = (q.exec c).2.standsAt? other := hbehind hne
      _ = (q.exec (r.exec c).2).2.standsAt? other := (hq.left _ _ hplace).symm
  · by_cases hp' : other = p'
    · subst hp'
      calc (r.exec (q.exec c).2).2.standsAt? other
          = (r.exec c).2.standsAt? other := hr.left _ _ hplace'
        _ = (q.exec (r.exec c).2).2.standsAt? other := (hbehind' hp).symm
    · calc (r.exec (q.exec c).2).2.standsAt? other
          = (q.exec c).2.standsAt? other := hbehind hp'
        _ = c.standsAt? other := (hq.beside c).places other hp
        _ = (r.exec c).2.standsAt? other := ((hr.beside c).places other hp').symm
        _ = (q.exec (r.exec c).2).2.standsAt? other := (hbehind' hp).symm

/-- A statement about a table works at the place of the table. -/
theorem worksAt_run {statement : Statement} {database : Option String}
    (hp : statement.place? database = some p) : WorksAt p (run statement database) :=
  worksAt_of_transacts (run_transacts statement database) (Catalog.computedAt_run hp)

/-- **Statements about different tables commute.** Each is run with a session database of its own, and
either may fail. -/
theorem run_commutes {a b : Statement} {da db : Option String} (ha : a.place? da = some p)
    (hb : b.place? db = some p') (hne : p ≠ p') (c : Catalog) : Commutes (run a da) (run b db) c :=
  (worksAt_run ha).commutes (worksAt_run hb) hne c

/-- A row with a key that is taken, and the end of the table of the same name in another database: the row
is refused and the table is dropped, whichever comes first. -/
theorem run_commutes_same_name :
    let t : Table := { columns := [⟨"id", .int⟩], primaryKey := ["id"], rows := [[.int 7]] }
    let tables : NameMap Table := .ofEntries [("t", t)]
    let c : Catalog := { databases := .ofEntries [("a", { tables }), ("b", { tables })] }
    let row : Statement := .insert ⟨none, "t"⟩ none [[.int 7]]
    let drop : Statement := .dropTable ⟨some "b", "t"⟩ false
    row.place? (some "a") = some ⟨"a", "t"⟩ ∧ drop.place? (some "a") = some ⟨"b", "t"⟩ ∧
      ((run row (some "a")).exec c).1 = .error (.duplicateKey [.int 7]) ∧
      ((run drop (some "a")).exec c).2.standsAt? ⟨"b", "t"⟩ = some none ∧
      Commutes (run row (some "a")) (run drop (some "a")) c := by
  intro t tables c row drop
  exact ⟨rfl, rfl, by decide, by decide, run_commutes rfl rfl (by decide) c⟩

end InPlace

end WireSql
