import WireSql.Proofs.Connection.CurrentDatabase

/-!
# `WireSql.Proofs.Connection.CommandEffects`: what a command leaves of its session

A command reaches one field of its session, the database, and no other. There are three things that become
of that field (`Command.DatabaseBehind`): the session switches to a database that the command asks for and
that is there, it forgets one that a statement has removed, or it keeps what it has. Which of them it is
depends on the command, the database and the catalog alone (`DatabaseBehind.unique`): each says under which
condition it happens, and the last under which neither of the others does.

Main statement: `dispatch_session_database`. It holds of every session, every store and every payload,
those that end the worker among them. A session whose database is there has one that is there, or none,
behind every command.
-/

namespace WireSql

open Introspection (clean)

namespace Command

variable {s : Session} {store : Store} {name : String} {payload body : Bytes}

/-- **The command asks for the database of this name**, by `COM_INIT_DB` or by a statement that begins with
`USE`. -/
inductive AsksFor : Bytes → String → Prop where
  /-- The payload is the name. -/
  | initDb (body : Bytes) :
      AsksFor (0x02 :: body) (String.ofList (bareName (Text.decode body).toList))
  /-- The name stands behind `USE`. -/
  | use {body : Bytes} {name : List Char} (huse : useStatement? (clean (Text.decode body)) = some name) :
      AsksFor (0x03 :: body) (String.ofList (bareName name))

/-- **The store runs a statement for the command**, with success and without a result set, and is `after`
behind it. -/
inductive Executes (store : Store) (database : Option String) : Bytes → Store → Prop where
  /-- The statement is neither empty nor answered by the connection itself. -/
  | statement {body : Bytes} {result : ResultSet} {after : Store} (hnonempty : clean (Text.decode body) ≠ "")
      (huse : useStatement? (clean (Text.decode body)) = none)
      (hanswer : Introspection.answer ⟨database, store.catalog.databaseNames⟩ (clean (Text.decode body)) =
        .ok none)
      (hrun : store.execute (clean (Text.decode body)) database = .ok (result, after))
      (hcommand : result.columns = []) : Executes store database (0x03 :: body) after

/-- **What becomes of the database of a session.** -/
inductive DatabaseBehind (s : Session) (store : Store) (payload : Bytes) (o : Outcome Store) : Prop where
  /-- The session switches to a database that is there. -/
  | switched {name : String} (hasks : AsksFor payload name) (hthere : store.catalog.hasDatabase name = true)
      (hdatabase : o.session.database = some name) (hstate : o.state = store)
  /-- The session forgets a database that is not there behind the statement. -/
  | forgotten {name : String} {after : Store} (hexecutes : Executes store s.database payload after)
      (hbefore : s.database = some name) (hmissing : after.catalog.hasDatabase name = false)
      (hdatabase : o.session.database = none) (hstate : o.state = after)
  /-- The session keeps what it has: neither of the two conditions holds. -/
  | kept (hasks : ∀ name, AsksFor payload name → store.catalog.hasDatabase name = false)
      (hthere : ∀ name after, Executes store s.database payload after → s.database = some name →
        after.catalog.hasDatabase name = true)
      (hdatabase : o.session.database = s.database)

/-! ## One outcome -/

theorem AsksFor.unique {other : String} (h : AsksFor payload name) (h' : AsksFor payload other) :
    name = other := by
  cases h with
  | initDb =>
    cases h' with
    | initDb => rfl
  | use huse =>
    cases h' with
    | use huse' => rw [Option.some.inj (huse.symm.trans huse')]

theorem Executes.unique {database : Option String} {after other : Store}
    (h : Executes store database payload after) (h' : Executes store database payload other) :
    after = other := by
  cases h with
  | statement _ _ _ hrun _ =>
    cases h' with
    | statement _ _ _ hrun' _ => exact (Prod.ext_iff.1 (Except.ok.inj (hrun.symm.trans hrun'))).2

/-- A command that asks for a database has no statement run. -/
theorem Executes.not_asksFor {database : Option String} {after : Store}
    (h : Executes store database payload after) : ¬ AsksFor payload name := by
  intro hasks
  cases h with
  | statement _ hnone _ _ _ =>
    cases hasks with
    | use huse => exact absurd (huse.symm.trans hnone) nofun

/-- **The three ways leave no choice**: the command, the database and the catalog say which one it is. -/
theorem DatabaseBehind.unique {o o' : Outcome Store} (h : DatabaseBehind s store payload o)
    (h' : DatabaseBehind s store payload o') : o.session.database = o'.session.database := by
  cases h with
  | switched hasks hthere hdatabase _ =>
    cases h' with
    | switched hasks' _ hdatabase' _ => rw [hdatabase, hdatabase', hasks.unique hasks']
    | forgotten hexecutes => exact absurd hasks hexecutes.not_asksFor
    | kept hasks' => exact absurd (hthere.symm.trans (hasks' _ hasks)) nofun
  | forgotten hexecutes hbefore hmissing hdatabase _ =>
    cases h' with
    | switched hasks => exact absurd hasks hexecutes.not_asksFor
    | forgotten _ _ _ hdatabase' _ => rw [hdatabase, hdatabase']
    | kept _ hthere => exact absurd (hmissing.symm.trans (hthere _ _ hexecutes hbefore)) nofun
  | kept hasks hthere hdatabase =>
    cases h' with
    | switched hasks' hthere' => exact absurd (hthere'.symm.trans (hasks _ hasks')) nofun
    | forgotten hexecutes hbefore hmissing =>
      exact absurd (hmissing.symm.trans (hthere _ _ hexecutes hbefore)) nofun
    | kept _ _ hdatabase' => rw [hdatabase, hdatabase']

/-! ## Switching -/

/-- A command that asks for a database and for nothing else switches to it, or keeps what there is. -/
theorem switchAndReport_database {text : List Char} {packet : Wire.OkPacket}
    (hasks : ∀ name, AsksFor payload name ↔ name = String.ofList (bareName text))
    (hexecutes : ∀ after, ¬ Executes store s.database payload after) :
    DatabaseBehind s store payload (switchAndReport Store.backend s store text packet) := by
  by_cases hthere : store.catalog.hasDatabase (String.ofList (bareName text)) = true
  · have hswitched : (switchAndReport Store.backend s store text packet).session =
          { s with database := some (String.ofList (bareName text)) } ∧
        (switchAndReport Store.backend s store text packet).state = store := by
      unfold switchAndReport switch
      dsimp only
      rw [selectDatabase_store, if_pos hthere]
      exact ⟨rfl, rfl⟩
    have hdatabase := congrArg Session.database hswitched.1
    exact .switched ((hasks _).2 rfl) hthere hdatabase hswitched.2
  · have hkeeps : (switchAndReport Store.backend s store text packet).Keeps s store :=
      switchAndReport_keeps hthere
    refine .kept (fun name hname => ?_) (fun _ after hafter => absurd hafter (hexecutes after)) hkeeps.1
    obtain rfl := (hasks name).1 hname
    exact Bool.eq_false_iff.2 hthere

/-! ## Forgetting -/

theorem forgetMissing_of_missing (hname : s.database = some name)
    (hmissing : store.catalog.hasDatabase name = false) :
    (forgetMissing Store.backend store s).database = none := by
  unfold forgetMissing
  rw [hname]
  dsimp only
  rw [selectDatabase_store, hmissing]
  rfl

theorem forgetMissing_of_there
    (hthere : ∀ name, s.database = some name → store.catalog.hasDatabase name = true) :
    forgetMissing Store.backend store s = s := by
  unfold forgetMissing
  cases hname : s.database with
  | none => rfl
  | some name =>
    dsimp only
    rw [selectDatabase_store, if_pos (hthere name hname)]

/-! ## Statements -/

theorem asksFor_query_iff : AsksFor (0x03 :: body) name ↔
    ∃ text, useStatement? (clean (Text.decode body)) = some text ∧
      name = String.ofList (bareName text) := by
  constructor
  · intro h
    cases h with
    | use huse => exact ⟨_, huse, rfl⟩
  · rintro ⟨text, huse, rfl⟩
    exact .use huse

theorem not_asksFor_of_useStatement? (huse : useStatement? (clean (Text.decode body)) = none) (name : String) :
    ¬ AsksFor (0x03 :: body) name := by
  intro h
  obtain ⟨text, hsome, -⟩ := asksFor_query_iff.1 h
  exact absurd (huse.symm.trans hsome) nofun

theorem Executes.run {after : Store} (h : Executes store s.database (0x03 :: body) after) :
    ∃ result, store.execute (clean (Text.decode body)) s.database = .ok (result, after) ∧
      result.columns = [] := by
  cases h with
  | statement _ _ _ hrun hcommand => exact ⟨_, hrun, hcommand⟩

/-- A command that asks for nothing, and for which no statement is run with success and without a result
set, leaves what there is. -/
theorem databaseBehind_of_neither {o : Outcome Store} (hasks : ∀ name, ¬ AsksFor payload name)
    (hexecutes : ∀ after, ¬ Executes store s.database payload after)
    (hdatabase : o.session.database = s.database) : DatabaseBehind s store payload o :=
  .kept (fun name h => absurd h (hasks name)) (fun _ after h => absurd h (hexecutes after)) hdatabase

/-- Behind a statement that the store has run without a result set, the session has its database if that is
there. -/
theorem databaseBehind_of_executes {after : Store} {reply : Except Fault Reply}
    (hexecutes : Executes store s.database payload after) :
    DatabaseBehind s store payload ⟨reply, forgetMissing Store.backend after s, after⟩ := by
  by_cases hthere : ∀ name, s.database = some name → after.catalog.hasDatabase name = true
  · refine .kept (fun name h => absurd h hexecutes.not_asksFor) (fun name other hother hname => ?_)
      (congrArg Session.database (forgetMissing_of_there hthere))
    rw [hother.unique hexecutes]
    exact hthere name hname
  · push Not at hthere
    obtain ⟨name, hname, hmissing⟩ := hthere
    have hmissing : after.catalog.hasDatabase name = false := Bool.eq_false_iff.2 hmissing
    exact .forgotten hexecutes hname hmissing (forgetMissing_of_missing hname hmissing) rfl

/-- What the store is to run leaves the database as its outcome says. -/
theorem forward_database (hnonempty : clean (Text.decode body) ≠ "")
    (huse : useStatement? (clean (Text.decode body)) = none)
    (hanswer : Introspection.answer ⟨s.database, store.catalog.databaseNames⟩ (clean (Text.decode body)) =
      .ok none) :
    DatabaseBehind s store (0x03 :: body)
      (forward Store.backend s store (clean (Text.decode body))) := by
  have hasks := not_asksFor_of_useStatement? huse
  rw [forward_store]
  cases hrun : store.execute (clean (Text.decode body)) s.database with
  | error e =>
    refine databaseBehind_of_neither hasks (fun after h => ?_) rfl
    obtain ⟨result, hok, -⟩ := h.run
    exact absurd (hrun.symm.trans hok) nofun
  | ok v =>
    obtain ⟨result, after⟩ := v
    dsimp only
    by_cases hcommand : result.columns = []
    · have hisCommand : result.isCommand = true := by rw [ResultSet.isCommand, hcommand]; rfl
      rw [if_pos hisCommand]
      exact databaseBehind_of_executes (.statement hnonempty huse hanswer hrun hcommand)
    · have hisCommand : ¬ result.isCommand = true := by
        rw [ResultSet.isCommand, List.isEmpty_iff]
        exact hcommand
      rw [if_neg hisCommand]
      refine databaseBehind_of_neither hasks (fun other h => ?_) rfl
      obtain ⟨result', hok, hempty⟩ := h.run
      obtain ⟨rfl, -⟩ := Prod.ext_iff.1 (Except.ok.inj (hok.symm.trans hrun))
      exact hcommand hempty

/-- A statement leaves the database as what it asks for or what the store makes of it says. -/
theorem query_database (s : Session) (store : Store) (body : Bytes) :
    DatabaseBehind s store (0x03 :: body) (query Store.backend s store (clean (Text.decode body))) := by
  by_cases hempty : (clean (Text.decode body)).isEmpty = true
  · rw [query, if_pos hempty]
    refine databaseBehind_of_neither (fun name h => ?_) (fun after h => ?_) rfl
    · obtain ⟨text, huse, -⟩ := asksFor_query_iff.1 h
      exact nonempty_of_useStatement? huse hempty
    · cases h with
      | statement hnonempty => exact hnonempty (String.isEmpty_iff.1 hempty)
  · rw [query, if_neg hempty]
    cases huse : useStatement? (clean (Text.decode body)) with
    | some text =>
      refine switchAndReport_database (fun name => ?_) fun after h => ?_
      · rw [asksFor_query_iff, huse]
        simp
      · cases h with
        | statement _ hnone =>
          rw [huse] at hnone
          cases hnone
    | none =>
      have hasks := not_asksFor_of_useStatement? huse
      have hanswered (hne : Introspection.answer ⟨s.database, store.catalog.databaseNames⟩
          (clean (Text.decode body)) ≠ .ok none) (after : Store) :
          ¬ Executes store s.database (0x03 :: body) after := by
        rintro ⟨-, -, hanswer, -, -⟩
        exact hne hanswer
      have hnonempty : clean (Text.decode body) ≠ "" := fun h => hempty (String.isEmpty_iff.2 h)
      dsimp only
      split
      · next crash hanswer =>
        have hcrash : Introspection.answer ⟨s.database, store.catalog.databaseNames⟩
            (clean (Text.decode body)) = .error crash := hanswer
        exact databaseBehind_of_neither hasks (hanswered (by rw [hcrash]; rintro ⟨⟩)) rfl
      · next result hanswer =>
        have hresult : Introspection.answer ⟨s.database, store.catalog.databaseNames⟩
            (clean (Text.decode body)) = .ok (some result) := hanswer
        exact databaseBehind_of_neither hasks (hanswered (by rw [hresult]; rintro ⟨⟩)) rfl
      · next hanswer => exact forward_database hnonempty huse hanswer

/-! ## Commands -/

/-- A code that is neither of the two asks for nothing and has nothing run. -/
theorem databaseBehind_of_code {code : UInt8} {body : Bytes} {o : Outcome Store} (hinitDb : code ≠ 0x02)
    (hquery : code ≠ 0x03) (hdatabase : o.session.database = s.database) :
    DatabaseBehind s store (code :: body) o := by
  refine databaseBehind_of_neither (fun name h => ?_) (fun after h => ?_) hdatabase
  · cases h with
    | initDb => exact hinitDb rfl
    | use => exact hquery rfl
  · cases h with
    | statement => exact hquery rfl

/-- **Every command leaves the database as one of the three ways says.** -/
theorem dispatch_database (s : Session) (store : Store) (payload : Bytes) :
    DatabaseBehind s store payload (dispatch Store.backend s store payload) := by
  cases payload with
  | nil =>
    refine databaseBehind_of_neither (fun name h => ?_) (fun after h => ?_) rfl
    · cases h
    · cases h
  | cons code body =>
    cases hcommand : Wire.Command.ofCode? code with
    | none =>
      refine databaseBehind_of_code ?_ ?_ ?_
      · rintro rfl
        cases hcommand
      · rintro rfl
        cases hcommand
      · have hparse : Wire.Packet.parse (code :: body) .command = .ok (.command ⟨code, body⟩) := rfl
        unfold dispatch
        rw [hparse]
        dsimp only
        rw [hcommand]
    | some command =>
      obtain rfl := Wire.Command.eq_code_of_ofCode? hcommand
      cases command with
      | quit => exact databaseBehind_of_code (by decide) (by decide) rfl
      | ping => exact databaseBehind_of_code (by decide) (by decide) rfl
      | query =>
        rw [Wire.Command.code, dispatch_query]
        exact query_database s store body
      | initDb =>
        rw [Wire.Command.code, dispatch_initDb]
        refine switchAndReport_database (fun name => ⟨fun h => ?_, ?_⟩) fun after h => ?_
        · cases h with
          | initDb => rfl
        · rintro rfl
          exact .initDb body
        · cases h

/-- A session whose database is there has one that is there behind every command, if it has one at all. -/
theorem dispatch_sound (hsound : ∀ name, s.database = some name → store.catalog.hasDatabase name = true)
    (payload : Bytes) : (dispatch Store.backend s store payload).Sound := by
  by_cases hright : Rectifies store s.database payload
  · exact sound_of_rectifies hright
  · obtain ⟨hdatabase, hcatalog⟩ := keeps_of_not_rectifies hright
    intro name hname
    rw [hcatalog]
    exact hsound name (hdatabase ▸ hname)

/-- **A command changes at most the database of its session, and that only as its outcome allows.** -/
theorem dispatch_session_database (s : Session) (store : Store) (payload : Bytes) :
    let o := dispatch Store.backend s store payload
    o.session = { s with database := o.session.database } ∧ DatabaseBehind s store payload o ∧
      ((∀ name, s.database = some name → store.catalog.hasDatabase name = true) → o.Sound) := by
  intro o
  refine ⟨?_, dispatch_database s store payload, fun hsound => dispatch_sound hsound payload⟩
  obtain ⟨database, hsession⟩ := dispatch_session Store.backend s store payload
  show (dispatch Store.backend s store payload).session = _
  rw [hsession]

end Command

end WireSql
