import WireSql.Proofs.Connection.Gate
import WireSql.Proofs.Connection.StoredText

/-!
# `WireSql.Proofs.Connection.CurrentDatabase`: is the database of a session there?

Four things decide which database a session has. `COM_INIT_DB` and `USE` look the name up before the
session takes it over, and behind a statement without a result set the session forgets a database that is
no longer there. A login takes the name over as it comes.

`Command.Rectifies` lists the commands that look the database up with success; behind one of them it is there
(`sound_of_rectifies`), and every other command leaves the session's database and the catalog as they are
(`keeps_of_not_rectifies`). Main statement: `database_missing_iff`. On every run of a connection that has the
store to itself, the session's database is missing exactly where a login has named one that is not there and
no frame behind it has put that right.
-/

namespace WireSql

open Introspection (clean)

/-! ## Statements without a result set -/

/-- A statement that may change the catalog has no result set. -/
theorem Catalog.columns_of_isMutation {statement : Statement} (hmutates : statement.isMutation = true)
    (c : Catalog) (database : Option String) :
    Yields (c.run statement database) fun v => v.1.columns = [] := by
  have haffecting (change : Except StatementError (Nat × Catalog)) :
      Yields (affecting change) fun v => v.1.columns = [] := by
    unfold affecting
    exact yields_map fun _ _ => rfl
  cases statement with
  | use name => cases hmutates
  | showTables => cases hmutates
  | select table projection filter limit => cases hmutates
  | createDatabase name ifNotExists => exact haffecting _
  | dropDatabase name ifExists => exact haffecting _
  | createTable table ifNotExists columns primaryKey =>
    exact yields_bind fun _ _ => yields_bind fun _ _ => haffecting _
  | dropTable table ifExists => exact yields_bind fun _ _ => haffecting _
  | insert table columns rows => exact yields_bind fun _ _ => haffecting _
  | update table assignments filter => exact yields_bind fun _ _ => haffecting _
  | delete table filter => exact yields_bind fun _ _ => haffecting _

/-- A text with a result set leaves the store. -/
theorem Store.execute_of_columns {s s' : Store} {sql : String} {database : Option String}
    {result : ResultSet} (h : s.execute sql database = .ok (result, s')) (hcolumns : result.columns ≠ []) :
    s' = s := by
  have hruns : Yields (s.execute sql database) fun v => v.1.columns ≠ [] → v.2 = s := by
    refine yields_bind fun statement _ => yields_bind fun v hv => yields_pure fun hcolumns => ?_
    cases hmutates : statement.isMutation with
    | true => exact absurd (Catalog.columns_of_isMutation hmutates _ _ v hv) hcolumns
    | false =>
      obtain ⟨result, catalog⟩ := v
      obtain rfl : catalog = s.catalog := InPlace.run_of_not_isMutation hmutates hv
      rfl
  exact hruns (result, s') h hcolumns

/-! ## Commands -/

namespace Command

variable {s : Session} {store : Store} {name : List Char} {packet : Wire.OkPacket} {sql : String}
  {payload : Bytes}

/-- **A statement that puts the session's database right**, under the database that the session has. -/
inductive TextRectifies (store : Store) (database : Option String) (sql : String) : Prop where
  /-- The session switches to a database that is there. -/
  | use {name : List Char} (huse : useStatement? sql = some name)
      (hthere : store.catalog.hasDatabase (String.ofList (bareName name)) = true)
  /-- The store runs the statement, it succeeds and has no result set; so the session forgets its database if
  that is not there now. -/
  | runs {result : ResultSet} {store' : Store} (hnonempty : sql ≠ "") (huse : useStatement? sql = none)
      (hanswer : Introspection.answer ⟨database, store.catalog.databaseNames⟩ sql = .ok none)
      (hrun : store.execute sql database = .ok (result, store')) (hcommand : result.columns = [])

/-- **A command that puts the session's database right.** -/
inductive Rectifies (store : Store) (database : Option String) : Bytes → Prop where
  /-- The session switches to a database that is there. -/
  | initDb {body : Bytes}
      (hthere : store.catalog.hasDatabase (String.ofList (bareName (Text.decode body).toList)) = true) :
      Rectifies store database (0x02 :: body)
  /-- A statement puts it right. -/
  | query {body : Bytes} (h : TextRectifies store database (clean (Text.decode body))) :
      Rectifies store database (0x03 :: body)

/-- The session's database, if it has one, is there. -/
def Outcome.Sound (o : Outcome Store) : Prop :=
  ∀ name, o.session.database = some name → o.state.catalog.hasDatabase name = true

/-- The session's database and the catalog are what they were. -/
def Outcome.Keeps (s : Session) (store : Store) (o : Outcome Store) : Prop :=
  o.session.database = s.database ∧ o.state.catalog = store.catalog

theorem selectDatabase_store (store : Store) (name : String) : Store.backend.selectDatabase store name =
    if store.catalog.hasDatabase name then .ok () else .error (.unknownDatabase name) := rfl

theorem switchAndReport_sound (h : store.catalog.hasDatabase (String.ofList (bareName name)) = true) :
    (switchAndReport Store.backend s store name packet).Sound := by
  unfold switchAndReport switch
  dsimp only
  rw [selectDatabase_store, if_pos h]
  rintro other ⟨⟩
  exact h

theorem switchAndReport_keeps (h : ¬ store.catalog.hasDatabase (String.ofList (bareName name)) = true) :
    (switchAndReport Store.backend s store name packet).Keeps s store := by
  unfold switchAndReport switch
  dsimp only
  rw [selectDatabase_store, if_neg h]
  exact ⟨rfl, rfl⟩

/-- A session that has forgotten what is missing has a database that is there. -/
theorem hasDatabase_of_forgetMissing {database : String}
    (h : (forgetMissing Store.backend store s).database = some database) :
    store.catalog.hasDatabase database = true := by
  unfold forgetMissing at h
  cases hname : s.database with
  | none =>
    rw [hname] at h
    dsimp only at h
    rw [hname] at h
    cases h
  | some name =>
    rw [hname] at h
    dsimp only at h
    rw [selectDatabase_store] at h
    by_cases hthere : store.catalog.hasDatabase name = true
    · rw [if_pos hthere] at h
      obtain rfl : name = database := Option.some.inj (hname.symm.trans h)
      exact hthere
    · rw [if_neg hthere] at h
      cases h

theorem query_eq_forward (hnonempty : sql ≠ "") (huse : useStatement? sql = none)
    (hanswer : Introspection.answer ⟨s.database, store.catalog.databaseNames⟩ sql = .ok none) :
    query Store.backend s store sql = forward Store.backend s store sql := by
  have hsome : ¬ sql.isEmpty = true := fun hempty => hnonempty (String.isEmpty_iff.1 hempty)
  have hview : Introspection.answer ⟨s.database, Store.backend.databases store⟩ sql = .ok none := hanswer
  rw [query, if_neg hsome, huse, hview]

/-- The word `USE` is not in the empty text. -/
theorem nonempty_of_useStatement? (h : useStatement? sql = some name) : ¬ sql.isEmpty = true := by
  intro hempty
  have hnone : useStatement? "" = none := by decide
  rw [String.isEmpty_iff.1 hempty, hnone] at h
  cases h

theorem query_sound (h : TextRectifies store s.database sql) :
    (query Store.backend s store sql).Sound := by
  cases h with
  | use huse hthere =>
    rw [query, if_neg (nonempty_of_useStatement? huse), huse]
    exact switchAndReport_sound hthere
  | runs hnonempty huse hanswer hrun hcommand =>
    rw [query_eq_forward hnonempty huse hanswer, forward_store, hrun]
    dsimp only
    rw [ResultSet.isCommand, hcommand]
    exact fun name hname => hasDatabase_of_forgetMissing hname

theorem query_keeps (h : ¬ TextRectifies store s.database sql) :
    (query Store.backend s store sql).Keeps s store := by
  unfold query
  split
  · exact ⟨rfl, rfl⟩
  · next hnonempty =>
    split
    · next name huse => exact switchAndReport_keeps fun hthere => h (.use huse hthere)
    · next huse =>
      split
      · exact ⟨rfl, rfl⟩
      · exact ⟨rfl, rfl⟩
      · next hanswer =>
        rw [forward_store]
        cases hrun : store.execute sql s.database with
        | error e => exact ⟨rfl, rfl⟩
        | ok v =>
          obtain ⟨result, store'⟩ := v
          have hcolumns : result.columns ≠ [] := fun hcommand =>
            h (.runs (fun hempty => hnonempty (String.isEmpty_iff.2 hempty)) huse hanswer hrun hcommand)
          obtain rfl := Store.execute_of_columns hrun hcolumns
          have hcommand : result.isCommand = false := List.isEmpty_eq_false_iff.mpr hcolumns
          dsimp only
          rw [hcommand]
          exact ⟨rfl, rfl⟩

theorem dispatch_initDb (body : Bytes) : dispatch Store.backend s store (0x02 :: body) =
    switchAndReport Store.backend s store (Text.decode body).toList (.withInfo "Database changed") := rfl

theorem dispatch_query (body : Bytes) : dispatch Store.backend s store (0x03 :: body) =
    query Store.backend s store (clean (Text.decode body)) := rfl

/-- **Behind a command that puts it right, the session's database is there.** -/
theorem sound_of_rectifies (h : Rectifies store s.database payload) :
    (dispatch Store.backend s store payload).Sound := by
  cases h with
  | initDb hthere =>
    rw [dispatch_initDb]
    exact switchAndReport_sound hthere
  | query h =>
    rw [dispatch_query]
    exact query_sound h

/-- **Every other command leaves the session's database and the catalog.** -/
theorem keeps_of_not_rectifies (h : ¬ Rectifies store s.database payload) :
    (dispatch Store.backend s store payload).Keeps s store := by
  cases payload with
  | nil => exact ⟨rfl, rfl⟩
  | cons code body =>
    have hparse : Wire.Packet.parse (code :: body) .command = .ok (.command ⟨code, body⟩) := rfl
    cases hcommand : Wire.Command.ofCode? code with
    | none =>
      unfold dispatch
      rw [hparse]
      dsimp only
      rw [hcommand]
      exact ⟨rfl, rfl⟩
    | some command =>
      obtain rfl := Wire.Command.eq_code_of_ofCode? hcommand
      cases command with
      | quit => exact ⟨rfl, rfl⟩
      | initDb => exact switchAndReport_keeps fun hthere => h (.initDb hthere)
      | query =>
        rw [Wire.Command.code, dispatch_query]
        exact query_keeps fun hquery => h (.query hquery)
      | ping => exact ⟨rfl, rfl⟩

end Command

/-! ## Logins -/

/-- **A login that names a database** and is let in. -/
inductive Login.Names (config : ServerConfig) (challenge : Wire.Challenge) (payload : Bytes) :
    String → Prop where
  /-- The payload is an answer that proves the password and names the database. -/
  | full (r : Wire.HandshakeResponse) (plugin : AuthPlugin) {name : String}
      (hparse : Wire.ClientHandshake.parse payload = .ok (.full r))
      (hplugin : AuthPlugin.ofName? (r.authPlugin.getD "mysql_native_password") = some plugin)
      (hverify : plugin.verify config.password challenge.bytes r.authResponse = true)
      (hname : r.database = some name) : Names config challenge payload name

namespace Login

variable {config : ServerConfig} {challenge : Wire.Challenge} {payload : Bytes} {name : String}

theorem Names.admits (h : Names config challenge payload name) :
    ∃ capabilities, Admits config challenge payload capabilities := by
  cases h with
  | full r plugin hparse hplugin hverify hname => exact ⟨_, .full r plugin hparse hplugin hverify⟩

/-- A login that succeeds gives the session the database that it names, and no other. -/
theorem database_of_authenticate {s s' : Session} {h : Wire.ClientHandshake}
    (hparse : Wire.ClientHandshake.parse payload = .ok h) (ha : authenticate config s h = .ok s') :
    s'.database = some name ↔ Names config s.challenge payload name := by
  cases h with
  | short =>
    obtain rfl := Except.ok.inj ha
    constructor
    · rintro ⟨⟩
    · rintro ⟨r, plugin, hparse', -, -, -⟩
      rw [hparse] at hparse'
      cases hparse'
  | full r =>
    simp only [authenticate, authenticateFull] at ha
    split at ha
    · cases ha
    · next plugin hplugin =>
      split at ha
      · next hverify =>
        obtain rfl := Except.ok.inj ha
        constructor
        · exact fun hname => .full r plugin hparse hplugin hverify hname
        · rintro ⟨r', plugin', hparse', -, -, hname⟩
          rw [hparse] at hparse'
          cases hparse'
          exact hname
      · cases ha

end Login

namespace Connection

variable {p : Connection × Store} {frame : Wire.Frame} {frames : List Wire.Frame} {name : String}

/-- The session has this database, and the catalog has not. -/
def Misses (p : Connection × Store) (name : String) : Prop :=
  p.1.session.database = some name ∧ p.2.catalog.hasDatabase name = false

/-- The frame is a command that puts the session's database right. -/
def Rectifies (p : Connection × Store) (frame : Wire.Frame) : Prop :=
  p.1.session.phase = .authenticated ∧ Command.Rectifies p.2 p.1.session.database frame.payload

/-- No frame puts the session's database right. -/
def NeverRectifies (p : Connection × Store) (frames : List Wire.Frame) : Prop :=
  ∀ earlier frame later, frames = earlier ++ frame :: later →
    ¬ Rectifies (run Store.backend p earlier) frame

/-! ### One frame -/

theorem settle_database (s : Session) (step : Step) : (settle s step).database = s.database := by
  obtain ⟨sequence, h⟩ := settle_eq s step
  rw [h]
  split <;> rfl

/-- Behind a command the session has the database that the command leaves it, over the store that the command
leaves. -/
theorem next_of_authenticated (h : p.1.session.phase = .authenticated) (frame : Wire.Frame) :
    let outcome := Command.dispatch Store.backend { p.1.session with sequence := frame.sequence } p.2
      frame.payload
    (next Store.backend p frame).1.session.database = outcome.session.database ∧
      (next Store.backend p frame).2 = outcome.state := by
  intro outcome
  rw [next, onFrame_of_authenticated h]
  dsimp only
  split
  · exact ⟨settle_database _ _, rfl⟩
  · exact ⟨settle_database _ _, rfl⟩
  · exact ⟨rfl, rfl⟩

/-- **A frame behind the login leaves a database missing that was so before, unless it puts that right.** -/
theorem misses_next_iff (hp : p.1.session.phase ≠ .awaitingAuth) :
    Misses (next Store.backend p frame) name ↔ Misses p name ∧ ¬ Rectifies p frame := by
  cases hphase : p.1.session.phase with
  | awaitingAuth => exact absurd hphase hp
  | closed =>
    have hnot : ¬ Rectifies p frame := fun h => Phase.noConfusion (hphase.symm.trans h.1)
    have hnext : Misses (next Store.backend p frame) name ↔ Misses p name := by
      rw [next, onFrame_of_closed hphase]
      rfl
    exact ⟨fun h => ⟨hnext.1 h, hnot⟩, fun h => hnext.2 h.1⟩
  | authenticated =>
    obtain ⟨hdatabase, hstore⟩ := next_of_authenticated hphase frame
    by_cases hright : Command.Rectifies p.2 p.1.session.database frame.payload
    · have hsound := Command.sound_of_rectifies (s := { p.1.session with sequence := frame.sequence }) hright
      constructor
      · rintro ⟨hname, hmissing⟩
        rw [hdatabase] at hname
        rw [hstore, hsound name hname] at hmissing
        cases hmissing
      · rintro ⟨-, hnot⟩
        exact absurd ⟨hphase, hright⟩ hnot
    · obtain ⟨hkept, hcatalog⟩ := Command.keeps_of_not_rectifies
        (s := { p.1.session with sequence := frame.sequence }) hright
      rw [Misses, hdatabase, hstore, hkept, hcatalog]
      exact ⟨fun h => ⟨h, fun hr => hright hr.2⟩, fun h => h.1⟩

/-! ### Any number of frames -/

theorem neverRectifies_cons : NeverRectifies p (frame :: frames) ↔
    ¬ Rectifies p frame ∧ NeverRectifies (next Store.backend p frame) frames := by
  constructor
  · intro h
    exact ⟨h [] frame frames rfl, fun earlier f later hsplit =>
      h (frame :: earlier) f later (congrArg (frame :: ·) hsplit)⟩
  · rintro ⟨hfirst, hrest⟩ earlier f later hsplit
    cases earlier with
    | nil =>
      obtain ⟨rfl, rfl⟩ := List.cons.inj hsplit
      exact hfirst
    | cons first earlier =>
      obtain ⟨rfl, hrest'⟩ := List.cons.inj hsplit
      exact hrest earlier f later hrest'

/-- **Behind the login a database is missing in the end exactly if it was missing in the beginning and no
frame has put that right.** -/
theorem misses_run_iff (hp : p.1.session.phase ≠ .awaitingAuth) (frames : List Wire.Frame) :
    Misses (run Store.backend p frames) name ↔ Misses p name ∧ NeverRectifies p frames := by
  induction frames generalizing p with
  | nil =>
    have hnever : NeverRectifies p [] := fun earlier frame later h => by simp at h
    exact ⟨fun h => ⟨h, hnever⟩, fun h => h.1⟩
  | cons frame frames ih =>
    have hnext : (next Store.backend p frame).1.session.phase ≠ .awaitingAuth := fun h =>
      hp (awaiting_of_moves (onFrame_moves Store.backend p.1 p.2 frame).2 h)
    have hrun : run Store.backend p (frame :: frames) =
        run Store.backend (next Store.backend p frame) frames := rfl
    rw [hrun, ih hnext, misses_next_iff hp, neverRectifies_cons, and_assoc]

/-! ### The login -/

/-- A session without a database misses one behind a frame exactly if that is a login that names it. -/
theorem misses_login_iff (hp : p.1.session.phase = .awaitingAuth) (hnone : p.1.session.database = none) :
    Misses (next Store.backend p frame) name ↔
      Login.Names p.1.config p.1.session.challenge frame.payload name ∧
        p.2.catalog.hasDatabase name = false := by
  rw [Misses, next, onFrame_of_awaitingAuth hp]
  cases hh : onHandshake p.1.config { p.1.session with sequence := frame.sequence } frame.payload with
  | ok v =>
    obtain ⟨step, s'⟩ := v
    rw [onHandshake_eq] at hh
    split at hh
    · cases hh
    · next h hparse =>
      split at hh
      · cases hh
      · next s₁ hauth =>
        obtain ⟨rfl, rfl⟩ := Prod.mk.inj (Except.ok.inj hh)
        dsimp only
        rw [settle_database, Login.database_of_authenticate hparse hauth]
  | error e =>
    have hno := (onHandshake_error hh).2
    dsimp only
    rw [settle_database, hnone]
    constructor
    · rintro ⟨⟨⟩, -⟩
    · rintro ⟨hnames, -⟩
      obtain ⟨capabilities, hadmits⟩ := hnames.admits
      exact absurd hadmits (hno capabilities)

/-- A session that waits for a login has no database. -/
theorem database_of_awaiting (hnone : p.1.session.database = none) (frames : List Wire.Frame)
    (h : (run Store.backend p frames).1.session.phase = .awaitingAuth) :
    (run Store.backend p frames).1.session.database = none := by
  refine (run_induction (motive := fun s => s.phase = .awaitingAuth → s.database = none)
    (fun payload s s' hmoves hs hphase => ?_) (fun _ => hnone) frames).2 h
  cases hmoves with
  | refused hp hno sequence => exact hs hp
  | letIn hp hadmits sequence username database => cases hphase
  | goesOn hp sequence database => exact absurd (hp.symm.trans hphase) Phase.noConfusion
  | ends hp sequence database => cases hphase
  | stays hp sequence => exact absurd (hp.symm.trans hphase) Phase.noConfusion

/-- A session that waited for a login and does so no more has been let in by one of the frames. -/
theorem exists_login (hp : p.1.session.phase = .awaitingAuth)
    (h : (run Store.backend p frames).1.session.phase ≠ .awaitingAuth) :
    ∃ before login later, frames = before ++ login :: later ∧
      (run Store.backend p before).1.session.phase = .awaitingAuth ∧
      (run Store.backend p (before ++ [login])).1.session.phase ≠ .awaitingAuth := by
  induction frames generalizing p with
  | nil => exact absurd hp h
  | cons frame frames ih =>
    by_cases hnext : (next Store.backend p frame).1.session.phase = .awaitingAuth
    · obtain ⟨before, login, later, rfl, hbefore, hlogin⟩ := ih hnext h
      exact ⟨frame :: before, login, later, rfl, hbefore, hlogin⟩
    · exact ⟨[], frame, frames, rfl, hp, hnext⟩

/-! ### The whole run -/

variable (config : ServerConfig) (connectionId : UInt32) (challenge : Wire.Challenge) (store : Store)

/-- The first frame behind which a session misses a database is a login that names it. -/
theorem misses_reached_login_iff {before : List Wire.Frame} {login : Wire.Frame}
    (hwaits : (reached Store.backend config connectionId challenge store before).1.session.phase =
      .awaitingAuth) :
    Misses (reached Store.backend config connectionId challenge store (before ++ [login])) name ↔
      Login.Names config challenge login.payload name ∧ store.catalog.hasDatabase name = false := by
  have hconfig := config_reached Store.backend config connectionId challenge store before
  have hchallenge := (identity_reached Store.backend config connectionId challenge store before).2
  have hstore : (reached Store.backend config connectionId challenge store before).2 = store :=
    congrArg Prod.snd (run_of_awaiting before hwaits Store.backend store)
  have hnone : (reached Store.backend config connectionId challenge store before).1.session.database = none :=
    database_of_awaiting rfl before hwaits
  have hnext : reached Store.backend config connectionId challenge store (before ++ [login]) =
      next Store.backend (reached Store.backend config connectionId challenge store before) login :=
    run_concat before login
  rw [hnext, misses_login_iff hwaits hnone, hconfig, hchallenge, hstore]

theorem open_of_misses {frames : List Wire.Frame}
    (h : Misses (reached Store.backend config connectionId challenge store frames) name) :
    (reached Store.backend config connectionId challenge store frames).1.session.phase ≠ .awaitingAuth := by
  intro hwaits
  have hnone := database_of_awaiting rfl frames hwaits
  have hboth := hnone.symm.trans h.1
  cases hboth

/-- **When the database of a session is missing.** After any frames, over any store, the session's database
is one that the catalog has not exactly if the login that let the client in has named it, although it was
not there, and no frame since then has put that right. -/
theorem database_missing_iff (frames : List Wire.Frame) (name : String) :
    Misses (reached Store.backend config connectionId challenge store frames) name ↔
      ∃ before login later, frames = before ++ login :: later ∧
        (reached Store.backend config connectionId challenge store before).1.session.phase =
          .awaitingAuth ∧
        Login.Names config challenge login.payload name ∧ store.catalog.hasDatabase name = false ∧
        NeverRectifies (reached Store.backend config connectionId challenge store (before ++ [login]))
          later := by
  -- what comes behind a login starts from where the login has led
  have hlater (before : List Wire.Frame) (login : Wire.Frame) (later : List Wire.Frame) :
      reached Store.backend config connectionId challenge store (before ++ login :: later) =
        run Store.backend
          (reached Store.backend config connectionId challenge store (before ++ [login])) later := by
    rw [List.append_cons]
    exact run_append (before ++ [login]) later
  constructor
  · intro hmisses
    have hopen := open_of_misses config connectionId challenge store hmisses
    obtain ⟨before, login, later, rfl, hwaits, hlogin⟩ := exists_login rfl hopen
    rw [hlater] at hmisses
    obtain ⟨hmissed, hnever⟩ := (misses_run_iff hlogin later).1 hmisses
    obtain ⟨hnames, hlacks⟩ :=
      (misses_reached_login_iff config connectionId challenge store hwaits).1 hmissed
    exact ⟨before, login, later, rfl, hwaits, hnames, hlacks, hnever⟩
  · rintro ⟨before, login, later, rfl, hwaits, hnames, hlacks, hnever⟩
    have hmissed :=
      (misses_reached_login_iff config connectionId challenge store hwaits).2 ⟨hnames, hlacks⟩
    have hlogin := open_of_misses config connectionId challenge store hmissed
    rw [hlater]
    exact (misses_run_iff hlogin later).2 ⟨hmissed, hnever⟩

/-- A client that is let in with a database that is not there has it from then on. -/
theorem database_missing_behind_login :
    let answer : Wire.HandshakeResponse :=
      { capabilities := Wire.Capability.secureConnection ||| Wire.Capability.connectWithDatabase,
        maxPacketSize := 0x1000000, charset := 33, username := "root", authResponse := [],
        database := some "nope", authPlugin := none }
    let behind := reached Store.backend { password := "" } 1 (.ofBytes []) {} [answer.toFrame 1]
    behind.1.session.phase = .authenticated ∧ behind.1.session.database = some "nope" ∧
      behind.2.catalog.hasDatabase "nope" = false := by
  decide +kernel

end Connection

end WireSql
