import WireSql.Proofs.Connection.CommandEffects
import WireSql.Proofs.Sql.Uses

/-!
# `WireSql.Proofs.Connection.UseStatements`: two readers of `USE`

A session switches to a database where the connection recognises `USE`, which it does by four ASCII characters.
What it does not recognise goes to the store, whose parser knows `USE` as well. The store has no session to
switch: it looks the database up and reports success. So the two have to agree on every text.

They do not. The parser matches letters under case folding, which takes the long s for an `s`, and it cuts
semicolons off at the end of the text once more than cleaning has done.

Main statement: `acknowledged_unswitched_iff`. Of the statements that the parser reads as `USE` of a name, it
says which are acknowledged without the session having that database behind them.
-/

namespace WireSql

open Text Sql
open Introspection (clean cleanChars)

namespace Command

variable {s : Session} {store : Store} {name sql : String} {body : Bytes}

/-- **The command is answered with nothing but a report of success.** -/
def Acknowledges {σ : Type} (s : Session) (o : Outcome σ) : Prop :=
  o.reply = .ok (.frames [({} : Wire.OkPacket).toFrame s.nextSequence])

instance {σ : Type} (s : Session) (o : Outcome σ) : Decidable (Acknowledges s o) :=
  inferInstanceAs (Decidable (o.reply = _))

/-! ## Names -/

theorem count_dropWhile {p : Char → Bool} {c : Char} (hc : p c = false) (text : List Char) :
    (text.dropWhile p).count c = text.count c := by
  have hnone : (text.takeWhile p).count c = 0 := by
    rw [List.count_eq_zero]
    intro hmem
    rw [List.mem_takeWhile_imp hmem] at hc
    cases hc
  have hsplit := congrArg (List.count c) (List.takeWhile_append_dropWhile (p := p) (l := text))
  rw [List.count_append, hnone, Nat.zero_add] at hsplit
  exact hsplit

theorem count_dropAroundWhile {p : Char → Bool} {c : Char} (hc : p c = false) (text : List Char) :
    (dropAroundWhile p text).count c = text.count c := by
  rw [dropAroundWhile, dropEndWhile, List.count_reverse, count_dropWhile hc, List.count_reverse,
    count_dropWhile hc]

/-- A name keeps all the semicolons of the text that it is taken from. -/
theorem count_bareName (text : List Char) : (bareName text).count ';' = text.count ';' := by
  rw [bareName, count_dropAroundWhile (by decide), trim, count_dropAroundWhile (by decide)]

/-- A name is bare already where the word that it is taken from holds no blank. -/
theorem bareName_bareName {word : List Char} (hword : ∀ c ∈ word, isBlank c = false) :
    bareName (bareName word) = bareName word := by
  have hinner : bareName word = dropAroundWhile (· == backtick) word := by
    rw [bareName, trim_of_forall hword]
  have hblank : ∀ c ∈ bareName word, isBlank c = false := by
    intro c hc
    rw [hinner] at hc
    have hwithin : dropAroundWhile (· == backtick) word <:+: word :=
      (infix_dropEndWhile _ _).trans (List.dropWhile_suffix _).isInfix
    exact hword c (hwithin.subset hc)
  rw [bareName, trim_of_forall hblank, hinner, dropAroundWhile_idempotent]

/-! ## What the connection recognises -/

/-- The connection knows the two forms of each letter in ASCII and no other. -/
theorem useStatement?_of_letters {u l e : Char} {rest : List Char} (hsql : sql.toList = u :: l :: e :: ' ' :: rest)
    (hu : fold u = 'u') (hl : fold l = 's') (he : fold e = 'e') :
    useStatement? sql = if l = longS then none else some (bareName rest) := by
  have hfold : fold longS = 's' := by decide
  have hlead : "USE ".toList = ['U', 'S', 'E', ' '] := by decide
  have hother : ∀ {c d : Char}, fold c = d → d ≠ 's' → c ≠ longS := by
    rintro c d hc hd rfl
    exact hd (hc.symm.trans hfold)
  have hupperU : u.toUpper = 'U' := toUpper_of_fold (by decide) hu (hother hu (by decide))
  have hupperE : e.toUpper = 'E' := toUpper_of_fold (by decide) he (hother he (by decide))
  rw [useStatement?, hsql, afterIgnoringCase?, hlead]
  by_cases hlong : l = longS
  · have hapart : ('S'.toUpper == l.toUpper) = false := by rw [hlong]; decide
    rw [if_pos hlong]
    simp only [afterIgnoringCase?.go, hupperU, hapart]
    rfl
  · have hupperL : l.toUpper = 'S' := toUpper_of_fold (by decide) hl hlong
    rw [if_neg hlong]
    simp only [afterIgnoringCase?.go, hupperU, hupperL, hupperE]
    rfl

/-- What begins with the letter `u` is no question about the server. -/
theorem answer_of_u {view : Introspection.View} {u : Char} {rest : List Char} (hsql : sql.toList = u :: rest)
    (hu : u.toUpper = 'U') : Introspection.answer view sql = .ok none := by
  have hstarts : startsIgnoringCase "U" sql.toList = true := by
    have hlead : "U".toList = ['U'] := by decide
    rw [hsql, startsIgnoringCase, afterIgnoringCase?, hlead]
    simp only [afterIgnoringCase?.go, hu]
    rfl
  exact Introspection.answer_of_word view hstarts (by decide)

/-! ## What the store makes of it -/

/-- The store looks the database up, and nothing else. -/
theorem run_use (c : Catalog) (name : String) (database : Option String) :
    c.run (.use name) database =
      if c.hasDatabase name = true then .ok (.affected 0, c) else .error (.unknownDatabase name) := by
  have hrun : c.run (.use name) database = c.database name >>= fun _ => pure (.affected 0, c) := rfl
  rw [hrun, Catalog.database, Catalog.hasDatabase, NameMap.contains]
  cases c.databases.find? name with
  | some d =>
    rw [if_pos Option.isSome_some]
    rfl
  | none =>
    rw [if_neg (by simp)]
    rfl

theorem execute_use (hparse : Statement.parse sql = .ok (.use name)) (database : Option String) :
    store.execute sql database =
      if store.catalog.hasDatabase name = true then .ok (.affected 0, store)
      else .error (.unknownDatabase name) := by
  unfold Store.execute
  rw [hparse]
  show (store.catalog.run (.use name) database >>= _) = _
  rw [run_use]
  by_cases hthere : store.catalog.hasDatabase name = true
  · rw [if_pos hthere, if_pos hthere]
    rfl
  · rw [if_neg hthere, if_neg hthere]
    rfl

/-- Behind a statement that removes nothing, a session has a database that is there exactly if it had it. -/
theorem forgetMissing_eq_some_iff (hthere : store.catalog.hasDatabase name = true) :
    (forgetMissing Store.backend store s).database = some name ↔ s.database = some name := by
  by_cases hall : ∀ other, s.database = some other → store.catalog.hasDatabase other = true
  · rw [forgetMissing_of_there hall]
  · push Not at hall
    obtain ⟨other, hother, hmissing⟩ := hall
    have hmissing : store.catalog.hasDatabase other = false := Bool.eq_false_iff.2 hmissing
    have hnone := forgetMissing_of_missing hother hmissing
    constructor
    · intro h
      exact absurd (hnone.symm.trans h) nofun
    · intro h
      obtain rfl : other = name := Option.some.inj (hother.symm.trans h)
      exact absurd (hthere.symm.trans hmissing) nofun

/-- The store acknowledges what it finds, whatever database the session has. -/
theorem forward_use (hparse : Statement.parse sql = .ok (.use name)) :
    (Acknowledges s (forward Store.backend s store sql) ∧
        (forward Store.backend s store sql).session.database ≠ some name) ↔
      store.catalog.hasDatabase name = true ∧ s.database ≠ some name := by
  rw [forward_store, execute_use hparse]
  by_cases hthere : store.catalog.hasDatabase name = true
  · rw [if_pos hthere]
    have hreply : Acknowledges s (⟨.ok (report s (.affected 0)), forgetMissing Store.backend store s, store⟩ :
        Outcome Store) := rfl
    show Acknowledges s (⟨.ok (report s (.affected 0)), forgetMissing Store.backend store s, store⟩ :
      Outcome Store) ∧ (forgetMissing Store.backend store s).database ≠ some name ↔ _
    rw [ne_eq, forgetMissing_eq_some_iff hthere]
    exact ⟨fun h => ⟨hthere, h.2⟩, fun h => ⟨hreply, h.2⟩⟩
  · rw [if_neg hthere]
    exact iff_of_false (fun h => absurd h.1 nofun) fun h => hthere h.1

/-- The connection acknowledges a database by switching to it. -/
theorem switchAndReport_use {text : List Char} :
    (Acknowledges s (switchAndReport Store.backend s store text {}) ∧
        (switchAndReport Store.backend s store text {}).session.database ≠ some name) ↔
      store.catalog.hasDatabase (String.ofList (bareName text)) = true ∧
        String.ofList (bareName text) ≠ name := by
  unfold switchAndReport switch
  dsimp only
  rw [selectDatabase_store]
  by_cases hthere : store.catalog.hasDatabase (String.ofList (bareName text)) = true
  · rw [if_pos hthere]
    have hdatabase : some (String.ofList (bareName text)) ≠ some name ↔
        String.ofList (bareName text) ≠ name := by
      rw [ne_eq, Option.some.injEq]
    exact ⟨fun h => ⟨hthere, hdatabase.1 h.2⟩, fun h => ⟨rfl, hdatabase.2 h.2⟩⟩
  · rw [if_neg hthere]
    exact iff_of_false (fun h => absurd h.1 nofun) fun h => hthere h.1

/-! ## Where the two agree -/

/-- The connection reads the name that the parser reads, unless the parser has cut something off. -/
theorem bareName_eq_iff {rest word cut : List Char} (hrest : skipBlanks rest = word ++ cut)
    (hword : ∀ c ∈ word, isBlank c = false) (hcut : ';' ∈ cut ∨ cut = []) :
    String.ofList (bareName (bareName rest)) = identifier word ↔ cut = [] := by
  have hidentifier : identifier word = String.ofList (bareName word) := rfl
  rw [hidentifier, String.ofList_inj]
  constructor
  · intro h
    -- a name keeps every semicolon, and what is cut off has one
    have hcount := congrArg (List.count ';') h
    have hskip : (skipBlanks rest).count ';' = rest.count ';' := count_dropWhile (by decide) rest
    rw [count_bareName, count_bareName, count_bareName, ← hskip, hrest, List.count_append,
      Nat.add_eq_left, List.count_eq_zero] at hcount
    exact hcut.resolve_left hcount
  · rintro rfl
    rw [List.append_nil] at hrest
    have htrim : trim rest = word := by
      have hend : trim rest = dropEndWhile isBlank word := congrArg (dropEndWhile isBlank) hrest
      rw [hend, dropEndWhile_eq_rdropWhile, List.rdropWhile_eq_self_iff]
      exact fun hne => by simp [hword _ (List.getLast_mem hne)]
    have hbare : bareName rest = bareName word := by
      rw [bareName, htrim, bareName, trim_of_forall hword]
    rw [hbare, bareName_bareName hword]

/-- A statement that the connection recognises is acknowledged where the name is there, and the session has it
then. -/
theorem query_of_useStatement? {text : List Char} (huse : useStatement? sql = some text) :
    (Acknowledges s (query Store.backend s store sql) ∧
        (query Store.backend s store sql).session.database ≠ some name) ↔
      store.catalog.hasDatabase (String.ofList (bareName text)) = true ∧
        String.ofList (bareName text) ≠ name := by
  rw [query, if_neg (nonempty_of_useStatement? huse), huse]
  exact switchAndReport_use

/-- A statement in the long s is left to the store. -/
theorem query_of_longS {u e : Char} {rest : List Char} (hsql : sql.toList = u :: longS :: e :: ' ' :: rest)
    (hu : fold u = 'u') (he : fold e = 'e') (hparse : Statement.parse sql = .ok (.use name)) :
    (Acknowledges s (query Store.backend s store sql) ∧
        (query Store.backend s store sql).session.database ≠ some name) ↔
      store.catalog.hasDatabase name = true ∧ s.database ≠ some name := by
  have huse : useStatement? sql = none := by
    rw [useStatement?_of_letters hsql hu (by decide) he, if_pos rfl]
  have hupper : u.toUpper = 'U' := by
    refine toUpper_of_fold (by decide) hu ?_
    rintro rfl
    exact absurd hu (by decide)
  have hsome : sql ≠ "" := by
    rintro rfl
    cases hsql
  rw [query_eq_forward hsome huse (answer_of_u hsql hupper)]
  exact forward_use hparse

/-- **Which `USE` statements are acknowledged without a switch.** Those that are spelled with the long s go
to the store, and leave a session that has the database already with it. Of the others, those that have a
semicolon at their end after cleaning switch the session to the database whose name has that semicolon. -/
theorem acknowledged_unswitched_iff (s : Session) (store : Store)
    (hparse : Statement.parse (clean (decode body)) = .ok (.use name)) :
    (Acknowledges s (dispatch Store.backend s store (0x03 :: body)) ∧
        (dispatch Store.backend s store (0x03 :: body)).session.database ≠ some name) ↔
      if (clean (decode body)).toList[1]? = some longS then
        store.catalog.hasDatabase name = true ∧ s.database ≠ some name
      else (clean (decode body)).toList.getLast? = some ';' ∧
        ∃ other, AsksFor (0x03 :: body) other ∧ store.catalog.hasDatabase other = true := by
  have htoList : (clean (decode body)).toList = cleanChars (decode body).toList := String.toList_ofList
  have htrim : trim (clean (decode body)).toList = (clean (decode body)).toList := by
    rw [htoList]
    exact Introspection.trim_cleanChars _
  have hspace : ∀ c ∈ (clean (decode body)).toList, isBlank c = true → c = ' ' := by
    intro c hc
    rw [htoList] at hc
    exact Introspection.eq_space_of_mem_cleanChars hc
  have hread : ReadsAsUse name (clean (decode body)).toList := readsAsUse_of_parse htrim hparse
  rw [dispatch_query]
  generalize htext : (clean (decode body)).toList = text at hread hspace
  cases hread with
  | @intro u l e blank rest word cut hu hl he hblank hrest hnonempty hword hname hcut =>
    obtain rfl : blank = ' ' := hspace blank (by simp) hblank
    have hsecond : (u :: l :: e :: ' ' :: rest)[1]? = some longS ↔ l = longS := Option.some_inj
    by_cases hlong : l = longS
    · rw [if_pos (hsecond.2 hlong)]
      exact query_of_longS (hlong ▸ htext) hu he hparse
    · rw [if_neg (mt hsecond.1 hlong)]
      have huse : useStatement? (clean (decode body)) = some (bareName rest) := by
        rw [useStatement?_of_letters htext hu hl he, if_neg hlong]
      have hasks (other : String) :
          AsksFor (0x03 :: body) other ↔ other = String.ofList (bareName (bareName rest)) := by
        rw [asksFor_query_iff, huse]
        simp
      have hsame : String.ofList (bareName (bareName rest)) = name ↔ cut = [] :=
        hname ▸ bareName_eq_iff hrest hword (hcut.imp And.left And.left)
      rw [query_of_useStatement? huse, ne_eq, hsame]
      -- the names differ exactly where something is cut off
      rcases hcut with ⟨hsemicolon, hlast⟩ | ⟨hnil, hlast⟩
      · have hne : ¬ cut = [] := List.ne_nil_of_mem hsemicolon
        constructor
        · rintro ⟨hthere, -⟩
          exact ⟨hlast, _, (hasks _).2 rfl, hthere⟩
        · rintro ⟨-, other, hother, hthere⟩
          obtain rfl := (hasks other).1 hother
          exact ⟨hthere, hne⟩
      · exact iff_of_false (fun h => h.2 hnil) fun h => hlast h.1

/-- A statement in ASCII letters without semicolons behind it is not among them. -/
theorem plain_use_switches :
    let session : Session :=
      { connectionId := 1, challenge := .ofBytes [], authenticated := true, phase := .authenticated }
    let store : Store := { catalog := { databases := NameMap.empty.insert "shop" {} } }
    let body := encode " use /* the */ shop; "
    Statement.parse (clean (decode body)) = .ok (.use "shop") ∧
      ¬ (Acknowledges session (dispatch Store.backend session store (0x03 :: body)) ∧
        (dispatch Store.backend session store (0x03 :: body)).session.database ≠ some "shop") := by
  intro session store body
  have hparse : Statement.parse (clean (decode body)) = .ok (.use "shop") := by decide +kernel
  have hletter : (clean (decode body)).toList[1]? ≠ some longS := by decide +kernel
  have hlast : (clean (decode body)).toList.getLast? ≠ some ';' := by decide +kernel
  refine ⟨hparse, (acknowledged_unswitched_iff session store hparse).not.2 ?_⟩
  rw [if_neg hletter]
  exact fun h => hlast h.1

/-- A client selects a database in the long s and is told that it has it, while it has none. With semicolons
that cleaning leaves, it is told so while it has another database. -/
theorem acknowledged_without_switching :
    let session : Session :=
      { connectionId := 1, challenge := .ofBytes [], authenticated := true, phase := .authenticated }
    let store : Store := { catalog := { databases := (NameMap.empty.insert "shop" {}).insert "shop;" {} } }
    let long := encode "u\u017fe shop"
    let twice := encode "USE shop; ;"
    let behind (body : Bytes) := dispatch Store.backend session store (0x03 :: body)
    (Statement.parse (clean (decode long)) = .ok (.use "shop") ∧ Acknowledges session (behind long) ∧
        (behind long).session.database = none) ∧
      Statement.parse (clean (decode twice)) = .ok (.use "shop") ∧ Acknowledges session (behind twice) ∧
        (behind twice).session.database = some "shop;" := by
  decide +kernel

end Command

end WireSql
