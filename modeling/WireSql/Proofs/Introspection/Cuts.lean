import WireSql.Backend
import WireSql.Proofs.Introspection.Leads
import WireSql.Proofs.Outcome

/-!
# `WireSql.Proofs.Introspection.Cuts`: where a count of bytes cuts a client's text

A client's text is cut at a number of bytes in three places: behind `SELECT ` in front of a list of
variables, behind `USE ` in front of a name, and behind a scope in front of a variable's name. The first
two cuts lie behind characters of one byte each, since that is what the text has just been compared with.
The third is made before the comparison, on whatever the client has written there, and can lie inside a
character (`SplitsCharacter`); then the worker ends.

`client_cuts` says which payloads do that, over every backend, and that nothing else ends a worker: those
that ask for a variable with a character across the place where a scope would end.
-/

namespace WireSql

namespace Introspection

open Text

variable {n : Nat} {c : Char} {s r name : List Char}

/-! ## Characters of one byte -/

/-- Every character of a text takes up one byte. -/
def IsSingleByte (s : List Char) : Prop := ∀ c ∈ s, c.utf8Size = 1

instance (s : List Char) : Decidable (IsSingleByte s) :=
  inferInstanceAs (Decidable (∀ c ∈ s, c.utf8Size = 1))

theorem utf8Size_toUpper (c : Char) : c.toUpper.utf8Size = 1 ↔ c.utf8Size = 1 := by
  rw [Char.utf8Size_eq_one_iff, Char.utf8Size_eq_one_iff]
  unfold Char.toUpper
  split
  · next hletter =>
    have hle : c.val ≤ 127 := UInt32.le_trans hletter.2 (by decide)
    refine ⟨fun _ => hle, fun _ => ?_⟩
    have hlow := UInt32.le_iff_toNat_le.1 hletter.1
    have hhigh := UInt32.le_iff_toNat_le.1 hletter.2
    simp only [UInt32.le_iff_toNat_le, UInt32.toNat_add] at *
    change 97 ≤ c.val.toNat at hlow
    change c.val.toNat ≤ 122 at hhigh
    change (c.val.toNat + 4294967264) % 4294967296 ≤ 127
    omega
  · rfl

/-- What differs from such a text in letter case only is such a text. -/
theorem isSingleByte_of_map_toUpper {s t : List Char} (h : s.map Char.toUpper = t.map Char.toUpper)
    (ht : IsSingleByte t) : IsSingleByte s := by
  intro c hc
  have hmem : c.toUpper ∈ t.map Char.toUpper := h ▸ List.mem_map_of_mem hc
  obtain ⟨d, hd, hcd⟩ := List.mem_map.1 hmem
  rw [← utf8Size_toUpper, ← hcd, utf8Size_toUpper]
  exact ht d hd

/-! ## Cuts -/

/-- **The place behind `n` bytes of a text lies inside a character**, which begins in front of it and ends
behind it. -/
def SplitsCharacter (n : Nat) (s : List Char) : Prop :=
  ∃ before c after, s = before ++ c :: after ∧ (encodeChars before).length < n ∧
    n < (encodeChars before).length + c.utf8Size

theorem length_encodeChars_cons (c : Char) (r : List Char) :
    (encodeChars (c :: r)).length = c.utf8Size + (encodeChars r).length := by
  rw [encodeChars, List.flatMap_cons, List.length_append, String.length_utf8EncodeChar, ← encodeChars]

theorem not_splitsCharacter_nil : ¬ SplitsCharacter n [] := by
  rintro ⟨before, c, after, h, -⟩
  exact List.append_ne_nil_of_right_ne_nil before (List.cons_ne_nil c after) h.symm

theorem not_splitsCharacter_zero : ¬ SplitsCharacter 0 s := by
  rintro ⟨before, c, after, -, h, -⟩
  exact Nat.not_lt_zero _ h

/-- Either the first character is split, or the place lies behind it and splits what follows. -/
theorem splitsCharacter_cons : SplitsCharacter n (c :: r) ↔
    (0 < n ∧ n < c.utf8Size) ∨ (c.utf8Size ≤ n ∧ SplitsCharacter (n - c.utf8Size) r) := by
  constructor
  · rintro ⟨before, d, after, h, hlow, hhigh⟩
    cases before with
    | nil =>
      obtain ⟨rfl, rfl⟩ := List.cons.inj h
      left
      simpa using And.intro hlow hhigh
    | cons b before =>
      obtain ⟨rfl, rfl⟩ := List.cons.inj h
      rw [length_encodeChars_cons] at hlow hhigh
      exact .inr ⟨by omega, before, d, after, rfl, by omega, by omega⟩
  · rintro (⟨hlow, hhigh⟩ | ⟨hfits, before, d, after, rfl, hlow, hhigh⟩)
    · exact ⟨[], c, r, rfl, by simpa using hlow, by simpa using hhigh⟩
    · refine ⟨c :: before, d, after, rfl, ?_, ?_⟩
      · rw [length_encodeChars_cons]
        omega
      · rw [length_encodeChars_cons]
        omega

/-- **A cut finds a character in its way exactly where one lies across the place.** -/
theorem cutAtByte_eq_inside : cutAtByte n s = .inside ↔ SplitsCharacter n s := by
  induction s generalizing n with
  | nil => cases n <;> simp [cutAtByte, not_splitsCharacter_nil]
  | cons c r ih =>
    cases n with
    | zero => simp [cutAtByte, not_splitsCharacter_zero]
    | succ n =>
      rw [cutAtByte, splitsCharacter_cons]
      split
      · next hfits =>
        have hrest : cutAtByte (n + 1 - c.utf8Size) r = .inside ↔
            (0 < n + 1 ∧ n + 1 < c.utf8Size) ∨
              (c.utf8Size ≤ n + 1 ∧ SplitsCharacter (n + 1 - c.utf8Size) r) := by
          rw [ih]
          exact ⟨fun h => .inr ⟨hfits, h⟩, fun h => h.elim (fun h => by omega) And.right⟩
        rw [← hrest]
        cases cutAtByte (n + 1 - c.utf8Size) r <;> simp
      · next hlong => exact ⟨fun _ => .inl (by omega), fun _ => rfl⟩

/-- Among characters of one byte each a text can be cut. -/
theorem cutAtByte_of_isSingleByte {lead : List Char} (h : IsSingleByte lead) (hn : n ≤ lead.length)
    (rest : List Char) : cutAtByte n (lead ++ rest) = .at (lead.take n) (lead.drop n ++ rest) := by
  induction lead generalizing n with
  | nil =>
    obtain rfl : n = 0 := Nat.le_zero.1 hn
    rw [cutAtByte, List.take_nil, List.drop_nil]
  | cons c lead ih =>
    cases n with
    | zero => rw [cutAtByte, List.take_zero, List.drop_zero]
    | succ n =>
      have hc : c.utf8Size = 1 := h c List.mem_cons_self
      have hlead : IsSingleByte lead := fun d hd => h d (List.mem_cons_of_mem c hd)
      rw [List.cons_append, cutAtByte, hc, if_pos (Nat.le_add_left 1 n), Nat.add_sub_cancel,
        ih hlead (Nat.le_of_succ_le_succ hn), List.take_succ_cons, List.drop_succ_cons]

/-- A cut that succeeds gives the parts of the text. -/
theorem cutAtByte_eq_at {before after : List Char} (h : cutAtByte n s = .at before after) :
    s = before ++ after ∧ (encodeChars before).length = n := by
  induction s generalizing n before with
  | nil =>
    cases n with
    | zero => cases h; exact ⟨rfl, rfl⟩
    | succ n => cases h
  | cons c r ih =>
    cases n with
    | zero => cases h; exact ⟨rfl, rfl⟩
    | succ n =>
      rw [cutAtByte] at h
      split at h
      · next hfits =>
        cases hcut : cutAtByte (n + 1 - c.utf8Size) r with
        | short => rw [hcut] at h; cases h
        | inside => rw [hcut] at h; cases h
        | «at» before' after' =>
          rw [hcut] at h
          cases h
          obtain ⟨rfl, hlength⟩ := ih hcut
          refine ⟨rfl, ?_⟩
          rw [length_encodeChars_cons]
          omega
      · cases h

/-- A text that begins with a lead can be cut behind any number of characters of the lead. -/
theorem cutAtByte_of_starts {lead : String} (h : startsIgnoringCase lead s = true)
    (hlead : IsSingleByte lead.toList) (hn : n ≤ lead.length) :
    cutAtByte n s = .at (s.take n) (s.drop n) := by
  obtain ⟨r, hr⟩ := Option.isSome_iff_exists.1 h
  obtain ⟨head, rfl, hsame⟩ := afterIgnoringCase?_eq_some hr
  have hsingle : IsSingleByte head := isSingleByte_of_map_toUpper hsame hlead
  rw [← length_of_map_toUpper hsame] at hn
  rw [cutAtByte_of_isSingleByte hsingle hn, List.take_append_of_le_length hn,
    List.drop_append_of_le_length hn]

/-! ## Scopes -/

/-- **A name breaks at a scope** whose last byte would lie inside a character of the name. -/
def BreaksAtScope (name : List Char) (scopes : List String) : Prop :=
  ∃ scope ∈ scopes, SplitsCharacter scope.length name

/-- Scopes that can be looked for one after the other: their characters take up one byte each, and none is
longer than those before it. -/
structure InDescendingLength (scopes : List String) : Prop where
  single : ∀ scope ∈ scopes, IsSingleByte scope.toList
  /-- None is longer than those before it. -/
  descending : scopes.Pairwise fun a b => b.length ≤ a.length

theorem inDescendingLength_scopes : InDescendingLength scopes where
  single := by decide
  descending := by decide

/-- **Looking for a scope fails exactly on a name that breaks at one of them.** The scopes that are looked
for behind a scope that is found would not have failed either. -/
theorem withoutScope_crash_iff {scopes : List String} (h : InDescendingLength scopes) :
    (∃ crash, withoutScope scopes name = .error crash) ↔ BreaksAtScope name scopes := by
  induction scopes with
  | nil => simp [withoutScope, BreaksAtScope]
  | cons scope others ih =>
    have hothers : InDescendingLength others :=
      ⟨fun scope h' => h.single scope (List.mem_cons_of_mem _ h'), h.descending.of_cons⟩
    have hsplit : BreaksAtScope name (scope :: others) ↔
        SplitsCharacter scope.length name ∨ BreaksAtScope name others := by
      simp only [BreaksAtScope, List.mem_cons, exists_eq_or_imp]
    rw [withoutScope, hsplit, ← cutAtByte_eq_inside, ← ih hothers]
    cases hcut : cutAtByte scope.length name with
    | short => simp only [reduceCtorEq, false_or]
    | inside => exact ⟨fun _ => .inl rfl, fun _ => ⟨.cutInsideCharacter, rfl⟩⟩
    | «at» before after =>
      simp only [reduceCtorEq, false_or]
      split
      · next hfound =>
        -- the name begins with single bytes, at least as many as any other scope has
        have hsame : before.map Char.toUpper = scope.toList.map Char.toUpper := by
          simpa only [sameIgnoringCase, String.toList_ofList, beq_iff_eq] using hfound
        have hsingle : IsSingleByte before :=
          isSingleByte_of_map_toUpper hsame (h.single scope List.mem_cons_self)
        have hlength : before.length = scope.length := length_of_map_toUpper hsame
        rw [ih hothers]
        constructor
        · rintro ⟨crash, ⟨⟩⟩
        · rintro ⟨other, hother, hbreak⟩
          have hle : other.length ≤ before.length :=
            hlength ▸ List.rel_of_pairwise_cons h.descending hother
          rw [(cutAtByte_eq_at hcut).1, ← cutAtByte_eq_inside,
            cutAtByte_of_isSingleByte hsingle hle] at hbreak
          cases hbreak
      · rfl

/-! ## Answers -/

/-- The name of the variable that an item asks for, with its scope; none where the item asks for the
database. -/
def askedName? (item : List Char) : Option (List Char) :=
  if sameIgnoringCase (String.ofList (itemParts item).1) "DATABASE()" then none
  else some (withoutMarks (trim (itemParts item).1))

/-- The names of the variables that a list asks for. -/
def askedNamesIn (list : List Char) : List (List Char) :=
  (((splitAtCommas (itemList list)).map trim).filter (!·.isEmpty)).filterMap askedName?

/-- The texts that a statement which asks for variables begins with. -/
def variableLeads : List String := ["SELECT @@", "SELECT DATABASE()"]

/-- Does a statement ask for variables one by one? -/
def asksForVariables (sql : String) : Bool := beginsWith variableLeads sql.toList

/-- **The names of the variables that a statement asks for**, with their scopes. -/
def askedNames (sql : String) : List (List Char) :=
  if asksForVariables sql then askedNamesIn (sql.toList.drop "SELECT ".length) else []

theorem itemAnswer_crash_iff (database : Option String) (item : List Char) :
    (∃ crash, itemAnswer database item = .error crash) ↔
      ∃ name, askedName? item = some name ∧ BreaksAtScope name scopes := by
  unfold itemAnswer askedName?
  dsimp only
  split
  · constructor
    · rintro ⟨crash, ⟨⟩⟩
    · rintro ⟨name, ⟨⟩, -⟩
  · have hname : (∃ name, some (withoutMarks (trim (itemParts item).1)) = some name ∧
        BreaksAtScope name scopes) ↔ BreaksAtScope (withoutMarks (trim (itemParts item).1)) scopes := by
      simp
    rw [hname, ← withoutScope_crash_iff inDescendingLength_scopes]
    exact bind_pure_error_iff

theorem selectVariables_crash_iff (database : Option String) (list : List Char) :
    (∃ crash, selectVariables database list = .error crash) ↔
      ∃ name ∈ askedNamesIn list, BreaksAtScope name scopes := by
  unfold selectVariables
  rw [bind_pure_error_iff, mapM_error_iff]
  simp only [itemAnswer_crash_iff, askedNamesIn, List.mem_filterMap]
  constructor
  · rintro ⟨item, hitem, name, hname, hbreak⟩
    exact ⟨name, ⟨item, hitem, hname⟩, hbreak⟩
  · rintro ⟨name, ⟨item, hitem, hname⟩, hbreak⟩
    exact ⟨item, hitem, name, hname, hbreak⟩

theorem exists_lead_of_asksForVariables {sql : String} (h : asksForVariables sql = true) :
    ∃ lead ∈ variableLeads, startsIgnoringCase lead sql.toList = true := List.any_eq_true.1 h

/-- A statement that asks for variables is none of the questions that are looked for before. -/
theorem answer_of_asksForVariables (view : View) {sql : String} (h : asksForVariables sql = true) :
    answer view sql =
      (selectVariables view.database (sql.toList.drop "SELECT ".length)).map some := by
  obtain ⟨lead, hlead, hstarts⟩ := exists_lead_of_asksForVariables h
  have hapart : ∀ text ∈ ["SELECT 1", "SHOW DATABASES", "SHOW SCHEMAS"], ∀ lead ∈ variableLeads,
      Apart lead text := by decide
  have hne : ∀ text ∈ ["SELECT 1", "SHOW DATABASES", "SHOW SCHEMAS"],
      sameIgnoringCase sql text = false := fun text htext =>
    (hapart text htext lead hlead).not_same hstarts
  have hbegins : beginsWith ["SELECT @@", "SELECT DATABASE()"] sql.toList = true := h
  unfold answer
  simp only [hne "SELECT 1" (by decide), hne "SHOW DATABASES" (by decide),
    hne "SHOW SCHEMAS" (by decide), hbegins, Bool.or_self, Bool.false_eq_true, if_false, if_true]

/-- **A statement about the server has no answer exactly where a name it asks for breaks at a scope.** -/
theorem answer_crash_iff (view : View) (sql : String) :
    (∃ crash, answer view sql = .error crash) ↔ ∃ name ∈ askedNames sql, BreaksAtScope name scopes := by
  have hnone : ∀ result : Option ResultSet,
      ¬ ∃ crash, (Except.ok result : Except Crash (Option ResultSet)) = .error crash := by
    rintro result ⟨crash, ⟨⟩⟩
  by_cases hasks : asksForVariables sql = true
  · -- no other question begins so
    rw [answer_of_asksForVariables view hasks, askedNames, if_pos hasks, ← selectVariables_crash_iff]
    exact bind_pure_error_iff
  · have hbegins : beginsWith ["SELECT @@", "SELECT DATABASE()"] sql.toList = false :=
      Bool.eq_false_iff.2 hasks
    have hothers : ∃ result, answer view sql = .ok result := by
      unfold answer
      simp only [hbegins, Bool.false_eq_true, if_false]
      repeat' split
      all_goals exact ⟨_, rfl⟩
    obtain ⟨result, hresult⟩ := hothers
    rw [hresult, askedNames, if_neg hasks]
    exact ⟨fun h => absurd h (hnone result), fun ⟨_, h, _⟩ => absurd h List.not_mem_nil⟩

end Introspection

/-! ## Commands -/

namespace Command

open Introspection Text

variable {σ : Type}

/-- A statement that asks for variables switches to no database. -/
theorem useStatement?_of_asksForVariables {sql : String} (h : asksForVariables sql = true) :
    useStatement? sql = none := by
  obtain ⟨lead, hlead, hstarts⟩ := exists_lead_of_asksForVariables h
  have hapart : ∀ lead ∈ variableLeads, Apart lead "USE " := by decide
  exact useStatement?_of_word hstarts (hapart lead hlead)

theorem switchAndReport_ne_crash (backend : Backend σ) (s : Session) (state : σ) (name : List Char)
    (packet : Wire.OkPacket) (crash : Crash) :
    (switchAndReport backend s state name packet).reply ≠ .error (.crash crash) := by
  unfold switchAndReport
  split
  · nofun
  · nofun

theorem forward_ne_crash (backend : Backend σ) (s : Session) (state : σ) (sql : String)
    (crash : Crash) : (forward backend s state sql).reply ≠ .error (.crash crash) := by
  unfold forward
  split
  · nofun
  · nofun

/-- **A statement ends the worker exactly where a name it asks for breaks at a scope.** -/
theorem query_crash_iff (backend : Backend σ) (s : Session) (state : σ) (sql : String) :
    (∃ crash, (query backend s state sql).reply = .error (.crash crash)) ↔
      ∃ name ∈ askedNames sql, BreaksAtScope name scopes := by
  rw [← answer_crash_iff ⟨s.database, backend.databases state⟩]
  constructor
  · rintro ⟨crash, h⟩
    unfold query at h
    split at h
    · cases h
    · split at h
      · exact absurd h (switchAndReport_ne_crash _ _ _ _ _ _)
      · split at h
        · next c hc => exact ⟨c, hc⟩
        · cases h
        · exact absurd h (forward_ne_crash _ _ _ _ _)
  · intro h
    have hasks : asksForVariables sql = true := by
      obtain ⟨name, hname, -⟩ := (answer_crash_iff _ _).1 h
      unfold askedNames at hname
      split at hname
      · assumption
      · cases hname
    have hsome : sql.isEmpty = false := by
      refine Bool.eq_false_iff.2 fun hempty => ?_
      rw [String.isEmpty_iff.1 hempty] at hasks
      revert hasks
      decide
    obtain ⟨crash, hcrash⟩ := h
    refine ⟨crash, ?_⟩
    unfold query
    simp only [hsome, Bool.false_eq_true, if_false, useStatement?_of_asksForVariables hasks, hcrash]

/-- A payload ends the worker exactly where it is a query that does so. -/
theorem dispatch_crash_iff (backend : Backend σ) (s : Session) (state : σ) (payload : Bytes) :
    (∃ crash, (dispatch backend s state payload).reply = .error (.crash crash)) ↔
      ∃ body, payload = 0x03 :: body ∧
        ∃ name ∈ askedNames (clean (decode body)), BreaksAtScope name scopes := by
  cases payload with
  | nil =>
    constructor
    · rintro ⟨crash, ⟨⟩⟩
    · rintro ⟨body, ⟨⟩, -⟩
  | cons code body =>
    have hparse : Wire.Packet.parse (code :: body) .command = .ok (.command ⟨code, body⟩) := rfl
    by_cases hcode : code = 0x03
    · subst hcode
      have hquery : dispatch backend s state (0x03 :: body) =
          query backend s state (clean (decode body)) := rfl
      rw [hquery, query_crash_iff]
      constructor
      · intro h
        exact ⟨body, rfl, h⟩
      · rintro ⟨body', hbody, h⟩
        rwa [(List.cons.inj hbody).2]
    · constructor
      · rintro ⟨crash, h⟩
        unfold dispatch at h
        rw [hparse] at h
        dsimp only at h
        split at h
        · cases h
        · cases h
        · exact absurd h (switchAndReport_ne_crash _ _ _ _ _ _)
        · next hquery => exact absurd (Wire.Command.eq_code_of_ofCode? hquery) hcode
        · cases h
      · rintro ⟨body', hbody, -⟩
        exact absurd (List.cons.inj hbody).1 hcode

/-- **Where a client's text is cut.** -/
structure ClientCuts (backend : Backend σ) (s : Session) (state : σ) : Prop where
  /-- A payload ends the worker exactly where it is a query for a name that breaks at a scope. -/
  crash_iff : ∀ payload, (∃ crash, (dispatch backend s state payload).reply = .error (.crash crash)) ↔
    ∃ body, payload = 0x03 :: body ∧
      ∃ name ∈ askedNames (clean (decode body)), BreaksAtScope name scopes
  /-- The cut in front of a list of variables lies between two characters. -/
  list : ∀ sql, asksForVariables sql = true →
    cutAtByte "SELECT ".length sql.toList =
      .at (sql.toList.take "SELECT ".length) (sql.toList.drop "SELECT ".length)
  /-- So does the cut in front of the name of a database. -/
  use : ∀ sql name, useStatement? sql = some name →
    cutAtByte "USE ".length sql.toList =
      .at (sql.toList.take "USE ".length) (sql.toList.drop "USE ".length) ∧
      name = bareName (sql.toList.drop "USE ".length)

/-- **The payloads that end the worker**, over every backend in every state: queries for a variable with a
character that spans the end of a scope. Every other cut lies between two characters. -/
theorem client_cuts (backend : Backend σ) (s : Session) (state : σ) : ClientCuts backend s state where
  crash_iff := dispatch_crash_iff backend s state
  list := by
    intro sql h
    obtain ⟨lead, hlead, hstarts⟩ := exists_lead_of_asksForVariables h
    have hlong : ∀ lead ∈ variableLeads, IsSingleByte lead.toList ∧ "SELECT ".length ≤ lead.length := by
      decide
    exact cutAtByte_of_starts hstarts (hlong lead hlead).1 (hlong lead hlead).2
  use := by
    intro sql name h
    obtain ⟨rest, hrest, rfl⟩ := Option.map_eq_some_iff.1 h
    have hstarts : startsIgnoringCase "USE " sql.toList = true := Option.isSome_of_eq_some hrest
    rw [drop_of_afterIgnoringCase? hrest]
    refine ⟨?_, rfl⟩
    rw [cutAtByte_of_starts hstarts (by decide) (Nat.le_refl _), drop_of_afterIgnoringCase? hrest]

/-- The scope `session.` has eight bytes, and the eighth byte of `sessioné` is the first of the two of its
last character. -/
theorem dispatch_crashes_on_accent :
    let session : Session :=
      { connectionId := 1, challenge := .ofBytes [], authenticated := true, phase := .authenticated }
    ∃ crash, (dispatch Store.backend session {} (0x03 :: encode "SELECT @@sessioné")).reply =
      .error (.crash crash) := by
  intro session
  have hasked : "sessioné".toList ∈ askedNames (clean (decode (encode "SELECT @@sessioné"))) := by
    decide +kernel
  have hsplit : SplitsCharacter "session.".length "sessioné".toList :=
    ⟨"session".toList, 'é', [], by decide, by decide, by decide⟩
  have hbreaks : BreaksAtScope "sessioné".toList scopes := ⟨"session.", by decide, hsplit⟩
  exact (dispatch_crash_iff Store.backend session {} _).2 ⟨_, rfl, _, hasked, hbreaks⟩

end Command

end WireSql
