import Mathlib.Data.List.Infix
import WireSql.Proofs.Outcome
import WireSql.Sql.Parser

/-!
# `WireSql.Proofs.Sql.Pieces`: values are read from stretches of the statement

Reading a statement cuts its text, and cuts the pieces again, before a literal is read. Nothing is put
together on the way: whatever a search leaves behind a keyword is the end of the text, and whatever it finds
in front of one is a stretch of it. `parse_values` says that every value in a statement was read as a literal
from a stretch of its text, over all the statements that can be read.
-/

namespace WireSql.Sql

open Text

variable {α : Type} {s r : List Char}

/-! ## What is left behind a keyword -/

theorem suffix_of_afterBlanks? (h : afterBlanks? s = some r) : r <:+ s := by
  cases s with
  | nil => cases h
  | cons c s =>
    rw [afterBlanks?] at h
    split at h
    · cases h
      exact (List.dropWhile_suffix _).trans (List.suffix_cons c s)
    · cases h

theorem suffix_of_afterKeyword? {word : String} (h : afterKeyword? word s = some r) : r <:+ s := by
  rw [afterKeyword?] at h
  generalize word.toList = w at h
  induction w generalizing s with
  | nil =>
    cases h
    exact List.suffix_refl _
  | cons d w ih =>
    cases s with
    | nil => cases h
    | cons c s =>
      rw [afterKeyword?.go] at h
      split at h
      · exact (ih h).trans (List.suffix_cons c s)
      · cases h

theorem suffix_of_afterWords? {words : List String} (h : afterWords? words s = some r) : r <:+ s := by
  induction words generalizing s with
  | nil =>
    cases h
    exact List.suffix_refl _
  | cons w words ih =>
    cases words with
    | nil => exact suffix_of_afterKeyword? h
    | cons w' words =>
      obtain ⟨t, ht, h⟩ := Option.bind_eq_some_iff.1 h
      obtain ⟨u, hu, h⟩ := Option.bind_eq_some_iff.1 h
      exact (ih h).trans ((suffix_of_afterBlanks? hu).trans (suffix_of_afterKeyword? ht))

theorem suffix_of_afterPhrase? {words : List String} (h : afterPhrase? words s = some r) : r <:+ s := by
  obtain ⟨t, ht, h⟩ := Option.bind_eq_some_iff.1 h
  exact (suffix_of_afterBlanks? h).trans (suffix_of_afterWords? ht)

theorem suffix_of_splitAtFirst? {mark : Char} {lead : List Char}
    (h : splitAtFirst? mark s = some (lead, r)) : r <:+ s := by
  induction s generalizing lead with
  | nil => cases h
  | cons c s ih =>
    rw [splitAtFirst?] at h
    split at h
    · cases h
      exact List.suffix_cons c _
    · obtain ⟨m, hm, h⟩ := Option.map_eq_some_iff.1 h
      cases h
      exact (ih hm).trans (List.suffix_cons c s)

theorem eq_append_of_shortestNonempty? {admits : Char → Bool} {k : List Char → Option α}
    {lead : List Char} {a : α} (h : shortestNonempty? admits k s = some (lead, a)) :
    ∃ rest, s = lead ++ rest ∧ k rest = some a := by
  cases s with
  | nil => cases h
  | cons c s =>
    rw [shortestNonempty?] at h
    split at h
    · obtain ⟨m, hm, h⟩ := Option.map_eq_some_iff.1 h
      cases h
      obtain ⟨rest, rfl, -, hk⟩ := shortest?_eq_some hm
      exact ⟨rest, rfl, hk⟩
    · cases h

theorem eq_append_of_longestNonempty? {admits : Char → Bool} {k : List Char → Option α}
    {lead : List Char} {a : α} (h : longestNonempty? admits k s = some (lead, a)) :
    ∃ rest, s = lead ++ rest ∧ k rest = some a := by
  cases s with
  | nil => cases h
  | cons c s =>
    rw [longestNonempty?] at h
    split at h
    · obtain ⟨m, hm, h⟩ := Option.map_eq_some_iff.1 h
      cases h
      obtain ⟨rest, rfl, -, hk⟩ := longest?_eq_some hm
      exact ⟨rest, rfl, hk⟩
    · cases h

/-! ## Pieces of an outline -/

namespace Outline

/-- The pieces of an outline that values are read from. -/
def valuePieces : Outline → List (List Char)
  | insert _ _ rows => [rows]
  | select _ _ condition _ => condition.toList
  | update _ assignments condition => assignments :: condition.toList
  | delete _ condition => condition.toList
  | _ => []

theorem suffix_of_nameThen? {name : List Char} (h : nameThen? s = some (name, r)) : r <:+ s := by
  unfold nameThen? at h
  split at h
  · cases h
  · have hspan : s.span (!isBlank ·) = (name, r) := Option.some.inj h
    rw [List.span_eq_takeWhile_dropWhile] at hspan
    rw [← (Prod.mk.inj hspan).2]
    exact List.dropWhile_suffix _

theorem suffix_of_afterWhere? (h : afterWhere? s = some r) : r <:+ s := by
  obtain ⟨t, ht, h⟩ := Option.bind_eq_some_iff.1 h
  exact (suffix_of_afterPhrase? h).trans (suffix_of_afterBlanks? ht)

theorem suffix_of_whereTail? {condition : List Char} (h : whereTail? s = some (some condition)) :
    condition <:+ s := by
  cases s with
  | nil => cases h
  | cons c s =>
    obtain ⟨r, hr, h⟩ := Option.bind_eq_some_iff.1 h
    split at h
    · cases h
    · cases h
      exact suffix_of_afterWhere? hr

theorem infix_of_queryTail? {condition : List Char} {limit : Option (List Char)}
    (h : queryTail? s = some (some condition, limit)) : condition <:+: s := by
  unfold queryTail? at h
  split at h
  · next hfound =>
    cases h
    obtain ⟨r, hr, hshortest⟩ := Option.bind_eq_some_iff.1 hfound
    obtain ⟨rest, rfl, -⟩ := eq_append_of_shortestNonempty? hshortest
    exact (List.prefix_append _ rest).isInfix.trans (suffix_of_afterWhere? hr).isInfix
  · obtain ⟨m, -, h⟩ := Option.map_eq_some_iff.1 h
    cases h

theorem infix_of_fromTail? {name condition : List Char} {limit : Option (List Char)}
    (h : fromTail? s = some (name, some condition, limit)) : condition <:+: s := by
  obtain ⟨t, ht, h⟩ := Option.bind_eq_some_iff.1 h
  obtain ⟨u, hu, h⟩ := Option.bind_eq_some_iff.1 h
  obtain ⟨⟨name', rest⟩, hname, h⟩ := Option.bind_eq_some_iff.1 h
  obtain ⟨tail, htail, h⟩ := Option.bind_eq_some_iff.1 h
  cases h
  have hrest : rest <:+ s := (suffix_of_nameThen? hname).trans
    ((suffix_of_afterPhrase? hu).trans (suffix_of_afterBlanks? ht))
  exact (infix_of_queryTail? htail).trans hrest.isInfix

theorem suffix_of_values? (h : values? s = some r) : r <:+ s := by
  obtain ⟨t, ht, h⟩ := Option.bind_eq_some_iff.1 h
  dsimp only at h
  split at h
  · cases h
  · cases h
    exact (List.dropWhile_suffix _).trans (suffix_of_afterKeyword? ht)

theorem suffix_of_columnsThenValues? {columns : Option (List Char)}
    (h : columnsThenValues? s = some (columns, r)) : r <:+ s := by
  unfold columnsThenValues? at h
  split at h
  · obtain ⟨⟨piece, rest⟩, hsplit, h⟩ := Option.bind_eq_some_iff.1 h
    obtain ⟨rows, hrows, h⟩ := Option.bind_eq_some_iff.1 h
    cases h
    have hrest : rest <:+ _ := suffix_of_splitAtFirst? hsplit
    exact (suffix_of_values? hrows).trans
      ((List.dropWhile_suffix _).trans (hrest.trans (List.suffix_cons _ _)))
  · cases h

theorem suffix_of_insertTail? {columns : Option (List Char)}
    (h : insertTail? s = some (columns, r)) : r <:+ s := by
  have hskip : skipBlanks s <:+ s := List.dropWhile_suffix _
  unfold insertTail? at h
  dsimp only at h
  split at h
  · next hcolumns =>
    cases h
    exact (suffix_of_columnsThenValues? hcolumns).trans hskip
  · obtain ⟨rows, hrows, h⟩ := Option.map_eq_some_iff.1 h
    cases h
    exact (suffix_of_values? hrows).trans hskip

variable {o : Outline}

theorem infix_of_insert? (h : insert? s = some o) : ∀ piece ∈ o.valuePieces, piece <:+: s := by
  obtain ⟨t, ht, h⟩ := Option.bind_eq_some_iff.1 h
  obtain ⟨⟨name, columns, rows⟩, hname, h⟩ := Option.bind_eq_some_iff.1 h
  cases h
  obtain ⟨rest, rfl, htail⟩ := eq_append_of_longestNonempty? hname
  intro piece hpiece
  obtain rfl := List.mem_singleton.1 hpiece
  have hrows : piece <:+ name ++ rest := (suffix_of_insertTail? htail).trans (List.suffix_append name rest)
  exact (hrows.trans (suffix_of_afterPhrase? ht)).isInfix

theorem infix_of_select? (h : select? s = some o) : ∀ piece ∈ o.valuePieces, piece <:+: s := by
  obtain ⟨t, ht, h⟩ := Option.bind_eq_some_iff.1 h
  obtain ⟨⟨blanks, projection, name, condition, limit⟩, hblanks, h⟩ := Option.bind_eq_some_iff.1 h
  cases h
  obtain ⟨rest, rfl, hrest⟩ := eq_append_of_longestNonempty? hblanks
  obtain ⟨tail, rfl, htail⟩ := eq_append_of_shortestNonempty? hrest
  intro piece hpiece
  obtain rfl := Option.mem_toList.1 hpiece
  have hend : tail <:+ s := (List.suffix_append projection tail).trans
    ((List.suffix_append blanks _).trans (suffix_of_afterKeyword? ht))
  exact (infix_of_fromTail? htail).trans hend.isInfix

theorem infix_of_update? (h : update? s = some o) : ∀ piece ∈ o.valuePieces, piece <:+: s := by
  obtain ⟨t, ht, h⟩ := Option.bind_eq_some_iff.1 h
  obtain ⟨⟨name, u⟩, hname, h⟩ := Option.bind_eq_some_iff.1 h
  obtain ⟨v, hv, h⟩ := Option.bind_eq_some_iff.1 h
  obtain ⟨w, hw, h⟩ := Option.bind_eq_some_iff.1 h
  obtain ⟨⟨assignments, condition⟩, hassignments, h⟩ := Option.bind_eq_some_iff.1 h
  cases h
  obtain ⟨rest, rfl, htail⟩ := eq_append_of_shortestNonempty? hassignments
  have hset : assignments ++ rest <:+ s := (suffix_of_afterPhrase? hw).trans
    ((suffix_of_afterBlanks? hv).trans ((suffix_of_nameThen? hname).trans (suffix_of_afterPhrase? ht)))
  intro piece hpiece
  rcases List.mem_cons.1 hpiece with rfl | hpiece
  · exact (List.prefix_append piece rest).isInfix.trans hset.isInfix
  · obtain rfl := Option.mem_toList.1 hpiece
    exact ((suffix_of_whereTail? htail).trans ((List.suffix_append assignments rest).trans hset)).isInfix

theorem infix_of_delete? (h : delete? s = some o) : ∀ piece ∈ o.valuePieces, piece <:+: s := by
  obtain ⟨t, ht, h⟩ := Option.bind_eq_some_iff.1 h
  obtain ⟨⟨name, u⟩, hname, h⟩ := Option.bind_eq_some_iff.1 h
  obtain ⟨condition, hcondition, h⟩ := Option.bind_eq_some_iff.1 h
  cases h
  intro piece hpiece
  obtain rfl := Option.mem_toList.1 hpiece
  exact ((suffix_of_whereTail? hcondition).trans
    ((suffix_of_nameThen? hname).trans (suffix_of_afterPhrase? ht))).isInfix

/-- The other statements hold no values. -/
theorem valuePieces_of_bind {β γ : Type} {x : Option β} {k : β → Option γ} {f : γ → Option Outline}
    (hf : ∀ c o, f c = some o → o.valuePieces = []) (h : (x.bind fun b => (k b).bind f) = some o) :
    ∀ piece ∈ o.valuePieces, piece <:+: s := by
  obtain ⟨b, -, h⟩ := Option.bind_eq_some_iff.1 h
  obtain ⟨c, -, h⟩ := Option.bind_eq_some_iff.1 h
  intro piece hpiece
  rw [hf c o h] at hpiece
  cases hpiece

/-- **The pieces that values are read from are stretches of the text.** -/
theorem infix_of_ofChars? (h : ofChars? s = some o) : ∀ piece ∈ o.valuePieces, piece <:+: s := by
  obtain ⟨recogniser, hmem, h⟩ := List.exists_of_findSome?_eq_some h
  simp only [recognisers, List.mem_cons, List.not_mem_nil, or_false] at hmem
  rcases hmem with rfl | rfl | rfl | rfl | rfl | rfl | rfl | rfl | rfl | rfl
  · exact valuePieces_of_bind (fun _ _ h => by cases h; rfl) h
  · exact valuePieces_of_bind (fun _ _ h => by cases h; rfl) h
  · exact valuePieces_of_bind (fun _ _ h => by cases h; rfl) h
  · exact valuePieces_of_bind (fun _ _ h => by cases h; rfl) h
  · exact valuePieces_of_bind (fun _ _ h => by cases h; rfl) h
  · obtain ⟨t, -, h⟩ := Option.bind_eq_some_iff.1 h
    split at h
    · cases h
      nofun
    · cases h
  · exact infix_of_insert? h
  · exact infix_of_select? h
  · exact infix_of_update? h
  · exact infix_of_delete? h

end Outline

/-! ## Values -/

/-- **The value is read as a literal from a stretch of the text.** -/
def IsReadFrom (s : List Char) (v : Value) : Prop := ∃ piece, piece <:+: s ∧ literal piece = .ok v

theorem IsReadFrom.of_within {v : Value} {t : List Char} (h : IsReadFrom s v) (hst : s <:+: t) :
    IsReadFrom t v := by
  obtain ⟨piece, hpiece, hread⟩ := h
  exact ⟨piece, hpiece.trans hst, hread⟩

theorem yields_literal (s : List Char) : Yields (literal s) (IsReadFrom s) :=
  fun _ h => ⟨s, List.infix_refl s, h⟩

/-- The parts of a list are stretches of it. -/
theorem infix_of_mem_splitTopLevel {separator : Separator} {part : List Char}
    (h : part ∈ splitTopLevel separator s) : part <:+: s := by
  rw [← join_cut separator s, Cuts.join]
  rw [splitTopLevel, Cuts.parts] at h
  generalize cut separator s = cuts at h ⊢
  rw [List.mem_append, List.mem_map, List.mem_singleton] at h
  rcases h with ⟨⟨part', mark⟩, hpart, rfl⟩ | rfl
  · obtain ⟨before, after, hsplit⟩ := List.append_of_mem hpart
    refine ⟨before.flatMap fun p => p.1 ++ p.2, mark ++ after.flatMap (fun p => p.1 ++ p.2) ++ cuts.last, ?_⟩
    simp [hsplit]
  · exact (List.suffix_append _ _).isInfix

theorem infix_dropEndWhile (p : Char → Bool) (s : List Char) : dropEndWhile p s <:+: s := by
  have hreverse : (s.reverse.dropWhile p).reverse <+: s.reverse.reverse :=
    List.reverse_prefix.2 (List.dropWhile_suffix p)
  rw [List.reverse_reverse] at hreverse
  exact hreverse.isInfix

theorem infix_trim (s : List Char) : trim s <:+: s :=
  (infix_dropEndWhile _ _).trans (List.dropWhile_suffix _).isInfix

theorem infix_statementText (s : List Char) : statementText s <:+: s :=
  (infix_dropEndWhile _ _).trans ((infix_dropEndWhile _ _).trans (infix_trim s))

theorem suffix_of_equality? {column : String} (h : equality? s = some (column, r)) : r <:+ s := by
  obtain ⟨⟨lead, rest⟩, hsplit, h⟩ := Option.bind_eq_some_iff.1 h
  dsimp only at h
  split at h
  · cases h
    exact suffix_of_splitAtFirst? hsplit
  · cases h

theorem infix_of_parenthesised? (h : parenthesised? s = some r) : r <:+: s := by
  unfold parenthesised? at h
  split at h
  · split at h
    · cases h
      exact (List.dropLast_prefix _).isInfix.trans (List.suffix_cons _ _).isInfix
    · cases h
  · cases h

/-- What is read from `column = value` has its value from there. -/
theorem yields_equality {β : Type} (build : String → Value → β) {e : StatementError} {value : β → Value}
    (hbuild : ∀ column v, value (build column v) = v) (s : List Char) :
    Yields (match equality? s with
      | some (column, text) => do return build column (← literal text)
      | none => .error e) fun b => IsReadFrom s (value b) := by
  split
  · next hequality =>
    refine yields_bind fun v hv => yields_pure ?_
    rw [hbuild]
    exact (yields_literal _ v hv).of_within (suffix_of_equality? hequality).isInfix
  · exact yields_error _

theorem yields_condition (s : List Char) : Yields (condition s) fun c => IsReadFrom s c.value :=
  yields_equality Condition.mk (fun _ _ => rfl) s

theorem yields_assignment (s : List Char) : Yields (assignment s) fun a => IsReadFrom s a.value :=
  yields_equality Assignment.mk (fun _ _ => rfl) s

/-- What holds of a part of a list, and of every longer text, holds of the list. -/
theorem yields_splitTopLevel {ε β : Type} {f : List Char → Except ε β} {P : List Char → β → Prop}
    (hP : ∀ {s t b}, P s b → s <:+: t → P t b) (hf : ∀ s, Yields (f s) (P s)) (separator : Separator)
    (s : List Char) : Yields ((splitTopLevel separator s).mapM f) fun bs => ∀ b ∈ bs, P s b :=
  yields_mapM fun part hpart => (hf part).mono fun _ h => hP h (infix_of_mem_splitTopLevel hpart)

theorem yields_filter (condition : Option (List Char)) :
    Yields (filter condition) fun cs => ∀ c ∈ cs, ∃ s ∈ condition.toList, IsReadFrom s c.value := by
  cases condition with
  | none => exact yields_ok nofun
  | some s =>
    refine (yields_splitTopLevel (fun h => h.of_within) yields_condition .conjunction s).mono ?_
    exact fun cs h c hc => ⟨s, Option.mem_toList.2 rfl, h c hc⟩

theorem yields_row (s : List Char) : Yields (row s) fun vs => ∀ v ∈ vs, IsReadFrom s v := by
  unfold row
  dsimp only
  split
  · next hinner =>
    refine (yields_splitTopLevel (fun h => h.of_within) yields_literal .comma _).mono ?_
    exact fun vs h v hv => (h v hv).of_within ((infix_of_parenthesised? hinner).trans (infix_trim s))
  · exact yields_error _

theorem yields_rows (s : List Char) :
    Yields (rows s) fun rows => ∀ vs ∈ rows, ∀ v ∈ vs, IsReadFrom s v :=
  yields_splitTopLevel (fun h hst v hv => (h v hv).of_within hst) yields_row .comma s

/-- The values of a statement, in the order in which they stand there. -/
def valuesOf : Statement → List Value
  | .insert _ _ rows => rows.flatten
  | .select _ _ filter _ => filter.map (·.value)
  | .update _ assignments filter => assignments.map (·.value) ++ filter.map (·.value)
  | .delete _ filter => filter.map (·.value)
  | _ => []

theorem yields_toStatement (o : Outline) :
    Yields o.toStatement fun statement =>
      ∀ v ∈ valuesOf statement, ∃ piece ∈ o.valuePieces, IsReadFrom piece v := by
  have hfilter {pieces : List (List Char)} {condition : Option (List Char)} {cs : List Condition}
      (hpieces : ∀ s ∈ condition.toList, s ∈ pieces)
      (h : ∀ c ∈ cs, ∃ s ∈ condition.toList, IsReadFrom s c.value) :
      ∀ v ∈ cs.map (·.value), ∃ piece ∈ pieces, IsReadFrom piece v := by
    intro v hv
    obtain ⟨c, hc, rfl⟩ := List.mem_map.1 hv
    obtain ⟨s, hs, hread⟩ := h c hc
    exact ⟨s, hpieces s hs, hread⟩
  cases o with
  | createDatabase guarded name => exact yields_ok nofun
  | dropDatabase guarded name => exact yields_ok nofun
  | use name => exact yields_ok nofun
  | createTable guarded name body => exact yields_bind fun _ _ => yields_pure nofun
  | dropTable guarded name => exact yields_ok nofun
  | showTables => exact yields_ok nofun
  | insert name columns values =>
    refine yields_bind fun rows hrows => yields_pure fun v hv => ?_
    obtain ⟨vs, hvs, hv⟩ := List.mem_flatten.1 hv
    exact ⟨values, List.mem_singleton_self _, yields_rows values rows hrows vs hvs v hv⟩
  | select projection name condition limit =>
    refine yields_bind fun _ _ => yields_bind fun _ _ => yields_bind fun cs hcs => yields_pure ?_
    exact hfilter (fun _ h => h) (yields_filter condition cs hcs)
  | update name items condition =>
    refine yields_bind fun as has => yields_bind fun cs hcs => yields_pure fun v hv => ?_
    rcases List.mem_append.1 hv with hv | hv
    · obtain ⟨a, ha, rfl⟩ := List.mem_map.1 hv
      exact ⟨items, List.mem_cons_self,
        yields_splitTopLevel (fun h => h.of_within) yields_assignment .comma items as has a ha⟩
    · exact hfilter (fun _ => List.mem_cons_of_mem items) (yields_filter condition cs hcs) v hv
  | delete name condition =>
    refine yields_bind fun cs hcs => yields_pure ?_
    exact hfilter (fun _ h => h) (yields_filter condition cs hcs)

/-- **Every value of a statement is read as a literal from a stretch of its text.** -/
theorem parse_values {sql : String} {statement : Statement} (h : Statement.parse sql = .ok statement) :
    ∀ v ∈ valuesOf statement, IsReadFrom sql.toList v := by
  unfold Statement.parse at h
  dsimp only at h
  split at h
  · next o ho =>
    intro v hv
    obtain ⟨piece, hpiece, hread⟩ := yields_toStatement o statement h v hv
    exact hread.of_within ((Outline.infix_of_ofChars? ho piece hpiece).trans (infix_statementText _))
  · cases h

end WireSql.Sql
