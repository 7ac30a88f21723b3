import WireSql.Proofs.Introspection.Cleaning
import WireSql.Proofs.Introspection.Cuts
import WireSql.Proofs.Text.Utf8

/-!
# `WireSql.Proofs.Introspection.Questions`: a question for one variable

`SELECT @@name` with a bare name is answered by one row under that name, whether or not there is a variable
of the name (`dispatch_question`), over every backend in every state. A bare name holds none of the
characters at which a list of variables is taken apart: no blank in front of a label or of the next clause,
no comma, no `@`, and no dot behind a scope.
-/

namespace WireSql

open Text Sql

variable {name : String} {s : List Char}

namespace Introspection

/-- The text of a question for one variable. -/
def question (name : String) : List Char := "SELECT @@".toList ++ name.toList

/-- The result that answers a question for one variable. -/
def questionResult (name : String) : ResultSet :=
  .ofRows [name] [[some ((variableValue? name).getD unknownValue)]]

/-- **A question for one variable is clean.** -/
theorem clean_question (h : IsName name) : clean (String.ofList (question name)) =
    String.ofList (question name) := by
  have hmark : HasNoMark (question name) := hasNoMark_append (by decide) (hasNoMark_name h)
  have hsqueezed : squeezeBlanks (question name) = question name := by
    have hlead : squeezeFrom false "SELECT @@".toList = "SELECT @@".toList ∧
        endsInBlank false "SELECT @@".toList = false := by decide
    unfold question squeezeBlanks
    generalize "SELECT @@".toList = lead at hlead ⊢
    rw [squeezeFrom_append, hlead.1, hlead.2, squeezeFrom_name h]
  have hends : EndsWhole (question name) := .append _ (endsWhole_name h)
  have hwhole : statementText (question name) = question name := statementText_eq_self (by decide) hends
  rw [clean, String.toList_ofList, cleanChars_of_hasNoMark hmark, hsqueezed, hwhole]

/-! ## Bare names in bytes -/

/-- Characters of one byte take up as many bytes as there are of them. -/
theorem length_encodeChars_of_isSingleByte (h : IsSingleByte s) : (encodeChars s).length = s.length := by
  induction s with
  | nil => rfl
  | cons c s ih =>
    have hc : c.utf8Size = 1 := h c List.mem_cons_self
    rw [length_encodeChars_cons, hc, ih fun d hd => h d (List.mem_cons_of_mem c hd), List.length_cons,
      Nat.add_comm]

/-- What the characters of a bare name are not, in a list of variables. -/
theorem plain_of_inColumnName {c : Char} (h : inColumnName c = true) :
    isBlank c = false ∧ c.toUpper ≠ '.' ∧ c.toUpper ≠ '@' ∧ c ≠ ',' ∧ c.utf8Size = 1 :=
  forall_ascii
    (p := fun c => inColumnName c = true →
      isBlank c = false ∧ c.toUpper ≠ '.' ∧ c.toUpper ≠ '@' ∧ c ≠ ',' ∧ c.utf8Size = 1)
    (by decide) (toNat_lt_of_inColumnName h) h

theorem isSingleByte_name (h : IsName name) : IsSingleByte name.toList :=
  fun c hc => (plain_of_inColumnName (h.2 c hc)).2.2.2.2

theorem length_encode_name (h : IsName name) : (encode name).length = name.length := by
  rw [encode, length_encodeChars_of_isSingleByte (isSingleByte_name h), String.length_toList]

theorem length_encode_question (h : IsName name) :
    (encode (String.ofList (question name))).length = 9 + name.length := by
  have hlead : IsSingleByte "SELECT @@".toList := by decide
  have hlength : "SELECT @@".toList.length = 9 := by decide
  unfold question
  generalize "SELECT @@".toList = lead at hlead hlength ⊢
  have hsingle : IsSingleByte (lead ++ name.toList) :=
    List.forall_mem_append.2 ⟨hlead, isSingleByte_name h⟩
  rw [encode, String.toList_ofList, length_encodeChars_of_isSingleByte hsingle, List.length_append, hlength,
    String.length_toList]

/-! ## Lists of one item -/

/-- A list goes on where there is no blank. -/
theorem itemList_of_no_blank (h : ∀ c ∈ s, isBlank c = false) : itemList s = s := by
  induction s with
  | nil => rfl
  | cons c s ih =>
    rw [List.forall_mem_cons] at h
    have hend : atListEnd (c :: s) = false := by simp [atListEnd, afterBlanks?, h.1]
    rw [itemList, hend, if_neg Bool.false_ne_true, ih h.2]

theorem splitAtCommas_of_not_mem (h : ',' ∉ s) : splitAtCommas s = [s] := by
  induction s with
  | nil => rfl
  | cons c s ih =>
    rw [List.mem_cons, not_or] at h
    rw [splitAtCommas, beq_false_of_ne (Ne.symm h.1), if_neg Bool.false_ne_true, ih h.2]

/-- A label stands behind blanks. -/
theorem aliasTail?_of_not_blank {c : Char} (hc : isBlank c = false) (s : List Char) :
    aliasTail? (c :: s) = none := by
  simp [aliasTail?, afterBlanks?, hc]

/-- An item without blanks has no label. -/
theorem itemParts_of_no_blank (h : ∀ c ∈ s, isBlank c = false) : itemParts s = (s, none) := by
  have hnone : shortest? (· != '\n') aliasTail? s = none := by
    induction s with
    | nil => rfl
    | cons c s ih =>
      rw [List.forall_mem_cons] at h
      rw [shortest?, aliasTail?_of_not_blank h.1, ih h.2, Option.map_none, ite_self]
  rw [itemParts, hnone]

/-- A scope that does not stand in front of a text of single bytes is passed over. -/
theorem withoutScope_cons_of_not_begins {scope : String} {others : List String} (hsingle : IsSingleByte s)
    (h : ¬ scope.toList.map Char.toUpper <+: s.map Char.toUpper) :
    withoutScope (scope :: others) s = withoutScope others s := by
  rw [withoutScope]
  cases hcut : cutAtByte scope.length s with
  | short => rfl
  | inside =>
    obtain ⟨before, c, after, rfl, hlow, hhigh⟩ := cutAtByte_eq_inside.1 hcut
    have hc : c.utf8Size = 1 := hsingle c (List.mem_append_right _ List.mem_cons_self)
    omega
  | «at» before after =>
    have hother : sameIgnoringCase (String.ofList before) scope = false := by
      refine Bool.eq_false_iff.2 fun hsame => h ?_
      rw [sameIgnoringCase, beq_iff_eq, String.toList_ofList] at hsame
      rw [(cutAtByte_eq_at hcut).1, List.map_append, hsame]
      exact List.prefix_append _ _
    dsimp only
    rw [hother, if_neg Bool.false_ne_true]

/-- A name of single bytes without a dot has no scope. -/
theorem withoutScope_of_no_dot {scopes : List String} (hscopes : ∀ scope ∈ scopes, '.' ∈ scope.toList)
    (hsingle : IsSingleByte s) (hdot : ∀ c ∈ s, c.toUpper ≠ '.') : withoutScope scopes s = .ok s := by
  induction scopes with
  | nil => rfl
  | cons scope others ih =>
    rw [List.forall_mem_cons] at hscopes
    rw [withoutScope_cons_of_not_begins hsingle, ih hscopes.2]
    intro hbegins
    have hmem : '.' ∈ s.map Char.toUpper := hbegins.subset (List.mem_map_of_mem (f := Char.toUpper) hscopes.1)
    obtain ⟨c, hc, hcdot⟩ := List.mem_map.1 hmem
    exact hdot c hc hcdot

theorem not_blank_of_mem (h : IsName name) : ∀ c ∈ "@@".toList ++ name.toList, isBlank c = false := by
  rw [List.forall_mem_append]
  exact ⟨by decide, fun c hc => (plain_of_inColumnName (h.2 c hc)).1⟩

theorem withoutMarks_of_head (h : s.head? ≠ some '@') : withoutMarks s = s := by
  unfold withoutMarks
  split
  · exact absurd rfl h
  · rfl

/-- One pair of marks stands in front of the name. -/
theorem withoutMarks_name (h : IsName name) : withoutMarks ("@@".toList ++ name.toList) = name.toList := by
  have hname : withoutMarks name.toList = name.toList := withoutMarks_of_head fun hhead =>
    (plain_of_inColumnName (h.2 '@' (List.mem_of_mem_head? hhead))).2.2.1 rfl
  exact hname

theorem itemAnswer_name (h : IsName name) (database : Option String) :
    itemAnswer database ("@@".toList ++ name.toList) =
      .ok (name, some ((variableValue? name).getD unknownValue)) := by
  have hdatabase : sameIgnoringCase (String.ofList ("@@".toList ++ name.toList)) "DATABASE()" = false := by
    rw [sameIgnoringCase, String.toList_ofList]
    rfl
  have hscope : withoutScope scopes name.toList = .ok name.toList :=
    withoutScope_of_no_dot (by decide) (isSingleByte_name h) fun c hc =>
      (plain_of_inColumnName (h.2 c hc)).2.1
  unfold itemAnswer
  rw [itemParts_of_no_blank (not_blank_of_mem h)]
  dsimp only
  rw [hdatabase, if_neg Bool.false_ne_true, trim_of_forall (not_blank_of_mem h), withoutMarks_name h, hscope]
  change Except.ok (String.ofList name.toList,
    some ((variableValue? (String.ofList name.toList)).getD unknownValue)) = _
  rw [String.ofList_toList]

/-- **A list of one bare name is answered by one row.** -/
theorem selectVariables_name (h : IsName name) (database : Option String) :
    selectVariables database ("@@".toList ++ name.toList) = .ok (questionResult name) := by
  have hblank := not_blank_of_mem h
  have hcomma : ',' ∉ "@@".toList ++ name.toList := by
    rw [List.mem_append, not_or]
    exact ⟨by decide, fun hc => (plain_of_inColumnName (h.2 ',' hc)).2.2.2.1 rfl⟩
  have hsome : ("@@".toList ++ name.toList).isEmpty = false := rfl
  rw [selectVariables, itemList_of_no_blank hblank, splitAtCommas_of_not_mem hcomma, List.map_singleton,
    trim_of_forall hblank, List.filter_cons, hsome, Bool.not_false, if_pos rfl, List.filter_nil,
    List.mapM_cons, itemAnswer_name h]
  rfl

end Introspection

/-! ## The answer -/

open Introspection in
/-- **A question for one variable is answered by one row under its name**, over every backend in every
state. -/
theorem Command.dispatch_question {σ : Type} (h : IsName name) (backend : Backend σ) (session : Session)
    (state : σ) :
    dispatch backend session state (0x03 :: encode (String.ofList (question name))) =
      ⟨.ok (report session (questionResult name)), session, state⟩ := by
  have hquery : dispatch backend session state (0x03 :: encode (String.ofList (question name))) =
      query backend session state (clean (decode (encode (String.ofList (question name))))) := rfl
  have hasks : asksForVariables (String.ofList (question name)) = true := by
    rw [asksForVariables, String.toList_ofList]
    rfl
  have hsome : (String.ofList (question name)).isEmpty = false := by
    refine Bool.eq_false_iff.2 fun hempty => ?_
    rw [String.isEmpty_iff.1 hempty] at hasks
    exact absurd hasks (by decide)
  have hanswer (view : View) : answer view (String.ofList (question name)) =
      .ok (some (questionResult name)) := by
    have hdrop : (question name).drop "SELECT ".length = "@@".toList ++ name.toList := rfl
    rw [answer_of_asksForVariables view hasks, String.toList_ofList, hdrop, selectVariables_name h]
    rfl
  rw [hquery, decode_encode, clean_question h, query, hsome, useStatement?_of_asksForVariables hasks, hanswer]
  rfl

end WireSql
