import WireSql.Command

/-!
# `WireSql.Proofs.Introspection.Leads`: the words that statements begin with

A statement is recognised by what it begins with, ignoring ASCII letter case. `afterIgnoringCase?_eq_some`
says what a lead and the text behind it are. Two leads of which neither begins the other are `Apart`, and a
text that begins with one of them does not begin with the other.

A statement that begins with none of the texts that `answer` looks for is left to the store
(`answer_eq_none`), as is one whose first word is apart from all of them (`answer_of_word`).
-/

namespace WireSql

open Text

variable {s r : List Char} {lead word sql : String}

/-! ## Leads -/

namespace Text

/-- What follows a lead is what is left behind as many characters, which differ from it in letter case
only. -/
theorem afterIgnoringCase?_eq_some (h : afterIgnoringCase? lead s = some r) :
    ∃ head, s = head ++ r ∧ head.map Char.toUpper = lead.toList.map Char.toUpper := by
  have hgo : ∀ (l s : List Char), afterIgnoringCase?.go l s = some r →
      ∃ head, s = head ++ r ∧ head.map Char.toUpper = l.map Char.toUpper := by
    intro l
    induction l with
    | nil =>
      intro s h
      exact ⟨[], Option.some.inj h, rfl⟩
    | cons d l ih =>
      intro s h
      cases s with
      | nil => cases h
      | cons c s =>
        rw [afterIgnoringCase?.go] at h
        split at h
        · next hcd =>
          obtain ⟨head, rfl, hsame⟩ := ih s h
          exact ⟨c :: head, rfl, by rw [List.map_cons, List.map_cons, hsame, beq_iff_eq.1 hcd]⟩
        · cases h
  exact hgo lead.toList s h

theorem length_of_map_toUpper {head : List Char}
    (h : head.map Char.toUpper = lead.toList.map Char.toUpper) : head.length = lead.length := by
  simpa only [List.length_map, String.length_toList] using congrArg List.length h

theorem drop_of_afterIgnoringCase? (h : afterIgnoringCase? lead s = some r) :
    s.drop lead.length = r := by
  obtain ⟨head, rfl, hsame⟩ := afterIgnoringCase?_eq_some h
  rw [← length_of_map_toUpper hsame, List.drop_left]

/-- In capital letters, a lead is a prefix of what begins with it. -/
theorem prefix_of_starts (h : startsIgnoringCase lead s = true) :
    lead.toList.map Char.toUpper <+: s.map Char.toUpper := by
  obtain ⟨r, hr⟩ := Option.isSome_iff_exists.1 h
  obtain ⟨head, rfl, hsame⟩ := afterIgnoringCase?_eq_some hr
  rw [List.map_append, hsame]
  exact List.prefix_append _ _

/-- **Neither of two texts begins the other**, ignoring ASCII letter case. -/
def Apart (word lead : String) : Prop :=
  ¬ word.toList.map Char.toUpper <+: lead.toList.map Char.toUpper ∧
    ¬ lead.toList.map Char.toUpper <+: word.toList.map Char.toUpper

instance (word lead : String) : Decidable (Apart word lead) := inferInstanceAs (Decidable (_ ∧ _))

theorem Apart.not_starts (h : Apart word lead) (hword : startsIgnoringCase word s = true) :
    startsIgnoringCase lead s = false := by
  refine Bool.eq_false_iff.2 fun hlead => ?_
  rcases List.prefix_or_prefix_of_prefix (prefix_of_starts hword) (prefix_of_starts hlead) with hle | hle
  · exact h.1 hle
  · exact h.2 hle

theorem Apart.not_same (h : Apart word lead) (hword : startsIgnoringCase word sql.toList = true) :
    sameIgnoringCase sql lead = false := by
  refine Bool.eq_false_iff.2 fun hsame => ?_
  rw [sameIgnoringCase, beq_iff_eq] at hsame
  exact h.1 (hsame ▸ prefix_of_starts hword)

end Text

/-! ## Statements for the store -/

namespace Introspection

/-- The statements that are answered as a whole. -/
def wholeStatements : List String := ["SELECT 1", "SHOW DATABASES", "SHOW SCHEMAS", "SET"]

/-- The texts that the other statements which are answered begin with. -/
def answeredLeads : List String :=
  ["SELECT @@", "SELECT DATABASE()", "SHOW ENGINES", "SHOW CHARSET", "SHOW CHARACTER SET",
    "SHOW COLLATION", "SHOW PLUGINS", "SHOW VARIABLES", "SHOW SESSION VARIABLES",
    "SHOW GLOBAL VARIABLES", "SET "]

/-- A statement that is none of the first and begins with none of the second is left to the store. -/
theorem answer_eq_none (view : View) (hwhole : ∀ text ∈ wholeStatements, sameIgnoringCase sql text = false)
    (hleads : ∀ lead ∈ answeredLeads, startsIgnoringCase lead sql.toList = false) :
    answer view sql = .ok none := by
  simp only [wholeStatements, answeredLeads, List.forall_mem_cons] at hwhole hleads
  unfold answer
  simp only [beginsWith, List.any_cons, List.any_nil, hwhole, hleads, Bool.or_self, Bool.false_eq_true,
    if_false]

/-- A statement whose first word is apart from all of them is left to the store. -/
theorem answer_of_word (view : View) (hword : startsIgnoringCase word sql.toList = true)
    (hapart : ∀ text ∈ wholeStatements ++ answeredLeads, Apart word text) :
    answer view sql = .ok none := by
  rw [List.forall_mem_append] at hapart
  exact answer_eq_none view (fun text htext => (hapart.1 text htext).not_same hword)
    fun lead hlead => (hapart.2 lead hlead).not_starts hword

end Introspection

/-- A statement whose first word is apart from `USE` switches to no database. -/
theorem Command.useStatement?_of_word (hword : startsIgnoringCase word sql.toList = true)
    (hapart : Apart word "USE ") : useStatement? sql = none := by
  have hnone : afterIgnoringCase? "USE " sql.toList = none :=
    Option.isSome_eq_false_iff.1 (hapart.not_starts hword) |> Option.isNone_iff_eq_none.1
  rw [useStatement?, hnone, Option.map_none]

end WireSql
