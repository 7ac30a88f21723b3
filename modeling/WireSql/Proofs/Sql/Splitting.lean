import WireSql.Proofs.Text.Pieces
import WireSql.Sql.Printer
import WireSql.Sql.Split

/-!
# `WireSql.Proofs.Sql.Splitting`: printed lists are cut into their items

A scan `Passes` through a piece of text if it meets no separator at the top level there, whatever
follows. Names and literals are passed at every depth: a mark that stands twice in a literal closes the
quote and opens it again, and what a backslash takes as it is is a backslash or a mark
(`passes_quoted`). So is everything between parentheses.

A text in which a separator stands behind such a piece is cut there (`splitTopLevel_append`), and thus a
printed list into its items (`splitTopLevel_list`, `splitTopLevel_conjunction`). The last item may be of
any kind: it need not even close its quotes.
-/

namespace WireSql.Sql

open Text

/-! ## Pieces that are passed -/

/-- **The scan goes through the text from `a` to `b`** and meets no separator at the top level, whatever
follows the text. -/
inductive Passes (separator : Separator) : Scan → List Char → Scan → Prop where
  | nil (a : Scan) : Passes separator a [] a
  /-- No separator begins at the next character. -/
  | cons {a b : Scan} {c : Char} {s : List Char}
      (hc : ∀ rest, (a.isTop && separator.heads (c :: (s ++ rest))) = false)
      (hs : Passes separator (a.next c) s b) : Passes separator a (c :: s) b

/-- May a separator begin with the character? -/
def Separator.mayBegin : Separator → Char → Bool
  | comma, c => c == ','
  | conjunction, c => isPlainBlank c

/-- The scan outside quotes, with so many parentheses open. -/
def Scan.within (depth : Nat) : Scan := { depth }

/-- The scan inside a quote that the mark closes. -/
def Scan.quoted (mark : Char) (depth : Nat) : Scan := { quote := some mark, depth }

variable {separator : Separator} {a b d : Scan} {c : Char} {s t : List Char} {depth : Nat}

theorem Passes.append (hs : Passes separator a s b) (ht : Passes separator b t d) :
    Passes separator a (s ++ t) d := by
  induction hs with
  | nil => exact ht
  | cons hc _ ih =>
    refine .cons (fun rest => ?_) (ih ht)
    have h := hc (t ++ rest)
    rwa [← List.append_assoc] at h

theorem heads_of_not_mayBegin (h : separator.mayBegin c = false) (s : List Char) :
    separator.heads (c :: s) = false := by
  cases separator with
  | comma => exact h
  | conjunction =>
    have hblank : isPlainBlank c = false := h
    unfold Separator.heads
    split
    · next heq _ => cases heq
    · next heq =>
      obtain rfl := (List.cons.inj heq).1
      simp [hblank]
    · rfl

theorem passes_cons_of_not_mayBegin (h : separator.mayBegin c = false)
    (hs : Passes separator (a.next c) s b) : Passes separator a (c :: s) b :=
  .cons (fun rest => by rw [heads_of_not_mayBegin h, Bool.and_false]) hs

/-- Inside quotes and parentheses any character is passed. -/
theorem passes_cons_of_not_isTop (h : a.isTop = false) (hs : Passes separator (a.next c) s b) :
    Passes separator a (c :: s) b :=
  .cons (fun rest => by rw [h, Bool.false_and]) hs

@[simp] theorem isTop_within_succ (depth : Nat) : (Scan.within (depth + 1)).isTop = false := by
  simp [Scan.within, Scan.isTop]

/-- A character that opens and closes nothing leaves a scan outside quotes where it is. -/
theorem next_within_of_plain (hquote : isQuote c = false) (hopen : c ≠ '(') (hclose : c ≠ ')') :
    (Scan.within depth).next c = .within depth := by
  simp [Scan.within, Scan.next, hquote, hopen, hclose]

theorem next_within_of_quote (hquote : isQuote c = true) :
    (Scan.within depth).next c = .quoted c depth := by
  simp [Scan.within, Scan.next, hquote, Scan.quoted]

theorem next_quoted_self (hc : c ≠ backslash) : (Scan.quoted c depth).next c = .within depth := by
  simp [Scan.within, Scan.next, hc, Scan.quoted]

theorem next_quoted_of_plain {mark : Char} (hmark : c ≠ mark) (hbackslash : c ≠ backslash) :
    (Scan.quoted mark depth).next c = .quoted mark depth := by
  simp [Scan.next, hmark, hbackslash, Scan.quoted]

/-! ## Names and literals -/

/-- Characters that neither separate nor open or close anything are passed. -/
theorem passes_of_forall
    (h : ∀ c ∈ s, separator.mayBegin c = false ∧ isQuote c = false ∧ c ≠ '(' ∧ c ≠ ')') :
    Passes separator (.within depth) s (.within depth) := by
  induction s with
  | nil => exact .nil _
  | cons c s ih =>
    obtain ⟨⟨hbegin, hquote, hopen, hclose⟩, hs⟩ := List.forall_mem_cons.1 h
    refine passes_cons_of_not_mayBegin hbegin ?_
    rw [next_within_of_plain hquote hopen hclose]
    exact ih hs

theorem passes_identifier {name : String} (h : backtick ∉ name.toList) :
    Passes separator (.within depth) (Print.identifier name) (.within depth) := by
  have hname : ∀ s : List Char, backtick ∉ s →
      Passes separator (.quoted backtick depth) (s ++ [backtick]) (.within depth) := by
    intro s hs
    induction s with
    | nil =>
      refine passes_cons_of_not_isTop rfl ?_
      rw [next_quoted_self (by decide)]
      exact .nil _
    | cons c s ih =>
      obtain ⟨hc, hs⟩ := not_or.1 (mt List.mem_cons.2 hs)
      refine passes_cons_of_not_isTop rfl ?_
      have hnext : (Scan.quoted backtick depth).next c = .quoted backtick depth := by
        simp [Scan.quoted, Scan.next, Ne.symm hc]
      rw [hnext]
      exact ih hs
  refine passes_cons_of_not_mayBegin (by cases separator <;> rfl) ?_
  rw [next_within_of_quote (by decide)]
  exact hname name.toList h

/-- **An escaped text leaves the scan in its quote.** -/
theorem passes_escape (s : List Char) :
    Passes separator (.quoted apostrophe depth) (Print.escape s) (.quoted apostrophe depth) := by
  induction s with
  | nil => exact .nil _
  | cons c s ih =>
    rw [Print.escape]
    split
    · next hc =>
      rw [Bool.or_eq_true, beq_iff_eq, beq_iff_eq] at hc
      rcases hc with rfl | rfl
      · -- the mark closes the quote and opens it again
        refine passes_cons_of_not_isTop rfl ?_
        rw [next_quoted_self (by decide)]
        refine passes_cons_of_not_mayBegin (by cases separator <;> rfl) ?_
        rwa [next_within_of_quote (by decide)]
      · exact passes_cons_of_not_isTop rfl (passes_cons_of_not_isTop rfl ih)
    · next hc =>
      rw [Bool.or_eq_true, beq_iff_eq, beq_iff_eq, not_or] at hc
      refine passes_cons_of_not_isTop rfl ?_
      rwa [next_quoted_of_plain hc.1 hc.2]

/-- The scan is inside the quote once it has opened. -/
theorem passes_openQuote :
    Passes separator (.within depth) [apostrophe] (.quoted apostrophe depth) := by
  refine passes_cons_of_not_mayBegin (by cases separator <;> rfl) ?_
  rw [next_within_of_quote (by decide)]
  exact .nil _

theorem passes_quoted (s : List Char) :
    Passes separator (.within depth) (Print.quoted s) (.within depth) := by
  have hclose : Passes separator (.quoted apostrophe depth) [apostrophe] (.within depth) := by
    refine passes_cons_of_not_isTop rfl ?_
    rw [next_quoted_self (by decide)]
    exact .nil _
  exact passes_openQuote.append ((passes_escape s).append hclose)

/-! ## Lists between parentheses -/

/-- What is passed inside parentheses is passed with them. -/
theorem passes_parenthesised (h : Passes separator (.within (depth + 1)) s (.within (depth + 1))) :
    Passes separator (.within depth) (Print.parenthesised s) (.within depth) := by
  have hopen : Passes separator (.within depth) ['('] (.within (depth + 1)) :=
    passes_cons_of_not_mayBegin (by cases separator <;> rfl) (.nil _)
  have hclose : Passes separator (.within (depth + 1)) [')'] (.within depth) :=
    passes_cons_of_not_mayBegin (by cases separator <;> rfl) (.nil _)
  exact hopen.append (h.append hclose)

/-- What holds of pieces, of what stands between them and of texts that are put together holds of a
printed list. -/
theorem intercalate_closed {P : List Char → Prop} {mark : List Char} {items : List (List Char)}
    (hnil : P []) (happend : ∀ s t, P s → P t → P (s ++ t)) (hmark : P mark) (h : ∀ p ∈ items, P p) :
    P (List.intercalate mark items) := by
  induction items with
  | nil => exact hnil
  | cons p items ih =>
    rw [List.forall_mem_cons] at h
    cases items with
    | nil =>
      rw [List.intercalate_singleton]
      exact h.1
    | cons q items =>
      rw [List.intercalate_cons_cons]
      exact happend _ _ (happend _ _ h.1 hmark) (ih h.2)

/-- Inside parentheses the commas of a list do not count. -/
theorem passes_list {items : List (List Char)}
    (h : ∀ p ∈ items, Passes separator (.within (depth + 1)) p (.within (depth + 1))) :
    Passes separator (.within (depth + 1)) (Print.list items) (.within (depth + 1)) := by
  have hseparator : Passes separator (.within (depth + 1)) [',', ' '] (.within (depth + 1)) :=
    passes_cons_of_not_isTop (isTop_within_succ depth)
      (passes_cons_of_not_isTop (isTop_within_succ depth) (.nil _))
  exact intercalate_closed (.nil _) (fun _ _ hs ht => hs.append ht) hseparator h

/-! ## Cuts -/

theorem parts_cons (c : Char) (p : Cuts) : (p.cons c).parts = p.parts.modifyHead (c :: ·) := by
  rcases p with ⟨_ | ⟨⟨part, separator⟩, before⟩, last⟩ <;> rfl

/-- What is passed goes in front of the first part. -/
theorem parts_cutFrom_append (h : Passes separator a s b) (rest : List Char) :
    (cutFrom separator 0 a (s ++ rest)).parts =
      (cutFrom separator 0 b rest).parts.modifyHead (s ++ ·) := by
  induction h with
  | nil => exact (congrFun List.modifyHead_id _).symm
  | cons hc _ ih =>
    rw [List.cons_append, cutFrom, if_neg (by simp [hc rest]), parts_cons, ih, List.modifyHead_modifyHead]
    rfl

theorem cutFrom_skip (mark rest : List Char) :
    cutFrom separator mark.length a (mark ++ rest) = cutFrom separator 0 a rest := by
  induction mark with
  | nil => rfl
  | cons c mark ih => exact ih

/-- **A text is cut behind what is passed, where a separator stands.** -/
theorem splitTopLevel_append {mark : List Char} (hs : Passes separator (.within 0) s (.within 0))
    (hwidth : mark.length = separator.width) (hheads : ∀ rest, separator.heads (mark ++ rest) = true)
    (rest : List Char) :
    splitTopLevel separator (s ++ (mark ++ rest)) = s :: splitTopLevel separator rest := by
  refine (parts_cutFrom_append hs _).trans ?_
  cases mark with
  | nil => cases separator <;> cases hwidth
  | cons c mark =>
    have hskip : separator.width - 1 = mark.length := by
      rw [← hwidth, List.length_cons, Nat.add_sub_cancel]
    have hcut : (Scan.within 0).isTop && separator.heads (c :: (mark ++ rest)) := hheads rest
    rw [List.cons_append, cutFrom, if_pos hcut, hskip, cutFrom_skip]
    simp [Cuts.parts, splitTopLevel, cut, Scan.within]

/-- What is passed to its end is one part. -/
theorem splitTopLevel_of_passes (h : Passes separator (.within 0) s b) :
    splitTopLevel separator s = [s] := by
  have hparts := parts_cutFrom_append h []
  rw [List.append_nil] at hparts
  rw [splitTopLevel, cut]
  exact hparts.trans (by simp [cutFrom, Cuts.parts])

/-- Every item but the first with the blank that stands in front of it. -/
def spaced : List (List Char) → List (List Char)
  | [] => []
  | p :: items => p :: items.map (' ' :: ·)

theorem modifyHead_spaced (items : List (List Char)) :
    (spaced items).modifyHead (' ' :: ·) = items.map (' ' :: ·) := by
  cases items <;> rfl

theorem list_cons {items : List (List Char)} (h : items ≠ []) (p : List Char) :
    Print.list (p :: items) = p ++ ([','] ++ ([' '] ++ Print.list items)) := by
  obtain ⟨q, items, rfl⟩ := List.exists_cons_of_ne_nil h
  rw [Print.list, List.intercalate_cons_cons]
  simp [Print.list]

/-- **A printed list is cut into its items**, where all but the last are passed to their ends. -/
theorem splitTopLevel_list_concat {items : List (List Char)} {last : List Char}
    (hitems : ∀ p ∈ items, Passes .comma (.within 0) p (.within 0))
    (hlast : Passes .comma (.within 0) last b) :
    splitTopLevel .comma (Print.list (items ++ [last])) = spaced (items ++ [last]) := by
  induction items with
  | nil =>
    rw [List.nil_append, Print.list, List.intercalate_singleton]
    exact splitTopLevel_of_passes hlast
  | cons p items ih =>
    rw [List.forall_mem_cons] at hitems
    have hblank : Passes .comma (.within 0) [' '] (.within 0) :=
      passes_cons_of_not_mayBegin rfl (.nil _)
    -- the blank behind the comma goes to the next item
    have hrest : splitTopLevel .comma ([' '] ++ Print.list (items ++ [last])) =
        (splitTopLevel .comma (Print.list (items ++ [last]))).modifyHead (' ' :: ·) :=
      parts_cutFrom_append hblank _
    rw [List.cons_append, list_cons (by simp), splitTopLevel_append hitems.1 rfl fun _ => rfl, hrest,
      ih hitems.2, modifyHead_spaced]
    rfl

theorem splitTopLevel_list {items : List (List Char)} (hne : items ≠ [])
    (h : ∀ p ∈ items, Passes .comma (.within 0) p (.within 0)) :
    splitTopLevel .comma (Print.list items) = spaced items := by
  rw [← List.dropLast_append_getLast hne] at h ⊢
  rw [List.forall_mem_append] at h
  exact splitTopLevel_list_concat h.1 (h.2 _ (List.mem_singleton_self _))

/-- **Printed conditions are cut at the words between them.** -/
theorem splitTopLevel_conjunction {items : List (List Char)} (hne : items ≠ [])
    (h : ∀ p ∈ items, Passes .conjunction (.within 0) p (.within 0)) :
    splitTopLevel .conjunction (List.intercalate " AND ".toList items) = items := by
  induction items with
  | nil => exact absurd rfl hne
  | cons p items ih =>
    rw [List.forall_mem_cons] at h
    cases items with
    | nil =>
      rw [List.intercalate_singleton]
      exact splitTopLevel_of_passes h.1
    | cons q items =>
      rw [List.intercalate_cons_cons, List.append_assoc, splitTopLevel_append h.1 rfl fun _ => rfl,
        ih (by simp) h.2]

/-! ## Reading what was cut -/

variable {α ε : Type}

/-- A reader that does not mind a blank in front reads the parts of a list as its items. -/
theorem map_spaced {f : List Char → α} (hf : ∀ s, f (' ' :: s) = f s) (items : List (List Char)) :
    (spaced items).map f = items.map f := by
  cases items with
  | nil => rfl
  | cons p items => simp [spaced, hf]

theorem mapM_spaced {f : List Char → Except ε α} (hf : ∀ s, f (' ' :: s) = f s)
    (items : List (List Char)) : (spaced items).mapM f = items.mapM f := by
  cases items with
  | nil => rfl
  | cons p items =>
    have htail : (items.map (' ' :: ·)).mapM f = items.mapM f := by
      rw [List.mapM_map]
      exact congrArg (fun g => items.mapM g) (funext hf)
    rw [spaced, List.mapM_cons, List.mapM_cons, htail]

end WireSql.Sql
