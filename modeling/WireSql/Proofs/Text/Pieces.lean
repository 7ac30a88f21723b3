import Mathlib.Data.List.DropRight
import Mathlib.Data.List.TakeDrop
import WireSql.Text.Blank
import WireSql.Text.Keyword
import WireSql.Text.Search

/-!
# `WireSql.Proofs.Text.Pieces`: pieces of a text that are found where they stand

Trimming takes nothing from a text that begins and ends with other characters (`trim_eq_self`), a split
at a mark finds the mark behind a text without it, and a search for the longest lead finds one that runs
up to the first character that is not admitted.

A search for the shortest lead is another matter: it stops at the first place that its continuation
accepts, so that a lead is found only where the continuation `Rejects` every place before
(`shortest?_append`). The continuations of a statement look for a keyword behind blanks. They reject all
places in a text whose blanks stand in front of other characters (`rejects_of_isClear`).
-/

namespace WireSql.Text

variable {α : Type}

/-- What is said of the characters of a text is decided by trying these, not all that there are. -/
instance (priority := high) decidableForallMem (s : List Char) (p : Char → Prop) [DecidablePred p] :
    Decidable (∀ c ∈ s, p c) := List.decidableBAll p s

/-! ## Trimming -/

theorem dropEndWhile_eq_rdropWhile (p : Char → Bool) (s : List Char) :
    dropEndWhile p s = s.rdropWhile p := rfl

theorem dropEndWhile_concat {p : Char → Bool} {c : Char} (hc : p c = false) (s : List Char) :
    dropEndWhile p (s ++ [c]) = s ++ [c] :=
  List.rdropWhile_concat_neg p s c (by simp [hc])

/-- Nothing is taken from a text whose ends are to be kept. -/
theorem dropAroundWhile_eq_self {p : Char → Bool} {s : List Char} (hhead : ∀ c ∈ s.head?, p c = false)
    (hlast : ∀ c ∈ s.getLast?, p c = false) : dropAroundWhile p s = s := by
  cases s with
  | nil => rfl
  | cons c r =>
    rw [dropAroundWhile, List.dropWhile_cons_of_neg (by simp [hhead c rfl])]
    obtain ⟨lead, d, hd⟩ := List.eq_nil_or_concat (c :: r) |>.resolve_left (by simp)
    rw [List.concat_eq_append] at hd
    rw [hd] at hlast ⊢
    exact dropEndWhile_concat (hlast d (by simp)) lead

theorem dropAroundWhile_of_forall {p : Char → Bool} {s : List Char} (h : ∀ c ∈ s, p c = false) :
    dropAroundWhile p s = s :=
  dropAroundWhile_eq_self (fun c hc => h c (List.mem_of_mem_head? hc)) fun c hc =>
    h c (List.mem_of_getLast? hc)

/-- A text that neither begins nor ends with a blank is trimmed already. -/
theorem trim_eq_self {s : List Char} (hhead : ∀ c ∈ s.head?, isBlank c = false)
    (hlast : ∀ c ∈ s.getLast?, isBlank c = false) : trim s = s := dropAroundWhile_eq_self hhead hlast

theorem trim_of_forall {s : List Char} (h : ∀ c ∈ s, isBlank c = false) : trim s = s :=
  dropAroundWhile_of_forall h

/-- Nothing is trimmed between two characters that are no blanks. -/
theorem trim_between {a b : Char} (ha : isBlank a = false) (hb : isBlank b = false) (s : List Char) :
    trim (a :: (s ++ [b])) = a :: (s ++ [b]) := by
  rw [trim, dropAroundWhile, List.dropWhile_cons_of_neg (by simp [ha])]
  exact dropEndWhile_concat hb (a :: s)

/-- A blank in front does not matter to what trims its text. -/
theorem trim_cons_of_blank {c : Char} (hc : isBlank c = true) (s : List Char) :
    trim (c :: s) = trim s := by
  rw [trim, trim, dropAroundWhile, dropAroundWhile, List.dropWhile_cons_of_pos hc]

/-- Nor does one at the end. -/
theorem trim_concat_of_blank {c : Char} (hc : isBlank c = true) (s : List Char) :
    trim (s ++ [c]) = trim s := by
  rw [trim, trim, dropAroundWhile, dropAroundWhile, List.dropWhile_append]
  split
  · next h =>
    rw [List.isEmpty_iff] at h
    rw [h, List.dropWhile_cons_of_pos hc, List.dropWhile_nil]
  · exact List.rdropWhile_concat_pos isBlank _ c hc

/-- A pair of marks around a text that holds none of them is dropped. -/
theorem dropAroundWhile_between {p : Char → Bool} {a b : Char} (ha : p a = true) (hb : p b = true)
    {s : List Char} (h : ∀ c ∈ s, p c = false) : dropAroundWhile p (a :: (s ++ [b])) = s := by
  rw [dropAroundWhile, List.dropWhile_cons_of_pos ha, List.dropWhile_append]
  cases s with
  | nil => simp [hb, dropEndWhile]
  | cons c r =>
    rw [List.dropWhile_cons_of_neg (by simp [h]), if_neg (by simp), dropEndWhile_eq_rdropWhile,
      List.rdropWhile_concat_pos p _ b hb, List.rdropWhile_eq_self_iff]
    intro hne
    simp [h _ (List.getLast_mem hne)]

/-- A character in front of a text is in front of what the text is a lead of. -/
theorem mem_head?_of_lead {lead s : List Char} {c : Char} (h : lead <+: s) (hc : c ∈ lead.head?) :
    c ∈ s.head? := by
  obtain ⟨rest, rfl⟩ := h
  rw [List.head?_append, hc]
  rfl

/-- Behind a text that has been freed of its end there is nothing more to drop. -/
theorem not_of_getLast?_dropEndWhile {p : Char → Bool} {s : List Char} :
    ∀ c ∈ (dropEndWhile p s).getLast?, p c = false := by
  intro c hc
  obtain ⟨hne, rfl⟩ := List.mem_getLast?_eq_getLast hc
  exact Bool.eq_false_iff.2 (List.rdropWhile_last_not p s hne)

theorem not_of_head?_dropAroundWhile {p : Char → Bool} {s : List Char} :
    ∀ c ∈ (dropAroundWhile p s).head?, p c = false := by
  intro c hc
  have hhead : (s.dropWhile p).head? = some c := mem_head?_of_lead (List.rdropWhile_prefix p _) hc
  have hnot := List.head?_dropWhile_not p s
  rw [hhead] at hnot
  exact hnot

theorem dropAroundWhile_idempotent {p : Char → Bool} {s : List Char} :
    dropAroundWhile p (dropAroundWhile p s) = dropAroundWhile p s :=
  dropAroundWhile_eq_self not_of_head?_dropAroundWhile not_of_getLast?_dropEndWhile

/-! ## Splits -/

theorem splitAtFirst?_append {mark : Char} {lead : List Char} (h : mark ∉ lead) (rest : List Char) :
    splitAtFirst? mark (lead ++ mark :: rest) = some (lead, rest) := by
  induction lead with
  | nil => simp [splitAtFirst?]
  | cons c lead ih =>
    obtain ⟨hc, hlead⟩ := not_or.1 (mt List.mem_cons.2 h)
    rw [List.cons_append, splitAtFirst?, if_neg (by simpa using Ne.symm hc), ih hlead, Option.map_some]

theorem splitAtFirst?_eq_none {mark : Char} {s : List Char} (h : mark ∉ s) :
    splitAtFirst? mark s = none := by
  induction s with
  | nil => rfl
  | cons c s ih =>
    obtain ⟨hc, hs⟩ := not_or.1 (mt List.mem_cons.2 h)
    rw [splitAtFirst?, if_neg (by simpa using Ne.symm hc), ih hs, Option.map_none]

theorem splitAtLast?_concat (mark : Char) (s : List Char) :
    splitAtLast? mark (s ++ [mark]) = some (s, []) := by
  induction s with
  | nil => simp [splitAtLast?]
  | cons c s ih => rw [List.cons_append, splitAtLast?, ih]

/-- A run of characters ends in front of the first one that does not belong to it. -/
theorem span_append {p : Char → Bool} {lead rest : List Char} (hlead : ∀ c ∈ lead, p c = true)
    (hrest : ∀ c ∈ rest.head?, p c = false) : (lead ++ rest).span p = (lead, rest) := by
  rw [List.span_eq_takeWhile_dropWhile, List.takeWhile_append_of_pos hlead,
    List.dropWhile_append_of_pos hlead]
  cases rest with
  | nil => simp
  | cons c rest =>
    have hc : ¬ p c = true := by simp [hrest c rfl]
    rw [List.takeWhile_cons_of_neg hc, List.dropWhile_cons_of_neg hc, List.append_nil]

/-! ## The longest lead -/

/-- A lead that cannot be longer is the longest one. -/
theorem longest?_append {admits : Char → Bool} {k : List Char → Option α} {lead rest : List Char}
    {a : α} (hlead : ∀ c ∈ lead, admits c = true) (hrest : ∀ c ∈ rest.head?, admits c = false)
    (hk : k rest = some a) : longest? admits k (lead ++ rest) = some (lead, a) := by
  induction lead with
  | nil =>
    cases rest with
    | nil => simp [longest?, hk]
    | cons c rest => simp [longest?, hrest c rfl, hk]
  | cons c lead ih =>
    rw [List.forall_mem_cons] at hlead
    rw [List.cons_append, longest?, if_pos hlead.1, ih hlead.2]

theorem longestNonempty?_append {admits : Char → Bool} {k : List Char → Option α}
    {lead rest : List Char} {a : α} (hne : lead ≠ []) (hlead : ∀ c ∈ lead, admits c = true)
    (hrest : ∀ c ∈ rest.head?, admits c = false) (hk : k rest = some a) :
    longestNonempty? admits k (lead ++ rest) = some (lead, a) := by
  obtain ⟨c, lead, rfl⟩ := List.exists_cons_of_ne_nil hne
  rw [List.forall_mem_cons] at hlead
  rw [List.cons_append, longestNonempty?, if_pos hlead.1, longest?_append hlead.2 hrest hk,
    Option.map_some]

/-! ## The shortest lead -/

/-- The continuation accepts no place in `s`, where `rest` follows. -/
def Rejects (k : List Char → Option α) : List Char → List Char → Prop
  | [], _ => True
  | c :: s, rest => k (c :: (s ++ rest)) = none ∧ Rejects k s rest

variable {k : List Char → Option α} {s t rest : List Char}

theorem rejects_append : Rejects k (s ++ t) rest ↔ Rejects k s (t ++ rest) ∧ Rejects k t rest := by
  induction s with
  | nil => simp [Rejects]
  | cons c s ih => rw [List.cons_append, Rejects, Rejects, ih, List.append_assoc, and_assoc]

/-- **The shortest lead runs past every place that is rejected**, as far as its characters are admitted. -/
theorem shortest?_append_of_admits {admits : Char → Bool} (hadmits : ∀ c ∈ s, admits c = true)
    (h : Rejects k s rest) :
    shortest? admits k (s ++ rest) = (shortest? admits k rest).map fun m => (s ++ m.1, m.2) := by
  induction s with
  | nil => simp
  | cons c s ih =>
    obtain ⟨hc, hs⟩ := h
    rw [List.forall_mem_cons] at hadmits
    rw [List.cons_append, shortest?, hc, if_pos hadmits.1, ih hadmits.2 hs]
    cases shortest? admits k rest <;> rfl

theorem shortest?_append (h : Rejects k s rest) :
    shortest? (fun _ => true) k (s ++ rest) =
      (shortest? (fun _ => true) k rest).map fun m => (s ++ m.1, m.2) :=
  shortest?_append_of_admits (fun _ _ => rfl) h

/-- A lead that must not be empty is the shortest one where the first place is rejected. -/
theorem shortestNonempty?_of_none {c : Char} (h : k (c :: s) = none) :
    shortestNonempty? (fun _ => true) k (c :: s) = shortest? (fun _ => true) k (c :: s) := by
  simp [shortestNonempty?, shortest?, h]

theorem shortest?_of_some {admits : Char → Bool} {a : α} (h : k s = some a) :
    shortest? admits k s = some ([], a) := by
  cases s <;> simp [shortest?, h]

/-! ## Places in front of a keyword -/

/-- Apart from the end of a text the continuation accepts only places where blanks stand in front of
the keyword. -/
def Seeks (word : String) (k : List Char → Option α) : Prop :=
  ∀ c s, (afterBlanks? (c :: s)).bind (afterKeyword? word) = none → k (c :: s) = none

/-- Does every blank in the text stand in front of a character that is neither a blank nor the first
letter of a keyword? -/
def isClear (letter : Char) : List Char → Bool
  | [] => true
  | c :: s => (!isBlank c || s.head?.any fun d => !isBlank d && fold d != letter) && isClear letter s

variable {word : String} {letter : Char}

theorem isClear_of_forall (h : ∀ c ∈ s, isBlank c = false) : isClear letter s = true := by
  induction s with
  | nil => rfl
  | cons c s ih =>
    rw [List.forall_mem_cons] at h
    rw [isClear, h.1, ih h.2]
    rfl

/-- A blank is clear in front of another character. -/
theorem isClear_blank_cons {b c : Char} (hblank : isBlank c = false) (hletter : fold c ≠ letter)
    (h : isClear letter (c :: s) = true) : isClear letter (b :: c :: s) = true := by
  rw [isClear, h]
  simp [hblank, hletter]

theorem isClear_append (hs : isClear letter s = true) (ht : isClear letter t = true) :
    isClear letter (s ++ t) = true := by
  induction s with
  | nil => exact ht
  | cons c s ih =>
    rw [isClear, Bool.and_eq_true] at hs
    rw [List.cons_append, isClear, ih hs.2, Bool.and_true]
    cases s with
    | nil =>
      have hc : isBlank c = false := by simpa using hs.1
      rw [hc]
      rfl
    | cons d s => exact hs.1

/-- A keyword that begins with the letter is not met behind the blanks of a clear text. -/
theorem rejects_of_isClear (letter : Char) (hk : Seeks word k)
    (hletter : word.toList.head?.map fold = some letter)
    (hs : isClear letter s = true) : Rejects k s rest := by
  induction s with
  | nil => trivial
  | cons c s ih =>
    rw [isClear, Bool.and_eq_true] at hs
    refine ⟨hk c _ ?_, ih hs.2⟩
    cases hc : isBlank c with
    | false => simp [afterBlanks?, hc]
    | true =>
      rw [hc, Bool.not_true, Bool.false_or, Option.any_eq_true] at hs
      obtain ⟨⟨d, hd, hdc⟩, -⟩ := hs
      obtain ⟨s, rfl⟩ := List.head?_eq_some_iff.1 hd
      rw [Bool.and_eq_true, Bool.not_eq_true', bne_iff_ne] at hdc
      obtain ⟨w, hw, rfl⟩ := Option.map_eq_some_iff.1 hletter
      obtain ⟨ws, hws⟩ := List.head?_eq_some_iff.1 hw
      rw [afterBlanks?, if_pos hc, Option.bind_some, List.cons_append,
        skipBlanks_cons_of_not_blank hdc.1, afterKeyword?, hws, afterKeyword?.go,
        if_neg (by simpa using Ne.symm hdc.2)]

end WireSql.Text
