import WireSql.Proofs.Sql.Splitting

/-!
# `WireSql.Proofs.Sql.TopLevel`: every cut of a text is at its top level

A scan cuts a text while it goes through it, and skips what is left of a separator that it has found.
`Cutting` says which cuts these are without a scan that skips: in front of the first separator stands a text
that is `Clear` of separators at the top level, behind which the scan is back where it began, and what follows
the separator is cut in the same way (`cutting_cutFrom`).

Whether a text is clear of separators depends on what follows it, as a conjunction may begin with its last
blank. With nothing behind it there are fewer, so that a part alone is not cut again.

Main statement: `topLevelCuts_cut`, on any text with quotes and parentheses that need not be closed.
-/

namespace WireSql.Sql

open Text

variable {separator : Separator} {a : Scan} {c : Char} {s part mark rest : List Char} {cuts : Cuts}

/-! ## Scans -/

/-- The scan behind a text. -/
def Scan.over (a : Scan) (s : List Char) : Scan := s.foldl Scan.next a

/-- Only inside a quote can a character be taken as it is. -/
def Scan.IsSettled (a : Scan) : Prop := a.quote = none → a.escaped = false

theorem Scan.over_append (a : Scan) (s t : List Char) : a.over (s ++ t) = (a.over s).over t :=
  List.foldl_append

theorem Scan.IsSettled.next (h : a.IsSettled) (c : Char) : (a.next c).IsSettled := by
  obtain ⟨quote, escaped, depth⟩ := a
  cases quote with
  | none =>
    have hescaped : escaped = false := h rfl
    unfold Scan.next IsSettled
    grind
  | some mark =>
    unfold Scan.next IsSettled
    grind

theorem Scan.IsSettled.over (h : a.IsSettled) (s : List Char) : (a.over s).IsSettled := by
  induction s generalizing a with
  | nil => exact h
  | cons c s ih => exact ih (h.next c)

/-- **At the top level the scan is where it began.** -/
theorem Scan.IsSettled.eq_within (h : a.IsSettled) (htop : a.isTop = true) : a = .within 0 := by
  obtain ⟨quote, escaped, depth⟩ := a
  unfold isTop at htop
  rw [Bool.and_eq_true, beq_iff_eq, Option.isNone_iff_eq_none] at htop
  obtain ⟨rfl, rfl⟩ : quote = none ∧ depth = 0 := htop
  obtain rfl : escaped = false := h rfl
  rfl

/-! ## Separators -/

/-- **The text is a separator**: a comma, or the letters of `AND` between two blanks. -/
def Separator.IsMark : Separator → List Char → Prop
  | comma, mark => mark = [',']
  | conjunction, mark => ∃ blank a n d blank', mark = [blank, a, n, d, blank'] ∧ isPlainBlank blank = true ∧
    a.toUpper = 'A' ∧ n.toUpper = 'N' ∧ d.toUpper = 'D' ∧ isPlainBlank blank' = true

theorem Separator.IsMark.length (h : separator.IsMark mark) : mark.length = separator.width := by
  cases separator with
  | comma => exact congrArg List.length h
  | conjunction =>
    obtain ⟨blank, a, n, d, blank', rfl, -⟩ := h
    rfl

/-- **A separator is found at the front of a text** where the text is one with anything behind it. -/
theorem heads_iff : separator.heads s = true ↔ ∃ mark rest, s = mark ++ rest ∧ separator.IsMark mark := by
  cases separator with
  | comma =>
    constructor
    · intro h
      cases s with
      | nil => cases h
      | cons c s => exact ⟨[c], s, rfl, congrArg (fun c => [c]) (beq_iff_eq.mp h)⟩
    · rintro ⟨mark, rest, rfl, rfl⟩
      rfl
  | conjunction =>
    constructor
    · intro h
      rcases s with _ | ⟨blank, _ | ⟨a, _ | ⟨n, _ | ⟨d, _ | ⟨blank', rest⟩⟩⟩⟩⟩
      case cons.cons.cons.cons.cons =>
        simp only [Separator.heads, Bool.and_eq_true, beq_iff_eq] at h
        obtain ⟨⟨⟨⟨hblank, ha⟩, hn⟩, hd⟩, hblank'⟩ := h
        exact ⟨[blank, a, n, d, blank'], rest, rfl, blank, a, n, d, blank', rfl, hblank, ha, hn, hd, hblank'⟩
      all_goals cases h
    · rintro ⟨mark, rest, rfl, blank, a, n, d, blank', rfl, hblank, ha, hn, hd, hblank'⟩
      simp [Separator.heads, hblank, ha, hn, hd, hblank']

/-- What follows a separator does not matter to it. -/
theorem heads_append (h : separator.heads s = true) (rest : List Char) :
    separator.heads (s ++ rest) = true := by
  obtain ⟨mark, more, rfl, hmark⟩ := heads_iff.mp h
  exact heads_iff.mpr ⟨mark, more ++ rest, List.append_assoc _ _ _, hmark⟩

/-- A quote's mark and a parenthesis are no part of a separator. -/
theorem notMem_mark (hc : isQuote c = true ∨ c = '(' ∨ c = ')') (h : separator.IsMark mark) : c ∉ mark := by
  have hmarks : ((c = apostrophe ∨ c = quotationMark) ∨ c = backtick) ∨ c = '(' ∨ c = ')' := by
    simpa [isQuote] using hc
  have hplain : c ≠ ',' ∧ isPlainBlank c = false ∧ c.toUpper ≠ 'A' ∧ c.toUpper ≠ 'N' ∧ c.toUpper ≠ 'D' := by
    rcases hmarks with ((rfl | rfl) | rfl) | rfl | rfl <;> decide
  obtain ⟨hcomma, hblank, ha, hn, hd⟩ := hplain
  cases separator with
  | comma =>
    obtain rfl : mark = [','] := h
    exact mt List.mem_singleton.mp hcomma
  | conjunction =>
    obtain ⟨blank, a, n, d, blank', rfl, hblank₁, ha', hn', hd', hblank₂⟩ := h
    simp only [List.mem_cons, List.not_mem_nil, or_false]
    rintro (rfl | rfl | rfl | rfl | rfl)
    · exact Bool.false_ne_true (hblank.symm.trans hblank₁)
    · exact ha ha'
    · exact hn hn'
    · exact hd hd'
    · exact Bool.false_ne_true (hblank.symm.trans hblank₂)

/-- A character of a separator opens and closes nothing. -/
theorem next_within_of_mem_mark (h : separator.IsMark mark) (hc : c ∈ mark) :
    (Scan.within 0).next c = .within 0 := by
  have hplain : ¬ (isQuote c = true ∨ c = '(' ∨ c = ')') := fun hmark => notMem_mark hmark h hc
  obtain ⟨hquote, hopen, hclose⟩ : isQuote c ≠ true ∧ c ≠ '(' ∧ c ≠ ')' := by simpa using hplain
  exact next_within_of_plain (eq_false_of_ne_true hquote) hopen hclose

/-- **A separator leaves the scan at the top level.** -/
theorem over_mark (h : separator.IsMark mark) : (Scan.within 0).over mark = .within 0 := by
  have hover : ∀ s : List Char, (∀ c ∈ s, c ∈ mark) → (Scan.within 0).over s = .within 0 := by
    intro s hs
    induction s with
    | nil => rfl
    | cons c s ih =>
      rw [List.forall_mem_cons] at hs
      rw [Scan.over, List.foldl_cons, next_within_of_mem_mark h hs.1]
      exact ih hs.2
  exact hover mark fun _ hc => hc

/-! ## Texts without a separator -/

/-- **No separator begins at the top level anywhere in a text** that the scan goes through from `a` and behind
which `rest` stands. -/
inductive Clear (separator : Separator) (rest : List Char) : Scan → List Char → Prop where
  | nil (a : Scan) : Clear separator rest a []
  /-- No separator begins at the next character. -/
  | cons {a : Scan} {c : Char} {s : List Char} (hc : (a.isTop && separator.heads (c :: (s ++ rest))) = false)
      (hs : Clear separator rest (a.next c) s) : Clear separator rest a (c :: s)

/-- **With nothing behind it** a text has no separators that it did not have before. -/
theorem Clear.alone (h : Clear separator rest a s) : Clear separator [] a s := by
  induction h with
  | nil a => exact .nil a
  | @cons a c s hc hs ih =>
    refine .cons (eq_false_of_ne_true fun hcut => ?_) ih
    rw [List.append_nil, Bool.and_eq_true] at hcut
    have hheads : separator.heads (c :: (s ++ rest)) = true := heads_append hcut.2 rest
    rw [hcut.1, hheads] at hc
    cases hc

/-- **A separator in a text that is clear** stands inside quotes or parentheses. -/
theorem Clear.isTop_eq_false {front back : List Char} (h : Clear separator rest a s)
    (hsplit : s = front ++ (mark ++ back)) (hmark : separator.IsMark mark) : (a.over front).isTop = false := by
  induction h generalizing front with
  | nil =>
    obtain ⟨rfl, rfl, rfl⟩ : front = [] ∧ mark = [] ∧ back = [] := by simpa using hsplit.symm
    have hwidth := hmark.length
    cases separator <;> cases hwidth
  | @cons a c s hc hs ih =>
    cases front with
    | nil =>
      have hheads : separator.heads (c :: (s ++ rest)) = true := by
        rw [← List.cons_append, hsplit]
        exact heads_append (heads_iff.mpr ⟨mark, back, rfl, hmark⟩) rest
      rwa [hheads, Bool.and_true] at hc
    | cons d front =>
      obtain ⟨rfl, hs⟩ := List.cons.inj hsplit
      exact ih hs

theorem cutFrom_of_clear (h : Clear separator [] a s) : cutFrom separator 0 a s = ⟨[], s⟩ := by
  induction h with
  | nil => rfl
  | @cons a c s hc hs ih =>
    rw [List.append_nil] at hc
    rw [cutFrom, if_neg (ne_true_of_eq_false hc), ih]
    rfl

/-! ## Cuts -/

/-- **The cuts of a text** that the scan goes through from `a`. -/
inductive Cutting (separator : Separator) : Scan → List Char → Cuts → Prop where
  /-- A text without a separator is not cut. -/
  | last {a : Scan} {s : List Char} (h : Clear separator [] a s) : Cutting separator a s ⟨[], s⟩
  /-- A text is cut at its first separator, and what follows the separator is cut. -/
  | cut {a : Scan} {part mark rest : List Char} {cuts : Cuts} (hpart : Clear separator (mark ++ rest) a part)
      (htop : (a.over part).isTop = true) (hmark : separator.IsMark mark)
      (hrest : Cutting separator (a.over part) rest cuts) :
      Cutting separator a (part ++ (mark ++ rest)) ⟨(part, mark) :: cuts.before, cuts.last⟩

/-- A character at which no separator begins belongs to the first part. -/
theorem Cutting.cons (hc : (a.isTop && separator.heads (c :: s)) = false)
    (h : Cutting separator (a.next c) s cuts) : Cutting separator a (c :: s) (cuts.cons c) := by
  cases h with
  | last h => exact .last (.cons (by rwa [List.append_nil]) h)
  | cut hpart htop hmark hrest => exact .cut (.cons hc hpart) htop hmark hrest

/-- **The scan makes the cuts of the text**, and of what is left of it behind a separator. -/
theorem cutting_cutFrom (separator : Separator) (skip : Nat) (a : Scan) (s : List Char) :
    Cutting separator a (s.drop skip) (cutFrom separator skip a s) := by
  induction s generalizing skip a with
  | nil =>
    rw [List.drop_nil]
    unfold cutFrom
    exact .last (.nil a)
  | cons c r ih =>
    cases skip with
    | succ skip => exact ih skip a
    | zero =>
      rw [cutFrom, List.drop_zero]
      split
      · next hcut =>
        rw [Bool.and_eq_true] at hcut
        obtain ⟨mark, rest, hsplit, hmark⟩ := heads_iff.mp hcut.2
        have htake : (c :: r).take separator.width = mark := by
          rw [hsplit, List.take_left' hmark.length]
        have hdrop : r.drop (separator.width - 1) = rest := by
          have hbehind : (c :: r).drop separator.width = rest := by
            rw [hsplit, List.drop_left' hmark.length]
          cases separator with
          | comma => exact hbehind
          | conjunction => exact hbehind
        have hrest := ih (separator.width - 1) a
        rw [hdrop] at hrest
        rw [htake, hsplit]
        exact .cut (.nil a) hcut.1 hmark hrest
      · next hcut => exact (ih 0 (a.next c)).cons (eq_false_of_ne_true hcut)

/-- Behind a text at the end of which the scan is at the top level it is where it began. -/
theorem over_eq_within (h : ((Scan.within 0).over s).isTop = true) : (Scan.within 0).over s = .within 0 := by
  have hsettled : (Scan.within 0).IsSettled := fun _ => rfl
  exact (hsettled.over s).eq_within h

theorem isMark_of_cutting (h : Cutting separator a s cuts) : ∀ p ∈ cuts.before, separator.IsMark p.2 := by
  induction h with
  | last => exact fun p hp => absurd hp List.not_mem_nil
  | cut _ _ hmark _ ih => exact List.forall_mem_cons.mpr ⟨hmark, ih⟩

/-- **Whatever is in front of a cut** ends at the top level. -/
theorem isTop_of_cutting (h : Cutting separator (.within 0) s cuts) {lead later : List (List Char × List Char)}
    (hcut : cuts.before = lead ++ (part, mark) :: later) :
    ((Scan.within 0).over (Cuts.join ⟨lead, part⟩)).isTop = true := by
  generalize ha : Scan.within 0 = a at h
  induction h generalizing lead with
  | last => cases lead <;> cases hcut
  | @cut a first mark' rest cuts _ htop hmark _ ih =>
    subst ha
    have hback := over_eq_within htop
    cases lead with
    | nil =>
      obtain rfl : first = part := congrArg Prod.fst (List.cons.inj hcut).1
      exact htop
    | cons p lead =>
      obtain ⟨rfl, hlater⟩ := List.cons.inj hcut
      have hjoin : Cuts.join ⟨(first, mark') :: lead, part⟩ = first ++ (mark' ++ Cuts.join ⟨lead, part⟩) := by
        simp [Cuts.join]
      rw [hjoin, Scan.over_append, Scan.over_append, hback, over_mark hmark]
      rw [hback] at ih
      exact ih hlater rfl

/-- The parts are clear of separators, each read alone. -/
theorem clear_of_cutting (h : Cutting separator (.within 0) s cuts) :
    ∀ part ∈ cuts.parts, Clear separator [] (.within 0) part := by
  generalize ha : Scan.within 0 = a at h
  induction h with
  | last hclear => exact List.forall_mem_singleton.mpr (ha ▸ hclear)
  | cut hpart htop _ _ ih =>
    subst ha
    rw [over_eq_within htop] at ih
    exact List.forall_mem_cons.mpr ⟨hpart.alone, ih rfl⟩

/-- **What is promised of the cuts of a text.** -/
structure TopLevelCuts (separator : Separator) (s : List Char) (cuts : Cuts) : Prop where
  /-- Splitting the text gives the parts. -/
  parts : splitTopLevel separator s = cuts.parts
  /-- The parts with the separators between them make up the text. -/
  join : cuts.join = s
  /-- Only a separator is taken out, and all of it. -/
  marks : ∀ p ∈ cuts.before, separator.IsMark p.2
  /-- At every cut the scan of the text in front of it is outside quotes and parentheses. -/
  top : ∀ lead part mark later, cuts.before = lead ++ (part, mark) :: later →
    (Scan.over {} (Cuts.join ⟨lead, part⟩)).isTop = true
  /-- No separator at the top level is left: one that stands in a part is inside quotes or parentheses. -/
  uncut : ∀ part ∈ splitTopLevel separator s, ∀ front mark back, part = front ++ (mark ++ back) →
    separator.IsMark mark → (Scan.over {} front).isTop = false
  /-- Splitting a part again gives just that part. -/
  whole : ∀ part ∈ splitTopLevel separator s, splitTopLevel separator part = [part]

/-- **A text is cut at its top level only, there at every separator, and nothing of it is lost.** -/
theorem topLevelCuts_cut (separator : Separator) (s : List Char) :
    TopLevelCuts separator s (cut separator s) where
  parts := rfl
  join := join_cut separator s
  marks := isMark_of_cutting (cutting_cutFrom separator 0 {} s)
  top _ _ _ _ := isTop_of_cutting (cutting_cutFrom separator 0 {} s)
  uncut part hpart _ _ _ :=
    (clear_of_cutting (cutting_cutFrom separator 0 {} s) part hpart).isTop_eq_false
  whole part hpart :=
    congrArg Cuts.parts (cutFrom_of_clear (clear_of_cutting (cutting_cutFrom separator 0 {} s) part hpart))

/-- A parenthesis that opens nothing, a comma between parentheses, and one in a quote that is never closed. -/
example : cut .comma "),(a, b), 'c, d".toList =
    ⟨[([')'], [',']), ("(a, b)".toList, [','])], " 'c, d".toList⟩ := by decide

end WireSql.Sql
