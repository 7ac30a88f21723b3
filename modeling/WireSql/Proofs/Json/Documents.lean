import WireSql.Proofs.Json.Numbers

/-!
# `WireSql.Proofs.Json.Documents`: documents read back as they were written

A document that is made of whole strings and well-formed numbers (`Printable`) is read from its text as
it was: `parse?_render`. The parser takes no note of how deep a document is nested when it is printed,
but it does of what follows a part of it: a number must not run on. So a document `ReadsBack` if it is
read from its text at every level, with every text behind it that ends a number, by a parser with at
least as much fuel as the text is long. Items and members need one more unit, for the closing bracket.
-/

namespace WireSql.Json

/-! ## Strings -/

/-- The ways in which a character stands in a string, with the piece that it is read as. -/
inductive Stands (c : Char) : List Char → Piece → Prop where
  | itself (hc : 0x20 ≤ c.toNat) (hquote : c ≠ '\x22') (hbackslash : c ≠ '\\') :
      Stands c [c] (.char c)
  /-- Escaped by a letter. -/
  | letter (l : Char) (hl : l ≠ 'u') (hc : unescapeChar? l = some c) : Stands c ['\\', l] (.char c)
  /-- Escaped by its number. -/
  | code (hc : c.toNat < 0x20) :
      Stands c ['\\', 'u', '0', '0', hexDigit (c.toNat / 16), hexDigit c.toNat] (.unit c.toNat)

theorem exists_stands (c : Char) : ∃ p, Stands c (escapeChar c) p := by
  have hletter {d l : Char} (h : (c == d) = true) (hl : l ≠ 'u') (hd : unescapeChar? l = some d) :
      ∃ p, Stands c ['\\', l] p := by
    obtain rfl := eq_of_beq h
    exact ⟨_, .letter l hl hd⟩
  unfold escapeChar
  -- seven characters have a letter
  iterate 7
    split
    · next h => exact hletter h (by decide) (by decide)
  split
  · next h => exact ⟨_, .code h⟩
  · next hquote hbackslash _ _ _ _ _ hc =>
    exact ⟨_, .itself (Nat.le_of_not_lt hc) (by simpa using hquote) (by simpa using hbackslash)⟩

theorem hexValue4?_hexDigit {n : Nat} (hn : n < 0x20) :
    hexValue4? '0' '0' (hexDigit (n / 16)) (hexDigit n) = some n := by
  have hall : ∀ m : Fin 0x20, hexValue4? '0' '0' (hexDigit (m.val / 16)) (hexDigit m.val) = some m.val := by
    decide
  exact hall ⟨n, hn⟩

variable {c : Char} {text : List Char} {p : Piece}

/-- A character is read as its piece. -/
theorem pieces?_append_of_stands (h : Stands c text p) (r : List Char) :
    pieces? (text ++ r) = (pieces? r).map fun m => (p :: m.1, m.2) := by
  cases h with
  | itself hc hquote hbackslash => simp [pieces?, hbackslash, Nat.not_lt.2 hc]
  | letter l hl hc =>
    have hstep : pieces? ('\\' :: l :: r) = (unescapeChar? l).bind fun c =>
        (pieces? r).bind fun m => some (.char c :: m.1, m.2) := by
      rw [pieces?]
      · rfl
      · exact fun _ _ _ _ _ hu => absurd hu hl
    show pieces? ('\\' :: l :: r) = _
    rw [hstep, hc]
    cases pieces? r <;> rfl
  | code hc =>
    simp only [List.cons_append, List.nil_append, pieces?, hexValue4?_hexDigit hc]
    cases pieces? r <;> rfl

/-- The piece of a character stands for it. -/
theorem chars?_cons_of_stands (h : Stands c text p) (ps : List Piece) :
    chars? (p :: ps) = (chars? ps).map (c :: ·) := by
  cases h with
  | itself => rfl
  | letter => rfl
  | code hc =>
    have hlow : ¬0xD800 ≤ c.toNat := by omega
    have hhigh : ¬0xDC00 ≤ c.toNat := by omega
    cases ps with
    | nil => simp [chars?, hlow]
    | cons q ps => simp [chars?, hlow, hhigh]

/-- **A string is read from its text as it was.** -/
theorem stringBody?_quote (s rest : List Char) :
    stringBody? (s.flatMap escapeChar ++ '\x22' :: rest) = some (some (String.ofList s), rest) := by
  have hpieces : ∃ ps, pieces? (s.flatMap escapeChar ++ '\x22' :: rest) = some (ps, rest) ∧
      chars? ps = some s := by
    induction s with
    | nil => exact ⟨[], rfl, rfl⟩
    | cons c s ih =>
      obtain ⟨ps, hps, hs⟩ := ih
      obtain ⟨p, hp⟩ := exists_stands c
      refine ⟨p :: ps, ?_, ?_⟩
      · rw [List.flatMap_cons, List.append_assoc, pieces?_append_of_stands hp, hps]
        rfl
      · rw [chars?_cons_of_stands hp, hs]
        rfl
  obtain ⟨ps, hps, hs⟩ := hpieces
  unfold stringBody?
  rw [hps]
  simp only [Option.map_some, hs]

/-! ## Gaps -/

theorem skipGap_newLine_append (level : Nat) (s : List Char) :
    skipGap (newLine level ++ s) = skipGap s := by
  have hblank : isGap ' ' = true := by decide
  have hnew : isGap '\n' = true := by decide
  unfold skipGap newLine
  rw [List.cons_append, List.dropWhile_cons, if_pos hnew]
  exact List.dropWhile_append_of_pos fun c hc => List.eq_of_mem_replicate hc ▸ hblank

theorem skipGap_cons_of_not_gap {c : Char} (hc : isGap c = false) (s : List Char) :
    skipGap (c :: s) = c :: s := by
  simp [skipGap, hc]

/-- A document is read from what stands behind the gap. -/
theorem value?_of_skipGap {s t : List Char} (h : skipGap s = skipGap t) (fuel : Nat) :
    value? fuel s = value? fuel t := by
  cases fuel with
  | zero => simp [value?]
  | succ fuel => rw [value?, value?, h]

theorem value?_newLine_append (fuel level : Nat) (s : List Char) :
    value? fuel (newLine level ++ s) = value? fuel s :=
  value?_of_skipGap (skipGap_newLine_append level s) fuel

theorem value?_blank (fuel : Nat) (s : List Char) : value? fuel (' ' :: s) = value? fuel s :=
  value?_of_skipGap (by simp [skipGap, isGap]) fuel

theorem items?_newLine_append (fuel level : Nat) (s : List Char) :
    items? fuel (newLine level ++ s) = items? fuel s := by
  cases fuel with
  | zero => simp [items?]
  | succ fuel => rw [items?, items?, skipGap_newLine_append]

theorem members?_newLine_append (fuel level : Nat) (s : List Char) :
    members? fuel (newLine level ++ s) = members? fuel s := by
  cases fuel with
  | zero => simp [members?]
  | succ fuel => rw [members?, members?, skipGap_newLine_append]

/-! ## Documents -/

/-- **A document that can be read back**: its strings are whole, its numbers well formed. -/
inductive Printable : Json → Prop where
  | null : Printable null
  | bool (b : Bool) : Printable (bool b)
  | number {n : Number} (hn : n.WellFormed) : Printable (number n)
  | string (s : String) : Printable (string (some s))
  | array {items : List Json} (h : ∀ item ∈ items, Printable item) : Printable (array items)
  /-- An object with whole names and such documents under them. -/
  | object {members : List (Option String × Json)} (hnames : ∀ m ∈ members, m.1.isSome)
      (h : ∀ m ∈ members, Printable m.2) : Printable (object members)

/-- A document is read from its text at every level of nesting. -/
def ReadsBack (j : Json) : Prop :=
  ∀ (level fuel : Nat) (rest : List Char), (renderAt level j).length ≤ fuel → EndsNumber rest →
    value? fuel (renderAt level j ++ rest) = some (j, rest)

/-- May a number begin with the character? -/
def beginsNumber (c : Char) : Bool := c == '-' || c.isDigit

theorem text_eq_cons {n : Number} (hn : n.WellFormed) :
    ∃ c r, n.text = c :: r ∧ beginsNumber c = true := by
  obtain ⟨c, r, hc⟩ := List.exists_cons_of_ne_nil hn.whole.ne_nil
  have hdigit : c.isDigit = true := hn.whole.isDigit c (hc ▸ List.mem_cons_self)
  rw [text_eq, hc]
  cases n.negative with
  | true => exact ⟨'-', _, rfl, rfl⟩
  | false => exact ⟨c, _, rfl, by simp [beginsNumber, hdigit]⟩

theorem not_isGap_of_beginsNumber {c : Char} (h : beginsNumber c = true) : isGap c = false := by
  cases hgap : isGap c with
  | false => rfl
  | true =>
    have hcases : ((c = ' ' ∨ c = '\n') ∨ c = '\t') ∨ c = '\r' := by simpa [isGap] using hgap
    rcases hcases with ((rfl | rfl) | rfl) | rfl <;> exact absurd h (by decide)

/-- What begins like a number is read as one. -/
theorem value?_of_beginsNumber {c : Char} (h : beginsNumber c = true) (fuel : Nat) (s : List Char) :
    value? (fuel + 1) (c :: s) = (number? (c :: s)).map fun m => (.number m.1, m.2) := by
  rw [value?, skipGap_cons_of_not_gap (not_isGap_of_beginsNumber h)]
  split
  all_goals first
    | rfl
    | next heq =>
      obtain rfl := (List.cons.inj heq).1
      exact absurd h (by decide)

/-- The text of a document begins with a character that is no gap and closes no array. -/
theorem renderAt_eq_cons {j : Json} (h : Printable j) (level : Nat) :
    ∃ c r, renderAt level j = c :: r ∧ isGap c = false ∧ c ≠ ']' := by
  cases h with
  | null => exact ⟨'n', _, rfl, by decide⟩
  | bool b =>
    cases b with
    | true => exact ⟨'t', _, rfl, by decide⟩
    | false => exact ⟨'f', _, rfl, by decide⟩
  | number hn =>
    obtain ⟨c, r, hc, hbegins⟩ := text_eq_cons hn
    refine ⟨c, r, hc, not_isGap_of_beginsNumber hbegins, ?_⟩
    rintro rfl
    exact absurd hbegins (by decide)
  | string s => exact ⟨'\x22', _, rfl, by decide⟩
  | @array items h =>
    cases items with
    | nil => exact ⟨'[', _, rfl, by decide⟩
    | cons item items => exact ⟨'[', _, by rw [renderAt]; rfl, by decide⟩
  | @object members hnames h =>
    cases members with
    | nil => exact ⟨'\x7b', _, rfl, by decide⟩
    | cons m members => exact ⟨'\x7b', _, by rw [renderAt]; rfl, by decide⟩

theorem endsNumber_newLine_append (level : Nat) (s : List Char) : EndsNumber (newLine level ++ s) :=
  endsNumber_cons _ (by decide) (by decide)

/-- What follows an item may follow a number. -/
theorem endsNumber_renderItems (level outer : Nat) (items : List Json) (rest : List Char) :
    EndsNumber (renderItems level items ++ (newLine outer ++ rest)) := by
  cases items with
  | nil => exact endsNumber_newLine_append outer rest
  | cons item items =>
    rw [renderItems]
    exact endsNumber_cons _ (by decide) (by decide)

theorem endsNumber_renderMembers (level outer : Nat) (members : List (Option String × Json))
    (rest : List Char) : EndsNumber (renderMembers level members ++ (newLine outer ++ rest)) := by
  cases members with
  | nil => exact endsNumber_newLine_append outer rest
  | cons m members =>
    rw [renderMembers]
    exact endsNumber_cons _ (by decide) (by decide)

/-- The items behind the first are read up to the closing bracket, by a parser with more fuel than their
text is long. -/
theorem items?_renderItems {items : List Json} (h : ∀ item ∈ items, ReadsBack item)
    {level outer fuel : Nat} {rest : List Char} (hfuel : (renderItems level items).length < fuel) :
    items? fuel (renderItems level items ++ (newLine outer ++ ']' :: rest)) = some (items, rest) := by
  induction items generalizing fuel with
  | nil =>
    obtain ⟨fuel, rfl⟩ : ∃ n, fuel = n + 1 := ⟨fuel - 1, by omega⟩
    rw [renderItems, List.nil_append, items?_newLine_append, items?,
      skipGap_cons_of_not_gap (by decide)]
    rfl
  | cons item items ih =>
    obtain ⟨fuel, rfl⟩ : ∃ n, fuel = n + 1 := ⟨fuel - 1, by omega⟩
    simp only [renderItems, List.length_append, List.length_cons] at hfuel
    have hitem := h item List.mem_cons_self level fuel _ (by omega)
      (endsNumber_renderItems level outer items (']' :: rest))
    have hlength : (renderItems level items).length < fuel := by omega
    have hitems := ih (fun item hm => h item (List.mem_cons_of_mem _ hm)) hlength
    simp only [renderItems, List.cons_append, List.append_assoc]
    rw [items?, skipGap_cons_of_not_gap (by decide)]
    simp only [value?_newLine_append, hitem, hitems, Option.bind_eq_bind, Option.bind_some]

/-- A name is read from its text, behind a gap and up to the colon. -/
theorem name?_quote (level : Nat) (name : String) (rest : List Char) :
    name? (newLine level ++ (quote name.toList ++ ':' :: rest)) = some (some name, rest) := by
  have hopen : after? '\x22' (newLine level ++ (quote name.toList ++ ':' :: rest)) =
      some (name.toList.flatMap escapeChar ++ '\x22' :: ':' :: rest) := by
    unfold after? quote
    rw [skipGap_newLine_append]
    simp [skipGap, isGap]
  have hclose : after? ':' (':' :: rest) = some rest := by
    simp [after?, skipGap, isGap]
  unfold name?
  simp only [hopen, hclose, stringBody?_quote, String.ofList_toList, Option.bind_eq_bind,
    Option.bind_some]

/-- The members behind the first are read up to the closing bracket. -/
theorem members?_renderMembers {members : List (Option String × Json)}
    (hnames : ∀ m ∈ members, m.1.isSome) (h : ∀ m ∈ members, ReadsBack m.2)
    {level outer fuel : Nat} {rest : List Char} (hfuel : (renderMembers level members).length < fuel) :
    members? fuel (renderMembers level members ++ (newLine outer ++ '\x7d' :: rest)) =
      some (members, rest) := by
  induction members generalizing fuel with
  | nil =>
    obtain ⟨fuel, rfl⟩ : ∃ n, fuel = n + 1 := ⟨fuel - 1, by omega⟩
    rw [renderMembers, List.nil_append, members?_newLine_append, members?,
      skipGap_cons_of_not_gap (by decide)]
    rfl
  | cons m members ih =>
    obtain ⟨fuel, rfl⟩ : ∃ n, fuel = n + 1 := ⟨fuel - 1, by omega⟩
    obtain ⟨name, value⟩ := m
    obtain ⟨name, rfl⟩ := Option.isSome_iff_exists.1 (hnames _ List.mem_cons_self)
    simp only [renderMembers, List.length_append, List.length_cons] at hfuel
    have hm : ReadsBack value := h (some name, value) List.mem_cons_self
    have hvalue := hm level fuel _ (by omega)
      (endsNumber_renderMembers level outer members ('\x7d' :: rest))
    have hlength : (renderMembers level members).length < fuel := by omega
    have hmembers := ih (fun m hm => hnames m (List.mem_cons_of_mem _ hm))
      (fun m hm => h m (List.mem_cons_of_mem _ hm)) hlength
    simp only [renderMembers, List.cons_append, List.append_assoc, Option.getD_some]
    rw [members?, skipGap_cons_of_not_gap (by decide)]
    simp only [name?_quote, value?_blank, hvalue, hmembers, Option.bind_eq_bind, Option.bind_some]

/-- An array that has an item is not closed in front of it. -/
theorem after?_renderAt {j : Json} (h : Printable j) (level : Nat) (rest : List Char) :
    after? ']' (newLine level ++ (renderAt level j ++ rest)) = none := by
  obtain ⟨c, r, hc, hgap, hne⟩ := renderAt_eq_cons h level
  unfold after?
  rw [skipGap_newLine_append, hc, List.cons_append, skipGap_cons_of_not_gap hgap]
  exact if_neg (by simpa using hne.symm)

/-- An object that has a member is not closed in front of it. -/
theorem after?_quote (level : Nat) (name rest : List Char) :
    after? '\x7d' (newLine level ++ (quote name ++ rest)) = none := by
  unfold after? quote
  rw [skipGap_newLine_append, List.append_assoc, List.cons_append,
    skipGap_cons_of_not_gap (by decide)]
  rfl

/-- A parser with as much fuel as a text is long has some. -/
theorem exists_fuel {j : Json} (h : Printable j) {level fuel : Nat}
    (hfuel : (renderAt level j).length ≤ fuel) : ∃ n, fuel = n + 1 := by
  obtain ⟨c, r, hc, -⟩ := renderAt_eq_cons h level
  rw [hc, List.length_cons] at hfuel
  exact ⟨fuel - 1, by omega⟩

theorem readsBack_number {n : Number} (hn : n.WellFormed) : ReadsBack (number n) := by
  intro level fuel rest hfuel hrest
  obtain ⟨fuel, rfl⟩ := exists_fuel (.number hn) hfuel
  obtain ⟨c, r, hc, hbegins⟩ := text_eq_cons hn
  have hread := number?_text hn hrest
  rw [renderAt]
  rw [hc, List.cons_append] at hread ⊢
  rw [value?_of_beginsNumber hbegins, hread]
  rfl

theorem readsBack_string (s : String) : ReadsBack (string (some s)) := by
  intro level fuel rest hfuel _
  obtain ⟨fuel, rfl⟩ := exists_fuel (.string s) hfuel
  have hread := stringBody?_quote s.toList rest
  rw [renderAt, Option.getD_some, quote, List.append_assoc, List.cons_append, value?,
    skipGap_cons_of_not_gap (by decide)]
  simp only [List.singleton_append, hread, String.ofList_toList, Option.map_some]

/-- An array is read by reading its items. -/
theorem readsBack_array {items : List Json} (h : ∀ item ∈ items, Printable item)
    (hread : ∀ item ∈ items, ReadsBack item) : ReadsBack (array items) := by
  intro level fuel rest hfuel _
  obtain ⟨fuel, rfl⟩ := exists_fuel (.array h) hfuel
  cases items with
  | nil => rfl
  | cons item items =>
    simp only [renderAt, List.length_append, List.length_cons, List.length_nil] at hfuel
    have hitem := hread item List.mem_cons_self (level + 1) fuel _ (by omega)
      (endsNumber_renderItems (level + 1) level items (']' :: rest))
    have hitems : items? fuel (renderItems (level + 1) items ++ (newLine level ++ ']' :: rest)) =
        some (items, rest) :=
      items?_renderItems (fun item hm => hread item (List.mem_cons_of_mem _ hm)) (by omega)
    have hopen := after?_renderAt (h item List.mem_cons_self) (level + 1)
      (renderItems (level + 1) items ++ (newLine level ++ ']' :: rest))
    simp only [renderAt, List.cons_append, List.append_assoc, List.nil_append]
    rw [value?, skipGap_cons_of_not_gap (by decide)]
    simp only [hopen, value?_newLine_append, hitem, hitems, Option.bind_eq_bind, Option.bind_some]

/-- An object is read by reading what stands under its names. -/
theorem readsBack_object {members : List (Option String × Json)} (hnames : ∀ m ∈ members, m.1.isSome)
    (h : ∀ m ∈ members, Printable m.2) (hread : ∀ m ∈ members, ReadsBack m.2) :
    ReadsBack (object members) := by
  intro level fuel rest hfuel _
  obtain ⟨fuel, rfl⟩ := exists_fuel (.object hnames h) hfuel
  cases members with
  | nil => rfl
  | cons m members =>
    obtain ⟨name, value⟩ := m
    obtain ⟨name, rfl⟩ := Option.isSome_iff_exists.1 (hnames _ List.mem_cons_self)
    simp only [renderAt, List.length_append, List.length_cons, List.length_nil] at hfuel
    have hm : ReadsBack value := hread (some name, value) List.mem_cons_self
    have hvalue := hm (level + 1) fuel _ (by omega)
      (endsNumber_renderMembers (level + 1) level members ('\x7d' :: rest))
    have hmembers :
        members? fuel (renderMembers (level + 1) members ++ (newLine level ++ '\x7d' :: rest)) =
          some (members, rest) :=
      members?_renderMembers (fun m hm => hnames m (List.mem_cons_of_mem _ hm))
        (fun m hm => hread m (List.mem_cons_of_mem _ hm)) (by omega)
    simp only [renderAt, List.cons_append, List.append_assoc, List.nil_append, Option.getD_some]
    rw [value?, skipGap_cons_of_not_gap (by decide)]
    simp only [after?_quote, name?_quote, value?_blank, hvalue, hmembers, Option.bind_eq_bind,
      Option.bind_some]

/-- **Every printable document is read from its text**, at any level and in front of any text that ends a
number. -/
theorem readsBack {j : Json} (h : Printable j) : ReadsBack j := by
  induction h with
  | null =>
    intro level fuel rest hfuel _
    obtain ⟨fuel, rfl⟩ := exists_fuel .null hfuel
    rfl
  | bool b =>
    intro level fuel rest hfuel _
    obtain ⟨fuel, rfl⟩ := exists_fuel (.bool b) hfuel
    cases b <;> rfl
  | number hn => exact readsBack_number hn
  | string s => exact readsBack_string s
  | array h ih => exact readsBack_array h ih
  | object hnames h ih => exact readsBack_object hnames h ih

/-- **A document is read from its text as it was.** -/
theorem parse?_render {j : Json} (h : Printable j) : parse? j.render = some j := by
  have hread : value? ((renderAt 0 j).length + 1) (renderAt 0 j ++ []) = some (j, []) :=
    readsBack h 0 _ [] (Nat.le_succ _) endsNumber_nil
  rw [List.append_nil] at hread
  unfold parse? render
  rw [hread]
  rfl

end WireSql.Json
