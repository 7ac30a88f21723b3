/-!
# `WireSql.Text.Search`: leads chosen by what follows them

A statement is cut at places that depend on what stands behind them: the shortest projection that
is followed by `FROM`, the longest table name that is followed by `VALUES`. The two searches here
take a *continuation*, which says whether the rest of the text is acceptable and what it means.

Main statements: `shortest?_eq_some` and `longest?_eq_some` say that a found lead and the rest make
up the text, that the lead holds admitted characters only, and that the continuation accepts the
rest.
-/

namespace WireSql.Text

variable {α : Type}

/-- The shortest lead of admitted characters whose rest `k` accepts, with the answer of `k`. -/
def shortest? (admits : Char → Bool) (k : List Char → Option α) :
    List Char → Option (List Char × α)
  | [] => (k []).map ([], ·)
  | c :: r =>
    match k (c :: r) with
    | some a => some ([], a)
    | none => if admits c then (shortest? admits k r).map fun m => (c :: m.1, m.2) else none

/-- The longest lead of admitted characters whose rest `k` accepts, with the answer of `k`. -/
def longest? (admits : Char → Bool) (k : List Char → Option α) :
    List Char → Option (List Char × α)
  | [] => (k []).map ([], ·)
  | c :: r =>
    match (if admits c then longest? admits k r else none) with
    | some m => some (c :: m.1, m.2)
    | none => (k (c :: r)).map ([], ·)

/-- The shortest lead that is not empty. -/
def shortestNonempty? (admits : Char → Bool) (k : List Char → Option α) :
    List Char → Option (List Char × α)
  | [] => none
  | c :: r => if admits c then (shortest? admits k r).map fun m => (c :: m.1, m.2) else none

/-- The longest lead that is not empty. -/
def longestNonempty? (admits : Char → Bool) (k : List Char → Option α) :
    List Char → Option (List Char × α)
  | [] => none
  | c :: r => if admits c then (longest? admits k r).map fun m => (c :: m.1, m.2) else none

/-- The answer of `k` at the first place of the text where it has one. `k` sees the character
before the place, if there is one, and the text from the place on. -/
def firstMatch? (k : Option Char → List Char → Option α) : Option Char → List Char → Option α
  | before, [] => k before []
  | before, c :: r =>
    match k before (c :: r) with
    | some a => some a
    | none => firstMatch? k (some c) r

/-- The lead up to the last `mark` of the text, and what follows the mark. -/
def splitAtLast? (mark : Char) : List Char → Option (List Char × List Char)
  | [] => none
  | c :: r =>
    match splitAtLast? mark r with
    | some m => some (c :: m.1, m.2)
    | none => if c == mark then some ([], r) else none

/-- The lead up to the first `mark` of the text, and what follows the mark. -/
def splitAtFirst? (mark : Char) : List Char → Option (List Char × List Char)
  | [] => none
  | c :: r =>
    if c == mark then some ([], r) else (splitAtFirst? mark r).map fun m => (c :: m.1, m.2)

theorem shortest?_eq_some {admits : Char → Bool} {k : List Char → Option α} {s lead : List Char}
    {a : α} (h : shortest? admits k s = some (lead, a)) :
    ∃ rest, s = lead ++ rest ∧ (∀ c ∈ lead, admits c = true) ∧ k rest = some a := by
  induction s generalizing lead with
  | nil =>
    simp only [shortest?, Option.map_eq_some_iff, Prod.mk.injEq] at h
    obtain ⟨b, hb, rfl, rfl⟩ := h
    exact ⟨[], rfl, by simp, hb⟩
  | cons c r ih =>
    rw [shortest?] at h
    split at h
    · next b hb =>
      simp only [Option.some.injEq, Prod.mk.injEq] at h
      obtain ⟨rfl, rfl⟩ := h
      exact ⟨c :: r, rfl, by simp, hb⟩
    · split at h
      · next hc =>
        simp only [Option.map_eq_some_iff, Prod.mk.injEq] at h
        obtain ⟨m, hm, rfl, rfl⟩ := h
        obtain ⟨rest, hr, hall, hk⟩ := ih hm
        exact ⟨rest, by simp [hr], by simpa [hc] using hall, hk⟩
      · simp at h

theorem longest?_eq_some {admits : Char → Bool} {k : List Char → Option α} {s lead : List Char}
    {a : α} (h : longest? admits k s = some (lead, a)) :
    ∃ rest, s = lead ++ rest ∧ (∀ c ∈ lead, admits c = true) ∧ k rest = some a := by
  induction s generalizing lead with
  | nil =>
    simp only [longest?, Option.map_eq_some_iff, Prod.mk.injEq] at h
    obtain ⟨b, hb, rfl, rfl⟩ := h
    exact ⟨[], rfl, by simp, hb⟩
  | cons c r ih =>
    rw [longest?] at h
    split at h
    · next m hm =>
      simp only [Option.some.injEq, Prod.mk.injEq] at h
      obtain ⟨rfl, rfl⟩ := h
      split at hm
      · next hc =>
        obtain ⟨rest, hr, hall, hk⟩ := ih hm
        exact ⟨rest, by simp [hr], by simpa [hc] using hall, hk⟩
      · simp at hm
    · simp only [Option.map_eq_some_iff, Prod.mk.injEq] at h
      obtain ⟨b, hb, rfl, rfl⟩ := h
      exact ⟨c :: r, rfl, by simp, hb⟩

end WireSql.Text
