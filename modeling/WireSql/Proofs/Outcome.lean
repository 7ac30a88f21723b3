import Mathlib.Data.List.Forall2

/-!
# `WireSql.Proofs.Outcome`: what computations that succeed answer

A computation that can fail meets a postcondition when every answer it gives has it. `Yields` says so,
and the lemmas below follow the ways in which such computations are put together: one behind the other,
one for each element of a list, or one for each element on top of what the earlier ones have made.
-/

namespace WireSql

variable {ε α β : Type}

/-- Every answer of a computation has a property. A computation that fails has no answer. -/
def Yields (x : Except ε α) (P : α → Prop) : Prop := ∀ a, x = .ok a → P a

theorem yields_ok {P : α → Prop} {a : α} (h : P a) : Yields (Except.ok a : Except ε α) P := by
  rintro b ⟨⟩
  exact h

theorem yields_pure {P : α → Prop} {a : α} (h : P a) : Yields (pure a : Except ε α) P := yields_ok h

theorem yields_error {P : α → Prop} (e : ε) : Yields (Except.error e : Except ε α) P := by
  rintro b ⟨⟩

/-- What the first computation answers is known to the second one. -/
theorem yields_bind {x : Except ε α} {f : α → Except ε β} {P : β → Prop}
    (h : ∀ a, x = .ok a → Yields (f a) P) : Yields (x >>= f) P := by
  intro b hb
  cases hx : x with
  | error e => rw [hx] at hb; cases hb
  | ok a => rw [hx] at hb; exact h a hx b hb

theorem yields_map {x : Except ε α} {f : α → β} {P : β → Prop} (h : Yields x fun a => P (f a)) :
    Yields (x.map f) P := by
  intro b hb
  cases hx : x with
  | error e => rw [hx] at hb; cases hb
  | ok a => rw [hx] at hb; cases hb; exact h a hx

theorem Yields.mono {x : Except ε α} {P Q : α → Prop} (h : Yields x P) (hPQ : ∀ a, P a → Q a) :
    Yields x Q := fun a ha => hPQ a (h a ha)

/-- What each element answers, all answers have. -/
theorem yields_mapM {f : α → Except ε β} {P : β → Prop} {l : List α}
    (h : ∀ a ∈ l, Yields (f a) P) : Yields (l.mapM f) fun bs => ∀ b ∈ bs, P b := by
  induction l with
  | nil =>
    apply yields_pure
    intro b hb
    cases hb
  | cons a l ih =>
    rw [List.mapM_cons]
    refine yields_bind fun b hb => yields_bind fun bs hbs => yields_pure ?_
    intro c hc
    rcases List.mem_cons.mp hc with rfl | hc
    · exact h a List.mem_cons_self c hb
    · exact ih (fun a ha => h a (List.mem_cons_of_mem _ ha)) bs hbs c hc

/-- A loop that succeeds has an answer for each element, and it stands where the element stands. -/
theorem yields_mapM_getElem? (f : α → Except ε β) (l : List α) :
    Yields (l.mapM f) fun bs => bs.length = l.length ∧
      ∀ (i : Nat) (a : α), l[i]? = some a → ∃ b, bs[i]? = some b ∧ f a = .ok b := by
  induction l with
  | nil =>
    apply yields_pure
    refine ⟨rfl, fun i a ha => ?_⟩
    cases ha
  | cons a l ih =>
    rw [List.mapM_cons]
    refine yields_bind fun b hb => yields_bind fun bs hbs => yields_pure ?_
    obtain ⟨hlength, hrest⟩ := ih bs hbs
    refine ⟨congrArg (· + 1) hlength, fun i a' ha' => ?_⟩
    cases i with
    | zero =>
      obtain rfl := Option.some.inj ha'
      exact ⟨b, rfl, hb⟩
    | succ i => exact hrest i a' ha'

/-- What comes second answers where the first one has answered. -/
theorem bind_eq_ok_iff {x : Except ε α} {f : α → Except ε β} {b : β} :
    x >>= f = .ok b ↔ ∃ a, x = .ok a ∧ f a = .ok b := by
  cases x with
  | error e =>
    constructor
    · nofun
    · rintro ⟨a, ha, -⟩
      cases ha
  | ok a =>
    constructor
    · exact fun h => ⟨a, rfl, h⟩
    · rintro ⟨_, ⟨⟩, h⟩
      exact h

/-- What comes second in two computations is mapped from the one to the other. -/
theorem bind_eq_map_bind {γ : Type} {x : Except ε α} {f : α → Except ε γ} {g : α → Except ε β} {h : β → γ}
    (hfg : ∀ a, x = .ok a → f a = (g a).map h) : x >>= f = (x >>= g).map h := by
  cases x with
  | error e => rfl
  | ok a => exact hfg a rfl

/-- **A loop answers what its elements answer**, each in its place. -/
theorem mapM_eq_ok_iff {f : α → Except ε β} {l : List α} {bs : List β} :
    l.mapM f = .ok bs ↔ List.Forall₂ (fun a b => f a = .ok b) l bs := by
  induction l generalizing bs with
  | nil =>
    rw [List.forall₂_nil_left_iff, List.mapM_nil]
    constructor
    · rintro ⟨⟩
      rfl
    · rintro rfl
      rfl
  | cons a l ih =>
    rw [List.mapM_cons, List.forall₂_cons_left_iff, bind_eq_ok_iff]
    simp only [bind_eq_ok_iff, ih]
    constructor
    · rintro ⟨b, hb, bs', hbs, ⟨⟩⟩
      exact ⟨b, bs', hb, hbs, rfl⟩
    · rintro ⟨b, bs', hb, hbs, rfl⟩
      exact ⟨b, hb, bs', hbs, rfl⟩

/-- What is made of an answer is missing exactly where the answer is. -/
theorem bind_pure_error_iff {x : Except ε α} {f : α → β} :
    (∃ e, (x >>= fun a => pure (f a)) = .error e) ↔ ∃ e, x = .error e := by
  cases x with
  | error e => exact ⟨fun _ => ⟨e, rfl⟩, fun _ => ⟨e, rfl⟩⟩
  | ok a =>
    constructor
    · rintro ⟨e, ⟨⟩⟩
    · rintro ⟨e, ⟨⟩⟩

/-- An answer for each element is missing exactly where one of them has none. -/
theorem mapM_error_iff {f : α → Except ε β} {l : List α} :
    (∃ e, l.mapM f = .error e) ↔ ∃ a ∈ l, ∃ e, f a = .error e := by
  induction l with
  | nil =>
    constructor
    · rintro ⟨e, ⟨⟩⟩
    · rintro ⟨a, ha, -⟩
      cases ha
  | cons a l ih =>
    simp only [List.mem_cons, exists_eq_or_imp]
    rw [List.mapM_cons, ← ih]
    cases f a with
    | error e => exact ⟨fun _ => .inl ⟨e, rfl⟩, fun _ => ⟨e, rfl⟩⟩
    | ok b =>
      have hfirst : ¬ ∃ e, (Except.ok b : Except ε β) = .error e := by
        rintro ⟨e, ⟨⟩⟩
      rw [or_iff_right hfirst]
      exact bind_pure_error_iff

/-- What every step keeps, the whole loop keeps. -/
theorem yields_foldlM {f : β → α → Except ε β} {P : β → Prop} {l : List α}
    (h : ∀ b a, P b → Yields (f b a) P) {b : β} (hb : P b) : Yields (l.foldlM f b) P := by
  induction l generalizing b with
  | nil => exact yields_pure hb
  | cons a l ih =>
    rw [List.foldlM_cons]
    exact yields_bind fun c hc => ih (h b a hb c hc)

end WireSql
