import Mathlib.Order.Monotone.Basic
import WireSql.Store.Saving

/-!
# `WireSql.Proofs.Store.Saving`: the snapshot file while workers save

Changes of the catalog and the moves of a saving come in any order, and one saving may cover the changes of
many workers. What holds the file together is the lock: of the workers only one is between taking it and
giving it back (`Orderly`), so that at most one text is on its way to the file, and that text was serialised
behind the one which the file holds.

`Effect` says once what a move does to the catalog, the file and the texts on their way. Two invariants follow
from it. `Fresh`: behind the first change the current catalog is in the file, or on its way, or some worker
has yet to serialise it. `Dated`: the text on its way and the text of the file are those of two moments, of
which neither goes back.

Main statement: `file_follows_catalog`, over every run of any number of workers that starts with all of them
idle. A worker that has begun to save is never stuck (`exists_step`), and a worker by itself makes of the store
what `Store.execute` makes of it (`exists_run_of_execute`).
-/

namespace WireSql.Saving

variable {Worker : Type} [DecidableEq Worker] {s t : State Worker} {v w : Worker} {text : String}

/-! ## The lock -/

/-- Has a worker at this stage the lock? -/
def Stage.hasLock : Stage → Bool
  | .idle => false
  | .unsaved => false
  | _ => true

/-- **The lock is held by the worker that is between taking it and giving it back**, if there is one, and a
temporary file that is complete is there. -/
structure Orderly (s : State Worker) : Prop where
  holder_iff : ∀ w, s.holder = some w ↔ (s.stage w).hasLock = true
  /-- A worker that has completed the temporary file finds it. -/
  temporary_of_written : ∀ w, s.stage w = .written → ∃ text, s.temporary = some text

omit [DecidableEq Worker] in
theorem orderly_of_idle (hidle : ∀ w, s.stage w = .idle) (hfree : s.holder = none) : Orderly s where
  holder_iff w := by
    rw [hidle, hfree]
    exact iff_of_false nofun nofun
  temporary_of_written w hw := by
    rw [hidle] at hw
    cases hw

omit [DecidableEq Worker] in
/-- Only one worker has the lock. -/
theorem Orderly.eq_of_hasLock (h : Orderly s) (hv : (s.stage v).hasLock = true)
    (hw : (s.stage w).hasLock = true) : v = w :=
  Option.some.inj (((h.holder_iff v).2 hv).symm.trans ((h.holder_iff w).2 hw))

/-- A move that neither takes the lock nor gives it back leaves it where it is. -/
theorem Orderly.holder_iff_move (h : Orderly s) {stage : Stage} (hsame : stage.hasLock = (s.stage w).hasLock)
    (v : Worker) : s.holder = some v ↔ ((s.move w stage).stage v).hasLock = true := by
  by_cases hv : v = w
  · rw [hv, stage_move_self, hsame]
    exact h.holder_iff w
  · rw [stage_move_of_ne hv]
    exact h.holder_iff v

/-- What a worker has completed is there, if the temporary file is what it was. -/
theorem Orderly.temporary_of_move (h : Orderly s) {stage : Stage} (hstage : stage ≠ .written)
    (hv : (s.move w stage).stage v = .written) : ∃ text, s.temporary = some text := by
  by_cases hvw : v = w
  · rw [hvw, stage_move_self] at hv
    exact absurd hv hstage
  · rw [stage_move_of_ne hvw] at hv
    exact h.temporary_of_written v hv

/-- **Every move keeps the order.** -/
theorem Orderly.step (h : Orderly s) (hstep : Step s t) : Orderly t := by
  cases hstep with
  | change w statement database result catalog hw hm hr =>
    exact ⟨h.holder_iff_move (by rw [hw]; rfl), fun v => h.temporary_of_move nofun⟩
  | lock w hw hl =>
    refine ⟨fun v => ?_, fun v => h.temporary_of_move nofun⟩
    show some w = some v ↔ ((s.move w .locked).stage v).hasLock = true
    by_cases hv : v = w
    · rw [hv, stage_move_self]
      exact iff_of_true rfl rfl
    · rw [stage_move_of_ne hv, ← h.holder_iff, hl]
      exact iff_of_false (fun h => hv (Option.some.inj h).symm) nofun
  | serialise w hw => exact ⟨h.holder_iff_move (by rw [hw]; rfl), fun v => h.temporary_of_move nofun⟩
  | begin w text part hw => exact ⟨h.holder_iff_move (by rw [hw]; rfl), fun _ _ => ⟨part, rfl⟩⟩
  | complete w text hw => exact ⟨h.holder_iff_move (by rw [hw]; rfl), fun _ _ => ⟨text, rfl⟩⟩
  | rename w text hw ht =>
    refine ⟨h.holder_iff_move (by rw [hw]; rfl), fun v hv => ?_⟩
    -- no other worker has completed a temporary file
    change (s.move w .renamed).stage v = .written at hv
    by_cases hvw : v = w
    · rw [hvw, stage_move_self] at hv
      cases hv
    · rw [stage_move_of_ne hvw] at hv
      exact absurd (h.eq_of_hasLock (by rw [hv]; rfl) (by rw [hw]; rfl)) hvw
  | release w hw =>
    refine ⟨fun v => ?_, fun v => h.temporary_of_move nofun⟩
    show none = some v ↔ ((s.move w .idle).stage v).hasLock = true
    refine iff_of_false nofun ?_
    by_cases hv : v = w
    · rw [hv, stage_move_self]
      exact nofun
    · rw [stage_move_of_ne hv]
      exact fun hlock => hv (h.eq_of_hasLock hlock (by rw [hw]; rfl))

/-! ## What a move does -/

/-- The text that a worker at this stage has on its way to the file: a temporary file that is complete
holds it. -/
def Stage.inFlight? (temporary : Option String) : Stage → Option String
  | .serialised text => some text
  | .writing text => some text
  | .written => temporary
  | _ => none

/-- The text that a worker has on its way to the file. -/
def State.inFlight? (s : State Worker) (w : Worker) : Option String := (s.stage w).inFlight? s.temporary

/-- The worker has yet to serialise the catalog. -/
def State.Waits (s : State Worker) (w : Worker) : Prop := s.stage w = .unsaved ∨ s.stage w = .locked

/-- **What a move does to the catalog, the file and the texts on their way to it.** -/
inductive Effect (s t : State Worker) : Prop where
  /-- The catalog changes, and a worker waits. -/
  | changes (w : Worker) (hwaits : t.Waits w) (hflight : ∀ v, t.inFlight? v = s.inFlight? v)
      (hsnapshot : t.snapshot = s.snapshot)
  /-- The catalog is serialised, and its text is the only one on its way. -/
  | serialises (w : Worker) (hflight : t.inFlight? w = some (Snapshot.text t.catalog))
      (hothers : ∀ v, v ≠ w → t.inFlight? v = none) (hcatalog : t.catalog = s.catalog)
      (hsnapshot : t.snapshot = s.snapshot)
  /-- The only text on its way arrives. -/
  | renames (w : Worker) (text : String) (hflight : s.inFlight? w = some text)
      (hothers : ∀ v, v ≠ w → s.inFlight? v = none) (hnone : ∀ v, t.inFlight? v = none)
      (hcatalog : t.catalog = s.catalog) (hsnapshot : t.snapshot = some text)
      (hwaits : ∀ v, s.Waits v → t.Waits v)
  /-- Nothing changes but the stage of a worker. -/
  | keeps (hflight : ∀ v, t.inFlight? v = s.inFlight? v) (hcatalog : t.catalog = s.catalog)
      (hsnapshot : t.snapshot = s.snapshot) (hwaits : ∀ v, s.Waits v → t.Waits v)

omit [DecidableEq Worker] in
theorem inFlight?_of_stage {stage : Stage} (h : s.stage w = stage) :
    s.inFlight? w = stage.inFlight? s.temporary := by
  rw [State.inFlight?, h]

/-- What the worker that moves has on its way is what its new stage says. -/
theorem inFlight?_of_move {stage : Stage} (h : t.stage = (s.move w stage).stage) :
    t.inFlight? w = stage.inFlight? t.temporary := by
  rw [State.inFlight?, h, stage_move_self]

/-- What another worker has on its way stays that, unless the temporary file that it has completed does not. -/
theorem inFlight?_of_move_of_ne {stage : Stage} (h : t.stage = (s.move w stage).stage) (hv : v ≠ w)
    (htemporary : s.stage v = .written → t.temporary = s.temporary) : t.inFlight? v = s.inFlight? v := by
  unfold State.inFlight?
  rw [h, stage_move_of_ne hv]
  cases hstage : s.stage v with
  | written => exact htemporary hstage
  | _ => rfl

/-- A move leaves the texts on their way if the worker that makes it has the same one behind it. -/
theorem inFlight?_of_move_of_same {stage old : Stage} (h : t.stage = (s.move w stage).stage)
    (hw : s.stage w = old) (hsame : stage.inFlight? t.temporary = old.inFlight? s.temporary)
    (htemporary : ∀ v, v ≠ w → s.stage v = .written → t.temporary = s.temporary) (v : Worker) :
    t.inFlight? v = s.inFlight? v := by
  by_cases hv : v = w
  · rw [hv, inFlight?_of_move h, inFlight?_of_stage hw, hsame]
  · exact inFlight?_of_move_of_ne h hv (htemporary v hv)

omit [DecidableEq Worker] in
theorem hasLock_of_inFlight? (h : s.inFlight? v = some text) : (s.stage v).hasLock = true := by
  cases hv : s.stage v with
  | idle => exact absurd ((inFlight?_of_stage hv).symm.trans h) nofun
  | unsaved => exact absurd ((inFlight?_of_stage hv).symm.trans h) nofun
  | _ => rfl

omit [DecidableEq Worker] in
/-- Beside the worker that has the lock nobody has a text on its way. -/
theorem Orderly.inFlight?_of_ne (h : Orderly s) (hw : (s.stage w).hasLock = true) (hv : v ≠ w) :
    s.inFlight? v = none := by
  rw [Option.eq_none_iff_forall_ne_some]
  intro text htext
  exact hv (h.eq_of_hasLock (hasLock_of_inFlight? htext) hw)

omit [DecidableEq Worker] in
theorem Orderly.ne_written_of_ne (h : Orderly s) (hw : (s.stage w).hasLock = true) (hv : v ≠ w) :
    s.stage v ≠ .written :=
  fun hwritten => hv (h.eq_of_hasLock (by rw [hwritten]; rfl) hw)

/-- A worker that waits goes on waiting while another one moves. -/
theorem waits_of_move {stage : Stage} (h : t.stage = (s.move w stage).stage) (hw : ¬ s.Waits w)
    (hv : s.Waits v) : t.Waits v := by
  have hne : v ≠ w := by
    rintro rfl
    exact hw hv
  unfold State.Waits
  rw [h, stage_move_of_ne hne]
  exact hv

omit [DecidableEq Worker] in
theorem not_waits_of_stage {stage : Stage} (hw : s.stage w = stage) (hunsaved : stage ≠ .unsaved)
    (hlocked : stage ≠ .locked) : ¬ s.Waits w := by
  rintro (h | h)
  · exact hunsaved (hw.symm.trans h)
  · exact hlocked (hw.symm.trans h)

/-- **A move has one of the four effects.** -/
theorem effect_of_step (h : Orderly s) (hstep : Step s t) : Effect s t := by
  cases hstep with
  | change w statement database result catalog hw hm hr =>
    exact .changes w (.inl (stage_move_self s w .unsaved))
      (inFlight?_of_move_of_same rfl hw rfl fun _ _ _ => rfl) rfl
  | lock w hw hl =>
    refine .keeps (inFlight?_of_move_of_same rfl hw rfl fun _ _ _ => rfl) rfl rfl fun v hv => ?_
    show (s.move w .locked).Waits v
    by_cases hvw : v = w
    · rw [hvw]
      exact .inr (stage_move_self s w .locked)
    · unfold State.Waits
      rw [stage_move_of_ne hvw]
      exact hv
  | serialise w hw =>
    have hlock : (s.stage w).hasLock = true := by rw [hw]; rfl
    refine .serialises w (inFlight?_of_move rfl) (fun v hv => ?_) rfl rfl
    exact (inFlight?_of_move_of_ne rfl hv fun _ => rfl).trans (h.inFlight?_of_ne hlock hv)
  | begin w text part hw =>
    -- the temporary file changes, but nobody else has completed it
    have hlock : (s.stage w).hasLock = true := by rw [hw]; rfl
    exact .keeps (inFlight?_of_move_of_same rfl hw rfl fun v hv hwritten =>
      absurd hwritten (h.ne_written_of_ne hlock hv)) rfl rfl
      fun v => waits_of_move rfl (not_waits_of_stage hw nofun nofun)
  | complete w text hw =>
    have hlock : (s.stage w).hasLock = true := by rw [hw]; rfl
    exact .keeps (inFlight?_of_move_of_same rfl hw rfl fun v hv hwritten =>
      absurd hwritten (h.ne_written_of_ne hlock hv)) rfl rfl
      fun v => waits_of_move rfl (not_waits_of_stage hw nofun nofun)
  | rename w text hw ht =>
    have hlock : (s.stage w).hasLock = true := by rw [hw]; rfl
    refine .renames w text ((inFlight?_of_stage hw).trans ht) (fun v hv => h.inFlight?_of_ne hlock hv)
      (fun v => ?_) rfl rfl fun v => waits_of_move rfl (not_waits_of_stage hw nofun nofun)
    generalize hbehind : ({ s.move w .renamed with snapshot := some text, temporary := none } :
      State Worker) = behind
    have hstage : behind.stage = (s.move w .renamed).stage := by rw [← hbehind]
    by_cases hv : v = w
    · rw [hv, inFlight?_of_move hstage]
      rfl
    · rw [inFlight?_of_move_of_ne hstage hv fun hwritten => absurd hwritten (h.ne_written_of_ne hlock hv)]
      exact h.inFlight?_of_ne hlock hv
  | release w hw =>
    exact .keeps (inFlight?_of_move_of_same rfl hw rfl fun _ _ _ => rfl) rfl rfl
      fun v => waits_of_move rfl (not_waits_of_stage hw nofun nofun)

/-! ## The current catalog -/

/-- **The current catalog is not lost**: a worker has yet to serialise it, its text is on the way, or the file
holds it and nothing is on the way. -/
inductive Fresh (s : State Worker) : Prop where
  | waits (w : Worker) (h : s.Waits w)
  | inFlight (w : Worker) (h : s.inFlight? w = some (Snapshot.text s.catalog))
  | saved (hnone : ∀ w, s.inFlight? w = none) (h : s.snapshot = some (Snapshot.text s.catalog))

/-- **Every move keeps it so.** -/
theorem Fresh.step (h : Fresh s) (heffect : Effect s t) : Fresh t := by
  cases heffect with
  | changes w hwaits hflight hsnapshot => exact .waits w hwaits
  | serialises w hflight hothers hcatalog hsnapshot => exact .inFlight w hflight
  | renames w text hflight hothers hnone hcatalog hsnapshot hwaits =>
    cases h with
    | waits v hv => exact .waits v (hwaits v hv)
    | inFlight v hv =>
      by_cases hvw : v = w
      · rw [hvw, hflight] at hv
        exact .saved hnone (by rw [hsnapshot, hcatalog, hv])
      · exact absurd ((hothers v hvw).symm.trans hv) nofun
    | saved hnone' h => exact absurd ((hnone' w).symm.trans hflight) nofun
  | keeps hflight hcatalog hsnapshot hwaits =>
    cases h with
    | waits v hv => exact .waits v (hwaits v hv)
    | inFlight v hv => exact .inFlight v (by rw [hflight, hcatalog, hv])
    | saved hnone h =>
      exact .saved (fun v => (hflight v).trans (hnone v)) (by rw [hsnapshot, hcatalog, h])

omit [DecidableEq Worker] in
/-- Where nobody is saving, the file holds it. -/
theorem Fresh.snapshot_of_idle (h : Fresh s) (hidle : ∀ w, s.stage w = .idle) :
    s.snapshot = some (Snapshot.text s.catalog) := by
  cases h with
  | waits w hw =>
    rw [State.Waits, hidle] at hw
    rcases hw with hw | hw
    · cases hw
    · cases hw
  | inFlight w hw =>
    rw [inFlight?_of_stage (hidle w)] at hw
    cases hw
  | saved hnone h => exact h

/-- While all workers are idle the only move is a change, behind which a worker waits. -/
theorem fresh_of_idle_step (hidle : ∀ w, s.stage w = .idle) (hstep : Step s t) : Fresh t := by
  cases hstep with
  | change w statement database result catalog hw hm hr =>
    exact .waits w (.inl (stage_move_self s w .unsaved))
  | lock w hw => exact absurd ((hidle w).symm.trans hw) nofun
  | serialise w hw => exact absurd ((hidle w).symm.trans hw) nofun
  | begin w text part hw => exact absurd ((hidle w).symm.trans hw) nofun
  | complete w text hw => exact absurd ((hidle w).symm.trans hw) nofun
  | rename w text hw => exact absurd ((hidle w).symm.trans hw) nofun
  | release w hw => exact absurd ((hidle w).symm.trans hw) nofun

/-! ## Moments -/

/-- **The text on its way and the text of the file date from two moments**, of which the second is not
behind the first. Before the first text arrives, the file holds what it held at the start. -/
structure Dated (catalogs : ℕ → Catalog) (start : Option String) (now flight saved : ℕ)
    (s : State Worker) : Prop where
  current : s.catalog = catalogs now
  /-- The file is not ahead of what is on its way. -/
  saved_le : saved ≤ flight
  /-- What is on its way is not ahead of the catalog. -/
  flight_le : flight ≤ now
  /-- What is on its way dates from its moment. -/
  inFlight : ∀ w text, s.inFlight? w = some text → text = Snapshot.text (catalogs flight)
  /-- So does the file. -/
  snapshot : ∀ text, s.snapshot = some text →
    text = Snapshot.text (catalogs saved) ∨ saved = 0 ∧ start = some text

/-- **A move brings the file to the moment of what was on its way, or leaves it at its own.** -/
theorem Dated.step {catalogs : ℕ → Catalog} {start : Option String} {now flight saved : ℕ}
    (h : Dated catalogs start now flight saved s) (hcatalog : t.catalog = catalogs (now + 1))
    (heffect : Effect s t) :
    ∃ flight' saved', saved ≤ saved' ∧ Dated catalogs start (now + 1) flight' saved' t := by
  cases heffect with
  | changes w hwaits hflight hsnapshot =>
    refine ⟨flight, saved, le_rfl, hcatalog, h.saved_le, Nat.le_succ_of_le h.flight_le, fun v text hv => ?_,
      fun text htext => h.snapshot text (hsnapshot ▸ htext)⟩
    exact h.inFlight v text ((hflight v).symm.trans hv)
  | serialises w hflight hothers hsame hsnapshot =>
    refine ⟨now + 1, saved, le_rfl, hcatalog, ?_, le_rfl, fun v text hv => ?_,
      fun text htext => h.snapshot text (hsnapshot ▸ htext)⟩
    · exact Nat.le_succ_of_le (h.saved_le.trans h.flight_le)
    · by_cases hvw : v = w
      · rw [hvw, hflight, hcatalog] at hv
        exact (Option.some.inj hv).symm
      · exact absurd ((hothers v hvw).symm.trans hv) nofun
  | renames w text hflight hothers hnone hsame hsnapshot hwaits =>
    refine ⟨flight, flight, h.saved_le, hcatalog, le_rfl, Nat.le_succ_of_le h.flight_le, fun v other hv => ?_,
      fun other hother => ?_⟩
    · exact absurd ((hnone v).symm.trans hv) nofun
    · obtain rfl : text = other := Option.some.inj (hsnapshot.symm.trans hother)
      exact .inl (h.inFlight w text hflight)
  | keeps hflight hsame hsnapshot hwaits =>
    refine ⟨flight, saved, le_rfl, hcatalog, h.saved_le, Nat.le_succ_of_le h.flight_le, fun v text hv => ?_,
      fun text htext => h.snapshot text (hsnapshot ▸ htext)⟩
    exact h.inFlight v text ((hflight v).symm.trans hv)

/-! ## Runs -/

/-- **What every move keeps, every state of a run has.** -/
theorem Run.forall_mem {motive : State Worker → Prop} (hstep : ∀ {s t}, motive s → Step s t → motive t)
    {states : List (State Worker)} (hrun : Run s states) (hs : motive s) : ∀ t ∈ states, motive t := by
  induction hrun with
  | stay => exact List.forall_mem_nil _
  | step h _ ih =>
    have ht := hstep hs h
    exact List.forall_mem_cons.2 ⟨ht, ih ht⟩

theorem Run.trans {states rest : List (State Worker)} (h : Run s (states ++ [t])) (hrest : Run t rest) :
    Run s (states ++ t :: rest) := by
  induction states generalizing s with
  | nil =>
    cases h with
    | step hstep _ => exact .step hstep hrest
  | cons u states ih =>
    cases h with
    | step hstep h => exact .step hstep (ih h)

/-- A worker that waits while nobody has the lock can save without another one moving. -/
theorem exists_save (hw : s.stage w = .unsaved) (hfree : s.holder = none) :
    ∃ states t, Run s (states ++ [t]) ∧ t.catalog = s.catalog ∧
      t.snapshot = some (Snapshot.text s.catalog) ∧ t.stage = (s.move w .idle).stage ∧ t.holder = none := by
  have hself (u : State Worker) (stage : Stage) : (u.move w stage).stage w = stage := stage_move_self u w stage
  let locked : State Worker := { s.move w .locked with holder := some w }
  let serialised := locked.move w (.serialised (Snapshot.text s.catalog))
  let begun := { serialised.move w (.writing (Snapshot.text s.catalog)) with
    temporary := some (Snapshot.text s.catalog) }
  let completed := { begun.move w .written with temporary := some (Snapshot.text s.catalog) }
  let renamed :=
    { completed.move w .renamed with snapshot := some (Snapshot.text s.catalog), temporary := none }
  let released := { renamed.move w .idle with holder := none }
  have hlock : Step s locked := .lock w hw hfree
  have hserialise : Step locked serialised := .serialise w (hself s _)
  have hbegin : Step serialised begun := .begin w _ _ (hself locked _)
  have hcomplete : Step begun completed := .complete w _ (hself serialised _)
  have hrename : Step completed renamed := .rename w _ (hself begun _) rfl
  have hrelease : Step renamed released := .release w (hself completed _)
  have hmoves : Run s [locked, serialised, begun, completed, renamed, released] :=
    .step hlock (.step hserialise (.step hbegin (.step hcomplete (.step hrename (.step hrelease (.stay _))))))
  have hstage : released.stage = (s.move w .idle).stage := by
    funext v
    by_cases hv : v = w
    · rw [hv]
      exact (hself renamed .idle).trans (hself s .idle).symm
    · simp [released, renamed, completed, begun, serialised, locked, State.move, hv]
  exact ⟨[locked, serialised, begun, completed, renamed], released, hmoves, rfl, rfl, hstage, rfl⟩

/-- Behind the first change of a run the current catalog is never lost. -/
theorem fresh_of_run {states : List (State Worker)} (hrun : Run s states) (hidle : ∀ w, s.stage w = .idle)
    (hfree : s.holder = none) : ∀ t ∈ states, Fresh t := by
  have horderly := orderly_of_idle hidle hfree
  cases hrun with
  | stay => exact List.forall_mem_nil _
  | step h hrest =>
    have hfirst := fresh_of_idle_step hidle h
    have hkept := hrest.forall_mem (motive := fun u => Orderly u ∧ Fresh u)
      (fun hu hstep => ⟨hu.1.step hstep, hu.2.step (effect_of_step hu.1 hstep)⟩) ⟨horderly.step h, hfirst⟩
    exact List.forall_mem_cons.2 ⟨hfirst, fun t ht => (hkept t ht).2⟩

/-- A sequence of moments with one more in front. -/
def momentsFrom (first : ℕ) (later : ℕ → ℕ) : ℕ → ℕ
  | 0 => first
  | i + 1 => later i

theorem monotone_momentsFrom {first : ℕ} {later : ℕ → ℕ} (h : first ≤ later 0) (hlater : Monotone later) :
    Monotone (momentsFrom first later) := by
  refine monotone_nat_of_le_succ fun i => ?_
  cases i with
  | zero => exact h
  | succ i => exact hlater (Nat.le_succ i)

/-- What holds of the first element at its place and of those behind it at theirs holds of all. -/
theorem forall_getElem?_cons {α : Type} {P : ℕ → α → Prop} {a : α} {l : List α} (ha : P 0 a)
    (h : ∀ i b, l[i]? = some b → P (i + 1) b) (i : ℕ) (b : α) (hb : (a :: l)[i]? = some b) : P i b := by
  cases i with
  | zero =>
    obtain rfl : a = b := Option.some.inj hb
    exact ha
  | succ i => exact h i b hb

/-- **The moments of the file over a run do not go back.** The catalogs are those of the run, the first of them
at the moment that is `now`. -/
theorem Dated.exists_moments {catalogs : ℕ → Catalog} {start : Option String} {states : List (State Worker)}
    (hrun : Run s states) {now flight saved : ℕ} (horderly : Orderly s)
    (h : Dated catalogs start now flight saved s)
    (hcatalogs : ∀ i t, (s :: states)[i]? = some t → t.catalog = catalogs (now + i)) :
    ∃ moment : ℕ → ℕ, Monotone moment ∧ moment 0 = saved ∧
      ∀ i t, (s :: states)[i]? = some t → moment i ≤ now + i ∧
        ∀ text, t.snapshot = some text →
          text = Snapshot.text (catalogs (moment i)) ∨ moment i = 0 ∧ start = some text := by
  have hfirst : saved ≤ now := h.saved_le.trans h.flight_le
  -- the induction is on the run; the moments behind the first state are those of the rest
  induction hrun generalizing now flight saved with
  | stay s =>
    refine ⟨momentsFrom saved fun _ => saved, monotone_momentsFrom le_rfl monotone_const, rfl, ?_⟩
    exact forall_getElem?_cons ⟨hfirst, h.snapshot⟩ nofun
  | @step s u rest hstep hrest ih =>
    have hu : u.catalog = catalogs (now + 1) := hcatalogs 1 u rfl
    obtain ⟨flight', saved', hle, hdated⟩ := h.step hu (effect_of_step horderly hstep)
    have hlater : ∀ i t, (u :: rest)[i]? = some t → t.catalog = catalogs (now + 1 + i) := by
      intro i t ht
      rw [Nat.add_assoc, Nat.add_comm 1 i]
      exact hcatalogs (i + 1) t ht
    obtain ⟨moment, hmono, rfl, hmoment⟩ :=
      ih (horderly.step hstep) hdated hlater (hdated.saved_le.trans hdated.flight_le)
    refine ⟨momentsFrom saved moment, monotone_momentsFrom hle hmono, rfl, ?_⟩
    refine forall_getElem?_cons ⟨hfirst, h.snapshot⟩ fun i t ht => ?_
    obtain ⟨hbound, htext⟩ := hmoment i t ht
    exact ⟨hbound.trans_eq (Nat.succ_add_eq_add_succ now i), htext⟩

/-- **The file follows the catalog**, over every run of any number of workers, and from every state in which
all of them are idle. To every state of the run belongs a moment not behind it, and later states have no
earlier moments. Where there is a file, it holds the whole text of the catalog of that moment, or still what it
held at the start. Where all workers are idle it holds the current one, behind the first change or from the
start on if it has held it then. -/
theorem file_follows_catalog {states : List (State Worker)} (hrun : Run s states)
    (hidle : ∀ w, s.stage w = .idle) (hfree : s.holder = none) :
    ∃ moment : ℕ → ℕ, Monotone moment ∧ ∀ i t, (s :: states)[i]? = some t →
      moment i ≤ i ∧
      (∀ text, t.snapshot = some text →
        (∃ past, (s :: states)[moment i]? = some past ∧ text = Snapshot.text past.catalog) ∨
          moment i = 0 ∧ s.snapshot = some text) ∧
      (0 < i ∨ s.snapshot = some (Snapshot.text s.catalog) → (∀ w, t.stage w = .idle) →
        t.snapshot = some (Snapshot.text t.catalog)) := by
  have horderly := orderly_of_idle hidle hfree
  -- the catalog of each moment of the run
  let catalogs (i : ℕ) : Catalog := (((s :: states)[i]?).map (·.catalog)).getD {}
  have hcatalogs : ∀ i t, (s :: states)[i]? = some t → t.catalog = catalogs (0 + i) := by
    intro i t ht
    show t.catalog = (((s :: states)[0 + i]?).map (·.catalog)).getD {}
    rw [Nat.zero_add, ht]
    rfl
  have hstart : Dated catalogs s.snapshot 0 0 0 s := by
    refine ⟨hcatalogs 0 s rfl, le_rfl, le_rfl, fun w text hw => ?_, fun text htext => .inr ⟨rfl, htext⟩⟩
    rw [inFlight?_of_stage (hidle w)] at hw
    cases hw
  obtain ⟨moment, hmono, -, hmoment⟩ := hstart.exists_moments hrun horderly hcatalogs
  refine ⟨moment, hmono, fun i t ht => ?_⟩
  obtain ⟨hbound, htext⟩ := hmoment i t ht
  rw [Nat.zero_add] at hbound
  refine ⟨hbound, fun text hsome => (htext text hsome).imp_left fun hdate => ?_, fun hstarted hall => ?_⟩
  · have hlength : moment i < (s :: states).length :=
      hbound.trans_lt (List.getElem?_eq_some_iff.1 ht).1
    refine ⟨_, List.getElem?_eq_getElem hlength, ?_⟩
    rw [hdate, hcatalogs (moment i) _ (List.getElem?_eq_getElem hlength), Nat.zero_add]
  · cases i with
    | zero =>
      obtain rfl : s = t := Option.some.inj ht
      exact hstarted.resolve_left (Nat.lt_irrefl 0)
    | succ i => exact (fresh_of_run hrun hidle hfree t (List.mem_of_getElem? ht)).snapshot_of_idle hall

/-- Two workers change the catalog, one behind the other, and then both save it. -/
theorem file_follows_two_workers :
    ∃ (states : List (State Bool)) (last : State Bool), Run State.initial states ∧
      states.getLast? = some last ∧ last.catalog.databaseNames = ["a", "b"] ∧
      last.snapshot = some (Snapshot.text last.catalog) := by
  let a : Catalog := { databases := NameMap.empty.insert "a" {} }
  let both : Catalog := { databases := a.databases.insert "b" {} }
  let first : State Bool := { State.initial.move true .unsaved with catalog := a }
  let second : State Bool := { first.move false .unsaved with catalog := both }
  have hfirst : Step State.initial first :=
    .change true (.createDatabase "a" false) none (.affected 1) a rfl rfl rfl
  have hsecond : Step first second :=
    .change false (.createDatabase "b" false) none (.affected 1) both rfl rfl rfl
  obtain ⟨earlier, t, hsaveFirst, htcatalog, -, htstage, htholder⟩ :=
    exists_save (s := second) (w := true) rfl rfl
  obtain ⟨later, last, hsaveSecond, hlcatalog, -, hlstage, -⟩ :=
    exists_save (s := t) (w := false) (by rw [htstage]; rfl) htholder
  have hrun : Run State.initial (first :: second :: (earlier ++ t :: (later ++ [last]))) :=
    .step hfirst (.step hsecond (hsaveFirst.trans hsaveSecond))
  have hidle : ∀ w, last.stage w = .idle := by
    intro w
    rw [hlstage]
    cases w with
    | false => rfl
    | true =>
      show t.stage true = .idle
      rw [htstage]
      rfl
  have hlast : (first :: second :: (earlier ++ t :: (later ++ [last]))).getLast? = some last := by
    have hsplit : first :: second :: (earlier ++ t :: (later ++ [last])) =
        (first :: second :: (earlier ++ t :: later)) ++ [last] := by simp
    rw [hsplit, List.getLast?_concat]
  have hmem : last ∈ first :: second :: (earlier ++ t :: (later ++ [last])) := List.mem_of_getLast? hlast
  obtain ⟨i, hi⟩ := List.mem_iff_getElem?.1 hmem
  obtain ⟨moment, -, hmoment⟩ := file_follows_catalog hrun (fun _ => rfl) rfl
  refine ⟨_, last, hrun, hlast, ?_, (hmoment (i + 1) last hi).2.2 (.inl (Nat.succ_pos i)) hidle⟩
  rw [hlcatalog, htcatalog]
  decide

/-! ## One worker -/

/-- **Nobody is stuck**: where a worker is not idle, some worker can move. -/
theorem Orderly.exists_step (h : Orderly s) (hbusy : s.stage w ≠ .idle) : ∃ t, Step s t := by
  cases hholder : s.holder with
  | none =>
    -- the worker has no lock, and may take it
    have hnot : ¬ (s.stage w).hasLock = true := by
      rw [← h.holder_iff, hholder]
      exact nofun
    cases hw : s.stage w with
    | idle => exact absurd hw hbusy
    | unsaved => exact ⟨_, .lock w hw hholder⟩
    | _ => exact absurd (by rw [hw]; rfl) hnot
  | some v =>
    -- the worker that has the lock goes on
    have hlock := (h.holder_iff v).1 hholder
    cases hv : s.stage v with
    | idle => exact absurd hlock (by rw [hv]; exact nofun)
    | unsaved => exact absurd hlock (by rw [hv]; exact nofun)
    | locked => exact ⟨_, .serialise v hv⟩
    | serialised text => exact ⟨_, .begin v text "" hv⟩
    | writing text => exact ⟨_, .complete v text hv⟩
    | written =>
      obtain ⟨text, htext⟩ := h.temporary_of_written v hv
      exact ⟨_, .rename v text hv htext⟩
    | renamed => exact ⟨_, .release v hv⟩

/-- **A worker by itself makes of the store what `Store.execute` makes of it**: the catalog behind its moves is
that of the store, and the file holds what the file of the store holds. -/
theorem exists_run_of_execute {store store' : Store} {file : SnapshotFile} {sql : String}
    {statement : Statement} {database : Option String} {result : ResultSet}
    (hparse : Statement.parse sql = .ok statement) (hmutates : statement.isMutation = true)
    (hexecute : store.execute sql database = .ok (result, store')) (hfile : store.autosave = some file)
    (hcatalog : s.catalog = store.catalog) (hw : s.stage w = .idle) (hfree : s.holder = none) :
    ∃ states t, Run s (states ++ [t]) ∧ t.catalog = store'.catalog ∧
      store'.autosave = some ⟨t.snapshot⟩ ∧ t.stage = s.stage ∧ t.holder = none := by
  have hparts : ∃ catalog, store.catalog.run statement database = .ok (result, catalog) ∧
      store' = Store.save { store with catalog } := by
    unfold Store.execute at hexecute
    rw [hparse] at hexecute
    change (store.catalog.run statement database >>= _) = _ at hexecute
    cases hrun : store.catalog.run statement database with
    | error e =>
      rw [hrun] at hexecute
      cases hexecute
    | ok v =>
      rw [hrun] at hexecute
      change Except.ok (v.1, if statement.isMutation then _ else _) = _ at hexecute
      rw [if_pos hmutates] at hexecute
      obtain ⟨rfl, rfl⟩ := Prod.mk.inj (Except.ok.inj hexecute)
      exact ⟨v.2, rfl, rfl⟩
  obtain ⟨catalog, hrun, rfl⟩ := hparts
  have hchange := Step.change w statement database result catalog hw hmutates (hcatalog ▸ hrun)
  obtain ⟨states, t, hsave, htcatalog, htsnapshot, htstage, htholder⟩ :=
    exists_save (s := { s.move w .unsaved with catalog }) (stage_move_self s w .unsaved) hfree
  refine ⟨_ :: states, t, .step hchange hsave, htcatalog, ?_, ?_, htholder⟩
  · rw [Store.save, hfile, htsnapshot]
    rfl
  · rw [htstage]
    funext v
    by_cases hv : v = w
    · rw [hv, stage_move_self, hw]
    · simp [State.move, hv]

end WireSql.Saving
