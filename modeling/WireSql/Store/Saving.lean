import WireSql.Store

/-!
# `WireSql.Store.Saving`: workers that save the same catalog

Several workers share one catalog and one snapshot file. A worker changes the catalog in one step,
and then saves it in several, between which other workers may move: it takes the lock, serialises
the catalog that is current then, writes a temporary file, renames that over the snapshot, and
gives the lock back. There is one temporary file for all of them. A program that lets nobody else
move between a worker's change and the end of its saving has some of these runs and no others.

`Saving.Step` is one move of one worker and `Saving.Run` any number of moves. While the temporary
file is being written it may hold any part of a text.
-/

namespace WireSql.Saving

/-- Where a worker stands. -/
inductive Stage where
  /-- Nothing of its own is unsaved. -/
  | idle
  /-- It has changed the catalog and waits for the lock. -/
  | unsaved
  | locked
  | serialised (text : String)
  /-- It is writing the temporary file. -/
  | writing (text : String)
  /-- The temporary file is complete. -/
  | written
  /-- The temporary file has become the snapshot. -/
  | renamed
deriving DecidableEq, Repr

/-- The catalog, the files and the workers. -/
structure State (Worker : Type) where
  catalog : Catalog
  /-- The text of the snapshot, once there is one. -/
  snapshot : Option String
  /-- The text of the temporary file, where there is one. -/
  temporary : Option String
  /-- The worker that has the lock. -/
  holder : Option Worker
  stage : Worker → Stage

variable {Worker : Type} [DecidableEq Worker]

/-- All workers idle, with an empty catalog and no file. -/
def State.initial : State Worker :=
  { catalog := {}, snapshot := none, temporary := none, holder := none, stage := fun _ => .idle }

/-- The state with one worker at another stage. -/
def State.move (s : State Worker) (w : Worker) (stage : Stage) : State Worker :=
  { s with stage := fun v => if v = w then stage else s.stage v }

/-- One move of one worker. -/
inductive Step : State Worker → State Worker → Prop where
  /-- An idle worker runs a statement that may change the catalog. -/
  | change {s : State Worker} (w : Worker) (statement : Statement) (database : Option String)
      (result : ResultSet) (catalog : Catalog) (hw : s.stage w = .idle)
      (hm : statement.isMutation = true)
      (hr : s.catalog.run statement database = .ok (result, catalog)) :
      Step s { s.move w .unsaved with catalog }
  | lock {s : State Worker} (w : Worker) (hw : s.stage w = .unsaved) (hl : s.holder = none) :
      Step s { s.move w .locked with holder := some w }
  | serialise {s : State Worker} (w : Worker) (hw : s.stage w = .locked) :
      Step s (s.move w (.serialised (Snapshot.text s.catalog)))
  /-- A worker begins to write the temporary file, which holds some part of the text. -/
  | begin {s : State Worker} (w : Worker) (text part : String)
      (hw : s.stage w = .serialised text) :
      Step s { s.move w (.writing text) with temporary := some part }
  | complete {s : State Worker} (w : Worker) (text : String) (hw : s.stage w = .writing text) :
      Step s { s.move w .written with temporary := some text }
  /-- A worker renames the temporary file over the snapshot. -/
  | rename {s : State Worker} (w : Worker) (text : String) (hw : s.stage w = .written)
      (ht : s.temporary = some text) :
      Step s { s.move w .renamed with snapshot := some text, temporary := none }
  | release {s : State Worker} (w : Worker) (hw : s.stage w = .renamed) :
      Step s { s.move w .idle with holder := none }

/-- A run, with the states after the first one in order. -/
inductive Run : State Worker → List (State Worker) → Prop where
  | stay (s : State Worker) : Run s []
  | step {s t : State Worker} {rest : List (State Worker)} (h : Step s t) (hr : Run t rest) :
      Run s (t :: rest)

omit [DecidableEq Worker] in
@[simp] theorem initial_stage (w : Worker) : (State.initial : State Worker).stage w = .idle := rfl

@[simp] theorem stage_move_self (s : State Worker) (w : Worker) (stage : Stage) :
    (s.move w stage).stage w = stage := by
  simp [State.move]

theorem stage_move_of_ne {s : State Worker} {v w : Worker} (h : v ≠ w) (stage : Stage) :
    (s.move w stage).stage v = s.stage v := by
  simp [State.move, h]

end WireSql.Saving
