import WireSql.Error
import WireSql.ResultSet
import WireSql.Store.InPlace

/-!
# `WireSql.Backend`: what runs the statements of clients

The protocol does not depend on how statements are run: anything with the operations of `Backend`
over some state will do. `Store.backend` is the one that keeps its tables in memory.
-/

namespace WireSql

/-- The operations that run statements, over a state shared by all connections. -/
structure Backend (σ : Type) where
  /-- Run a statement with the session's capabilities and database. -/
  execute : σ → String → UInt32 → Option String → Except QueryError ResultSet × σ
  /-- Say why a session cannot switch to a database, or that it can. -/
  selectDatabase : σ → String → Except Error Unit
  /-- A database that cannot be selected is one that is not there. -/
  selectDatabase_error : ∀ s name e, selectDatabase s name = .error e →
    ∃ missing, e = .unknownDatabase missing
  databases : σ → List String

/-- Running statements against tables in memory. -/
def Store.backend : Backend Store where
  execute s sql _ database :=
    let (outcome, s) := (InPlace.execute sql database).exec s
    (outcome.mapError StatementError.toQueryError, s)
  selectDatabase s name :=
    if s.catalog.hasDatabase name then .ok () else .error (.unknownDatabase name)
  selectDatabase_error s name e h := by
    split at h
    · cases h
    · exact ⟨name, (Except.error.inj h).symm⟩
  databases s := s.catalog.databaseNames

end WireSql
