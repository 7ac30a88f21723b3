import WireSql.Error
import WireSql.Wire.Reader

/-!
# `WireSql.Wire.Parse`: payloads that must have a form

A payload that a peer sends is read field by field. `Parse.need` reads a field that has to be there
and names the error of a payload without it; `Parse.allow` reads one that may be missing.
-/

namespace WireSql.Wire

/-- Reading a payload that may turn out malformed. -/
abbrev Parse := StateT Reader (Except Error)

namespace Parse

/-- The error of a malformed payload. -/
def malformed (payload : Bytes) (detail : String) : Error := .protocol detail (some payload) none

/-- Read a field of a payload; it has to be there. -/
def need {α : Type} (payload : Bytes) (detail : String) (read : Read α) : Parse α := fun r =>
  match read.runFrom r with
  | (some a, r) => .ok (a, r)
  | (none, _) => .error (malformed payload detail)

/-- Read a field that may be missing. -/
def allow {α : Type} (read : Read α) : Parse (Option α) := fun r => .ok (read.runFrom r)

/-- Read a payload from its start. -/
def run {α : Type} (payload : Bytes) (parse : Parse α) : Except Error α :=
  (StateT.run parse (Reader.ofBytes payload)).map Prod.fst

end Parse

end WireSql.Wire
