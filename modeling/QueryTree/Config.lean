import QueryTree.Description.Decode
import QueryTree.Toml.Reader

/-!
Configuration: the dialect and the limits for a user who does not choose them anew each time.
-/

namespace QueryTree

structure Config where
  dialect : Dialect := .standard
  limits : Limits := .standard
deriving DecidableEq, Repr

namespace Config

def ofData? (data : Data) : Option Config :=
  match data.members? .toml ["dialect", "max_depth", "max_take"] with
  | some [dialect, maxDepth, maxTake] => do
    let dialect ← Data.orMissing .standard (Data.asName? .toml Dialect.all Dialect.name) dialect
    let maxDepth ← Data.orMissing Limits.standard.maxDepth Data.asWord? maxDepth
    let maxTake ← Data.optionally Data.asWord? maxTake
    some ⟨dialect, ⟨maxDepth, maxTake⟩⟩
  | _ => none

/-- The configuration in a TOML text. What is not set there has its default. -/
def read (text : String) : Except QueryError Config :=
  match Toml.read text with
  | none => .error (.config .malformed)
  | some data =>
    match ofData? data with
    | none => .error (.config .mistyped)
    | some config => .ok config

end Config

end QueryTree
