import PropertyStore.PropertySet

/-!
# What is to be shown of a store

Every set of a store is shown, or the one at a place. A store without sets has nothing
to show.
-/

namespace PropertyStore.Report

/-- Why there is nothing to show. -/
inductive RenderError where
  /-- The store has no sets. -/
  | emptyStore
  /-- The store has no set at the place asked for. -/
  | lookup (cause : LookupError)
  deriving DecidableEq, Repr

/-- The failure in words. -/
def RenderError.message : RenderError → String
  | .emptyStore => "store contains no sets"
  | .lookup cause => cause.message

/-- The sets to be shown, each with its place: all of them, or the one asked for. -/
def select (store : Store) : Option Nat → Except RenderError (List (Nat × PropertySet))
  | none => if store.isEmpty then .error .emptyStore else .ok (store.sets.zipIdx.map Prod.swap)
  | some index =>
    if store.isEmpty then .error .emptyStore
    else
      match store.set index with
      | .ok set => .ok [(index, set)]
      | .error e => .error (.lookup e)

end PropertyStore.Report
