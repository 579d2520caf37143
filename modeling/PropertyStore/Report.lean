import PropertyStore.Report.Document
import PropertyStore.Report.Selection

/-!
# Reports

A report shows a store, as a listing for people or as a document for programs, all of
its sets or one of them, with or without the bytes of the values.
-/

namespace PropertyStore

namespace Report

/-- Whom a report is for. -/
inductive Form where
  /-- A listing, for people. -/
  | listing
  /-- A document, for programs. -/
  | document
  deriving DecidableEq, Repr

/-- What a report shows, and how. -/
structure Options where
  /-- Whom it is for. -/
  form : Form := .listing
  /-- The place of the only set to be shown. -/
  setIndex : Option Nat := none
  /-- Whether the bytes of the values are shown too. -/
  showHex : Bool := false
  deriving DecidableEq, Repr

end Report

/-- The report of a store. -/
def Store.report (store : Store) (options : Report.Options) :
    Except Report.RenderError String := do
  let sets ← Report.select store options.setIndex
  match options.form with
  | .listing => return Report.listing options.showHex store sets
  | .document => return (Report.document options.showHex store sets).pretty

end PropertyStore
