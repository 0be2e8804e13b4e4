import Drafting.Row
import Drafting.Statement.Plan

/-!
# Reading a drawing

The rows of a source are read one after the other on one drawing.  A row that
fails is noted with its number, counted from one, and the next row goes on from
the drawing as it was.
-/

namespace Drafting

inductive RowOutcome where
  | skipped
  | failed (error : StatementError)
  | done (effect : Effect)
deriving DecidableEq

structure RowError where
  row : Nat
  error : StatementError
deriving DecidableEq

namespace RowError

def message (e : RowError) : String :=
  "row " ++ Decimal.counted e.row ++ ": " ++ e.error.message

end RowError

namespace Drawing

def readRow (d : Drawing) (text : String) : RowOutcome × Drawing :=
  match Row.content? text with
  | none => (.skipped, d)
  | some content =>
      match d.execute (Statement.ofLine content) with
      | (.error e, after) => (.failed e, after)
      | (.ok effect, after) => (.done effect, after)

end Drawing

structure Report where
  drawing : Drawing
  errors : List RowError
deriving DecidableEq

namespace Report

def blank : Report :=
  { drawing := .blank, errors := [] }

def document (r : Report) : Document :=
  r.drawing.document

def symbols (r : Report) : SymbolTable :=
  r.drawing.session.symbols

def defaults (r : Report) : StyleDefaults :=
  r.drawing.session.defaults

def isClean (r : Report) : Bool :=
  r.errors.isEmpty

def feed (r : Report) (row : Nat) (text : String) : Report :=
  match r.drawing.readRow text with
  | (.failed e, after) =>
      { drawing := after, errors := r.errors ++ [{ row := row, error := e }] }
  | (_, after) => { r with drawing := after }

def feedAll (r : Report) (rows : List (Nat × String)) : Report :=
  rows.foldl (fun r (row, text) => r.feed row text) r

/-- The rows of a source with their numbers, the first of which is `first`. -/
def numbered (first : Nat) (source : String) : List (Nat × String) :=
  ((Text.rows source.toList).zipIdx first).map fun (row, i) => (i, String.ofList row)

def ofSource (source : String) : Report :=
  blank.feedAll (numbered 1 source)

end Report

end Drafting
