import Drafting.Fault
import Drafting.Toml.Read

/-!
# Settings

Settings are read from a TOML text.  They come in three sections, and whatever a
text leaves out keeps its standard value; names that are not known are passed
over.  Instead of a table, a section may be an array of its values in order.

A reader of settings takes one value and changes the settings read so far, so a
section is read in the same way as the values in it.
-/

namespace Drafting

inductive OutputForm where
  | summary
  | json
deriving DecidableEq

namespace OutputForm

def all : List OutputForm :=
  [summary, json]

def name : OutputForm -> String
  | summary => "summary"
  | json => "json"

def ofName? (name : String) : Option OutputForm :=
  all.find? fun form => form.name = name

theorem ofName?_name (form : OutputForm) : ofName? form.name = some form := by
  cases form <;> decide

end OutputForm

structure Settings where
  logLevel : String
  output : OutputForm
  pickRadius : Float
  hiddenLayers : List Int
deriving DecidableEq

namespace Settings

def standard : Settings :=
  { logLevel := "info", output := .summary, pickRadius := 2.0, hiddenLayers := [] }

/-!
## Single values

An integer stands for the float closest to it where a float is wanted.  Arrays
and tables count however they are written.  The layers are those to be hidden at
the start, whether there are such layers or not.
-/

def takeText : Toml -> Except Fault String
  | .text s => .ok s
  | _ => .error .wrongType

def takeFloat : Toml -> Except Fault Float
  | .real v => .ok v
  | .integer n => .ok (Float.ofInt n)
  | _ => .error .wrongType

def takeLayer : Toml -> Except Fault Int
  | .integer n =>
      if -2147483648 ≤ n ∧ n ≤ 2147483647 then .ok n else .error .wrongValue
  | _ => .error .wrongType

def items? : Toml -> Option (List Toml)
  | .array items => some items
  | .tables rows => some (rows.map (Toml.table .heading))
  | _ => none

def entries? : Toml -> Option Toml.Entries
  | .inline entries => some entries
  | .table _ entries => some entries
  | _ => none

def takeLayers (t : Toml) : Except Fault (List Int) :=
  match items? t with
  | some items => items.mapM takeLayer
  | none => .error .wrongType

def ofFormName (name : String) : Except Fault OutputForm :=
  match OutputForm.ofName? name with
  | some form => .ok form
  | none => .error (.unknownVariant name (OutputForm.all.map OutputForm.name))

def isHollow (t : Toml) : Bool :=
  match items? t, entries? t with
  | some items, _ => items.isEmpty
  | none, some entries => entries.isEmpty
  | none, none => false

/--
A form is named by a text, or by the only entry of a table.  The value of such an
entry means nothing, so it has to be hollow; any other value breaks the rules of
this way of writing.
-/
def takeForm : Toml -> Except Fault OutputForm
  | .text s => ofFormName s
  | t =>
      match entries? t with
      | some [(name, value)] => do
          let form ← ofFormName name
          if isHollow value then .ok form else .error .illFormed
      | _ => .error .wrongType

/-!
## Sections

The entries of a table are applied in the order in which they are written, and
the items of an array to the names in order; what is left over is passed over.
-/

abbrev Update := Settings -> Toml -> Except Fault Settings

def applyEntries (known : List (String × Update)) :
    Settings -> Toml.Entries -> Except Fault Settings
  | s, [] => .ok s
  | s, (name, value) :: rest =>
      match known.lookup name with
      | none => applyEntries known s rest
      | some update => do applyEntries known (← update s value) rest

def applyItems : List (String × Update) -> Settings -> List Toml -> Except Fault Settings
  | (_, update) :: known, s, value :: rest => do applyItems known (← update s value) rest
  | _, s, _ => .ok s

/-- A date or time counts as a table without any known name. -/
def takeSection (known : List (String × Update)) : Update
  | s, .moment => .ok s
  | s, t =>
      match entries? t, items? t with
      | some entries, _ => applyEntries known s entries
      | none, some items => applyItems known s items
      | none, none => .error .wrongType

def logging : List (String × Update) :=
  [("level", fun s t => do .ok { s with logLevel := ← takeText t })]

def frontend : List (String × Update) :=
  [("default_output", fun s t => do .ok { s with output := ← takeForm t }),
   ("pick_radius", fun s t => do .ok { s with pickRadius := ← takeFloat t })]

def layers : List (String × Update) :=
  [("hidden", fun s t => do .ok { s with hiddenLayers := ← takeLayers t })]

def sections : List (String × Update) :=
  [("logging", takeSection logging), ("frontend", takeSection frontend),
   ("layers", takeSection layers)]

def ofText (text : String) : Except Fault Settings :=
  match Toml.ofText? text with
  | none => .error .illFormed
  | some entries => applyEntries sections standard entries

end Settings

end Drafting
