import Drafting.Statement
import Drafting.Statement.Change
import Drafting.Statement.Error

/-!
# Planning the change of a statement

The head of a statement decides what it is.  One of the keywords builds a page,
a rectangle, or a line from the fields; a name that starts with `$` sets a
default; any other name is assigned the value of the head.

The fields are read in a fixed order, and the first fault found is the one that
is reported.
-/

namespace Drafting
namespace Statement

/-- Reads a field that is present; an absent one stands for `otherwise`. -/
def override (raw : Option String) (read : String -> Except StatementError α)
    (otherwise : α) : Except StatementError α :=
  match raw with
  | none => .ok otherwise
  | some raw => read raw

def number (symbols : SymbolTable) (raw : String) : Except StatementError Float :=
  (Expression.evaluate symbols raw).mapError .expression

/--
The whole number that a float is, if its size is at most `2 ^ 31 - 1`.
Fractions, infinities, and values that are no numbers are none.
-/
def boundedWhole? (v : Float) : Option Int :=
  match (Decimal.Binary.ofFloat v).whole? with
  | some n => if n.natAbs ≤ 2147483647 then some n else none
  | none => none

def wholeNumber (field : String) (symbols : SymbolTable) (raw : String) :
    Except StatementError Int := do
  let value ← number symbols raw
  match boundedWhole? value with
  | some n => .ok n
  | none => .error (.malformedField field raw)

def thickness (symbols : SymbolTable) (raw : String) : Except StatementError Float := do
  let value ← number symbols raw
  let checked ← ((Common.named "").setThickness value).mapError .shape
  .ok checked.lineThickness

def color (raw : String) : Except StatementError Color :=
  (Color.ofName? raw).mapError .style

def textAlign (raw : String) : Except StatementError TextAlign :=
  (TextAlign.ofCode? raw).mapError .style

def capStyle (raw : String) : Except StatementError CapStyle :=
  (CapStyle.ofCode? raw).mapError .style

def required (s : Statement) (keyword : Keyword) (key : String) (position : Nat) :
    Except StatementError String :=
  match s.fieldOrPosition? key position with
  | some raw => .ok raw
  | none => .error (.missingField keyword key)

def requiredNumber (s : Statement) (symbols : SymbolTable) (keyword : Keyword)
    (key : String) (position : Nat) : Except StatementError Float := do
  let raw ← s.required keyword key position
  number symbols raw

/-!
## Pages

Scale and grid are required, and width, height, and snap stay as they are unless
they are given.
-/

def positive (measure : PageMeasure) (v : Float) : Except StatementError Float :=
  if 0.0 < v then .ok v else .error (.measureNotPositive measure v)

def pageMeasure (symbols : SymbolTable) (measure : PageMeasure) (raw : String) :
    Except StatementError Float := do
  let value ← number symbols raw
  positive measure value

def page (s : Statement) (symbols : SymbolTable) (current : Page) :
    Except StatementError Page := do
  let rawScale ← s.required .page "sc" 0
  let scale ← wholeNumber "sc" symbols rawScale
  if scale ≤ 0 then .error (.scaleNotPositive scale)
  else
    let gridValue ← s.requiredNumber symbols .page "gr" 1
    let grid ← positive .grid gridValue
    let units := (s.fieldOrPosition? "un" 2).getD ""
    let width ← override (s.field? "w") (pageMeasure symbols .width) current.width
    let height ← override (s.field? "h") (pageMeasure symbols .height) current.height
    let snap ← override (s.field? "sn") (pageMeasure symbols .snap) current.snap
    .ok
      { width := width, height := height, grid := grid, snap := snap
        units := units, scale := scale.toNat }

/-!
## Shapes

The common properties are read before the geometry.  A rectangle must measure at
least one unit each way.
-/

def common (s : Statement) (session : Session) : Except StatementError Common := do
  let symbols := session.symbols
  let defaults := session.defaults
  let layer ← override (s.field? "lr") (wholeNumber "lr" symbols) 0
  let thickness ← override (s.field? "lt") (thickness symbols) defaults.lineThickness
  let lineColor ← override (s.field? "lc") color defaults.lineColor
  let fillColor ← override (s.field? "fc") color defaults.fillColor
  let align ← override (s.field? "tp") textAlign defaults.textAlign
  .ok
    { id := s.name.getD ""
      layer := layer
      text := (s.field? "tx").getD ""
      textAlign := align
      lineThickness := thickness
      lineColor := lineColor
      fillColor := fillColor }

def rect (s : Statement) (session : Session) : Except StatementError Rect := do
  let common ← s.common session
  let x ← s.requiredNumber session.symbols .rect "x" 0
  let y ← s.requiredNumber session.symbols .rect "y" 1
  let width ← s.requiredNumber session.symbols .rect "w" 2
  let height ← s.requiredNumber session.symbols .rect "h" 3
  if width < 1.0 ∨ height < 1.0 then .error (.rectTooSmall common.id width height)
  else (Rect.make common { x := x, y := y } width height).mapError .shape

def line (s : Statement) (session : Session) : Except StatementError Line := do
  let common ← s.common session
  let startX ← s.requiredNumber session.symbols .line "sx" 0
  let startY ← s.requiredNumber session.symbols .line "sy" 1
  let finishX ← s.requiredNumber session.symbols .line "ex" 2
  let finishY ← s.requiredNumber session.symbols .line "ey" 3
  let startCap ← override (s.field? "ss") capStyle session.defaults.startCap
  let endCap ← override (s.field? "es") capStyle session.defaults.endCap
  .ok (Line.make common { x := startX, y := startY } { x := finishX, y := finishY }
    startCap endCap)

/-!
## Defaults and symbols

A statement whose head is no keyword assigns it: to a default if its name has
the mark in front, and to a symbol otherwise.
-/

def defaultMark : Char := '$'

/-- The default that a name stands for: one of the six codes after the mark, in any case. -/
def defaultKey? (name : String) : Option DefaultKey :=
  match name.toList with
  | c :: code => if c = defaultMark then DefaultKey.ofCode? (String.ofList code) else none
  | [] => none

def defaultValue (symbols : SymbolTable) (key : DefaultKey) (raw : String) :
    Except StatementError DefaultValue :=
  match key with
  | .fillColor => (color raw).map .fillColor
  | .lineColor => (color raw).map .lineColor
  | .lineThickness => (thickness symbols raw).map .lineThickness
  | .textAlign => (textAlign raw).map .textAlign
  | .startCap => (capStyle raw).map .startCap
  | .endCap => (capStyle raw).map .endCap

def assignment (s : Statement) (symbols : SymbolTable) : Except StatementError Change :=
  match s.name with
  | none => .error (.unrecognized s.head)
  | some name =>
      match defaultKey? name with
      | some key => (defaultValue symbols key s.head).map .default
      | none =>
          if name = "" then .error .unnamedAssignment
          else (number symbols s.head).map (.symbol name)

/-!
## Plans

The plan of a statement is the change it makes to a drawing, or why it makes
none.  Executing the statement then enacts the change.
-/

def plan (s : Statement) (d : Drawing) : Except StatementError Change :=
  match Keyword.ofHead? s.head with
  | some .page => (s.page d.session.symbols d.document.page).map .page
  | some .rect => (s.rect d.session).map fun r => .shape (.rect r)
  | some .line => (s.line d.session).map fun l => .shape (.line l)
  | none => s.assignment d.session.symbols

end Statement

namespace Drawing

def execute (d : Drawing) (s : Statement) : Except StatementError Effect × Drawing :=
  match s.plan d with
  | .error e => (.error e, d)
  | .ok change => (.ok change.effect, d.enact change)

end Drawing

end Drafting
