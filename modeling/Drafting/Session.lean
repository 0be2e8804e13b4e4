import Drafting.Expression.Symbols
import Drafting.Shape

/-!
# Sessions

While a drawing is read, its session holds the symbols assigned so far and the
style that shapes get when they do not name their own.
-/

namespace Drafting

structure StyleDefaults where
  fillColor : Color
  lineColor : Color
  lineThickness : Float
  textAlign : TextAlign
  startCap : CapStyle
  endCap : CapStyle
deriving DecidableEq

inductive DefaultKey where
  | fillColor
  | lineColor
  | lineThickness
  | textAlign
  | startCap
  | endCap
deriving DecidableEq

inductive DefaultValue where
  | fillColor (color : Color)
  | lineColor (color : Color)
  | lineThickness (thickness : Float)
  | textAlign (align : TextAlign)
  | startCap (cap : CapStyle)
  | endCap (cap : CapStyle)
deriving DecidableEq

namespace DefaultKey

def all : List DefaultKey :=
  [fillColor, lineColor, lineThickness, textAlign, startCap, endCap]

def code : DefaultKey -> String
  | fillColor => "fc"
  | lineColor => "lc"
  | lineThickness => "lt"
  | textAlign => "tp"
  | startCap => "ss"
  | endCap => "es"

def label : DefaultKey -> String
  | fillColor => "fill color"
  | lineColor => "line color"
  | lineThickness => "line thickness"
  | textAlign => "text alignment"
  | startCap => "start cap"
  | endCap => "end cap"

def ofCode? (raw : String) : Option DefaultKey :=
  lookUpLabel all code raw

end DefaultKey

namespace DefaultValue

def key : DefaultValue -> DefaultKey
  | fillColor _ => .fillColor
  | lineColor _ => .lineColor
  | lineThickness _ => .lineThickness
  | textAlign _ => .textAlign
  | startCap _ => .startCap
  | endCap _ => .endCap

end DefaultValue

namespace StyleDefaults

def initial : StyleDefaults :=
  let common := Common.named ""
  { fillColor := common.fillColor
    lineColor := common.lineColor
    lineThickness := common.lineThickness
    textAlign := common.textAlign
    startCap := .none
    endCap := .none }

def set (d : StyleDefaults) : DefaultValue -> StyleDefaults
  | .fillColor color => { d with fillColor := color }
  | .lineColor color => { d with lineColor := color }
  | .lineThickness thickness => { d with lineThickness := thickness }
  | .textAlign align => { d with textAlign := align }
  | .startCap cap => { d with startCap := cap }
  | .endCap cap => { d with endCap := cap }

end StyleDefaults

structure Session where
  symbols : SymbolTable
  defaults : StyleDefaults
deriving DecidableEq

namespace Session

def initial : Session :=
  { symbols := .empty, defaults := .initial }

end Session

end Drafting
