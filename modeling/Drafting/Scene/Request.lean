import Drafting.Decimal.Fixed
import Drafting.Decimal.Reading
import Drafting.Scene

/-!
# Requests to a scene

A request has a name and arguments as they were typed.  It is understood first,
and only then carried out; a request that is not understood, or that names a
layer that cannot be hidden, leaves the scene as it is.

How many arguments there are is checked before any of them is read, and their
values are then looked up by position.  Looking up a position that is not there
would be a defect of this module, and no fault of whoever made the request; the
errors tell the two apart.

The replies are texts for the users of the program.
-/

namespace Drafting

inductive Request where
  | pick (point : Point) (radius : Float)
  | within (area : Box) (mode : ContainMode)
  | bounds
  | setLayer (layer : Int) (visible : Bool)
deriving DecidableEq

inductive RequestError where
  | unknownName (name : String)
  | argumentRange (name : String) (low high given : Nat)
  | notANumber (argument : String)
  | windowArguments (given : Nat)
  | unknownMode (mode : String)
  | oneArgument (name : String)
  | notALayer (argument : String)
  | scene (cause : SceneError)
  | outOfBounds (position count : Nat)
deriving DecidableEq

inductive Reply where
  | hits (found : List Hit)
  | within (ids : List String)
  | bounds (area : Option Box)
  | layerSet (layer : Int) (visible : Bool)
deriving DecidableEq

namespace RequestError

def message : RequestError -> String
  | unknownName name => "未知命令: " ++ name
  | argumentRange name low high given =>
      name ++ " 需要 " ++ Decimal.counted low ++ " 到 " ++ Decimal.counted high ++
        " 个参数，实际 " ++ Decimal.counted given
  | notANumber argument => "无法解析数值参数: " ++ argument
  | windowArguments given => "within 需要 4 或 5 个参数，实际 " ++ Decimal.counted given
  | unknownMode mode => "未知包含模式: " ++ mode
  | oneArgument name => name ++ " 需要 1 个参数"
  | notALayer argument => "无法解析图层编号: " ++ argument
  | scene cause => cause.message
  | outOfBounds position count =>
      "index out of bounds: the len is " ++ Decimal.counted count ++ " but the index is " ++
        Decimal.counted position

/-- Whether the error is a defect of the program rather than a fault of the request. -/
def isDefect : RequestError -> Bool
  | outOfBounds _ _ => true
  | _ => false

end RequestError

namespace Hit

def text (h : Hit) : String :=
  h.kind.name ++ " " ++ h.id ++ "#" ++ Decimal.counted h.feature

end Hit

namespace Reply

def pointText (p : Point) : String :=
  "(" ++ Decimal.fixed 3 p.x ++ ", " ++ Decimal.fixed 3 p.y ++ ")"

def message : Reply -> String
  | hits [] => "未命中任何图形"
  | hits found =>
      "命中 " ++ Decimal.counted found.length ++ " 个图形: " ++
        ", ".intercalate (found.map Hit.text)
  | within [] => "窗口内没有图形"
  | within ids =>
      "窗口内 " ++ Decimal.counted ids.length ++ " 个图形: " ++ ", ".intercalate ids
  | bounds none => "没有可见图形"
  | bounds (some area) => "可见范围: " ++ pointText area.min ++ " - " ++ pointText area.max
  | layerSet layer visible =>
      "图层 " ++ Decimal.whole layer ++
        (if visible then " 已显示" else " 已隐藏")

end Reply

/-!
## Understanding requests

The names of all requests are kept in alphabetical order.  A pick that names no
radius takes the one that is given as the default.
-/

namespace Request

def names : List String :=
  ["bounds", "hide_layer", "pick", "show_layer", "within"]

def number (argument : String) : Except RequestError Float :=
  match Decimal.readFloat (Text.trim argument.toList) with
  | some v => .ok v
  | none => .error (.notANumber argument)

def numbers : List String -> Except RequestError (List Float)
  | [] => .ok []
  | argument :: rest => do
      let v ← number argument
      let more ← numbers rest
      .ok (v :: more)

def numericArguments (name : String) (low high : Nat) (arguments : List String) :
    Except RequestError (List Float) :=
  if arguments.length < low ∨ high < arguments.length then
    .error (.argumentRange name low high arguments.length)
  else numbers arguments

def valueAt (values : List Float) (position : Nat) : Except RequestError Float :=
  match values[position]? with
  | some v => .ok v
  | none => .error (.outOfBounds position values.length)

def pickOf (defaultRadius : Float) (arguments : List String) : Except RequestError Request := do
  let values ← numericArguments "pick" 2 3 arguments
  let x ← valueAt values 0
  let y ← valueAt values 1
  .ok (.pick { x := x, y := y } (values[2]?.getD defaultRadius))

def windowOf (arguments : List String) (mode : ContainMode) : Except RequestError Request := do
  let values ← numericArguments "within" 4 4 arguments
  let x ← valueAt values 0
  let y ← valueAt values 1
  let width ← valueAt values 2
  let height ← valueAt values 3
  .ok (.within (Box.ofOriginSize { x := x, y := y } width height) mode)

def modeOf (raw : String) : Except RequestError ContainMode :=
  if raw.toLower = "any" then .ok .any
  else if raw.toLower = "all" then .ok .all
  else .error (.unknownMode raw)

def withinOf (arguments : List String) : Except RequestError Request :=
  match arguments with
  | [x, y, width, height] => windowOf [x, y, width, height] .default
  | [x, y, width, height, mode] => do
      let mode ← modeOf mode
      windowOf [x, y, width, height] mode
  | arguments => .error (.windowArguments arguments.length)

def layerOf (name : String) (visible : Bool) (arguments : List String) :
    Except RequestError Request :=
  match arguments with
  | [raw] =>
      match Decimal.readInt32 (Text.trim raw.toList) with
      | some layer => .ok (.setLayer layer visible)
      | none => .error (.notALayer raw)
  | _ => .error (.oneArgument name)

def ofArguments (defaultRadius : Float) (name : String) (arguments : List String) :
    Except RequestError Request :=
  if name = "pick" then pickOf defaultRadius arguments
  else if name = "within" then withinOf arguments
  else if name = "bounds" then .ok .bounds
  else if name = "hide_layer" then layerOf name false arguments
  else if name = "show_layer" then layerOf name true arguments
  else .error (.unknownName name)

end Request

/-!
## Carrying requests out

A request comes back with its reply and the scene afterwards.
-/

namespace Scene

def carryOut (s : Scene) : Request -> Except RequestError Reply × Scene
  | .pick p radius => (.ok (.hits (s.hits p radius)), s)
  | .within area mode => (.ok (.within ((s.within area mode).map Shape.id)), s)
  | .bounds => (.ok (.bounds s.visibleBounds?), s)
  | .setLayer layer visible =>
      match s.setLayerVisible layer visible with
      | .ok after => (.ok (.layerSet layer visible), after)
      | .error e => (.error (.scene e), s)

def answer (s : Scene) (defaultRadius : Float) (name : String) (arguments : List String) :
    Except RequestError Reply × Scene :=
  match Request.ofArguments defaultRadius name arguments with
  | .ok request => s.carryOut request
  | .error e => (.error e, s)

end Scene

end Drafting
