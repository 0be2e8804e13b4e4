import Drafting.Scene.Request
import Drafting.Summary

/-!
# The command line

The arguments name one drawing and say what to show of it.  They are understood
from left to right, and the first one that makes no sense ends the run; a request
for help ends it as well.

Settings are optional: when they cannot be read the standard ones are taken.
Then the drawing is loaded and shown, and at last the points and areas that were
asked for are looked up in it.
-/

namespace Drafting

/-!
## What a run is asked, and what it leaves behind

The arguments ask either for help or for the drawing of a file.  What a run
leaves behind is everything that has been shown, with all line ends, or else why
the run has failed.
-/

structure Options where
  input : Option String
  settingsPath : Option String
  output : Option OutputForm
  pick : Option Point
  within : Option Box
deriving DecidableEq

inductive CoordinateOption where
  | pick
  | within
deriving DecidableEq

namespace CoordinateOption

def flag : CoordinateOption -> String
  | pick => "--pick"
  | within => "--within"

def count : CoordinateOption -> Nat
  | pick => 2
  | within => 4

end CoordinateOption

inductive UsageError where
  | noSettingsPath
  | noCoordinates (option : CoordinateOption)
  | badCoordinates (option : CoordinateOption) (raw : String)
  | unknownOption (raw : String)
  | secondInput
  | noInput
deriving DecidableEq

inductive Invocation where
  | help
  | show (input : String) (options : Options)
deriving DecidableEq

structure Outcome where
  exitCode : Nat
  shown : String
  complaint : String
deriving DecidableEq

namespace UsageError

def usage : String :=
  "用法: vdraw [--config <path>] [--json | --summary] [--pick x,y] " ++
    "[--within x,y,w,h] <input>"

def wanted (option : CoordinateOption) : String :=
  let mark := String.singleton (Char.ofNat 0x60)
  mark ++ option.flag ++ mark ++ " 需要 " ++ Decimal.counted option.count ++
    " 个以逗号分隔的数值"

def message : UsageError -> String
  | noSettingsPath =>
      let mark := String.singleton (Char.ofNat 0x60)
      mark ++ "--config" ++ mark ++ " 需要提供配置文件路径"
  | noCoordinates option => wanted option
  | badCoordinates option raw => wanted option ++ "，实际为 " ++ raw
  | unknownOption raw => "未知参数：" ++ raw
  | secondInput => "只能指定一个输入文件"
  | noInput => usage

end UsageError

/-!
## Arguments

Coordinates are numbers with commas between them and blanks around them.  An
option that takes a value takes the argument after it; any other argument is an
option on its own, or it is the drawing.
-/

namespace Options

def none : Options :=
  { input := .none, settingsPath := .none, output := .none, pick := .none, within := .none }

def coordinates? (raw : String) : Option (List Float) :=
  (Text.pieces ',' raw.toList).mapM fun piece => Decimal.readFloat (Text.trim piece)

def withCoordinates (o : Options) (option : CoordinateOption) (raw : String) :
    Except UsageError Options :=
  match option, coordinates? raw with
  | .pick, some [x, y] => .ok { o with pick := some { x := x, y := y } }
  | .within, some [x, y, width, height] =>
      .ok { o with within := some (Box.ofOriginSize { x := x, y := y } width height) }
  | option, _ => .error (.badCoordinates option raw)

def withArgument (o : Options) (raw : String) : Except UsageError Options :=
  if raw = "--json" then .ok { o with output := some .json }
  else if raw = "--summary" then .ok { o with output := some .summary }
  else if raw.startsWith "--" then .error (.unknownOption raw)
  else if o.input.isSome then .error .secondInput
  else .ok { o with input := some raw }

def finish (o : Options) : Except UsageError Invocation :=
  match o.input with
  | some input => .ok (.show input o)
  | .none => .error .noInput

def ofArguments (o : Options) : List String -> Except UsageError Invocation
  | [] => o.finish
  | ["--config"] => .error .noSettingsPath
  | ["--pick"] => .error (.noCoordinates .pick)
  | ["--within"] => .error (.noCoordinates .within)
  | "--config" :: path :: rest => ofArguments { o with settingsPath := some path } rest
  | "--pick" :: raw :: rest => do ofArguments (← o.withCoordinates .pick raw) rest
  | "--within" :: raw :: rest => do ofArguments (← o.withCoordinates .within raw) rest
  | "-h" :: _ => .ok .help
  | "--help" :: _ => .ok .help
  | raw :: rest => do ofArguments (← o.withArgument raw) rest

def requests (o : Options) (settings : Settings) : List Request :=
  (o.pick.map fun p => Request.pick p settings.pickRadius).toList ++
    (o.within.map fun area => Request.within area .default).toList

end Options

/-!
## Answers

The requests of a run come after what is shown of the drawing, each with a line
of its own.  None of them changes the scene.
-/

namespace Outcome

def success (shown : String) : Outcome :=
  { exitCode := 0, shown := shown, complaint := "" }

def failure (complaint : String) : Outcome :=
  { exitCode := 1, shown := "", complaint := complaint }

end Outcome

namespace Loaded

def shown (l : Loaded) : OutputForm -> String
  | .summary => l.summary
  | .json => l.scene.document.text .spread

end Loaded

namespace Scene

def answerLine (s : Scene) (request : Request) : String :=
  match (s.carryOut request).1 with
  | .ok reply => "[命令] " ++ reply.message ++ "\n"
  | .error e => "[命令] " ++ e.message ++ "\n"

end Scene

namespace Options

def respond (o : Options) (settings : Settings) (input : String) (content : Content) : Outcome :=
  match Loaded.ofContent settings input content with
  | .error e => .failure e.message
  | .ok loaded =>
      .success (loaded.shown (o.output.getD settings.output) ++ "\n" ++
        String.join ((o.requests settings).map loaded.scene.answerLine))

end Options

/-!
## Runs

Files are read by a function that is given to the run, so the same definitions
serve for real files and for a tree of files.

Settings that cannot be read are replaced by the standard ones.
-/

namespace CommandLine

/--
Reads the settings of a run.  A file named in the arguments goes before one that
is named by the environment, and both go before the usual place.
-/
def settings {m : Type -> Type} [Monad m] (read : String -> m Content) (o : Options)
    (environment : Option String) : m (Except SettingsError Settings) := do
  match o.settingsPath.or environment with
  | some path => return Settings.ofContent path (← read path)
  | none => return Settings.discover (← read Settings.usualPath)

def settingsOrStandard : Except SettingsError Settings -> Settings
  | .ok settings => settings
  | .error _ => .standard

def run {m : Type -> Type} [Monad m] (read : String -> m Content)
    (environment : Option String) (arguments : List String) : m Outcome := do
  match Options.none.ofArguments arguments with
  | .error e => return .failure e.message
  | .ok .help => return .success (UsageError.usage ++ "\n")
  | .ok (.show input options) => do
      let found ← settings read options environment
      let content ← read input
      return options.respond (settingsOrStandard found) input content

def runIn (files : FileTree) (environment : Option String) (arguments : List String) : Outcome :=
  Id.run (run (fun path => pure (files.text path)) environment arguments)

end CommandLine

end Drafting
