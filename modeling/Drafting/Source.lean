import Drafting.Document.Read
import Drafting.Document.Written
import Drafting.FileTree
import Drafting.Report
import Drafting.Scene
import Drafting.Settings

/-!
# Loading drawings and settings

A drawing comes from a file that holds either its rows or a saved document; the
extension of the file tells which.  Only rows can fail one by one, so a loaded
document has no row errors.

What a file holds, or why it cannot be read, is given to the functions of this
module, which do not reach out to any file themselves.
-/

namespace Drafting

inductive SourceKind where
  | rows
  | document
deriving DecidableEq

namespace SourceKind

def lastName? (path : String) : Option (List Char) :=
  let names := (Text.pieces '/' path.toList).filter fun name => name ≠ [] ∧ name ≠ ['.']
  match names.getLast? with
  | some ['.', '.'] => none
  | found => found

/-- The text after the last dot of a name; a dot in front of the name does not count. -/
def extension? (name : List Char) : Option (List Char) :=
  match name with
  | [] => none
  | _ :: rest => if '.' ∈ rest then (Text.pieces '.' rest).getLast? else none

def ofPath (path : String) : SourceKind :=
  match (lastName? path).bind extension? with
  | some extension =>
      if extension.map Char.toLower = ['j', 's', 'o', 'n'] then .document else .rows
  | none => .rows

end SourceKind

inductive FileError where
  | unreadable (path : String) (cause : FileFailure)
  | unwritable (path : String) (cause : FileFailure)
  | rowsNotWritable (path : String)
  | faulty (path : String) (cause : Fault)
deriving DecidableEq

namespace FileError

def message : FileError -> String
  | unreadable path cause =>
      "failed to read file " ++ Text.quoted path ++ ": " ++ cause.message
  | unwritable path cause =>
      "failed to write file " ++ Text.quoted path ++ ": " ++ cause.message
  | rowsNotWritable path =>
      "unsupported feature: writing drawing DSL to " ++ Text.quoted path ++ " is not supported"
  | faulty path cause =>
      "invalid JSON document " ++ Text.quoted path ++ ": " ++ cause.message

end FileError

abbrev Content := Except FileFailure String

namespace Report

def ofContent (path : String) (content : Content) : Except FileError Report :=
  match content with
  | .error e => .error (.unreadable path e)
  | .ok text => .ok (ofSource text)

end Report

namespace Document

def ofContent (path : String) (content : Content) : Except FileError Document :=
  match content with
  | .error e => .error (.unreadable path e)
  | .ok text => (ofText text).mapError (.faulty path)

end Document

/-!
## Loaded drawings

What has been loaded is remembered with where it comes from.  Files with the
extension `json`, in letters of either case, hold documents, and all others
rows.
-/

structure Loaded where
  kind : SourceKind
  path : String
  scene : Scene
  rowErrors : List RowError
deriving DecidableEq

namespace Loaded

/-- A loaded drawing of which the layers of the settings are hidden. -/
def withSettings (settings : Settings) (kind : SourceKind) (path : String)
    (document : Document) (rowErrors : List RowError) : Loaded :=
  { kind := kind, path := path
    scene := (Scene.ofDocument document).hideAll settings.hiddenLayers
    rowErrors := rowErrors }

def ofContent (settings : Settings) (path : String) (content : Content) :
    Except FileError Loaded :=
  match SourceKind.ofPath path with
  | .document => do
      let document ← Document.ofContent path content
      .ok (withSettings settings .document path document [])
  | .rows => do
      let report ← Report.ofContent path content
      .ok (withSettings settings .rows path report.document report.errors)

end Loaded

namespace FileTree

def save (files : FileTree) (path : String) (form : Json.Form) (document : Document) :
    Except FileError FileTree :=
  (files.write path (document.text form).toUTF8).mapError (.unwritable path)

end FileTree

/-!
## Settings in files

Settings are looked for at a usual place when no file is named.  If nothing is
there, the standard ones count.
-/

inductive SettingsError where
  | unreadable (path : String) (cause : FileFailure)
  | faulty (path : String) (cause : Fault)
deriving DecidableEq

namespace SettingsError

def message : SettingsError -> String
  | unreadable path cause =>
      "读取配置文件 " ++ Text.quoted path ++ " 失败: " ++ cause.message
  | faulty path cause =>
      "解析配置文件 " ++ Text.quoted path ++ " 失败: " ++ cause.message

end SettingsError

namespace Settings

def ofContent (path : String) (content : Content) : Except SettingsError Settings :=
  match content with
  | .error e => .error (.unreadable path e)
  | .ok text => (ofText text).mapError (.faulty path)

def usualPath : String :=
  "config/default.toml"

def discover (content : Content) : Except SettingsError Settings :=
  match content with
  | .error .notFound => .ok standard
  | .error .notDirectory => .ok standard
  | content => ofContent usualPath content

end Settings

end Drafting
