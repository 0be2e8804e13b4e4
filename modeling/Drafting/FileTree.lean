import Drafting.Binding
import Drafting.Text.Pieces

/-!
# Files in directories

A tree of directories and files as a program sees it from the directory it is
started in.  Nothing is known of what lies outside of that directory, except
that its parents are directories.

A path is walked name by name.  Every name, also an empty one and a dot, has to
be looked up in a directory, so a slash after the name of a file is a fault.
-/

namespace Drafting

inductive FileFailure where
  | notFound
  | notDirectory
  | isDirectory
  | notText
  | other (description : String)
deriving DecidableEq

namespace FileFailure

def message : FileFailure -> String
  | notFound => "No such file or directory (os error 2)"
  | notDirectory => "Not a directory (os error 20)"
  | isDirectory => "Is a directory (os error 21)"
  | notText => "stream did not contain valid UTF-8"
  | other description => description

end FileFailure

inductive FileTree where
  | file (content : ByteArray)
  | directory (entries : List (String × FileTree))

namespace FileTree

def blank : FileTree :=
  directory []

def find? : FileTree -> List String -> Option FileTree
  | tree, [] => some tree
  | directory entries, name :: rest =>
      match entries.lookup name with
      | none => none
      | some sub => find? sub rest
  | file _, _ :: _ => none

def put (content : ByteArray) : List String -> FileTree -> FileTree
  | [], _ => file content
  | name :: rest, directory entries =>
      directory
        (Binding.put name (put content rest ((entries.lookup name).getD blank)) entries)
  | name :: rest, file _ => directory [(name, put content rest blank)]

@[simp] theorem find?_nil (tree : FileTree) : tree.find? [] = some tree := by
  cases tree <;> rfl

/-- A file that was put under some names is found there. -/
theorem find?_put (content : ByteArray) (names : List String) (root : FileTree) :
    (put content names root).find? names = some (file content) := by
  induction names generalizing root with
  | nil => rw [find?_nil, put]
  | cons name rest ih =>
      cases root with
      | file old =>
          rw [put, find?, Binding.lookup_cons_of_eq _ [] rfl]
          exact ih blank
      | directory entries =>
          rw [put, find?, Binding.lookup_put, if_pos rfl]
          exact ih _

/-!
## Paths

A path with a slash in front starts outside of the directory, where all names but
the dots lead to nothing.  The names of a place inside are kept in reverse order.
They are walked one by one, and what is walked through has to be a directory.
-/

inductive Place where
  | inside (names : List String)
  | outside
deriving DecidableEq

def atPlace? (root : FileTree) : Place -> Option FileTree
  | .inside names => root.find? names.reverse
  | .outside => some blank

def Place.step (name : String) : Place -> Place
  | .inside names =>
      if name = "" ∨ name = "." then .inside names
      else if name = ".." then
        match names with
        | [] => .outside
        | _ :: parents => .inside parents
      else .inside (name :: names)
  | .outside => .outside

def isLost (place : Place) (name : String) : Bool :=
  decide (place = .outside) && ! decide (name = "" ∨ name = "." ∨ name = "..")

def walk (root : FileTree) : Place -> List String -> Except FileFailure Place
  | place, [] => .ok place
  | place, name :: rest =>
      match root.atPlace? place with
      | none => .error .notFound
      | some (file _) => .error .notDirectory
      | some (directory _) =>
          if isLost place name then .error .notFound
          else root.walk (place.step name) rest

def start (path : String) : Place × List String :=
  match (Text.pieces '/' path.toList).map String.ofList with
  | "" :: rest => (.outside, rest)
  | names => (.inside [], names)

def bytes (root : FileTree) (path : String) : Except FileFailure ByteArray :=
  if path = "" then .error .notFound
  else
    let (place, names) := start path
    match root.walk place names with
    | .error e => .error e
    | .ok place =>
        match root.atPlace? place with
        | none => .error .notFound
        | some (directory _) => .error .isDirectory
        | some (file content) => .ok content

end FileTree

def textOfBytes (bytes : ByteArray) : Except FileFailure String :=
  match String.fromUTF8? bytes with
  | some text => .ok text
  | none => .error .notText

theorem textOfBytes_toUTF8 (text : String) : textOfBytes text.toUTF8 = .ok text := by
  have h : String.fromUTF8? text.toUTF8 = some text := by
    unfold String.fromUTF8?
    split
    · simp [String.fromUTF8]
    · next invalid => exact absurd text.isValidUTF8 invalid
  rw [textOfBytes, h]

namespace FileTree

def text (root : FileTree) (path : String) : Except FileFailure String := do
  textOfBytes (← root.bytes path)

/-!
## Writing

A file is made when it is missing, and its directory is not.  A path that ends
in a slash names a directory.
-/

def splitLast : List String -> Option (List String × String)
  | [] => none
  | [name] => some ([], name)
  | name :: rest => (splitLast rest).map fun (before, last) => (name :: before, last)

def dropSlashes (names : List String) : List String :=
  (names.reverse.dropWhile fun name => name = "").reverse

def write (root : FileTree) (path : String) (content : ByteArray) :
    Except FileFailure FileTree :=
  if path = "" then .error .notFound
  else
    let (place, names) := start path
    match splitLast (dropSlashes names) with
    | none => .error .isDirectory
    | some (before, name) => do
        let parent ← root.walk place before
        let target ← root.walk parent [name]
        if (dropSlashes names).length < names.length then .error .isDirectory
        else
          match target with
          | .outside => .error .isDirectory
          | .inside names =>
              match root.find? names.reverse with
              | some (directory _) => .error .isDirectory
              | _ => .ok (put content names.reverse root)

/-!
## Trees from lists of files

Every directory that a path goes through is made, also one that the path leaves
again.
-/

def makeDirectory : List String -> FileTree -> FileTree
  | name :: rest, directory entries =>
      directory
        (Binding.put name (makeDirectory rest ((entries.lookup name).getD blank)) entries)
  | _, tree => tree

/--
Puts a file at the end of a path that starts in a place.  Every directory that
the path goes through is made, also one that it leaves again.
-/
def putAlong (content : ByteArray) : Place -> List String -> FileTree -> FileTree
  | _, [], root => root
  | place, name :: rest, root =>
      match place.step name, rest with
      | .inside names, [] => put content names.reverse root
      | .inside names, rest =>
          putAlong content (.inside names) rest (root.makeDirectory names.reverse)
      | .outside, rest => putAlong content .outside rest root

def ofFiles (files : List (String × ByteArray)) : FileTree :=
  files.foldl
    (fun root (path, content) =>
      let (place, names) := start path
      putAlong content place names root)
    blank

end FileTree

end Drafting
