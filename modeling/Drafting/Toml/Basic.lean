/-!
# TOML values

Tables keep their entries in order and know how they came to be, because that
decides who may add to them: a table with a heading of its own is complete, a
table that only stands in the path of a heading may still get its own heading,
and a table that stands in the path of a dotted key may get further dotted keys.
-/

namespace Drafting

inductive TableOrigin where
  | heading
  | headingPath
  | dottedKey
deriving DecidableEq

inductive Toml where
  | text (s : String)
  | integer (n : Int)
  | real (v : Float)
  | truth (b : Bool)
  | moment
  | array (items : List Toml)
  | inline (entries : List (String × Toml))
  | table (origin : TableOrigin) (entries : List (String × Toml))
  | tables (rows : List (List (String × Toml)))

namespace Toml

abbrev Entries := List (String × Toml)

/-!
## Adding values to tables

A value is added under a dotted key, or to the table at the path of a heading.
In both cases tables on the way are made when they are missing, and a heading in
double brackets speaks of the last table of its list.
-/

def replace (name : String) (value : Toml) (entries : Entries) : Entries :=
  entries.map fun (key, old) => if key = name then (key, value) else (key, old)

def remove (name : String) (entries : Entries) : Entries :=
  entries.filter fun (key, _) => key ≠ name

def onLast (change : Entries -> Option Entries) : List Entries -> Option (List Entries)
  | [] => none
  | [last] => (change last).map fun last => [last]
  | row :: rest => (onLast change rest).map (row :: ·)

/--
Adds a value under a dotted key.  The tables on the way are made when missing;
a table with a heading of its own is closed to dotted keys, and the table that
gets the value must stem from dotted keys itself.
-/
def addPair (value : Toml) : List String -> Entries -> Option Entries
  | [], _ => none
  | [key], entries =>
      if (entries.lookup key).isSome then none else some (entries ++ [(key, value)])
  | key :: next :: rest, entries =>
      match entries.lookup key with
      | none =>
          (addPair value (next :: rest) []).map fun sub =>
            entries ++ [(key, .table .dottedKey sub)]
      | some (.table origin sub) =>
          if origin = .heading ∨ (rest = [] ∧ origin ≠ .dottedKey) then none
          else
            (addPair value (next :: rest) sub).map fun sub =>
              replace key (.table origin sub) entries
      | some (.tables rows) =>
          if rest = [] then none
          else
            (onLast (addPair value (next :: rest)) rows).map fun rows =>
              replace key (.tables rows) entries
      | some _ => none

def atPath (change : Entries -> Option Entries) : List String -> Entries -> Option Entries
  | [], entries => change entries
  | key :: rest, entries =>
      match entries.lookup key with
      | none =>
          (atPath change rest []).map fun sub => entries ++ [(key, .table .headingPath sub)]
      | some (.table origin sub) =>
          (atPath change rest sub).map fun sub => replace key (.table origin sub) entries
      | some (.tables rows) =>
          (onLast (atPath change rest) rows).map fun rows => replace key (.tables rows) entries
      | some _ => none

/-!
## Blocks

A block is a heading with the pairs below it.  The blocks of a text are added
one after another to the tables read so far.
-/

inductive Heading where
  | top
  | table (path : List String) (name : String)
  | row (path : List String) (name : String)
deriving DecidableEq

structure Block where
  heading : Heading
  pairs : List (List String × Toml)

def addPairs : List (List String × Toml) -> Entries -> Option Entries
  | [], entries => some entries
  | (key, value) :: rest, entries =>
      match addPair value key entries with
      | none => none
      | some entries => addPairs rest entries

def addBlock (root : Entries) (b : Block) : Option Entries :=
  match b.heading with
  | .top => addPairs b.pairs root
  | .table path name =>
      atPath
        (fun entries =>
          match entries.lookup name with
          | none =>
              (addPairs b.pairs []).map fun sub => entries ++ [(name, .table .heading sub)]
          | some (.table .headingPath sub) =>
              (addPairs b.pairs sub).map fun sub =>
                remove name entries ++ [(name, .table .heading sub)]
          | some _ => none)
        path root
  | .row path name =>
      atPath
        (fun entries =>
          match entries.lookup name with
          | none => (addPairs b.pairs []).map fun sub => entries ++ [(name, .tables [sub])]
          | some (.tables rows) =>
              (addPairs b.pairs []).map fun sub => replace name (.tables (rows ++ [sub])) entries
          | some _ => none)
        path root

def ofBlocks : List Block -> Entries -> Option Entries
  | [], root => some root
  | b :: rest, root =>
      match addBlock root b with
      | none => none
      | some root => ofBlocks rest root

end Toml

end Drafting
