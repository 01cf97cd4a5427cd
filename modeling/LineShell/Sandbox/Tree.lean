import LineShell.Text.Split

/-!
File trees. A place in a tree is the list of names that lead to it from the root.
-/

namespace LineShell.Sandbox

/-- Programs that are not written as scripts. -/
inductive Program where
  /-- Runs scripts. -/
  | shell
  /-- Removes empty directories. -/
  | rmdir
  deriving DecidableEq, Repr

/-- What stands at a place. -/
inductive Entry where
  | directory
  | file (content : List UInt8) (isExecutable : Bool)
  | program (program : Program)
  deriving DecidableEq, Repr

/-- A place in a tree. -/
abbrev Place := List String

/-- The places of a tree other than its root, which is always a directory. -/
structure Tree where
  entries : List (Place × Entry)
  deriving DecidableEq, Repr

namespace Tree

/-- What stands at a place. -/
def get? (t : Tree) (place : Place) : Option Entry :=
  if place = [] then some .directory else t.entries.lookup place

def isDirectory (t : Tree) (place : Place) : Bool := t.get? place = some .directory

/-- Puts an entry at a place. -/
def put (t : Tree) (place : Place) (entry : Entry) : Tree :=
  ⟨(place, entry) :: t.entries.filter (·.1 ≠ place)⟩

/-- Makes a place a directory unless something stands there. -/
def ensureDirectory (t : Tree) (place : Place) : Tree :=
  if (t.get? place).isSome then t else t.put place .directory

/-- Puts an entry at a place and directories on the way to it. -/
def insert (t : Tree) (place : Place) (entry : Entry) : Tree :=
  let parents := (List.range place.length).map place.take
  (parents.foldl ensureDirectory t).put place entry

/-- Takes away what stands at a place. -/
def remove (t : Tree) (place : Place) : Tree := ⟨t.entries.filter (·.1 ≠ place)⟩

/-- Whether a directory has no entries. -/
def isEmptyDirectory (t : Tree) (place : Place) : Bool :=
  t.isDirectory place && t.entries.all fun (p, _) => p.dropLast ≠ place || p = []

/-- Goes on from a place by the parts of a path. Every place on the way has to be a directory,
except that the last part may be anything. -/
def walk (t : Tree) (place : Place) : List String → Option Place
  | [] => some place
  | part :: rest =>
    if t.isDirectory place then
      if part = "" || part = "." then t.walk place rest
      else if part = ".." then t.walk place.dropLast rest
      else if (t.get? (place ++ [part])).isSome then t.walk (place ++ [part]) rest
      else none
    else none

/-- The place that a path leads to from the directory `here`. Neither the empty path nor one with a
null character leads anywhere. -/
def resolve (t : Tree) (here : Place) (path : String) : Option Place :=
  if path = "" || path.toList.contains '\x00' then none
  else
    match Text.splitAt '/' path with
    | "" :: parts => t.walk [] ("" :: parts)
    | parts => t.walk here parts

/-- What a path leads to. -/
def find? (t : Tree) (here : Place) (path : String) : Option Entry :=
  (t.resolve here path).bind t.get?

end Tree

end LineShell.Sandbox
