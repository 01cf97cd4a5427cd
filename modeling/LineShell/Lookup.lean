import LineShell.Text.Split

/-!
Looking up programs by name. A name with several components is the path of a program, and so is an
absolute one and one that starts at the working directory. Any other name is searched for in the
directories of a search path.
-/

namespace LineShell.Lookup

/-- The parts of a path between slashes, empty ones and those that mean the same directory left
out. -/
def components (path : String) : List String :=
  (Text.splitAt '/' path).filter fun part => part ≠ "" && part ≠ "."

/-- The path starts at the root. -/
def isAbsolute (path : String) : Bool := path.toList.head? = some '/'

/-- The path says that it starts at the working directory. -/
def startsHere (path : String) : Bool := (Text.splitAt '/' path).head? = some "."

/-- The path of `name` in the directory `dir`. -/
def join (dir name : String) : String :=
  if dir = "" then name
  else if dir.toList.getLast? = some '/' then dir ++ name
  else dir ++ "/" ++ name

/-- The first regular file called `name` in the directories of a search path. An empty directory is
the working directory. -/
def search (isFile : String → Bool) (searchPath name : String) : Option String :=
  ((Text.splitAt ':' searchPath).map (join · name)).find? isFile

/-- The path of the program that `name` calls. -/
def find (pathExists isFile : String → Bool) (searchPath name : String) : Option String :=
  let asWritten := if pathExists name then some name else none
  if isAbsolute name || startsHere name then asWritten
  else
    match components name with
    | [] => none
    | [single] => search isFile searchPath single
    | _ => asWritten

end LineShell.Lookup
