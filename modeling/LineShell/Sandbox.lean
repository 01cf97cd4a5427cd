import LineShell.Lookup
import LineShell.Pattern.Reader
import LineShell.Sandbox.Tree
import LineShell.Script.Run
import LineShell.System

/-!
A system of its own: a file tree in memory, and programs that are shell scripts in that tree.
-/

namespace LineShell

/-- A shell that is built with a check for sums that are too large, and with the patterns of this
project for its library. -/
def Build.checked : Build where
  overflow := .stops
  compile ignoreCase pattern := (Pattern.compile ignoreCase pattern).map (·.isMatch)
  report message := Text.Utf8.encode ("thread 'main' panicked:\n" ++ message ++ "\n")

open Sandbox

/-- The state of a system in memory. -/
structure Sandbox where
  tree : Tree
  /-- The working directory. -/
  here : Place
  searchPath : String
  deriving DecidableEq, Repr

namespace Sandbox

/-- The absolute path of a place. -/
def placePath (place : Place) : String := String.join (place.map ("/" ++ ·))

/-- Places where programs are expected to be. -/
def systemTree : Tree :=
  let programs : List (Place × Entry) :=
    [(["bin", "sh"], .program .shell), (["bin", "rmdir"], .program .rmdir),
     (["usr", "bin", "sh"], .program .shell), (["usr", "bin", "rmdir"], .program .rmdir),
     (["usr", "local", "bin"], .directory), (["tmp"], .directory),
     (["dev", "null"], .file [] false)]
  programs.foldl (fun t e => t.insert e.1 e.2) ⟨[]⟩

/-- A system whose working directory is `here` and has the given entries, by their paths in it. -/
def ofEntries (here : Place) (searchPath : String) (entries : List (String × Entry)) : Sandbox :=
  let place (path : String) : Place := here ++ Lookup.components path
  { tree := entries.foldl (fun t e => t.insert (place e.1) e.2)
      (systemTree.insert here .directory)
    here
    searchPath }

/-- A script as it stands in a file: a line that names the program to run it, and its text. -/
def scriptFile (text : String) : Entry :=
  .file (Text.Utf8.encode ("#!/bin/sh\n" ++ text ++ "\n")) true

def find? (s : Sandbox) (path : String) : Option Entry := s.tree.find? s.here path

def isFile (s : Sandbox) (path : String) : Bool :=
  match s.find? path with
  | some (.file ..) | some (.program _) => true
  | _ => false

def isDirectory (s : Sandbox) (path : String) : Bool := s.find? path = some .directory

/-- Whether the file at a path may be run. -/
def isExecutable (s : Sandbox) (path : String) : Bool :=
  match s.find? path with
  | some (.file _ isExecutable) => isExecutable
  | some (.program _) => true
  | _ => false

/-- Removes an empty directory. -/
def rmdir (s : Sandbox) (path : String) : Option Sandbox := do
  let place ← s.tree.resolve s.here path
  if s.tree.isEmptyDirectory place then some { s with tree := s.tree.remove place } else none

/-- A path by which a program is run: a name without a slash is searched for. -/
def programPath (s : Sandbox) (name : String) : Option String :=
  if name.toList.contains '/' then some name
  else (Lookup.search s.isExecutable s.searchPath name)

/-- The variables that a script starts with. -/
def environment (s : Sandbox) : List (String × String) :=
  [("PATH", s.searchPath), ("PWD", placePath s.here)]

/-- The program and first argument that the first line of a script names. -/
def interpreter? (content : List UInt8) : Option String :=
  match (Text.Utf8.decodeLossy content).toList with
  | '#' :: '!' :: cs =>
    some (String.ofList ((cs.takeWhile (· != '\n')).dropWhile (· == ' ')))
  | _ => none

/-- A program that writes nothing. -/
def silent (status : Nat) (s : Sandbox) : Finished × Sandbox :=
  ({ output := [], errors := [], status := .exited status }, s)

/-- Runs programs. The number bounds how deep programs run each other. -/
def runProgram : Nat → Sandbox → String → List String → List UInt8 → Option (Finished × Sandbox)
  | 0, _, _, _, _ => none
  | n + 1, s, name, args, input => do
    let path ← s.programPath name
    let host : Script.Host Sandbox :=
      { spawn := runProgram n
        pathExists := fun s path => (s.find? path).isSome
        isFile := isFile
        isDirectory := isDirectory }
    let runScript (text name : String) (args : List String) : Finished × Sandbox :=
      let p := Script.run host text
        { world := s, vars := s.environment, name, args, input }
      ({ output := p.output, errors := p.errors, status := .exited p.status }, p.world)
    if args.any (·.toList.contains '\x00') then none
    else
      match ← s.find? path with
      | .directory => none
      | .program .rmdir =>
        match args with
        | [dir] =>
          match s.rmdir dir with
          | some s => some (silent 0 s)
          | none => some (silent 1 s)
        | _ => some (silent 1 s)
      | .program .shell =>
        match args with
        | "-c" :: text :: name :: args => some (runScript text name args)
        | ["-c", text] => some (runScript text name [])
        | file :: args =>
          match s.find? file with
          | some (.file content _) =>
            some (runScript (Text.Utf8.decodeLossy content) file args)
          | _ => some (silent 2 s)
        | [] => some (runScript (Text.Utf8.decodeLossy input) name [])
      | .file content isExecutable =>
        if isExecutable then
          runProgram n s (← interpreter? content) (path :: args) input
        else none

/-- How deep programs may run each other. -/
def maxPrograms : Nat := 1000

instance : System Sandbox where
  build := .checked
  workingDirectory := fun s => if s.tree.isDirectory s.here then some (placePath s.here) else none
  searchPath := (·.searchPath)
  pathExists := fun s path => (s.find? path).isSome
  isFile := isFile
  readFile := fun s path =>
    match s.find? path with
    | some (.file content _) => some content
    | _ => none
  execute := fun s path args input =>
    match runProgram maxPrograms s path args input with
    | some (finished, s) => .ended finished s
    | none => .notStarted

end Sandbox

end LineShell
