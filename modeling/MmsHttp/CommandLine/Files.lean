import MmsHttp.Fault
import MmsHttp.Text.Bytes
import MmsHttp.Text.Split

/-!
The files that a program can see. A place is a list of names that leads from the working
directory down; those outside begin with the root or with the way up. What is not known
counts as missing.
-/

namespace MmsHttp.CommandLine

open Text

/-- Where a file or directory is, without detours. -/
abbrev Place := List String

namespace Place

def root : Place := ["/"]

def up : String := ".."

/-- Where a part of a path leads from a directory. -/
def step (here : Place) (part : String) : Place :=
  if part != up then here ++ [part]
  else if here == root then root
  else if here.getLast?.all (· == up) then here ++ [up]
  else here.dropLast

/-- Whether a place is a directory whatever files there are. -/
def isGiven (place : Place) : Bool :=
  place == root || place.all (· == up)

end Place

/-- A path: what stands for the root, if it starts there, and its parts. -/
structure Path where
  root : String
  parts : List String
  deriving DecidableEq, Repr

namespace Path

/-- Reads a path. Empty parts and dots do not count. -/
def ofText (text : String) : Path :=
  let cs := text.toList
  let slashes := (cs.takeWhile (· == '/')).length
  { root := if slashes == 0 then "" else if slashes == 2 then "//" else "/"
    parts := ((splitBy (· == '/') cs).filter fun part => !part.isEmpty && part != ['.']).map
      String.ofList }

def text (path : Path) : String :=
  if path.root == "" && path.parts.isEmpty then "."
  else path.root ++ String.intercalate "/" path.parts

def start (path : Path) : Place :=
  if path.root == "" then [] else .root

/-- The shortest path to a place. -/
def ofPlace (place : Place) : Path :=
  if place.head? == some "/" then ⟨"/", place.tail⟩ else ⟨"", place⟩

/-- The places that a path passes, the last one being that to which it leads. -/
def places (path : Path) : List Place :=
  (path.parts.foldl (fun (here, passed) part => (here.step part, passed ++ [here.step part]))
    (path.start, [])).2

end Path

inductive Entry where
  | file (bytes : Bytes)
  | directory
  deriving DecidableEq, Repr

/-- What is known to be at places. A directory is there also if something in it is. -/
abbrev Files := List (Place × Entry)

namespace Files

def entry? (files : Files) (place : Place) : Option Entry :=
  if place.isGiven then some .directory
  else
    match files.find? (·.1 == place) with
    | some (_, entry) => some entry
    | none => if files.any fun file => place.isPrefixOf file.1 then some .directory else none

inductive Obstacle where
  | missing
  | notDirectory
  | isDirectory
  | nameTooLong
  | zeroByte

def Obstacle.fault (path : Path) : Obstacle → Fault
  | missing => made "FileNotFoundError" "[Errno 2] No such file or directory"
  | notDirectory => made "NotADirectoryError" "[Errno 20] Not a directory"
  | isDirectory => made "IsADirectoryError" "[Errno 21] Is a directory"
  | nameTooLong => made "OSError" "[Errno 36] File name too long"
  | zeroByte => .badValue "embedded null byte"
where
  made (name text : String) : Fault :=
    ⟨.outside name, text ++ ": " ++ quoted path.text⟩

def maxPartLength : Nat := 255

/-- The place that parts lead to from a directory, every part but the last through a
directory. -/
def follow (files : Files) : (here : Place) → List String → Except Obstacle Place
  | here, [] => .ok here
  | here, part :: rest =>
    if maxPartLength < (utf8 part.toList).length then .error .nameTooLong
    else
      let there := here.step part
      if rest.isEmpty then .ok there
      else
        match files.entry? there with
        | some .directory => follow files there rest
        | some (.file _) => .error .notDirectory
        | none => .error .missing

def place (files : Files) (path : Path) : Except Obstacle Place :=
  if path.parts.any (·.toList.any (·.toNat == 0)) then .error .zeroByte
  else follow files path.start path.parts

def read (files : Files) (path : Path) : Except Fault Bytes :=
  let outcome : Except Obstacle Bytes := do
    match files.entry? (← files.place path) with
    | some (.file bytes) => pure bytes
    | some .directory => throw .isDirectory
    | none => throw .missing
  outcome.mapError (Obstacle.fault path)

def write (files : Files) (path : Path) (bytes : Bytes) : Except Fault Files :=
  let outcome : Except Obstacle Files := do
    let place ← files.place path
    match files.entry? place with
    | some (.file _) =>
      pure (files.map fun file => if file.1 == place then (place, .file bytes) else file)
    | some .directory => throw .isDirectory
    | none => pure (files ++ [(place, .file bytes)])
  outcome.mapError (Obstacle.fault path)

end Files

end MmsHttp.CommandLine
