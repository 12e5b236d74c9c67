import Datacube.Error

/-!
# Catalog files

Catalogs are read from files, which are named by paths. Two paths name the same place when they
agree after points and double points are resolved. A path leads through folders, which are there as
soon as a file lies in them, and only a file at its end can be read.
-/

namespace Datacube
open Text

/-- A file: its text, and when it was written, in seconds. -/
structure CatalogFile where
  text : String
  modified : Int

abbrev Files := Entries String CatalogFile

namespace Files

/-- The slashes that a path begins with, as far as they count: two of them are kept. -/
def origin (path : String) : String :=
  match path.toList.takeWhile (· = '/') with
  | [] => ""
  | ['/', '/'] => "//"
  | _ => "/"

/-- The names that a path passes through, without empty ones and single points. -/
def segments (path : String) : List String :=
  (splitAll '/' path).filter fun s => s ≠ "" && s ≠ "."

def label (path : String) : String :=
  match origin path ++ join "/" (segments path) with
  | "" => "."
  | s => s

/-- Goes to a name from a place; double points go back, as far as there is a way. -/
def enter (rooted : Bool) (names : List String) (name : String) : List String :=
  if name = ".." then
    if names.isEmpty && rooted then []
    else if names.all (· = "..") then names ++ [".."]
    else names.dropLast
  else names ++ [name]

def placeOf (rooted : Bool) (names : List String) : String :=
  (if rooted then "/" else "") ++ join "/" names

def isRooted (path : String) : Bool := startsWith "/" path

def place (path : String) : String :=
  placeOf (isRooted path) ((segments path).foldl (enter (isRooted path)) [])

/-- The place that a path names, from the root on. The folder where relative paths begin stands as a
character that no path holds. -/
def absolute (path : String) : String := if isRooted path then place path else "\x00/" ++ place path

def ofPaths (files : List (String × CatalogFile)) : Files :=
  .ofPairs (files.map fun (path, f) => (place path, f))

def at? (files : Files) (path : String) : Option CatalogFile := files.get? (place path)

/-- Why a path cannot be read. -/
inductive Obstacle where
  | missing
  | folder
  | noFolder
  | longName

def Obstacle.message : Obstacle → String
  | missing => "[Errno 2] No such file or directory: "
  | folder => "[Errno 21] Is a directory: "
  | noFolder => "[Errno 20] Not a directory: "
  | longName => "[Errno 36] File name too long: "

/-- Whether names lead to a folder: back from the start, or on the way to a file. -/
def isFolder (files : Files) (rooted : Bool) (names : List String) : Bool :=
  names.all (· = "..") || files.any fun f => startsWith (placeOf rooted names ++ "/") f.1

/-- The longest name, in bytes. -/
def longestName : Nat := 255

/-- The longest path, in bytes. -/
def longestPath : Nat := 4095

/-- What stands in the way from a place along the given names. -/
def obstacle? (files : Files) (rooted : Bool) (names : List String) : List String → Option Obstacle
  | [] =>
    if files.isFolder rooted names then some .folder
    else if files.has (placeOf rooted names) then none
    else some .missing
  | name :: rest =>
    if files.isFolder rooted names then
      -- A long name counts only where the way leads that far.
      if name.utf8ByteSize > longestName then some .longName
      else obstacle? files rooted (enter rooted names name) rest
    else if files.has (placeOf rooted names) then some .noFolder
    else some .missing

/-- Whether a text is a path: no path holds the null character. -/
def isPath (path : String) : Bool := !path.toList.contains '\x00'

def file (files : Files) (path : String) : Outcome CatalogFile :=
  let refusal (o : Obstacle) : Outcome CatalogFile :=
    refuse (.catalogUnreadable (label path) (o.message ++ quotedText (label path)))
  if !isPath path then fail .badValue
  else if (label path).utf8ByteSize > longestPath then refusal .longName
  else match files.obstacle? (isRooted path) [] (segments path), files.at? path with
    | none, some f => .ok f
    | some o, _ => refusal o
    | none, none => refusal .missing

end Files
end Datacube
