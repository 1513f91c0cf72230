import CursorQuery.Document.Basic
import CursorQuery.Unit.Frontend

/-!
This module contains the files that a command can see: a tree of directories and the place of the
working directory in it. The entries of a directory are in the order of their names.
-/

namespace CursorQuery

structure StoredFile where
  text? : Option String
  tree : ParseTree
  document? : Option Document

inductive Entry where
  | file (contents : StoredFile)
  | directory (entries : List (String × Entry))

namespace Entry

def put (name : String) (entry : Entry) : List (String × Entry) → List (String × Entry)
  | [] => [(name, entry)]
  | (other, existing) :: rest =>
    if name == other then (name, entry) :: rest
    else if name < other then (name, entry) :: (other, existing) :: rest
    else (other, existing) :: put name entry rest

def insert (entry : Entry) : List String → Entry → Entry
  | [], existing =>
    match entry, existing with
    | directory [], directory entries => directory entries
    | _, _ => entry
  | _ :: _, file contents => file contents
  | step :: steps, directory entries =>
    let below := (entries.lookup step).getD (directory [])
    directory (put step (insert entry steps below) entries)

/--
Follows steps from an entry, `around` holding the directories around it, innermost first. The
outermost directory lies in itself.
-/
def locate (around : List Entry) (entry : Entry) : List String → Except ReadError Entry
  | [] => .ok entry
  | step :: steps =>
    match entry with
    | file _ => .error .notDirectory
    | directory entries =>
      if step == ".." then
        match around with
        | [] => locate [] entry steps
        | outer :: around => locate around outer steps
      else
        match entries.lookup step with
        | some inner => locate (entry :: around) inner steps
        | none => .error .notFound

def sourceExtensions : List String :=
  ["c", "cc", "cpp", "cxx", "h", "hh", "hpp", "hxx"]

def isSource (path : String) : Bool :=
  (Path.extension? path).any fun extension => sourceExtensions.contains (Text.lowerAscii extension)

mutual

def sources (path : String) : Entry → List String
  | file _ => if isSource path then [path] else []
  | directory entries => sourcesOfList path entries

def sourcesOfList (path : String) : List (String × Entry) → List String
  | [] => []
  | (name, entry) :: rest => sources (Path.join path name) entry ++ sourcesOfList path rest

end

end Entry

structure FileSystem where
  root : Entry
  workingDirectory : List String

namespace FileSystem

def mustBeDirectory (path : String) : Bool :=
  match (Text.splitWhere (· == '/') path.toList).getLast? with
  | some [] => true
  | some ['.'] => true
  | _ => false

def stepsTo (fs : FileSystem) (path : String) : List String :=
  if path.toList.head? == some '/' then Path.steps path
  else fs.workingDirectory ++ Path.steps path

def find (fs : FileSystem) (path : String) : Except ReadError Entry :=
  if path.isEmpty then .error .notFound
  else
    match fs.root.locate [] (fs.stepsTo path) with
    | .ok (.file contents) =>
      if mustBeDirectory path then .error .notDirectory else .ok (.file contents)
    | result => result

def insert (fs : FileSystem) (path : String) (entry : Entry) : FileSystem :=
  { fs with root := entry.insert (fs.stepsTo path) fs.root }

def read (fs : FileSystem) (path : String) : Except ReadError (String × StoredFile) :=
  match fs.find path with
  | .error reason => .error reason
  | .ok (.directory _) => .error .isDirectory
  | .ok (.file contents) =>
    match contents.text? with
    | some text => .ok (text, contents)
    | none => .error .notText

/--
The source files that paths name: a file names itself, whatever its extension, and a directory names
the source files below it. The error is a path that names nothing.
-/
def collect (fs : FileSystem) : List String → Except String (List String)
  | [] => .ok []
  | path :: paths =>
    match fs.find path with
    | .error _ => .error path
    | .ok entry =>
      let found :=
        match entry with
        | .file _ => [path]
        | .directory entries => Entry.sourcesOfList path entries
      (fs.collect paths).map (found ++ ·)

end FileSystem
end CursorQuery
