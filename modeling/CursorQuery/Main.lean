import CursorQuery.CommandLine.Run
import CursorQuery.Document.Json
import CursorQuery.Pattern.Standard
import CursorQuery.Source.TreeDocument

/-!
This module contains the command line program. It reads the files that its arguments name, runs the
command on them, and prints what comes of it.

The parsers of sources and of query files are other programs. The parse tree of a source is read from
the file beside it with `.cst` added to its name, and the document of a query file from the one with
`.doc` added, both in JSON notation.
-/

namespace CursorQuery
namespace Main

def storedDocument? (path : String) : IO (Option Document) := do
  if ← (System.mkFilePath [path]).pathExists then
    return Document.ofJson? (← IO.FS.readFile path)
  else return none

def readEntry (path : String) : IO Entry := do
  let bytes ← IO.FS.readBinFile path
  let tree? ← storedDocument? (path ++ ".cst")
  let document? ← storedDocument? (path ++ ".doc")
  return .file {
    text? := String.fromUTF8? bytes
    tree := (tree?.bind ParseTree.ofDocument?).getD .empty
    document?
  }

partial def addPath (fs : FileSystem) (path : String) : IO FileSystem := do
  let place := System.mkFilePath [path]
  if ← place.isDir then
    let mut fs := fs.insert path (.directory [])
    for entry in ← place.readDir do
      fs ← addPath fs (Path.join path entry.fileName)
    return fs
  else if ← place.pathExists then return fs.insert path (← readEntry path)
  else return fs

def candidates (argument : String) : List String :=
  let chars := argument.toList
  [argument, String.ofList ((chars.dropWhile (· != '=')).drop 1), String.ofList (chars.drop 2)]

def execute (arguments : List String) : IO UInt32 := do
  let directory ← IO.currentDir
  let start : FileSystem :=
    { root := .directory [], workingDirectory := Path.steps directory.toString }
  let paths := (arguments.flatMap candidates).filter (!·.isEmpty)
  let fs ← paths.foldlM addPath (start.insert "." (.directory []))
  let outcome := CommandLine.run fs arguments
  IO.print outcome.stdout
  for event in outcome.log do
    IO.eprintln event.display
  IO.eprint outcome.stderr
  return UInt32.ofNat outcome.code

end Main
end CursorQuery

def main (arguments : List String) : IO UInt32 :=
  CursorQuery.Main.execute arguments
