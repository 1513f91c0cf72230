import CursorQuery.Text.Split

/-!
This module contains the parts of a file path. Steps are separated by `/`; empty steps and `.` do not
count.
-/

namespace CursorQuery
namespace Path

def steps (path : String) : List String :=
  ((Text.splitWhere (· == '/') path.toList).map String.ofList).filter
    fun step => step != "" && step != "."

def fileName? (path : String) : Option String :=
  match (steps path).getLast? with
  | some ".." => none
  | name? => name?

/--
What follows the last `.` of the file name. A `.` at its beginning does not start an extension.
-/
def extension? (path : String) : Option String :=
  match fileName? path with
  | none => none
  | some name =>
    let chars := name.toList.reverse
    match chars.dropWhile (· != '.') with
    | [] => none
    | [_] => none
    | _ => some (String.ofList (chars.takeWhile (· != '.')).reverse)

def join (dir name : String) : String :=
  if dir.isEmpty || dir.toList.getLast? == some '/' then dir ++ name else dir ++ "/" ++ name

end Path
end CursorQuery
