/-! # Paths

Paths are text with components separated by `/`. Empty components and `.` after
the first do not count when naming a file. A path names a file when its last
component is neither `.` nor `..`; the file's extension is the text after its
last dot, provided something comes before that dot (so `.grz` has none and `a.`
has the empty extension).
-/

namespace GrammarLoader.Path

/-- The components between slashes, empty ones included. -/
def split (p : String) : List String :=
  p.splitOn "/"

/-- The last component that names something, if it is a file name. -/
def fileName? (p : String) : Option String :=
  match (split p).filter (fun c => c != "" && c != ".") |>.getLast? with
  | some ".." => none
  | other => other

/-- The extension of a file name: the text after the last dot, when that dot has text before it. -/
def extensionOfName (name : String) : Option String :=
  if name == ".." then none
  else
    let parts := name.splitOn "."
    match parts.dropLast with
    | [] => none
    | [""] => none
    | _ => parts.getLast?

/-- The extension of the file a path names. -/
def extension? (p : String) : Option String :=
  (fileName? p).bind extensionOfName

end GrammarLoader.Path
