/-!
# File paths

Paths as texts with slashes. A path has a parent and a last name, read off its components: repeated
slashes, slashes at the end and dots that name the directory they stand in do not count as
components, except a dot at the very beginning.
-/

set_option autoImplicit false
set_option relaxedAutoImplicit false

namespace Responsive.Path

/-- The path, reversed, without slashes and lone dots at its end. -/
def dropTail : List Char → List Char
  | '/' :: s => dropTail s
  | '.' :: '/' :: s => dropTail s
  | s => s

/-- The path without slashes and lone dots at its end; the root becomes empty. -/
def trimmed (path : List Char) : List Char :=
  (dropTail path.reverse).reverse

/-- The text behind the last slash. -/
def lastPart (path : List Char) : List Char :=
  (path.reverse.takeWhile (· != '/')).reverse

/-- Whether a path starts at the root. -/
def isAbsolute (path : List Char) : Bool :=
  path.head? == some '/'

/-- The path without its last component; `none` for the root and for the empty path. -/
def parent? (path : String) : Option String :=
  let s := trimmed path.toList
  if s.isEmpty then none
  else
    let lead := trimmed (s.reverse.dropWhile (· != '/')).reverse
    if lead.isEmpty && isAbsolute s then some "/" else some (.ofList lead)

/-- The last component, if it is a name of its own. -/
def fileName? (path : String) : Option String :=
  match lastPart (trimmed path.toList) with
  | [] | ['.'] | ['.', '.'] => none
  | name => some (.ofList name)

/-- A path inside a directory; an absolute one stays as it is. -/
def join (dir name : String) : String :=
  if dir.isEmpty || isAbsolute name.toList then name
  else if dir.toList.getLast? == some '/' then dir ++ name
  else dir ++ "/" ++ name

/-- The path with its last name replaced; a path without one gets the name as a new component. -/
def withFileName (path name : String) : String :=
  match fileName? path with
  | some _ => join ((parent? path).getD path) name
  | none => join path name

/-- What follows the last dot of the last name, unless the name begins with that dot. -/
def extension? (path : String) : Option String :=
  match fileName? path with
  | none => none
  | some name =>
    let reversed := name.toList.reverse
    match reversed.dropWhile (· != '.') with
    | [] | ['.'] => none
    | _ => some (.ofList (reversed.takeWhile (· != '.')).reverse)

/-- The names between the slashes. -/
def parts (path : String) : List String :=
  ((path.toList.splitOn '/').filter (!·.isEmpty)).map .ofList

/-- Whether a path ends in a slash. -/
def endsInSlash (path : String) : Bool :=
  path.toList.getLast? == some '/'

end Responsive.Path
