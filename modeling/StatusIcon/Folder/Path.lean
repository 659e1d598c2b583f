/-
# StatusIcon.Folder.Path -- paths and the names in them

A path is a row of steps with slashes between them.  Empty steps and `.` lead nowhere and are left
out; `..` is a step like any other here, and leads up when a folder is searched.

The last step, if it names something, is the *name* of the path, and what follows the last dot of a
name is its *extension*.  A name whose only dot comes first has no extension.
-/

set_option autoImplicit false

namespace StatusIcon.Path

/-- What stands between the slashes. -/
def pieces : List Char → List (List Char)
  | [] => [[]]
  | c :: s =>
    if c = '/' then [] :: pieces s
    else
      match pieces s with
      | [] => [[c]]
      | piece :: more => (c :: piece) :: more

/-- The steps that lead somewhere. -/
def steps (path : String) : List String :=
  ((pieces path.toList).filter fun piece => piece ≠ [] && piece ≠ ['.']).map String.ofList

/-- The path can only be that of a folder, by its last step. -/
def endsAtFolder (path : String) : Bool :=
  match (pieces path.toList).getLast? with
  | some piece => piece = [] || piece = ['.'] || piece = ['.', '.']
  | none => false

/-- The path begins at the top of all folders. -/
def beginsAtTop (path : String) : Bool :=
  match path.toList with
  | c :: _ => c = '/'
  | [] => false

/-- Where a path leads from `here`, if every step of it can be taken. -/
def place (here : List String) (path : String) : List String :=
  (steps path).foldl (fun place step => if step = ".." then place.dropLast else place ++ [step])
    (if beginsAtTop path then [] else here)

def name? (path : String) : Option String :=
  match (steps path).getLast? with
  | some step => if step = ".." then none else some step
  | none => none

/-- What follows the last dot of the path's name. -/
def extension? (path : String) : Option String :=
  match name? path with
  | none => none
  | some name =>
    let reversed := name.toList.reverse
    match reversed.dropWhile (· ≠ '.') with
    | [] => none
    | [_] => none
    | _ :: _ => some (String.ofList (reversed.takeWhile (· ≠ '.')).reverse)

end StatusIcon.Path
