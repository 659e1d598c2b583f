/-
# StatusIcon.Override.Uri -- addresses of override stores

A store is addressed by `content://`, an authority, a slash and a path.  The authority is not empty
and has no slash and no blank of any script; the path is not empty and may hold anything.  So an
address has one reading, and the reading gives the address back.
-/
import StatusIcon.Icon.Error
import StatusIcon.Text.Blank

set_option autoImplicit false

namespace StatusIcon

structure ContentUri where
  authority : String
  path : String
  deriving DecidableEq, Repr

namespace ContentUri

def scheme : String := "content://"

/-- The address in full. -/
def text (u : ContentUri) : String := scheme ++ u.authority ++ "/" ++ u.path

def parse? (uri : String) : Option ContentUri :=
  if scheme.toList.isPrefixOf uri.toList then
    let rest := uri.toList.drop scheme.length
    let authority := rest.takeWhile (· ≠ '/')
    match rest.dropWhile (· ≠ '/') with
    | [] => none
    | _ :: path =>
      if authority.isEmpty || path.isEmpty || authority.any Text.isBlank then none
      else some ⟨String.ofList authority, String.ofList path⟩
  else none

def parse (uri : String) : Except IconError ContentUri :=
  match parse? uri with
  | some u => .ok u
  | none => .error (.malformedUri uri)

/-- Where overrides are served unless something else is said. -/
def default : ContentUri := ⟨"top.easterNday.ICON", "ICON"⟩

end ContentUri

end StatusIcon
