/-
# StatusIcon.Icon.Error -- what can go wrong with an icon

Every failure of the library is one of these.  None of them is fatal to a notification: whoever
fixes icons notes the failure and goes on with the icon as it was posted.

What is noted is the message of the failure.  What an image library says of its own failures is up
to that library, so messages are made with the help of it.
-/
import StatusIcon.Base64
import StatusIcon.Folder.Basic
import StatusIcon.Image.Error
import StatusIcon.Json.Error

set_option autoImplicit false

namespace StatusIcon

/-- One of the four places at the edges of a bitmap that are looked at. -/
inductive Edge where
  | top
  | bottom
  | left
  | right
  deriving DecidableEq, Repr

def Edge.name : Edge → String
  | .top => "top"
  | .bottom => "bottom"
  | .left => "left"
  | .right => "right"

inductive IconError where
  | sampleOutOfBounds (edge : Edge) (offset : Int) (width height : Nat)
  | malformedUri (uri : String)
  | providerUnavailable (reason : String)
  | missingColumn (column : String)
  | base64 (error : Base64.Error)
  | image (error : Image.Error)
  | config (error : Json.Error)
  | io (error : FileError)
  deriving DecidableEq, Repr

def IconError.message (describe : Image.Error → String) : IconError → String
  | .sampleOutOfBounds edge offset width height =>
    "edge sample " ++ edge.name ++ " at offset " ++ Int.repr offset ++ " is outside a " ++
      Nat.repr width ++ "x" ++ Nat.repr height ++ " bitmap"
  | .malformedUri uri => "malformed provider uri: " ++ uri
  | .providerUnavailable reason => "override provider unavailable: " ++ reason
  | .missingColumn column => "column '" ++ column ++ "' missing from override row"
  | .base64 error => "invalid base64 icon data: " ++ error.message
  | .image error => "image error: " ++ describe error
  | .config error => "invalid configuration: " ++ error.message
  | .io error => error.message

end StatusIcon
