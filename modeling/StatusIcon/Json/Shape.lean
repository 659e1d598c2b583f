/-
# StatusIcon.Json.Shape -- reading values of a known type

A text is read and understood in one pass: each reader here asks for a value of one type, and what
it reports first is what a person would meet first, reading from the left.

A record is read by its `Shape`, a list of named members.  It may be written in two ways:

* as an object, with the members in any order, each at most once, and any other members beside them,
  which are skipped;
* as a list of the values of the members in the order of the shape.

A member that is not there keeps the value it had before, unless the shape requires it.  Causes that
concern the record as a whole are reported at its closing bracket when that is what comes next.
-/
import StatusIcon.Json.Skip

set_option autoImplicit false

namespace StatusIcon.Json

/-! ## Values of a wrong type -/

/-- The fault of a value, standing at the head of the text, that is not of the type wanted. -/
def wrongType (wanted : String) (s : List Char) : Fault :=
  let after (found : Found) (result : Except Fault (List Char)) : Fault :=
    match result with
    | .error e => e
    | .ok rest => .behind (.wrongType found wanted) rest
  let afterNumber (result : Result Number) : Fault :=
    match result with
    | .error e => e
    | .ok (n, rest) => .behind (.wrongType n.found wanted) rest
  match s with
  | [] => .ahead (.unended .value) []
  | 'n' :: rest => after .null (dropName ['u', 'l', 'l'] rest)
  | 't' :: rest => after (.bool true) (dropName ['r', 'u', 'e'] rest)
  | 'f' :: rest => after (.bool false) (dropName ['a', 'l', 's', 'e'] rest)
  | '-' :: rest => afterNumber (number true rest)
  | '"' :: rest =>
    match string rest with
    | .error e => e
    | .ok (text, rest) => .behind (.wrongType (.string text) wanted) rest
  | '[' :: _ => .behind (.wrongType .list wanted) s
  | '\x7b' :: _ => .behind (.wrongType .object wanted) s
  | c :: _ => if isDigit c then afterNumber (number false s) else .ahead (.expected .value) s

/-! ## Plain values -/

def readString (s : List Char) : Result String :=
  match dropSpace s with
  | '"' :: rest => string rest
  | s => .error (wrongType "a string" s)

def readBool (s : List Char) : Result Bool :=
  match dropSpace s with
  | 't' :: rest =>
    match dropName ['r', 'u', 'e'] rest with
    | .error e => .error e
    | .ok rest => .ok (true, rest)
  | 'f' :: rest =>
    match dropName ['a', 'l', 's', 'e'] rest with
    | .error e => .error e
    | .ok rest => .ok (false, rest)
  | s => .error (wrongType "a boolean" s)

def readNumber (wanted : String) (s : List Char) : Result Number :=
  match dropSpace s with
  | [] => .error (wrongType wanted [])
  | c :: rest =>
    if c = '-' then number true rest
    else if isDigit c then number false (c :: rest)
    else .error (wrongType wanted (c :: rest))

def readSingle (s : List Char) : Result Single :=
  match readNumber "f32" s with
  | .error e => .error e
  | .ok (n, rest) => .ok (n.toSingle, rest)

/-- An integer of at least zero and below `2 ^ bits`. -/
def readNatural (bits : Nat) (s : List Char) : Result Nat :=
  let wanted := "u" ++ Nat.repr bits
  match readNumber wanted s with
  | .error e => .error e
  | .ok (.natural n, rest) =>
    if n < Nat.pow 2 bits then .ok (n, rest)
    else .error (.behind (.wrongValue (.natural n) wanted) rest)
  | .ok (.negative n, rest) => .error (.behind (.wrongValue (.negative n) wanted) rest)
  | .ok (.real x, rest) => .error (.behind (.wrongType (.real x) wanted) rest)

/-! ## Commas and ends -/

/-- Behind a complete record, as far as its closing bracket is what comes next. -/
def afterClose (close : Char) (s : List Char) : List Char :=
  match dropSpace s with
  | [] => []
  | c :: rest => if c = close then rest else c :: rest

/-- Takes the end of a list of which every value is read. -/
def endList (s : List Char) : Except Fault (List Char) :=
  match dropSpace s with
  | [] => .error (.ahead (.unended .list) [])
  | c :: rest =>
    if c = ']' then .ok rest
    else if c = ',' then
      match dropSpace rest with
      | ']' :: more => .error (.ahead .trailingComma (']' :: more))
      | more => .error (.ahead .trailingCharacters more)
    else .error (.ahead .trailingCharacters (c :: rest))

/-- Where the next value of a list begins, or `none` before the end of the list.  The list begins
here if `first`. -/
def nextItem (first : Bool) (s : List Char) : Except Fault (Option (List Char)) :=
  match dropSpace s with
  | [] => .error (.ahead (.unended .list) [])
  | c :: rest =>
    if c = ']' then .ok none
    else if first then .ok (some (c :: rest))
    else if c = ',' then
      match dropSpace rest with
      | [] => .error (.ahead (.unended .value) [])
      | ']' :: more => .error (.ahead .trailingComma (']' :: more))
      | more => .ok (some more)
    else .error (.ahead (.expected .listCommaOrEnd) (c :: rest))

/-- Behind the opening quote of the next member's name, or `none` before the end of the object. -/
def nextName (first : Bool) (s : List Char) : Except Fault (Option (List Char)) :=
  match dropSpace s with
  | [] => .error (.ahead (.unended .object) [])
  | c :: rest =>
    if c = '\x7d' then .ok none
    else if first then
      if c = '"' then .ok (some rest) else .error (.ahead .keyNotString (c :: rest))
    else if c = ',' then
      match dropSpace rest with
      | [] => .error (.ahead (.unended .value) [])
      | '"' :: more => .ok (some more)
      | '\x7d' :: more => .error (.ahead .trailingComma ('\x7d' :: more))
      | more => .error (.ahead .keyNotString more)
    else .error (.ahead (.expected .objectCommaOrEnd) (c :: rest))

/-- Takes the colon behind a member's name. -/
def colon (s : List Char) : Except Fault (List Char) :=
  match dropSpace s with
  | [] => .error (.ahead (.unended .object) [])
  | c :: rest => if c = ':' then .ok rest else .error (.ahead (.expected .colon) (c :: rest))

/-! ## Lists -/

/-- The values of a list from here on, after those already read (latest first). -/
def itemsFrom {α : Type} (read : List Char → Result α) :
    Nat → List α → List Char → Except Fault (List α × List Char)
  | 0, _, s => .error (.ahead (.unended .list) s)
  | fuel + 1, items, s => do
    match ← nextItem items.isEmpty s with
    | none => return (items.reverse, ← endList s)
    | some s =>
      let (item, rest) ← read s
      itemsFrom read fuel (item :: items) rest

/-- A list of values.  Each takes a character at least, so the length of the text bounds them. -/
def readList {α : Type} (read : List Char → Result α) (s : List Char) : Result (List α) :=
  match dropSpace s with
  | '[' :: rest => itemsFrom read (rest.length + 1) [] rest
  | s => .error (wrongType "a sequence" s)

/-! ## Records -/

/-- A named part of a record of type `σ`: how its value is read and put into the record. -/
structure Member (σ : Type) where
  name : String
  required : Bool
  read : σ → List Char → Result σ

/-- The member whose value `read` understands and `put` places in the record. -/
def Member.ofReader {σ α : Type} (name : String) (required : Bool)
    (read : List Char → Result α) (put : σ → α → σ) : Member σ where
  name := name
  required := required
  read record s :=
    match read s with
    | .ok (value, rest) => .ok (put record value, rest)
    | .error e => .error e

/-- How records of type `σ` are written. -/
structure Shape (σ : Type) where
  name : String
  members : List (Member σ)

namespace Shape

variable {σ : Type}

/-- The values of the members in order; `count` of them are read. -/
def listFrom (wanted : String) (count : Nat) :
    List (Member σ) → σ → List Char → Except Fault (σ × List Char)
  | [], record, s => do return (record, ← endList s)
  | m :: members, record, s => do
    match ← nextItem (count == 0) s with
    | none =>
      if m.required then .error (.behind (.wrongLength count wanted) (afterClose ']' s))
      else listFrom wanted count members record s
    | some s =>
      let (record, rest) ← m.read record s
      listFrom wanted (count + 1) members record rest

/-- The members of an object from here on; those named in `seen` were read. -/
def objectFrom (shape : Shape σ) :
    Nat → Bool → List String → σ → List Char → Except Fault (σ × List Char)
  | 0, _, _, _, s => .error (.ahead (.unended .object) s)
  | fuel + 1, first, seen, record, s => do
    match ← nextName first s with
    | none =>
      match shape.members.find? fun m => m.required && !seen.contains m.name with
      | some m => .error (.behind (.missingMember m.name) (afterClose '\x7d' s))
      | none => return (record, afterClose '\x7d' s)
    | some s =>
      let (name, s) ← string s
      match shape.members.find? fun m => m.name == name with
      | some m =>
        if seen.contains name then
          .error (.behind (.repeatedMember name) (afterClose '\x7d' s))
        else
          let (record, s) ← m.read record (← colon s)
          objectFrom shape fuel false (name :: seen) record s
      | none =>
        let s ← skip (← colon s)
        objectFrom shape fuel false seen record s

/-- A record; members that are not there stay as in `start`. -/
def read (shape : Shape σ) (start : σ) (s : List Char) : Result σ :=
  let wanted := "struct " ++ shape.name
  match dropSpace s with
  | '[' :: rest =>
    let count := Nat.repr shape.members.length
    listFrom (wanted ++ " with " ++ count ++ " elements") 0 shape.members start rest
  | '\x7b' :: rest => objectFrom shape (rest.length + 1) true [] start rest
  | s => .error (wrongType wanted s)

end Shape

end StatusIcon.Json
