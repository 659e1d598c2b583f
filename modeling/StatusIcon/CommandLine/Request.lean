/-
# StatusIcon.CommandLine.Request -- reading the words of a command line

The first word names a command, the words behind it are its options and the files it works on.

* An option is `--name value` or `--name=value`, at most once.  In the first form the value may not
  begin with a dash, unless it is a dash alone.
* Every other word is a file, in the order of the command's parameters.  Behind the word `--` all
  words are files.
* A file has a name of at least one character; the value of another option may be empty.

A value is looked at when the next word has been understood, or at the end.  So of two faults the
first counts, except that a word nobody knows is reported before the value right before it.
-/

set_option autoImplicit false

namespace StatusIcon.CommandLine

/-- Why a command line asks for nothing that could be done. -/
inductive UsageError where
  /-- Help was asked for. -/
  | help
  /-- Nothing was asked for, so there is help. -/
  | helpForNothing
  | version
  | unknownArgument
  | unknownCommand
  | missingArgument
  | invalidValue
  | unneededValue
  | repeatedOption
  deriving DecidableEq, Repr

def UsageError.message : UsageError → String
  | .help | .helpForNothing =>
    "commands: fix --package NAME [--overrides FILE] [--config FILE] INPUT OUTPUT; " ++
      "silhouette INPUT OUTPUT; encode INPUT; decode INPUT OUTPUT"
  | .version => "status-icon 0.1.0"
  | .unknownArgument => "there is an argument that no command knows"
  | .unknownCommand => "there is no such command"
  | .missingArgument => "an argument is missing"
  | .invalidValue => "a value is missing or empty"
  | .unneededValue => "there is a value where none is needed"
  | .repeatedOption => "an option stands twice"

/-! ## Commands and their parameters -/

inductive Command where
  | fix
  | silhouette
  | encode
  | decode
  deriving DecidableEq, Repr

def Command.ofName? (name : String) : Option Command :=
  if name = "fix" then some .fix
  else if name = "silhouette" then some .silhouette
  else if name = "encode" then some .encode
  else if name = "decode" then some .decode
  else none

structure Parameter where
  name : String
  /-- The value names a file. -/
  isFile : Bool
  deriving DecidableEq, Repr

def Command.options : Command → List Parameter
  | .fix => [⟨"package", false⟩, ⟨"overrides", true⟩, ⟨"config", true⟩]
  | _ => []

def Command.files : Command → List Parameter
  | .encode => [⟨"input", true⟩]
  | _ => [⟨"input", true⟩, ⟨"output", true⟩]

/-- A word that begins with a dash, but for the dash alone. -/
inductive Flag where
  | long (name : String) (value : Option String)
  | short (first : Char)
  deriving DecidableEq, Repr

def Flag.ofWord? (word : String) : Option Flag :=
  match word.toList with
  | '-' :: '-' :: s =>
    let value := match s.dropWhile (· ≠ '=') with
      | [] => none
      | _ :: value => some (String.ofList value)
    some (.long (String.ofList (s.takeWhile (· ≠ '='))) value)
  | '-' :: c :: _ => some (.short c)
  | _ => none

/-! ## The words behind a command -/

/-- A parameter and its value, if that was there. -/
structure Pending where
  parameter : Parameter
  value : Option String

/-- What the words so far have said. -/
structure Progress where
  given : List (String × String) := []
  pending : Option Pending := none
  files : List Parameter
  filesOnly : Bool := false

namespace Progress

/-- Looks at the pending value. -/
def settle (p : Progress) : Except UsageError Progress :=
  match p.pending with
  | none => .ok p
  | some ⟨_, none⟩ => .error .invalidValue
  | some ⟨parameter, some value⟩ =>
    if (p.given.lookup parameter.name).isSome then .error .repeatedOption
    else if parameter.isFile && value = "" then .error .invalidValue
    else .ok { p with given := (parameter.name, value) :: p.given, pending := none }

/-- A word that is the next file. -/
def addFile (p : Progress) (word : String) : Except UsageError Progress :=
  match p.files with
  | [] => .error .unknownArgument
  | parameter :: files => do
    let p ← p.settle
    return { p with pending := some ⟨parameter, some word⟩, files := files }

def addFlag (p : Progress) (options : List Parameter) : Flag → Except UsageError Progress
  | .short c =>
    if c = 'h' then do
      let _ ← p.settle
      .error .help
    else .error .unknownArgument
  | .long name value =>
    match options.find? fun option => option.name == name with
    | some option => do
      let p ← p.settle
      let p := { p with pending := some ⟨option, value⟩ }
      if value.isSome then p.settle else return p
    | none =>
      if name = "help" then
        if value.isSome then .error .unneededValue
        else do
          let _ ← p.settle
          .error .help
      else .error .unknownArgument

def addWord (p : Progress) (options : List Parameter) (word : String) :
    Except UsageError Progress :=
  if p.filesOnly then p.addFile word
  else if word = "--" then .ok { p with filesOnly := true }
  else
    match Flag.ofWord? word with
    | some flag => p.addFlag options flag
    | none =>
      match p.pending with
      | some ⟨parameter, none⟩ => .ok { p with pending := some ⟨parameter, some word⟩ }
      | _ => p.addFile word

end Progress

/-- The values that the words behind a command give to its parameters. -/
def Command.values (c : Command) (words : List String) :
    Except UsageError (List (String × String)) := do
  let p ← words.foldlM (fun p word => p.addWord c.options word) ({ files := c.files } : Progress)
  return (← p.settle).given

/-! ## Requests -/

/-- What a command line asks for. -/
inductive Request where
  | fix (package : String) (overrides config : Option String) (input output : String)
  | silhouette (input output : String)
  | encode (input : String)
  | decode (input output : String)
  deriving DecidableEq, Repr

/-- The files that a request looks at, also the one that it may write. -/
def Request.paths : Request → List String
  | .fix _ overrides config input output => overrides.toList ++ config.toList ++ [input, output]
  | .silhouette input output | .decode input output => [input, output]
  | .encode input => [input]

/-- The file that a request may write. -/
def Request.output? : Request → Option String
  | .fix _ _ _ _ output | .silhouette _ output | .decode _ output => some output
  | .encode _ => none

def required (values : List (String × String)) (name : String) : Except UsageError String :=
  match values.lookup name with
  | some value => .ok value
  | none => .error .missingArgument

def Request.ofValues (c : Command) (values : List (String × String)) :
    Except UsageError Request :=
  match c with
  | .fix => do
    return .fix (← required values "package") (values.lookup "overrides") (values.lookup "config")
      (← required values "input") (← required values "output")
  | .silhouette => do
    return .silhouette (← required values "input") (← required values "output")
  | .encode => do return .encode (← required values "input")
  | .decode => do return .decode (← required values "input") (← required values "output")

/-- What is behind the word `help`: at most one command, or that word again. -/
def helpFor : List String → UsageError
  | [] => .help
  | [word] => if (Command.ofName? word).isSome || word = "help" then .help else .unknownCommand
  | _ => .unknownCommand

/-- Words from here on, before a command is named; behind the word `--` none can be. -/
def Request.ofWordsFrom (commandsPast : Bool) : List String → Except UsageError Request
  | [] => .error .helpForNothing
  | word :: words =>
    let command := Command.ofName? word
    if commandsPast then
      if command.isSome || word = "help" then .error .unknownArgument else .error .unknownCommand
    else
      match command with
      | some c => do Request.ofValues c (← c.values words)
      | none =>
        if word = "help" then .error (helpFor words)
        else if word = "--" then ofWordsFrom true words
        else
          match Flag.ofWord? word with
          | none => .error .unknownCommand
          | some (.short c) =>
            .error (if c = 'h' then .help else if c = 'V' then .version else .unknownArgument)
          | some (.long name value) =>
            if name = "help" || name = "version" then
              .error (if value.isSome then .unneededValue
                else if name = "help" then .help else .version)
            else .error .unknownArgument

/-- What the words of a command line ask for. -/
def Request.ofWords (words : List String) : Except UsageError Request := ofWordsFrom false words

end StatusIcon.CommandLine
