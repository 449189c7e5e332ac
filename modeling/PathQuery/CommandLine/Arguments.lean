/-
# The arguments of the command line

The first plain argument is the path, the second one the file.  Flags have a long name and a letter;
letters may be joined after one hyphen.  After `--` every argument is plain.  Two flags can also be
set by variables of the environment, which are not looked at if the flag is given.
-/

namespace PathQuery.CommandLine

/-- Why arguments are refused, or what is shown instead of an answer. -/
inductive UsageError where
  | missingArgument
  | unknownArgument
  | invalidValue
  /-- A flag is given twice. -/
  | repeatedFlag
  /-- A flag is given a value. -/
  | unexpectedValue
  | helpRequested
  | versionRequested
deriving DecidableEq, Repr

/-- What is asked for on the command line. -/
structure Arguments where
  path : String
  file : Option String
  strict : Bool
  single : Bool
  compact : Bool
deriving DecidableEq, Repr

/-- The variables of the environment that matter. -/
structure Environment where
  strict : Option String
  compact : Option String

/-- The flags. -/
inductive Flag where
  | strict
  | single
  | compact
  | help
  | version
deriving DecidableEq, Repr

namespace Flag

/-- The flag with a letter. -/
def ofLetter? : Char → Option Flag
  | 's' => some strict
  | '1' => some single
  | 'c' => some compact
  | 'h' => some help
  | 'V' => some version
  | _ => none

/-- The flag with a long name. -/
def ofName? (name : List Char) : Option Flag :=
  match String.ofList name with
  | "strict" => some strict
  | "single" => some single
  | "compact" => some compact
  | "help" => some help
  | "version" => some version
  | _ => none

end Flag

/-- The arguments read so far. -/
structure Reading where
  path : Option String
  file : Option String
  flags : List Flag

namespace Reading

/-- Refuses an empty name of a file, which is found out only when something else comes up. -/
def checkFile (reading : Reading) : Except UsageError Unit :=
  if reading.file = some "" then .error .invalidValue else .ok ()

/-- The arguments with one more flag. -/
def addFlag (reading : Reading) (flag : Flag) : Except UsageError Reading := do
  reading.checkFile
  match flag with
  | .help => .error .helpRequested
  | .version => .error .versionRequested
  | flag =>
    if flag ∈ reading.flags then .error .repeatedFlag
    else .ok { reading with flags := flag :: reading.flags }

/-- The arguments with the flags of the given letters. -/
def addLetters (reading : Reading) : List Char → Except UsageError Reading
  | [] => .ok reading
  | letter :: rest =>
    match Flag.ofLetter? letter with
    | some flag => do (← reading.addFlag flag).addLetters rest
    | none => .error .unknownArgument

/-- The arguments with the flag of a long name, after which an equals sign may bring a value. -/
def addName (reading : Reading) (text : List Char) : Except UsageError Reading :=
  match Flag.ofName? (text.takeWhile (· != '=')) with
  | none => .error .unknownArgument
  | some flag => if text.contains '=' then .error .unexpectedValue else reading.addFlag flag

/-- The arguments with one more plain argument. -/
def addPlain (reading : Reading) (argument : String) : Except UsageError Reading :=
  match reading.path, reading.file with
  | none, _ => .ok { reading with path := some argument }
  | some _, none => .ok { reading with file := some argument }
  | some _, some _ => .error .unknownArgument

/-- The arguments after all plain ones of a list. -/
def addAllPlain (reading : Reading) (arguments : List String) : Except UsageError Reading :=
  arguments.foldlM addPlain reading

/-- The arguments after all of a list. -/
def addAll (reading : Reading) : List String → Except UsageError Reading
  | [] => .ok reading
  | argument :: rest =>
    match argument.toList with
    | ['-', '-'] => reading.addAllPlain rest
    | '-' :: '-' :: name => do (← reading.addName name).addAll rest
    | '-' :: letter :: more => do (← reading.addLetters (letter :: more)).addAll rest
    | _ => do (← reading.addPlain argument).addAll rest

/-- Is a flag set, on the command line or by its variable? -/
def isSet (reading : Reading) (flag : Flag) (value : Option String) : Except UsageError Bool :=
  if flag ∈ reading.flags then .ok true
  else
    match value with
    | none => .ok false
    | some "true" => .ok true
    | some "false" => .ok false
    | some _ => .error .invalidValue

end Reading

/-- What a list of arguments asks for. -/
def Arguments.read (environment : Environment) (arguments : List String) :
    Except UsageError Arguments := do
  let reading ← Reading.addAll ⟨none, none, []⟩ arguments
  reading.checkFile
  let strict ← reading.isSet .strict environment.strict
  let compact ← reading.isSet .compact environment.compact
  match reading.path with
  | none => .error .missingArgument
  | some path =>
    .ok ⟨path, reading.file, strict, decide (Flag.single ∈ reading.flags), compact⟩

end PathQuery.CommandLine
