/-
# The answer of the command line

The arguments name a document, in a file or on standard input, and a path.  The document is read
before the path.  The answer has a line for every selected node, compact or indented.
-/
import PathQuery.CommandLine.Arguments
import PathQuery.Evaluation.Selection
import PathQuery.Json.Reader

namespace PathQuery.CommandLine

/-- Why the bytes of a document cannot be had or are no text. -/
inductive ReadError where
  | notFound
  | isDirectory
  | notUtf8
deriving DecidableEq, Repr

/-- The message for a cause. -/
def ReadError.message : ReadError → String
  | notFound => "I/O error: No such file or directory (os error 2)"
  | isDirectory => "I/O error: Is a directory (os error 21)"
  | notUtf8 => "I/O error: stream did not contain valid UTF-8"

/-- Why there is no answer. -/
inductive Failure where
  | usage (cause : UsageError)
  | unreadable (cause : ReadError)
  | noDocument
  | selection (cause : SelectionError)
deriving DecidableEq

/-! ## Documents -/

/-- The files below a working directory, by their names. -/
structure Directory where
  files : List (String × ByteArray)

namespace Directory

/-- The parts of a name, without empty ones and single dots. -/
def parts (name : String) : List String :=
  (name.splitOn "/").filter fun part => part != "" && part != "."

/-- The bytes of the file with a name. -/
def read (directory : Directory) (name : String) : Except ReadError ByteArray :=
  let wanted := parts name
  if wanted.all (· == "..") then .error .isDirectory
  else
    match directory.files.find? fun file => parts file.1 == wanted with
    | some file => if name.startsWith "/" then .error .notFound else .ok file.2
    | none =>
      if directory.files.any fun file => wanted.isPrefixOf (parts file.1) then
        .error .isDirectory
      else .error .notFound

end Directory

/-- The file that the arguments name; a single hyphen stands for standard input. -/
def Arguments.inputFile? (arguments : Arguments) : Option String :=
  arguments.file.filter (· != "-")

/-- The document that bytes spell. -/
def readDocument (bytes : ByteArray) : Except Failure Json :=
  match String.fromUTF8? bytes with
  | none => .error (.unreadable .notUtf8)
  | some text =>
    match Json.read? text with
    | none => .error .noDocument
    | some document => .ok document

/-! ## Lines -/

/-- The line for a node. -/
def Arguments.line (arguments : Arguments) (node : Json) : String :=
  if arguments.compact then node.toCompact else node.toIndented

/-- The lines for what the path of the arguments selects from a document. -/
def Arguments.lines (arguments : Arguments) (document : Json) :
    Except SelectionError (List String) := do
  let nodes ←
    if arguments.single then
      (document.selectOnly arguments.path arguments.strict).map Option.toList
    else document.selectAll arguments.path arguments.strict
  .ok (nodes.map arguments.line)

/-- The lines for the arguments, once the bytes of their document are there. -/
def Arguments.answer (arguments : Arguments) (bytes : Except ReadError ByteArray) :
    Except Failure (List String) := do
  let bytes ← bytes.mapError .unreadable
  let document ← readDocument bytes
  (arguments.lines document).mapError .selection

/-- The arguments and the lines for a call of the program. -/
def answer (environment : Environment) (arguments : List String) (directory : Directory)
    (input : ByteArray) : Except Failure (Arguments × List String) := do
  let arguments ← (Arguments.read environment arguments).mapError .usage
  let bytes := match arguments.inputFile? with
    | some file => directory.read file
    | none => .ok input
  let lines ← arguments.answer bytes
  .ok (arguments, lines)

end PathQuery.CommandLine
