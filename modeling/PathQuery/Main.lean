/-
# The program

The program reads the document that its arguments name and prints the answer.  What is printed is
decided elsewhere; here are the effects only.
-/
import PathQuery.CommandLine.Answer

namespace PathQuery.CommandLine

/-- The bytes of standard input to its end. -/
partial def readToEnd (stream : IO.FS.Stream) (before : ByteArray) : IO ByteArray := do
  let more ← stream.read 65536
  if more.isEmpty then return before else readToEnd stream (before ++ more)

/-- The bytes of the document that the arguments name. -/
def readInput (arguments : Arguments) : IO (Except ReadError ByteArray) := do
  match arguments.inputFile? with
  | none => return .ok (← readToEnd (← IO.getStdin) .empty)
  | some file =>
    try
      return .ok (← IO.FS.readBinFile file)
    catch
      | .noFileOrDirectory .. => return .error .notFound
      | .inappropriateType .. => return .error .isDirectory
      | other => throw other

/-- The message for a failure. -/
def failureMessage : Failure → String
  | .usage .missingArgument => "error: the path is missing"
  | .usage .unknownArgument => "error: an argument is not known"
  | .usage .invalidValue => "error: a value is invalid"
  | .usage .repeatedFlag => "error: a flag cannot be used twice"
  | .usage .unexpectedValue => "error: a flag takes no value"
  | .usage .helpRequested => "Usage: jpq [-s|--strict] [-1|--single] [-c|--compact] PATH [FILE]"
  | .usage .versionRequested => "jpq 0.1.0"
  | .unreadable cause => "Error: " ++ cause.message
  | .noDocument => "Error: Invalid JSON document"
  | .selection (.syntaxError cause) => "Error: " ++ cause.message
  | .selection (.evaluation cause) => "Error: " ++ cause.message

/-- Prints why there is no answer and gives the exit code. -/
def report (failure : Failure) : IO UInt32 := do
  match failure with
  | .usage .helpRequested | .usage .versionRequested =>
    IO.println (failureMessage failure)
    return 0
  | .usage _ =>
    IO.eprintln (failureMessage failure)
    return 2
  | _ =>
    IO.eprintln (failureMessage failure)
    return 1

/-- Prints the lines for the arguments of the program and gives the exit code. -/
def execute (arguments : List String) : IO UInt32 := do
  let environment : Environment := ⟨← IO.getEnv "JPQ_STRICT", ← IO.getEnv "JPQ_COMPACT"⟩
  match Arguments.read environment arguments with
  | .error cause => report (.usage cause)
  | .ok arguments =>
    match arguments.answer (← readInput arguments) with
    | .error failure => report failure
    | .ok lines =>
      for line in lines do
        IO.println line
      return 0

end PathQuery.CommandLine

/-- The program. -/
def main (arguments : List String) : IO UInt32 := PathQuery.CommandLine.execute arguments
