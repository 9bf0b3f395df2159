import Criteria.Config.Reader
import Criteria.Console
import Criteria.Samples

/-!
# Command line

Loads the schema of the demonstration, or the built-in one, and answers the lines of the standard
input.
-/

namespace Criteria

/-- Where the configuration of the demonstration is. -/
def demoPath : String := "demos/shop_schema.json"

/-- What is found at a path. -/
def fileContent (path : String) : IO FileContent := do
  try
    return .bytes (← IO.FS.readBinFile path)
  catch
    | .noFileOrDirectory .. => return .nothing
    | _ => return .directory

/-- The schema of the demonstration, or the built-in one. -/
def loadSchema : IO (Schema Empty) := do
  match Schema.ofLoaded (Config.ofFile demoPath (← fileContent demoPath)) with
  | .ok s => return s
  | .error fault =>
    IO.eprintln ("falling back to built-in schema: " ++ fault.message)
    return Samples.builtin

/-- Answers the lines of the input until it ends or one of them asks to quit. -/
partial def answerLines (s : Schema Empty) (input output : IO.FS.Stream) : IO Unit := do
  output.putStr "> "
  output.flush
  let line ← input.getLine
  if line.isEmpty then return
  let trimmed := String.ofList (Text.trim line.toList)
  if trimmed = ":quit" || trimmed = ":q" then return
  if !trimmed.isEmpty then
    match Command.eval s trimmed with
    | .ok answer => output.putStrLn answer
    | .error fault => output.putStrLn ("✗ " ++ fault.message)
  answerLines s input output

end Criteria

open Criteria in
/-- Starts the console. -/
def main : IO Unit := do
  let s ← loadSchema
  IO.println "--- Criteria ---"
  IO.println ("models: " ++ ", ".intercalate s.modelNames)
  IO.println "usage: <Model> <method> [json args...], for example Post andWithAuthorName \"ada\""
  answerLines s (← IO.getStdin) (← IO.getStdout)
