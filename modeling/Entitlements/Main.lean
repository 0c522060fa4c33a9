import Entitlements.Client.Dialogue
import Entitlements.Json.Writer
import Entitlements.Schema.Script
import Entitlements.Setup.Settings

/-!
# The command line

`script upgrade RANGE` and `script downgrade RANGE` write the script of a range of revisions.
Every other command line is one of the client. A message of the client is written as a line, and
the answer to it is read as a line: the status, a blank and the text.
-/

namespace Entitlements

open Json (Value)

/-- What can be asked for on the command line. -/
def usage : String :=
  "add|remove LOGIN PERMISSION [--project-id ID] [--project-key KEY] [--organization KEY]\n" ++
  "script upgrade|downgrade RANGE"

/-- A message as it is written. -/
def Client.Post.record (p : Client.Post) : Value :=
  let texts (fields : List (String × String)) : Value :=
    .object (fields.map fun (name, s) => (name, .text s))
  let content : String × Value := match p.content with
    | .form fields => ("form", texts fields)
    | .object fields => ("object", texts fields)
  .object [("url", .text p.url), ("headers", texts p.headers), content]

/-- An answer from the line that it stands on. -/
def Client.Answer.ofLine (line : String) : Client.Answer :=
  let (status, text) := line.trimAsciiEnd.toString.toList.span (· != ' ')
  ⟨(String.ofList status).toInt?.getD 0, String.ofList (text.drop 1)⟩

/-- Lead a dialogue over the standard streams. -/
def Client.Dialogue.lead : Client.Dialogue → IO (Except Client.Failure Client.Ending)
  | .over e => return e
  | .send p next => do
    IO.println p.record.write
    (← IO.getStdout).flush
    let line ← (← IO.getStdin).getLine
    if line.isEmpty then return .error .unanswered
    lead (next (.ofLine line))

/-- Lead the dialogue for a change, and tell how it ended. -/
def runClient (env : List (String × String)) (i : Client.Invocation) : IO UInt32 := do
  match ← (Client.dialogue (.read env) i).lead with
  | .ok e =>
    IO.print e.output
    IO.eprint e.complaint
    return e.code.toUInt32
  | .error f =>
    IO.eprintln f.message
    return 1

/-- Write the script of a range of revisions. -/
def runScript (env : List (String × String)) (d : Schema.Direction) (range : String) :
    IO UInt32 := do
  match Setup.Settings.read env none, Schema.script d range with
  | .error complaints, _ =>
    for (name, _) in complaints do
      IO.eprintln (name ++ " cannot be read")
    return 1
  | _, .error f =>
    IO.eprintln f.message
    return 1
  | _, .ok lines =>
    IO.print ("\n".intercalate lines)
    return 0

/-- The surroundings, as far as names are asked for. -/
def surroundingsOf (names : List String) : IO (List (String × String)) :=
  names.filterMapM fun name => do
    return (← IO.getEnv name).map (name, ·)

/-- The names that say where the services are, and on whose account the client acts. -/
def accountNames : List String :=
  ["API_URL", "KEYCLOAK_URL", "KEYCLOAK_REALM", "KEYCLOAK_CLIENT_ID", "KEYCLOAK_CLIENT_SECRET",
    "ADMIN_USER", "ADMIN_PASSWORD"]

/-- Do what a command line asks for. -/
def runCommandLine (arguments : List String) : IO UInt32 := do
  match arguments with
  | ["script", word, range] =>
    match Schema.Direction.ofWord? word with
    | some d =>
      runScript (← surroundingsOf (Setup.Settings.names.map String.toUpper)) d range
    | none =>
      IO.eprintln usage
      return 2
  | _ =>
    match Client.Request.ofArguments arguments with
    | .invocation i => runClient (← surroundingsOf accountNames) i
    | .help =>
      IO.println usage
      return 0
    | .misuse =>
      IO.eprintln usage
      return 2

end Entitlements

/-- Do what the command line asks for. -/
def main (arguments : List String) : IO UInt32 :=
  Entitlements.runCommandLine arguments
