import ReactiveForm.CommandLine.Query
import ReactiveForm.Json.Basic

/-!
# `ReactiveForm.CommandLine.Response` — answers and errors as output

In JSON an answer or an error is one line, a response of JSON-RPC 2.0. As text, an answer is what a person
wants to see, and an error goes to the error output. A quiet command writes errors only.

## Contents
- `Response`, what the program writes and how it ends.
- `Answer.json` and `Answer.text`; `QueryError.json` and `QueryError.text`.
- `Response.ofQuery`, in each mode.
-/

namespace ReactiveForm

namespace CommandLine

/-- What the program writes and how it ends. -/
structure Response where
  output : String := ""
  errors : String := ""
  code : Nat := ExitStatus.success.code
  deriving DecidableEq, Repr

/-! ## JSON -/

/-- A response of JSON-RPC 2.0 to a call without a number. -/
def rpc (key : String) (value : Json) : Json :=
  .object [("jsonrpc", .string "2.0"), (key, value), ("id", .null)]

/-- An array of strings. -/
def jsonStrings (texts : List String) : Json := .array (texts.map Json.string)

/-- The JSON value of a failure. -/
def failureJson (f : Failure) : Json :=
  .object [
    ("node", .number f.node.index),
    ("directive", .string f.kind.attributeName),
    ("message", .string f.error.message)]

/-- The JSON value of a report. -/
def reportJson (r : Report) : Json :=
  .object [("applied", .number r.applied), ("failures", .array (r.failures.map failureJson))]

/-- The JSON value of a step with its report. -/
def Replayed.json (r : Replayed) : Json :=
  .object [("step", .string r.step.text), ("report", reportJson r.report)]

/-- The JSON value of an answer. -/
def Answer.json : Answer → Json
  | truth condition value =>
    .object [
      ("condition", .string condition.text),
      ("result", .bool value),
      ("references", jsonStrings condition.references)]
  | references condition =>
    .object [
      ("condition", .string condition.text),
      ("references", jsonStrings condition.references)]
  | mounted report listeners html =>
    .object [
      ("report", reportJson report),
      ("listeners", .number listeners),
      ("html", .string html)]
  | simulated mount steps html =>
    .object [
      ("mount", reportJson mount),
      ("steps", .array (steps.map Replayed.json)),
      ("html", .string html)]

/-- The number of an error among those that JSON-RPC leaves to applications. -/
def ExitStatus.rpcCode (s : ExitStatus) : Int := -32000 - s.code

/-- The members that tell more about an error. -/
def QueryError.dataMembers (e : QueryError) : List (String × Json) :=
  (if e.suggestions.isEmpty then [] else [("suggestions", jsonStrings e.suggestions)]) ++
    e.details?.toList.map fun details => ("details", .string details)

/-- The JSON value of an error. -/
def QueryError.json (e : QueryError) : Json :=
  .object ([("code", .number e.status.rpcCode), ("message", .string e.message)] ++
    if e.dataMembers.isEmpty then [] else [("data", .object e.dataMembers)])

/-! ## Text -/

/-- The text of an answer. -/
def Answer.text : Answer → String
  | truth _ value => if value then "true\n" else "false\n"
  | references condition => String.join (condition.references.map (· ++ "\n"))
  | mounted _ _ html => html
  | simulated _ _ html => html

/-- The lines of some details, indented. -/
def detailLines (details : String) : String :=
  String.join ((Text.lines details.toList).map fun l => "  " ++ String.ofList l ++ "\n")

/-- The text of an error. -/
def QueryError.text (e : QueryError) : String :=
  "Error: " ++ e.message ++ "\n" ++ (e.details?.map detailLines).getD ""

/-! ## Responses -/

namespace Response

/-- The response to a query. -/
def ofQuery (mode : OutputMode) (result : Except QueryError Answer) : Response :=
  match result, mode with
  | .ok a, .json => { output := (rpc "result" a.json).compact ++ "\n" }
  | .ok a, .text => { output := a.text }
  | .ok _, .quiet => {}
  | .error e, .json => { output := (rpc "error" e.json).compact ++ "\n", code := e.status.code }
  | .error e, .text => { errors := e.text, code := e.status.code }
  | .error e, .quiet => { errors := e.text, code := e.status.code }

end Response

end CommandLine

end ReactiveForm
