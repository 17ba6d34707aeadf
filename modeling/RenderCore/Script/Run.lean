import RenderCore.Script.Query
import RenderCore.Script.Transcript
import RenderCore.Document.Text
namespace RenderCore.Script

def answer (request : Document) : Document :=
  match stringField request "op" with
  | .error e => scriptError e
  | .ok op =>
    if op = "runtime" then
      match transcript request with
      | .ok a => a
      | .error e => scriptError e
    else
    match query op request with
    | some (.ok a) => a
    | some (.error e) => scriptError e
    | none => scriptError s!"unknown op '{op}'"

def answerText (text : String) : Document :=
  match Document.ofText text with
  | .ok request => answer request
  | .error e => scriptError s!"bad input json: {e}"

end RenderCore.Script
