import Gatehouse.Http.Message

/-!
Requests to the control interface as lines of text: a method, a target and, if there is one, a body, with a
blank between them. An answer is a line with a status and a body.
-/

namespace Gatehouse.Launch.Console

open Http

def request? (line : Text) : Option Request := do
  let (method, rest) ← Text.cutFirst ' ' line
  let (target, body) := (Text.cutFirst ' ' rest).getD (rest, [])
  let uri ← (Uri.parse target).toOption
  pure ⟨method, uri, .http11, [], Text.utf8 body⟩

def answerLine (r : Response) : Text := Text.ofNat r.status ++ " " ++ Text.ofUtf8Lossy r.body

end Gatehouse.Launch.Console
