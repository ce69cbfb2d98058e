import Gatehouse.Text.Blank
import Gatehouse.Text.Utf8

/-!
Programs that the gateway runs on its host: how one can end, and what of that the gateway sees.
-/

namespace Gatehouse.Host

def noSuchFileText : Text := "No such file or directory (os error 2)"

/-- What is said of a name or an argument that holds a character no system call takes. -/
def nulText : Text := "nul byte found in provided data"

namespace Program

/-- How a program ends. -/
inductive Ending where
  /-- There is no such program. -/
  | missing
  /-- The system does not start it. -/
  | refused (detail : Text)
  | succeeded
  /-- It ends with a failure after writing these bytes to its error stream. -/
  | failed (stderr : Bytes)

/-- What a run shows: the complaint if it could not be started, else the text that a failed program wrote
to its error stream, without the blanks around it. -/
def start (program : Text) (arguments : List Text) (ending : Ending) : Except Text (Option Text) :=
  if (program :: arguments).any (·.contains '\x00') then .error nulText
  else
    match ending with
    | .missing => .error noSuchFileText
    | .refused detail => .error detail
    | .succeeded => .ok none
    | .failed stderr => .ok (some (Text.trim (Text.ofUtf8Lossy stderr)))

end Program
end Gatehouse.Host
