import Stagewise.Document.Basic
import Stagewise.Document.Fill
import Stagewise.Document.Validation

/-! Acceptance of raw documents: they are filled, validated and read into their type. -/

namespace Stagewise

namespace Document

/-- The document, or everything that is wrong with it. -/
def accept (eligible : Option (List String)) (raw : Json) : Except (List Violation) Document :=
  let filled := fill raw
  match violations eligible filled with
  | [] =>
    match decoder filled with
    | .ok document => .ok document
    | .error e => .error [.malformed e.message]
  | found => .error found

end Document

end Stagewise
