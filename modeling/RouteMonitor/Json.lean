import RouteMonitor.Table

/-!
# JSON values

Texts are held decoded, as byte strings. A number is held as it was written, for nothing here
computes with one. An object is a table, so its members come in byte order of their names.

Documents are read by a library. What is said of the service is said for every reader of documents,
so it does not depend on the grammar that the library accepts, nor on the words of its errors.
-/

namespace RouteMonitor

inductive Json
  | null
  | bool (value : Bool)
  | number (text : Bytes)
  | string (text : Bytes)
  | array (items : List Json)
  | object (members : List (Bytes × Json))

namespace Json

/-- A reader of documents. It gives the value of a document, or says what is wrong with it. -/
abbrev Reader := Bytes → Except Bytes Json

def text? : Json → Option Bytes
  | .string text => some text
  | _ => none

/-- The members of an object; of several with one name, the last stands. -/
def members? : Json → Option (Table Json)
  | .object members => some (.ofList members)
  | _ => none

end Json

end RouteMonitor
