/-! The value of a written document, whatever format it is written in. Integers and floating point
numbers are told apart, because a document that asks for one does not always take the other. -/
namespace GeoFleet

inductive Document where
  | null
  | boolean (b : Bool)
  | integer (n : Int)
  | float (x : Float)
  | text (s : String)
  /-- A date, a time of day, or both. -/
  | instant
  | list (items : List Document)
  | table (entries : List (String × Document))

namespace Document

def find? (key : String) : Document → Option Document
  | table entries => entries.lookup key
  | _ => none

end Document

end GeoFleet
