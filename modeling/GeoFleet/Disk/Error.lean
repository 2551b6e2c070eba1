/-! Why a file cannot be reached, read or written, and how it is told. -/
namespace GeoFleet

inductive FileError where
  | missing
  | occupied
  | notFolder
  | isFolder
  | nameTooLong
  | notText
  | damaged
  deriving DecidableEq, Repr

def FileError.message : FileError → String
  | .missing => "No such file or directory (os error 2)"
  | .occupied => "File exists (os error 17)"
  | .notFolder => "Not a directory (os error 20)"
  | .isFolder => "Is a directory (os error 21)"
  | .nameTooLong => "File name too long (os error 36)"
  | .notText => "stream did not contain valid UTF-8"
  | .damaged => "invalid data"

end GeoFleet
