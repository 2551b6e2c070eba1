/-! Lines of a text. A line ends with a line feed, and with the carriage return before it if there is
one. -/
namespace GeoFleet.Text

def dropReturn (line : String) : String :=
  match line.toList.reverse with
  | '\r' :: cs => String.ofList cs.reverse
  | _ => line

/-- The lines that a text fills when it is printed with a line feed after it. -/
def printedLines (s : String) : List String := (s.splitOn "\n").map dropReturn

end GeoFleet.Text
