/-! A text as its lines: the pieces between newline characters. A text always has a line, and
joining the lines with newlines gives the text back. -/

namespace SlideDeck.Text

def lines (s : String) : List String := (s.toList.splitOn '\n').map String.ofList

def joinLines (ls : List String) : String := "\n".intercalate ls

def groups (p : String → Bool) (ls : List String) : List (List String) := ls.splitOnP p

def dropReturn (line : String) : String :=
  if line.toList.getLast? = some '\r' then .ofList line.toList.dropLast else line

/-- Of the pieces between newlines those that are lines when every line has an end: a newline,
with the carriage return in front of it. Behind the last end only text makes a line. -/
def endedPieces : List String → List String
  | [] => []
  | [last] => if last.isEmpty then [] else [last]
  | l :: m :: ls => dropReturn l :: endedPieces (m :: ls)

def endedLines (s : String) : List String := endedPieces (lines s)

end SlideDeck.Text
