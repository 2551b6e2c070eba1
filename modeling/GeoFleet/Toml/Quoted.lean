import GeoFleet.Text.Hex

/-! Strings of a TOML text, as read and as written. There are four forms: basic strings have escapes
and literal strings have none, and either may go over several lines between three quotes. A text is
written in the first form, in a fixed order, that shows it best. -/
namespace GeoFleet.Toml

/-- Characters that a string or a comment may hold as they are: no control but the tab. -/
def isInk (c : Char) : Bool := c = '\t' || (decide (' ' ≤ c) && c != '\x7f')

/-- Takes a line end off the front; a carriage return counts only before a line feed. -/
def newline? : List Char → Option (List Char)
  | '\n' :: r => some r
  | '\r' :: '\n' :: r => some r
  | _ => none

def scalar? (count : Nat) (s : List Char) : Option (Char × List Char) := do
  let ds := s.take count
  let c ← Text.Hex.character? (← Text.Hex.value? ds)
  if ds.length = count then some (c, s.drop count) else none

def escape? : List Char → Option (Char × List Char)
  | 'b' :: r => some ('\x08', r)
  | 't' :: r => some ('\t', r)
  | 'n' :: r => some ('\n', r)
  | 'f' :: r => some ('\x0c', r)
  | 'r' :: r => some ('\r', r)
  | '"' :: r => some ('"', r)
  | '\\' :: r => some ('\\', r)
  | 'u' :: r => scalar? 4 r
  | 'U' :: r => scalar? 8 r
  | _ => none

def basic? : Nat → List Char → Option (List Char × List Char)
  | 0, _ => none
  | _ + 1, [] => none
  | _ + 1, '"' :: r => some ([], r)
  | fuel + 1, '\\' :: r => do
    let (c, r) ← escape? r
    let (cs, r) ← basic? fuel r
    return (c :: cs, r)
  | fuel + 1, c :: r =>
    if isInk c then (basic? fuel r).map fun (cs, r) => (c :: cs, r) else none

def literal? : List Char → Option (List Char × List Char)
  | [] => none
  | '\'' :: r => some ([], r)
  | c :: r => if isInk c then (literal? r).map fun (cs, r) => (c :: cs, r) else none

/-- The rest of a text after a backslash at the end of a line: blanks up to the line end, and then
all blanks and line ends that follow. -/
def continuation? (r : List Char) : Option (List Char) :=
  (newline? (r.dropWhile fun c => c = ' ' || c = '\t')).map skip
where
  skip : List Char → List Char
    | ' ' :: r => skip r
    | '\t' :: r => skip r
    | '\n' :: r => skip r
    | '\r' :: '\n' :: r => skip r
    | r => r

/-- Quotes at the front of a string over several lines: how many belong to the string, and whether
the string ends after them. Three quotes end it, and up to two more before them belong to it. -/
def quoteRun (length : Nat) : Option (Nat × Bool) :=
  if length < 3 then some (length, false)
  else if length ≤ 5 then some (length - 3, true)
  else none

/-- The body of a string over several lines up to its end, with at most `fuel` characters. Line
ends are read as line feeds. -/
def lines? (quote : Char) (escapes : Bool) : Nat → List Char → Option (List Char × List Char)
  | 0, _ => none
  | _ + 1, [] => none
  | fuel + 1, c :: r =>
    if c = quote then do
      let run := (c :: r).takeWhile (· = quote)
      let rest := (c :: r).dropWhile (· = quote)
      let (inside, ends) ← quoteRun run.length
      if ends then some (List.replicate inside quote, rest)
      else (lines? quote escapes fuel rest).map fun (cs, r) => (List.replicate inside quote ++ cs, r)
    else match newline? (c :: r) with
      | some r => (lines? quote escapes fuel r).map fun (cs, r) => ('\n' :: cs, r)
      | none =>
        if c = '\\' ∧ escapes then
          match continuation? r with
          | some r => lines? quote escapes fuel r
          | none => do
            let (c, r) ← escape? r
            let (cs, r) ← lines? quote escapes fuel r
            return (c :: cs, r)
        else if isInk c then (lines? quote escapes fuel r).map fun (cs, r) => (c :: cs, r)
        else none

/-- A line end right after the opening quotes is not part of the string. -/
def dropNewline (r : List Char) : List Char := (newline? r).getD r

def string? : List Char → Option (List Char × List Char)
  | '"' :: '"' :: '"' :: r => lines? '"' true (r.length + 1) (dropNewline r)
  | '\'' :: '\'' :: '\'' :: r => lines? '\'' false (r.length + 1) (dropNewline r)
  | '"' :: r => basic? (r.length + 1) r
  | '\'' :: r => literal? r
  | _ => none

def longestRun (c : Char) (cs : List Char) : Nat :=
  (cs.foldl (fun (run, longest) d => if d = c then (run + 1, max longest (run + 1)) else (0, longest))
    (0, 0)).2

/-- Control characters that no form holds as they are; tabs and line feeds are not among them. -/
def needsEscape (c : Char) : Bool := (decide (c < ' ') && c != '\t' && c != '\n') || c = '\x7f'

inductive Form where
  | basic | literal | basicLines | literalLines
  deriving DecidableEq, Repr

/-- The form in which a text is written: without escapes if there is such a form, basic before
literal, and one line before several. -/
def Form.of (cs : List Char) : Form :=
  let escapes := cs.any needsEscape
  let backslash := cs.contains '\\'
  let lines := cs.contains '\n'
  let doubles := longestRun '"' cs
  let singles := longestRun '\'' cs
  if ¬escapes ∧ ¬backslash ∧ doubles = 0 ∧ ¬lines then .basic
  else if ¬escapes ∧ singles = 0 ∧ ¬lines then .literal
  else if ¬escapes ∧ ¬backslash ∧ doubles ≤ 2 then .basicLines
  else if ¬escapes ∧ singles ≤ 2 then .literalLines
  else if lines then .basicLines
  else .basic

/-- The text of a basic string between its quotes. As many quotes as `quotesKept` may stand in a
row; the next one is escaped and a new row begins. -/
def escaped (quotesKept : Nat) (linesKept : Bool) : Nat → List Char → List Char
  | _, [] => []
  | run, c :: r =>
    if c = '"' then
      if run < quotesKept then c :: escaped quotesKept linesKept (run + 1) r
      else '\\' :: '"' :: escaped quotesKept linesKept 0 r
    else
      (if c = '\x08' then ['\\', 'b']
      else if c = '\t' then ['\\', 't']
      else if c = '\n' then (if linesKept then ['\n'] else ['\\', 'n'])
      else if c = '\x0c' then ['\\', 'f']
      else if c = '\r' then ['\\', 'r']
      else if c = '\\' then ['\\', '\\']
      else if needsEscape c then '\\' :: 'u' :: Text.Hex.upper 4 c.toNat
      else [c]) ++ escaped quotesKept linesKept 0 r

/-- The text of a string. Over several lines it starts on a line of its own. -/
def quoted (s : String) : String :=
  let cs := s.toList
  let lead := if cs.contains '\n' then ['\n'] else []
  String.ofList <| match Form.of cs with
    | .basic => ['"'] ++ escaped 0 false 0 cs ++ ['"']
    | .literal => ['\''] ++ cs ++ ['\'']
    | .basicLines => ['"', '"', '"'] ++ lead ++ escaped 2 true 0 cs ++ ['"', '"', '"']
    | .literalLines => ['\'', '\'', '\''] ++ lead ++ cs ++ ['\'', '\'', '\'']

end GeoFleet.Toml
