import GeoFleet.Json.Reading

/-! The answer of a Prometheus server to an instant query. Anything else than a successful vector or
scalar result has no value. A record may be written as a table or as the list of its values; in a
table unknown entries are skipped unread, but no known entry may come twice. -/
namespace GeoFleet.Prometheus

open GeoFleet.Json (Tree)

/-- The entries of a table by key; every key must be readable. -/
def keyed? (entries : List (List Json.Piece × Tree)) : Option (List (String × Tree)) :=
  entries.mapM fun (key, t) => (Json.contents? key).map (·, t)

/-- The entry under a key: none when it is missing, and no answer when it comes twice. -/
def entry? (entries : List (String × Tree)) (key : String) : Option (Option Tree) :=
  match entries.filter (·.1 = key) with
  | [] => some none
  | [(_, t)] => some (some t)
  | _ => none

/-- The two values of a record: of a table under two keys, or of a list of two. -/
def pair? (first second : String) : Tree → Option (Option Tree × Option Tree)
  | .table entries => do
    let entries ← keyed? entries
    return (← entry? entries first, ← entry? entries second)
  | .list [a, b] => some (some a, some b)
  | _ => none

def text? : Tree → Option String
  | .text pieces => Json.contents? pieces
  | _ => none

structure Result where
  type : String
  value : Document

/-- Two levels of nesting are taken by the records around a result. -/
def resultDepth : Nat := Json.depthLimit - 2

def result? (t : Tree) : Option Result := do
  let (type, value) ← pair? "resultType" "result" t
  return ⟨← text? (← type), ← Tree.value? resultDepth (← value)⟩

def response? (t : Tree) : Option (String × Option Result) := do
  let (status, data) ← pair? "status" "data" t
  let status ← text? (← status)
  match data with
  | none | some .null => return (status, none)
  | some d => return (status, some (← result? d))

/-- A time with a value, which is written as a text. -/
def sample? : Document → Option String
  | .list [.integer _, .text s] | .list [.float _, .text s] => some s
  | _ => none

def element? : Document → Option String
  | .table entries => (entries.lookup "value").bind sample?
  | .list [d] => sample? d
  | _ => none

/-- The written value of a result: of a vector the first, if all its elements are well formed. -/
def Result.written? (r : Result) : Option String :=
  if r.type = "vector" then
    match r.value with
    | .list ds => (ds.mapM element?).bind (·.head?)
    | _ => none
  else if r.type = "scalar" then sample? r.value
  else none

/-- The value of a response, if it has one that is finite. -/
def value? (body : List UInt8) : Option Float := do
  let (status, result) ← response? (← Tree.ofBytes? body)
  if status ≠ "success" then none
  else
    let x ← Decimal.number? (← (← result).written?).toList
    if x.isFinite then some x else none

end GeoFleet.Prometheus
