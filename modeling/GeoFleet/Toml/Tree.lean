import GeoFleet.Document

/-! The table that a TOML text builds up. Headers and dotted keys open tables on their way; how a
table came to be decides who may still add to it. A table opened by a header is closed to dotted
keys, a table opened by a dotted key takes no header of its own, and no key is set twice. -/
namespace GeoFleet.Toml

/-- How a table came to be: through its own header, on the way to another header, or through a
dotted key. -/
inductive Origin where
  | header | passage | dottedKey
  deriving DecidableEq, Repr

mutual

inductive Node where
  | value (d : Document)
  | table (t : Table)
  | array (items : List Table)

inductive Table where
  | mk (origin : Origin) (entries : List (String × Node))

end

namespace Table

def origin : Table → Origin
  | mk o _ => o

def entries : Table → List (String × Node)
  | mk _ es => es

def empty (o : Origin) : Table := mk o []

def get? (t : Table) (key : String) : Option Node := t.entries.lookup key

/-- Sets the node under a key, in its old place or at the end. -/
def set (t : Table) (key : String) (n : Node) : Table :=
  if (t.get? key).isSome then
    mk t.origin (t.entries.map fun e => if e.1 = key then (key, n) else e)
  else mk t.origin (t.entries ++ [(key, n)])

/-- Follows a path of keys and changes the table at its end. Missing tables are opened; the last
item stands for an array of tables; a value blocks the way. A dotted key may only pass tables that
have no header. -/
def change? (passing : Origin) (f : Table → Option Table) : List String → Table → Option Table
  | [], t => f t
  | key :: path, t =>
    match t.get? key with
    | none => (change? passing f path (empty passing)).map fun u => t.set key (.table u)
    | some (.table u) =>
      if passing = .dottedKey ∧ u.origin = .header then none
      else (change? passing f path u).map fun u => t.set key (.table u)
    | some (.array items) =>
      match items.getLast? with
      | some u => (change? passing f path u).map fun u => t.set key (.array (items.dropLast ++ [u]))
      | none => none
    | some (.value _) => none

def add? (key : String) (n : Node) (t : Table) : Option Table :=
  if (t.get? key).isSome then none else some (t.set key n)

/-- Sets a dotted key. The table at the end of the path must have been opened by dotted keys. -/
def assign? (t : Table) (path : List String) (key : String) (d : Document) : Option Table :=
  t.change? .dottedKey (fun u =>
    if path ≠ [] ∧ u.origin ≠ .dottedKey then none else u.add? key (.value d)) path

/-- Opens a table under its own header. A table that other headers passed through keeps what it
has. -/
def openTable? (t : Table) (path : List String) (key : String) : Option Table :=
  t.change? .passage (fun u =>
    match u.get? key with
    | none => some (u.set key (.table (empty .header)))
    | some (.table v) =>
      if v.origin = .passage then some (u.set key (.table (mk .header v.entries))) else none
    | _ => none) path

def openItem? (t : Table) (path : List String) (key : String) : Option Table :=
  t.change? .passage (fun u =>
    match u.get? key with
    | none => some (u.set key (.array [empty .header]))
    | some (.array items) => some (u.set key (.array (items ++ [empty .header])))
    | _ => none) path

def changeSection? (f : Table → Option Table) (section' : List String) (t : Table) : Option Table :=
  t.change? .passage f section'

end Table

mutual

def Node.document : Node → Document
  | .value d => d
  | .table t => t.document
  | .array items => .list (itemDocuments items)

def itemDocuments : List Table → List Document
  | [] => []
  | t :: r => t.document :: itemDocuments r

def Table.document : Table → Document
  | .mk _ es => .table (entryDocuments es)

def entryDocuments : List (String × Node) → List (String × Document)
  | [] => []
  | (key, n) :: r => (key, n.document) :: entryDocuments r

end

/-- A line of a text that says something: a header, of a table or of one more item of an array, or
a key with its value. The last key of a path is kept apart. -/
inductive Statement where
  | table (path : List String) (key : String)
  | item (path : List String) (key : String)
  | entry (path : List String) (key : String) (d : Document)

/-- The table built so far, and the path of the section that entries go to. -/
structure Draft where
  root : Table
  current : List String

def Draft.start : Draft := ⟨.empty .header, []⟩

def Draft.add? (d : Draft) : Statement → Option Draft
  | .table path key => (d.root.openTable? path key).map fun t => ⟨t, path ++ [key]⟩
  | .item path key => (d.root.openItem? path key).map fun t => ⟨t, path ++ [key]⟩
  | .entry path key v =>
    (d.root.changeSection? (·.assign? path key v) d.current).map fun t => { d with root := t }

def build? (ss : List Statement) : Option Document :=
  (ss.foldlM Draft.add? Draft.start).map (·.root.document)

/-- The table of an inline form, in which all keys are dotted or plain. -/
def inline? (es : List (List String × String × Document)) : Option Document :=
  (es.foldlM (fun t (path, key, d) => Table.assign? t path key d) (Table.empty .header)).map
    Table.document

end GeoFleet.Toml
