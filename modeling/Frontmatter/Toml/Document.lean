/-
Frontmatter/Toml/Document.lean

A TOML document: its lines, and the tables they make.

A header opens a table, and the key-value lines after it fill the table.  A
header makes the tables on its way; such a table can still be opened, once, by
a header of its own.  A dotted key makes tables as well; they can be extended
by dotted keys and by headers that lead through them.  A header in double
brackets adds a table to an array, and its last table is meant wherever a path
leads through the array.
-/
import Frontmatter.Toml.Value

namespace Frontmatter.Toml

open Frontmatter.Toml.Parser

/-! ### Tables that are being made -/

/-- How a table came about: by a header of its own, on the way of a header, or
on the way of a dotted key. -/
inductive Origin where
  | header | implied | dotted
deriving DecidableEq, Inhabited

inductive Item where
  | value (v : Value)
  | table (origin : Origin) (items : List (String × Item))
  | tables (earlier : List (List (String × Item))) (last : List (String × Item))
deriving Inhabited

abbrev Items := List (String × Item)

/-- Changes the table at the end of a path, making the tables on the way that
are missing.  `before` are the keys that were followed. -/
def updateAt (byDottedKey : Bool) (change : Origin → Items → Except Fault Items) :
    (path before : List String) → Origin → Items → Except Fault Items
  | [], _, origin, items => change origin items
  | k :: path, before, _, items => do
    match fieldOf? k items with
    | none =>
      let origin := if byDottedKey then .dotted else .implied
      return putField k (.table origin
        (← updateAt byDottedKey change path (before ++ [k]) origin [])) items
    | some (.value v) => .error (.noTable (before ++ [k]) v.typeName)
    | some (.tables earlier last) =>
      return putField k (.tables earlier
        (← updateAt byDottedKey change path (before ++ [k]) .header last)) items
    | some (.table origin inner) =>
      if byDottedKey && origin = .header then .error (.duplicateKey k none)
      else
        return putField k (.table origin
          (← updateAt byDottedKey change path (before ++ [k]) origin inner)) items

/-- Adds a value to the open table. -/
def addPair (openPath : List String) (k : KeyPath) (v : Value) (items : Items) :
    Except Fault Items :=
  updateAt true
    (fun origin items =>
      if k.leading ≠ [] && origin ≠ .dotted then .error (.duplicateKey k.last none)
      else
        match fieldOf? k.last items with
        | none => .ok (putField k.last (.value v) items)
        | some _ => .error (.duplicateKey k.last (some openPath)))
    k.leading [] .header items

/-- The document as far as it was read: the tables that are closed, and the table
that is open, with the path its header gave. -/
structure State where
  root : Items
  /-- The open table is a new one of an array. -/
  inArray : Bool
  path : Option KeyPath
  items : Items

namespace State

def start : State := ⟨[], false, none, []⟩

/-- The path of the open table as a list. -/
def pathList (s : State) : List String :=
  match s.path with
  | none => []
  | some p => p.leading ++ [p.last]

/-- Closes the open table: puts it at its place in the root. -/
def close (s : State) : Except Fault Items :=
  match s.path with
  | none => .ok s.items
  | some p =>
    updateAt false
      (fun _ items =>
        if s.inArray then
          match fieldOf? p.last items with
          | some (.tables earlier last) =>
            .ok (putField p.last (.tables (earlier ++ [last]) s.items) items)
          | _ => .ok (putField p.last (.tables [] s.items) items)
        else .ok (putField p.last (.table .header s.items) items))
      p.leading [] .header s.root

/-- What is at a path, if there is anything. -/
def find? : (leading : List String) → (last : String) → Items → Option Item
  | [], last, items => fieldOf? last items
  | k :: leading, last, items =>
    match fieldOf? k items with
    | some (.table _ inner) => find? leading last inner
    | some (.tables _ inner) => find? leading last inner
    | _ => none

/-- A path that leads through tables only, whether or not they exist. -/
def checkPath (p : KeyPath) (root : Items) : Except Fault Unit := do
  let _ ← updateAt false (fun _ items => .ok items) p.leading [] .header root

/-- The fault of a header for what exists already. -/
def twice (p : KeyPath) : Fault := .duplicateKey p.last (some p.leading)

/-- Opens a table. -/
def openTable (s : State) (p : KeyPath) : Except Fault State := do
  let root ← s.close
  checkPath p root
  match find? p.leading p.last root with
  | none => return ⟨root, false, some p, []⟩
  | some (.table .implied items) => return ⟨root, false, some p, items⟩
  | some _ => .error (twice p)

/-- Opens a new table of an array. -/
def openArrayTable (s : State) (p : KeyPath) : Except Fault State := do
  let root ← s.close
  checkPath p root
  match find? p.leading p.last root with
  | none | some (.tables _ _) => return ⟨root, true, some p, []⟩
  | some _ => .error (twice p)

/-- Adds a value to the open table. -/
def add (s : State) (k : KeyPath) (v : Value) : Except Fault State := do
  let items ← addPair s.pathList k v s.items
  return { s with items }

end State

/-! ### Lines -/

def expectingLineEnd {α : Type} (p : Parser α) : Parser α :=
  expecting (.literal "#") (expecting .newline p)

/-- A line with a key and a value. -/
def pairLine (s : State) : Parser State :=
  check
    (do
      let k ← key
      must do
        equalSign
        let _ ← blanks
        let v ← value
        expectingLineEnd restOfLine
        return (k, v))
    fun (k, v) => s.add k v

/-- A header between brackets. -/
def header (opening closing : List Char) : Parser KeyPath := do
  literal opening
  let k ← must key
  expecting (.literal (String.ofList closing)) (expecting (.literal ".") (must (literal closing)))
  expectingLineEnd (must restOfLine)
  return k

/-- A line that opens a table. -/
def headerLine (s : State) : Parser State :=
  named .tableHeader fun cs =>
    match cs with
    | '[' :: '[' :: _ => check (header ['[', '['] [']', ']']) s.openArrayTable cs
    | _ :: _ :: _ => check (header ['['] [']']) s.openTable cs
    | _ => fail cs

/-- One line, or the end of a line. -/
def line (s : State) : Parser State := fun cs =>
  match cs with
  | [] => fail cs
  | c :: _ =>
    if c = '#' then must (do comment; lineEnd; return s) cs
    else if c = '[' then must (headerLine s) cs
    else if c = '\n' || c = '\r' then (do newline; return s) cs
    else must (pairLine s) cs

/-- Lines as long as there are any. -/
def linesFrom : Nat → State → Parser State
  | 0, s => Parser.pure s
  | fuel + 1, s => fun cs =>
    match (do let s ← line s; let _ ← blanks; return s : Parser State) cs with
    | .done s rest => linesFrom fuel s rest
    | .failed false _ _ => .done s cs
    | .failed true why rest => .failed true why rest

/-- A whole text; a byte order mark may stand before it. -/
def document : Parser State := do
  let _ ← optional (char '\ufeff')
  let _ ← blanks
  let s ← fun cs => linesFrom (cs.length + 1) State.start cs
  atEnd
  return s

/-! ### The value of a document -/

mutual

def Item.toValue : Item → Value
  | .value v => v
  | .table _ items => .table (itemsToValues items)
  | .tables earlier last => .array (tablesToValues earlier ++ [.table (itemsToValues last)])

def itemsToValues : List (String × Item) → List (String × Value)
  | [] => []
  | (k, i) :: rest => (k, i.toValue) :: itemsToValues rest

def tablesToValues : List (List (String × Item)) → List Value
  | [] => []
  | t :: rest => .table (itemsToValues t) :: tablesToValues rest

end

/-- Why a text is no document, and at which byte of it. -/
structure Failure where
  why : Complaint
  offset : Nat
deriving DecidableEq, Inhabited

/-- The fields of a text. -/
def parse (text : List Char) : Except Failure (List (String × Value)) :=
  match document text with
  | .failed _ why rest => .error ⟨why, byteLength text - byteLength rest⟩
  | .done s _ =>
    match s.close with
    | .ok root => .ok (itemsToValues root)
    | .error fault => .error ⟨.ofFault fault, 0⟩

end Frontmatter.Toml
