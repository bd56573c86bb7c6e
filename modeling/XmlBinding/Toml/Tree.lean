import XmlBinding.Toml.Value

/-!
# Tables under construction

While a document is read, each table remembers how it came about, for this decides what may still be
added to it.

* `Tree.set path key v` : adds a value under a dotted key;
* `Tree.openTable path`, `Tree.openRow path` : what the headers `[path]` and `[[path]]` do;
* `Tree.within path f` : changes the table that a header has opened;
* `Tree.freeze` : the finished table.
-/

namespace XmlBinding.Toml

/-- How a table came about: named on the way to a longer header, by its own header, or by a dotted
key. -/
inductive Origin where
  | implied
  | header
  | dotted
  deriving DecidableEq, Repr

/-- An entry of a table under construction. Values are closed; of an array of tables the last row is
open. -/
inductive Item where
  | value (v : Value)
  | table (origin : Origin) (entries : List (String × Item))
  | rows (rows : List (List (String × Item)))

/-- The entries of a table under construction. -/
abbrev Tree := List (String × Item)

namespace Tree

/-- Changes or adds the entry of a key. -/
def alter (key : String) (f : Option Item → Except Fault Item) : Tree → Except Fault Tree
  | [] => (f none).map fun item => [(key, item)]
  | (k, item) :: rest =>
    if k = key then (f (some item)).map fun item => (k, item) :: rest
    else (alter key f rest).map ((k, item) :: ·)

/-- Changes the last row of an array of tables. -/
def inLastRow (f : Tree → Except Fault Tree) (rows : List Tree) : Except Fault Item :=
  (f (rows.getLastD [])).map fun row => .rows (rows.dropLast ++ [row])

/-- Adds a value under the dotted key `path ++ [key]`. Only tables that dotted keys have made take
further entries by dotted keys. -/
def set (v : Value) (key : String) : List String → Tree → Except Fault Tree
  | [], tree =>
    tree.alter key fun
      | none => .ok (.value v)
      | some _ => .error (.duplicateKey key)
  | k :: path, tree =>
    tree.alter k fun
      | none => (set v key path []).map (.table .dotted)
      | some (.table origin entries) =>
        if origin = .header ∨ (path.isEmpty ∧ origin ≠ .dotted) then .error (.duplicateKey k)
        else (set v key path entries).map (.table origin)
      | some (.rows rows) =>
        if path.isEmpty then .error (.duplicateKey k) else inLastRow (set v key path) rows
      | some (.value _) => .error (.notExtensible k)

/-- Goes to the end of a header's path, making the tables on the way, and changes the last entry. -/
def atHeader (f : Option Item → Except Fault Item) : List String → Tree → Except Fault Tree
  | [], tree => .ok tree
  | [k], tree => tree.alter k f
  | k :: path, tree =>
    tree.alter k fun
      | none => (atHeader f path []).map (.table .implied)
      | some (.table origin entries) => (atHeader f path entries).map (.table origin)
      | some (.rows rows) => inLastRow (atHeader f path) rows
      | some (.value _) => .error (.notExtensible k)

/-- The header `[path]`: a table may have one header, and none once a dotted key has made it. -/
def openTable (path : List String) (tree : Tree) : Except Fault Tree :=
  tree.atHeader (fun
    | none => .ok (.table .header [])
    | some (.table .implied entries) => .ok (.table .header entries)
    | some _ => .error (.duplicateKey (path.getLastD ""))) path

/-- The header `[[path]]`: a new row of an array of tables. -/
def openRow (path : List String) (tree : Tree) : Except Fault Tree :=
  tree.atHeader (fun
    | none => .ok (.rows [[]])
    | some (.rows rows) => .ok (.rows (rows ++ [[]]))
    | some _ => .error (.duplicateKey (path.getLastD ""))) path

/-- Changes the table that the header `path` has opened. -/
def within (f : Tree → Except Fault Tree) : List String → Tree → Except Fault Tree
  | [], tree => f tree
  | k :: path, tree =>
    tree.alter k fun
      | some (.table origin entries) => (within f path entries).map (.table origin)
      | some (.rows rows) => inLastRow (within f path) rows
      | _ => .error (.notExtensible k)

end Tree

mutual

/-- The finished value of an entry. -/
def Item.freeze : Item → Value
  | .value v => v
  | .table _ entries => .table (Tree.freeze entries)
  | .rows rows => .array (Tree.freezeRows rows)

/-- The finished entries of a table. -/
def Tree.freeze : List (String × Item) → List (String × Value)
  | [] => []
  | (key, item) :: rest => (key, item.freeze) :: Tree.freeze rest

/-- The finished rows of an array of tables. -/
def Tree.freezeRows : List (List (String × Item)) → List Value
  | [] => []
  | row :: rest => .table (Tree.freeze row) :: Tree.freezeRows rest

end

end XmlBinding.Toml
