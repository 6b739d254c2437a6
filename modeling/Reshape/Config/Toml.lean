import Reshape.Text.Hex

/-!
# A settings language

Lines of `key = value` below headers of tables, a subset of TOML with integers, truth values and
one-line strings.  `read` gives the statements of a text, and `Document.ofStatements?` the tree of
tables that they define, unless a key is defined twice or a table is opened twice.
-/

namespace Reshape
namespace Toml

/-- A value. -/
inductive Scalar where
  /-- A truth value. -/
  | bool (b : Bool)
  /-- An integer. -/
  | integer (n : Int)
  /-- A text. -/
  | text (s : String)
deriving DecidableEq, Repr, Inhabited

/-- A line that says something. -/
inductive Statement where
  /-- The header of a table. -/
  | header (path : List String)
  /-- The header of the next table in a list of tables. -/
  | element (path : List String)
  /-- A key with its value. -/
  | assign (path : List String) (value : Scalar)
deriving DecidableEq, Repr, Inhabited

/-! ## Reading a line -/

/-- Spaces and tabs. -/
def isBlank (c : Char) : Bool :=
  c == ' ' || c == '\t'

/-- Drop leading blanks. -/
def skip (cs : List Char) : List Char :=
  cs.dropWhile isBlank

/-- The controls that may stand nowhere in a line. -/
def isControl (c : Char) : Bool :=
  (c.toNat < 32 && c != '\t') || c == '\x7f'

/-- The character with a number given by hexadecimal digits. -/
def numbered? (digits : List Char) : Option Char :=
  (Text.number? 16 digits).bind fun n => if n.isValidChar then some (Char.ofNat n) else none

/-- The characters of a basic string after its opening quote, and what follows the closing one. -/
def basic : List Char → Option (List Char × List Char)
  | [] => none
  | '"' :: rest => some ([], rest)
  | '\\' :: 'u' :: a :: b :: c :: d :: rest =>
    (numbered? [a, b, c, d]).bind fun ch => (basic rest).map fun (cs, r) => (ch :: cs, r)
  | '\\' :: 'U' :: a :: b :: c :: d :: e :: f :: g :: h :: rest =>
    (numbered? [a, b, c, d, e, f, g, h]).bind fun ch => (basic rest).map fun (cs, r) => (ch :: cs, r)
  | '\\' :: 'x' :: a :: b :: rest =>
    (numbered? [a, b]).bind fun ch => (basic rest).map fun (cs, r) => (ch :: cs, r)
  | '\\' :: 'b' :: rest => (basic rest).map fun (cs, r) => ('\x08' :: cs, r)
  | '\\' :: 't' :: rest => (basic rest).map fun (cs, r) => ('\t' :: cs, r)
  | '\\' :: 'n' :: rest => (basic rest).map fun (cs, r) => ('\n' :: cs, r)
  | '\\' :: 'f' :: rest => (basic rest).map fun (cs, r) => ('\x0c' :: cs, r)
  | '\\' :: 'r' :: rest => (basic rest).map fun (cs, r) => ('\r' :: cs, r)
  | '\\' :: 'e' :: rest => (basic rest).map fun (cs, r) => ('\x1b' :: cs, r)
  | '\\' :: '"' :: rest => (basic rest).map fun (cs, r) => ('"' :: cs, r)
  | '\\' :: '\\' :: rest => (basic rest).map fun (cs, r) => ('\\' :: cs, r)
  | '\\' :: _ => none
  | c :: rest => (basic rest).map fun (cs, r) => (c :: cs, r)

/-- The characters of a literal string after its opening quote, and what follows the closing one. -/
def literal : List Char → Option (List Char × List Char)
  | [] => none
  | '\'' :: rest => some ([], rest)
  | c :: rest => (literal rest).map fun (cs, r) => (c :: cs, r)

/-- The characters of keys without quotes. -/
def isBare (c : Char) : Bool :=
  c.isAlphanum || c == '_' || c == '-'

/-- One segment of a key. -/
def segment : List Char → Option (String × List Char)
  | '"' :: rest => (basic rest).map fun (cs, r) => (String.ofList cs, r)
  | '\'' :: rest => (literal rest).map fun (cs, r) => (String.ofList cs, r)
  | cs =>
    let name := cs.takeWhile isBare
    if name.isEmpty then none else some (String.ofList name, cs.dropWhile isBare)

/-- A dotted key of at most `depth` segments, and what follows it. -/
def keyPath : Nat → List Char → Option (List String × List Char)
  | 0, _ => none
  | depth + 1, cs =>
    (segment (skip cs)).bind fun (name, rest) =>
      match skip rest with
      | '.' :: more => (keyPath depth more).map fun (names, r) => (name :: names, r)
      | rest => some ([name], rest)

/-- Digits of a base in which single underscores separate digits, without the underscores. -/
def digits? (base : Nat) : List Char → Option (List Char)
  | [] => none
  | [c] => if (Text.number? base [c]).isSome then some [c] else none
  | c :: '_' :: rest =>
    if (Text.number? base [c]).isSome then (digits? base rest).map (c :: ·) else none
  | c :: rest => if (Text.number? base [c]).isSome then (digits? base rest).map (c :: ·) else none

/-- The number of a written natural number in a base. -/
def natural? (base : Nat) (cs : List Char) : Option Nat :=
  (digits? base cs).bind (Text.number? base)

/-- The number of a written natural number in base ten, which has no leading zero. -/
def decimal? (cs : List Char) : Option Nat :=
  match cs with
  | '0' :: _ :: _ => none
  | cs => natural? 10 cs

/-- The value that a word stands for. -/
def word? (cs : List Char) : Option Scalar :=
  match cs with
  | ['t', 'r', 'u', 'e'] => some (.bool true)
  | ['f', 'a', 'l', 's', 'e'] => some (.bool false)
  | '0' :: 'x' :: rest => (natural? 16 rest).map fun n => .integer n
  | '0' :: 'o' :: rest => (natural? 8 rest).map fun n => .integer n
  | '0' :: 'b' :: rest => (natural? 2 rest).map fun n => .integer n
  | '+' :: rest => (decimal? rest).map fun n => .integer n
  | '-' :: rest => (decimal? rest).map fun n => .integer (-(n : Int))
  | rest => (decimal? rest).map fun n => .integer n

/-- A value, and what follows it. -/
def scalar : List Char → Option (Scalar × List Char)
  | '"' :: rest => (basic rest).map fun (cs, r) => (.text (String.ofList cs), r)
  | '\'' :: rest => (literal rest).map fun (cs, r) => (.text (String.ofList cs), r)
  | cs =>
    let stops (c : Char) : Bool := isBlank c || c == '#'
    (word? (cs.takeWhile fun c => !stops c)).map fun v => (v, cs.dropWhile fun c => !stops c)

/-- Whether nothing follows but blanks and a comment. -/
def isEnd (cs : List Char) : Bool :=
  match skip cs with
  | [] => true
  | c :: _ => c == '#'

/-- What a line says: nothing, a header or an assignment.  Absent if it is malformed. -/
def line (cs : List Char) : Option (List Statement) :=
  if cs.any isControl then none
  else
    match skip cs with
    | [] => some []
    | '#' :: _ => some []
    | '[' :: '[' :: rest =>
      match keyPath (rest.length + 1) rest with
      | some (path, ']' :: ']' :: rest) => if isEnd rest then some [.element path] else none
      | _ => none
    | '[' :: rest =>
      match keyPath (rest.length + 1) rest with
      | some (path, ']' :: rest) => if isEnd rest then some [.header path] else none
      | _ => none
    | cs =>
      match keyPath (cs.length + 1) cs with
      | some (path, '=' :: rest) =>
        match scalar (skip rest) with
        | some (v, rest) => if isEnd rest then some [.assign path v] else none
        | none => none
      | _ => none

/-- A line without the carriage return that may end it. -/
def dropReturn (cs : List Char) : List Char :=
  if cs.getLast? = some '\r' then cs.dropLast else cs

/-- The lines of a text; a carriage return may stand before each line feed. -/
def lines : List Char → List (List Char)
  | cs =>
    let parts := cs.splitOn '\n'
    parts.dropLast.map dropReturn ++ parts.getLast?.toList

/-- A text without the byte order mark that it may begin with. -/
def unmarked : List Char → List Char
  | '\ufeff' :: rest => rest
  | cs => cs

/-- The statements of a text, if every line is well formed. -/
def read (s : String) : Option (List Statement) :=
  ((lines (unmarked s.toList)).mapM line).map List.flatten

/-! ## What statements define -/

/-- How a table came to be. -/
inductive Origin where
  /-- A header named it on the way to another table. -/
  | implied
  /-- It has a header of its own. -/
  | header
  /-- A dotted key named it. -/
  | dotted
deriving DecidableEq, Repr, Inhabited

/-- What a key stands for. -/
inductive Item where
  /-- A value. -/
  | value (v : Scalar)
  /-- A table. -/
  | table (origin : Origin) (entries : List (String × Item))
  /-- The tables of a list, in order. -/
  | tables (all : List (List (String × Item)))
deriving Inhabited

/-- The entries of a table, in the order in which they were made. -/
abbrev Entries := List (String × Item)

namespace Entries

/-- Give a key, which may be new, an item. -/
def put : Entries → String → Item → Entries
  | [], key, item => [(key, item)]
  | (k, old) :: rest, key, item => if k = key then (k, item) :: rest else (k, old) :: put rest key item

/-- Whether a path that makes tables of one origin may enter a table of another.  A dotted key neither
enters a table that has a header nor adds to one that a header implied. -/
def mayEnter (made met : Origin) (isLast : Bool) : Bool :=
  made != .dotted || (met != .header && !(isLast && met == .implied))

/-- Change the table at a path, making the tables on the way.  In a list of tables the path goes on in
the last one. -/
def changeAt (made : Origin) (change : Entries → Option Entries) :
    List String → Entries → Option Entries
  | [], entries => change entries
  | key :: path, entries =>
    match entries.lookup key with
    | none => (changeAt made change path []).map fun e => entries.put key (.table made e)
    | some (.value _) => none
    | some (.table met inner) =>
      if mayEnter made met path.isEmpty then
        (changeAt made change path inner).map fun e => entries.put key (.table met e)
      else none
    | some (.tables all) =>
      if made = .dotted ∧ path = [] then none
      else
        all.getLast?.bind fun inner =>
          (changeAt made change path inner).map fun e => entries.put key (.tables (all.dropLast ++ [e]))

/-- Open a table: a new one, or one that a header implied. -/
def openTable (key : String) (entries : Entries) : Option Entries :=
  match entries.lookup key with
  | none => some (entries.put key (.table .header []))
  | some (.table .implied inner) => some (entries.put key (.table .header inner))
  | _ => none

/-- Open the next table of a list. -/
def openElement (key : String) (entries : Entries) : Option Entries :=
  match entries.lookup key with
  | none => some (entries.put key (.tables [[]]))
  | some (.tables all) => some (entries.put key (.tables (all ++ [[]])))
  | _ => none

/-- Give a new key a value. -/
def assign (key : String) (value : Scalar) (entries : Entries) : Option Entries :=
  if (entries.lookup key).isSome then none else some (entries.put key (.value value))

end Entries

/-- What statements define so far. -/
structure Document where
  /-- The table whose header came last. -/
  current : List String
  /-- The entries of the whole text. -/
  root : Entries
deriving Inhabited

namespace Document

/-- Nothing defined. -/
def empty : Document := ⟨[], []⟩

/-- Change the table that holds the last key of a path by means of that key. -/
def changeHolder (made : Origin) (change : String → Entries → Option Entries) (path : List String)
    (entries : Entries) : Option Entries :=
  path.getLast?.bind fun key => entries.changeAt made (change key) path.dropLast

/-- Add a statement, unless it defines something again. -/
def add? (d : Document) : Statement → Option Document
  | .header path => (changeHolder .implied Entries.openTable path d.root).map fun root => ⟨path, root⟩
  | .element path =>
    (changeHolder .implied Entries.openElement path d.root).map fun root => ⟨path, root⟩
  | .assign path value =>
    (d.root.changeAt .implied (changeHolder .dotted (Entries.assign · value) path) d.current).map
      fun root => { d with root }

/-- What statements define. -/
def ofStatements? (statements : List Statement) : Option Document :=
  statements.foldlM add? empty

end Document
end Toml
end Reshape
