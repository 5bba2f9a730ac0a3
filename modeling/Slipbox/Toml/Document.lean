import Slipbox.Toml.Quoting
import Slipbox.Toml.Scalar

/-!
# Configuration files

A file is a sequence of lines. A line assigns a value to a key or opens a table or
the next item of an array of tables; blank lines and comments say nothing. `read?`
accepts a file if each line is well formed and no line breaks the rules of tables.

Arrays and inline tables may go over several lines, with comments between their
items and a comma after the last one.
-/

namespace Slipbox.Toml

/-! ### Between the tokens -/

def isBlank (c : Char) : Bool := c == ' ' || c == '\t'

def skipBlanks (s : Text) : Text := s.dropWhile isBlank

/-- What follows blanks, line ends and comments; `inComment` tells whether a comment has
begun. -/
def gap (inComment : Bool) : Text → Option Text
  | [] => some []
  | '\n' :: s => gap false s
  | '\r' :: '\n' :: s => gap false s
  | c :: s =>
    if inComment then if isTextual c then gap true s else none
    else if isBlank c then gap false s
    else if c = '#' then gap true s
    else some (c :: s)

/-- What follows the end of a line, before which only blanks and a comment may stand. -/
def lineEnd (inComment : Bool) : Text → Option Text
  | [] => some []
  | '\n' :: s => some s
  | '\r' :: '\n' :: s => some s
  | c :: s =>
    if inComment then if isTextual c then lineEnd true s else none
    else if isBlank c then lineEnd false s
    else if c = '#' then lineEnd true s
    else none

/-! ### Keys -/

def isBareChar (c : Char) : Bool := c.isAlphanum || c == '_' || c == '-'

/-- One name of a key, bare or quoted. -/
def readName (s : Text) : Option (Text × Text) :=
  let bare := s.takeWhile isBareChar
  if bare.isEmpty then Quoting.readLine s else some (bare, s.dropWhile isBareChar)

/-- The names of a key, between dots, and what follows the blanks after it. -/
def readNames (s : Text) : Option (List Text × Text) :=
  match readName s with
  | none => none
  | some (name, rest) =>
    match skipBlanks rest with
    | '.' :: more =>
      let after := skipBlanks more
      if after.length < s.length then
        (readNames after).map fun (names, rest) => (name :: names, rest)
      else none
    | after => some ([name], after)
termination_by s.length

/-- The deepest nesting of values, and the most names of a key before its last. -/
def maxDepth : Nat := 80

/-- A key. -/
def readKey (s : Text) : Option (Key × Text) :=
  (readNames s).bind fun (names, rest) =>
    match names.getLast? with
    | some name => if names.length ≤ maxDepth then some (⟨names.dropLast, name⟩, rest) else none
    | none => none

/-! ### Values -/

/-- Items between commas up to a closing character. -/
def readItems {α : Type} (item : Text → Option (α × Text)) (closing : Char) (s : Text) :
    Option (List α × Text) :=
  match gap false s with
  | none => none
  | some [] => none
  | some (c :: s₁) =>
    if c = closing then some ([], s₁)
    else
      match item (c :: s₁) with
      | none => none
      | some (a, s₂) =>
        match gap false s₂ with
        | none => none
        | some [] => none
        | some (d :: s₃) =>
          if d = closing then some ([a], s₃)
          else if d = ',' ∧ s₃.length < s.length then
            (readItems item closing s₃).map fun (as, rest) => (a :: as, rest)
          else none
termination_by s.length

/-- A key, the equals sign and a value. -/
def readPair (value : Text → Option (Value × Text)) (s : Text) :
    Option ((Key × Value) × Text) := do
  let (key, s) ← readKey s
  let s ← Text.dropLead? ['='] s
  let (v, s) ← value (skipBlanks s)
  return ((key, v), s)

/-- The table that inline pairs give. -/
def inlineTable (pairs : List (Key × Value)) : Option Table :=
  pairs.foldlM (fun t (key, v) => t.assign key v .inline) []

/-- A value with at most `depth` levels of arrays and inline tables. -/
def readValue : Nat → Text → Option (Value × Text)
  | _, [] => none
  | depth, c :: s =>
    if c = '"' ∨ c = '\'' then (Quoting.read (c :: s)).map fun (t, rest) => (.text t, rest)
    else if c = '[' then
      match depth with
      | 0 => none
      | depth + 1 =>
        (readItems (readValue depth) ']' s).map fun (items, rest) => (.array false items, rest)
    else if c = '\x7b' then
      match depth with
      | 0 => none
      | depth + 1 =>
        (readItems (readPair (readValue depth)) '\x7d' s).bind fun (pairs, rest) =>
          (inlineTable pairs).map fun t => (.table .inline t, rest)
    else Scalar.read (c :: s)

/-! ### Lines -/

/-- What a line says. -/
inductive Statement where
  | assign (key : Key) (v : Value)
  | openTable (key : Key)
  | openItem (key : Key)

/-- What a line says, if anything, and what follows on it. -/
def readStatement (s : Text) : Option (Option Statement × Text) :=
  match Text.dropLead? ['[', '['] s with
  | some s => do
    let (key, s) ← readKey (skipBlanks s)
    let s ← Text.dropLead? [']', ']'] s
    return (some (.openItem key), s)
  | none =>
    match s with
    | [] => some (none, [])
    | c :: rest =>
      if c = '[' then do
        let (key, s) ← readKey (skipBlanks rest)
        let s ← Text.dropLead? [']'] s
        return (some (.openTable key), s)
      else if c = '#' ∨ c = '\n' ∨ c = '\r' then some (none, c :: rest)
      else (readPair (readValue maxDepth) s).map fun ((key, v), s) => (some (.assign key v), s)

/-- What the lines say. -/
def readStatements (s : Text) : Option (List Statement) :=
  match readStatement (skipBlanks s) with
  | none => none
  | some (said, rest) =>
    match lineEnd false rest with
    | none => none
    | some [] => some said.toList
    | some next =>
      if next.length < s.length then (readStatements next).map (said.toList ++ ·) else none
termination_by s.length

/-! ### The table of a file -/

/-- A table in the making, and the path to the part that assignments go to. -/
structure Draft where
  root : Table
  place : List Text

/-- The draft after a line. -/
def Draft.follow (d : Draft) : Statement → Option Draft
  | .assign key v =>
    (Table.change .implied (Table.assign key v) d.place .header d.root).map (⟨·, d.place⟩)
  | .openTable key => (Table.openTable key d.root).map (⟨·, key.path ++ [key.name]⟩)
  | .openItem key => (Table.openItem key d.root).map (⟨·, key.path ++ [key.name]⟩)

/-- The table that lines give. -/
def tableOf (statements : List Statement) : Option Table :=
  (statements.foldlM Draft.follow ⟨[], []⟩).map (·.root)

/-- The text without the mark that it is encoded in UTF-8. -/
def dropMark : Text → Text
  | c :: s => if c = '\uFEFF' then s else c :: s
  | [] => []

/-- The table of a configuration file. -/
def read? (s : Text) : Option Table := (readStatements (dropMark s)).bind tableOf

end Slipbox.Toml
