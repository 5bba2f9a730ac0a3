import Slipbox.Markup.Node

/-!
# The table of contents

A line is a section header when the node two places further on is a line that is
indented one step deeper. The node between them is normally the newline; anything
else in between, such as a line of prose, moves the deeper line away and hides
the header. Comments are no headers, nor are lines that are indented too deeply.
-/

namespace Slipbox

open Slipbox.Markup

namespace Contents

/-- The indent of the deepest headers. -/
def maxHeaderIndent : Nat := 4

/-- How much deeper than its header a section is indented. -/
def indentStep : Nat := 4

structure Entry where
  index : Nat
  indent : Nat
  title : Text
deriving DecidableEq, Repr

/-- The title of a line as a header; comments have none. -/
def title? : LineContent → Option Text
  | .comment _ => none
  | .link l => some l.display
  | .item i => some ((i.content.map Inline.text).getD [])

/-- Whether the node is a line with the given indent. -/
def isLineAt (indent : Nat) : Option Node → Bool
  | some (.line l) => l.indent == indent
  | _ => false

/-- The entry of a node at `index` that is followed by `rest`. -/
def entry? (index : Nat) (n : Node) (rest : List Node) : Option Entry :=
  match n with
  | .line l =>
    if l.indent ≤ maxHeaderIndent ∧ isLineAt (l.indent + indentStep) rest[1]? then
      (title? l.content).map fun title => ⟨index, l.indent, title⟩
    else none
  | _ => none

/-- The entries of nodes counted from `index`. -/
def entriesFrom (index : Nat) : List Node → List Entry
  | [] => []
  | n :: rest =>
    match entry? index n rest with
    | some e => e :: entriesFrom (index + 1) rest
    | none => entriesFrom (index + 1) rest

end Contents

/-- The table of contents of a document. -/
def contents (nodes : List Node) : List Contents.Entry := Contents.entriesFrom 0 nodes

end Slipbox
