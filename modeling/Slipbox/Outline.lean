import Slipbox.Markup.Node

/-!
# The outline of a document

The lines of a document form a forest by their indents: a line belongs to the
nearest line before it that is indented less. So the lines below a line are the
following ones up to the first that is not indented more, and the outline is
built by splitting there.
-/

namespace Slipbox

open Slipbox.Markup

namespace Outline

/-- A line of the outline: its position among the nodes, its indent, and the lines below it. -/
inductive Item where
  | mk (index indent : Nat) (children : List Item)
deriving Repr

def Item.index : Item → Nat
  | .mk index _ _ => index

def Item.indent : Item → Nat
  | .mk _ indent _ => indent

def Item.children : Item → List Item
  | .mk _ _ children => children

/-- The positions and indents of the lines among the nodes, counted from `index`. -/
def linesFrom (index : Nat) : List Node → List (Nat × Nat)
  | [] => []
  | .line l :: nodes => (index, l.indent) :: linesFrom (index + 1) nodes
  | _ :: nodes => linesFrom (index + 1) nodes

/-- The forest of lines given by position and indent. -/
def forest : List (Nat × Nat) → List Item
  | [] => []
  | (index, indent) :: lines =>
    .mk index indent (forest (lines.takeWhile fun l => indent < l.2)) ::
      forest (lines.dropWhile fun l => indent < l.2)
termination_by lines => lines.length
decreasing_by
  · have := (List.takeWhile_sublist (fun l : Nat × Nat => decide (indent < l.2))
      (l := lines)).length_le
    simp only [List.length_cons]
    omega
  · have := (List.dropWhile_sublist (fun l : Nat × Nat => decide (indent < l.2))
      (l := lines)).length_le
    simp only [List.length_cons]
    omega

end Outline

/-- The outline of a document. -/
def outline (nodes : List Node) : List Outline.Item := Outline.forest (Outline.linesFrom 0 nodes)

end Slipbox
