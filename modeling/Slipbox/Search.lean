import Slipbox.Note.Basic
import Slipbox.Text.Casing

/-!
# Search

A query is a list of terms separated by spaces, and a note matches when all of
them hold on its body. A term is literal text; a mark of exclamation before it
turns it round. Upper case in a term makes it exact, otherwise case is ignored.

Matches are listed by the text of the first tag without regard to case, so notes
without tags come first, then by the number of tag markers in the body, then in
the order of the notes.
-/

namespace Slipbox

open Slipbox.Markup

namespace Search

/-! ### Terms -/

structure Term where
  text : Text
  negated : Bool
deriving DecidableEq, Repr

/-- Whether case is ignored. -/
def Term.caseless (t : Term) : Bool := !t.text.any Text.isUppercase

/-- Whether the text of the term occurs in the body. -/
def Term.occursIn (t : Term) (body : Text) : Bool :=
  if t.caseless then Text.containsText (t.text.map Text.foldCase) (body.map Text.foldCase)
  else Text.containsText t.text body

def Term.holds (t : Term) (body : Text) : Bool := t.occursIn body != t.negated

def Term.ofWord : Text → Term
  | '!' :: text => ⟨text, true⟩
  | text => ⟨text, false⟩

/-- The terms of a query. -/
def terms (query : Text) : List Term :=
  ((Text.splitAtChar ' ' query).filter fun word => !word.isEmpty).map Term.ofWord

/-- Whether a note is to be listed: all terms hold, and with `unique` it has just one tag. -/
def admits (query : Text) (unique : Bool) (note : Note) : Bool :=
  (terms query).all (·.holds note.body) && (!unique || note.tags.length == 1)

/-! ### The order of matches -/

/-- The first tag in lower case, nothing if there is none, and the number of tag markers. -/
def sortKey (note : Note) : Text × Nat :=
  (Text.lower ((note.tags.head?.map (·.text)).getD []), note.body.count '@')

def keyLe (a b : Text × Nat) : Bool :=
  decide (a.1 < b.1) || (decide (a.1 = b.1) && decide (a.2 ≤ b.2))

end Search

/-- The positions of the matching notes, in the order in which they are listed. -/
def search (query : Text) (notes : List Note) (unique : Bool) : List Nat :=
  let matching := notes.zipIdx.filter fun (note, _) => Search.admits query unique note
  let keyed := matching.map fun (note, index) => (Search.sortKey note, index)
  (keyed.mergeSort fun a b => Search.keyLe a.1 b.1).map (·.2)

end Slipbox
