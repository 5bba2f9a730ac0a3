import Slipbox.Markup.Node

/-!
# Writing nodes as text

The text of a list of nodes is what each of them contributes, in order. Which of
two spellings of a link or of code was read is not recorded in a node: an address
without target is written bare, and code is fenced exactly when it crosses lines.
-/

namespace Slipbox.Markup

/-- A text between two equal delimiters. -/
def delimited (delimiter text : Text) : Text := delimiter ++ text ++ delimiter

def Span.spelling (s : Span) : Text :=
  match s.kind with
  | .plain => s.text
  | .operator => ' ' :: s.text
  | .quote => delimited "\"".toList s.text
  | .code => delimited (if '\n' ∈ s.text then "```".toList else "`".toList) s.text
  | .inlineMath => delimited "$".toList s.text
  | .blockMath => delimited "$$".toList s.text
  | .bold => delimited "*".toList s.text
  | .struck => delimited "~~".toList s.text

def Run.spelling (run : Run) : Text := run.flatMap Span.spelling

def Link.spelling (link : Link) : Text :=
  match link.target with
  | some target => '[' :: link.display ++ "](".toList ++ target ++ [')']
  | none => if link.isBareUrl then link.display else '[' :: link.display ++ [']']

def Inline.spelling : Inline → Text
  | .run spans => spans.spelling
  | .link l => l.spelling

def ListItem.spelling (item : ListItem) : Text :=
  match item.content with
  | some content => item.marker ++ ' ' :: content.spelling
  | none => item.marker

def LineContent.spelling : LineContent → Text
  | .link l => l.spelling
  | .comment t => "> ".toList ++ t
  | .item i => i.spelling

def Node.spelling : Node → Text
  | .tag t => List.replicate t.depth '@' ++ t.label.spelling
  | .line l => List.replicate l.indent ' ' ++ l.content.spelling
  | .text run => run.spelling
  | .blank count => List.replicate (count + 1) '\n'

/-- The text of a list of nodes. -/
def unparse (nodes : List Node) : Text := nodes.flatMap Node.spelling

@[simp] theorem unparse_nil : unparse [] = [] := rfl

@[simp] theorem unparse_cons (n : Node) (nodes : List Node) :
    unparse (n :: nodes) = n.spelling ++ unparse nodes := rfl

theorem unparse_append (ns ms : List Node) : unparse (ns ++ ms) = unparse ns ++ unparse ms := by
  simp [unparse]

end Slipbox.Markup
