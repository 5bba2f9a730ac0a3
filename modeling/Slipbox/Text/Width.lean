import Slipbox.Text.Basic
import Slipbox.Text.Emoji
import Slipbox.Text.Ligature

/-!
# Width

The width of a text is the number of its cells. It is the sum of the cells of its characters,
except where characters are shown as one: emoji with their selectors, modifiers and joiners,
and the letters of ligatures. A text is measured from its end, because what comes after a
character decides whether it joins.
-/

namespace Slipbox.Text

/-- A sign that selects how the character before it is shown. -/
inductive Selector where
  | plain
  | picture
deriving DecidableEq, Repr

/-- What stands at the beginning of a text, as far as a character before it may join it. An
emoji is joined when a joiner stands before it. -/
inductive Onset where
  | nothing
  | picture
  | modifier
  | indicator
  | indicators
  | joinedPicture
  | joinedKeycap
  | joinedIndicator
  | joinedFlags (paired : Bool)
  | joinedTags (letters digits : Nat)
  | ligature (l : Ligature) (joined : Bool)
deriving DecidableEq, Repr

/-- The beginning of a text with the selector in front of it. -/
structure Ahead where
  onset : Onset
  selector : Option Selector
deriving DecidableEq, Repr

/-! ### Beginnings -/

namespace Onset

/-- The beginning that a character makes by itself. -/
def ofChar (c : Char) : Onset :=
  if c.toNat < 0x300 then .nothing
  else if isIndicator c then .indicator
  else if isModifier c then .modifier
  else if isPictureEmoji c then .picture
  else match Ligature.ofChar? c with
    | some l => .ligature l false
    | none => .nothing

/-- Whether a joiner in front waits for an emoji. -/
def awaitsPicture : Onset → Bool
  | .joinedPicture | .joinedKeycap => true
  | _ => false

/-- Whether a selector in front leaves the beginning open to be joined. -/
def admits (s : Selector) (o : Onset) : Bool :=
  match o with
  | .ligature _ _ => true
  | _ => s = .picture && o.awaitsPicture

/-- What a character adds to the cells of the emoji after a joiner. -/
def joinPicture (c : Char) : Option (Int × Onset) :=
  if c = '\u20E3' then some (0, .joinedKeycap)
  else if isIndicator c then some (1, .joinedIndicator)
  else if isModifier c then some (0, .modifier)
  else if c.toNat = 0xE007F then some (0, .joinedTags 0 0)
  else if isPictureEmoji c then some (0, .picture)
  else none

/-- What a character adds to the cells of a flag that is spelt by tags. -/
def joinTags (letters digits : Nat) (c : Char) : Option (Int × Onset) :=
  if 0xE0061 ≤ c.toNat && c.toNat ≤ 0xE007A && letters < 6 && digits = 0 then
    some (0, .joinedTags (letters + 1) 0)
  else if 0xE0030 ≤ c.toNat && c.toNat ≤ 0xE0039 && letters < 5 && digits < 3 then
    some (0, .joinedTags 0 (digits + 1))
  else if c.toNat = 0x1F3F4 && (3 ≤ letters || digits = 3) then some (0, .picture)
  else none

/-- What a character adds to the cells of a ligature. -/
def joinLigature (l : Ligature) (joined : Bool) (c : Char) : Option (Int × Onset) :=
  if l.seesThrough && c = '\u200D' then some (0, .ligature l true)
  else if l.seesThrough && transparentRanges.contains c then some (0, .ligature l joined)
  else (l.join joined c).map fun (n, next) =>
    (n, (next.map fun k => Onset.ligature k false).getD .nothing)

/-- What a character adds to the cells of the text after it, and the beginning they make
together; `none` if it does not join. -/
def join (c : Char) : Onset → Option (Int × Onset)
  | .nothing => none
  | .picture => if c = '\u200D' then some (0, .joinedPicture) else none
  | .modifier =>
    if isModifierBase c then some (0, .picture)
    else if c = '\u200D' then some (0, .joinedPicture)
    else none
  | .indicator => if isIndicator c then some (1, .indicators) else none
  | .indicators =>
    if isIndicator c then some (1, .indicators)
    else if c = '\u200D' then some (0, .joinedPicture)
    else none
  | .joinedPicture => joinPicture c
  | .joinedKeycap => none
  | .joinedIndicator => if isIndicator c then some (-1, .joinedFlags true) else none
  | .joinedFlags paired =>
    if isIndicator c then some (if paired then 3 else -1, .joinedFlags (!paired))
    else if c = '\u200D' then some (0, .joinedPicture)
    else none
  | .joinedTags letters digits => joinTags letters digits c
  | .ligature l joined => joinLigature l joined c

end Onset

/-! ### Measuring -/

namespace Ahead

/-- Before the end of a text. -/
def nothing : Ahead := ⟨.nothing, none⟩

/-- A selector in front. -/
def select (a : Ahead) (s : Selector) : Ahead :=
  ⟨if a.onset.admits s then a.onset else .nothing, some s⟩

/-- What a character adds to the width of the text after it, and what then stands at the
beginning. -/
def before (a : Ahead) (c : Char) : Int × Ahead :=
  if a.selector = some .picture && isTextEmoji c then
    (if a.onset.awaitsPicture then 0 else 2, ⟨.picture, none⟩)
  else if c.toNat ≤ 0xA0 then (1, nothing)
  else if c = '\uFE0F' then (0, a.select .picture)
  else if c = '\uFE0E' then (0, a.select .plain)
  else if a.selector = some .plain && isPlainable c then (1, nothing)
  else
    match a.onset.join c with
    | some (n, onset) => (n, ⟨onset, none⟩)
    | none => (cells c, ⟨.ofChar c, none⟩)

end Ahead

/-- The width of a text together with its beginning. -/
def measure : Text → Int × Ahead
  | [] => (0, .nothing)
  | c :: t =>
    let (n, a) := measure t
    let (added, here) := a.before c
    (n + added, here)

/-- The number of cells of a text. -/
def width (t : Text) : Nat := (measure t).1.toNat

/-- The number of cells in which a grapheme is shown. A halfwidth voicing mark is given one more
than it needs. -/
def shownWidth (g : Text) : Nat := width g + g.countP isVoicingMark

end Slipbox.Text
