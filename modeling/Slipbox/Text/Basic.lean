/-!
# Texts and their byte offsets

Every string of the slip-box is a list of characters, so that all definitions
about it are structural recursions. Places in a text are still counted in bytes
of its UTF-8 form, because that is how they are shown to the user.

`byteLength` measures a text, `dropLead?` strips a given beginning, and
`dropBytes?` and `takeBytes?` cut at a byte offset; the two cuts answer `none`
exactly when the offset falls inside a character or beyond the end.
-/

namespace Slipbox

/-- A text is the list of its characters. -/
abbrev Text := List Char

namespace Text

/-! ### Byte lengths -/

/-- The number of bytes of the UTF-8 form. -/
def byteLength : Text → Nat
  | [] => 0
  | c :: t => c.utf8Size + byteLength t

@[simp] theorem byteLength_nil : byteLength [] = 0 := rfl

@[simp] theorem byteLength_cons (c : Char) (t : Text) :
    byteLength (c :: t) = c.utf8Size + byteLength t := rfl

@[simp] theorem byteLength_append (s t : Text) :
    byteLength (s ++ t) = byteLength s + byteLength t := by
  induction s with
  | nil => simp
  | cons c s ih => simp [ih, Nat.add_assoc]

theorem length_le_byteLength (t : Text) : t.length ≤ byteLength t := by
  induction t with
  | nil => simp
  | cons c t ih =>
    have := c.utf8Size_pos
    simp only [List.length_cons, byteLength_cons]
    omega

/-- The offset, within `text`, of the place where `rest` is what remains. -/
def offsetOf (text rest : Text) : Nat := byteLength text - byteLength rest

@[simp] theorem offsetOf_append (s t : Text) : offsetOf (s ++ t) t = byteLength s := by
  simp [offsetOf]

/-! ### Stripping a beginning -/

/-- What follows `lead` in a text that begins with it. -/
def dropLead? : Text → Text → Option Text
  | [], s => some s
  | _ :: _, [] => none
  | c :: lead, d :: s => if c = d then dropLead? lead s else none

theorem dropLead?_append (lead rest : Text) : dropLead? lead (lead ++ rest) = some rest := by
  induction lead with
  | nil => rfl
  | cons c lead ih => simp [dropLead?, ih]

theorem eq_append_of_dropLead? {lead s rest : Text} (h : dropLead? lead s = some rest) :
    s = lead ++ rest := by
  fun_induction dropLead? lead s with
  | case1 s => simpa using h
  | case2 => simp at h
  | case3 lead d s ih => simp [ih h]
  | case4 => simp at h

/-- Stripping succeeds on the texts that begin with `lead`, and on no other. -/
theorem dropLead?_eq_some_iff {lead s rest : Text} :
    dropLead? lead s = some rest ↔ s = lead ++ rest :=
  ⟨eq_append_of_dropLead?, fun h => h ▸ dropLead?_append lead rest⟩

/-- Whether the text begins with `lead`. -/
def startsWith (lead s : Text) : Bool := (dropLead? lead s).isSome

/-- Whether `needle` occurs somewhere in the text. -/
def containsText (needle : Text) : Text → Bool
  | [] => needle.isEmpty
  | c :: s => startsWith needle (c :: s) || containsText needle s

/-- The text without `suffix`, if it ends with it. -/
def dropTail? (suffix s : Text) : Option Text :=
  (dropLead? suffix.reverse s.reverse).map List.reverse

theorem dropTail?_eq_some_iff {suffix s rest : Text} :
    dropTail? suffix s = some rest ↔ s = rest ++ suffix := by
  unfold dropTail?
  constructor
  · intro h
    obtain ⟨r, hr, rfl⟩ := Option.map_eq_some_iff.1 h
    have := congrArg List.reverse (eq_append_of_dropLead? hr)
    simpa using this
  · rintro rfl
    simp [dropLead?_append]

/-! ### Cutting at a byte offset -/

/-- The text after its first `n` bytes, if they end between two characters. -/
def dropBytes? : Nat → Text → Option Text
  | 0, t => some t
  | _ + 1, [] => none
  | n + 1, c :: t => if c.utf8Size ≤ n + 1 then dropBytes? (n + 1 - c.utf8Size) t else none
termination_by _ t => t.length

/-- The first `n` bytes of the text, if they end between two characters. -/
def takeBytes? : Nat → Text → Option Text
  | 0, _ => some []
  | _ + 1, [] => none
  | n + 1, c :: t =>
    if c.utf8Size ≤ n + 1 then (takeBytes? (n + 1 - c.utf8Size) t).map (c :: ·) else none
termination_by _ t => t.length

theorem dropBytes?_byteLength_append (s t : Text) :
    dropBytes? (byteLength s) (s ++ t) = some t := by
  induction s with
  | nil => simp [dropBytes?]
  | cons c s ih =>
    have hpos := c.utf8Size_pos
    obtain ⟨k, hk⟩ : ∃ k, byteLength (c :: s) = k + 1 := ⟨byteLength (c :: s) - 1, by
      simp only [byteLength_cons]; omega⟩
    rw [hk, List.cons_append, dropBytes?]
    simp only [byteLength_cons] at hk
    rw [if_pos (by omega), show k + 1 - c.utf8Size = byteLength s by omega, ih]

theorem takeBytes?_byteLength_append (s t : Text) :
    takeBytes? (byteLength s) (s ++ t) = some s := by
  induction s with
  | nil => simp [takeBytes?]
  | cons c s ih =>
    have hpos := c.utf8Size_pos
    obtain ⟨k, hk⟩ : ∃ k, byteLength (c :: s) = k + 1 := ⟨byteLength (c :: s) - 1, by
      simp only [byteLength_cons]; omega⟩
    rw [hk, List.cons_append, takeBytes?]
    simp only [byteLength_cons] at hk
    rw [if_pos (by omega), show k + 1 - c.utf8Size = byteLength s by omega, ih]
    rfl

/-! ### Numbers and joining -/

/-- A number in decimal digits. -/
def decimal (n : Nat) : Text := Nat.toDigits 10 n

/-- The texts one after another, with `separator` between any two. -/
def join (separator : Text) : List Text → Text
  | [] => []
  | [t] => t
  | t :: u :: rest => t ++ separator ++ join separator (u :: rest)

/-- The pieces between the occurrences of `separator`; always at least one. -/
def splitAtChar (separator : Char) : Text → List Text
  | [] => [[]]
  | c :: t =>
    if c = separator then [] :: splitAtChar separator t
    else match splitAtChar separator t with
      | [] => [[c]]
      | piece :: rest => (c :: piece) :: rest

theorem splitAtChar_ne_nil (separator : Char) (t : Text) : splitAtChar separator t ≠ [] := by
  cases t with
  | nil => simp [splitAtChar]
  | cons c t =>
    simp only [splitAtChar]
    split
    · simp
    · split <;> simp

/-- Joining the pieces again gives the text back. -/
theorem join_splitAtChar (separator : Char) (t : Text) :
    join [separator] (splitAtChar separator t) = t := by
  induction t with
  | nil => rfl
  | cons c t ih =>
    simp only [splitAtChar]
    split
    · next h =>
      subst h
      cases hs : splitAtChar c t with
      | nil => exact absurd hs (splitAtChar_ne_nil c t)
      | cons piece rest => rw [hs] at ih; simp [join, ih]
    · cases hs : splitAtChar separator t with
      | nil => exact absurd hs (splitAtChar_ne_nil separator t)
      | cons piece rest =>
        rw [hs] at ih
        cases rest with
        | nil => simpa [join] using ih
        | cons next rest => simpa [join] using ih

/-- The lines of the text: pieces between newlines, without the return character before a
newline and without the empty piece after a last newline. -/
def lines (t : Text) : List Text :=
  let pieces := splitAtChar '\n' t
  let closed := pieces.dropLast.map fun piece => (dropTail? ['\r'] piece).getD piece
  match pieces.getLast? with
  | some (c :: piece) => closed ++ [c :: piece]
  | _ => closed

end Text
end Slipbox
