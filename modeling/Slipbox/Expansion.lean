import Slipbox.Text.Alphanumeric
import Slipbox.Text.Basic

/-!
# Expansion of paths

A path in the configuration may refer to variables of the environment: a dollar sign
and a name, a name in braces, or a name in braces with a default for the case that the
variable is not set. Two dollar signs stand for one, and a dollar sign that begins none
of these stands for itself. After that a tilde at the start of the path, alone or before a slash,
becomes the home directory. What a variable holds is not expanded again.
-/

namespace Slipbox

/-- The variables that are set. -/
abbrev Environment := Text → Option Text

namespace Expansion

/-- Whether the character may stand in a name without braces. -/
def isNameChar (c : Char) : Bool := Text.isAlphanumeric c || c == '_'

/-- The text before the first closing brace and the text after it. -/
def braced? : Text → Option (Text × Text)
  | [] => none
  | c :: t => if c = '\x7d' then some ([], t) else (braced? t).map fun (a, b) => (c :: a, b)

theorem length_of_braced? {t inner rest : Text} (h : braced? t = some (inner, rest)) :
    rest.length < t.length := by
  induction t generalizing inner with
  | nil => simp [braced?] at h
  | cons c t ih =>
    simp only [braced?] at h
    split at h
    · simp only [Option.some.injEq, Prod.mk.injEq] at h
      simp [← h.2]
    · obtain ⟨p, hp, hq⟩ := Option.map_eq_some_iff.1 h
      have := @ih p.1 (by rw [hp, ← (Prod.mk.injEq ..).mp hq |>.2])
      simp only [List.length_cons]
      omega

/-- The parts of a text before and after the first mark of a default. -/
def cutDefault? : Text → Option (Text × Text)
  | [] => none
  | c :: t =>
    match Text.dropLead? [':', '-'] (c :: t) with
    | some rest => some ([], rest)
    | none => (cutDefault? t).map fun (a, b) => (c :: a, b)

/-- The value of what stands between braces. A default needs a name before it. -/
def valueOf (env : Environment) (inner : Text) : Option Text :=
  match cutDefault? inner with
  | some (c :: name, fallback) => some ((env (c :: name)).getD fallback)
  | _ => env inner

/-- The text with the values of its variables, if all of them are set or have a default. -/
def substitute (env : Environment) (t : Text) : Option Text :=
  match t with
  | [] => some []
  | '$' :: '\x7b' :: rest =>
    match _h : braced? rest with
    | some (inner, after) => do return (← valueOf env inner) ++ (← substitute env after)
    | none => (substitute env rest).map ('$' :: '\x7b' :: ·)
  | '$' :: c :: rest =>
    if isNameChar c then do
      let name := c :: rest.takeWhile isNameChar
      return (← env name) ++ (← substitute env (rest.dropWhile isNameChar))
    else if c = '$' then (substitute env rest).map ('$' :: ·)
    else (substitute env (c :: rest)).map ('$' :: ·)
  | c :: rest => (substitute env rest).map (c :: ·)
termination_by t.length
decreasing_by
  · have := length_of_braced? _h
    simp only [List.length_cons]; omega
  · simp only [List.length_cons]; omega
  · have := (List.dropWhile_sublist isNameChar (l := rest)).length_le
    simp only [List.length_cons]; omega
  · simp only [List.length_cons]; omega
  · simp only [List.length_cons]; omega
  · simp only [List.length_cons]; omega

/-- The home directory, which is what the variable `HOME` holds unless that is empty. -/
def home? (env : Environment) : Option Text :=
  (env "HOME".toList).filter fun home => !home.isEmpty

/-- The path with the home directory in place of a tilde. -/
def tilde (env : Environment) (path : Text) : Text :=
  match path with
  | '~' :: rest =>
    if rest.isEmpty ∨ rest.head? = some '/' then
      match home? env with
      | some home => home ++ rest
      | none => path
    else path
  | _ => path

/-- The path that is meant by a path of the configuration. A tilde out of a variable stays. -/
def expand (env : Environment) (path : Text) : Option Text :=
  (substitute env path).map fun t => if path.head? = some '~' then tilde env t else t

end Expansion
end Slipbox
