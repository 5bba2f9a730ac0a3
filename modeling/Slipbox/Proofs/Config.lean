import Slipbox.Config
import Slipbox.Proofs.Store.Writing
import Slipbox.Proofs.Toml.Assignments

/-!
# The configuration is kept

A configuration is written as three assignments, so its file is read as a table with the same
values whatever the texts hold (`read?_write`). Only the directory is not taken as it stands: it
is expanded, which changes nothing where there is neither a dollar sign nor a tilde at the start
(`expand_eq_self`), and stays if it refers to a variable that is not set.
-/

namespace Slipbox

variable {env : Environment} {path t : Text} {d : Disk}

/-! ### Expansion -/

namespace Expansion

theorem substitute_cons {c : Char} (hc : c ≠ '$') (t : Text) :
    substitute env (c :: t) = (substitute env t).map (c :: ·) := by
  rw [substitute]
  · exact fun _ h => absurd h hc
  · exact fun _ _ h => absurd h hc

theorem substitute_eq_self (h : '$' ∉ t) : substitute env t = some t := by
  induction t with
  | nil => rw [substitute]
  | cons c t ih =>
    rw [List.mem_cons, not_or] at h
    rw [substitute_cons (Ne.symm h.1), ih h.2]
    rfl

theorem expand_eq_self (hdollar : '$' ∉ path) (htilde : path.head? ≠ some '~') :
    expand env path = some path := by
  rw [expand, substitute_eq_self hdollar, Option.map_some, if_neg htilde]

end Expansion

namespace Config

/-! ### The file -/

theorem readValue_flag (b : Bool) (rest : Text) :
    Toml.readValue Toml.maxDepth (writtenFlag b ++ '\n' :: rest) =
      some (.boolean b, '\n' :: rest) := by
  cases b with
  | false => rfl
  | true => rfl

theorem begun_flag (b : Bool) : ∀ c ∈ (writtenFlag b).head?, Toml.isBlank c = false := by
  cases b with
  | false => rintro _ ⟨⟩; rfl
  | true => rintro _ ⟨⟩; rfl

/-- The lines of the file. -/
def assignments (c : Config) : List Toml.Assignment :=
  [.ofText notesPathName c.notesPath (by decide) (by decide),
    .ofText defaultQueryName c.defaultQuery (by decide) (by decide),
    { name := uniqueName
      written := writtenFlag c.unique
      value := .boolean c.unique
      named := by decide
      bare := by decide
      begun := begun_flag c.unique
      reads := readValue_flag c.unique }]

theorem write_eq_lines (c : Config) : c.write = c.assignments.flatMap Toml.Assignment.line := by
  simp [write, assignments, line, Toml.Assignment.line, Toml.Assignment.ofText]

theorem ofTable?_entries (c : Config) :
    ofTable? (c.assignments.map Toml.Assignment.entry) = some c := rfl

/-- A configuration is read from its file with its directory expanded. -/
theorem read?_write (env : Environment) (c : Config) :
    read? env c.write = some (c.expanded env) := by
  have hnames : (c.assignments.map (·.name)).Nodup := by
    show [notesPathName, defaultQueryName, uniqueName].Nodup
    decide
  rw [read?, write_eq_lines, Toml.read?_assignments hnames, Option.bind_some, ofTable?_entries]
  rfl

theorem expanded_eq_self {c : Config} (hdollar : '$' ∉ c.notesPath)
    (htilde : c.notesPath.head? ≠ some '~') : c.expanded env = c := by
  rw [expanded, Expansion.expand_eq_self hdollar htilde]
  rfl

/-! ### Configuration files -/

theorem load_of_writes {made written : Disk} {c : Config}
    (h : made.Writes path (encodeText c.write) written) (env : Environment) :
    load env written path = .ok (some (c.expanded env)) := by
  simp [load, h.exists?, h.readText, read?_write]

/-- **What is saved is loaded again.** At a path that can be written a configuration is saved and
then found with its query and its flag as they are, and with its directory expanded, or as it is
if a variable is not set. So the same configuration is found if its directory has no dollar sign
and does not start with a tilde. -/
theorem load_save (hd : d.Sound) (hpath : d.Writable path) (env : Environment) (c : Config) :
    (c.save d path).2 = none ∧
    ∃ found, load env (c.save d path).1 path = .ok (some found) ∧
      found.defaultQuery = c.defaultQuery ∧ found.unique = c.unique ∧
      found.notesPath = (Expansion.expand env c.notesPath).getD c.notesPath ∧
      ('$' ∉ c.notesPath → c.notesPath.head? ≠ some '~' → found = c) := by
  have hsaved : (c.save d path).2 = none := (Disk.putFile_ok_iff hd).2 hpath
  obtain ⟨made, -, hwrites⟩ := Disk.putFile_writes hsaved
  refine ⟨hsaved, c.expanded env, load_of_writes hwrites env, rfl, rfl, rfl, ?_⟩
  exact expanded_eq_self

/-- Nothing in the texts gets in the way of their quotes. -/
theorem load_save_quoted :
    ∃ c : Config, c = ⟨"/\"\"\"\n\'\'\'".toList, "\\ \t\x01".toList, true⟩ ∧
      (c.save ⟨[], []⟩ "/c/config.toml".toList).2 = none ∧
      load (fun _ => none) (c.save ⟨[], []⟩ "/c/config.toml".toList).1 "/c/config.toml".toList =
        .ok (some c) := by
  have hput : (Disk.putFile ⟨[], []⟩ "/c/config.toml".toList .empty).2 = none := rfl
  have hpath := (Disk.putFile_ok_iff (Disk.Sound.empty [])).1 hput
  obtain ⟨hsaved, found, hloaded, -, -, -, hfound⟩ := load_save (Disk.Sound.empty []) hpath
    (fun _ => none) ⟨"/\"\"\"\n\'\'\'".toList, "\\ \t\x01".toList, true⟩
  have hsame := hfound (by decide) (by decide)
  rw [hsame] at hloaded
  exact ⟨_, rfl, hsaved, hloaded⟩

end Config
end Slipbox
