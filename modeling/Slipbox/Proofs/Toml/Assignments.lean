import Slipbox.Proofs.Toml.Quoting
import Slipbox.Toml.Document

/-!
# Files of assignments

A file whose lines all assign values to bare names of their own is read as the table of these
names and values, in their order (`read?_assignments`). What such a line needs for that is kept
with it: the name is bare, and its written value is read up to the end of the line.
-/

namespace Slipbox.Toml

variable {c d : Char} {s rest name : Text}

/-- A line that assigns a value to a bare name. -/
structure Assignment where
  name : Text
  written : Text
  value : Value
  named : name ≠ []
  bare : ∀ c ∈ name, isBareChar c = true
  begun : ∀ c ∈ written.head?, isBlank c = false
  reads : ∀ rest, readValue maxDepth (written ++ '\n' :: rest) = some (value, '\n' :: rest)

namespace Assignment

def line (a : Assignment) : Text := a.name ++ " = ".toList ++ a.written ++ ['\n']

def entry (a : Assignment) : Text × Value := (a.name, a.value)

def statement (a : Assignment) : Statement := .assign ⟨[], a.name⟩ a.value

end Assignment

/-! ### Texts -/

theorem readValue_quoted (depth : Nat) (t rest : Text) :
    readValue depth (Quoting.write t ++ '\n' :: rest) = some (.text t, '\n' :: rest) := by
  have hread : Quoting.read (Quoting.write t ++ '\n' :: rest) = some (t, '\n' :: rest) :=
    Quoting.read_write t (by simp) (by simp)
  obtain ⟨quote, body, hwrite, hquote⟩ := Quoting.exists_of_write t
  rw [hwrite, List.cons_append] at hread ⊢
  rw [readValue.eq_def]
  simp only [hquote, if_true, hread]
  rfl

/-- A text is assigned in its quoted form. -/
def Assignment.ofText (name t : Text) (named : name ≠ [])
    (bare : ∀ c ∈ name, isBareChar c = true) : Assignment where
  name := name
  written := Quoting.write t
  value := .text t
  named := named
  bare := bare
  begun := by
    obtain ⟨quote, body, hwrite, hquote⟩ := Quoting.exists_of_write t
    rw [hwrite]
    rintro c ⟨⟩
    rcases hquote with rfl | rfl <;> rfl
  reads := readValue_quoted maxDepth t

/-! ### Keys -/

theorem ne_of_isBareChar (hc : isBareChar c = true) (hd : isBareChar d = false) : c ≠ d := by
  rintro rfl
  exact nomatch hc.symm.trans hd

theorem isBlank_of_isBareChar (hc : isBareChar c = true) : isBlank c = false := by
  have hspace : c ≠ ' ' := ne_of_isBareChar hc (by decide)
  have htab : c ≠ '\t' := ne_of_isBareChar hc (by decide)
  simp [isBlank, hspace, htab]

theorem skipBlanks_eq_self (h : ∀ c ∈ s.head?, isBlank c = false) : skipBlanks s = s := by
  cases s with
  | nil => rfl
  | cons c s =>
    have hc : ¬ isBlank c = true := by simp [h c rfl]
    exact List.dropWhile_cons_of_neg hc

theorem readName_bare (hname : name ≠ []) (hbare : ∀ c ∈ name, isBareChar c = true)
    (hd : isBareChar d = false) : readName (name ++ d :: s) = some (name, d :: s) := by
  have htake : (name ++ d :: s).takeWhile isBareChar = name := by
    rw [List.takeWhile_append_of_pos hbare, List.takeWhile_cons_of_neg (by simp [hd]),
      List.append_nil]
  have hdrop : (name ++ d :: s).dropWhile isBareChar = d :: s := by
    rw [List.dropWhile_append_of_pos hbare, List.dropWhile_cons_of_neg (by simp [hd])]
  simp [readName, htake, hdrop, hname]

theorem readKey_bare (hname : name ≠ []) (hbare : ∀ c ∈ name, isBareChar c = true) :
    readKey (name ++ ' ' :: '=' :: s) = some (⟨[], name⟩, '=' :: s) := by
  have hblank : skipBlanks (' ' :: '=' :: s) = '=' :: s := rfl
  have hnames : readNames (name ++ ' ' :: '=' :: s) = some ([name], '=' :: s) := by
    rw [readNames, readName_bare hname hbare (by decide)]
    simp only [hblank]
    rfl
  simp [readKey, hnames, maxDepth]

/-! ### Lines -/

theorem readStatements_nil : readStatements [] = some [] := by
  rw [readStatements]
  rfl

namespace Assignment

variable (a : Assignment)

theorem line_append (rest : Text) :
    a.line ++ rest = a.name ++ ' ' :: '=' :: ' ' :: (a.written ++ '\n' :: rest) := by
  simp [line]

theorem exists_line (rest : Text) : ∃ c s, a.line ++ rest = c :: s ∧ isBareChar c = true := by
  cases hname : a.name with
  | nil => exact absurd hname a.named
  | cons c name =>
    rw [line_append, hname]
    exact ⟨c, _, rfl, a.bare c (hname ▸ List.mem_cons_self)⟩

theorem readPair_line (rest : Text) :
    readPair (readValue maxDepth) (a.line ++ rest) =
      some ((⟨[], a.name⟩, a.value), '\n' :: rest) := by
  have hbegun : ∀ c ∈ (a.written ++ '\n' :: rest).head?, isBlank c = false := by
    cases hwritten : a.written with
    | nil => simp [isBlank]
    | cons c written => simpa [hwritten] using a.begun
  have hvalue : skipBlanks (' ' :: (a.written ++ '\n' :: rest)) = a.written ++ '\n' :: rest :=
    skipBlanks_eq_self hbegun
  rw [line_append]
  simp [readPair, readKey_bare a.named a.bare, Text.dropLead?, hvalue, a.reads]

theorem readStatement_line (rest : Text) :
    readStatement (a.line ++ rest) = some (some a.statement, '\n' :: rest) := by
  have hpair := a.readPair_line rest
  obtain ⟨c, s, hline, hc⟩ := a.exists_line rest
  rw [hline] at hpair ⊢
  have hopens : Text.dropLead? ['[', '['] (c :: s) = none := by
    have := ne_of_isBareChar hc (d := '[') (by decide)
    simp [Text.dropLead?, this.symm]
  have hother : ∀ d, isBareChar d = false → c ≠ d := fun d => ne_of_isBareChar hc
  simp [readStatement, hopens, hpair, statement, hother '[' (by decide), hother '#' (by decide),
    hother '\n' (by decide), hother '\r' (by decide)]

theorem readStatements_line (rest : Text) :
    readStatements (a.line ++ rest) = (readStatements rest).map (a.statement :: ·) := by
  have hstart : skipBlanks (a.line ++ rest) = a.line ++ rest := by
    obtain ⟨c, s, hline, hc⟩ := a.exists_line rest
    refine skipBlanks_eq_self fun d hd => ?_
    rw [hline] at hd
    obtain rfl := Option.some.inj hd
    exact isBlank_of_isBareChar hc
  have hend : lineEnd false ('\n' :: rest) = some rest := rfl
  rw [readStatements, hstart, readStatement_line]
  simp only [hend]
  cases rest with
  | nil => simp [readStatements_nil]
  | cons c rest =>
    have hshorter : (c :: rest).length < (a.line ++ c :: rest).length := by
      rw [line_append]
      simp only [List.length_append, List.length_cons]
      omega
    simp only [hshorter, if_true]
    rfl

end Assignment

/-- One line after the other. -/
theorem readStatements_assignments (lines : List Assignment) :
    readStatements (lines.flatMap Assignment.line) = some (lines.map Assignment.statement) := by
  induction lines with
  | nil => exact readStatements_nil
  | cons a lines ih =>
    rw [List.flatMap_cons, a.readStatements_line, ih]
    rfl

/-! ### The table -/

theorem add_eq_append {t : Table} {v : Value} (h : name ∉ t.map Prod.fst) :
    Table.add name v t = some (t ++ [(name, v)]) := by
  rw [Table.add]
  induction t with
  | nil => rfl
  | cons entry t ih =>
    rw [List.map_cons, List.mem_cons, not_or] at h
    rw [Table.alter, if_neg (Ne.symm h.1), ih h.2]
    rfl

theorem follow_statement {t : Table} (a : Assignment) (h : a.name ∉ t.map Prod.fst) :
    Draft.follow ⟨t, []⟩ a.statement = some ⟨t ++ [a.entry], []⟩ := by
  have hadd := add_eq_append (v := a.value) h
  simp [Draft.follow, Assignment.statement, Assignment.entry, Table.change, Table.assign, hadd]

theorem follow_statements (lines : List Assignment) (t : Table)
    (h : (t.map Prod.fst ++ lines.map (·.name)).Nodup) :
    (lines.map Assignment.statement).foldlM Draft.follow ⟨t, []⟩ =
      some ⟨t ++ lines.map Assignment.entry, []⟩ := by
  induction lines generalizing t with
  | nil => simp
  | cons a lines ih =>
    have hnew : a.name ∉ t.map Prod.fst := fun hmem =>
      (List.nodup_append.1 h).2.2 _ hmem _ List.mem_cons_self rfl
    have hothers : ((t ++ [a.entry]).map Prod.fst ++ lines.map (·.name)).Nodup := by
      simpa [Assignment.entry] using h
    rw [List.map_cons, List.foldlM_cons, follow_statement a hnew]
    simpa using ih (t ++ [a.entry]) hothers

theorem dropMark_assignments (lines : List Assignment) :
    dropMark (lines.flatMap Assignment.line) = lines.flatMap Assignment.line := by
  cases lines with
  | nil => rfl
  | cons a lines =>
    obtain ⟨c, s, hline, hc⟩ := a.exists_line (lines.flatMap Assignment.line)
    rw [List.flatMap_cons, hline, dropMark, if_neg (ne_of_isBareChar hc (by decide))]

/-- **Assignments to different names are read as the table of the names.** -/
theorem read?_assignments {lines : List Assignment} (h : (lines.map (·.name)).Nodup) :
    read? (lines.flatMap Assignment.line) = some (lines.map Assignment.entry) := by
  have hfollow := follow_statements lines [] h
  rw [read?, dropMark_assignments, readStatements_assignments, Option.bind_some, tableOf, hfollow]
  rfl

end Slipbox.Toml
