import Mathlib.Data.List.Sort
import Slipbox.Proofs.Text
import Slipbox.Search

/-!
# What a search finds

A query is read by its words, which stand between spaces (`IsWord`), and each word asks something
of a body (`Asks`). Notes are listed by the label of their first tag in lower case, by the number
of markers in their bodies, and by their places (`Precedes`). What is found is the one list in
this order that has exactly the admitted notes (`Finds`), as sorting is stable
(`pairwise_mergeSort_stable`) and two lists in this order with the same members are equal
(`Finds.eq`).

The laws of queries follow from that without another look at the search: part of an ordered list is
ordered, so a search that admits fewer notes finds the list of the other with some places left
out (`search_eq_filter`).
-/

namespace Slipbox

open Slipbox.Markup

namespace Search

variable {query q r word text body : Text} {note : Note} {notes : List Note} {unique : Bool}
  {found : List Nat} {i j k : Nat}

/-! ### Words -/

/-- A part of a query between spaces, as which the ends of the query count too. -/
def IsWord (query word : Text) : Prop :=
  word ≠ [] ∧ ' ' ∉ word ∧ ' ' :: word ++ [' '] <:+: ' ' :: query ++ [' ']

/-- The text is part of the body. Case is ignored unless the text has upper case. -/
def Occurs (text body : Text) : Prop :=
  if text.any Text.isUppercase then text <:+: body
  else ∃ part, part <:+: body ∧ part.map Text.foldCase = text.map Text.foldCase

/-- What a word asks of a body: its text occurs, or does not after a mark of exclamation. -/
def Asks (word body : Text) : Prop :=
  if word.head? = some '!' then ¬ Occurs word.tail body else Occurs word body

theorem isWord_iff : IsWord query word ↔ word ∈ Text.splitAtChar ' ' query ∧ word ≠ [] := by
  rw [IsWord, Text.mem_splitAtChar_iff]
  exact and_comm

/-- A space between two queries makes no word and breaks none. -/
theorem isWord_append : IsWord (q ++ ' ' :: r) word ↔ IsWord q word ∨ IsWord r word := by
  simp only [isWord_iff, Text.splitAtChar_append_cons, List.mem_append, or_and_right]

theorem isWord_self (hne : text ≠ []) (hspace : ' ' ∉ text) : IsWord text word ↔ word = text := by
  rw [isWord_iff, Text.splitAtChar_of_not_mem hspace, List.mem_singleton]
  constructor
  · exact fun h => h.1
  · rintro rfl
    exact ⟨rfl, hne⟩

theorem occursIn_iff {t : Term} : t.occursIn body = true ↔ Occurs t.text body := by
  by_cases hupper : t.text.any Text.isUppercase
  · have hcase : t.caseless = false := by
      simpa only [Term.caseless, Bool.not_eq_false'] using hupper
    rw [Term.occursIn, hcase, Occurs, if_pos hupper]
    exact Text.containsText_iff
  · have hcase : t.caseless = true := by
      simpa only [Term.caseless, Bool.not_eq_true', Bool.not_eq_true] using hupper
    rw [Term.occursIn, hcase, Occurs, if_neg hupper, if_pos rfl, Text.containsText_iff,
      List.infix_map_iff]
    simp only [eq_comm]

theorem holds_iff {t : Term} :
    t.holds body = true ↔
      if t.negated = true then ¬ Occurs t.text body else Occurs t.text body := by
  rw [← occursIn_iff, Term.holds]
  cases t.negated <;> simp

theorem holds_ofWord_iff : (Term.ofWord word).holds body = true ↔ Asks word body := by
  rw [holds_iff, Asks]
  unfold Term.ofWord
  split
  · simp
  · next hplain =>
    have hmark : word.head? ≠ some '!' := by
      intro h
      obtain ⟨text, rfl⟩ := List.head?_eq_some_iff.1 h
      exact hplain text rfl
    simp [hmark]

/-- Of a word and the same word after a mark of exclamation, a body has just one. -/
theorem asks_negated (h : word.head? ≠ some '!') :
    Asks ('!' :: word) body ↔ ¬ Asks word body := by
  rw [Asks, Asks, if_neg h]
  rfl

/-! ### Admitted notes -/

def isTag : Node → Bool
  | .tag _ => true
  | _ => false

/-- The text of the first tag. -/
def firstLabel : List Node → Text
  | [] => []
  | .tag t :: _ => t.label.text
  | _ :: nodes => firstLabel nodes

/-- The note has what all words ask for, and just one tag if that is wanted. -/
@[mk_iff]
structure Admitted (query : Text) (unique : Bool) (note : Note) : Prop where
  words : ∀ word, IsWord query word → Asks word note.body
  tags : unique = true → note.nodes.countP isTag = 1

theorem length_tags (note : Note) : note.tags.length = note.nodes.countP isTag := by
  rw [Note.tags, List.length_filterMap_eq_countP]
  congr 1
  funext n
  cases n <;> rfl

theorem firstLabel_eq (nodes : List Node) :
    firstLabel nodes = ((nodes.filterMap Note.tagLabel?).head?.map (·.text)).getD [] := by
  induction nodes with
  | nil => rfl
  | cons n nodes ih =>
    cases n with
    | tag t => rfl
    | _ => exact ih

theorem admits_iff : admits query unique note = true ↔ Admitted query unique note := by
  have hwords : (terms query).all (·.holds note.body) = true ↔
      ∀ word, IsWord query word → Asks word note.body := by
    simp only [terms, List.all_eq_true, List.forall_mem_map, List.mem_filter, holds_ofWord_iff,
      Bool.not_eq_true', List.isEmpty_eq_false_iff, ← isWord_iff]
  have htags : (!unique || note.tags.length == 1) = true ↔
      (unique = true → note.nodes.countP isTag = 1) := by
    rw [length_tags]
    cases unique <;> simp
  rw [admits, Bool.and_eq_true, hwords, htags, admitted_iff]

theorem admitted_append :
    Admitted (q ++ ' ' :: r) unique note ↔ Admitted q unique note ∧ Admitted r unique note := by
  simp only [admitted_iff, isWord_append, or_imp, forall_and]
  constructor
  · rintro ⟨⟨hq, hr⟩, htags⟩
    exact ⟨⟨hq, htags⟩, hr, htags⟩
  · rintro ⟨⟨hq, htags⟩, hr, -⟩
    exact ⟨⟨hq, hr⟩, htags⟩

theorem admitted_append_word (hne : word ≠ []) (hspace : ' ' ∉ word) :
    Admitted (q ++ ' ' :: word) unique note ↔ Admitted q unique note ∧ Asks word note.body := by
  simp only [admitted_iff, isWord_append, isWord_self hne hspace, or_imp, forall_and, forall_eq]
  exact and_right_comm

/-! ### The order of the list -/

/-- The text of the first tag in lower case. -/
def title (note : Note) : Text := Text.lower (firstLabel note.nodes)

def markers (note : Note) : Nat := note.body.count '@'

/-- The places of two notes of which the first is listed before the second. -/
def Precedes (notes : List Note) (i j : Nat) : Prop :=
  ∃ m n, notes[i]? = some m ∧ notes[j]? = some n ∧
    (title m < title n ∨ title m = title n ∧
      (markers m < markers n ∨ markers m = markers n ∧ i < j))

theorem sortKey_eq (note : Note) : sortKey note = (title note, markers note) := by
  rw [sortKey, title, firstLabel_eq]
  rfl

theorem not_precedes_of_precedes (hij : Precedes notes i j) : ¬ Precedes notes j i := by
  rintro ⟨n, m, hn, hm, hji⟩
  obtain ⟨m', n', hm', hn', hij⟩ := hij
  obtain rfl : m' = m := Option.some.inj (hm'.symm.trans hm)
  obtain rfl : n' = n := Option.some.inj (hn'.symm.trans hn)
  rcases hij with hij | ⟨heq, hij⟩
  · rcases hji with hji | ⟨heq, -⟩
    · exact List.lt_asymm hij hji
    · exact List.lt_irrefl _ (heq ▸ hij)
  · rcases hji with hji | ⟨-, hji⟩
    · exact List.lt_irrefl _ (heq ▸ hji)
    · omega

instance (notes : List Note) : Std.Irrefl (Precedes notes) where
  irrefl _ h := not_precedes_of_precedes h h

instance (notes : List Note) : Std.Antisymm (Precedes notes) where
  antisymm _ _ hij hji := absurd hji (not_precedes_of_precedes hij)

theorem keyLe_iff {a b : Text × Nat} :
    keyLe a b = true ↔ a.1 < b.1 ∨ a.1 = b.1 ∧ a.2 ≤ b.2 := by
  simp [keyLe]

theorem keyLe_trans {a b c : Text × Nat} (hab : keyLe a b = true) (hbc : keyLe b c = true) :
    keyLe a c = true := by
  rw [keyLe_iff] at hab hbc ⊢
  rcases hab with hab | ⟨heq, hab⟩
  · rcases hbc with hbc | ⟨heq, -⟩
    · exact .inl (List.lt_trans hab hbc)
    · exact .inl (heq ▸ hab)
  · rw [heq]
    exact hbc.imp_right fun h => ⟨h.1, Nat.le_trans hab h.2⟩

theorem keyLe_total (a b : Text × Nat) : (keyLe a b || keyLe b a) = true := by
  rw [Bool.or_eq_true, keyLe_iff, keyLe_iff]
  by_cases heq : a.1 = b.1
  · exact (Nat.le_total a.2 b.2).imp (fun h => .inr ⟨heq, h⟩) fun h => .inr ⟨heq.symm, h⟩
  · rcases List.le_total a.1 b.1 with hle | hge
    · exact .inl (.inl ((List.le_iff_lt_or_eq.1 hle).resolve_right heq))
    · exact .inr (.inl ((List.le_iff_lt_or_eq.1 hge).resolve_right (Ne.symm heq)))

/-- What compares alike stays in the order in which it was before. -/
theorem pairwise_mergeSort_stable {α : Type} (le : α → α → Bool) {before : α → α → Prop}
    (htrans : ∀ a b c, le a b = true → le b c = true → le a c = true)
    (htotal : ∀ a b, (le a b || le b a) = true) {l : List α} (h : l.Pairwise before) :
    (l.mergeSort le).Pairwise fun a b => le a b = true ∧ (le b a = true → before a b) := by
  induction h with
  | nil => simp
  | @cons a l ha _ ih =>
    obtain ⟨front, back, hsort, hrest, hfront⟩ := List.mergeSort_cons htrans htotal a l
    have hsorted := List.pairwise_mergeSort htrans htotal (a :: l)
    rw [hsort, List.pairwise_append, List.pairwise_cons] at hsorted
    rw [hrest, List.pairwise_append] at ih
    rw [hsort, List.pairwise_append, List.pairwise_cons]
    refine ⟨ih.1, ⟨?_, ih.2.1⟩, ?_⟩
    · intro b hb
      have hmem : b ∈ l := List.mem_mergeSort.1 (hrest ▸ List.mem_append_right front hb)
      exact ⟨hsorted.2.1.1 b hb, fun _ => ha b hmem⟩
    · intro b hb c hc
      rcases List.mem_cons.1 hc with rfl | hc
      · have hnot : le c b = false := by simpa using hfront b hb
        exact ⟨hsorted.2.2 b hb c List.mem_cons_self, fun hle => by simp [hnot] at hle⟩
      · exact ih.2.2 b hb c hc

end Search

open Search

variable {query : Text} {notes : List Note} {unique : Bool} {index : Nat}

/-- Exactly the notes that are admitted are found. -/
theorem mem_search_iff :
    index ∈ search query notes unique ↔
      ∃ note, notes[index]? = some note ∧ Search.admits query unique note = true := by
  simp only [search, List.mem_map, List.mem_mergeSort, List.mem_filter,
    List.mem_zipIdx_iff_getElem?]
  constructor
  · rintro ⟨_, ⟨⟨note, place⟩, hnote, rfl⟩, rfl⟩
    exact ⟨note, hnote⟩
  · rintro ⟨note, hnote⟩
    exact ⟨_, ⟨(note, index), hnote, rfl⟩, rfl⟩

theorem lt_length_of_mem_search (h : index ∈ search query notes unique) :
    index < notes.length := by
  obtain ⟨note, hnote, -⟩ := mem_search_iff.1 h
  exact (List.getElem?_eq_some_iff.1 hnote).1

namespace Search

variable {query q r : Text} {notes : List Note} {unique unique' : Bool} {found found' : List Nat}

/-! ### What is found -/

/-- The list has the places of just the admitted notes, in the order of the list. -/
structure Finds (query : Text) (notes : List Note) (unique : Bool) (found : List Nat) : Prop where
  mem : ∀ i, i ∈ found ↔ ∃ note, notes[i]? = some note ∧ Admitted query unique note
  ordered : found.Pairwise (Precedes notes)

theorem Finds.eq (h : Finds query notes unique found) (h' : Finds query notes unique found') :
    found = found' := by
  apply h.ordered.eq_of_mem_iff h'.ordered
  intro i
  rw [h.mem, h'.mem]

/-- The admitted notes by key and place before they are sorted. -/
def keyed (query : Text) (notes : List Note) (unique : Bool) : List ((Text × Nat) × Nat) :=
  (notes.zipIdx.filter fun p => admits query unique p.1).map fun p => (sortKey p.1, p.2)

theorem search_eq_keyed : search query notes unique =
    ((keyed query notes unique).mergeSort fun a b => keyLe a.1 b.1).map (·.2) := rfl

theorem pairwise_keyed (query : Text) (notes : List Note) (unique : Bool) :
    (keyed query notes unique).Pairwise fun a b => a.2 < b.2 := by
  have hplaces : notes.zipIdx.Pairwise fun p q => p.2 < q.2 := by
    rw [← List.pairwise_map (f := Prod.snd), List.zipIdx_map_snd]
    exact List.pairwise_lt_range'
  exact List.pairwise_map.2 (hplaces.filter _)

theorem key_of_mem_keyed {a : (Text × Nat) × Nat} (h : a ∈ keyed query notes unique) :
    ∃ note, notes[a.2]? = some note ∧ a.1 = (title note, markers note) := by
  obtain ⟨⟨note, place⟩, hnote, rfl⟩ := List.mem_map.1 h
  exact ⟨note, List.mem_zipIdx_iff_getElem?.1 (List.mem_of_mem_filter hnote), sortKey_eq note⟩

theorem ordered_search : (search query notes unique).Pairwise (Precedes notes) := by
  have hsorted := pairwise_mergeSort_stable (fun a b => keyLe a.1 b.1) (fun _ _ _ => keyLe_trans)
    (fun a b => keyLe_total a.1 b.1) (pairwise_keyed query notes unique)
  rw [search_eq_keyed, List.pairwise_map]
  refine hsorted.imp_of_mem ?_
  rintro a b ha hb ⟨hle, htie⟩
  obtain ⟨m, hm, ha⟩ := key_of_mem_keyed (List.mem_mergeSort.1 ha)
  obtain ⟨n, hn, hb⟩ := key_of_mem_keyed (List.mem_mergeSort.1 hb)
  rw [ha, hb, keyLe_iff] at hle
  rw [ha, hb, keyLe_iff] at htie
  refine ⟨m, n, hm, hn, ?_⟩
  rcases hle with hlt | ⟨htitle, hmarkers⟩
  · exact .inl hlt
  · rcases Nat.lt_or_eq_of_le hmarkers with hlt | heq
    · exact .inr ⟨htitle, .inl hlt⟩
    · have hplace := htie (.inr ⟨htitle.symm, Nat.le_of_eq heq.symm⟩)
      exact .inr ⟨htitle, .inr ⟨heq, hplace⟩⟩

theorem finds_search : Finds query notes unique (search query notes unique) where
  mem i := by simp only [mem_search_iff, admits_iff]
  ordered := ordered_search

/-- A search that admits part of the notes of another finds them in the order of the other. -/
theorem search_eq_filter {p : Nat → Bool}
    (h : ∀ i note, notes[i]? = some note →
      (Admitted r unique' note ↔ Admitted q unique note ∧ p i = true)) :
    search r notes unique' = (search q notes unique).filter p := by
  apply finds_search.eq
  refine ⟨fun i => ?_, finds_search.ordered.filter p⟩
  rw [List.mem_filter, finds_search.mem]
  constructor
  · rintro ⟨⟨note, hnote, hadmitted⟩, hp⟩
    exact ⟨note, hnote, (h i note hnote).2 ⟨hadmitted, hp⟩⟩
  · rintro ⟨note, hnote, hadmitted⟩
    obtain ⟨hadmitted, hp⟩ := (h i note hnote).1 hadmitted
    exact ⟨⟨note, hnote, hadmitted⟩, hp⟩

theorem mem_search_iff_admitted {i : Nat} {note : Note} (hnote : notes[i]? = some note) :
    i ∈ search query notes unique ↔ Admitted query unique note := by
  rw [finds_search.mem, hnote]
  simp

/-- A word and its negation divide what is found without them. -/
theorem mem_search_append_word {word : Text} {i : Nat} (hne : word ≠ []) (hspace : ' ' ∉ word)
    (hmark : word.head? ≠ some '!') :
    (i ∈ search q notes unique ↔
      i ∈ search (q ++ ' ' :: word) notes unique ∨
        i ∈ search (q ++ ' ' :: '!' :: word) notes unique) ∧
    ¬ (i ∈ search (q ++ ' ' :: word) notes unique ∧
      i ∈ search (q ++ ' ' :: '!' :: word) notes unique) := by
  have hspace' : ' ' ∉ '!' :: word := by simpa using hspace
  cases hnote : notes[i]? with
  | none => simp [finds_search.mem, hnote]
  | some note =>
    rw [mem_search_iff_admitted hnote, mem_search_iff_admitted hnote, mem_search_iff_admitted hnote,
      admitted_append_word hne hspace, admitted_append_word (List.cons_ne_nil '!' word) hspace',
      asks_negated hmark]
    tauto

/-- **A search finds just what is asked for, in one order.** The list of a search has the places of
the notes whose bodies have what all words of the query ask for, and which have just one tag if
that is wanted. It is ordered by the first tags in lower case, then by the numbers of markers, then
by the places, so that no place stands in it twice and there is no other such list. -/
theorem search_determined (query : Text) (notes : List Note) (unique : Bool) :
    (∀ found, Finds query notes unique found ↔ found = search query notes unique) ∧
    (search query notes unique).Nodup := by
  refine ⟨fun found => ⟨fun h => h.eq finds_search, ?_⟩, finds_search.ordered.nodup⟩
  rintro rfl
  exact finds_search

/-- **Laws of queries.** Two queries with a space between them find what both find, in the order of
the first, so that more words find less. Only the set of words matters. A word and its negation
divide what is found without them, and asking for a single tag leaves out the notes with
another number of tags. -/
theorem query_laws (q r : Text) (notes : List Note) (unique : Bool) :
    search (q ++ ' ' :: r) notes unique =
      (search q notes unique).filter (fun i => i ∈ search r notes unique) ∧
    (search (q ++ ' ' :: r) notes unique).Sublist (search q notes unique) ∧
    (∀ q', (∀ word, IsWord q' word ↔ IsWord q word) →
      search q' notes unique = search q notes unique) ∧
    (∀ word, word ≠ [] → ' ' ∉ word → word.head? ≠ some '!' → ∀ i,
      (i ∈ search q notes unique ↔
        i ∈ search (q ++ ' ' :: word) notes unique ∨
          i ∈ search (q ++ ' ' :: '!' :: word) notes unique) ∧
      ¬ (i ∈ search (q ++ ' ' :: word) notes unique ∧
        i ∈ search (q ++ ' ' :: '!' :: word) notes unique)) ∧
    search q notes true = (search q notes false).filter fun i =>
      notes[i]?.any fun note => note.nodes.countP isTag == 1 := by
  have hboth : search (q ++ ' ' :: r) notes unique =
      (search q notes unique).filter fun i => i ∈ search r notes unique := by
    apply search_eq_filter
    intro i note hnote
    rw [decide_eq_true_eq, mem_search_iff_admitted hnote, admitted_append]
  refine ⟨hboth, hboth ▸ List.filter_sublist, ?_, ?_, ?_⟩
  · intro q' hwords
    apply finds_search.eq
    refine ⟨fun i => ?_, finds_search.ordered⟩
    simp only [finds_search.mem, admitted_iff, hwords]
  · intro word hne hspace hmark i
    exact mem_search_append_word hne hspace hmark
  · apply search_eq_filter
    intro i note hnote
    simp [hnote, admitted_iff]

/-- The query twice with more spaces, and a word with upper case, which the second note lacks. -/
theorem query_laws_of_upper_case :
    let note (body : Text) : Note := ⟨⟨[]⟩, body, [.text [⟨.plain, body⟩]], none⟩
    let notes : List Note := [note "Rust x".toList, note "rust x".toList]
    let q : Text := "x".toList
    let word : Text := "Rust".toList
    (∀ w, IsWord "x  x ".toList w ↔ IsWord q w) ∧
    search "x  x ".toList notes false = search q notes false ∧
    word ≠ [] ∧ ' ' ∉ word ∧ word.head? ≠ some '!' ∧
    (0 ∈ search (q ++ ' ' :: word) notes false ∧
      0 ∉ search (q ++ ' ' :: '!' :: word) notes false) ∧
    1 ∉ search (q ++ ' ' :: word) notes false ∧
      1 ∈ search (q ++ ' ' :: '!' :: word) notes false := by
  intro note notes q word
  have hwords : ∀ w, IsWord "x  x ".toList w ↔ IsWord q w := by
    intro w
    simp [isWord_iff, q, Text.splitAtChar]
    tauto
  have hword : word ≠ [] ∧ ' ' ∉ word ∧ word.head? ≠ some '!' := by decide
  have hzero : 0 ∈ search (q ++ ' ' :: word) notes false :=
    mem_search_iff.2 ⟨_, rfl, by decide⟩
  have hone : 1 ∈ search q notes false := mem_search_iff.2 ⟨_, rfl, by decide⟩
  have hnone : 1 ∉ search (q ++ ' ' :: word) notes false := by
    rw [mem_search_iff]
    rintro ⟨second, hsecond, hadmits⟩
    cases hsecond
    exact absurd hadmits (by decide)
  obtain ⟨-, -, hsame, hdivide, -⟩ := query_laws q [] notes false
  have hparts := hdivide word hword.1 hword.2.1 hword.2.2
  exact ⟨hwords, hsame _ hwords, hword.1, hword.2.1, hword.2.2,
    ⟨hzero, fun h => (hparts 0).2 ⟨hzero, h⟩⟩, hnone, ((hparts 1).1.1 hone).resolve_left hnone⟩

end Search
end Slipbox
