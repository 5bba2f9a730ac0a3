import Slipbox.Proofs.Markup.Canonical

/-!
# When a printed run reads back

Among the spans of a run only code has two spellings. Code without a newline is
printed between single marks, and those can join with stray marks on both sides to
make a fence. `Run.Settled` excludes exactly this: it follows the plain text directly
before each span, and where that ends with two marks, no two marks may follow the
code. A run that was read is read back from what is printed if and only if it is
settled (`textRun_of_settled`, `settled_of_textRun`).
-/

namespace Slipbox.Markup

open Slipbox.Parsing

variable {s m m' r z : Text} {before : Text} {raw run : Run}

/-! ### Settled runs -/

/-- No code on one line has two marks of plain text directly before it and two marks after it.
The plain text that comes before the run directly is `before`. -/
def Run.SettledAfter (before : Text) : Run → Prop
  | [] => True
  | x :: run =>
    match x.kind with
    | .plain => Run.SettledAfter (before ++ x.text) run
    | .code =>
      ('\n' ∉ x.text → ['\x60', '\x60'] <:+ before → ¬ ['\x60', '\x60'] <+: Run.spelling run) ∧
        Run.SettledAfter [] run
    | _ => Run.SettledAfter [] run

def Run.Settled (run : Run) : Prop := run.SettledAfter []

theorem Run.SettledAfter.tail {x : Span} (h : Run.SettledAfter before (x :: run))
    (hx : x.kind ≠ .plain) : run.SettledAfter [] := by
  obtain ⟨kind, t⟩ := x
  cases kind with
  | plain => exact absurd rfl hx
  | code => exact h.2
  | _ => exact h

theorem Run.settledAfter_cons {x : Span} :
    Run.SettledAfter before (Run.cons x run) ↔ Run.SettledAfter before (x :: run) := by
  cases run with
  | nil => exact Iff.rfl
  | cons y run =>
    simp only [Run.cons]
    split
    · next hplain =>
      obtain ⟨⟨_, t⟩, ⟨_, u⟩⟩ := x, y
      obtain ⟨rfl, rfl⟩ := hplain
      simp only [Run.SettledAfter, List.append_assoc]
    · exact Iff.rfl

/-- Merging plain texts does not change what stands before a span. -/
theorem Run.settledAfter_flatten :
    Run.SettledAfter before (flatten raw) ↔ Run.SettledAfter before raw := by
  induction raw generalizing before with
  | nil => exact Iff.rfl
  | cons x raw ih =>
    rw [flatten_cons, Run.settledAfter_cons]
    obtain ⟨kind, t⟩ := x
    cases kind with
    | code =>
      simp only [Run.SettledAfter]
      rw [ih, Run.spelling_flatten]
    | _ => exact ih

/-! ### Reading back settles -/

theorem ReadsStyled.canonical {x : Span} (h : ReadsStyled s x r) :
    x.kind ≠ .plain ∧ x.Canonical := by
  cases h with
  | operator known =>
    refine ⟨by simp, ?_, by simp [SpanKind.stops, Avoids], fun _ => known⟩
    rintro rfl
    exact absurd known (by decide)
  | enclosed encloses nonempty avoids =>
    cases encloses with
    | code =>
      refine ⟨by simp, nonempty, ?_, by simp⟩
      intro c hc
      have := avoids c hc
      simp only [List.mem_cons, not_or] at this
      simpa [SpanKind.stops] using this.1
    | _ => exact ⟨by simp, nonempty, avoids, by simp⟩

theorem ReadsStyled.spaced {x : Span} (h : ReadsStyled s x r) (hx : x.kind = .operator) :
    r.head? = some ' ' := by
  cases h with
  | operator _ spaced => exact spaced
  | enclosed encloses => cases encloses <;> exact nomatch hx

/-- No styled span begins at the marks that the plain text before ends with. -/
def Unclaimed (before s : Text) : Prop :=
  ∀ k, List.replicate (k + 1) '\x60' <:+ before → Fails styled (List.replicate (k + 1) '\x60' ++ s)

theorem unclaimed_nil (s : Text) : Unclaimed [] s := by
  intro k hk
  rw [List.suffix_nil, List.replicate_eq_nil_iff] at hk
  omega

theorem suffix_concat_iff {c : Char} {k : Nat} :
    List.replicate (k + 1) '\x60' <:+ before ++ [c] ↔
      c = '\x60' ∧ List.replicate k '\x60' <:+ before := by
  rw [List.replicate_succ', List.suffix_concat_iff]
  constructor
  · rintro (h | ⟨t, heq, ht⟩)
    · simp at h
    · obtain ⟨rfl, hc⟩ := List.append_inj' heq rfl
      exact ⟨(List.cons.inj hc).1.symm, ht⟩
  · rintro ⟨rfl, h⟩
    exact .inr ⟨_, rfl, h⟩

theorem Unclaimed.stray {c : Char} (h : Unclaimed before (c :: s)) (hc : Fails styled (c :: s)) :
    Unclaimed (before ++ [c]) s := by
  intro k hk
  obtain ⟨rfl, hsuffix⟩ := suffix_concat_iff.1 hk
  cases k with
  | zero => exact hc
  | succ k =>
    rw [List.replicate_succ', List.append_assoc]
    exact h k hsuffix

theorem unclaimed_append {t : Text} (hne : t ≠ []) (ht : '\x60' ∉ t) (s : Text) :
    Unclaimed (before ++ t) s := by
  intro k hk
  obtain ⟨t, c, rfl⟩ := (List.eq_nil_or_concat t).resolve_left hne
  rw [List.concat_eq_append] at ht hk
  rw [← List.append_assoc] at hk
  obtain ⟨rfl, -⟩ := suffix_concat_iff.1 hk
  exact absurd (List.mem_append_right t List.mem_cons_self) ht

theorem Run.settledAfter_of_readsBack (h : ReadsBack span Span.spelling raw r)
    (hbefore : Unclaimed before (raw.spelling ++ r)) : raw.SettledAfter before := by
  induction h generalizing before with
  | stop => trivial
  | @step x raw r head _ ih =>
    have hread := span_eq_ok_iff.1 head
    rw [Run.spelling_cons, List.append_assoc] at hbefore
    change Unclaimed before (x.spelling ++ (Run.spelling raw ++ r)) at hbefore
    change ReadsSpan (x.spelling ++ (Run.spelling raw ++ r)) x (Run.spelling raw ++ r) at hread
    generalize hs : x.spelling ++ (Run.spelling raw ++ r) = s at hread hbefore
    cases hread with
    | styled styled =>
      obtain ⟨hkind, hx⟩ := styled.canonical
      have htail := ih (unclaimed_nil _)
      obtain ⟨kind, t⟩ := x
      cases kind with
      | plain => exact absurd rfl hkind
      | code =>
        refine ⟨?_, htail⟩
        rintro hline hmarks ⟨u, hu⟩
        -- the two marks before, the code and the two marks after it would be fenced code
        have hfence := ReadsStyled.enclosed (r := u ++ r) .fence hx.nonempty hx.avoids
        apply hfence.not_fails
        have hclaimed := hbefore 1 hmarks
        rw [← hs, ← hu] at hclaimed
        simpa [Span.spelling, hline, delimited] using hclaimed
      | _ => exact htail
    | plain nonempty avoids =>
      refine ih (unclaimed_append nonempty ?_ _)
      intro hmem
      exact avoids _ hmem (by decide)
    | stray _ unclaimed => exact ih (hbefore.stray unclaimed)

/-! ### Settled runs read back

The printed rest of a text respells the rest that was read. Brackets are dropped from
it only before white space.
-/

/-- Brackets may be dropped before white space and at the end. -/
def BeforeBlank : Text → Text → Prop := fun _ q => Ended q

theorem Chain.respelled (h : Chain span z raw m) (hm : Respelled BeforeBlank m m') :
    Respelled BeforeBlank z (Run.spelling raw ++ m') := by
  obtain ⟨w, hw, rfl⟩ := Chain.concat span_spells h
  exact (Run.Spells.respelled hw).append_of_never hm

/-- A printed body between marks was a body between the same marks. -/
theorem exists_body {d : Char} {k : Nat} {stops : List Char} {t q w : Text}
    (h : Respelled BeforeBlank w (t ++ (List.replicate (k + 1) d ++ q))) (hd : d ∈ specials)
    (hspace : d ≠ ' ') (hstops : ∀ c ∈ stops, c = d ∨ c = '\n') (hne : t ≠ [])
    (ht : Avoids stops t) :
    ∃ t' q', w = t' ++ (List.replicate (k + 1) d ++ q') ∧ t' ≠ [] ∧ Avoids stops t' := by
  have hmark : ∀ c ∈ specials, c ≠ ' ' →
      c ≠ 'h' ∧ Text.isBlank c = false ∧ c ≠ '[' ∧ c ≠ ']' := by decide
  obtain ⟨hh, hblank, hopen, hclose⟩ := hmark d hd hspace
  obtain ⟨t', q', rfl, hne', hmem⟩ := h.exists_closing hh hblank fun _ _ hq => hq
  refine ⟨t', q', rfl, hne' hne, ?_⟩
  intro c hc hstop
  rcases hmem c hc with hc | ⟨hbracket, -⟩
  · exact ht c hc hstop
  · simp only [List.mem_cons, List.not_mem_nil, or_false] at hbracket
    rcases hbracket with rfl | rfl
    · rcases hstops _ hstop with heq | heq
      · exact hopen heq.symm
      · exact absurd heq (by decide)
    · rcases hstops _ hstop with heq | heq
      · exact hclose heq.symm
      · exact absurd heq (by decide)

theorem Encloses.ticks {kind : SpanKind} {n : Nat} {stops : List Char}
    (h : Encloses kind (List.replicate (n + 1) '\x60') stops) :
    n = 0 ∨ n = 2 ∧ stops = ['\x60'] := by
  generalize hd : List.replicate (n + 1) '\x60' = delimiter at h
  have hhead : delimiter.head? = some '\x60' := by
    rw [← hd, List.replicate_succ]
    rfl
  have hlength : delimiter.length = n + 1 := by rw [← hd, List.length_replicate]
  cases h with
  | fence => exact .inr ⟨(Nat.succ.inj hlength).symm, rfl⟩
  | code => exact .inl (Nat.succ.inj hlength).symm
  | _ => exact absurd hhead (by decide)

/-- A stray character that opens nothing in the text opens nothing in the print. The marks of code
are left out, as their number may change. -/
theorem styled_fails_respelled {c : Char} {z' : Text} (hz : Respelled BeforeBlank z z')
    (hc : c ≠ '\x60') (hfails : Fails styled (c :: z)) : Fails styled (c :: z') := by
  rw [fails_iff]
  intro x q hok
  have hread := styled_eq_ok_iff.1 hok
  generalize hs : c :: z' = s at hread
  cases hread with
  | @operator symbol _ known spaced =>
    obtain ⟨x, rfl⟩ := List.head?_eq_some_iff.1 spaced
    obtain ⟨rfl, rfl⟩ := List.cons.inj hs
    have hletters : ∀ o ∈ operators, '\x60' ∉ o ++ [' '] ∧ 'h' ∉ o ++ [' '] := by decide
    obtain ⟨htick, hh⟩ := hletters symbol known
    have hz' : Respelled BeforeBlank z (symbol ++ [' '] ++ x) := by simpa using hz
    obtain ⟨w, rfl, -⟩ := hz'.exists_append htick (.inl hh)
    have hread := ReadsStyled.operator (r := ' ' :: w) known rfl
    apply hread.not_fails
    simpa using hfails
  | @enclosed kind delimiter stops t _ encloses nonempty avoids =>
    obtain ⟨d, n, rfl, -, hd, hspace, hstops⟩ := encloses.delimiter_eq
    have hparts : c = d ∧ z' = List.replicate n d ++ (t ++ (List.replicate (n + 1) d ++ q)) := by
      simpa [delimited, List.replicate_succ] using hs
    obtain ⟨rfl, rfl⟩ := hparts
    have hmarks : ∀ e ∈ List.replicate n c, e = c := fun _ => List.eq_of_mem_replicate
    have htick : '\x60' ∉ List.replicate n c := fun hmem => hc (hmarks _ hmem).symm
    have hh : 'h' ∉ List.replicate n c := by
      intro hmem
      rw [← hmarks _ hmem] at hd
      exact absurd hd (by decide)
    obtain ⟨z₁, rfl, hz₁⟩ := hz.exists_append htick (.inl hh)
    obtain ⟨t', q', rfl, hne, ht⟩ := exists_body hz₁ hd hspace hstops nonempty avoids
    have hread := ReadsStyled.enclosed (r := q') encloses hne ht
    apply hread.not_fails
    simpa [delimited, List.replicate_succ] using hfails

/-! ### Marks of code -/

/-- Where marks of code are followed by another character, they open code only all together. -/
theorem ReadsStyled.exists_code {x : Span} {k : Nat}
    (h : ReadsStyled (List.replicate (k + 1) '\x60' ++ s) x r) (hs : Next (· ≠ '\x60') s) :
    ∃ stops t, Encloses .code (List.replicate (k + 1) '\x60') stops ∧ t ≠ [] ∧ Avoids stops t ∧
      s = t ++ (List.replicate (k + 1) '\x60' ++ r) := by
  generalize hall : List.replicate (k + 1) '\x60' ++ s = s' at h
  rw [List.replicate_succ] at hall
  cases h with
  | operator => exact absurd (List.cons.inj hall).1 (by decide)
  | @enclosed kind delimiter stops t _ encloses nonempty avoids =>
    obtain ⟨d, n, rfl, hstop, -⟩ := encloses.delimiter_eq
    obtain ⟨rfl, -⟩ : '\x60' = d ∧ _ := by
      simpa [delimited, List.replicate_succ] using hall
    have hmem : '\x60' ∉ t := fun hmem => avoids _ hmem hstop
    have hbody : Next (· ≠ '\x60') (t ++ (List.replicate (n + 1) '\x60' ++ r)) :=
      next_append nonempty (List.forall_mem_ne'.2 hmem) _
    rw [← List.replicate_succ, delimited, List.append_assoc, List.append_assoc] at hall
    obtain ⟨hn, rfl⟩ := replicate_append_inj hs hbody hall
    obtain rfl := Nat.succ.inj hn
    have hkind : kind = .code := by
      generalize hd : List.replicate (k + 1) '\x60' = delimiter at encloses
      rw [List.replicate_succ] at hd
      cases encloses with
      | fence => rfl
      | code => rfl
      | _ => exact absurd (List.cons.inj hd).1 (by decide)
    subst hkind
    exact ⟨stops, t, encloses, nonempty, avoids, rfl⟩

/-- Marks that open no code in the text open none in the print, if no more marks follow there. -/
theorem Unclaimed.respelled {z' : Text} (h : Unclaimed before z)
    (hz : Respelled BeforeBlank z z') (hnext : Next (· ≠ '\x60') z') : Unclaimed before z' := by
  intro k hk
  rw [fails_iff]
  intro x q hok
  obtain ⟨stops, t, encloses, hne, ht, rfl⟩ := (styled_eq_ok_iff.1 hok).exists_code hnext
  obtain ⟨d, n, hd, -, hspecial, hspace, hstops⟩ := encloses.delimiter_eq
  rw [List.replicate_succ, List.replicate_succ] at hd
  obtain rfl := (List.cons.inj hd).1
  obtain ⟨t', q', rfl, hne', ht'⟩ := exists_body hz hspecial hspace hstops hne ht
  have hread := ReadsStyled.enclosed (r := q') encloses hne' ht'
  rw [delimited, List.append_assoc, List.append_assoc] at hread
  exact hread.not_fails (h k hk)

/-- Code takes the marks before it only if as many follow. -/
theorem unclaimed_code {t : Text} (hne : t ≠ []) (ht : '\x60' ∉ t)
    (hmarks : '\n' ∉ t → ['\x60', '\x60'] <:+ before → ¬ ['\x60', '\x60'] <+: s) :
    Unclaimed before (Span.spelling ⟨.code, t⟩ ++ s) := by
  have hnext : ∀ u, Next (· ≠ '\x60') (t ++ u) := next_append hne (List.forall_mem_ne'.2 ht)
  intro k hk
  rw [fails_iff]
  intro x q hok
  have hread := styled_eq_ok_iff.1 hok
  by_cases hline : '\n' ∈ t
  · -- one fence and a mark before it are longer than any delimiter
    have hall : List.replicate (k + 1) '\x60' ++ (Span.spelling ⟨.code, t⟩ ++ s) =
        List.replicate (k + 3 + 1) '\x60' ++ (t ++ ("```".toList ++ s)) := by
      simp [Span.spelling, hline, delimited, List.replicate_succ']
    rw [hall] at hread
    obtain ⟨stops, u, encloses, -⟩ := hread.exists_code (hnext _)
    rcases encloses.ticks with hk | ⟨hk, -⟩
    · omega
    · omega
  · have hall : List.replicate (k + 1) '\x60' ++ (Span.spelling ⟨.code, t⟩ ++ s) =
        List.replicate (k + 1 + 1) '\x60' ++ (t ++ '\x60' :: s) := by
      simp [Span.spelling, hline, delimited, List.replicate_succ']
    rw [hall] at hread
    obtain ⟨stops, u, encloses, -, hu, heq⟩ := hread.exists_code (hnext _)
    rcases encloses.ticks with hk' | ⟨hk', rfl⟩
    · omega
    · obtain rfl : k = 1 := by omega
      have huv : '\x60' ∉ u := fun hmem => hu _ hmem List.mem_cons_self
      obtain ⟨-, hs⟩ := cut_unique ht huv (heq.trans (by simp [List.replicate_succ]; rfl))
      exact hmarks hline hk ⟨_, hs.symm⟩

/-! ### Runs -/

theorem readsBack_of_settled (hchain : Chain span z raw m) (hm : Respelled BeforeBlank m m')
    (hend : LineEnd m) (hsettled : Run.SettledAfter before raw) (hbefore : Unclaimed before z) :
    Unclaimed before (Run.spelling raw ++ m') ∧ ReadsBack span Span.spelling raw m' := by
  have hend' : LineEnd m' := hm.next (by decide) hend
  have hz := Chain.respelled hchain hm
  induction hchain generalizing before with
  | stop z =>
    refine ⟨hbefore.respelled hz ?_, .stop m'⟩
    intro c hc
    rw [hend' c hc]
    decide
  | @step s z _ x raw head shorter tail ih =>
    have hrest := Chain.respelled tail hm
    have hread := span_eq_ok_iff.1 head
    -- a span that begins otherwise leaves the marks before it alone
    have hother : Next (· ≠ '\x60') (Run.spelling (x :: raw) ++ m') →
        Unclaimed before (Run.spelling (x :: raw) ++ m') := hbefore.respelled hz
    rw [Run.spelling_cons, List.append_assoc] at hother ⊢
    cases hread with
    | styled styled =>
      obtain ⟨hkind, hx⟩ := styled.canonical
      obtain ⟨-, hreads⟩ := ih hm hend (hsettled.tail hkind) (unclaimed_nil z) hrest
      have hspace : x.kind = .operator → (Run.spelling raw ++ m').head? = some ' ' := by
        intro hop
        have hz := styled.spaced hop
        rcases hrest.head?_eq with hsame | ⟨hbracket, -⟩
        · rwa [← hsame]
        · rw [hz] at hbracket
          exact absurd (Option.some.inj hbracket) (by decide)
      refine ⟨?_, .step (span_eq_ok_iff.2 (.styled (hx.readsStyled hkind hspace))) hreads⟩
      obtain ⟨kind, t⟩ := x
      cases kind with
      | plain => exact absurd rfl hkind
      | code =>
        refine unclaimed_code hx.nonempty (fun hmem => hx.avoids _ hmem List.mem_cons_self) ?_
        intro hline hmarks hlead
        exact hsettled.1 hline hmarks (prefix_of_lineEnd (by decide) hend' hlead)
      | _ => exact hother (by simp [Span.spelling, delimited])
    | @plain t _ nonempty avoids ends =>
      have htick : '\x60' ∉ t := fun hmem => avoids _ hmem (by decide)
      obtain ⟨-, hreads⟩ := ih hm hend hsettled (unclaimed_append nonempty htick z) hrest
      have hends := hrest.next (by decide) ends
      refine ⟨hother ?_, .step (span_eq_ok_iff.2 (.plain nonempty avoids hends)) hreads⟩
      exact next_append nonempty (List.forall_mem_ne'.2 htick) _
    | @stray c _ special unclaimed =>
      obtain ⟨hlast, hreads⟩ := ih hm hend hsettled (hbefore.stray unclaimed) hrest
      by_cases hc : c = '\x60'
      · subst hc
        have hfails : Fails styled ('\x60' :: (Run.spelling raw ++ m')) :=
          hlast 0 (suffix_concat_iff.2 ⟨rfl, List.nil_suffix⟩)
        refine ⟨?_, .step (span_eq_ok_iff.2 (.stray special hfails)) hreads⟩
        intro k hk
        have := hlast (k + 1) (suffix_concat_iff.2 ⟨rfl, hk⟩)
        rw [List.replicate_succ', List.append_assoc] at this
        exact this
      · have hfails := styled_fails_respelled hrest hc unclaimed
        refine ⟨hother ?_, .step (span_eq_ok_iff.2 (.stray special hfails)) hreads⟩
        exact (next_cons _ _ _).2 hc

/-- A run that was read is read back from its print when it is settled. -/
theorem textRun_of_settled (h : textRun s = .ok (run, m)) (hm : Respelled BeforeBlank m m')
    (hsettled : run.Settled) : textRun (run.spelling ++ m') = .ok (run, m') := by
  obtain ⟨raw, hne, hchain, hend, rfl⟩ := textRun_eq_ok_iff.1 h
  have hraw := Run.settledAfter_flatten.1 hsettled
  obtain ⟨-, hreads⟩ := readsBack_of_settled hchain hm hend hraw (unclaimed_nil s)
  rw [Run.spelling_flatten]
  exact textRun_eq_ok_iff.2
    ⟨raw, hne, hreads.chain advances_span, hm.next (by decide) hend, rfl⟩

theorem takesWritten_span : TakesWritten span Span.spelling := by
  intro s x r h
  obtain ⟨w, hw, rfl⟩ := span_spells h
  exact ⟨w, rfl, hw.respelled.length_le⟩

/-- A run that is read back from its print is settled. -/
theorem settled_of_textRun (h : textRun (run.spelling ++ r) = .ok (run, r)) : run.Settled := by
  obtain ⟨raw, -, hchain, -, rfl⟩ := textRun_eq_ok_iff.1 h
  rw [Run.spelling_flatten] at hchain
  have hreads := Chain.readsBack takesWritten_span hchain
  exact Run.settledAfter_flatten.2 (Run.settledAfter_of_readsBack hreads (unclaimed_nil _))

end Slipbox.Markup
