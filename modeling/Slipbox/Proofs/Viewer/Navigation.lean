import Mathlib
import Slipbox.Proofs.Viewer.Outcomes

/-!
# Walking through the list

While browsing, two keys select the next note and two the previous one, and the list is a ring:
behind the last place comes the first. The next place is a remainder, the previous one a case
distinction, but both are the old place moved by one, modulo the length of the list
(`Sound.next_selected`, `Sound.previous_selected`).

A walk is any sequence of these keys, with drawings of the screen between them and on a disk that
others may change. What one step does to the place is said by its shift, and a walk adds the
shifts up (`Sound.walk`). So the place after a walk depends only on how often it went down and up
(`navigation`).
-/

namespace Slipbox

namespace Viewer

variable {d : Disk} {s after : Session} {place : Nat}

/-! ### Steps -/

/-- The keys that select the next note. -/
def Key.isDown : Key → Bool
  | .down | .char 'j' => true
  | _ => false

/-- The keys that select the previous note. -/
def Key.isUp : Key → Bool
  | .up | .char 'k' => true
  | _ => false

theorem Key.isDown_iff {key : Key} : key.isDown = true ↔ key = .down ∨ key = .char 'j' := by
  unfold Key.isDown
  split
  · simp
  · simp
  · simp_all

theorem Key.isUp_iff {key : Key} : key.isUp = true ↔ key = .up ∨ key = .char 'k' := by
  unfold Key.isUp
  split
  · simp
  · simp
  · simp_all

/-- What happens to a session while nothing happens to its list: a key is pressed, on the disk as
it then is, or the screen is drawn. -/
inductive Step where
  | press (d : Disk) (key : Key)
  | draw

namespace Step

def isDown : Step → Bool
  | press _ key => key.isDown
  | draw => false

def isUp : Step → Bool
  | press _ key => key.isUp
  | draw => false

/-- Every key that is pressed moves the selection. -/
def Walks : Step → Prop
  | press _ key => key.isDown = true ∨ key.isUp = true
  | draw => True

/-- How far the step moves the selection. -/
def shift (step : Step) : Int := (if step.isDown then 1 else 0) - if step.isUp then 1 else 0

theorem sum_shift (steps : List Step) :
    (steps.map shift).sum = steps.countP isDown - steps.countP isUp := by
  induction steps with
  | nil => rfl
  | cons step steps ih =>
    rw [List.map_cons, List.sum_cons, ih, List.countP_cons, List.countP_cons, shift]
    split <;> split <;> push_cast <;> omega

end Step

namespace Session

/-- The session after a step. -/
def step (s : Session) : Step → Session
  | .press d key => (s.press d key).2
  | .draw => s.draw.1

/-- The list stays with all that it is made from. -/
structure Stays (s after : Session) : Prop where
  root : after.root = s.root
  notes : after.notes = s.notes
  query : after.query = s.query
  unique : after.unique = s.unique
  listed : after.listed = s.listed
  mode : after.mode = s.mode

theorem stays_self (s : Session) : s.Stays s := ⟨rfl, rfl, rfl, rfl, rfl, rfl⟩

theorem Stays.trans {last : Session} (h : s.Stays after) (h' : after.Stays last) :
    s.Stays last where
  root := h'.root.trans h.root
  notes := h'.notes.trans h.notes
  query := h'.query.trans h.query
  unique := h'.unique.trans h.unique
  listed := h'.listed.trans h.listed
  mode := h'.mode.trans h.mode

theorem Moves.stays (h : s.Moves after) : s.Stays after :=
  ⟨h.root, h.notes, h.query, h.unique, h.listed, h.mode⟩

/-! ### One step -/

namespace Sound

theorem selected_eq_none (h : s.Sound) (hlisted : s.listed = []) : s.selected = none := by
  cases hplace : s.selected with
  | none => rfl
  | some place =>
    have hin : place < s.listed.length := h.inList place hplace
    rw [hlisted] at hin
    exact absurd hin (Nat.not_lt_zero place)

theorem next_selected (h : s.Sound) (hplace : s.selected = some place) :
    s.next.selected = some ((place + 1) % s.listed.length) := by
  have hpos : 0 < s.listed.length := Nat.zero_lt_of_lt (h.inList place hplace)
  have hlisted : ¬ s.listed.isEmpty = true := by simpa [List.length_pos_iff] using hpos
  rw [Session.next, if_neg hlisted, hplace]
  rfl

theorem previous_selected (h : s.Sound) (hplace : s.selected = some place) :
    ∃ before : Nat, s.previous.selected = some before ∧
      (before : Int) = (place - 1) % s.listed.length := by
  have hin : place < s.listed.length := h.inList place hplace
  have hlisted : ¬ s.listed.isEmpty = true := by
    simpa [List.length_pos_iff] using Nat.zero_lt_of_lt hin
  rw [Session.previous, if_neg hlisted, hplace]
  cases place with
  | zero =>
    -- one place before the first stands the last
    refine ⟨s.listed.length - 1, rfl, ?_⟩
    have hlast : ((0 : Nat) - 1 + s.listed.length * 1 : Int) % s.listed.length =
        ((0 : Nat) - 1) % s.listed.length := Int.add_mul_emod_self_left _ _ 1
    rw [← hlast, Int.emod_eq_of_lt] <;> omega
  | succ before =>
    refine ⟨before, rfl, ?_⟩
    rw [Int.emod_eq_of_lt] <;> omega

end Sound

theorem press_of_isDown {key : Key} (hmode : s.mode = .browse) (hkey : key.isDown = true) :
    (s.press d key).2 = next { s with status := none } := by
  rw [press_of_browse hmode]
  rcases Key.isDown_iff.1 hkey with rfl | rfl
  · rfl
  · rfl

theorem press_of_isUp {key : Key} (hmode : s.mode = .browse) (hkey : key.isUp = true) :
    (s.press d key).2 = previous { s with status := none } := by
  rw [press_of_browse hmode]
  rcases Key.isUp_iff.1 hkey with rfl | rfl
  · rfl
  · rfl

theorem stays_hush (s : Session) : s.Stays { s with status := none } :=
  ⟨rfl, rfl, rfl, rfl, rfl, rfl⟩

theorem stays_step {step : Step} (hmode : s.mode = .browse) (hstep : step.Walks) :
    s.Stays (s.step step) := by
  cases step with
  | press d key =>
    show s.Stays (s.press d key).2
    rcases hstep with hkey | hkey
    · rw [press_of_isDown hmode hkey]
      exact s.stays_hush.trans (moves_next _).stays
    · rw [press_of_isUp hmode hkey]
      exact s.stays_hush.trans (moves_previous _).stays
  | draw =>
    show s.Stays s.scrolled
    rw [scrolled]
    split
    · exact (s.moves_select _).stays
    · exact ⟨rfl, rfl, rfl, rfl, rfl, rfl⟩

namespace Sound

theorem step (h : s.Sound) (step : Step) : (s.step step).Sound := by
  cases step with
  | press d key => exact h.press d key
  | draw => exact h.draw

/-- A step moves the selection by its shift. -/
theorem step_selected {step : Step} (h : s.Sound) (hmode : s.mode = .browse)
    (hstep : step.Walks) (hplace : s.selected = some place) :
    ∃ moved : Nat, (s.step step).selected = some moved ∧
      (moved : Int) = (place + step.shift) % s.listed.length := by
  cases step with
  | press d key =>
    show ∃ moved : Nat, (s.press d key).2.selected = some moved ∧ _
    rcases hstep with hkey | hkey
    · rw [press_of_isDown hmode hkey]
      have hshift : (Step.press d key).shift = 1 := by
        rcases Key.isDown_iff.1 hkey with rfl | rfl
        · rfl
        · rfl
      rw [hshift]
      exact ⟨_, h.hush.next_selected hplace, by push_cast; rfl⟩
    · rw [press_of_isUp hmode hkey]
      have hshift : (Step.press d key).shift = -1 := by
        rcases Key.isUp_iff.1 hkey with rfl | rfl
        · rfl
        · rfl
      rw [hshift]
      exact h.hush.previous_selected hplace
  | draw =>
    have hin : place < s.listed.length := h.inList place hplace
    have hlisted : ¬ s.listed.isEmpty = true := by
      simpa [List.length_pos_iff] using Nat.zero_lt_of_lt hin
    refine ⟨place, ?_, ?_⟩
    · show s.scrolled.selected = some place
      rw [scrolled, if_neg hlisted]
      exact hplace
    · show (place : Int) = (place + 0) % s.listed.length
      rw [Int.add_zero, Int.emod_eq_of_lt] <;> omega

/-! ### Walks -/

/-- A walk keeps the list and moves the selection by the sum of the shifts. -/
theorem walk (h : s.Sound) (hmode : s.mode = .browse) {steps : List Step}
    (hsteps : ∀ step ∈ steps, step.Walks) :
    (steps.foldl Session.step s).Sound ∧ s.Stays (steps.foldl Session.step s) ∧
      ∀ place, s.selected = some place → ∃ last : Nat,
        (steps.foldl Session.step s).selected = some last ∧
        (last : Int) = (place + (steps.map Step.shift).sum) % s.listed.length := by
  induction steps generalizing s with
  | nil =>
    refine ⟨h, s.stays_self, fun place hplace => ⟨place, hplace, ?_⟩⟩
    have hin : place < s.listed.length := h.inList place hplace
    rw [List.map_nil, List.sum_nil, Int.add_zero, Int.emod_eq_of_lt] <;> omega
  | cons step steps ih =>
    rw [List.forall_mem_cons] at hsteps
    have hstays : s.Stays (s.step step) := stays_step hmode hsteps.1
    obtain ⟨hsound, hrest, hselected⟩ := ih (h.step step) (hstays.mode.trans hmode) hsteps.2
    refine ⟨hsound, hstays.trans hrest, fun place hplace => ?_⟩
    obtain ⟨moved, hmoved, hshift⟩ := h.step_selected hmode hsteps.1 hplace
    obtain ⟨last, hlast, hsum⟩ := hselected moved hmoved
    refine ⟨last, hlast, ?_⟩
    calc (last : Int)
        = ((place + step.shift) % s.listed.length + (steps.map Step.shift).sum) %
            s.listed.length := by rw [hsum, hshift, hstays.listed]
      _ = (place + step.shift + (steps.map Step.shift).sum) % s.listed.length :=
          Int.emod_add_emod ..
      _ = _ := by rw [List.map_cons, List.sum_cons, Int.add_assoc]

end Sound
end Session

/-- **The selection walks through the list modulo its length.** From any state that is reached
while browsing, keys that go down and up in any order, also with drawings between them and with
changes of the disk, lead from a place to the one that is as many further as they go down more
often than up, counted modulo the length of the list. The list stays with all that it is made
from. Where nothing is listed nothing is selected, before and after. -/
theorem navigation (h : Reached d s) (hmode : s.mode = .browse) {steps : List Step}
    (hsteps : ∀ step ∈ steps, step.Walks) :
    let last := steps.foldl Session.step s
    s.Stays last ∧
      (s.listed = [] → s.selected = none ∧ last.selected = none) ∧
      (s.listed ≠ [] → ∃ i j : Nat, s.selected = some i ∧ last.selected = some j ∧
        (j : Int) = (i + steps.countP Step.isDown - steps.countP Step.isUp) % s.listed.length) := by
  intro last
  have hsound : s.Sound := h.sound
  obtain ⟨hlast, hstays, hwalk⟩ := hsound.walk hmode hsteps
  refine ⟨hstays, fun hlisted => ⟨?_, ?_⟩, fun hlisted => ?_⟩
  · exact hsound.selected_eq_none hlisted
  · exact hlast.selected_eq_none (hstays.listed.trans hlisted)
  · cases hplace : s.selected with
    | none => exact absurd (hsound.unselected hplace) hlisted
    | some i =>
      obtain ⟨j, hj, hsum⟩ := hwalk i hplace
      rw [Step.sum_shift, ← Int.add_sub_assoc] at hsum
      exact ⟨i, j, rfl, hj, hsum⟩

/-- Twice up from the first of three notes and once down, after the screen is drawn. -/
theorem navigation_around_end :
    let place (name : String) : Location := ["n".toList, name.toList]
    let note : Entry := .file (encodeText "@x\n".toList)
    let disk : Disk := ⟨[(place "a.zettel", note), (place "b.zettel", note),
      (place "c.zettel", note), (["n".toList], .directory)], []⟩
    let steps : List Step := [.press disk .up, .draw, .press disk (.char 'k'), .press disk .down]
    ∃ s, Session.start disk "/n".toList none = .ok s ∧ s.mode = .browse ∧
      (∀ step ∈ steps, step.Walks) ∧ s.selected = some 0 ∧
      (steps.foldl Session.step s).selected = some 2 := by
  intro place note disk steps
  have hrun : (Session.start disk "/n".toList none).toOption.map
      (fun s => (s.listed.length, s.selected, s.mode)) = some (3, some 0, .browse) := by
    cbv
  obtain ⟨s, hs, hstate⟩ := Option.map_eq_some_iff.1 hrun
  obtain ⟨hlength, hselected, hmode⟩ : s.listed.length = 3 ∧ s.selected = some 0 ∧
      s.mode = .browse := by
    simpa using hstate
  have hstart : Session.start disk "/n".toList none = .ok s := by
    rcases hstart : Session.start disk "/n".toList none with e | s'
    · rw [hstart] at hs
      cases hs
    · rw [hstart] at hs
      exact congrArg Except.ok (Option.some.inj hs)
  have hsteps : ∀ step ∈ steps, step.Walks := by
    simp [steps, Step.Walks, Key.isDown, Key.isUp]
  have hlisted : s.listed ≠ [] := by
    intro hnil
    simp [hnil] at hlength
  obtain ⟨-, -, hwalk⟩ := navigation (.start hstart) hmode hsteps
  obtain ⟨i, j, hi, hj, hsum⟩ := hwalk hlisted
  obtain rfl : i = 0 := Option.some.inj (hi.symm.trans hselected)
  have hdown : steps.countP Step.isDown = 1 := rfl
  have hup : steps.countP Step.isUp = 2 := rfl
  obtain rfl : j = 2 := by
    rw [hlength, hdown, hup] at hsum
    omega
  exact ⟨s, hstart, hmode, hsteps, hselected, hj⟩

end Viewer
end Slipbox
