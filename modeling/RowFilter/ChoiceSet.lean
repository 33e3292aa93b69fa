import RowFilter.Fault

/-!
# Choice sets

The choices of a column in the order in which they are shown, with the subset that is chosen. The
chosen ones are kept in the same order and once each, so equal sets are equal values.
-/

namespace RowFilter

structure ChoiceSet where
  choices : List String
  chosen : List String
  canonical : chosen = choices.eraseDups.filter (· ∈ chosen)
  deriving DecidableEq

/-- Values that were chosen without being choices. -/
structure UnknownChoices where
  values : List String
  deriving DecidableEq

def UnknownChoices.fault (u : UnknownChoices) : Fault :=
  .report .validation "chosen values must be listed in choices" [] none <|
    u.values.map fun v =>
      .object [("field", .text "chosen"), ("value", .text v), ("reason", .text "not a known choice")]

namespace ChoiceSet

def sorted (xs : List String) : List String := xs.mergeSort fun a b => decide (a ≤ b)

/-- The choices with those of the given values chosen that are among them. -/
def select (choices chosen : List String) : ChoiceSet where
  choices := choices
  chosen := choices.eraseDups.filter (· ∈ chosen)
  canonical := by
    apply List.filter_congr
    intro x hx
    simp [List.mem_filter, hx]

def unchosen (choices : List String) : ChoiceSet := select choices []

/-- Refuses values that are not choices. -/
def of (choices chosen : List String) : Except UnknownChoices ChoiceSet :=
  match chosen.filter (· ∉ choices) with
  | [] => .ok (select choices chosen)
  | unknown => .error ⟨sorted unknown.eraseDups⟩

/-- Lists every choice once and drops values that are not choices. -/
def ofKnown (choices chosen : List String) : ChoiceSet := select choices.eraseDups chosen

def isChosen (s : ChoiceSet) (c : String) : Bool := c ∈ s.chosen

/-- Chooses a choice or takes it back; any other text changes nothing. -/
def toggle (s : ChoiceSet) (c : String) : ChoiceSet :=
  if c ∈ s.choices then
    select s.choices (if c ∈ s.chosen then s.chosen.filter (· ≠ c) else c :: s.chosen)
  else s

def toggleAll (s : ChoiceSet) (cs : List String) : ChoiceSet := cs.foldl toggle s

/-- The chosen ones as often and in the order in which they are listed. -/
def selected (s : ChoiceSet) : List String := s.choices.filter (· ∈ s.chosen)

/-! ## Membership -/

@[simp] theorem choices_select (choices chosen : List String) :
    (select choices chosen).choices = choices := rfl

theorem mem_chosen_select {choices chosen : List String} {c : String} :
    c ∈ (select choices chosen).chosen ↔ c ∈ choices ∧ c ∈ chosen := by
  simp [select, List.mem_filter]

theorem mem_choices_of_mem_chosen {s : ChoiceSet} {c : String} (h : c ∈ s.chosen) :
    c ∈ s.choices := by
  rw [s.canonical] at h
  exact List.mem_eraseDups.1 (List.mem_filter.1 h).1

theorem select_chosen (s : ChoiceSet) : select s.choices s.chosen = s := by
  obtain ⟨choices, chosen, h⟩ := s
  unfold select
  congr 1
  exact h.symm

@[simp] theorem choices_toggle (s : ChoiceSet) (c : String) : (s.toggle c).choices = s.choices := by
  unfold toggle
  split <;> simp

end ChoiceSet

end RowFilter
