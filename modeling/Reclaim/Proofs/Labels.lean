import Reclaim.Custody

/-!
# Clauses on labels

A clause on a label is made from a name and a value, or from the finished text
of a filter.  In the first way the name is checked, and the text is put together
from both (`ofLabels_eq_ok_iff`); in the second way the text is taken as it is,
so only then can a filter come about that names no label (`names_of_ofPair`).
-/

set_option autoImplicit false

namespace Reclaim

/-! ## Filters -/

/-- A filter that names a label: `name=value`, and the name is not empty. -/
def NamesLabel (filter : String) : Prop :=
  ∃ name value, name ≠ "" ∧ filter = Clause.labelText name value

theorem toList_labelText (name value : String) :
    (Clause.labelText name value).toList = name.toList ++ '=' :: value.toList := by
  simp [Clause.labelText]

theorem namesLabel_iff {filter : String} : NamesLabel filter ↔ '=' ∈ filter.toList.tail := by
  constructor
  · rintro ⟨name, value, named, rfl⟩
    rw [toList_labelText]
    cases letters : name.toList with
    | nil => exact absurd (String.toList_eq_nil_iff.mp letters) named
    | cons first rest => simp
  · intro member
    cases letters : filter.toList with
    | nil => simp [letters] at member
    | cons first rest =>
      rw [letters, List.tail_cons] at member
      obtain ⟨before, after, split⟩ := List.append_of_mem member
      refine ⟨String.ofList (first :: before), String.ofList after, by simp, ?_⟩
      rw [← String.toList_inj, toList_labelText, letters, split]
      simp

instance (filter : String) : Decidable (NamesLabel filter) :=
  decidable_of_iff _ namesLabel_iff.symm

/-- A clause that names a label if it is one on labels. -/
def Clause.Names (clause : Clause) : Prop := clause.isLabel = true → NamesLabel clause.value

def Selector.Names (selector : Selector) : Prop := ∀ clause ∈ selector.clauses, clause.Names

theorem Selector.names_iff {selector : Selector} :
    selector.Names ↔ ∀ filter ∈ selector.labelFilters, NamesLabel filter := by
  simp only [Selector.Names, Clause.Names, Selector.labelFilters, List.mem_map, List.mem_filter]
  constructor
  · rintro names filter ⟨clause, ⟨member, isLabel⟩, rfl⟩
    exact names clause member isLabel
  · intro names clause member isLabel
    exact names clause.value ⟨clause, ⟨member, isLabel⟩, rfl⟩

/-! ## Ways to make clauses and selectors -/

def Clause.named (name value : String) : Clause :=
  ⟨labelKey, labelText name value, labelKey_ne_empty⟩

theorem Clause.ofLabel_of_ne {name : String} (named : name ≠ "") (value : String) :
    ofLabel name value = .ok (.named name value) := by
  rw [ofLabel, if_neg named, ofPair, dif_pos labelKey_ne_empty]
  rfl

theorem Clause.ofLabel_empty (value : String) : ofLabel "" value = .error (.emptyLabelKey value) :=
  if_pos rfl

theorem Clause.isLabel_named (name value : String) : (Clause.named name value).isLabel = true :=
  beq_self_eq_true labelKey

theorem Clause.names_of_ofLabel {name value : String} {clause : Clause}
    (made : ofLabel name value = .ok clause) :
    clause.isLabel = true ∧ NamesLabel clause.value := by
  by_cases nameless : name = ""
  · rw [nameless, ofLabel_empty] at made
    cases made
  · rw [ofLabel_of_ne nameless] at made
    cases made
    exact ⟨isLabel_named name value, name, value, nameless, rfl⟩

/-- A clause made from a pair names a label, unless it is one on labels and the text given for it
does not name any. -/
theorem Clause.names_of_ofPair {key value : String} {clause : Clause}
    (made : ofPair key value = .ok clause) :
    clause.Names ↔ (key = labelKey → NamesLabel value) := by
  unfold ofPair at made
  split at made
  · cases made
    simp [Names, isLabel]
  · cases made

theorem Selector.names_push {selector : Selector} {clause : Clause} :
    (selector.push clause).Names ↔ selector.Names ∧ clause.Names := by
  simp only [Names, push, List.forall_mem_append, List.forall_mem_singleton]

namespace Selector

theorem ofLabels_cons (label : String × String) (rest : List (String × String)) :
    ofLabels (label :: rest) =
      (Clause.ofLabel label.1 label.2).bind fun clause =>
        (ofLabels rest).map fun selector => ⟨clause :: selector.clauses⟩ := by
  simp only [ofLabels, List.mapM_cons]
  cases Clause.ofLabel label.1 label.2 with
  | error fault => rfl
  | ok clause =>
    cases rest.mapM fun label => Clause.ofLabel label.1 label.2 with
    | error fault => rfl
    | ok clauses => rfl

theorem ofLabels_of_named {labels : List (String × String)}
    (named : ∀ label ∈ labels, label.1 ≠ "") :
    ofLabels labels = .ok ⟨labels.map fun label => Clause.named label.1 label.2⟩ := by
  induction labels with
  | nil => rfl
  | cons label rest ih =>
    have others := ih fun other member => named other (.tail _ member)
    rw [ofLabels_cons, Clause.ofLabel_of_ne (named label (.head _)), others]
    rfl

theorem named_of_ofLabels {labels : List (String × String)} {selector : Selector}
    (made : ofLabels labels = .ok selector) : ∀ label ∈ labels, label.1 ≠ "" := by
  induction labels generalizing selector with
  | nil => exact List.forall_mem_nil _
  | cons label rest ih =>
    rw [ofLabels_cons] at made
    intro other member
    by_cases nameless : label.1 = ""
    · rw [nameless, Clause.ofLabel_empty] at made
      cases made
    · rw [Clause.ofLabel_of_ne nameless] at made
      rcases List.mem_cons.mp member with rfl | inRest
      · exact nameless
      · cases others : ofLabels rest with
        | error fault =>
          rw [others] at made
          cases made
        | ok fewer => exact ih others other inRest

/-- Labels make a selector if none of their names is empty: one clause for each, in order. -/
theorem ofLabels_eq_ok_iff {labels : List (String × String)} {selector : Selector} :
    ofLabels labels = .ok selector ↔
      (∀ label ∈ labels, label.1 ≠ "") ∧
        selector = ⟨labels.map fun label => Clause.named label.1 label.2⟩ := by
  constructor
  · intro made
    have named := named_of_ofLabels made
    rw [ofLabels_of_named named] at made
    cases made
    exact ⟨named, rfl⟩
  · rintro ⟨named, rfl⟩
    exact ofLabels_of_named named

theorem labelFilters_ofLabels {labels : List (String × String)} {selector : Selector}
    (made : ofLabels labels = .ok selector) :
    selector.labelFilters = labels.map fun label => Clause.labelText label.1 label.2 := by
  obtain ⟨-, rfl⟩ := ofLabels_eq_ok_iff.mp made
  have all : (labels.map fun label => Clause.named label.1 label.2).filter Clause.isLabel =
      labels.map fun label => Clause.named label.1 label.2 := by
    rw [List.filter_eq_self]
    intro clause member
    obtain ⟨label, -, rfl⟩ := List.mem_map.mp member
    exact Clause.isLabel_named label.1 label.2
  rw [labelFilters, all, List.map_map]
  rfl

/-- Labels make a selector that names labels only. -/
theorem names_of_ofLabels {labels : List (String × String)} {selector : Selector}
    (made : ofLabels labels = .ok selector) :
    ∀ clause ∈ selector.clauses, clause.isLabel = true ∧ NamesLabel clause.value := by
  obtain ⟨named, rfl⟩ := ofLabels_eq_ok_iff.mp made
  intro clause member
  obtain ⟨label, given, rfl⟩ := List.mem_map.mp member
  exact Clause.names_of_ofLabel (Clause.ofLabel_of_ne (named label given) label.2)

end Selector

/-! ## The identifying labels -/

namespace Custody

/-- A custody starts out with the selector of its identifying labels and nothing else. -/
theorem eq_of_ofSettings {settings : Settings} {custody : Custody}
    (opened : ofSettings settings = .ok custody) :
    Selector.ofLabels settings.labels.entries = .ok custody.selector ∧
      custody =
        { inventory := .empty
          testament := [custody.selector]
          labels := settings.labels
          selector := custody.selector
          patience := settings.patience
          armed := false
          watched := false
          connection := none } := by
  unfold ofSettings at opened
  cases made : Selector.ofLabels settings.labels.entries with
  | error fault =>
    rw [made] at opened
    cases opened
  | ok selector =>
    rw [made] at opened
    cases opened
    exact ⟨rfl, rfl⟩

theorem selector_names {settings : Settings} {custody : Custody}
    (opened : ofSettings settings = .ok custody) : custody.selector.Names := by
  intro clause member _
  exact (Selector.names_of_ofLabels (eq_of_ofSettings opened).1 clause member).2

end Custody

end Reclaim
