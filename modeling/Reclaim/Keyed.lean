/-!
# Finite maps listed in key order

A `Keyed β` maps finitely many texts to values of `β` and lists them in the
order of their keys, which is the order of the keys' code points and so also
the order of their UTF-8 bytes.  The order is part of the type, so two maps
with the same entries are equal.  The view of a map is `get?`; each operation
has one lemma that says what it does to that view.
-/

set_option autoImplicit false

namespace Reclaim

/-- A finite map from texts, its entries listed by ascending key. -/
structure Keyed (β : Type) where
  entries : List (String × β)
  ascending : entries.Pairwise fun first second => first.1 < second.1

namespace Keyed

variable {β : Type}

theorem eq_of_entries_eq {left right : Keyed β} (same : left.entries = right.entries) :
    left = right := by
  cases left
  cases right
  cases same
  rfl

instance [DecidableEq β] : DecidableEq (Keyed β) := fun left right =>
  if same : left.entries = right.entries then
    isTrue (eq_of_entries_eq same)
  else
    isFalse fun equal => same (congrArg entries equal)

def empty : Keyed β := ⟨[], List.Pairwise.nil⟩

instance : EmptyCollection (Keyed β) := ⟨empty⟩

instance : Inhabited (Keyed β) := ⟨empty⟩

/-- Puts an entry in its place, over an entry with the same key. -/
def place (key : String) (value : β) : List (String × β) → List (String × β)
  | [] => [(key, value)]
  | entry :: rest =>
    if key < entry.1 then (key, value) :: entry :: rest
    else if key = entry.1 then (key, value) :: rest
    else entry :: place key value rest

theorem mem_place {key : String} {value : β} {entry : String × β} {entries : List (String × β)}
    (member : entry ∈ place key value entries) : entry = (key, value) ∨ entry ∈ entries := by
  induction entries with
  | nil => simpa [place] using member
  | cons head rest ih =>
    unfold place at member
    split at member
    · simpa using member
    · split at member
      · rcases List.mem_cons.mp member with rfl | inRest
        · exact Or.inl rfl
        · exact Or.inr (List.mem_cons_of_mem _ inRest)
      · rcases List.mem_cons.mp member with rfl | inPlaced
        · exact Or.inr List.mem_cons_self
        · rcases ih inPlaced with rfl | inRest
          · exact Or.inl rfl
          · exact Or.inr (List.mem_cons_of_mem _ inRest)

theorem lt_of_not_lt_of_ne {first second : String} (notLess : ¬ first < second)
    (different : first ≠ second) : second < first := by
  by_cases greater : second < first
  · exact greater
  · exact absurd (String.le_antisymm (String.not_lt.mp greater) (String.not_lt.mp notLess))
      different

theorem place_ascending (key : String) (value : β) {entries : List (String × β)}
    (ascending : entries.Pairwise fun first second => first.1 < second.1) :
    (place key value entries).Pairwise fun first second => first.1 < second.1 := by
  induction entries with
  | nil => simp [place]
  | cons head rest ih =>
    obtain ⟨headLess, restAscending⟩ := List.pairwise_cons.mp ascending
    unfold place
    split
    next less =>
      refine List.pairwise_cons.mpr ⟨fun entry member => ?_, ascending⟩
      rcases List.mem_cons.mp member with rfl | inRest
      · exact less
      · exact String.lt_trans less (headLess entry inRest)
    next notLess =>
      split
      next same =>
        subst same
        exact List.pairwise_cons.mpr ⟨headLess, restAscending⟩
      next different =>
        refine List.pairwise_cons.mpr ⟨fun entry member => ?_, ih restAscending⟩
        rcases mem_place member with rfl | inRest
        · exact lt_of_not_lt_of_ne notLess different
        · exact headLess entry inRest

def insert (map : Keyed β) (key : String) (value : β) : Keyed β :=
  ⟨place key value map.entries, place_ascending key value map.ascending⟩

def erase (map : Keyed β) (key : String) : Keyed β :=
  ⟨map.entries.filter fun entry => entry.1 != key, map.ascending.filter _⟩

def get? (map : Keyed β) (key : String) : Option β :=
  (map.entries.find? fun entry => entry.1 == key).map Prod.snd

def remove (map : Keyed β) (key : String) : Option β × Keyed β := (map.get? key, map.erase key)

def contains (map : Keyed β) (key : String) : Bool := (map.get? key).isSome

def keys (map : Keyed β) : List String := map.entries.map Prod.fst

def size (map : Keyed β) : Nat := map.entries.length

/-- Reads a list of entries from left to right; of two entries with one key the later wins. -/
def ofList (entries : List (String × β)) : Keyed β :=
  entries.foldl (fun map entry => map.insert entry.1 entry.2) empty

theorem find?_place (key other : String) (value : β) (entries : List (String × β))
    (ascending : entries.Pairwise fun first second => first.1 < second.1) :
    ((place key value entries).find? fun entry => entry.1 == other) =
      if key = other then some (key, value) else entries.find? fun entry => entry.1 == other := by
  induction entries with
  | nil =>
    by_cases same : key = other <;> simp [place, same]
  | cons head rest ih =>
    obtain ⟨headLess, restAscending⟩ := List.pairwise_cons.mp ascending
    unfold place
    split
    next less =>
      by_cases same : key = other <;> simp [same]
    next notLess =>
      split
      next equal =>
        by_cases same : key = other
        · simp [same]
        · have headOther : (head.1 == other) = false := by simp [← equal, same]
          simp [same, headOther]
      next different =>
        by_cases same : key = other
        · have headOther : (head.1 == other) = false := by
            simp only [beq_eq_false_iff_ne]
            exact fun equal => different (same.trans equal.symm)
          have inRest := ih restAscending
          rw [if_pos same] at inRest ⊢
          rw [List.find?_cons, headOther]
          exact inRest
        · rw [List.find?_cons, List.find?_cons, ih restAscending, if_neg same, if_neg same]

@[simp] theorem get?_empty (key : String) : (empty : Keyed β).get? key = none := rfl

theorem get?_insert (map : Keyed β) (key other : String) (value : β) :
    (map.insert key value).get? other = if key = other then some value else map.get? other := by
  unfold get? insert
  rw [find?_place _ _ _ _ map.ascending]
  split <;> rfl

theorem get?_erase (map : Keyed β) (key other : String) :
    (map.erase key).get? other = if key = other then none else map.get? other := by
  unfold get? erase
  by_cases same : key = other
  · subst same
    simp [List.find?_filter]
  · rw [List.find?_filter, if_neg same]
    congr 2
    funext entry
    by_cases atOther : entry.1 = other
    · simp [atOther, Ne.symm same]
    · simp [atOther]

end Keyed

end Reclaim
