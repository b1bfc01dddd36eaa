import Reclaim.LogPath

/-!
# The last component of a path

A path is read from its beginning into components, and from its end when its
last component is split off.  Both readings agree, however the path is spelled:
what is split off is the last component, what is left is a beginning of the path
and has the other components (`components_of_split`, `begins_of_split`), and
only an empty path or the root has nothing to split off
(`splitLast_eq_none_iff`).
-/

set_option autoImplicit false

namespace Reclaim.LogPath

/-! ## Segments -/

theorem segments_eq (path : Path) : segments path = path.splitOn slash := by
  induction path with
  | nil => rfl
  | cons b rest ih =>
    rw [segments, List.splitOn_cons_eq_if_modifyHead, ih]
    by_cases isSlash : b = slash
    · rw [if_pos isSlash, if_pos (beq_iff_eq.mpr isSlash)]
    · rw [if_neg isSlash, if_neg (mt beq_iff_eq.mp isSlash)]
      cases found : rest.splitOn slash with
      | nil => exact absurd found (List.splitOn_ne_nil slash rest)
      | cons first others => rfl

theorem ofSegment?_cases (segment : List UInt8) :
    isIdle segment = true ∧ Component.ofSegment? segment = none ∨
      isIdle segment = false ∧
        (Component.ofSegment? segment = some .up ∨
          Component.ofSegment? segment = some (.name segment)) := by
  rw [Component.ofSegment?]
  cases isIdle segment with
  | true => exact .inl ⟨rfl, rfl⟩
  | false =>
    refine .inr ⟨rfl, ?_⟩
    by_cases parent : segment = [dot, dot]
    · exact .inl (if_pos parent)
    · exact .inr (if_neg parent)

theorem ofSegment?_eq_none_iff {segment : List UInt8} :
    Component.ofSegment? segment = none ↔ isIdle segment = true := by
  obtain ⟨idle, none⟩ | ⟨busy, up | name⟩ := ofSegment?_cases segment
  · exact iff_of_true none idle
  · simp [up, busy]
  · simp [name, busy]

theorem eq_of_ofSegment? {segment bytes : List UInt8}
    (stands : Component.ofSegment? segment = some (.name bytes)) : segment = bytes := by
  obtain ⟨-, idle⟩ | ⟨-, up | name⟩ := ofSegment?_cases segment
  · cases idle.symm.trans stands
  · cases up.symm.trans stands
  · cases name.symm.trans stands
    rfl

theorem ne_root_of_ofSegment? {segment : List UInt8} {component : Component}
    (stands : Component.ofSegment? segment = some component) : component ≠ .root := by
  obtain ⟨-, idle⟩ | ⟨-, up | name⟩ := ofSegment?_cases segment
  · cases idle.symm.trans stands
  · cases up.symm.trans stands
    exact nofun
  · cases name.symm.trans stands
    exact nofun

def named (body : Path) : List Component := (segments body).filterMap Component.ofSegment?

theorem components_eq (path : Path) :
    components path = (head path).2.1.toList ++ named (head path).2.2 := rfl

@[simp] theorem named_nil : named [] = [] := rfl

@[simp] theorem named_append (first second : Path) :
    named (first ++ slash :: second) = named first ++ named second := by
  rw [named, segments_eq, List.splitOn_append_cons_self, List.filterMap_append, ← segments_eq,
    ← segments_eq]
  rfl

theorem named_of_notMem {segment : List UInt8} (whole : slash ∉ segment) :
    named segment = (Component.ofSegment? segment).toList := by
  rw [named, segments_eq, List.splitOn_eq_singleton whole, List.filterMap_cons, List.filterMap_nil]
  cases Component.ofSegment? segment <;> rfl

/-! ## The end of a path -/

def Stops (part whole : Path) : Prop :=
  part = [] ∨ part = whole ∨ ∃ rest, whole = part ++ slash :: rest

theorem Stops.trans {first second third : Path} (inner : Stops first second)
    (outer : Stops second third) : Stops first third := by
  rcases inner with rfl | rfl | ⟨rest, rfl⟩
  · exact .inl rfl
  · exact outer
  · rcases outer with nothing | rfl | ⟨after, rfl⟩
    · simp at nothing
    · exact .inr (.inr ⟨rest, rfl⟩)
    · exact .inr (.inr ⟨rest ++ slash :: after, by simp⟩)

theorem Stops.begins {part whole : Path} (stops : Stops part whole) : part <+: whole := by
  rcases stops with rfl | rfl | ⟨rest, rfl⟩
  · exact List.nil_prefix
  · exact List.prefix_rfl
  · exact List.prefix_append _ _

/-- The last segment has no slash; it is the whole body, or a slash is before it. -/
theorem cutLast_cases (reversed : List UInt8) :
    slash ∉ (cutLast reversed).1 ∧
      ((cutLast reversed).2 = [] ∧ reversed.reverse = (cutLast reversed).1 ∨
        reversed.reverse = (cutLast reversed).2.reverse ++ slash :: (cutLast reversed).1) := by
  induction reversed with
  | nil => exact ⟨nofun, .inl ⟨rfl, rfl⟩⟩
  | cons b rest ih =>
    rw [cutLast, List.reverse_cons]
    by_cases isSlash : b = slash
    · rw [if_pos isSlash, isSlash]
      exact ⟨nofun, .inr rfl⟩
    · rw [if_neg isSlash]
      obtain ⟨unbroken, whole⟩ := ih
      refine ⟨?_, ?_⟩
      · intro member
        rcases List.mem_append.mp member with inside | last
        · exact unbroken inside
        · exact isSlash (List.mem_singleton.mp last).symm
      · rcases whole with ⟨nothing, whole⟩ | whole
        · exact .inl ⟨nothing, by rw [whole]⟩
        · exact .inr (by rw [whole, List.append_assoc, List.cons_append])

theorem named_cutLast (reversed : List UInt8) :
    named reversed.reverse =
      named (cutLast reversed).2.reverse ++
        (Component.ofSegment? (cutLast reversed).1).toList := by
  obtain ⟨unbroken, ⟨nothing, whole⟩ | whole⟩ := cutLast_cases reversed
  · rw [whole, nothing, named_of_notMem unbroken]
    rfl
  · rw [whole, named_append, named_of_notMem unbroken]

theorem stops_cutLast (reversed : List UInt8) :
    Stops (cutLast reversed).2.reverse reversed.reverse := by
  obtain ⟨-, ⟨nothing, -⟩ | whole⟩ := cutLast_cases reversed
  · rw [nothing]
    exact .inl rfl
  · exact .inr (.inr ⟨_, whole⟩)

theorem length_cutLast_lt {reversed : List UInt8} (something : reversed ≠ []) :
    (cutLast reversed).2.length < reversed.length := by
  have positive := List.length_pos_iff.mpr something
  obtain ⟨-, ⟨nothing, -⟩ | whole⟩ := cutLast_cases reversed
  · rw [nothing]
    exact positive
  · have counted := congrArg List.length whole
    simp only [List.length_reverse, List.length_append, List.length_cons] at counted
    omega

section TrimEnd

variable (tries : Nat) (reversed : List UInt8)

/-- A try finds nothing, drops an idle segment, or stops at one that stands for something. -/
theorem trimEnd_cases :
    reversed = [] ∧ trimEnd (tries + 1) reversed = [] ∨
      (reversed ≠ [] ∧ isIdle (cutLast reversed).1 = true ∧
        trimEnd (tries + 1) reversed = trimEnd tries (cutLast reversed).2) ∨
      isIdle (cutLast reversed).1 = false ∧ trimEnd (tries + 1) reversed = reversed := by
  rw [trimEnd]
  by_cases nothing : reversed = []
  · rw [nothing]
    exact .inl ⟨rfl, rfl⟩
  · rw [if_neg (by simpa using nothing)]
    dsimp only
    cases idle : isIdle (cutLast reversed).1 with
    | true => exact .inr (.inl ⟨nothing, rfl, rfl⟩)
    | false => exact .inr (.inr ⟨rfl, rfl⟩)

theorem named_trimEnd : named (trimEnd tries reversed).reverse = named reversed.reverse := by
  induction tries generalizing reversed with
  | zero => rfl
  | succ tries ih =>
    obtain ⟨rfl, ended⟩ | ⟨-, idle, dropped⟩ | ⟨-, same⟩ := trimEnd_cases tries reversed
    · rw [ended]
    · rw [dropped, ih, named_cutLast reversed, ofSegment?_eq_none_iff.mpr idle]
      exact (List.append_nil _).symm
    · rw [same]

theorem stops_trimEnd : Stops (trimEnd tries reversed).reverse reversed.reverse := by
  induction tries generalizing reversed with
  | zero => exact .inr (.inl rfl)
  | succ tries ih =>
    obtain ⟨-, ended⟩ | ⟨-, -, dropped⟩ | ⟨-, same⟩ := trimEnd_cases tries reversed
    · rw [ended]
      exact .inl rfl
    · rw [dropped]
      exact (ih _).trans (stops_cutLast reversed)
    · rw [same]
      exact .inr (.inl rfl)

variable {tries reversed}

/-- Enough tries leave nothing, or a segment at the end that stands for something. -/
theorem last_of_trimEnd (enough : reversed.length < tries) :
    trimEnd tries reversed = [] ∨ isIdle (cutLast (trimEnd tries reversed)).1 = false := by
  induction tries generalizing reversed with
  | zero => omega
  | succ tries ih =>
    obtain ⟨-, ended⟩ | ⟨something, -, dropped⟩ | ⟨busy, same⟩ := trimEnd_cases tries reversed
    · exact .inl ended
    · have shorter := length_cutLast_lt something
      rw [dropped]
      exact ih (by omega)
    · rw [same]
      exact .inr busy

end TrimEnd

/-! ## The beginning of a path -/

def firstSegment (path : Path) : List UInt8 := path.takeWhile (· != slash)

theorem firstSegment_cons {b : UInt8} (other : b ≠ slash) (rest : Path) :
    firstSegment (b :: rest) = b :: firstSegment rest := by
  simp [firstSegment, other]

theorem firstSegment_append (part rest : Path) :
    firstSegment (part ++ slash :: rest) = firstSegment part := by
  induction part with
  | nil => rfl
  | cons b others ih =>
    by_cases isSlash : b = slash
    · simp [firstSegment, isSlash]
    · rw [List.cons_append, firstSegment_cons isSlash, firstSegment_cons isSlash, ih]

theorem firstSegment_of_stops {part whole : Path} (lead : Path) (something : part ≠ [])
    (stops : Stops part whole) : firstSegment (lead ++ part) = firstSegment (lead ++ whole) := by
  rcases stops with nothing | rfl | ⟨rest, rfl⟩
  · exact absurd nothing something
  · rfl
  · rw [← List.append_assoc, firstSegment_append]

theorem head_slash (rest : Path) : head (slash :: rest) = ([slash], some .root, rest) := by
  cases rest <;> rfl

theorem head_dot {rest : Path} (alone : firstSegment (dot :: rest) = [dot]) :
    head (dot :: rest) = ([dot], some .here, rest) := by
  cases rest with
  | nil => rfl
  | cons c others =>
    by_cases isSlash : c = slash
    · rw [isSlash]
      rfl
    · rw [firstSegment_cons (by decide), firstSegment_cons isSlash] at alone
      cases alone

theorem head_of_busy {path : Path} (busy : isIdle (firstSegment path) = false) :
    head path = ([], none, path) := by
  match path with
  | [] => rfl
  | [b] =>
    have notSlash : b ≠ slash := by
      rintro rfl
      cases busy
    have notDot : b ≠ dot := by
      rintro rfl
      cases busy
    rw [head, if_neg notSlash, if_neg notDot]
  | b :: c :: rest =>
    have notSlash : b ≠ slash := by
      rintro rfl
      cases busy
    have notDot : ¬ (b = dot ∧ c = slash) := by
      rintro ⟨rfl, rfl⟩
      cases busy
    rw [head, if_neg notSlash, if_neg notDot]

/-- A path begins at the root, at a dot, or with a segment that stands for something. -/
theorem head_cases (path : Path) :
    path = [] ∨ (∃ rest, path = slash :: rest) ∨
      (∃ rest, path = dot :: rest ∧ firstSegment path = [dot]) ∨
      isIdle (firstSegment path) = false := by
  cases path with
  | nil => exact .inl rfl
  | cons b rest =>
    refine .inr ?_
    by_cases isSlash : b = slash
    · exact .inl ⟨rest, by rw [isSlash]⟩
    · refine .inr ?_
      have whole := firstSegment_cons isSlash rest
      by_cases alone : firstSegment (b :: rest) = [dot]
      · have isDot : b = dot := by
          rw [whole] at alone
          exact (List.cons_eq_cons.mp alone).1
        exact .inl ⟨rest, by rw [isDot], alone⟩
      · refine .inr ?_
        rw [isIdle, Bool.or_eq_false_iff]
        exact ⟨by rw [whole]; rfl, by simpa using alone⟩

theorem append_head (path : Path) : (head path).1 ++ (head path).2.2 = path := by
  rcases head_cases path with rfl | ⟨rest, rfl⟩ | ⟨rest, rfl, alone⟩ | busy
  · rfl
  · rw [head_slash]
    rfl
  · rw [head_dot alone]
    rfl
  · rw [head_of_busy busy]
    rfl

theorem head_of_stops {path part : Path} (stops : Stops part (head path).2.2) :
    head ((head path).1 ++ part) = ((head path).1, (head path).2.1, part) := by
  rcases head_cases path with rfl | ⟨rest, rfl⟩ | ⟨rest, rfl, alone⟩ | busy
  · obtain rfl : part = [] := List.prefix_nil.mp stops.begins
    rfl
  · rw [head_slash]
    exact head_slash part
  · rw [head_dot alone] at stops ⊢
    by_cases nothing : part = []
    · rw [nothing]
      rfl
    · refine head_dot ?_
      exact (firstSegment_of_stops [dot] nothing stops).trans alone
  · rw [head_of_busy busy] at stops ⊢
    by_cases nothing : part = []
    · rw [nothing]
      rfl
    · have same : firstSegment part = firstSegment path :=
        firstSegment_of_stops [] nothing stops
      rw [← same] at busy
      exact head_of_busy busy

theorem head_append {directory : Path} (something : directory ≠ []) (rest : Path) :
    head (directory ++ slash :: rest) =
      ((head directory).1, (head directory).2.1, (head directory).2.2 ++ slash :: rest) := by
  have same := firstSegment_append directory rest
  rcases head_cases directory with rfl | ⟨others, rfl⟩ | ⟨others, rfl, alone⟩ | busy
  · exact absurd rfl something
  · rw [List.cons_append, head_slash, head_slash]
  · rw [head_dot alone]
    exact head_dot (same.trans alone)
  · rw [head_of_busy busy]
    exact head_of_busy (by rwa [same])

/-! ## The last component -/

theorem components_append {directory : Path} (something : directory ≠ []) (rest : Path) :
    components (directory ++ slash :: rest) = components directory ++ named rest := by
  rw [components_eq, components_eq, head_append something, named_append, List.append_assoc]

theorem first_cases (path : Path) :
    (head path).2.1 = none ∨ (head path).2.1 = some .root ∨ (head path).2.1 = some .here := by
  rcases head_cases path with rfl | ⟨rest, rfl⟩ | ⟨rest, rfl, alone⟩ | busy
  · exact .inl rfl
  · rw [head_slash]
    exact .inr (.inl rfl)
  · rw [head_dot alone]
    exact .inr (.inr rfl)
  · rw [head_of_busy busy]
    exact .inl rfl

/-- What can be split off a path: a dot that is alone, nothing, or a segment behind the beginning
of the path. -/
inductive Split (path : Path) : Option (Path × Component) → Prop where
  | dot (unnamed : named (head path).2.2 = []) (first : (head path).2.1 = some .here) :
      Split path (some ([], .here))
  | nothing (unnamed : named (head path).2.2 = [])
      (first : (head path).2.1 = none ∨ (head path).2.1 = some .root) : Split path none
  | segment (part : Path) (bytes : List UInt8) (component : Component)
      (stops : Stops part (head path).2.2) (unbroken : slash ∉ bytes)
      (stands : Component.ofSegment? bytes = some component)
      (parts : named (head path).2.2 = named part ++ [component]) :
      Split path (some ((head path).1 ++ part, component))

theorem split_splitLast (path : Path) : Split path (splitLast path) := by
  have first := first_cases path
  have same := named_trimEnd ((head path).2.2.length + 1) (head path).2.2.reverse
  have stops := stops_trimEnd ((head path).2.2.length + 1) (head path).2.2.reverse
  rw [List.reverse_reverse] at same stops
  have enough : (head path).2.2.reverse.length < (head path).2.2.length + 1 := by simp
  have busy := last_of_trimEnd enough
  rw [splitLast]
  dsimp only
  generalize trimEnd ((head path).2.2.length + 1) (head path).2.2.reverse = trimmed
    at same stops busy ⊢
  by_cases nothing : trimmed = []
  · rw [nothing] at same ⊢
    rcases first with absent | root | here
    · rw [absent]
      exact .nothing same.symm (.inl absent)
    · rw [root]
      exact .nothing same.symm (.inr root)
    · rw [here]
      exact .dot same.symm here
  · have busy := busy.resolve_left nothing
    rw [if_neg (by simpa using nothing)]
    cases found : Component.ofSegment? (cutLast trimmed).1 with
    | none =>
      rw [ofSegment?_eq_none_iff.mp found] at busy
      cases busy
    | some component =>
      have inside := (stops_trimEnd ((cutLast trimmed).2.length + 1) (cutLast trimmed).2).trans
        (stops_cutLast trimmed)
      refine .segment _ _ component (inside.trans stops) (cutLast_cases trimmed).1 found ?_
      rw [← same, named_cutLast, found, named_trimEnd]
      rfl

/-- What is split off is the last component, and what is left has the other ones. -/
theorem components_of_split {path parent : Path} {component : Component}
    (split : splitLast path = some (parent, component)) :
    components path = components parent ++ [component] := by
  have cut := split_splitLast path
  rw [split] at cut
  cases cut with
  | dot unnamed first =>
    rw [components_eq path, unnamed, first]
    rfl
  | segment part bytes component stops unbroken stands parts =>
    rw [components_eq, components_eq, parts, head_of_stops stops, List.append_assoc]

theorem begins_of_split {path parent : Path} {component : Component}
    (split : splitLast path = some (parent, component)) : parent <+: path := by
  have cut := split_splitLast path
  rw [split] at cut
  cases cut with
  | dot unnamed first => exact List.nil_prefix
  | segment part bytes component stops unbroken stands parts =>
    have inside := (List.prefix_append_right_inj (head path).1).mpr stops.begins
    rwa [append_head] at inside

theorem segment_of_split {path parent : Path} {bytes : List UInt8}
    (split : splitLast path = some (parent, .name bytes)) :
    slash ∉ bytes ∧ Component.ofSegment? bytes = some (.name bytes) := by
  have cut := split_splitLast path
  rw [split] at cut
  cases cut with
  | segment part segment component stops unbroken stands parts =>
    obtain rfl := eq_of_ofSegment? stands
    exact ⟨unbroken, stands⟩

theorem splitLast_eq_none_iff {path : Path} :
    splitLast path = none ↔ components path = [] ∨ components path = [.root] := by
  have cut := split_splitLast path
  generalize splitLast path = split at cut
  cases cut with
  | dot unnamed first => simp [components_eq, unnamed, first]
  | nothing unnamed first =>
    rcases first with first | first <;> simp [components_eq, unnamed, first]
  | segment part bytes component stops unbroken stands parts =>
    have other := ne_root_of_ofSegment? stands
    have concat : components path =
        ((head path).2.1.toList ++ named part) ++ [component] := by
      rw [components_eq, parts, List.append_assoc]
    simp [concat, List.append_eq_singleton_iff, other]

end Reclaim.LogPath
