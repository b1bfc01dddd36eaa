import Reclaim.Proofs.LastComponent
import Reclaim.Proofs.StrictReading

/-!
# Where the log is kept

The directory of the log files and the beginning of their names come from the
two parts of a path that is split at its last component.  Joined again they are
the file that the path names, but for a dot at the beginning
(`components_rejoined`), because a name has no slash in it and is no dot.
-/

set_option autoImplicit false

namespace Reclaim.LogPath

/-! ## Directory and name -/

def parent? (path : Path) : Option Path := (splitLast path).map Prod.fst

def fileName? (path : Path) : Option (List UInt8) :=
  match splitLast path with
  | some (_, .name bytes) => some bytes
  | _ => none

/-- The directory that the rest of a path stands for; nothing stands for the working directory. -/
def directoryOf : Option Path → Path
  | some (b :: rest) => b :: rest
  | some [] | none => workingDirectory

theorem directoryOf_ne_nil (parent : Option Path) : directoryOf parent ≠ [] := by
  unfold directoryOf
  split <;> exact List.cons_ne_nil _ _

theorem directoryOf_some {parent : Path} (something : parent ≠ []) :
    directoryOf (some parent) = parent := by
  cases parent with
  | nil => exact absurd rfl something
  | cons b rest => rfl

/-- A name below a directory; a path that begins at the root stays as it is. -/
def join (directory name : Path) : Path :=
  if name.head? = some slash then name
  else if directory = [] ∨ directory.getLast? = some slash then directory ++ name
  else directory ++ slash :: name

def afterDot : List Component → List Component
  | .here :: rest => rest
  | others => others

theorem place_eq {isDirectory : Path → Bool} {path : Path} (missing : isDirectory path = false) :
    place isDirectory path =
      (directoryOf (parent? path),
        ((fileName? path).bind Text.Utf8.decode?).getD defaultName) := by
  rw [place, parent?, fileName?, if_neg (by simp [missing])]
  cases splitLast path with
  | none => rfl
  | some split =>
    obtain ⟨parent, component⟩ := split
    cases parent <;> cases component <;> rfl

theorem place_of_text {isDirectory : Path → Bool} {path : Path} {text : String}
    (missing : isDirectory path = false)
    (named : fileName? path = some (Text.Utf8.encode text)) :
    place isDirectory path = (directoryOf (parent? path), text) := by
  have read := Text.Utf8.decode?_eq_some_iff.mpr (rfl : Text.Utf8.encode text = _)
  rw [place_eq missing, named, Option.bind_some, read]
  rfl

theorem place_of_no_text {isDirectory : Path → Bool} {path : Path}
    (missing : isDirectory path = false)
    (unnamed : ∀ text, fileName? path ≠ some (Text.Utf8.encode text)) :
    place isDirectory path = (directoryOf (parent? path), defaultName) := by
  have unread : (fileName? path).bind Text.Utf8.decode? = none := by
    cases named : fileName? path with
    | none => rfl
    | some bytes =>
      rw [Option.bind_some, Option.eq_none_iff_forall_ne_some]
      intro text read
      rw [Text.Utf8.decode?_eq_some_iff.mp read] at named
      exact unnamed text named
  rw [place_eq missing, unread]
  rfl

theorem fileName?_eq_some_iff {path : Path} {bytes : List UInt8} :
    fileName? path = some bytes ↔ ∃ parent, splitLast path = some (parent, .name bytes) := by
  unfold fileName?
  split
  next parent other found => simp [found]
  next unnamed =>
    constructor
    · exact nofun
    · rintro ⟨parent, split⟩
      exact absurd split (unnamed parent bytes)

theorem getLast?_components {path : Path} {bytes : List UInt8} :
    (components path).getLast? = some (.name bytes) ↔ fileName? path = some bytes := by
  rw [fileName?_eq_some_iff]
  cases split : splitLast path with
  | none => rcases splitLast_eq_none_iff.mp split with empty | root <;> simp [*]
  | some found =>
    obtain ⟨parent, component⟩ := found
    rw [components_of_split split, List.getLast?_concat]
    simp

theorem components_join {directory name : Path} {component : Component}
    (something : directory ≠ []) (unbroken : slash ∉ name)
    (stands : Component.ofSegment? name = some component) :
    components (join directory name) = components directory ++ [component] := by
  have relative : name.head? ≠ some slash := by
    intro first
    exact unbroken (List.mem_of_mem_head? first)
  have single : named name = [component] := by
    rw [named_of_notMem unbroken, stands]
    rfl
  rw [join, if_neg relative]
  by_cases ends : directory.getLast? = some slash
  · rw [if_pos (.inr ends)]
    -- The slash at the end of the directory is the one before the name.
    obtain ⟨front, rfl⟩ := List.getLast?_eq_some_iff.mp ends
    rw [List.append_assoc, List.singleton_append]
    by_cases root : front = []
    · rw [root, List.nil_append, List.nil_append, components_eq, components_eq, head_slash,
        head_slash, single]
      rfl
    · rw [components_append root, components_append root, single, named_nil, List.append_nil]
  · rw [if_neg (by simp [something, ends]), components_append something, single]

theorem slash_mem_encode {text : String} (member : '/' ∈ text.toList) :
    slash ∈ Text.Utf8.encode text := by
  rw [Text.Utf8.encode, List.mem_flatMap]
  exact ⟨'/', member, by decide⟩

/-- A name in the directory of a path is the path that it was split off from. -/
theorem components_rejoined {path : Path} {bytes : List UInt8}
    (named : fileName? path = some bytes) :
    afterDot (components (join (directoryOf (parent? path)) bytes)) =
      afterDot (components path) := by
  obtain ⟨parent, split⟩ := fileName?_eq_some_iff.mp named
  obtain ⟨unbroken, stands⟩ := segment_of_split split
  rw [parent?, split, components_of_split split, Option.map_some,
    components_join (directoryOf_ne_nil _) unbroken stands]
  by_cases nothing : parent = []
  · -- Only the dot that stands for the working directory is new.
    rw [nothing]
    rfl
  · rw [directoryOf_some nothing]

theorem plain_of_segment {text : String} (unbroken : slash ∉ Text.Utf8.encode text)
    (stands : (Component.ofSegment? (Text.Utf8.encode text)).isSome = true) :
    text ≠ "" ∧ '/' ∉ text.toList := by
  refine ⟨?_, mt slash_mem_encode unbroken⟩
  rintro rfl
  cases stands

theorem parent?_drops_last (path : Path) :
    (∀ parent, parent? path = some parent →
      parent <+: path ∧ components parent = (components path).dropLast) ∧
    (parent? path = none ↔ components path = [] ∨ components path = [.root]) := by
  refine ⟨?_, ?_⟩
  · intro parent found
    obtain ⟨⟨before, component⟩, split, rfl⟩ := Option.map_eq_some_iff.mp found
    refine ⟨begins_of_split split, ?_⟩
    rw [components_of_split split, List.dropLast_concat]
  · rw [parent?, Option.map_eq_none_iff, splitLast_eq_none_iff]

theorem place_plain {isDirectory : Path → Bool} {path : Path} (nowhere : isDirectory [] = false) :
    (place isDirectory path).1 ≠ [] ∧ (place isDirectory path).2 ≠ "" ∧
      '/' ∉ (place isDirectory path).2.toList := by
  have usual : defaultName ≠ "" ∧ '/' ∉ defaultName.toList := by decide +kernel
  by_cases present : isDirectory path = true
  · rw [place, if_pos present]
    refine ⟨?_, usual⟩
    rintro nothing
    have gone : isDirectory [] = true := nothing ▸ present
    rw [nowhere] at gone
    cases gone
  have missing : isDirectory path = false := by simpa using present
  by_cases textual : ∃ text, fileName? path = some (Text.Utf8.encode text)
  · obtain ⟨text, named⟩ := textual
    obtain ⟨parent, split⟩ := fileName?_eq_some_iff.mp named
    obtain ⟨unbroken, stands⟩ := segment_of_split split
    rw [place_of_text missing named]
    exact ⟨directoryOf_ne_nil _, plain_of_segment unbroken (Option.isSome_of_eq_some stands)⟩
  · rw [place_of_no_text missing (not_exists.mp textual)]
    exact ⟨directoryOf_ne_nil _, usual⟩

/-- A log is kept in its place.  A directory is taken as it is, and the names in it begin in the
usual way.  Any other path is split: if its last component is a name that is a text, names begin
with that, in a directory with which they make up the given path again but for a dot at the
beginning; and otherwise they begin in the usual way, in the directory before the last component,
or in the working directory if nothing is before it.  What is before it is a beginning of the path,
and has its components but the last one. -/
theorem log_kept_in_place (isDirectory : Path → Bool) (path : Path)
    (nowhere : isDirectory [] = false) :
    let placed := place isDirectory path
    placed.1 ≠ [] ∧ placed.2 ≠ "" ∧ '/' ∉ placed.2.toList ∧
    (isDirectory path = true → placed = (path, defaultName)) ∧
    (isDirectory path = false →
      (∀ text, (components path).getLast? = some (.name (Text.Utf8.encode text)) →
        placed.2 = text ∧
          afterDot (components (join placed.1 (Text.Utf8.encode placed.2))) =
            afterDot (components path)) ∧
      ((∀ text, (components path).getLast? ≠ some (.name (Text.Utf8.encode text))) →
        placed = (directoryOf (parent? path), defaultName))) ∧
    (∀ parent, parent? path = some parent →
      parent <+: path ∧ components parent = (components path).dropLast) ∧
    (parent? path = none ↔ components path = [] ∨ components path = [.root]) := by
  intro placed
  obtain ⟨somewhere, named, unbroken⟩ := place_plain nowhere
  refine ⟨somewhere, named, unbroken, ?_, ?_, parent?_drops_last path⟩
  · intro present
    exact if_pos present
  · intro missing
    refine ⟨?_, ?_⟩
    · intro text last
      have named := getLast?_components.mp last
      have split : placed = (directoryOf (parent? path), text) := place_of_text missing named
      rw [split]
      exact ⟨rfl, components_rejoined named⟩
    · intro unnamed
      exact place_of_no_text missing fun text => mt getLast?_components.mpr (unnamed text)

def winding : Path := Text.Utf8.encode "./log//./cleanup.log/."

theorem log_kept_in_place_winding :
    leadsToDirectory [] [] = false ∧ leadsToDirectory [] winding = false ∧
      (components winding).getLast? = some (.name (Text.Utf8.encode "cleanup.log")) ∧
      place (leadsToDirectory []) winding = (Text.Utf8.encode "./log", "cleanup.log") ∧
      afterDot (components (join (Text.Utf8.encode "./log") (Text.Utf8.encode "cleanup.log"))) =
        afterDot (components winding) := by
  have nowhere : leadsToDirectory [] [] = false := rfl
  have missing : leadsToDirectory [] winding = false := by decide +kernel
  have last : (components winding).getLast? =
      some (.name (Text.Utf8.encode "cleanup.log")) := by decide +kernel
  have placed : place (leadsToDirectory []) winding =
      (Text.Utf8.encode "./log", "cleanup.log") := by decide +kernel
  obtain ⟨-, -, -, -, kept, -⟩ := log_kept_in_place (leadsToDirectory []) winding nowhere
  obtain ⟨-, same⟩ := (kept missing).1 "cleanup.log" last
  rw [placed] at same
  exact ⟨nowhere, missing, last, placed, same⟩

end Reclaim.LogPath
