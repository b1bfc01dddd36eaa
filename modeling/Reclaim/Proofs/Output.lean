import Reclaim.Engine.Scripted
import Reclaim.Proofs.Client
import Reclaim.Proofs.Members
import Reclaim.Proofs.Utf8

/-!
# Listings as they are printed

A client program prints one record on each line, perhaps between blanks and
among blank lines, and ends its lines in one way or the other.  Whatever the
layout of the output, and however the records are written, the answer to the
call is what they describe (`printed_answers`).
-/

set_option autoImplicit false

namespace Reclaim

/-! ## Trimming -/

namespace Text

theorem dropWhile_blank_append (text : List Char) {gap : List Char}
    (blank : ∀ c ∈ gap, isBlank c = true) :
    (gap ++ text).dropWhile isBlank = text.dropWhile isBlank :=
  List.dropWhile_append_of_pos blank

/-- Blanks at the end of a text do not matter to what is left between the ends. -/
theorem trim_append (text : List Char) {gap : List Char} (blank : ∀ c ∈ gap, isBlank c = true) :
    trim (text ++ gap) = trim text := by
  have behind : ∀ c ∈ gap.reverse, isBlank c = true := by simpa using blank
  have nothing : gap.dropWhile isBlank = [] := by simpa using dropWhile_blank_append [] blank
  unfold trim
  rw [List.dropWhile_append]
  split
  next empty => rw [nothing, List.isEmpty_iff.mp empty]
  next => rw [List.reverse_append, dropWhile_blank_append _ behind]

theorem trim_prepend (text : List Char) {gap : List Char} (blank : ∀ c ∈ gap, isBlank c = true) :
    trim (gap ++ text) = trim text := by
  rw [trim, dropWhile_blank_append text blank, trim]

theorem trim_blank {gap : List Char} (blank : ∀ c ∈ gap, isBlank c = true) : trim gap = [] := by
  have trimmed := trim_append [] blank
  exact trimmed

theorem trim_withoutReturn (line : List Char) :
    trim (withoutReturn line.reverse).reverse = trim line := by
  cases ends : line.reverse with
  | nil => rw [List.reverse_eq_nil_iff.mp ends]; rfl
  | cons c rest =>
    have whole : line = rest.reverse ++ [c] := by rw [← List.reverse_reverse line, ends]; simp
    by_cases isReturn : c = '\r'
    · subst isReturn
      rw [whole, trim_append _ (List.forall_mem_singleton.mpr (by decide))]
      rfl
    · have kept : withoutReturn (c :: rest) = c :: rest := by
        unfold withoutReturn
        split <;> simp_all
      rw [kept, whole, List.reverse_cons]

/-! ## Lines -/

theorem linesAfter_append {line : List Char} (unbroken : '\n' ∉ line) (read rest : List Char) :
    linesAfter read (line ++ rest) = linesAfter (line.reverse ++ read) rest := by
  induction line generalizing read with
  | nil => rfl
  | cons c more ih =>
    obtain ⟨noFeed, later⟩ := not_or.mp (List.mem_cons.not.mp unbroken)
    rw [List.cons_append, linesAfter, ih later]
    · simp
    · exact fun same => noFeed same.symm

theorem lines_feed {line : List Char} (unbroken : '\n' ∉ line) (rest : List Char) :
    lines (line ++ '\n' :: rest) = (withoutReturn line.reverse).reverse :: lines rest := by
  rw [lines, linesAfter_append unbroken, linesAfter, List.append_nil, lines]

theorem lines_last {line : List Char} (unbroken : '\n' ∉ line) :
    lines line = if line.isEmpty then [] else [line] := by
  have whole := linesAfter_append unbroken [] []
  rw [List.append_nil, linesAfter, List.append_nil] at whole
  simpa [lines] using whole

end Text

namespace Engine.Client

open Text

/-! ## Printed lines -/

/-- What may stand beside a record on its line. -/
def Margin (text : List Char) : Prop := ∀ c ∈ text, isBlank c = true ∧ c ≠ '\n'

instance (text : List Char) : Decidable (Margin text) := List.decidableBAll _ text

def EndsLine (ending : List Char) : Prop := ending = ['\n'] ∨ ending = ['\r', '\n']

/-- An output that prints some texts, each on a line of its own.  The last line need not be ended,
and other lines are blank. -/
inductive Prints : List (List Char) → List Char → Prop where
  | nothing {margin : List Char} (blank : Margin margin) : Prints [] margin
  | blank {margin ending rest : List Char} {records : List (List Char)} (blank : Margin margin)
      (ends : EndsLine ending) (printed : Prints records rest) :
      Prints records (margin ++ (ending ++ rest))
  | line {before record after ending rest : List Char} {records : List (List Char)}
      (blankBefore : Margin before) (unbroken : '\n' ∉ record) (blankAfter : Margin after)
      (ends : EndsLine ending) (printed : Prints records rest) :
      Prints (record :: records) (before ++ (record ++ (after ++ (ending ++ rest))))
  | last {before record after : List Char} (blankBefore : Margin before)
      (unbroken : '\n' ∉ record) (blankAfter : Margin after) :
      Prints [record] (before ++ (record ++ after))

theorem Margin.unbroken {margin : List Char} (blank : Margin margin) : '\n' ∉ margin :=
  fun member => (blank _ member).2 rfl

theorem Margin.isBlank {margin : List Char} (blank : Margin margin) :
    ∀ c ∈ margin, isBlank c = true :=
  fun c member => (blank c member).1

theorem Margin.append {first second : List Char} (blank : Margin first)
    (alsoBlank : Margin second) : Margin (first ++ second) :=
  List.forall_mem_append.mpr ⟨blank, alsoBlank⟩

theorem EndsLine.feed {ending : List Char} (ends : EndsLine ending) :
    ∃ margin, Margin margin ∧ ending = margin ++ ['\n'] := by
  rcases ends with rfl | rfl
  · exact ⟨[], nofun, rfl⟩
  · exact ⟨['\r'], by decide, rfl⟩

theorem recordLines_feed {line : List Char} (unbroken : '\n' ∉ line) (rest : List Char) :
    recordLines (line ++ '\n' :: rest) =
      (if (trim line).isEmpty then [] else [trim line]) ++ recordLines rest := by
  rw [recordLines, lines_feed unbroken, List.map_cons, trim_withoutReturn, List.filter_cons]
  split <;> simp_all [recordLines]

theorem recordLines_last {line : List Char} (unbroken : '\n' ∉ line) :
    recordLines line = if (trim line).isEmpty then [] else [trim line] := by
  rw [recordLines, lines_last unbroken]
  cases line with
  | nil => rfl
  | cons c more => simp [List.filter_cons]

/-- The ends of a text that is no blank line are not blank. -/
def Framed (record : List Char) : Prop :=
  (∃ c, record.head? = some c ∧ isBlank c = false) ∧
    ∃ c, record.getLast? = some c ∧ isBlank c = false

theorem trim_framed {before record after : List Char} (blankBefore : Margin before)
    (framed : Framed record) (blankAfter : Margin after) :
    trim (before ++ (record ++ after)) = record := by
  obtain ⟨⟨first, isFirst, firstShows⟩, last, isLast, lastShows⟩ := framed
  rw [trim_prepend _ blankBefore.isBlank, trim_append _ blankAfter.isBlank]
  refine trim_eq_self (fun c same => ?_) fun c same => ?_
  · rw [isFirst] at same
    cases same
    exact firstShows
  · rw [isLast] at same
    cases same
    exact lastShows

theorem Framed.ne_nil {record : List Char} (framed : Framed record) : record.isEmpty = false := by
  obtain ⟨⟨c, isFirst, -⟩, -⟩ := framed
  cases record with
  | nil => cases isFirst
  | cons c more => rfl

/-- The lines of an output that are not blank are the texts that it prints. -/
theorem recordLines_printed {records : List (List Char)} {output : List Char}
    (printed : Prints records output) (framed : ∀ record ∈ records, Framed record) :
    recordLines output = records := by
  induction printed with
  | nothing blank => rw [recordLines_last blank.unbroken, trim_blank blank.isBlank]; rfl
  | @blank margin ending rest records blank ends printed ih =>
    obtain ⟨more, alsoBlank, rfl⟩ := ends.feed
    have whole := blank.append alsoBlank
    have shape : margin ++ (more ++ ['\n'] ++ rest) = margin ++ more ++ '\n' :: rest := by simp
    rw [shape, recordLines_feed whole.unbroken, trim_blank whole.isBlank, ih framed]
    rfl
  | @line before record after ending rest records blankBefore unbroken blankAfter ends printed ih =>
    obtain ⟨more, alsoBlank, rfl⟩ := ends.feed
    have whole := blankAfter.append alsoBlank
    obtain ⟨first, others⟩ := List.forall_mem_cons.mp framed
    have shape : before ++ (record ++ (after ++ (more ++ ['\n'] ++ rest))) =
        before ++ (record ++ (after ++ more)) ++ '\n' :: rest := by simp
    have oneLine : '\n' ∉ before ++ (record ++ (after ++ more)) := by
      simp [blankBefore.unbroken, unbroken, blankAfter.unbroken, alsoBlank.unbroken]
    rw [shape, recordLines_feed oneLine, trim_framed blankBefore first whole, ih others,
      first.ne_nil]
    rfl
  | @last before record after blankBefore unbroken blankAfter =>
    have first := framed record (.head _)
    have oneLine : '\n' ∉ before ++ (record ++ after) := by
      simp [blankBefore.unbroken, unbroken, blankAfter.unbroken]
    rw [recordLines_last oneLine, trim_framed blankBefore first blankAfter, first.ne_nil]
    rfl

theorem framed_of_record {row : Json.Row} {line : List Char}
    (written : Json.WritesRecord row line) : Framed line := by
  obtain ⟨found, inner, -, -, rfl⟩ := written
  refine ⟨⟨'\x7b', rfl, by decide⟩, '\x7d', ?_, by decide⟩
  rw [← List.cons_append, List.getLast?_append]
  rfl

/-! ## Answers -/

def rowOfState (state : ContainerState) : Json.Row :=
  [("Running", .flag state.running), ("Status", .text state.status)]

def rowOfContainer (container : ListedContainer) : Json.Row :=
  [("ID", .text container.id), ("Image", .text container.image)]

def rowOfNetwork (network : ListedNetwork) : Json.Row :=
  [("ID", .text network.id), ("Name", .text network.name)]

theorem fits_state (state : ContainerState) : stateLayout.Fits (rowOfState state) :=
  ⟨rfl, by simp [rowOfState]⟩

theorem fits_container (container : ListedContainer) :
    containerLayout.Fits (rowOfContainer container) :=
  ⟨rfl, by simp [rowOfContainer]⟩

theorem fits_network (network : ListedNetwork) : networkLayout.Fits (rowOfNetwork network) :=
  ⟨rfl, by simp [rowOfNetwork]⟩

theorem stateOfRow_of_perm {found : Json.Row} {state : ContainerState}
    (perm : found.Perm (rowOfState state)) : stateOfRow found = state := by
  have same := Json.lookup_of_perm perm (fits_state state).distinct
  simp [stateOfRow, Json.Row.text?, Json.Row.flag?, same, rowOfState, List.lookup_cons]

theorem containerOfRow_of_perm {found : Json.Row} {container : ListedContainer}
    (perm : found.Perm (rowOfContainer container)) : containerOfRow found = container := by
  have same := Json.lookup_of_perm perm (fits_container container).distinct
  simp [containerOfRow, Json.Row.text?, same, rowOfContainer, List.lookup_cons]

theorem networkOfRow_of_perm {found : Json.Row} {network : ListedNetwork}
    (perm : found.Perm (rowOfNetwork network)) : networkOfRow found = network := by
  have same := Json.lookup_of_perm perm (fits_network network).distinct
  simp [networkOfRow, Json.Row.text?, same, rowOfNetwork, List.lookup_cons]

/-- The records of an output describe the values that its lines write. -/
theorem decodeLines_printed {α : Type} {layout : Json.Layout} {rowOf : α → Json.Row}
    {ofRow : Json.Row → α} (fits : ∀ value, layout.Fits (rowOf value))
    (inverse : ∀ {found value}, found.Perm (rowOf value) → ofRow found = value)
    {values : List α} {records : List (List Char)} {output : List Char}
    (written : List.Forall₂ (fun value record => Json.WritesRecord (rowOf value) record)
      values records) (printed : Prints records output) (operation : String) :
    ∃ rows, decodeLines operation layout output = .ok rows ∧ rows.map ofRow = values := by
  have framed : ∀ record ∈ records, Framed record := by
    clear printed
    induction written with
    | nil => exact nofun
    | cons first others ih => exact List.forall_mem_cons.mpr ⟨framed_of_record first, ih⟩
  simp only [decodeLines_eq_ok_iff, recordLines_printed printed framed]
  clear printed framed
  induction written with
  | nil => exact ⟨[], .nil, rfl⟩
  | cons first others ih =>
    obtain ⟨found, perm, decoded⟩ := Json.decode_written (fits _) first
    obtain ⟨rows, allDecoded, same⟩ := ih
    exact ⟨found :: rows, .cons decoded allDecoded, by rw [List.map_cons, inverse perm, same]⟩

/-- Whatever the layout of an output, and however its records are written, a listing yields what
the records describe, in order; and looking at a container yields what the first one does. -/
theorem printed_answers {ω : Type} {shell : Shell ω} {program : String} {world : ω}
    {result : CommandResult} {output : String} {records : List (List Char)}
    (succeeded : result.ending = .exited 0) (received : result.stdout = Utf8.encode output)
    (printed : Prints records output.toList) :
    (∀ labels containers,
      List.Forall₂ (fun container record => Json.WritesRecord (rowOfContainer container) record)
        containers records →
      Runs shell program (.listContainers labels) world result →
      (engine shell program (.listContainers labels) world).answer = .ok containers) ∧
    (∀ id networks,
      List.Forall₂ (fun network record => Json.WritesRecord (rowOfNetwork network) record)
        networks records →
      Runs shell program (.listNetworks id) world result →
      (engine shell program (.listNetworks id) world).answer = .ok networks) ∧
    ∀ id state states,
      List.Forall₂ (fun state record => Json.WritesRecord (rowOfState state) record)
        (state :: states) records →
      Runs shell program (.inspect id) world result →
      (engine shell program (.inspect id) world).answer = .ok state := by
  have text : Utf8.lenientChars result.stdout = output.toList := by
    rw [received, Utf8.lenientChars_encode]
  refine ⟨?_, ?_, ?_⟩
  · intro labels containers written runs
    obtain ⟨rows, decoded, same⟩ :=
      decodeLines_printed fits_container containerOfRow_of_perm written printed "ps"
    refine answer_eq_ok_iff.mpr ⟨result, runs, succeeded, ?_⟩
    rw [text, readOutput, decoded, ← same]
    rfl
  · intro id networks written runs
    obtain ⟨rows, decoded, same⟩ :=
      decodeLines_printed fits_network networkOfRow_of_perm written printed "network ls"
    refine answer_eq_ok_iff.mpr ⟨result, runs, succeeded, ?_⟩
    rw [text, readOutput, decoded, ← same]
    rfl
  · intro id state states written runs
    obtain ⟨rows, decoded, same⟩ :=
      decodeLines_printed fits_state stateOfRow_of_perm written printed "inspect"
    refine answer_eq_ok_iff.mpr ⟨result, runs, succeeded, ?_⟩
    rw [text, readOutput, decoded]
    cases rows with
    | nil => cases same
    | cons row more =>
      obtain ⟨first, -⟩ := List.cons.inj same
      exact congrArg _ first

/-! ### An awkward listing -/

namespace Awkward

open Engine.Scripted Json

def firstLine : String :=
  "\x7b\"ID\" :\"\\u00e9\\\"\\uD83D\\uDE00\",\"Size\":\x7b\"\\/\": [-0.5E+3, \"\\ud800\"]\x7d,\"Image\":\"a\x7d\"\x7d"

def secondLine : String := "\x7b \"Image\":\"\\n\",\"ID\":\"c2\"\x7d"

def output : String := "  " ++ firstLine ++ "\t\r\n \n" ++ secondLine

def first : ListedContainer := ⟨"é\"😀", "a\x7d"⟩

def second : ListedContainer := ⟨"c2", "\n"⟩

def listing : CommandResult := ⟨Utf8.encode output, [], .exited 0⟩

def shell : Shell (List Reply) := Scripted.shell "docker" fun _ => "not found"

def world : List Reply := [⟨["ps"], none, listing, false⟩]

theorem printed : Prints [firstLine.toList, secondLine.toList] output.toList := by
  have shape : output.toList = [' ', ' '] ++ (firstLine.toList ++ (['\t'] ++ (['\r', '\n'] ++
      ([' '] ++ (['\n'] ++ ([] ++ (secondLine.toList ++ []))))))) := by simp [output]
  rw [shape]
  exact .line (by decide) (by simp [firstLine]) (by decide) (.inr rfl)
    (.blank (by decide) (.inl rfl) (.last (by decide) (by simp [secondLine]) (by decide)))

theorem spelled_id : Spells first.id.toList "\\u00e9\\\"\\uD83D\\uDE00".toList := by
  have accented : NamesUnit ['0', '0', 'e', '9'] 0xe9 :=
    .digits (w := 0) (x := 0) (y := 14) (z := 9) (.inl rfl) (.inl rfl) (.inl rfl) (.inl rfl)
  have high : NamesUnit ['D', '8', '3', 'D'] 0xd83d :=
    .digits (w := 13) (x := 8) (y := 3) (z := 13) (.inr rfl) (.inl rfl) (.inl rfl) (.inr rfl)
  have low : NamesUnit ['D', 'E', '0', '0'] 0xde00 :=
    .digits (w := 13) (x := 14) (y := 0) (z := 0) (.inr rfl) (.inr rfl) (.inl rfl) (.inl rfl)
  have shape : "\\u00e9\\\"\\uD83D\\uDE00".toList = ('\\' :: 'u' :: ['0', '0', 'e', '9']) ++
      (['\\', '"'] ++
        (('\\' :: 'u' :: ['D', '8', '3', 'D'] ++ '\\' :: 'u' :: ['D', 'E', '0', '0']) ++ [])) := by
    simp
  rw [shape]
  exact .cons (.unit accented)
    (.cons (.short (by decide)) (.cons (.pair (by decide) high low) .nil))

theorem written_size : Written .value "\x7b\"\\/\": [-0.5E+3, \"\\ud800\"]\x7d".toList := by
  have number : Scalar ('-' :: (['0'] ++ '.' :: ['5'] ++ ('E' :: ['+'] ++ ['3']))) :=
    .negative (.parts (.inl rfl) (.digits (by decide))
      (.digits (by decide) (by decide) (by decide)))
  have half : NamesUnit ['d', '8', '0', '0'] 0xd800 :=
    .digits (w := 13) (x := 8) (y := 0) (z := 0) (.inl rfl) (.inl rfl) (.inl rfl) (.inl rfl)
  have text : Scalar ('"' :: ('\\' :: 'u' :: ['d', '8', '0', '0'] ++ []) ++ ['"']) :=
    .text (.unit half .nil)
  have elements : Written (.items .list) _ :=
    .next (.element (Gap.nil) (.scalar number) Gap.nil)
      (.last (.element Gap.one (.scalar text) Gap.nil))
  have member : Written (.items .object) _ :=
    .last (.member Gap.nil (.short (show ('/', '/') ∈ shortNames by decide) .nil) Gap.nil Gap.one
      (.around elements) Gap.nil)
  exact Eq.subst (motive := Written .value) (by simp [Bracket.opening, Bracket.closing])
    (.around member)

theorem written_first : WritesRecord (rowOfContainer first) firstLine.toList := by
  have id : WritesMember ["ID", "Image"] (some ("ID", .text first.id)) _ :=
    .field (spells_of_plain (by decide)) Gap.one Gap.nil (.text spelled_id)
  have size : WritesMember ["ID", "Image"] none _ :=
    .other (show "Size" ∉ ["ID", "Image"] by decide) (spells_of_plain (by decide)) Gap.nil Gap.nil
      written_size
  have image : WritesMember ["ID", "Image"] (some ("Image", .text first.image)) _ :=
    .field (spells_of_plain (by decide)) Gap.nil Gap.nil (.text (spells_of_plain (by decide)))
  have members := WritesMembers.next Gap.nil id Gap.nil
    (.next Gap.nil size Gap.nil (.last Gap.nil image Gap.nil))
  exact Eq.subst (motive := WritesRecord (rowOfContainer first)) (by simp [firstLine, first])
    (⟨_, _, .refl _, members, rfl⟩ : WritesRecord (rowOfContainer first) _)

theorem written_second : WritesRecord (rowOfContainer second) secondLine.toList := by
  have feed : Spells second.image.toList _ :=
    .cons (.short (show ('n', '\n') ∈ shortNames by decide)) .nil
  have image : WritesMember ["ID", "Image"] (some ("Image", .text second.image)) _ :=
    .field (spells_of_plain (by decide)) Gap.nil Gap.nil (.text feed)
  have id : WritesMember ["ID", "Image"] (some ("ID", .text second.id)) _ :=
    .field (spells_of_plain (by decide)) Gap.nil Gap.nil (.text (spells_of_plain (by decide)))
  have members := WritesMembers.next Gap.one image Gap.nil (.last Gap.nil id Gap.nil)
  exact Eq.subst (motive := WritesRecord (rowOfContainer second)) (by simp [secondLine, second])
    (⟨_, _, .swap _ _ _, members, rfl⟩ : WritesRecord (rowOfContainer second) _)

theorem printed_answers_awkward :
    Prints [firstLine.toList, secondLine.toList] output.toList ∧
      (engine shell "docker" (.listContainers ["team=blue"]) world).answer =
        .ok [⟨"é\"😀", "a\x7d"⟩, ⟨"c2", "\n"⟩] := by
  obtain ⟨listed, -, -⟩ := @printed_answers _ shell "docker" world listing output _ rfl rfl printed
  have runs : Runs shell "docker" (.listContainers ["team=blue"]) world listing :=
    ⟨by simp [arguments, wholeRecord, labelArguments], rfl⟩
  exact ⟨printed, listed _ _ (.cons written_first (.cons written_second .nil)) runs⟩

end Awkward

end Engine.Client

end Reclaim
