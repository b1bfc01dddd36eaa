import Reclaim.CommandLine.Invocation
import Reclaim.Proofs.Client
import Reclaim.Proofs.Labels

/-!
# Label arguments

A label argument is cut at its first equals sign, and what is before and behind
it are the name and the value; the label as engines write it is the argument
again (`readLabel_eq_ok_iff`).  A command line on which a sweep is asked for,
with its arguments written in any of the ways there are, is read as the request
for a sweep with these labels (`parse_prune`).
-/

set_option autoImplicit false

namespace Reclaim.CommandLine

/-! ## One argument -/

theorem cutEquals_joined {name : List Char} (unmarked : '=' ∉ name) (value : List Char) :
    cutEquals (name ++ '=' :: value) = (name, some value) := by
  induction name with
  | nil => rfl
  | cons letter rest ih =>
    rw [List.mem_cons, not_or] at unmarked
    rw [List.cons_append, cutEquals, ih unmarked.2]
    exact Ne.symm unmarked.1

theorem joined_of_cutEquals {letters name value : List Char}
    (cut : cutEquals letters = (name, some value)) :
    letters = name ++ '=' :: value ∧ '=' ∉ name := by
  fun_induction cutEquals letters generalizing name with
  | case1 => cases cut
  | case2 rest =>
    cases cut
    exact ⟨rfl, List.not_mem_nil⟩
  | case3 letter rest mark before after later ih =>
    cases cut
    obtain ⟨rfl, unmarked⟩ := ih later
    exact ⟨rfl, List.not_mem_cons_of_ne_of_not_mem (Ne.symm mark) unmarked⟩

theorem readLabel_eq_ok_iff {argument : String} {label : Label} :
    readLabel argument = .ok label ↔
      argument = Clause.labelText label.1 label.2 ∧ label.1 ≠ "" ∧ '=' ∉ label.1.toList := by
  obtain ⟨name, value⟩ := label
  constructor
  · intro read
    unfold readLabel at read
    split at read
    · cases read
    · cases read
    next before after unnamed cut =>
      cases read
      obtain ⟨joined, unmarked⟩ := joined_of_cutEquals cut
      refine ⟨?_, ?_, by simpa using unmarked⟩
      · rw [← String.toList_inj, toList_labelText, joined]
        simp
      · simpa using unnamed
  · rintro ⟨rfl, named, unmarked⟩
    have cut := cutEquals_joined unmarked value.toList
    rw [← toList_labelText] at cut
    cases letters : name.toList with
    | nil => exact absurd (String.toList_eq_nil_iff.mp letters) named
    | cons first rest =>
      rw [letters] at cut
      rw [readLabel, cut]
      simp [← letters]

theorem mapM_readLabel_eq_ok_iff {arguments : List String} {labels : List Label} :
    arguments.mapM readLabel = .ok labels ↔
      arguments = labels.map (fun label => Clause.labelText label.1 label.2) ∧
        ∀ label ∈ labels, label.1 ≠ "" ∧ '=' ∉ label.1.toList := by
  rw [mapM_eq_ok_iff]
  constructor
  · intro read
    induction read with
    | nil => exact ⟨rfl, List.forall_mem_nil _⟩
    | cons first others ih =>
      obtain ⟨text, named, unmarked⟩ := readLabel_eq_ok_iff.mp first
      obtain ⟨texts, proper⟩ := ih
      exact ⟨by rw [text, texts, List.map_cons],
        List.forall_mem_cons.mpr ⟨⟨named, unmarked⟩, proper⟩⟩
  · rintro ⟨rfl, proper⟩
    rw [List.forall₂_map_left_iff, List.forall₂_same]
    intro label given
    exact readLabel_eq_ok_iff.mpr ⟨rfl, proper label given⟩

/-! ## Spellings -/

/-- The ways to give the option for labels an argument. -/
inductive SpelledLabel (argument : String) : List String → Prop where
  | joined : SpelledLabel argument ["--label=" ++ argument]
  | parted (word : shapeOf argument = .word) : SpelledLabel argument ["--label", argument]

def labelled (arguments : List String) : Reading :=
  ⟨if arguments = [] then [] else [⟨"label", .arguments, arguments⟩], none⟩

theorem accept_labelled {argument : String} {label : Label}
    (read : readLabel argument = .ok label) (earlier : List String) :
    (labelled earlier).accept (labelFlag true) .arguments argument =
      .ok (labelled (earlier ++ [argument])) := by
  cases earlier with
  | nil => simp [labelled, Reading.accept, Reading.find?, labelFlag, checkLabel, read]
  | cons first rest => simp [labelled, Reading.accept, Reading.find?, labelFlag, checkLabel, read]

/-- A reading that will have been given just some labels once it is settled. -/
structure Awaits (reading : Reading) (arguments : List String) : Prop where
  complete : reading.awaitsValue = false
  settles : reading.settle = .ok (labelled arguments)

section Reading

variable {level : Level} {reading : Reading} {argument : String}

theorem Level.read_long {next : Reading} {name : String} {value : Option String}
    (plain : level.commands = []) (shape : shapeOf argument = .long name value)
    (went : level.readLong reading name value = .ok next) (rest : List String) :
    level.read reading (argument :: rest) = level.read next rest := by
  rw [Level.read.eq_def]
  simp [plain, shape, went]

theorem Level.read_value {flag : Flag} (plain : level.commands = [])
    (awaits : reading.pending = some (flag, none)) (shape : shapeOf argument = .word)
    (rest : List String) :
    level.read reading (argument :: rest) =
      level.read { reading with pending := some (flag, some argument) } rest := by
  rw [Level.read.eq_def]
  simp [plain, shape, awaits]

theorem readLong_label {earlier : List String} (awaits : Awaits reading earlier)
    (value : Option String) :
    Command.prune.level.readLong reading "label" value =
      match value with
      | some argument => (labelled earlier).accept (labelFlag true) .arguments argument
      | none => .ok ⟨(labelled earlier).given, some (labelFlag true, none)⟩ := by
  have found : (Command.prune.level.flags.find? fun flag => flag.name == "label") =
      some (labelFlag true) := by
    simp [Command.level, labelFlag]
  rw [Level.readLong, found]
  simp only [awaits.settles]
  rfl

theorem read_spelled {earlier : List String} (awaits : Awaits reading earlier)
    {label : Label} (read : readLabel argument = .ok label) {words : List String}
    (spelled : SpelledLabel argument words) (rest : List String) :
    ∃ later, Awaits later (earlier ++ [argument]) ∧
      Command.prune.level.read reading (words ++ rest) = Command.prune.level.read later rest := by
  have accepted := accept_labelled read earlier
  cases spelled with
  | joined =>
    have shape : shapeOf ("--label=" ++ argument) = .long "label" (some argument) := by
      simp [shapeOf, cutEquals]
    exact ⟨labelled (earlier ++ [argument]), ⟨rfl, rfl⟩,
      Level.read_long rfl shape ((readLong_label awaits _).trans accepted) rest⟩
  | parted word =>
    -- The value is looked at only when the option is settled, by the next one or by the end.
    have shape : shapeOf "--label" = .long "label" none := by decide
    refine ⟨⟨(labelled earlier).given, some (labelFlag true, some argument)⟩, ⟨rfl, accepted⟩, ?_⟩
    have opened := Level.read_long rfl shape (readLong_label awaits none) (argument :: rest)
    exact opened.trans (Level.read_value rfl rfl word rest)

theorem read_spellings {arguments : List String} {spellings : List (List String)}
    (spelled : List.Forall₂ SpelledLabel arguments spellings)
    (accepted : ∀ argument ∈ arguments, ∃ label, readLabel argument = .ok label)
    {earlier : List String} (awaits : Awaits reading earlier) :
    ∃ last, Awaits last (earlier ++ arguments) ∧
      Command.prune.level.read reading spellings.flatten = .ok (last, none) := by
  induction spelled generalizing reading earlier with
  | nil =>
    refine ⟨reading, ?_, rfl⟩
    rw [List.append_nil]
    exact awaits
  | @cons argument words arguments spellings first others ih =>
    obtain ⟨⟨label, read⟩, proper⟩ := List.forall_mem_cons.mp accepted
    obtain ⟨later, awaitsLater, went⟩ := read_spelled awaits read first spellings.flatten
    obtain ⟨last, awaitsLast, ended⟩ := ih proper awaitsLater
    rw [List.append_assoc] at awaitsLast
    exact ⟨last, awaitsLast, went.trans ended⟩

end Reading

def programIn (environment : Environment) : String :=
  (List.lookup programVariable environment).getD defaultProgram

def givenBy (environment : Environment) : List Given :=
  ((List.lookup programVariable environment).map
    fun program => ⟨programFlag.name, .environment, [program]⟩).toList

theorem accept_first {reading : Reading} {flag : Flag} {source : Source} {value : String}
    (unseen : ∀ given ∈ reading.given, given.name ≠ flag.name)
    (checked : flag.check value = .ok ()) :
    reading.accept flag source value =
      .ok { reading with given := reading.given ++ [⟨flag.name, source, [value]⟩] } := by
  have absent : reading.find? flag.name = none := by simpa [Reading.find?] using unseen
  have others : (reading.given.filter fun given => given.name != flag.name) = reading.given := by
    rw [List.filter_eq_self]
    simpa using unseen
  simp [Reading.accept, absent, others, checked]

theorem consult_program {reading : Reading} {environment : Environment}
    (unnamed : ∀ given ∈ reading.given, given.name ≠ programFlag.name)
    (proper : List.lookup programVariable environment ≠ some "") :
    reading.consult environment [programFlag] =
      .ok { reading with given := reading.given ++ givenBy environment } := by
  have absent : reading.find? programFlag.name = none := by
    simpa [Reading.find?] using unnamed
  have standIn : (programFlag.standIn?.bind fun name => List.lookup name environment) =
      List.lookup programVariable environment := rfl
  rw [Reading.consult, absent, standIn, givenBy]
  cases named : List.lookup programVariable environment with
  | none => simp [Reading.consult]
  | some program =>
    have checked : programFlag.check program = .ok () := by
      apply if_neg
      intro blank
      exact proper (blank ▸ named)
    simp [accept_first unnamed checked, Reading.consult, bind, Except.bind]

theorem finish_labelled {arguments : List String} (given : arguments ≠ []) {reading : Reading}
    (awaits : Awaits reading arguments) {environment : Environment}
    (proper : List.lookup programVariable environment ≠ some "") :
    Command.prune.level.finishCommand environment reading =
      .ok ⟨⟨"label", .arguments, arguments⟩ :: givenBy environment, none⟩ := by
  have labelsOnly : labelled arguments = ⟨[⟨"label", .arguments, arguments⟩], none⟩ := by
    rw [labelled, if_neg given]
  have unnamed : ∀ given ∈ (labelled arguments).given, given.name ≠ programFlag.name := by
    simp [labelsOnly, programFlag]
  -- The option for labels has no stand-in; only the one for the program is looked up.
  have consulted := consult_program unnamed proper
  have finished : Command.prune.level.finish environment reading =
      .ok ⟨⟨"label", .arguments, arguments⟩ :: givenBy environment, none⟩ := by
    rw [Level.finish, awaits.settles]
    rw [labelsOnly] at consulted ⊢
    simpa [bind, Except.bind, Command.level, Reading.consult, labelFlag] using consulted
  rw [Level.finishCommand, finished]
  simp [bind, Except.bind, Command.level, labelFlag, programFlag, Reading.find?]

theorem filterMap_readLabel {arguments : List String} {labels : List Label}
    (accepted : arguments.mapM readLabel = .ok labels) :
    (arguments.filterMap fun argument => (readLabel argument).toOption) = labels := by
  rw [mapM_eq_ok_iff] at accepted
  induction accepted with
  | nil => rfl
  | cons first others ih => rw [List.filterMap_cons, first, ih, Except.toOption]

theorem parse_prune {arguments : List String} {labels : List Label}
    (accepted : arguments.mapM readLabel = .ok labels) (given : arguments ≠ [])
    {environment : Environment} (proper : List.lookup programVariable environment ≠ some "")
    {spellings : List (List String)} (spelled : List.Forall₂ SpelledLabel arguments spellings) :
    parse environment ("prune" :: spellings.flatten) =
      .ok ⟨programIn environment, .prune labels⟩ := by
  have readable : ∀ argument ∈ arguments, ∃ label, readLabel argument = .ok label :=
    exists_of_forall₂ (mapM_eq_ok_iff.mp accepted)
  obtain ⟨last, awaits, read⟩ := @read_spellings .opening _ _ spelled readable [] ⟨rfl, rfl⟩
  have found : programLevel.read .opening ("prune" :: spellings.flatten) =
      .ok (.opening, some ("prune", spellings.flatten)) := rfl
  have outer : programLevel.finish environment .opening = .ok ⟨givenBy environment, none⟩ :=
    consult_program (List.forall_mem_nil _) proper
  rw [parse, found]
  simp only [bind, Except.bind, Command.all, List.find?, Command.name, beq_self_eq_true]
  rw [read]
  simp only [finish_labelled given awaits proper, outer]
  have task : Command.task ⟨⟨"label", .arguments, arguments⟩ :: givenBy environment, none⟩ .prune =
      .prune labels := by
    simp [Command.task, Reading.labels, Reading.values, Reading.find?, filterMap_readLabel accepted]
  have program : chooseProgram (Reading.find? ⟨givenBy environment, none⟩ programFlag.name)
      (Reading.find? ⟨⟨"label", .arguments, arguments⟩ :: givenBy environment, none⟩
        programFlag.name) = programIn environment := by
    unfold givenBy programIn
    cases List.lookup programVariable environment with
    | none => rfl
    | some program => rfl
  rw [task, program]
  rfl

end Reclaim.CommandLine
