import Mathlib.Data.List.Nodup
import Reclaim.Json.Record
import Reclaim.Proofs.Skipping

/-!
# Records among other members

A record is written as an object that has its fields in any order, and other
members anywhere between them.  Reading such an object yields the fields as they
come (`decode_written`); in which order does not matter to those who look them
up (`lookup_of_perm`).
-/

set_option autoImplicit false

namespace Reclaim.Json

/-! ## Rows -/

theorem lookup_eq_some_iff {row : Row} (distinct : (row.map Prod.fst).Nodup) {name : String}
    {datum : Datum} : row.lookup name = some datum ↔ (name, datum) ∈ row := by
  induction row with
  | nil => simp
  | cons entry rest ih =>
    obtain ⟨key, value⟩ := entry
    obtain ⟨new, later⟩ := List.nodup_cons.mp distinct
    by_cases same : name = key
    · subst same
      have absent : (name, datum) ∉ rest := fun member =>
        new (List.mem_map.mpr ⟨_, member, rfl⟩)
      simp [absent, eq_comm]
    · simp [List.lookup_cons, beq_eq_false_iff_ne.mpr same, ih later, same]

theorem lookup_of_perm {found row : Row} (perm : found.Perm row)
    (distinct : (row.map Prod.fst).Nodup) (name : String) :
    found.lookup name = row.lookup name := by
  have alsoDistinct : (found.map Prod.fst).Nodup := (perm.map Prod.fst).nodup_iff.mpr distinct
  apply Option.ext
  intro datum
  rw [lookup_eq_some_iff alsoDistinct, lookup_eq_some_iff distinct, perm.mem_iff]

/-! ## How records are written -/

inductive WritesDatum : Datum → List Char → Prop where
  | text {value : String} {spelling : List Char} (spelled : Spells value.toList spelling) :
      WritesDatum (.text value) ('"' :: (spelling ++ ['"']))
  | yes : WritesDatum (.flag true) ['t', 'r', 'u', 'e']
  | no : WritesDatum (.flag false) ['f', 'a', 'l', 's', 'e']

/-- A member of an object: a field of a record, or a member with a name that no field has. -/
inductive WritesMember (names : List String) : Option (String × Datum) → List Char → Prop where
  | field {name : String} {datum : Datum} {key gap between value : List Char}
      (spelled : Spells name.toList key) (blank : Gap gap) (blankBetween : Gap between)
      (written : WritesDatum datum value) :
      WritesMember names (some (name, datum))
        ('"' :: (key ++ '"' :: (gap ++ ':' :: (between ++ value))))
  | other {name : String} {key gap between value : List Char} (foreign : name ∉ names)
      (spelled : Spells name.toList key) (blank : Gap gap) (blankBetween : Gap between)
      (written : Written .value value) :
      WritesMember names none ('"' :: (key ++ '"' :: (gap ++ ':' :: (between ++ value))))

/-- The members of an object, and the fields among them in their order. -/
inductive WritesMembers (names : List String) : Row → List Char → Prop where
  | last {given : Option (String × Datum)} {before member after : List Char}
      (blankBefore : Gap before) (written : WritesMember names given member)
      (blankAfter : Gap after) :
      WritesMembers names given.toList (before ++ (member ++ after))
  | next {given : Option (String × Datum)} {row : Row} {before member after rest : List Char}
      (blankBefore : Gap before) (written : WritesMember names given member)
      (blankAfter : Gap after) (others : WritesMembers names row rest) :
      WritesMembers names (given.toList ++ row) (before ++ (member ++ (after ++ ',' :: rest)))

/-- An object that has the fields of a row, each once and in any order, and perhaps other members
besides. -/
def WritesRecord (row : Row) (line : List Char) : Prop :=
  ∃ found inner, found.Perm row ∧ WritesMembers (row.map Prod.fst) found inner ∧
    line = '\x7b' :: (inner ++ ['\x7d'])

/-! ## Reading fields -/

def Datum.shape : Datum → Shape
  | .text _ => .text
  | .flag _ => .flag

theorem readDatum_written {datum : Datum} {gap value : List Char} (blank : Gap gap)
    (written : WritesDatum datum value) (rest : List Char) :
    readDatum datum.shape (gap ++ (value ++ rest)) = .ok (datum, rest) := by
  cases written with
  | @text content spelling spelled =>
    have read : readText (spelling ++ '"' :: rest) = .ok (content.toList, rest) :=
      readText_spelled spelled rest
    simp [Datum.shape, readDatum, readString, skipBlanks_gap blank, skipBlanks_cons, isSpace, read,
      Except.map]
  | yes =>
    simp [Datum.shape, readDatum, readFlag, skipBlanks_gap blank, skipBlanks_cons, isSpace,
      skipWord, Except.map]
  | no =>
    simp [Datum.shape, readDatum, readFlag, skipBlanks_gap blank, skipBlanks_cons, isSpace,
      skipWord, Except.map]

theorem readColon_written {gap : List Char} (blank : Gap gap) (rest : List Char) :
    readColon (gap ++ ':' :: rest) = .ok rest := by
  simp [readColon, skipBlanks_gap blank, skipBlanks_cons, isSpace]

structure Layout.Fits (layout : Layout) (row : Row) : Prop where
  fields : (layout.fields.map fun field => (field.name, field.shape)) =
    row.map fun entry => (entry.1, entry.2.shape)
  distinct : (row.map Prod.fst).Nodup

namespace Layout.Fits

variable {layout : Layout} {row : Row}

theorem names (fits : layout.Fits row) : layout.fields.map Field.name = row.map Prod.fst := by
  have same := congrArg (List.map Prod.fst) fits.fields
  rwa [List.map_map, List.map_map] at same

theorem find (fits : layout.Fits row) {name : String} {datum : Datum}
    (member : (name, datum) ∈ row) :
    ∃ field, (layout.fields.find? fun field => field.name == name) = some field ∧
      field.shape = datum.shape := by
  have named : name ∈ layout.fields.map Field.name := by
    rw [fits.names]
    exact List.mem_map_of_mem member
  cases found : layout.fields.find? fun field => field.name == name with
  | none =>
    obtain ⟨field, listed, rfl⟩ := List.mem_map.mp named
    exact absurd (List.find?_eq_none.mp found field listed) (by simp)
  | some field =>
    have same : field.name = name := by simpa using List.find?_some found
    have listed := List.mem_map_of_mem (f := fun field => (field.name, field.shape))
      (List.mem_of_find?_eq_some found)
    rw [fits.fields] at listed
    obtain ⟨⟨key, value⟩, inRow, pair⟩ := List.mem_map.mp listed
    obtain ⟨sameKey, sameShape⟩ := Prod.mk.inj pair
    have entry := List.inj_on_of_nodup_map fits.distinct inRow member (sameKey.trans same)
    cases entry
    exact ⟨field, rfl, sameShape.symm⟩

theorem find_none (fits : layout.Fits row) {name : String} (foreign : name ∉ row.map Prod.fst) :
    (layout.fields.find? fun field => field.name == name) = none := by
  refine List.find?_eq_none.mpr fun field listed same => foreign ?_
  rw [← fits.names, ← beq_iff_eq.mp same]
  exact List.mem_map_of_mem listed

theorem missing (fits : layout.Fits row) {found : Row} (perm : found.Perm row) :
    layout.missing? found = none := by
  refine List.find?_eq_none.mpr fun field listed missing => ?_
  have named : field.name ∈ row.map Prod.fst := by
    rw [← fits.names]
    exact List.mem_map_of_mem listed
  obtain ⟨⟨name, datum⟩, inRow, same⟩ := List.mem_map.mp named
  have present := (lookup_eq_some_iff fits.distinct).mpr inRow
  rw [← lookup_of_perm perm fits.distinct] at present
  simp [← same, present] at missing

end Layout.Fits

/-! ## Reading members -/

section Members

variable {layout : Layout} {row : Row}

theorem readMembers_step {acc read : Row} {text key rest behind : List Char}
    (first : readText text = .ok (key, rest))
    (member : layout.readMember acc (String.ofList key) rest = .ok (read, behind)) :
    layout.readMembers acc text =
      match readNextKey behind with
      | .error stop => .error stop
      | .ok none => layout.close read behind
      | .ok (some rest) => layout.readMembers read rest := by
  rw [Layout.readMembers]
  split
  next stop failed =>
    rw [first] at failed
    cases failed
  next other more found =>
    rw [first] at found
    cases found
    split
    next stop failed =>
      rw [member] at failed
      cases failed
    next again left found =>
      rw [member] at found
      cases found
      split <;> simp_all

theorem readMember_written (fits : layout.Fits row) {given : Option (String × Datum)}
    {member : List Char} (written : WritesMember (row.map Prod.fst) given member)
    {acc later : Row} (perm : (acc ++ given.toList ++ later).Perm row) {rest : List Char}
    (delimited : Delimited rest) :
    ∃ text key behind, member ++ rest = '"' :: text ∧ readText text = .ok (key, behind) ∧
      layout.readMember acc (String.ofList key) behind = .ok (acc ++ given.toList, rest) := by
  cases written with
  | @field name datum key gap between value spelled blank blankBetween written =>
    have shape : '"' :: (key ++ '"' :: (gap ++ ':' :: (between ++ value))) ++ rest =
        '"' :: (key ++ '"' :: (gap ++ ':' :: (between ++ (value ++ rest)))) := by simp
    refine ⟨_, name.toList, _, shape, readText_spelled spelled _, ?_⟩
    have entries : acc ++ [(name, datum)] ++ later = acc ++ (name, datum) :: later := by simp
    rw [Option.toList_some, entries] at perm
    have inRow : (name, datum) ∈ row := perm.mem_iff.mp (by simp)
    obtain ⟨field, found, same⟩ := fits.find inRow
    have unread : acc.lookup name = none := by
      have distinct := (perm.map Prod.fst).nodup_iff.mpr fits.distinct
      rw [List.map_append, List.map_cons] at distinct
      refine List.lookup_eq_none_iff.mpr fun entry member => ?_
      have other := (List.nodup_append.mp distinct).2.2 entry.1 (List.mem_map_of_mem member) name
        (.head _)
      simpa using other.symm
    rw [String.ofList_toList, Layout.readMember, found]
    simp [unread, readColon_written blank, same, bind, Except.bind, pure, Except.pure,
      readDatum_written blankBetween written]
  | @other name key gap between value foreign spelled blank blankBetween written =>
    have shape : '"' :: (key ++ '"' :: (gap ++ ':' :: (between ++ value))) ++ rest =
        '"' :: (key ++ '"' :: (gap ++ ':' :: (between ++ (value ++ rest)))) := by simp
    refine ⟨_, name.toList, _, shape, readText_spelled spelled _, ?_⟩
    rw [String.ofList_toList, Layout.readMember, fits.find_none foreign]
    simp [readColon_written blank, bind, Except.bind, pure, Except.pure,
      skipValue_written blankBetween written delimited]

theorem readNextKey_comma {gap rest text : List Char} (blank : Gap gap)
    (key : skipBlanks rest = '"' :: text) : readNextKey (gap ++ ',' :: rest) = .ok (some text) := by
  simp [readNextKey, skipBlanks_gap blank, skipBlanks_cons, isSpace, key]

theorem close_written (fits : layout.Fits row) {found : Row} (perm : found.Perm row)
    {gap : List Char} (blank : Gap gap) (rest : List Char) :
    readNextKey (gap ++ '\x7d' :: rest) = .ok none ∧
      layout.close found (gap ++ '\x7d' :: rest) = .ok (found, rest) := by
  constructor
  · simp [readNextKey, skipBlanks_gap blank, skipBlanks_cons, isSpace]
  · simp [Layout.close, fits.missing perm, passMark, skipBlanks_gap blank, skipBlanks_cons,
      isSpace]

/-- The members of an object are read one after another, behind those that have been read. -/
theorem readMembers_written (fits : layout.Fits row) {found : Row} {inner : List Char}
    (written : WritesMembers (row.map Prod.fst) found inner) {acc : Row}
    (perm : (acc ++ found).Perm row) (rest : List Char) :
    ∃ text, skipBlanks (inner ++ '\x7d' :: rest) = '"' :: text ∧
      layout.readMembers acc text = .ok (acc ++ found, rest) := by
  induction written generalizing acc with
  | @last given before member after blankBefore written blankAfter =>
    have shape : before ++ (member ++ after) ++ '\x7d' :: rest =
        before ++ (member ++ (after ++ '\x7d' :: rest)) := by simp
    have delimited : Delimited (after ++ '\x7d' :: rest) :=
      blankAfter.delimited (delimited_cons (by decide) rest)
    have whole : (acc ++ given.toList ++ []).Perm row := by rwa [List.append_nil]
    obtain ⟨text, key, behind, opens, first, read⟩ :=
      readMember_written fits written whole delimited
    obtain ⟨ends, closed⟩ := close_written fits perm blankAfter rest
    refine ⟨text, ?_, ?_⟩
    · rw [shape, skipBlanks_gap blankBefore, opens, skipBlanks_cons (by decide)]
    · rw [readMembers_step first read, ends]
      exact closed
  | @next given more before member after others blankBefore written blankAfter later ih =>
    have shape : before ++ (member ++ (after ++ ',' :: others)) ++ '\x7d' :: rest =
        before ++ (member ++ (after ++ ',' :: (others ++ '\x7d' :: rest))) := by simp
    have delimited : Delimited (after ++ ',' :: (others ++ '\x7d' :: rest)) :=
      blankAfter.delimited (delimited_cons (by decide) _)
    rw [← List.append_assoc] at perm
    obtain ⟨text, key, behind, opens, first, read⟩ :=
      readMember_written fits written perm delimited
    obtain ⟨further, opensFurther, readFurther⟩ := ih perm
    refine ⟨text, ?_, ?_⟩
    · rw [shape, skipBlanks_gap blankBefore, opens, skipBlanks_cons (by decide)]
    · rw [readMembers_step first read, readNextKey_comma blankAfter opensFurther]
      simpa only [List.append_assoc] using readFurther

/-- A record is read as its fields, in the order in which they stand. -/
theorem decode_written (fits : layout.Fits row) {line : List Char}
    (written : WritesRecord row line) :
    ∃ found, found.Perm row ∧ layout.decode line = .ok found := by
  obtain ⟨found, inner, perm, members, rfl⟩ := written
  refine ⟨found, perm, ?_⟩
  have nothingYet : ([] ++ found).Perm row := perm
  obtain ⟨text, opens, read⟩ := readMembers_written fits members nothingYet []
  have first : readFirstKey (inner ++ ['\x7d']) = .ok (some text) := by
    simp [readFirstKey, opens]
  have record : layout.readRecord ('\x7b' :: (inner ++ ['\x7d'])) = .ok (found, []) := by
    rw [Layout.readRecord, skipBlanks_cons (by decide)]
    simp only [Layout.readObject, first]
    exact read
  rw [Layout.decode, record]
  rfl

end Members

end Reclaim.Json
