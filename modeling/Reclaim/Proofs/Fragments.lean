import Reclaim.Proofs.Form

/-!
# Lines that broke off

A registration that fails while it writes can leave a beginning of its line on
the stream, and no other does (`Posting.Broken.failed`).  Whatever is written
next is glued to it, up to the next line feed.  So a registration that is
acknowledged has written the whole of its line, and yet what the other side sees
is that line behind the fragment, unless no registration broke off since a line
was last written to its end (`acknowledged_line_intact_iff`).
-/

set_option autoImplicit false

namespace Reclaim.Wire

/-! ## Cutting at line feeds -/

theorem exists_last_mark {α : Type} {mark : α} {bytes : List α} (marked : mark ∈ bytes) :
    ∃ front behind, bytes = front ++ mark :: behind ∧ mark ∉ behind := by
  obtain ⟨after, before, turned, clean⟩ :=
    List.eq_append_cons_of_mem (List.mem_reverse.mpr marked)
  refine ⟨before.reverse, after.reverse, ?_, mt List.mem_reverse.mp clean⟩
  rw [← List.reverse_reverse bytes, turned]
  simp

theorem splitOn_append_of_notMem {α : Type} [BEq α] [LawfulBEq α] {mark : α} {body : List α}
    (absent : mark ∉ body) (bytes : List α) {pieces : List (List α)} {last : List α}
    (cut : bytes.splitOn mark = pieces ++ [last]) :
    (bytes ++ body).splitOn mark = pieces ++ [last ++ body] := by
  by_cases marked : mark ∈ bytes
  · obtain ⟨front, behind, rfl, clean⟩ := exists_last_mark marked
    rw [List.splitOn_append_cons_self, List.splitOn_eq_singleton clean] at cut
    obtain ⟨rfl, same⟩ := List.append_inj' cut rfl
    have still : mark ∉ behind ++ body := by simp [clean, absent]
    rw [List.append_assoc, List.cons_append, List.splitOn_append_cons_self,
      List.splitOn_eq_singleton still, List.singleton_inj.mp same]
  · have whole : [] ++ [bytes] = pieces ++ [last] := by
      rwa [List.splitOn_eq_singleton marked] at cut
    obtain ⟨rfl, same⟩ := List.append_inj' whole rfl
    have still : mark ∉ bytes ++ body := by simp [marked, absent]
    rw [List.splitOn_eq_singleton still, List.singleton_inj.mp same, List.nil_append]

/-- The lines that a line feed ends. -/
def endedLines (bytes : List UInt8) : List (List UInt8) := (bytes.splitOn 0x0a).dropLast

def fragment (bytes : List UInt8) : List UInt8 :=
  (bytes.splitOn 0x0a).getLast (List.splitOn_ne_nil 0x0a bytes)

theorem splitOn_eq (bytes : List UInt8) :
    bytes.splitOn 0x0a = endedLines bytes ++ [fragment bytes] :=
  (List.dropLast_concat_getLast _).symm

theorem cut_unique {bytes : List UInt8} {lines : List (List UInt8)} {last : List UInt8}
    (cut : bytes.splitOn 0x0a = lines ++ [last]) :
    endedLines bytes = lines ∧ fragment bytes = last := by
  rw [splitOn_eq] at cut
  obtain ⟨sameLines, sameLast⟩ := List.append_inj' cut rfl
  exact ⟨sameLines, List.singleton_inj.mp sameLast⟩

theorem fragment_append {body : List UInt8} (absent : 0x0a ∉ body) (bytes : List UInt8) :
    fragment (bytes ++ body) = fragment bytes ++ body :=
  (cut_unique (splitOn_append_of_notMem absent bytes (splitOn_eq bytes))).2

/-- A line is glued to the fragment before it and leaves none. -/
theorem cut_append_line {body : List UInt8} (absent : 0x0a ∉ body) (bytes : List UInt8) :
    endedLines (bytes ++ (body ++ [0x0a])) = endedLines bytes ++ [fragment bytes ++ body] ∧
      fragment (bytes ++ (body ++ [0x0a])) = [] := by
  apply cut_unique
  have glued := splitOn_append_of_notMem absent bytes (splitOn_eq bytes)
  rw [← List.append_assoc, List.splitOn_append_cons_self, glued]
  rfl

/-! ## What registrations put on the wire -/

/-- What became of one registration: what it wrote of its line, and what it was answered.  Nobody
is answered whose line was not written to its end. -/
structure Posting where
  selector : Selector
  wrote : List UInt8
  answer : Except Fault Bool
  begins : wrote <+: Form.query selector ++ [0x0a]
  whole_of_answered : ∀ acknowledged, answer = .ok acknowledged →
    wrote = Form.query selector ++ [0x0a]

theorem register_appends (selector : Selector) (stream : Stream) :
    (register selector stream).stream.written.drop stream.written.length <+:
      Form.query selector ++ [0x0a] := by
  obtain ⟨sent, appended, begins⟩ := sendQuery_appends selector stream
  rw [written_register, appended, List.drop_left]
  exact begins

def posting (selector : Selector) (stream : Stream) : Posting where
  selector := selector
  wrote := (register selector stream).stream.written.drop stream.written.length
  answer := (register selector stream).answer
  begins := register_appends selector stream
  whole_of_answered := by
    intro acknowledged answered
    rw [written_of_register answered, List.drop_left]

theorem written_posting (selector : Selector) (stream : Stream) :
    (register selector stream).stream.written =
      stream.written ++ (posting selector stream).wrote := by
  obtain ⟨sent, appended, -⟩ := sendQuery_appends selector stream
  have written := (written_register selector stream).trans appended
  have wrote : (posting selector stream).wrote = sent := by
    change (register selector stream).stream.written.drop stream.written.length = sent
    rw [written, List.drop_left]
  rw [written, wrote]

def postings (stream : Stream) : List Selector → List Posting
  | [] => []
  | selector :: rest => posting selector stream :: postings (register selector stream).stream rest

theorem written_streamAfter (selectors : List Selector) (stream : Stream) :
    (streamAfter stream selectors).written =
      stream.written ++ (postings stream selectors).flatMap Posting.wrote := by
  induction selectors generalizing stream with
  | nil => exact (List.append_nil _).symm
  | cons selector rest ih =>
    rw [streamAfter_cons, ih, written_posting, postings, List.flatMap_cons, List.append_assoc]

namespace Posting

def Whole (posting : Posting) : Prop := posting.wrote = Form.query posting.selector ++ [0x0a]

/-- Writing broke off within the line. -/
def Broken (posting : Posting) : Prop := posting.wrote ≠ [] ∧ ¬ posting.Whole

theorem Broken.failed {posting : Posting} (broken : posting.Broken) :
    ∃ fault, posting.answer = .error fault := by
  cases answered : posting.answer with
  | error fault => exact ⟨fault, rfl⟩
  | ok acknowledged => exact absurd (posting.whole_of_answered acknowledged answered) broken.2

theorem fragment_of_whole {posting : Posting} (whole : posting.Whole) (bytes : List UInt8) :
    fragment (bytes ++ posting.wrote) = [] := by
  rw [whole]
  exact (cut_append_line (Form.lineFeed_notMem_query posting.selector) bytes).2

theorem fragment_of_not_whole {posting : Posting} (cut : ¬ posting.Whole) (bytes : List UInt8) :
    fragment (bytes ++ posting.wrote) = fragment bytes ++ posting.wrote := by
  apply fragment_append
  intro member
  rcases List.prefix_concat_iff.mp posting.begins with whole | within
  · exact cut whole
  · exact Form.lineFeed_notMem_query posting.selector (within.subset member)

/-- No fragment is left exactly if a whole line was written after every posting that broke off,
and after the fragment that was there before. -/
theorem fragment_eq_nil_iff (posted : List Posting) (bytes : List UInt8) :
    fragment (bytes ++ posted.flatMap wrote) = [] ↔
      (fragment bytes = [] ∨ ∃ posting ∈ posted, posting.Whole) ∧
      ∀ broken later, broken :: later <:+ posted → broken.Broken →
        ∃ posting ∈ later, posting.Whole := by
  induction posted generalizing bytes with
  | nil => simp
  | cons first rest ih =>
    rw [List.flatMap_cons, ← List.append_assoc, ih]
    have split : (∀ broken later, broken :: later <:+ first :: rest → broken.Broken →
          ∃ posting ∈ later, posting.Whole) ↔
        (first.Broken → ∃ posting ∈ rest, posting.Whole) ∧
          ∀ broken later, broken :: later <:+ rest → broken.Broken →
            ∃ posting ∈ later, posting.Whole := by
      constructor
      · intro mended
        refine ⟨mended first rest (List.suffix_refl _), ?_⟩
        intro broken later within
        exact mended broken later (within.trans (List.suffix_cons first rest))
      · rintro ⟨here, there⟩ broken later within
        rcases List.suffix_cons_iff.mp within with same | inRest
        · cases same
          exact here
        · exact there broken later inRest
    rw [split]
    by_cases whole : first.Whole
    · have unbroken : ¬ first.Broken := fun broken => broken.2 whole
      simp [fragment_of_whole whole, whole, unbroken]
    · have added := fragment_of_not_whole whole bytes
      have later : (∃ posting ∈ first :: rest, posting.Whole) ↔
          ∃ posting ∈ rest, posting.Whole := by simp [whole]
      rw [later, added]
      by_cases nothing : first.wrote = []
      · have unbroken : ¬ first.Broken := fun broken => broken.1 nothing
        simp [nothing, unbroken]
      · have broken : first.Broken := ⟨nothing, whole⟩
        constructor
        · rintro ⟨glue | mended, rest⟩
          · exact absurd (List.append_eq_nil_iff.mp glue).2 nothing
          · exact ⟨Or.inr mended, fun _ => mended, rest⟩
        · rintro ⟨-, mended, rest⟩
          exact ⟨Or.inr (mended broken), rest⟩

end Posting

/-- A registration that is acknowledged has written the whole of its line, as the end of a line
that the fragment before it begins.  That line is its own exactly if there is no such fragment,
that is, if after every earlier registration that broke off, and so failed, a line was written to
its end. -/
theorem acknowledged_line_intact_iff (stream : Stream) (fresh : stream.written = [])
    (earlier : List Selector) (selector : Selector)
    (acknowledged : (register selector (streamAfter stream earlier)).answer = .ok true) :
    let before := (streamAfter stream earlier).written
    let after := (register selector (streamAfter stream earlier)).stream.written
    after = before ++ (Form.query selector ++ [0x0a]) ∧
    endedLines after = endedLines before ++ [fragment before ++ Form.query selector] ∧
    (endedLines after = endedLines before ++ [Form.query selector] ↔
      ∀ broken later, broken :: later <:+ postings stream earlier → broken.Broken →
        ∃ posting ∈ later, posting.Whole) := by
  intro before after
  have whole : after = before ++ (Form.query selector ++ [0x0a]) := written_of_register acknowledged
  have glued : endedLines after =
      endedLines before ++ [fragment before ++ Form.query selector] := by
    rw [whole]
    exact (cut_append_line (Form.lineFeed_notMem_query selector) before).1
  have told : before = (postings stream earlier).flatMap Posting.wrote := by
    have written := written_streamAfter earlier stream
    rwa [fresh, List.nil_append] at written
  refine ⟨whole, glued, ?_⟩
  have intact : endedLines after = endedLines before ++ [Form.query selector] ↔
      fragment before = [] := by
    rw [glued, List.append_cancel_left_eq, List.singleton_inj, List.append_left_eq_self]
  rw [intact, told]
  have nothingBefore := Posting.fragment_eq_nil_iff (postings stream earlier) []
  rw [List.nil_append] at nothingBefore
  rw [nothingBefore]
  exact and_iff_right (Or.inl rfl)

/-! ### A fragment, and one that was ended -/

def single (label : String) : Selector := ⟨[⟨labelKey, label, labelKey_ne_empty⟩]⟩

/-- A stream that takes three bytes and fails then, and over which an acknowledgment arrives. -/
def choking : Stream :=
  ⟨[.chunk [0x41, 0x43, 0x4b, 0x0a]], [.upTo 3, .fault ⟨false, "x"⟩], [], []⟩

theorem answer_of_sent {selector : Selector} {stream after : Stream}
    (sent : sendQuery selector stream = (.ok (), after))
    (arriving : stream.arrivals = [.chunk [0x41, 0x43, 0x4b, 0x0a]]) :
    (register selector stream).answer = .ok true := by
  have line : readLine [] [.chunk [0x41, 0x43, 0x4b, 0x0a]] =
      .line [0x41, 0x43, 0x4b] [.chunk []] := by decide +kernel
  rw [register_of_sent sent, arriving, awaitAcknowledgment_of_line line,
    if_pos (by decide +kernel)]
  rfl

/-- The second registration is acknowledged, and there is no line of its own on the wire. -/
theorem acknowledged_behind_fragment :
    (register (single "b=2") (streamAfter choking [single "a=1"])).answer = .ok true ∧
      Form.query (single "b=2") ∉
        endedLines (streamAfter choking [single "a=1", single "b=2"]).written := by
  have choked : streamAfter choking [single "a=1"] =
      ⟨[.chunk [0x41, 0x43, 0x4b, 0x0a]], [], [], [0x6c, 0x61, 0x62]⟩ := by decide +kernel
  have answered : (register (single "b=2") (streamAfter choking [single "a=1"])).answer =
      .ok true := by
    rw [choked]
    exact answer_of_sent rfl rfl
  have written := written_of_register answered
  have both : streamAfter choking [single "a=1", single "b=2"] =
      (register (single "b=2") (streamAfter choking [single "a=1"])).stream := rfl
  refine ⟨answered, ?_⟩
  rw [both, written, choked]
  decide +kernel

/-- Like the stream before, but the first flush fails, so that the line behind the fragment is
written to its end and yet not acknowledged. -/
def mending : Stream := { choking with flushes := [some ⟨false, "y"⟩] }

theorem mending_mended (broken : Posting) (later : List Posting)
    (within : broken :: later <:+ postings mending [single "a=1", single "b=2"])
    (isBroken : broken.Broken) : ∃ posting ∈ later, posting.Whole := by
  have whole : (posting (single "b=2") (register (single "a=1") mending).stream).Whole := by
    change (posting (single "b=2") (register (single "a=1") mending).stream).wrote =
      Form.query (single "b=2") ++ [0x0a]
    decide +kernel
  rcases List.suffix_cons_iff.mp within with first | rest
  · cases first
    exact ⟨_, List.mem_cons_self, whole⟩
  · rcases List.suffix_cons_iff.mp rest with second | beyond
    · cases second
      exact absurd whole isBroken.2
    · cases List.suffix_nil.mp beyond

/-- After a fragment and the line that ended it, the next line is its own again. -/
theorem acknowledged_line_intact_iff_mending :
    mending.written = [] ∧
      (register (single "a=1") (streamAfter mending [single "a=1", single "b=2"])).answer =
        .ok true ∧
      endedLines
          (register (single "a=1")
            (streamAfter mending [single "a=1", single "b=2"])).stream.written =
        [[0x6c, 0x61, 0x62] ++ Form.query (single "b=2"), Form.query (single "a=1")] := by
  have before : streamAfter mending [single "a=1", single "b=2"] =
      ⟨[.chunk [0x41, 0x43, 0x4b, 0x0a]], [], [],
        [0x6c, 0x61, 0x62] ++ (Form.query (single "b=2") ++ [0x0a])⟩ := by decide +kernel
  have answered : (register (single "a=1")
      (streamAfter mending [single "a=1", single "b=2"])).answer = .ok true := by
    rw [before]
    exact answer_of_sent rfl rfl
  obtain ⟨-, -, intact⟩ := acknowledged_line_intact_iff mending rfl
    [single "a=1", single "b=2"] (single "a=1") answered
  have lines : endedLines (streamAfter mending [single "a=1", single "b=2"]).written =
      [[0x6c, 0x61, 0x62] ++ Form.query (single "b=2")] := by
    rw [before]
    decide +kernel
  refine ⟨rfl, answered, ?_⟩
  rw [intact.mpr mending_mended, lines]
  rfl

end Reclaim.Wire
