import JobShell.Line

/-!
# Lines are the segments of the input

Leave the interrupted reads out of a source, and cut what is left behind every newline, every read
at the end of the file and every failed read. This is said without a line reader; what is proved
is that the calls of `readLine` take these segments one after the other, and that each answer
follows from its segment alone.

The reader is described by the bytes of the line so far (`LineReader.holding`), not by the steps
that it took; one more byte leads from the description of the bytes before to that of the bytes
after.

Results:
1. `LineReader.run_holding`: a call goes on to the end of the first segment and not beyond.
2. `Source.segments_afterLines`: each call takes one segment off the source.
3. `readLine_splits`: the same for a script of arrivals, whatever arrives together.
-/

namespace JobShell

/-! ## Segments -/

/-- Whether a read that was not interrupted is the last one of a line. -/
def ReadOutcome.endsLine : ReadOutcome → Bool
  | .byte b => b = Bytes.newline
  | .endOfFile | .failed _ => true

namespace Source

/-- A source without its interrupted reads. -/
def settled (source : Source) : Source := source.filter (· ≠ .failed .interrupted)

/-- Cut a source behind every read that ends a line. What stands behind the last one of these is a
segment too, unless there is nothing. -/
def cut : Source → List Source
  | [] => []
  | outcome :: rest =>
      if outcome.endsLine then [outcome] :: cut rest
      else (outcome :: (cut rest).headD []) :: (cut rest).tail

def segments (source : Source) : List Source := cut source.settled

/-- The bytes of a segment in front of its end. -/
def content (segment : Source) : Bytes :=
  segment.filterMap fun
    | .byte b => if b = Bytes.newline then none else some b
    | _ => none

/-- What `readLine` has to answer for a segment. A segment that nothing ends stands at the end of
the source, where there is only end of file. -/
def answer (maxLen : Nat) (segment : Source) : Except Errno Line :=
  match segment.getLast? with
  | some (.failed e) => .error e
  | last => .ok (
      if segment.content = [] ∧ last ≠ some (.byte Bytes.newline) then .endOfFile
      else if segment.content.length ≤ maxLen then .text segment.content
      else .tooLong)

/-- What is left of a source after so many calls of `readLine`. -/
def afterLines (maxLen : Nat) : Nat → Source → Source
  | 0, source => source
  | k + 1, source => afterLines maxLen k (readLine maxLen source).2

/-- The answer to call number `k` of `readLine`, counted from 0. -/
def line (maxLen k : Nat) (source : Source) : Except Errno Line :=
  (readLine maxLen (source.afterLines maxLen k)).1

theorem flatten_cut (source : Source) : source.cut.flatten = source := by
  induction source with
  | nil => rfl
  | cons outcome rest ih =>
      unfold cut
      split
      · rw [List.flatten_cons, ih, List.singleton_append]
      · cases pieces : cut rest with
        | nil =>
            rw [pieces] at ih
            rw [← ih]
            rfl
        | cons first later =>
            rw [pieces] at ih
            rw [← ih]
            rfl

theorem segments_interrupted (rest : Source) :
    segments (.failed .interrupted :: rest) = segments rest := by
  simp [segments, settled]

theorem segments_end {outcome : ReadOutcome} (final : outcome ≠ .failed .interrupted)
    (ends : outcome.endsLine = true) (rest : Source) :
    segments (outcome :: rest) = [outcome] :: segments rest := by
  simp [segments, settled, final, cut, ends]

theorem segments_byte {b : UInt8} (plain : b ≠ Bytes.newline) (rest : Source) :
    segments (.byte b :: rest) =
      (.byte b :: (segments rest).headD []) :: (segments rest).tail := by
  simp [segments, settled, cut, ReadOutcome.endsLine, plain]

theorem content_append (a b : Source) : content (a ++ b) = content a ++ content b :=
  List.filterMap_append

theorem content_ofBytes {bs : Bytes} (plain : Bytes.newline ∉ bs) : content (ofBytes bs) = bs := by
  induction bs with
  | nil => rfl
  | cons b bs ih =>
      simp only [List.mem_cons, not_or] at plain
      have here : b ≠ Bytes.newline := fun same => plain.1 same.symm
      simpa [content, ofBytes, here] using ih plain.2

end Source

/-! ## What a reader holds -/

namespace LineReader

/-- The reader that has the given bytes of a line behind it. -/
def holding (maxLen : Nat) (held : Bytes) : LineReader :=
  if held.length ≤ maxLen then .collecting held.reverse (maxLen - held.length) else .discarding

/-- A line that is complete. -/
def fitted (maxLen : Nat) (held : Bytes) : Line :=
  if held.length ≤ maxLen then .text held else .tooLong

variable {maxLen : Nat} {held : Bytes}

theorem start_eq (maxLen : Nat) : start maxLen = holding maxLen [] := by
  simp [start, holding]

theorem feed_byte {b : UInt8} (plain : b ≠ Bytes.newline) :
    (holding maxLen held).feed (.byte b) = .more (holding maxLen (held ++ [b])) := by
  unfold holding
  rw [List.length_append, List.length_singleton]
  split
  · next fits =>
      cases left : maxLen - held.length with
      | zero =>
          have full : ¬ held.length + 1 ≤ maxLen := by omega
          simp [feed, plain, full]
      | succ room =>
          have more : held.length + 1 ≤ maxLen := by omega
          have taken : maxLen - (held.length + 1) = room := by omega
          simp [feed, plain, more, taken]
  · next long =>
      have longer : ¬ held.length + 1 ≤ maxLen := by omega
      simp [feed, plain, longer]

theorem feed_newline :
    (holding maxLen held).feed (.byte Bytes.newline) = .line (fitted maxLen held) := by
  unfold holding fitted
  split <;> simp [feed]

theorem atEnd_holding :
    (holding maxLen held).atEnd = if held = [] then .endOfFile else fitted maxLen held := by
  unfold holding fitted
  cases held with
  | nil => simp [atEnd]
  | cons b bs =>
      split
      · cases reversed : (b :: bs).reverse with
        | nil => simp at reversed
        | cons c cs => simp [atEnd, ← reversed]
      · simp [atEnd]

end LineReader

namespace Source

variable {maxLen : Nat} {held : Bytes}

theorem answer_newline (plain : Bytes.newline ∉ held) :
    answer maxLen (ofBytes held ++ [.byte Bytes.newline]) =
      .ok (LineReader.fitted maxLen held) := by
  have whole : content (ofBytes held ++ [.byte Bytes.newline]) = held := by
    rw [content_append, content_ofBytes plain]
    simp [content]
  simp [answer, whole, LineReader.fitted]

theorem answer_endOfFile (plain : Bytes.newline ∉ held) :
    answer maxLen (ofBytes held ++ [.endOfFile]) =
      .ok (LineReader.holding maxLen held).atEnd := by
  have whole : content (ofBytes held ++ [.endOfFile]) = held := by
    rw [content_append, content_ofBytes plain]
    simp [content]
  simp [answer, whole, LineReader.atEnd_holding, LineReader.fitted]

theorem answer_failed (e : Errno) :
    answer maxLen (ofBytes held ++ [.failed e]) = .error e := by
  simp [answer]

/-- A source that stops in the middle of a line. -/
theorem answer_ofBytes (plain : Bytes.newline ∉ held) :
    answer maxLen (ofBytes held) = .ok (LineReader.holding maxLen held).atEnd := by
  have unended : (ofBytes held).getLast? ≠ some (.byte Bytes.newline) := by
    intro last
    obtain ⟨b, mem, same⟩ := List.mem_map.1 (List.mem_of_getLast? last)
    cases same
    exact plain mem
  have unfailed (e : Errno) : (ofBytes held).getLast? ≠ some (.failed e) := by
    intro last
    obtain ⟨b, _, same⟩ := List.mem_map.1 (List.mem_of_getLast? last)
    cases same
  unfold answer
  split
  · next e last => exact absurd last (unfailed e)
  · simp [content_ofBytes plain, LineReader.atEnd_holding, LineReader.fitted, unended]

end Source

/-! ## One call -/

namespace Source

/-- The reads of a segment are taken from a source, with interrupted reads before and among them,
and none behind the read that ends it. -/
def Consumes (source segment rest : Source) : Prop :=
  ∃ reads, source = reads ++ rest ∧ reads.settled = segment ∧
    ∀ last, segment.getLast? = some last → last.endsLine = true → reads.getLast? = some last

variable {segment rest source : Source} {outcome : ReadOutcome}

theorem Consumes.nothing : Consumes [] [] [] := ⟨[], rfl, rfl, nofun⟩

theorem Consumes.ending (final : outcome ≠ .failed .interrupted) (rest : Source) :
    Consumes (outcome :: rest) [outcome] rest := by
  refine ⟨[outcome], rfl, by simp [settled, final], ?_⟩
  intro last isLast _
  exact isLast

theorem Consumes.interrupted (consumes : source.Consumes segment rest) :
    Consumes (.failed .interrupted :: source) segment rest := by
  obtain ⟨reads, rfl, rfl, ends⟩ := consumes
  refine ⟨.failed .interrupted :: reads, rfl, by simp [settled], ?_⟩
  intro last isLast ending
  rw [List.getLast?_cons, ends last isLast ending, Option.getD_some]

theorem Consumes.byte {b : UInt8} (plain : b ≠ Bytes.newline)
    (consumes : source.Consumes segment rest) :
    Consumes (.byte b :: source) (.byte b :: segment) rest := by
  obtain ⟨reads, rfl, rfl, ends⟩ := consumes
  refine ⟨.byte b :: reads, rfl, by simp [settled], ?_⟩
  intro last isLast ending
  rw [List.getLast?_cons] at isLast ⊢
  cases before : reads.settled.getLast? with
  | none =>
      -- the byte itself would be the last read, and it ends no line
      rw [before] at isLast
      cases isLast
      simp [ReadOutcome.endsLine, plain] at ending
  | some other =>
      obtain rfl : other = last := by simpa [before] using isLast
      rw [ends _ before ending, Option.getD_some]

end Source

namespace LineReader

variable {maxLen : Nat}

/-- From whatever bytes of a line on, a call goes to the end of the first segment. -/
theorem run_holding {held : Bytes} (plain : Bytes.newline ∉ held) (source : Source) :
    ((holding maxLen held).run source).1 =
        Source.answer maxLen (Source.ofBytes held ++ source.segments.headD []) ∧
      source.Consumes (source.segments.headD []) ((holding maxLen held).run source).2 ∧
      Source.segments ((holding maxLen held).run source).2 = source.segments.tail := by
  induction source generalizing held with
  | nil =>
      refine ⟨?_, .nothing, rfl⟩
      simpa [run, Source.segments, Source.settled, Source.cut] using
        (Source.answer_ofBytes plain).symm
  | cons outcome rest ih =>
      by_cases interrupted : outcome = .failed .interrupted
      · subst interrupted
        obtain ⟨answered, consumes, others⟩ := ih plain
        rw [run_interrupted, Source.segments_interrupted]
        exact ⟨answered, consumes.interrupted, others⟩
      · cases outcome with
        | endOfFile =>
            rw [Source.segments_end interrupted rfl]
            exact ⟨(Source.answer_endOfFile plain).symm, .ending interrupted rest, rfl⟩
        | failed e =>
            have final : e ≠ .interrupted := fun same => interrupted (by rw [same])
            rw [Source.segments_end interrupted rfl]
            simp only [run, feed, final, if_false]
            exact ⟨(Source.answer_failed e).symm, .ending interrupted rest, rfl⟩
        | byte b =>
            by_cases newline : b = Bytes.newline
            · subst newline
              rw [Source.segments_end interrupted (by simp [ReadOutcome.endsLine])]
              simp only [run, feed_newline]
              exact ⟨(Source.answer_newline plain).symm, .ending interrupted rest, rfl⟩
            · have longer : Bytes.newline ∉ held ++ [b] := by
                simpa [plain] using fun same => newline same.symm
              obtain ⟨answered, consumes, others⟩ := ih longer
              rw [Source.segments_byte newline]
              simp only [run, feed_byte newline]
              refine ⟨?_, consumes.byte newline, others⟩
              rw [answered]
              simp [Source.ofBytes]

end LineReader

/-- A call answers for the first segment and takes it. -/
theorem readLine_first (maxLen : Nat) (source : Source) :
    (readLine maxLen source).1 = Source.answer maxLen (source.segments.headD []) ∧
      source.Consumes (source.segments.headD []) (readLine maxLen source).2 ∧
      Source.segments (readLine maxLen source).2 = source.segments.tail := by
  rw [readLine, LineReader.start_eq]
  exact LineReader.run_holding List.not_mem_nil source

/-! ## All calls -/

namespace Source

theorem afterLines_succ (maxLen k : Nat) (source : Source) :
    source.afterLines maxLen (k + 1) = (readLine maxLen (source.afterLines maxLen k)).2 := by
  induction k generalizing source with
  | zero => rfl
  | succ k ih => exact ih _

theorem segments_afterLines (maxLen k : Nat) (source : Source) :
    (source.afterLines maxLen k).segments = source.segments.drop k := by
  induction k generalizing source with
  | zero => rfl
  | succ k ih =>
      rw [afterLines, ih, (readLine_first maxLen source).2.2, ← List.drop_one, List.drop_drop,
        Nat.add_comm]

end Source

/-- What arrives at a reader. Bytes may arrive together, but each read takes one of them. -/
inductive Arrival
  | data (bs : Bytes)
  | endOfFile
  | failed (e : Errno)

/-- The reads that a script of arrivals answers. -/
def Source.ofScript (script : List Arrival) : Source :=
  script.flatMap fun
    | .data bs => Source.ofBytes bs
    | .endOfFile => [.endOfFile]
    | .failed e => [.failed e]

/-- What the calls of `readLine` come to. -/
structure Splitting (maxLen : Nat) (source : Source) : Prop where
  /-- Nothing but interrupted reads is left out of the segments. -/
  whole : source.segments.flatten = source.settled
  /-- Every call takes its segment and nothing behind it. -/
  consumed : ∀ k, (source.afterLines maxLen k).Consumes (source.segments.getD k [])
    (source.afterLines maxLen (k + 1))
  /-- Every answer is the one that its segment calls for. -/
  answered : ∀ k, source.line maxLen k = Source.answer maxLen (source.segments.getD k [])
  /-- Scripts that differ only in their interrupted reads and in what arrives together get the same
  answers. -/
  alike : ∀ other : List Arrival, (Source.ofScript other).settled = source.settled →
    ∀ k, (Source.ofScript other).line maxLen k = source.line maxLen k

theorem Source.line_eq_answer (maxLen k : Nat) (source : Source) :
    source.line maxLen k = Source.answer maxLen (source.segments.getD k []) := by
  rw [line, (readLine_first maxLen _).1, segments_afterLines, List.headD_eq_head?_getD,
    List.head?_drop, List.getD_eq_getElem?_getD]

/-- Whatever the limit and the script, lines are the segments of the input. -/
theorem readLine_splits (maxLen : Nat) (script : List Arrival) :
    Splitting maxLen (Source.ofScript script) where
  whole := Source.flatten_cut _
  consumed k := by
    have consumes := (readLine_first maxLen ((Source.ofScript script).afterLines maxLen k)).2.1
    rwa [Source.segments_afterLines, List.headD_eq_head?_getD, List.head?_drop,
      ← List.getD_eq_getElem?_getD, ← Source.afterLines_succ] at consumes
  answered k := Source.line_eq_answer maxLen k _
  alike other same k := by
    rw [Source.line_eq_answer, Source.line_eq_answer, Source.segments, same, Source.segments]

/-- A limit of two: the longer line is dropped whole, and the interrupted read is not noticed. -/
example :
    let source := Source.ofScript
      [.data (Bytes.ofText "ab\nabc"), .failed .interrupted, .data (Bytes.ofText "d\n"), .endOfFile]
    (List.range 4).map (fun k => (source.line 2 k).toOption) =
      [some (.text (Bytes.ofText "ab")), some .tooLong, some .endOfFile, some .endOfFile] := by
  decide +kernel

end JobShell
