import JobShell.Proofs.Grammar

/-!
# Ways of writing a command

A command can be written in many ways. Its files stand anywhere among its words, a file may be
named only to be overridden by a later one, and any blanks may stand between the tokens. Here these
ways are put together from the command, without reading anything: the parser undoes all of them,
and a line that is none of them and not blank is a line that the parser refuses.

Results:
1. `Command.tokens_spaced`, `Command.exists_spaced`: blanks between tokens do not matter, and every
   line is its tokens with blanks between them.
2. `Command.Interspersed.described_eq`: files among the words do not disturb them.
3. `Command.parse_ok_iff_written`: a line is read as a command exactly if it is a way of writing
   it, and the commands that are read are the well-formed ones.
-/

namespace JobShell

/-- Nothing but blanks. -/
def Bytes.IsGap (bs : Bytes) : Prop := ∀ b ∈ bs, isBlank b = true

namespace Command

/-! ## Blanks between tokens -/

/-- What can stand between blanks. -/
structure IsToken (bs : Bytes) : Prop where
  filled : bs ≠ []
  solid : ∀ b ∈ bs, Bytes.isBlank b = false

/-- `Spaced toks line`: `line` is `toks` in order, each with blanks behind it; between two tokens
there is at least one. -/
inductive Spaced : List Bytes → Bytes → Prop
  | nil : Spaced [] []
  | cons {token gap line : Bytes} {toks : List Bytes} :
      gap.IsGap → (toks ≠ [] → gap ≠ []) → Spaced toks line →
      Spaced (token :: toks) (token ++ (gap ++ line))

theorem isToken_of_mem_tokens {line token : Bytes} (mem : token ∈ tokens line) : IsToken token :=
  ⟨ne_nil_of_mem_tokens mem, fun _ => not_isBlank_of_mem_tokens mem⟩

theorem tokens_gap_append {gap : Bytes} (blanks : gap.IsGap) (line : Bytes) :
    tokens (gap ++ line) = tokens line := by
  induction gap with
  | nil => rfl
  | cons b gap ih =>
      rw [List.cons_append, tokens, if_pos (blanks b List.mem_cons_self)]
      exact ih fun c mem => blanks c (List.mem_cons_of_mem _ mem)

theorem tokens_spaced {toks : List Bytes} {line : Bytes} (spaced : Spaced toks line)
    (each : ∀ t ∈ toks, IsToken t) : tokens line = toks := by
  induction spaced with
  | nil => simp [tokens]
  | @cons token gap line toks blanks apart spaced ih =>
      have here : IsToken token := each token List.mem_cons_self
      have stops : ∀ b, (gap ++ line).head? = some b → Bytes.isBlank b = true := by
        intro b first
        cases gap with
        | cons c gap =>
            cases first
            exact blanks b List.mem_cons_self
        | nil =>
            -- no blank behind the token, so it is the last one
            cases spaced with
            | nil => cases first
            | cons => exact absurd rfl (apart (List.cons_ne_nil _ _))
      rw [tokens_append here.filled here.solid stops, tokens_gap_append blanks,
        ih fun t mem => each t (List.mem_cons_of_mem _ mem)]

theorem Spaced.head?_solid {toks : List Bytes} {line : Bytes} (spaced : Spaced toks line)
    (each : ∀ t ∈ toks, IsToken t) (present : toks ≠ []) :
    ∃ b, line.head? = some b ∧ Bytes.isBlank b = false := by
  cases spaced with
  | nil => exact absurd rfl present
  | @cons token gap line toks =>
      have here : IsToken token := each token List.mem_cons_self
      cases token with
      | nil => exact absurd rfl here.filled
      | cons b token => exact ⟨b, rfl, here.solid b List.mem_cons_self⟩

/-- Every line is its tokens with blanks between them, in front and at the end. -/
theorem exists_spaced (line : Bytes) :
    ∃ lead body, line = lead ++ body ∧ lead.IsGap ∧ Spaced (tokens line) body := by
  have each : ∀ t ∈ tokens line, IsToken t := fun _ => isToken_of_mem_tokens
  have runs := runs_tokens line
  generalize tokens line = toks at each runs
  induction runs with
  | nil => exact ⟨[], [], rfl, List.forall_mem_nil _, .nil⟩
  | @blank b line toks blank _ ih =>
      obtain ⟨lead, body, rfl, blanks, spaced⟩ := ih each
      exact ⟨b :: lead, body, rfl, List.forall_mem_cons.2 ⟨isBlank_iff.2 blank, blanks⟩, spaced⟩
  | @run token line toks _ _ stops _ ih =>
      have others : ∀ t ∈ toks, IsToken t := fun t mem => each t (List.mem_cons_of_mem _ mem)
      obtain ⟨lead, body, rfl, blanks, spaced⟩ := ih others
      refine ⟨[], token ++ (lead ++ body), rfl, List.forall_mem_nil _, .cons blanks ?_ spaced⟩
      rintro more rfl
      obtain ⟨b, first, solid⟩ := spaced.head?_solid others more
      exact absurd (stops b first) (isBlank_eq_false_iff.1 solid)

theorem spaced_intercalate (toks : List Bytes) : Spaced toks ([Bytes.space].intercalate toks) := by
  induction toks with
  | nil => exact .nil
  | cons token toks ih =>
      cases toks with
      | nil =>
          have last : Spaced [token] (token ++ ([] ++ [])) :=
            .cons (List.forall_mem_nil _) (fun more => absurd rfl more) .nil
          simpa [List.intercalate] using last
      | cons next toks =>
          have blanks : Bytes.IsGap [Bytes.space] := List.forall_mem_singleton.2 rfl
          have more : Spaced (token :: next :: toks)
              (token ++ ([Bytes.space] ++ [Bytes.space].intercalate (next :: toks))) :=
            .cons blanks (fun _ => List.cons_ne_nil _ _) ih
          simpa [List.intercalate] using more

/-! ## Files among the words -/

/-- `Interspersed words files toks`: `toks` is `words` in order with `files` in order inserted at
any places, each behind the sign of its operator. -/
inductive Interspersed : List Bytes → List (Redirection × Bytes) → List Bytes → Prop
  | nil : Interspersed [] [] []
  | word {word : Bytes} {words : List Bytes} {files : List (Redirection × Bytes)}
      {toks : List Bytes} :
      Interspersed words files toks → Interspersed (word :: words) files (word :: toks)
  | file {op : Redirection} {file : Bytes} {words : List Bytes}
      {files : List (Redirection × Bytes)} {toks : List Bytes} :
      Interspersed words files toks →
      Interspersed words ((op, file) :: files) ((op.sign :: file) :: toks)

/-- The last file that is named for a stream. -/
def lastNamed (op : Redirection) (files : List (Redirection × Bytes)) : Option Bytes :=
  (files.filter (·.1 = op)).getLast?.map Prod.snd

theorem lastNamed_cons (op other : Redirection) (file : Bytes)
    (files : List (Redirection × Bytes)) :
    lastNamed op ((other, file) :: files) =
      (lastNamed op files).or (if other = op then some file else none) := by
  unfold lastNamed
  rw [List.filter_cons]
  by_cases same : other = op
  · rw [if_pos (by simpa using same), List.getLast?_cons, if_pos same]
    cases (files.filter (·.1 = op)).getLast? <;> rfl
  · rw [if_neg (by simpa using same), if_neg same, Option.or_none]

theorem eq_nil_of_lastNamed {files : List (Redirection × Bytes)}
    (none : ∀ op, lastNamed op files = none) : files = [] := by
  cases files with
  | nil => rfl
  | cons file files =>
      have here := none file.1
      rw [lastNamed_cons, if_pos rfl] at here
      exact nomatch (Option.or_eq_none_iff.1 here).2

theorem mem_of_lastNamed {op : Redirection} {files : List (Redirection × Bytes)} {file : Bytes}
    (last : lastNamed op files = some file) : (op, file) ∈ files := by
  obtain ⟨⟨other, _⟩, found, rfl⟩ := Option.map_eq_some_iff.1 last
  obtain ⟨mem, same⟩ := List.mem_filter.1 (List.mem_of_getLast? found)
  obtain rfl : other = op := by simpa using same
  exact mem

namespace Interspersed

variable {words toks : List Bytes} {files : List (Redirection × Bytes)}

theorem mem_iff (among : Interspersed words files toks) {token : Bytes} :
    token ∈ toks ↔ token ∈ words ∨ ∃ file ∈ files, token = file.1.sign :: file.2 := by
  induction among with
  | nil => simp
  | word _ ih => simp [ih, or_assoc]
  | file _ ih => simp [ih, or_left_comm]

theorem filter_isWord (among : Interspersed words files toks)
    (plain : ∀ word ∈ words, isWord word = true) : toks.filter isWord = words := by
  induction among with
  | nil => rfl
  | word _ ih =>
      obtain ⟨here, others⟩ := List.forall_mem_cons.1 plain
      rw [List.filter_cons, if_pos here, ih others]
  | file _ ih => rw [List.filter_cons, isWord_sign, if_neg Bool.false_ne_true, ih plain]

theorem lastTarget_eq (among : Interspersed words files toks)
    (plain : ∀ word ∈ words, isWord word = true) (op : Redirection) :
    lastTarget op toks = lastNamed op files := by
  induction among with
  | nil => rfl
  | @word word _ _ _ _ ih =>
      obtain ⟨here, others⟩ := List.forall_mem_cons.1 plain
      have unsigned : word.head? ≠ some op.sign := by
        simp only [isWord, Bool.and_eq_true, decide_eq_true_eq] at here
        cases op with
        | output => exact here.1
        | input => exact here.2
      rw [lastTarget_cons, if_neg unsigned, Option.or_none, ih others]
  | @file other file _ _ _ _ ih =>
      rw [lastTarget_cons, lastNamed_cons, ih plain, List.head?_cons, List.tail_cons]
      cases other <;> cases op <;> rfl

/-- Words with files among them describe the command of these words and of the last files. -/
theorem described_eq (among : Interspersed words files toks)
    (plain : ∀ word ∈ words, isWord word = true) (background : Bool) :
    described toks background =
      { argv := words, stdout := lastNamed .output files, stdin := lastNamed .input files,
        background } := by
  rw [described, among.filter_isWord plain, among.lastTarget_eq plain, among.lastTarget_eq plain]

theorem append_files (words : List Bytes) (files : List (Redirection × Bytes)) :
    Interspersed words files (words ++ files.map fun file => file.1.sign :: file.2) := by
  induction words with
  | nil =>
      induction files with
      | nil => exact .nil
      | cons file files ih => exact .file ih
  | cons word words ih => exact .word ih

end Interspersed

/-- Tokens that fit are words with files among them. -/
theorem exists_interspersed {toks : List Bytes} (fit : ∀ t ∈ toks, ¬ IsOffending t) :
    ∃ files, Interspersed (toks.filter isWord) files toks := by
  induction toks with
  | nil => exact ⟨[], .nil⟩
  | cons token toks ih =>
      obtain ⟨here, others⟩ := List.forall_mem_cons.1 fit
      obtain ⟨files, among⟩ := ih others
      rcases token_cases token with ⟨word, _⟩ | ⟨op, file, rfl⟩ | rfl
      · rw [List.filter_cons, if_pos word]
        exact ⟨files, among.word⟩
      · rw [List.filter_cons, isWord_sign, if_neg Bool.false_ne_true]
        exact ⟨(op, file) :: files, among.file⟩
      · exact absurd (.inr rfl) here

/-! ## Commands and their ways -/

/-- The file of a stream. -/
def target (c : Command) : Redirection → Option Bytes
  | .output => c.stdout
  | .input => c.stdin

/-- A command that has words, each of which reads as itself, and whose files have names. -/
structure IsWellFormed (c : Command) : Prop where
  named : c.argv ≠ []
  token : ∀ word ∈ c.argv, IsToken word
  plain : ∀ word ∈ c.argv, isWord word = true
  other : ∀ word ∈ c.argv, word ≠ ampersand
  files : ∀ op file, c.target op = some file → IsToken file

/-- Tokens with a final `&` if the command is one for the background. -/
def closed (c : Command) (toks : List Bytes) : List Bytes :=
  toks ++ if c.background then [ampersand] else []

/-- `Written maxToken c line`: `line` is a way of writing `c` with tokens of the length
`maxToken` at most. -/
inductive Written (maxToken : Nat) (c : Command) : Bytes → Prop
  | intro {files : List (Redirection × Bytes)} {toks : List Bytes} {lead body : Bytes} :
      Interspersed c.argv files toks → (∀ file ∈ files, IsToken file.2) →
      (∀ op, lastNamed op files = c.target op) →
      (∀ t ∈ c.closed toks, t.length ≤ maxToken) →
      lead.IsGap → Spaced (c.closed toks) body → Written maxToken c (lead ++ body)

/-- The files of a command, that of the output first. -/
def files (c : Command) : List (Redirection × Bytes) :=
  c.stdout.toList.map (.output, ·) ++ c.stdin.toList.map (.input, ·)

/-- The tokens of the plain way of writing a command: its words, its files, and `&`. -/
def spelled (c : Command) : List Bytes :=
  c.closed (c.argv ++ c.files.map fun file => file.1.sign :: file.2)

/-- The plain way of writing a command, with one space between two tokens. -/
def text (c : Command) : Bytes := [Bytes.space].intercalate c.spelled

theorem mem_closed_iff {c : Command} {toks : List Bytes} {token : Bytes} :
    token ∈ c.closed toks ↔ token ∈ toks ∨ c.background = true ∧ token = ampersand := by
  cases background : c.background <;> simp [closed, background]

theorem mem_files_iff {c : Command} {op : Redirection} {file : Bytes} :
    (op, file) ∈ c.files ↔ c.target op = some file := by
  cases op <;> simp [files, target]

theorem lastNamed_files (c : Command) (op : Redirection) : lastNamed op c.files = c.target op := by
  obtain ⟨argv, stdout, stdin, background⟩ := c
  cases op <;> cases stdout <;> cases stdin <;> rfl

theorem isToken_sign {file : Bytes} (op : Redirection) (token : IsToken file) :
    IsToken (op.sign :: file) where
  filled := List.cons_ne_nil _ _
  solid := by
    refine List.forall_mem_cons.2 ⟨?_, token.solid⟩
    cases op <;> decide

theorem IsToken.of_sign {op : Redirection} {file : Bytes} (token : IsToken (op.sign :: file))
    (fits : ¬ IsOffending (op.sign :: file)) : IsToken file where
  filled := by
    rintro rfl
    exact fits (.inl ⟨op, rfl⟩)
  solid b inside := token.solid b (List.mem_cons_of_mem _ inside)

theorem isToken_ampersand : IsToken ampersand where
  filled := List.cons_ne_nil _ _
  solid := List.forall_mem_singleton.2 (by decide)

theorem not_isOffending_word {word : Bytes} (plain : isWord word = true)
    (other : word ≠ ampersand) : ¬ IsOffending word := by
  rintro (⟨op, rfl⟩ | same)
  · rw [isWord_sign] at plain
    cases plain
  · exact other same

theorem not_isOffending_sign {file : Bytes} (op : Redirection) (token : IsToken file) :
    ¬ IsOffending (op.sign :: file) := by
  rintro (⟨_, same⟩ | same)
  · exact token.filled (List.cons.inj same).2
  · have sign := (List.cons.inj same).1
    cases op <;> exact absurd sign (by decide)

namespace IsWellFormed

variable {c : Command} {files : List (Redirection × Bytes)} {toks : List Bytes}

/-- The tokens of a way of writing a well-formed command. -/
theorem isToken_of_mem (wellFormed : c.IsWellFormed) (among : Interspersed c.argv files toks)
    (named : ∀ file ∈ files, IsToken file.2) {token : Bytes} (mem : token ∈ toks) :
    IsToken token ∧ ¬ IsOffending token := by
  rcases among.mem_iff.1 mem with word | ⟨file, there, rfl⟩
  · exact ⟨wellFormed.token _ word,
      not_isOffending_word (wellFormed.plain _ word) (wellFormed.other _ word)⟩
  · exact ⟨isToken_sign _ (named file there), not_isOffending_sign _ (named file there)⟩

theorem ends (wellFormed : c.IsWellFormed) (among : Interspersed c.argv files toks)
    (named : ∀ file ∈ files, IsToken file.2) : Ends (c.closed toks) toks c.background := by
  cases background : c.background with
  | true =>
      rw [closed, background]
      exact .background
  | false =>
      rw [closed, background, if_neg Bool.false_ne_true, List.append_nil]
      refine .foreground fun final => ?_
      exact (wellFormed.isToken_of_mem among named (List.mem_of_getLast? final)).2 (.inr rfl)

/-- Whatever a way of writing the command, the parser reads the command. -/
theorem parse_eq (wellFormed : c.IsWellFormed) {maxToken : Nat} {line : Bytes}
    (written : Written maxToken c line) : parse maxToken line = .ok c := by
  obtain @⟨files, toks, lead, body, among, named, last, fits, blanks, spaced⟩ := written
  have each : ∀ t ∈ c.closed toks, IsToken t := by
    intro t mem
    rcases mem_closed_iff.1 mem with inside | ⟨_, rfl⟩
    · exact (wellFormed.isToken_of_mem among named inside).1
    · exact isToken_ampersand
  have cut : tokens (lead ++ body) = c.closed toks := by
    rw [tokens_gap_append blanks, tokens_spaced spaced each]
  have whole : described toks c.background = c := by
    rw [among.described_eq wellFormed.plain, last, last]
    rfl
  have reading : Reading maxToken (c.closed toks) (.ok (described toks c.background)) := by
    refine .accepted fits (wellFormed.ends among named) ?_ (.inl ?_)
    · intro t mem
      exact (wellFormed.isToken_of_mem among named mem).2
    · rw [whole]
      exact wellFormed.named
  rw [parse, cut, reading.ofTokens_eq, whole]

theorem written_text (wellFormed : c.IsWellFormed) {maxToken : Nat}
    (fits : ∀ t ∈ c.spelled, t.length ≤ maxToken) : Written maxToken c c.text := by
  have named : ∀ file ∈ c.files, IsToken file.2 := by
    rintro ⟨op, file⟩ mem
    exact wellFormed.files op file (mem_files_iff.1 mem)
  have written : Written maxToken c ([] ++ c.text) :=
    .intro (Interspersed.append_files ..) named c.lastNamed_files fits (List.forall_mem_nil _)
      (spaced_intercalate _)
  exact written

end IsWellFormed

/-- The plain way of writing a command has no token that another way does not have. -/
theorem Written.spelled_fits {maxToken : Nat} {c : Command} {line : Bytes}
    (written : Written maxToken c line) : ∀ t ∈ c.spelled, t.length ≤ maxToken := by
  obtain ⟨among, named, last, fits, blanks, spaced⟩ := written
  intro t mem
  refine fits t (mem_closed_iff.2 ?_)
  rcases mem_closed_iff.1 mem with inside | final
  · refine .inl (among.mem_iff.2 ?_)
    rcases List.mem_append.1 inside with word | file
    · exact .inl word
    · obtain ⟨⟨op, file⟩, there, rfl⟩ := List.mem_map.1 file
      exact .inr ⟨_, mem_of_lastNamed ((last op).trans (mem_files_iff.1 there)), rfl⟩
  · exact .inr final

/-! ## What the parser accepts -/

/-- Tokens that fit describe a well-formed command, unless no word is among them. -/
theorem isWellFormed_described {toks : List Bytes} (fit : ∀ t ∈ toks, ¬ IsOffending t)
    (each : ∀ t ∈ toks, IsToken t) {background : Bool}
    (named : (described toks background).argv ≠ []) : (described toks background).IsWellFormed where
  named
  token _ mem := each _ (List.mem_filter.1 mem).1
  plain _ mem := (List.mem_filter.1 mem).2
  other word mem same := fit word (List.mem_filter.1 mem).1 (.inr same)
  files op file found := by
    have last : lastTarget op toks = some file := by
      cases op <;> exact found
    obtain ⟨token, there, rfl⟩ := Option.map_eq_some_iff.1 last
    obtain ⟨mem, starts⟩ := List.mem_filter.1 (List.mem_of_getLast? there)
    cases token with
    | nil => cases starts
    | cons b file =>
        obtain rfl : b = op.sign := by simpa using starts
        exact (each _ mem).of_sign (fit _ mem)

/-- Tokens that describe no words and nothing else are none at all. -/
theorem eq_nil_of_described {toks : List Bytes} (fit : ∀ t ∈ toks, ¬ IsOffending t)
    {background : Bool} (none : (described toks background).argv = [])
    (plain :
      background = false ∧ lastTarget .output toks = .none ∧ lastTarget .input toks = .none) :
    toks = [] ∧ background = false := by
  obtain ⟨files, among⟩ := exists_interspersed fit
  have wordless : toks.filter isWord = [] := none
  rw [← hasExtras_described_eq_false_iff,
    among.described_eq fun _ mem => (List.mem_filter.1 mem).2] at plain
  simp only [hasExtras, Bool.or_eq_false_iff, Option.isSome_eq_false_iff,
    Option.isNone_iff_eq_none] at plain
  obtain ⟨⟨foreground, output⟩, input⟩ := plain
  have fileless : files = [] := by
    refine eq_nil_of_lastNamed fun op => ?_
    cases op
    · exact output
    · exact input
  rw [wordless, fileless] at among
  cases among
  exact ⟨rfl, foreground⟩

theorem Ends.eq_closed {toks rest : List Bytes} {background : Bool}
    (ends : Ends toks rest background) (c : Command) (same : c.background = background) :
    toks = c.closed rest := by
  cases ends <;> simp [closed, same]

/-- The parser accepts the blank lines and the ways of writing a well-formed command. -/
theorem parse_eq_ok_iff {maxToken : Nat} {line : Bytes} {c : Command} :
    parse maxToken line = .ok c ↔
      (c = {} ∧ line.IsGap) ∨ (c.IsWellFormed ∧ Written maxToken c line) := by
  constructor
  · intro parsed
    obtain ⟨lead, body, cut, blanks, spaced⟩ := exists_spaced line
    have each : ∀ t ∈ tokens line, IsToken t := fun _ => isToken_of_mem_tokens
    obtain ⟨result, reading⟩ := exists_reading maxToken (tokens line)
    obtain rfl : result = .ok c := reading.ofTokens_eq.symm.trans parsed
    generalize tokens line = toks at each reading spaced
    cases reading with
    | @accepted rest background fits ends fit whole =>
        have closed := ends.eq_closed (described rest background) rfl
        have inside : ∀ t ∈ rest, IsToken t := fun t mem =>
          each t (closed ▸ mem_closed_iff.2 (.inl mem))
        by_cases none : (described rest background).argv = []
        · have plain := whole.resolve_left (not_not_intro none)
          obtain ⟨rfl, rfl⟩ := eq_nil_of_described fit none plain
          rw [closed] at spaced
          cases spaced
          rw [List.append_nil] at cut
          exact .inl ⟨rfl, cut ▸ blanks⟩
        · have wellFormed := isWellFormed_described fit inside none
          obtain ⟨files, among⟩ := exists_interspersed fit
          have plain : ∀ word ∈ rest.filter isWord, isWord word = true := fun _ mem =>
            (List.mem_filter.1 mem).2
          refine .inr ⟨wellFormed, ?_⟩
          rw [cut]
          refine .intro among ?_ ?_ (closed ▸ fits) blanks (closed ▸ spaced)
          · rintro ⟨op, file⟩ mem
            have there := among.mem_iff.2 (.inr ⟨_, mem, rfl⟩)
            exact (inside _ there).of_sign (fit _ there)
          · intro op
            rw [← among.lastTarget_eq plain]
            cases op <;> rfl
  · rintro (⟨rfl, blanks⟩ | ⟨wellFormed, written⟩)
    · have none : tokens line = [] := by
        rw [← List.append_nil line, tokens_gap_append blanks, tokens]
      rw [parse, none]
      rfl
    · exact wellFormed.parse_eq written

/-- The parser undoes every way of writing a well-formed command and accepts nothing else but blank
lines. So what it makes of lines are the well-formed commands whose tokens are short enough, and
the command without words; each of them is read from the plain way of writing it. -/
theorem parse_ok_iff_written {maxToken : Nat} {c : Command} :
    (∀ line, parse maxToken line = .ok c ↔
      (c = {} ∧ line.IsGap) ∨ (c.IsWellFormed ∧ Written maxToken c line)) ∧
    ((∃ line, parse maxToken line = .ok c) ↔
      c = {} ∨ (c.IsWellFormed ∧ ∀ t ∈ c.spelled, t.length ≤ maxToken)) ∧
    ((∃ line, parse maxToken line = .ok c) ↔ parse maxToken c.text = .ok c) := by
  have image : (∃ line, parse maxToken line = .ok c) →
      c = {} ∨ (c.IsWellFormed ∧ ∀ t ∈ c.spelled, t.length ≤ maxToken) := by
    rintro ⟨line, parsed⟩
    rcases parse_eq_ok_iff.1 parsed with ⟨rfl, _⟩ | ⟨wellFormed, written⟩
    · exact .inl rfl
    · exact .inr ⟨wellFormed, written.spelled_fits⟩
  have plain : c = {} ∨ (c.IsWellFormed ∧ ∀ t ∈ c.spelled, t.length ≤ maxToken) →
      parse maxToken c.text = .ok c := by
    rintro (rfl | ⟨wellFormed, fits⟩)
    · exact parse_eq_ok_iff.2 (.inl ⟨rfl, List.forall_mem_nil _⟩)
    · exact wellFormed.parse_eq (wellFormed.written_text fits)
  exact ⟨fun _ => parse_eq_ok_iff, ⟨image, fun known => ⟨_, plain known⟩⟩,
    ⟨fun present => plain (image present), fun parsed => ⟨_, parsed⟩⟩⟩

/-- An overridden file, a word that only looks like `&`, and tabs: one of many ways to write it. -/
example :
    parse 255 (Bytes.ofText "\t<a sort 5&  >>x\t<b -r &") =
      .ok { argv := [Bytes.ofText "sort", Bytes.ofText "5&", Bytes.ofText "-r"]
            stdout := some (Bytes.ofText ">x"), stdin := some (Bytes.ofText "b")
            background := true } := by
  cbv

end Command

end JobShell
