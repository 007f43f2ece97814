import JobShell.Command.Parser

/-!
# The grammar of command lines

What a line may look like and what it then means, said without a parser: the runs of a line, the
one mistake that decides when there are several, and the command that a line without mistakes
describes. The parser gives exactly this account.

Among the mistakes a token that is too long comes first, wherever it stands. Then the leftmost
token that fits nowhere decides alone, and only a line without such tokens can be one that lacks
its command.

Results:
1. `Command.runs_iff`: the tokens of a line are its maximal runs.
2. `Command.addTokens_append`: tokens that fit change words and targets, and nothing else.
3. `Command.parse_eq_iff_reading`: the parser reads every line as the grammar does.
-/

namespace JobShell.Command

/-! ## Runs -/

/-- `Runs line toks`: the maximal runs of bytes other than blanks in `line` are `toks`, in order.
A run begins at the front of the line or behind a blank, and ends at a blank or with the line. The
blanks are the space, which is 32, and the tab, which is 9. -/
inductive Runs : Bytes → List Bytes → Prop
  | nil : Runs [] []
  | blank {b : UInt8} {line : Bytes} {toks : List Bytes} :
      b = 32 ∨ b = 9 → Runs line toks → Runs (b :: line) toks
  | run {token line : Bytes} {toks : List Bytes} :
      token ≠ [] → (∀ b ∈ token, ¬ (b = 32 ∨ b = 9)) →
      (∀ b, line.head? = some b → b = 32 ∨ b = 9) → Runs line toks →
      Runs (token ++ line) (token :: toks)

theorem isBlank_iff {b : UInt8} : Bytes.isBlank b = true ↔ b = 32 ∨ b = 9 := by
  simp [Bytes.isBlank, Bytes.space, Bytes.tab]

theorem isBlank_eq_false_iff {b : UInt8} : Bytes.isBlank b = false ↔ ¬ (b = 32 ∨ b = 9) := by
  rw [← isBlank_iff, Bool.not_eq_true]

theorem tokens_append {token line : Bytes} (filled : token ≠ [])
    (solid : ∀ b ∈ token, Bytes.isBlank b = false)
    (stops : ∀ b, line.head? = some b → Bytes.isBlank b = true) :
    tokens (token ++ line) = token :: tokens line := by
  cases token with
  | nil => exact absurd rfl filled
  | cons b token =>
      have first : Bytes.isBlank b = false := solid b List.mem_cons_self
      have others : ∀ c ∈ token, (!Bytes.isBlank c) = true := fun c mem => by
        rw [solid c (List.mem_cons_of_mem _ mem), Bool.not_false]
      have front : line.takeWhile (!Bytes.isBlank ·) = [] := by
        cases line with
        | nil => rfl
        | cons c line => simp [stops c rfl]
      have back : line.dropWhile (!Bytes.isBlank ·) = line := by
        cases line with
        | nil => rfl
        | cons c line => simp [stops c rfl]
      rw [List.cons_append, tokens, if_neg (by simp [first]),
        List.takeWhile_append_of_pos others, List.dropWhile_append_of_pos others, front, back,
        List.append_nil]

theorem runs_tokens (line : Bytes) : Runs line (tokens line) := by
  fun_induction tokens line with
  | case1 => exact .nil
  | case2 b rest blank ih => exact .blank (isBlank_iff.1 blank) ih
  | case3 b rest plain ih =>
      have solid : ∀ c ∈ b :: rest.takeWhile (!Bytes.isBlank ·), Bytes.isBlank c = false := by
        intro c mem
        rcases List.mem_cons.1 mem with rfl | mem
        · simpa using plain
        · have run := List.all_takeWhile (p := (!Bytes.isBlank ·)) (l := rest)
          simpa using List.all_eq_true.1 run c mem
      have stops : ∀ c, (rest.dropWhile (!Bytes.isBlank ·)).head? = some c →
          Bytes.isBlank c = true := by
        intro c first
        have found := List.head?_dropWhile_not (!Bytes.isBlank ·) rest
        rw [first] at found
        simpa using found
      have whole := Runs.run (List.cons_ne_nil _ _)
        (fun c mem => isBlank_eq_false_iff.1 (solid c mem))
        (fun c first => isBlank_iff.1 (stops c first)) ih
      rwa [List.cons_append, List.takeWhile_append_dropWhile] at whole

theorem runs_iff {line : Bytes} {toks : List Bytes} : Runs line toks ↔ toks = tokens line := by
  constructor
  · intro runs
    induction runs with
    | nil => simp [tokens]
    | blank blank _ ih => rw [ih, tokens, if_pos (isBlank_iff.2 blank)]
    | run filled solid stops _ ih =>
        rw [ih, tokens_append filled (fun b mem => isBlank_eq_false_iff.2 (solid b mem))
          fun b first => isBlank_iff.2 (stops b first)]
  · rintro rfl
    exact runs_tokens line

/-! ## The grammar -/

/-- A token that fits nowhere among the others: a bare operator or `&`. -/
def IsOffending (token : Bytes) : Prop :=
  (∃ op : Redirection, token = [op.sign]) ∨ token = ampersand

/-- `Offence token rest e`: an offending token in front of `rest` is refused with `e`. -/
inductive Offence : Bytes → List Bytes → ParseError → Prop
  | missingTarget (op : Redirection) : Offence [op.sign] [] (.missingTarget op)
  | spaceAfterOperator (op : Redirection) {next : Bytes} {rest : List Bytes} :
      Offence [op.sign] (next :: rest) (.spaceAfterOperator op)
  | misplacedBackground {rest : List Bytes} : Offence ampersand rest .misplacedBackground

/-- `Ends toks rest background`: `rest` is `toks` without a final `&`, and `background` tells
whether there was one. -/
inductive Ends : List Bytes → List Bytes → Bool → Prop
  | background {rest : List Bytes} : Ends (rest ++ [ampersand]) rest true
  | foreground {toks : List Bytes} : toks.getLast? ≠ some ampersand → Ends toks toks false

def isWord (token : Bytes) : Bool :=
  token.head? ≠ some Redirection.output.sign && token.head? ≠ some Redirection.input.sign

/-- What the last token with an operator names; nothing if there is none. -/
def lastTarget (op : Redirection) (toks : List Bytes) : Option Bytes :=
  (toks.filter (·.head? = some op.sign)).getLast?.map List.tail

/-- The command that tokens describe if none of them offends. -/
def described (toks : List Bytes) (background : Bool) : Command where
  argv := toks.filter isWord
  stdout := lastTarget .output toks
  stdin := lastTarget .input toks
  background

theorem hasExtras_described_iff {toks : List Bytes} {background : Bool} :
    (described toks background).hasExtras = true ↔
      background = true ∨ lastTarget .output toks ≠ none ∨ lastTarget .input toks ≠ none := by
  simp [described, hasExtras, Option.isSome_iff_ne_none, or_assoc]

theorem hasExtras_described_eq_false_iff {toks : List Bytes} {background : Bool} :
    (described toks background).hasExtras = false ↔
      background = false ∧ lastTarget .output toks = none ∧ lastTarget .input toks = none := by
  simp [described, hasExtras, and_assoc]

/-- `Reading maxToken toks result`: what a line with the tokens `toks` comes to. -/
inductive Reading (maxToken : Nat) (toks : List Bytes) : Except ParseError Command → Prop
  | tooLong {token : Bytes} : token ∈ toks → maxToken < token.length →
      Reading maxToken toks (.error .argumentTooLong)
  | offending {front rest : List Bytes} {token : Bytes} {background : Bool} {e : ParseError} :
      (∀ t ∈ toks, t.length ≤ maxToken) → Ends toks (front ++ token :: rest) background →
      (∀ t ∈ front, ¬ IsOffending t) → Offence token rest e → Reading maxToken toks (.error e)
  | missing {rest : List Bytes} {background : Bool} :
      (∀ t ∈ toks, t.length ≤ maxToken) → Ends toks rest background →
      (∀ t ∈ rest, ¬ IsOffending t) → (described rest background).argv = [] →
      (background = true ∨ lastTarget .output rest ≠ none ∨ lastTarget .input rest ≠ none) →
      Reading maxToken toks (.error .missingCommand)
  | accepted {rest : List Bytes} {background : Bool} :
      (∀ t ∈ toks, t.length ≤ maxToken) → Ends toks rest background →
      (∀ t ∈ rest, ¬ IsOffending t) →
      ((described rest background).argv ≠ [] ∨
        background = false ∧ lastTarget .output rest = none ∧ lastTarget .input rest = none) →
      Reading maxToken toks (.ok (described rest background))

/-! ## Adding tokens -/

namespace Piece

theorem ofToken_sign (op : Redirection) (file : Bytes) :
    ofToken (op.sign :: file) = if file.isEmpty then .bare op else .target op file := by
  cases op <;> simp [ofToken, Redirection.sign]

theorem ofToken_ampersand : ofToken ampersand = .background := by decide

theorem ofToken_word {token : Bytes} (word : isWord token = true) (other : token ≠ ampersand) :
    ofToken token = .word token := by
  cases token with
  | nil => rfl
  | cons b rest =>
      simp only [isWord, List.head?_cons, ne_eq, Option.some.injEq, Bool.and_eq_true,
        decide_eq_true_eq] at word
      simp [ofToken, word.1, word.2, other]

end Piece

/-- A token is a word, starts with an operator or asks for the background. -/
theorem token_cases (token : Bytes) :
    (isWord token = true ∧ token ≠ ampersand) ∨ (∃ op file, token = Redirection.sign op :: file) ∨
      token = ampersand := by
  by_cases other : token = ampersand
  · exact .inr (.inr other)
  · cases word : isWord token with
    | true => exact .inl ⟨rfl, other⟩
    | false =>
        refine .inr (.inl ?_)
        cases token with
        | nil => cases word
        | cons b rest =>
            simp only [isWord, List.head?_cons, ne_eq, Option.some.injEq, Bool.and_eq_false_iff,
              decide_eq_false_iff_not, Decidable.not_not] at word
            rcases word with rfl | rfl
            · exact ⟨.output, rest, rfl⟩
            · exact ⟨.input, rest, rfl⟩

theorem isWord_sign (op : Redirection) (file : Bytes) : isWord (op.sign :: file) = false := by
  cases op <;> simp [isWord]

theorem lastTarget_cons (op : Redirection) (token : Bytes) (toks : List Bytes) :
    lastTarget op (token :: toks) =
      (lastTarget op toks).or (if token.head? = some op.sign then some token.tail else none) := by
  unfold lastTarget
  rw [List.filter_cons]
  split
  · next starts =>
      simp only [decide_eq_true_eq] at starts
      rw [List.getLast?_cons, if_pos starts]
      cases (toks.filter (·.head? = some op.sign)).getLast? <;> rfl
  · next starts =>
      simp only [decide_eq_true_eq] at starts
      rw [if_neg starts, Option.or_none]

/-- A command after the redirections among some tokens. -/
def redirected (c : Command) (toks : List Bytes) : Command :=
  { c with
    stdout := (lastTarget .output toks).or c.stdout
    stdin := (lastTarget .input toks).or c.stdin }

theorem redirected_word {token : Bytes} (word : isWord token = true) (c : Command)
    (toks : List Bytes) : c.redirected (token :: toks) = c.redirected toks := by
  simp only [isWord, Bool.and_eq_true, decide_eq_true_eq] at word
  simp [redirected, lastTarget_cons, word.1, word.2]

theorem redirected_sign (op : Redirection) (file : Bytes) (c : Command) (toks : List Bytes) :
    c.redirected ((op.sign :: file) :: toks) = (c.redirect op file).redirected toks := by
  cases op <;> simp [redirected, lastTarget_cons, redirect, Redirection.sign]

/-- Tokens that do not offend leave their words and their redirections. -/
theorem addTokens_append {front : List Bytes} (fit : ∀ t ∈ front, ¬ IsOffending t)
    (words : List Bytes) (c : Command) (rest : List Bytes) :
    addTokens words c (front ++ rest) =
      addTokens ((front.filter isWord).reverse ++ words) (c.redirected front) rest := by
  induction front generalizing words c with
  | nil => simp [redirected, lastTarget]
  | cons token front ih =>
      have here : ¬ IsOffending token := fit token List.mem_cons_self
      have others : ∀ t ∈ front, ¬ IsOffending t := fun t mem =>
        fit t (List.mem_cons_of_mem _ mem)
      rw [List.cons_append, addTokens]
      rcases token_cases token with ⟨word, other⟩ | ⟨op, file, rfl⟩ | rfl
      · rw [Piece.ofToken_word word other, redirected_word word, List.filter_cons, if_pos word,
          List.reverse_cons, List.append_assoc]
        exact ih others _ _
      · have named : file.isEmpty = false := by
          cases file with
          | nil => exact absurd (.inl ⟨op, rfl⟩) here
          | cons b file => rfl
        rw [Piece.ofToken_sign, named, redirected_sign, List.filter_cons, isWord_sign]
        exact ih others _ _
      · exact absurd (.inr rfl) here

theorem addTokens_offence {token : Bytes} {rest : List Bytes} {e : ParseError}
    (offence : Offence token rest e) (words : List Bytes) (c : Command) :
    addTokens words c (token :: rest) = .error e := by
  rw [addTokens]
  cases offence with
  | missingTarget op | spaceAfterOperator op =>
      rw [Piece.ofToken_sign]
      rfl
  | misplacedBackground => rw [Piece.ofToken_ampersand]

/-! ## The parser -/

theorem Offence.exists_of_isOffending {token : Bytes} (offends : IsOffending token)
    (rest : List Bytes) : ∃ e, Offence token rest e := by
  rcases offends with ⟨op, rfl⟩ | rfl
  · cases rest with
    | nil => exact ⟨_, .missingTarget op⟩
    | cons next rest => exact ⟨_, .spaceAfterOperator op⟩
  · exact ⟨_, .misplacedBackground⟩

/-- Either no token offends, or there is a leftmost one. -/
theorem leftmost_offending (toks : List Bytes) :
    (∀ t ∈ toks, ¬ IsOffending t) ∨ ∃ front token rest, toks = front ++ token :: rest ∧
      (∀ t ∈ front, ¬ IsOffending t) ∧ IsOffending token := by
  induction toks with
  | nil => exact .inl (by simp)
  | cons token toks ih =>
      by_cases offends : IsOffending token
      · exact .inr ⟨[], token, toks, rfl, by simp, offends⟩
      · rcases ih with none | ⟨front, other, rest, rfl, fit, leftmost⟩
        · exact .inl (by simpa using ⟨offends, none⟩)
        · exact .inr ⟨token :: front, other, rest, rfl, by simpa using ⟨offends, fit⟩, leftmost⟩

theorem ends_body (toks : List Bytes) : Ends toks (body toks) (toks.getLast? = some ampersand) := by
  unfold body
  split
  · next final =>
      obtain ⟨rest, rfl⟩ := List.getLast?_eq_some_iff.1 final
      rw [decide_eq_true final, List.dropLast_concat]
      exact .background
  · next other =>
      rw [decide_eq_false other]
      exact .foreground other

theorem Ends.eq {toks rest : List Bytes} {background : Bool} (ends : Ends toks rest background) :
    rest = body toks ∧ background = decide (toks.getLast? = some ampersand) := by
  cases ends with
  | background => simp [body]
  | foreground other => simp [body, other]

/-- Tokens that fit are added up to the command that they describe. -/
theorem addTokens_described {toks : List Bytes} (fit : ∀ t ∈ toks, ¬ IsOffending t)
    (background : Bool) :
    addTokens [] { background } toks = .ok (described toks background) := by
  rw [← List.append_nil toks, addTokens_append fit, addTokens]
  simp [redirected, described]

/-- The grammar reads a line in one way only, and that is the parser's. -/
theorem Reading.ofTokens_eq {maxToken : Nat} {toks : List Bytes}
    {result : Except ParseError Command} (reading : Reading maxToken toks result) :
    ofTokens maxToken toks = result := by
  have short (fits : ∀ t ∈ toks, t.length ≤ maxToken) :
      toks.any (maxToken < ·.length) = false := by
    simpa using fits
  cases reading with
  | tooLong mem long =>
      rw [ofTokens, if_pos]
      exact List.any_eq_true.2 ⟨_, mem, by simpa using long⟩
  | offending fits ends fit offence =>
      obtain ⟨rest_eq, rfl⟩ := ends.eq
      rw [ofTokens, if_neg (by simp [short fits]), ← rest_eq, addTokens_append fit,
        addTokens_offence offence]
  | missing fits ends fit none extras =>
      obtain ⟨rfl, rfl⟩ := ends.eq
      rw [ofTokens, if_neg (by simp [short fits]), addTokens_described fit]
      simp [isBlank, none, hasExtras_described_iff.2 extras]
  | accepted fits ends fit whole =>
      obtain ⟨rfl, rfl⟩ := ends.eq
      rw [ofTokens, if_neg (by simp [short fits]), addTokens_described fit]
      rcases whole with some | plain
      · simp [isBlank, some]
      · simp [hasExtras_described_eq_false_iff.2 plain]

/-- The grammar reads every line. -/
theorem exists_reading (maxToken : Nat) (toks : List Bytes) :
    ∃ result, Reading maxToken toks result := by
  by_cases long : ∃ token ∈ toks, maxToken < token.length
  · obtain ⟨token, mem, long⟩ := long
    exact ⟨_, .tooLong mem long⟩
  · have fits : ∀ t ∈ toks, t.length ≤ maxToken := by simpa using long
    rcases leftmost_offending (body toks) with fit | ⟨front, token, rest, cut, fit, offends⟩
    · by_cases whole : (described (body toks) (toks.getLast? = some ampersand)).argv ≠ [] ∨
          (described (body toks) (toks.getLast? = some ampersand)).hasExtras = false
      · exact ⟨_, .accepted fits (ends_body toks) fit
          (whole.imp_right hasExtras_described_eq_false_iff.1)⟩
      · simp only [not_or, ne_eq, Decidable.not_not, Bool.not_eq_false] at whole
        exact ⟨_, .missing fits (ends_body toks) fit whole.1 (hasExtras_described_iff.1 whole.2)⟩
    · obtain ⟨e, offence⟩ := Offence.exists_of_isOffending offends rest
      exact ⟨_, .offending fits (cut ▸ ends_body toks) fit offence⟩

/-- The parser accepts what the grammar accepts, with the command that the line describes, and
refuses everything else with the error that the grammar gives. -/
theorem parse_eq_iff_reading {maxToken : Nat} {line : Bytes} {result : Except ParseError Command} :
    parse maxToken line = result ↔ ∃ toks, Runs line toks ∧ Reading maxToken toks result := by
  constructor
  · rintro rfl
    obtain ⟨result, reading⟩ := exists_reading maxToken (tokens line)
    refine ⟨tokens line, runs_tokens line, ?_⟩
    rwa [parse, reading.ofTokens_eq]
  · rintro ⟨toks, runs, reading⟩
    rw [parse, ← runs_iff.1 runs, reading.ofTokens_eq]

/-- An operator without a file name is refused before the misplaced `&` behind it. -/
example : parse 255 (Bytes.ofText "a > & b") = .error (.spaceAfterOperator .output) := by
  cbv

end JobShell.Command
