import JobShell.Command

/-!
# Reading a command line

A line is cut into tokens at spaces and tabs. A final `&` asks for the background; of the other
tokens those that start with `>` or `<` name files and the rest are the words of the command.

Results:
1. `Command.not_isBlank_of_mem_tokens`: no token holds a blank, and none is empty
   (`Command.ne_nil_of_mem_tokens`).
2. `Command.parse_eq_argumentTooLong_iff`: a line is refused for its length exactly if one of its
   tokens is too long, whatever else is wrong with it.
-/

namespace JobShell

/-- Why a line is refused. -/
inductive ParseError
  | argumentTooLong
  | spaceAfterOperator (op : Redirection)
  | missingTarget (op : Redirection)
  | misplacedBackground
  | missingCommand
deriving DecidableEq, Repr

def ParseError.message : ParseError → String
  | .argumentTooLong => "Argument too long!"
  | .spaceAfterOperator op => "No whitespaces after '" ++ op.text ++ "' operator!"
  | .missingTarget op => "missing file name after '" ++ op.text ++ "' operator"
  | .misplacedBackground => "'&' is only allowed at the end of a command"
  | .missingCommand => "missing command"

namespace Command

/-- The maximal runs of bytes other than blanks, in order. -/
def tokens : Bytes → List Bytes
  | [] => []
  | b :: rest =>
      if Bytes.isBlank b then tokens rest
      else
        (b :: rest.takeWhile (!Bytes.isBlank ·)) :: tokens (rest.dropWhile (!Bytes.isBlank ·))
termination_by line => line.length
decreasing_by
  · simp
  · exact Nat.lt_succ_of_le (List.dropWhile_suffix _).length_le

/-- The token that asks for the background. -/
def ampersand : Bytes := [38]

/-- What a token says when it is not the final `&`. -/
inductive Piece
  | word (bytes : Bytes)
  | target (op : Redirection) (file : Bytes)
  | bare (op : Redirection)
  | background
deriving DecidableEq, Repr

def Piece.ofToken (token : Bytes) : Piece :=
  match token with
  | [] => .word []
  | b :: rest =>
      if b = Redirection.output.sign then
        if rest.isEmpty then .bare .output else .target .output rest
      else if b = Redirection.input.sign then
        if rest.isEmpty then .bare .input else .target .input rest
      else if token = ampersand then .background
      else .word token

/-- Add the tokens to a command, from left to right; `words` holds the words so far, the latest
one first. The first token that fits nowhere decides the error. -/
def addTokens (words : List Bytes) (c : Command) : List Bytes → Except ParseError Command
  | [] => .ok { c with argv := words.reverse }
  | token :: rest =>
      match Piece.ofToken token with
      | .word bytes => addTokens (bytes :: words) c rest
      | .target op file => addTokens words (c.redirect op file) rest
      | .bare op => .error (if rest.isEmpty then .missingTarget op else .spaceAfterOperator op)
      | .background => .error .misplacedBackground

/-- The tokens without a final `&`. -/
def body (toks : List Bytes) : List Bytes :=
  if toks.getLast? = some ampersand then toks.dropLast else toks

/-- The command that the tokens of a line make up. Their lengths are checked first, then they are
added from left to right, and last there must be a command at all. -/
def ofTokens (maxToken : Nat) (toks : List Bytes) : Except ParseError Command :=
  if toks.any (maxToken < ·.length) then .error .argumentTooLong
  else
    match addTokens [] { background := toks.getLast? = some ampersand } (body toks) with
    | .error e => .error e
    | .ok c => if c.isBlank && c.hasExtras then .error .missingCommand else .ok c

/-- Read a line without its newline. -/
def parse (maxToken : Nat) (line : Bytes) : Except ParseError Command :=
  ofTokens maxToken (tokens line)

/-! ## Tokens -/

theorem ne_nil_of_mem_tokens {line token : Bytes} (mem : token ∈ tokens line) : token ≠ [] := by
  fun_induction tokens line with
  | case1 => simp at mem
  | case2 b rest blank ih => exact ih mem
  | case3 b rest blank ih =>
      rcases List.mem_cons.1 mem with rfl | mem
      · simp
      · exact ih mem

theorem not_isBlank_of_mem_tokens {line token : Bytes} (mem : token ∈ tokens line)
    {b : UInt8} (inside : b ∈ token) : Bytes.isBlank b = false := by
  fun_induction tokens line with
  | case1 => simp at mem
  | case2 c rest blank ih => exact ih mem
  | case3 c rest blank ih =>
      rcases List.mem_cons.1 mem with rfl | mem
      · rcases List.mem_cons.1 inside with rfl | inside
        · simpa using blank
        · have plain := List.all_takeWhile (p := (!Bytes.isBlank ·)) (l := rest)
          simpa using List.all_eq_true.1 plain b inside
      · exact ih mem

/-! ## Lengths come first -/

theorem addTokens_ne_argumentTooLong (words : List Bytes) (c : Command) (toks : List Bytes) :
    addTokens words c toks ≠ .error .argumentTooLong := by
  induction toks generalizing words c with
  | nil => simp [addTokens]
  | cons token rest ih =>
      unfold addTokens
      split
      · exact ih _ _
      · exact ih _ _
      · split <;> simp
      · simp

theorem parse_eq_argumentTooLong_iff {maxToken : Nat} {line : Bytes} :
    parse maxToken line = .error .argumentTooLong ↔
      ∃ token ∈ tokens line, maxToken < token.length := by
  unfold parse ofTokens
  constructor
  · intro refused
    split at refused
    · next long => simpa using long
    · split at refused
      · next e failed => cases refused; exact absurd failed (addTokens_ne_argumentTooLong _ _ _)
      · split at refused <;> cases refused
  · intro long
    rw [if_pos]
    simpa using long

end Command

end JobShell
