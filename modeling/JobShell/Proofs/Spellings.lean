import JobShell.Proofs.Arguments

/-!
# All spellings of an option mean the same

A length may stand behind `=`, in the next argument after its long name or its letter, or right
behind its letter; flags may stand in a group, each behind a dash of its own, or be called by their
long names. Behind arguments that are accepted it makes no difference which of these is chosen,
neither for the options nor for what is refused and how, whatever value is given and whatever
follows.

Results:
1. `Options.parseFrom_group`: a group of flags is read as the flags one by one.
2. `spellings_agree`: the spellings may stand for each other.
-/

namespace JobShell

/-- A flag by its letter. -/
def Flag.dashed (f : Flag) : String := "-" ++ f.letter.toString

/-- A length by its letter, without its value. -/
def LengthOption.dashed (l : LengthOption) : String := "-" ++ l.letter.toString

namespace Options

variable {x : String} {s : List String}

/-- The options of a command line. Its first word is the name of the program. -/
def ofWords (words : List String) : Except OptionError Options := parse words.tail

theorem parseFrom_cons_of_ok {o after : Options}
    (reads : read { options := o } x = .ok { options := after }) :
    parseFrom o (x :: s) = parseFrom after s := by
  rw [parseFrom, readAll, List.foldlM_cons, reads]
  rfl

theorem parseFrom_cons_congr {o other : Options} {y : String}
    (same : read { options := o } x = read { options := other } y) :
    parseFrom o (x :: s) = parseFrom other (y :: s) := by
  rw [parseFrom, readAll, List.foldlM_cons, same]
  rfl

theorem parseFrom_longName (o : Options) (l : LengthOption) (v : String) (s : List String) :
    parseFrom o (("--" ++ l.longName) :: v :: s) = parseFrom o (l.assigned v :: s) := by
  rw [parseFrom_assigned]
  exact parseFrom_behind (.longName l) o v s

theorem parseFrom_dashed (o : Options) (l : LengthOption) (v : String) (s : List String) :
    parseFrom o (l.dashed :: v :: s) = parseFrom o (l.assigned v :: s) := by
  have spells : Spells none l.dashed [] (some l) := .groupName [] l
  rw [parseFrom_assigned]
  exact parseFrom_behind spells o v s

theorem parseFrom_joined (o : Options) (l : LengthOption) {v : String} (filled : v ≠ "")
    (s : List String) :
    parseFrom o ((l.dashed ++ v) :: s) = parseFrom o (l.assigned v :: s) := by
  refine parseFrom_cons_congr ?_
  rw [read_assigned]
  have reads := read_letter o [] l v
  rw [if_neg filled] at reads
  rw [LengthOption.dashed, String.append_assoc]
  exact reads

theorem read_dashed (o : Options) (f : Flag) :
    read { options := o } f.dashed = .ok { options := o.setFlag f } :=
  read_of_spells (.group (List.cons_ne_nil f [])) o

theorem parseFrom_flags (o : Options) (fs : List Flag) (s : List String) :
    parseFrom o (fs.map Flag.dashed ++ s) = parseFrom (o.apply (fs.map .flag)) s := by
  induction fs generalizing o with
  | nil => rfl
  | cons f fs ih =>
      rw [List.map_cons, List.cons_append, parseFrom_cons_of_ok (read_dashed o f)]
      exact ih (o.setFlag f)

/-- A group may be cut behind any of its flags. -/
theorem parseFrom_group (o : Options) {fs : List Flag} (filled : fs ≠ [])
    (single : x.toList.head? ≠ some '-') (s : List String) :
    parseFrom o (("-" ++ Flag.group fs ++ x) :: s) =
      parseFrom o (fs.map Flag.dashed ++ ((if x = "" then [] else ["-" ++ x]) ++ s)) := by
  have reads := read_group o (.inl filled) single
  rw [parseFrom_flags]
  split
  · next empty =>
      subst empty
      exact parseFrom_cons_of_ok reads
  · next some =>
      rw [← read_dash some single] at reads
      exact parseFrom_cons_congr reads

/-! ## In every context -/

/-- The spellings of an option may stand for each other between `p` and `s`. -/
structure Interchangeable (name : String) (p s : List String) : Prop where
  nextArgument : ∀ (l : LengthOption) v,
    ofWords (name :: (p ++ ["--" ++ l.longName, v] ++ s)) =
      ofWords (name :: (p ++ [l.assigned v] ++ s))
  letter : ∀ (l : LengthOption) v,
    ofWords (name :: (p ++ [l.dashed, v] ++ s)) = ofWords (name :: (p ++ [l.assigned v] ++ s))
  joined : ∀ (l : LengthOption) v, v ≠ "" →
    ofWords (name :: (p ++ [l.dashed ++ v] ++ s)) = ofWords (name :: (p ++ [l.assigned v] ++ s))
  /-- Flags may stand in one group, in front of anything that does not start with a dash. -/
  group : ∀ (fs : List Flag) x, fs ≠ [] → x.toList.head? ≠ some '-' →
    ofWords (name :: (p ++ ["-" ++ Flag.group fs ++ x] ++ s)) =
      ofWords (name :: (p ++ (fs.map Flag.dashed ++ if x = "" then [] else ["-" ++ x]) ++ s))
  longFlag : ∀ f : Flag,
    ofWords (name :: (p ++ ["--" ++ f.longName] ++ s)) = ofWords (name :: (p ++ [f.dashed] ++ s))

end Options

open Options in
/-- Behind arguments that are accepted, all spellings of an option come to the same. -/
theorem spellings_agree {name : String} {p : List String} {o : Options}
    (accepted : ofWords (name :: p) = .ok o) (s : List String) : Interchangeable name p s := by
  have behind (first : List String) :
      ofWords (name :: (p ++ first ++ s)) = parseFrom o (first ++ s) := by
    rw [List.append_assoc]
    exact parse_append_of_ok accepted _
  constructor <;> simp only [behind]
  · exact fun l v => parseFrom_longName o l v s
  · exact fun l v => parseFrom_dashed o l v s
  · exact fun l v filled => parseFrom_joined o l filled s
  · intro fs x filled single
    rw [List.append_assoc]
    exact parseFrom_group o filled single s
  · intro f
    exact parseFrom_cons_congr ((read_longFlag o f).trans (read_dashed o f).symm)

open Options in
/-- A value that is no length is refused in the same words in each spelling, and a group of flags
may end with a length. -/
theorem spellings_agree_of_no_length :
    ofWords ["msh", "-V"] = .ok { action := .version } ∧
      ofWords ["msh", "-V", "-l", "0x10", "-h"] =
        ofWords ["msh", "-V", "--max-line-length=0x10", "-h"] ∧
      ofWords ["msh", "-V", "-l0x10", "-h"] =
        ofWords ["msh", "-V", "--max-line-length=0x10", "-h"] ∧
      ofWords ["msh", "-V", "-l0x10", "-h"] = .error (.invalidLength "0x10" .line) ∧
      ofWords ["msh", "-V", "-hVt9", "-h"] = ofWords ["msh", "-V", "-h", "-V", "-t9", "-h"] := by
  have accepted : ofWords ["msh", "-V"] = .ok { action := .version } := by decide
  have agree := spellings_agree accepted ["-h"]
  refine ⟨accepted, ?_, ?_, by decide, ?_⟩
  · exact agree.letter .line "0x10"
  · exact agree.joined .line "0x10" (by decide)
  · exact agree.group [.help, .version] "t9" (by decide) (by decide)

end JobShell
