import JobShell.Options
import Mathlib.Algebra.Group.Nat.Defs
import Mathlib.Data.List.Induction
import Mathlib.Data.List.TakeWhile

/-!
# Arguments are read from left to right

An argument is an option in one of its spellings, or the value that the option before it waits
for. What an argument sets and what it waits for does not depend on the options set so far, and a
refused argument is refused whatever they are. So a list of arguments can be cut anywhere: what
stands in front hands over its options and, at most, a length that has no value yet.

`Spells` lists the spellings one by one and `Sets` strings them together; both are said without the
reader, and the reader accepts exactly what they describe.

Results:
1. `Options.read_of_spells`, `Options.read_cases`: one argument is read as it is spelled, or
   refused.
2. `Options.readAll_of_sets`, `Options.readAll_cases`: so are many.
3. `arguments_compose`: reading a list of arguments and another one behind it.
-/

namespace JobShell

namespace Options

/-- What an option sets. -/
inductive Setting
  | flag (f : Flag)
  | length (l : LengthOption) (n : Nat)
deriving DecidableEq, Repr

namespace Setting

/-- The action that is asked for. -/
def action? : Setting → Option Action
  | .flag .help => some .help
  | .flag .version => some .version
  | .length .. => none

/-- The value that a length gets. -/
def value? (l : LengthOption) : Setting → Option Nat
  | .flag _ => none
  | .length m n => if m = l then some n else none

end Setting

end Options

/-- Several flags as one group of letters. -/
def Flag.group (fs : List Flag) : String := String.ofList (fs.map Flag.letter)

/-- The spelling of a length in one word: its long name, `=`, and its value. -/
def LengthOption.assigned (l : LengthOption) (value : String) : String :=
  "--" ++ l.longName ++ "=" ++ value

/-- `l.Lacks p q`: the arguments `p` end with the option `l` without its value, and without that
option they are `q`. -/
inductive LengthOption.Lacks (l : LengthOption) : List String → List String → Prop
  | long {q : List String} : Lacks l (q ++ ["--" ++ l.longName]) q
  | letter {q : List String} : Lacks l (q ++ ["-" ++ l.letter.toString]) q
  | group {q : List String} {fs : List Flag} :
      fs ≠ [] →
      Lacks l (q ++ ["-" ++ Flag.group fs ++ l.letter.toString]) (q ++ ["-" ++ Flag.group fs])

namespace Options

/-- `Spells awaited x settings next`: while the value of `awaited` is missing, the argument `x`
makes these settings, and then the value of `next` is missing. -/
inductive Spells :
    Option LengthOption → String → List Setting → Option LengthOption → Prop
  | value {l : LengthOption} {v : String} {n : Nat} :
      Length.ofText? v = some n → Spells (some l) v [.length l n] none
  | longFlag (f : Flag) : Spells none ("--" ++ f.longName) [.flag f] none
  | longValue {l : LengthOption} {v : String} {n : Nat} :
      Length.ofText? v = some n → Spells none (l.assigned v) [.length l n] none
  | longName (l : LengthOption) : Spells none ("--" ++ l.longName) [] (some l)
  | group {fs : List Flag} :
      fs ≠ [] → Spells none ("-" ++ Flag.group fs) (fs.map .flag) none
  | groupValue {fs : List Flag} {l : LengthOption} {v : String} {n : Nat} :
      v ≠ "" → Length.ofText? v = some n →
      Spells none ("-" ++ Flag.group fs ++ l.letter.toString ++ v)
        (fs.map .flag ++ [.length l n]) none
  | groupName (fs : List Flag) (l : LengthOption) :
      Spells none ("-" ++ Flag.group fs ++ l.letter.toString) (fs.map .flag) (some l)

/-- What a list of arguments sets, in order. -/
inductive Sets :
    Option LengthOption → List String → List Setting → Option LengthOption → Prop
  | nil (awaited : Option LengthOption) : Sets awaited [] [] awaited
  | cons {awaited next last : Option LengthOption} {x : String} {rest : List String}
      {first settings : List Setting} :
      Spells awaited x first next → Sets next rest settings last →
      Sets awaited (x :: rest) (first ++ settings) last

variable {o after : Options} {l : LengthOption} {x v : String} {p s : List String} {e : OptionError}
  {settings : List Setting} {awaited next : Option LengthOption}

def set (o : Options) : Setting → Options
  | .flag f => o.setFlag f
  | .length .line n => { o with limits := { o.limits with line := n } }
  | .length .token n => { o with limits := { o.limits with token := n } }

/-- Make settings one after another. -/
def apply (o : Options) (settings : List Setting) : Options := settings.foldl set o

/-- The options in which each part is the one set last, or as before if none is set. -/
def settled (o : Options) (settings : List Setting) : Options where
  action := (settings.filterMap Setting.action?).getLast?.getD o.action
  limits := {
    line := (settings.filterMap (Setting.value? .line)).getLast?.getD o.limits.line
    token := (settings.filterMap (Setting.value? .token)).getLast?.getD o.limits.token }

/-- Read arguments on top of options that are set already. -/
def parseFrom (o : Options) (arguments : List String) : Except OptionError Options :=
  readAll { options := o } arguments >>= finish

theorem apply_append (o : Options) (first rest : List Setting) :
    o.apply (first ++ rest) = (o.apply first).apply rest := List.foldl_append

theorem settled_concat (o : Options) (settings : List Setting) (setting : Setting) :
    o.settled (settings ++ [setting]) = (o.settled settings).set setting := by
  cases setting with
  | flag f => cases f <;> simp [settled, set, setFlag, Setting.action?, Setting.value?]
  | length l n => cases l <;> simp [settled, set, Setting.action?, Setting.value?]

/-- Of several settings of one thing the last one counts. -/
theorem apply_eq_settled (o : Options) (settings : List Setting) :
    o.apply settings = o.settled settings := by
  induction settings using List.reverseRecOn with
  | nil => rfl
  | append_singleton settings setting ih => rw [settled_concat, apply_append, ih]; rfl

theorem setLength_eq_ok {n : Nat} (read : Length.ofText? v = some n) :
    o.setLength l v = .ok (o.set (.length l n)) := by
  cases l <;> simp [setLength, read, set]

theorem setLength_eq_error (unread : Length.ofText? v = none) :
    o.setLength l v = .error (.invalidLength v l) := by
  simp [setLength, unread]

/-! ## One argument -/

/-- A value is a length, or it is refused whatever the options are. -/
theorem setLength_cases (l : LengthOption) (v : String) :
    (∃ n, Length.ofText? v = some n) ∨ ∀ o, setLength o l v = .error (.invalidLength v l) := by
  cases read : Length.ofText? v with
  | some n => exact .inl ⟨n, rfl⟩
  | none => exact .inr fun _ => setLength_eq_error read

theorem readGroup_flags (o : Options) (fs : List Flag) (rest : List Char) :
    readGroup o (fs.map Flag.letter ++ rest) = readGroup (o.apply (fs.map .flag)) rest := by
  induction fs generalizing o with
  | nil => rfl
  | cons f fs ih =>
      have known : Switch.ofLetter? f.letter = some (.flag f) := by cases f <;> decide
      rw [List.map_cons, List.cons_append, readGroup, known]
      exact ih (o.setFlag f)

theorem readGroup_length (o : Options) (l : LengthOption) (rest : List Char) :
    readGroup o (l.letter :: rest) =
      if rest = [] then .ok { options := o, awaited := some l }
      else (o.setLength l (String.ofList rest)).map fun o => { options := o } := by
  have known : Switch.ofLetter? l.letter = some (.length l) := by cases l <;> decide
  rw [readGroup, known]
  simp

/-- Letters are flags up to the first one that is no flag. -/
theorem exists_flags (letters : List Char) :
    ∃ (fs : List Flag) (rest : List Char), letters = fs.map Flag.letter ++ rest ∧
      ∀ f : Flag, rest.head? ≠ some f.letter := by
  induction letters with
  | nil => exact ⟨[], [], rfl, nofun⟩
  | cons c rest ih =>
      by_cases isFlag : ∃ f : Flag, c = f.letter
      · obtain ⟨f, rfl⟩ := isFlag
        obtain ⟨fs, rest, rfl, plain⟩ := ih
        exact ⟨f :: fs, rest, rfl, plain⟩
      · exact ⟨[], c :: rest, rfl, fun f same => isFlag ⟨f, Option.some.inj same⟩⟩

/-- What stands behind a dash is read as a group unless it starts with another dash. -/
theorem read_dash (filled : x ≠ "") (single : x.toList.head? ≠ some '-') :
    read { options := o } ("-" ++ x) = readGroup o x.toList := by
  obtain ⟨c, rest, spelled⟩ : ∃ c rest, x.toList = c :: rest := by
    cases spelled : x.toList with
    | nil => exact absurd (String.toList_eq_nil_iff.1 spelled) filled
    | cons c rest => exact ⟨c, rest, rfl⟩
  have whole : ("-" ++ x).toList = '-' :: c :: rest := by simp [spelled]
  have other : c ≠ '-' := by simpa [spelled] using single
  simp only [read, whole, spelled]

theorem read_long (o : Options) (x : String) :
    read { options := o } ("--" ++ x) = readLong o x.toList := by
  have whole : ("--" ++ x).toList = '-' :: '-' :: x.toList := by simp
  simp only [read, whole]

theorem readLong_name (o : Options) (name : String) (plain : '=' ∉ name.toList) :
    readLong o name.toList =
      match Switch.ofLongName? name with
      | none => .error (.unrecognized ("--" ++ name))
      | some (.flag f) => .ok { options := o.setFlag f }
      | some (.length l) => .ok { options := o, awaited := some l } := by
  have all : ∀ c ∈ name.toList, (c != '=') = true := by
    intro c mem
    exact bne_iff_ne.2 fun same => plain (same ▸ mem)
  have taken : name.toList.takeWhile (· != '=') = name.toList := List.takeWhile_eq_self_iff.2 all
  have dropped : name.toList.dropWhile (· != '=') = [] := List.dropWhile_eq_nil_iff.2 all
  rw [readLong]
  simp only [taken, dropped, String.ofList_toList]
  cases Switch.ofLongName? name with
  | none => rfl
  | some known => cases known <;> rfl

theorem readLong_assigned (o : Options) (name value : String) (plain : '=' ∉ name.toList) :
    readLong o (name ++ "=" ++ value).toList =
      match Switch.ofLongName? name with
      | none => .error (.unrecognized ("--" ++ (name ++ "=" ++ value)))
      | some (.flag f) => .error (.takesNoValue f)
      | some (.length l) => (o.setLength l value).map fun o => { options := o } := by
  have all : ∀ c ∈ name.toList, (c != '=') = true := by
    intro c mem
    exact bne_iff_ne.2 fun same => plain (same ▸ mem)
  have spelled : (name ++ "=" ++ value).toList = name.toList ++ '=' :: value.toList := by simp
  have taken : (name ++ "=" ++ value).toList.takeWhile (· != '=') = name.toList := by
    rw [spelled, List.takeWhile_append_of_pos all]
    simp
  have dropped : (name ++ "=" ++ value).toList.dropWhile (· != '=') = '=' :: value.toList := by
    rw [spelled, List.dropWhile_append_of_pos all]
    simp
  rw [readLong]
  simp only [taken, dropped, String.ofList_toList]
  cases Switch.ofLongName? name with
  | none => rfl
  | some known => cases known <;> rfl

theorem ofLongName?_flag (f : Flag) : Switch.ofLongName? f.longName = some (.flag f) := by
  cases f <;> decide

theorem ofLongName?_length (l : LengthOption) :
    Switch.ofLongName? l.longName = some (.length l) := by
  cases l <;> decide

theorem read_longFlag (o : Options) (f : Flag) :
    read { options := o } ("--" ++ f.longName) = .ok { options := o.setFlag f } := by
  have plain : '=' ∉ f.longName.toList := by cases f <;> decide
  rw [read_long, readLong_name _ _ plain, ofLongName?_flag]

theorem read_longName (o : Options) (l : LengthOption) :
    read { options := o } ("--" ++ l.longName) = .ok { options := o, awaited := some l } := by
  have plain : '=' ∉ l.longName.toList := by cases l <;> decide
  rw [read_long, readLong_name _ _ plain, ofLongName?_length]

theorem read_assigned (o : Options) (l : LengthOption) (v : String) :
    read { options := o } (l.assigned v) = (o.setLength l v).map fun o => { options := o } := by
  have plain : '=' ∉ l.longName.toList := by cases l <;> decide
  have spelled : l.assigned v = "--" ++ (l.longName ++ "=" ++ v) := by
    simp [LengthOption.assigned, String.append_assoc]
  rw [spelled, read_long, readLong_assigned _ _ _ plain, ofLongName?_length]

theorem read_value (o : Options) (l : LengthOption) (v : String) :
    read ⟨o, some l⟩ v = (o.setLength l v).map fun o => { options := o } := rfl

/-- Flags in front of a group are set, and the rest is read as if they were not there. -/
theorem read_group (o : Options) {fs : List Flag} (filled : fs ≠ [] ∨ x ≠ "")
    (single : x.toList.head? ≠ some '-') :
    read { options := o } ("-" ++ Flag.group fs ++ x) =
      readGroup (o.apply (fs.map .flag)) x.toList := by
  have spelled : (Flag.group fs ++ x).toList = fs.map Flag.letter ++ x.toList := by
    simp [Flag.group]
  rw [String.append_assoc, read_dash, spelled, readGroup_flags]
  · intro empty
    rw [empty, String.toList_empty, eq_comm, List.append_eq_nil_iff] at spelled
    rcases filled with some | some
    · exact some (List.map_eq_nil_iff.1 spelled.1)
    · exact some (String.toList_eq_nil_iff.1 spelled.2)
  · rw [spelled]
    cases fs with
    | nil => exact single
    | cons f fs => cases f <;> simp [Flag.letter]

theorem read_letter (o : Options) (fs : List Flag) (l : LengthOption) (v : String) :
    read { options := o } ("-" ++ Flag.group fs ++ (l.letter.toString ++ v)) =
      if v = "" then .ok { options := o.apply (fs.map .flag), awaited := some l }
      else ((o.apply (fs.map .flag)).setLength l v).map fun o => { options := o } := by
  have spelled : (l.letter.toString ++ v).toList = l.letter :: v.toList := by simp
  have filled : l.letter.toString ++ v ≠ "" := by
    intro empty
    rw [String.toList_eq_nil_iff.2 empty] at spelled
    cases spelled
  have single : (l.letter.toString ++ v).toList.head? ≠ some '-' := by
    rw [spelled]
    cases l <;> simp [LengthOption.letter]
  rw [read_group o (.inr filled) single, spelled, readGroup_length]
  simp

/-- An argument is read as it is spelled. -/
theorem read_of_spells (spells : Spells awaited x settings next) (o : Options) :
    read ⟨o, awaited⟩ x = .ok ⟨o.apply settings, next⟩ := by
  cases spells with
  | value accepted => rw [read_value, setLength_eq_ok accepted]; rfl
  | longFlag f => exact read_longFlag o f
  | longValue accepted => rw [read_assigned, setLength_eq_ok accepted]; rfl
  | longName l => exact read_longName o l
  | @group fs filled =>
      have whole := read_group (x := "") o (.inl filled) nofun
      rw [String.append_empty] at whole
      rw [whole, String.toList_empty, readGroup]
  | @groupValue fs l v n filled accepted =>
      rw [String.append_assoc, read_letter, if_neg filled, setLength_eq_ok accepted, apply_append]
      rfl
  | groupName fs l =>
      have whole := read_letter o fs l ""
      rw [String.append_empty, if_pos rfl] at whole
      exact whole

/-- An argument is a long name, a group of letters, or nothing that can be read. -/
theorem form_cases (x : String) :
    (∃ long, x = "--" ++ long) ∨
      (∃ letters, letters ≠ "" ∧ letters.toList.head? ≠ some '-' ∧ x = "-" ++ letters) ∨
      ∀ o : Options, read { options := o } x = .error (.unexpectedArgument x) := by
  cases spelled : x.toList with
  | nil => exact .inr (.inr fun o => by simp [read, spelled])
  | cons c rest =>
      by_cases dash : c = '-'
      · subst dash
        cases rest with
        | nil => exact .inr (.inr fun o => by simp [read, spelled])
        | cons d rest =>
            by_cases second : d = '-'
            · subst second
              refine .inl ⟨String.ofList rest, String.toList_injective ?_⟩
              simp [spelled]
            · refine .inr (.inl ⟨String.ofList (d :: rest), ?_, ?_, String.toList_injective ?_⟩)
              · simp
              · simpa using second
              · simp [spelled]
      · exact .inr (.inr fun o => by simp [read, spelled, dash])

theorem longName_of_ofLongName? {name : String} {known : Switch}
    (found : Switch.ofLongName? name = some known) : known.longName = name := by
  simpa using List.find?_some found

theorem letter_of_ofLetter? {c : Char} {known : Switch}
    (found : Switch.ofLetter? c = some known) : known.letter = c := by
  simpa using List.find?_some found

/-- The same refusal whatever options are set so far, and not for want of a value. -/
def Refuses (read : Options → Except OptionError Progress) : Prop :=
  ∃ e, (∀ l, e ≠ .missingValue l) ∧ ∀ o, read o = .error e

theorem readLong_cases (long : String) :
    Refuses (readLong · long.toList) ∨
      ∃ settings next, Spells none ("--" ++ long) settings next := by
  by_cases assigns : '=' ∈ long.toList
  · obtain ⟨front, back, spelled, plain⟩ := List.eq_append_cons_of_mem assigns
    obtain ⟨name, rfl⟩ : ∃ name, front = String.toList name := ⟨String.ofList front, by simp⟩
    obtain ⟨v, rfl⟩ : ∃ v, back = String.toList v := ⟨String.ofList back, by simp⟩
    obtain rfl : long = name ++ "=" ++ v := String.toList_injective (by simp [spelled])
    have read := fun o => readLong_assigned o name v plain
    cases known : Switch.ofLongName? name with
    | none =>
        exact .inl ⟨.unrecognized ("--" ++ (name ++ "=" ++ v)), nofun,
          fun o => by simp only [read, known]⟩
    | some switch =>
        obtain rfl := longName_of_ofLongName? known
        cases switch with
        | flag f => exact .inl ⟨.takesNoValue f, nofun, fun o => by simp only [read, known]⟩
        | length l =>
            rcases setLength_cases l v with ⟨n, accepted⟩ | refused
            · refine .inr ⟨[.length l n], none, ?_⟩
              rw [← String.append_assoc, ← String.append_assoc]
              exact .longValue accepted
            · exact .inl ⟨.invalidLength v l, nofun, fun o => by
                simp only [read, known, refused]; rfl⟩
  · have read := fun o => readLong_name o long assigns
    cases known : Switch.ofLongName? long with
    | none => exact .inl ⟨.unrecognized ("--" ++ long), nofun, fun o => by simp only [read, known]⟩
    | some switch =>
        obtain rfl := longName_of_ofLongName? known
        cases switch with
        | flag f => exact .inr ⟨_, _, .longFlag f⟩
        | length l => exact .inr ⟨_, _, .longName l⟩

theorem readGroup_cases {letters : String} (filled : letters ≠ "") :
    Refuses (readGroup · letters.toList) ∨
      ∃ settings next, Spells none ("-" ++ letters) settings next := by
  obtain ⟨fs, rest, spelled, plain⟩ := exists_flags letters.toList
  have read : ∀ o, readGroup o letters.toList = readGroup (o.apply (fs.map .flag)) rest :=
    fun o => by rw [spelled, readGroup_flags]
  cases rest with
  | nil =>
      obtain rfl : letters = Flag.group fs :=
        String.toList_injective (by simp [spelled, Flag.group])
      refine .inr ⟨_, _, .group ?_⟩
      rintro rfl
      exact filled rfl
  | cons c rest =>
      obtain ⟨v, rfl⟩ : ∃ v, rest = String.toList v := ⟨String.ofList rest, by simp⟩
      cases known : Switch.ofLetter? c with
      | none => exact .inl ⟨.unknownLetter c, nofun, fun o => by simp only [read, readGroup, known]⟩
      | some switch =>
          obtain rfl := letter_of_ofLetter? known
          cases switch with
          | flag f => exact absurd rfl (plain f)
          | length l =>
              obtain rfl : letters = Flag.group fs ++ l.letter.toString ++ v :=
                String.toList_injective (by simp [spelled, Flag.group, Switch.letter])
              simp only [← String.append_assoc]
              by_cases empty : v = ""
              · have spells := Spells.groupName fs l
                rw [← String.append_empty (s := "-" ++ Flag.group fs ++ l.letter.toString),
                  ← empty] at spells
                exact .inr ⟨_, _, spells⟩
              · rcases setLength_cases l v with ⟨n, accepted⟩ | refused
                · exact .inr ⟨_, _, .groupValue empty accepted⟩
                · refine .inl ⟨.invalidLength v l, nofun, fun o => ?_⟩
                  have behind := readGroup_length (o.apply (fs.map .flag)) l v.toList
                  rw [if_neg (fun none => empty (String.toList_eq_nil_iff.1 none)),
                    String.ofList_toList, refused] at behind
                  exact (read o).trans behind

/-- An argument is refused whatever the options are, or it is spelled in one of the ways. -/
theorem read_cases (awaited : Option LengthOption) (x : String) :
    Refuses (fun o => read ⟨o, awaited⟩ x) ∨ ∃ settings next, Spells awaited x settings next := by
  cases awaited with
  | some l =>
      rcases setLength_cases l x with ⟨n, accepted⟩ | refused
      · exact .inr ⟨_, _, .value accepted⟩
      · exact .inl ⟨.invalidLength x l, nofun, fun o => by simp only [read_value, refused]; rfl⟩
  | none =>
      rcases form_cases x with ⟨long, rfl⟩ | ⟨letters, filled, single, rfl⟩ | refused
      · simp only [read_long]
        exact readLong_cases long
      · simp only [read_dash filled single]
        exact readGroup_cases filled
      · exact .inl ⟨.unexpectedArgument x, nofun, refused⟩

/-! ## Many arguments -/

/-- Arguments are read as they are spelled. -/
theorem readAll_of_sets (sets : Sets awaited s settings next) (o : Options) :
    readAll ⟨o, awaited⟩ s = .ok ⟨o.apply settings, next⟩ := by
  induction sets generalizing o with
  | nil => rfl
  | cons spells _ ih =>
      rw [readAll, List.foldlM_cons, read_of_spells spells, apply_append]
      exact ih _

/-- Arguments are refused whatever the options are, or each is spelled in one of the ways. -/
theorem readAll_cases (awaited : Option LengthOption) (s : List String) :
    Refuses (fun o => readAll ⟨o, awaited⟩ s) ∨ ∃ settings next, Sets awaited s settings next := by
  induction s generalizing awaited with
  | nil => exact .inr ⟨_, _, .nil awaited⟩
  | cons x rest ih =>
      rcases read_cases awaited x with ⟨e, present, refused⟩ | ⟨first, next, spells⟩
      · refine .inl ⟨e, present, fun o => ?_⟩
        have here : read ⟨o, awaited⟩ x = .error e := refused o
        show readAll _ (x :: rest) = _
        rw [readAll, List.foldlM_cons, here]
        rfl
      · rcases ih next with ⟨e, present, refused⟩ | ⟨settings, last, sets⟩
        · refine .inl ⟨e, present, fun o => ?_⟩
          show readAll _ (x :: rest) = _
          rw [readAll, List.foldlM_cons, read_of_spells spells]
          exact refused _
        · exact .inr ⟨_, _, .cons spells sets⟩

/-- A list of arguments on its own: it is refused whatever the options are, it lacks a value, or
it is read to its end. -/
theorem parseFrom_cases (s : List String) :
    (∃ e, (∀ l, e ≠ .missingValue l) ∧ ∀ o, readAll { options := o } s = .error e) ∨
      (∃ settings l, Sets none s settings (some l)) ∨ ∃ settings, Sets none s settings none := by
  rcases readAll_cases none s with refused | ⟨settings, next, sets⟩
  · exact .inl refused
  · cases next with
    | none => exact .inr (.inr ⟨settings, sets⟩)
    | some l => exact .inr (.inl ⟨settings, l, sets⟩)

theorem parseFrom_of_refused (refused : readAll { options := o } s = .error e) :
    parseFrom o s = .error e := by
  rw [parseFrom, refused]
  rfl

theorem parseFrom_of_lacking (sets : Sets none s settings (some l)) (o : Options) :
    parseFrom o s = .error (.missingValue l) := by
  rw [parseFrom, readAll_of_sets sets]
  rfl

theorem parseFrom_of_sets (sets : Sets none s settings none) (o : Options) :
    parseFrom o s = .ok (o.apply settings) := by
  rw [parseFrom, readAll_of_sets sets]
  rfl

/-- Accepted arguments are spelled in the given ways, and nothing else is accepted. -/
theorem parseFrom_eq_ok_iff :
    parseFrom o s = .ok after ↔
      ∃ settings, Sets none s settings none ∧ after = o.settled settings := by
  constructor
  · intro accepted
    rcases parseFrom_cases s with ⟨e, _, refused⟩ | ⟨settings, l, sets⟩ | ⟨settings, sets⟩
    · cases (parseFrom_of_refused (refused o)).symm.trans accepted
    · cases (parseFrom_of_lacking sets o).symm.trans accepted
    · refine ⟨settings, sets, ?_⟩
      rw [← apply_eq_settled]
      exact (Except.ok.inj ((parseFrom_of_sets sets o).symm.trans accepted)).symm
  · rintro ⟨settings, sets, rfl⟩
    rw [← apply_eq_settled]
    exact parseFrom_of_sets sets o

/-- A refusal does not depend on the options that are set already. -/
theorem parseFrom_eq_error_iff (o other : Options) :
    parseFrom o s = .error e ↔ parseFrom other s = .error e := by
  rcases parseFrom_cases s with ⟨e, _, refused⟩ | ⟨settings, l, sets⟩ | ⟨settings, sets⟩
  · rw [parseFrom_of_refused (refused o), parseFrom_of_refused (refused other)]
  · rw [parseFrom_of_lacking sets, parseFrom_of_lacking sets]
  · rw [parseFrom_of_sets sets, parseFrom_of_sets sets]
    exact ⟨nofun, nofun⟩

theorem parseFrom_append_of_sets (sets : Sets none p settings none) (o : Options)
    (s : List String) :
    parseFrom o (p ++ s) = parseFrom (o.apply settings) s := by
  rw [parseFrom, readAll_append, readAll_of_sets sets]
  rfl

theorem parseFrom_append_of_refused (refused : readAll { options := o } p = .error e)
    (s : List String) : parseFrom o (p ++ s) = .error e := by
  rw [parseFrom, readAll_append, refused]
  rfl

theorem readAll_of_parseFrom_error (refused : parseFrom o p = .error e)
    (present : ∀ l, e ≠ .missingValue l) : readAll { options := o } p = .error e := by
  rcases parseFrom_cases p with ⟨f, _, all⟩ | ⟨_, l, sets⟩ | ⟨_, sets⟩
  · cases (parseFrom_of_refused (all o)).symm.trans refused
    exact all o
  · cases (parseFrom_of_lacking sets o).symm.trans refused
    exact absurd rfl (present l)
  · cases (parseFrom_of_sets sets o).symm.trans refused

theorem sets_of_missingValue (refused : parseFrom o p = .error (.missingValue l)) :
    ∃ settings, Sets none p settings (some l) := by
  rcases parseFrom_cases p with ⟨f, present, all⟩ | ⟨settings, m, sets⟩ | ⟨_, sets⟩
  · cases (parseFrom_of_refused (all o)).symm.trans refused
    exact absurd rfl (present l)
  · cases (parseFrom_of_lacking sets o).symm.trans refused
    exact ⟨settings, sets⟩
  · cases (parseFrom_of_sets sets o).symm.trans refused

/-- The value that was missing is read where it stands as it would be behind `=`. -/
theorem parseFrom_supplied (sets : Sets none p settings (some l)) (o : Options) (v : String)
    (s : List String) :
    parseFrom o (p ++ v :: s) = (o.apply settings).setLength l v >>= (parseFrom · s) := by
  rw [parseFrom, readAll_append, readAll_of_sets sets]
  show readAll ⟨_, some l⟩ (v :: s) >>= finish = _
  rw [readAll, List.foldlM_cons, read_value]
  cases (o.apply settings).setLength l v <;> rfl

/-- A value in an argument of its own is read on top of what the option's argument sets. -/
theorem parseFrom_behind (spells : Spells none x settings (some l)) (o : Options) (v : String)
    (s : List String) :
    parseFrom o (x :: v :: s) = (o.apply settings).setLength l v >>= (parseFrom · s) := by
  have lacking : Sets none [x] (settings ++ []) (some l) := .cons spells (.nil _)
  rw [List.append_nil] at lacking
  exact parseFrom_supplied lacking o v s

theorem parseFrom_assigned (o : Options) (l : LengthOption) (v : String) (s : List String) :
    parseFrom o (l.assigned v :: s) = o.setLength l v >>= (parseFrom · s) := by
  rw [parseFrom, readAll, List.foldlM_cons, read_assigned]
  cases o.setLength l v <;> rfl

/-- Arguments that lack a value end with the option that it is for. -/
theorem Sets.lacks {l : LengthOption} {awaited next : Option LengthOption} {p : List String}
    {settings : List Setting} (sets : Sets awaited p settings next) (lacking : next = some l) :
    (p = [] ∧ awaited = some l) ∨ ∃ q, l.Lacks p q ∧ Sets awaited q settings none := by
  induction sets with
  | nil => exact .inl ⟨rfl, lacking⟩
  | @cons awaited next last x rest first settings spells sets ih =>
      refine .inr ?_
      rcases ih lacking with ⟨rfl, rfl⟩ | ⟨q, lacks, before⟩
      · obtain rfl : settings = [] := by cases sets; rfl
        cases spells with
        | longName => exact ⟨[], .long (q := []), .nil none⟩
        | groupName fs =>
            by_cases alone : fs = []
            · subst alone
              exact ⟨[], .letter (q := []), .nil none⟩
            · exact ⟨[_], .group (q := []) alone, .cons (.group alone) (.nil none)⟩
      · refine ⟨x :: q, ?_, .cons spells before⟩
        cases lacks with
        | @long q => exact .long (q := x :: q)
        | @letter q => exact .letter (q := x :: q)
        | @group q _ filled => exact .group (q := x :: q) filled

/-- What is set is a length that fits. -/
theorem Spells.value_pos {awaited next : Option LengthOption} {x : String}
    {settings : List Setting} {l : LengthOption} {n : Nat}
    (spells : Spells awaited x settings next) (mem : Setting.length l n ∈ settings) :
    0 < n ∧ n ≤ Length.greatest := by
  cases spells with
  | value accepted | longValue accepted | groupValue _ accepted =>
      simp at mem
      obtain ⟨rfl, rfl⟩ := mem
      exact Length.ofText?_pos accepted
  | longFlag | longName | group | groupName => simp at mem

theorem Sets.value_pos {awaited next : Option LengthOption} {s : List String}
    {settings : List Setting} {l : LengthOption} {n : Nat}
    (sets : Sets awaited s settings next) (mem : Setting.length l n ∈ settings) :
    0 < n ∧ n ≤ Length.greatest := by
  induction sets with
  | nil => cases mem
  | cons spells _ ih =>
      rcases List.mem_append.1 mem with here | later
      · exact spells.value_pos here
      · exact ih later

/-- The length set last, or the one before. -/
theorem Sets.lastValue_pos {awaited next : Option LengthOption} {s : List String}
    {settings : List Setting} {n : Nat} (sets : Sets awaited s settings next) (l : LengthOption)
    (before : 0 < n ∧ n ≤ Length.greatest) :
    let last := (settings.filterMap (Setting.value? l)).getLast?.getD n
    0 < last ∧ last ≤ Length.greatest := by
  cases found : (settings.filterMap (Setting.value? l)).getLast? with
  | none => exact before
  | some m =>
      obtain ⟨setting, mem, gives⟩ := List.mem_filterMap.1 (List.mem_of_getLast? found)
      cases setting with
      | flag => cases gives
      | length k m' =>
          simp only [Setting.value?, Option.ite_none_right_eq_some, Option.some.injEq] at gives
          obtain ⟨rfl, rfl⟩ := gives
          exact sets.value_pos mem

/-! ## Two lists of arguments -/

/-- How reading `p` and `s` together comes from reading each of them. -/
structure Composes (p s : List String) : Prop where
  /-- Behind arguments that are accepted the others are read on top of their options. -/
  resumed : ∀ {o}, parse p = .ok o → parse (p ++ s) = parseFrom o s
  accepted_iff : ∀ {o}, parse p = .ok o →
    ((∃ both, parse (p ++ s) = .ok both) ↔ ∃ alone, parse s = .ok alone)
  /-- The others are refused as they are refused alone. -/
  refused_iff : ∀ {o e}, parse p = .ok o → (parse (p ++ s) = .error e ↔ parse s = .error e)
  /-- Of what the others set the last setting counts, and what they do not set stays. -/
  settled_iff : ∀ {o both}, parse p = .ok o →
    (parse (p ++ s) = .ok both ↔ ∃ settings, Sets none s settings none ∧ both = o.settled settings)
  /-- Arguments that are refused, but not for want of a value, are refused whatever follows. -/
  refused : ∀ {e}, parse p = .error e → (∀ l, e ≠ .missingValue l) → parse (p ++ s) = .error e
  /-- A missing value is supplied by the next argument, and it might as well stand behind `=`. -/
  supplied : ∀ {l}, parse p = .error (.missingValue l) →
    ∃ q o, l.Lacks p q ∧ parse q = .ok o ∧ ∀ v,
      parse (p ++ v :: s) = (o.setLength l v >>= (parseFrom · s)) ∧
        parse (p ++ v :: s) = parse (q ++ l.assigned v :: s)
  /-- Accepted lengths are positive and fit in 64 bits. -/
  within : ∀ {o}, parse p = .ok o →
    (0 < o.limits.line ∧ o.limits.line < 2 ^ 64) ∧ 0 < o.limits.token ∧ o.limits.token < 2 ^ 64

theorem lengths_of_parse {p : List String} {o : Options} (read : parse p = .ok o) :
    (0 < o.limits.line ∧ o.limits.line < 2 ^ 64) ∧
      0 < o.limits.token ∧ o.limits.token < 2 ^ 64 := by
  obtain ⟨settings, sets, rfl⟩ := parseFrom_eq_ok_iff.1 read
  have line := sets.lastValue_pos .line (n := 511) (by decide)
  have token := sets.lastValue_pos .token (n := 255) (by decide)
  simp only [Length.greatest] at line token
  simp only [settled]
  omega

theorem parse_append_of_ok {p : List String} {o : Options} (read : parse p = .ok o)
    (s : List String) : parse (p ++ s) = parseFrom o s := by
  obtain ⟨settings, sets, rfl⟩ := parseFrom_eq_ok_iff.1 read
  rw [← apply_eq_settled]
  exact parseFrom_append_of_sets sets {} s

end Options

open Options in
/-- Arguments are read from left to right: what stands in front hands over its options, its
refusal, or the option that still lacks its value. -/
theorem arguments_compose (p s : List String) : Composes p s := by
  refine ⟨fun read => parse_append_of_ok read s, ?_, ?_, ?_, ?_, ?_, lengths_of_parse⟩
  · intro o read
    rw [parse_append_of_ok read]
    show _ ↔ ∃ alone, parseFrom {} s = .ok alone
    simp only [parseFrom_eq_ok_iff]
    constructor
    · rintro ⟨_, settings, sets, rfl⟩
      exact ⟨_, settings, sets, rfl⟩
    · rintro ⟨_, settings, sets, rfl⟩
      exact ⟨_, settings, sets, rfl⟩
  · intro o e read
    rw [parse_append_of_ok read]
    exact parseFrom_eq_error_iff o {}
  · intro o both read
    rw [parse_append_of_ok read]
    exact parseFrom_eq_ok_iff
  · intro e read present
    exact parseFrom_append_of_refused (readAll_of_parseFrom_error read present) s
  · intro l read
    obtain ⟨settings, sets⟩ := sets_of_missingValue read
    rcases sets.lacks rfl with ⟨_, waits⟩ | ⟨q, lacks, before⟩
    · cases waits
    · refine ⟨q, _, lacks, parseFrom_of_sets before {}, fun v => ?_⟩
      have supplied := parseFrom_supplied sets {} v s
      refine ⟨supplied, ?_⟩
      show parseFrom {} (p ++ v :: s) = parseFrom {} (q ++ l.assigned v :: s)
      rw [supplied, parseFrom_append_of_sets before, parseFrom_assigned]

end JobShell
