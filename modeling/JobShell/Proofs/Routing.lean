import JobShell.Log
import Mathlib.Data.List.Infix

/-!
# Records go to the scopes above their targets

A scope is compared with a target as text: either the target is the scope without its final `::`,
or it begins with the scope. What is meant are segments: the parts of the scope are the first parts
of the target. The two agree since no part of a scope has a colon in it, so the leftmost `::` of a
target that begins with a part is the one behind that part. An empty part, or one with a colon,
would be a different matter: `a:` closed by `::` is `a:::`, and the target `a:::b` has the parts
`a` and `:b`.

Results:
1. `splitColons_eq_cons_iff`: the first part of a target, and the parts of what is behind it.
2. `Scope.covers_iff`: a scope covers a target exactly if its parts are the first of it.
3. `records_routed`: to which loggers a record is delivered, and in which order.
-/

namespace JobShell.Log

open Logger (separator closeScope coversTarget)

/-! ## Segments -/

/-- The parts between the occurrences of `::`, which are found from the left. -/
def splitColons : List Char → List (List Char)
  | ':' :: ':' :: rest => [] :: splitColons rest
  | c :: rest => (splitColons rest).modifyHead (c :: ·)
  | [] => [[]]

/-- The segments of a target. -/
def segments (target : String) : List String := (splitColons target.toList).map String.ofList

example : segments "a:::b" = ["a", ":b"] := by decide

theorem splitColons_ne_nil (t : List Char) : splitColons t ≠ [] := by
  fun_induction splitColons t with
  | case1 rest ih => exact List.cons_ne_nil _ _
  | case2 c rest _ ih => simpa using ih
  | case3 => exact List.cons_ne_nil _ _

theorem intercalate_splitColons (t : List Char) : separator.intercalate (splitColons t) = t := by
  fun_induction splitColons t with
  | case1 rest ih =>
      obtain ⟨part, parts, split⟩ := List.exists_cons_of_ne_nil (splitColons_ne_nil rest)
      rw [split] at ih ⊢
      rw [List.intercalate_cons_cons, ih]
      rfl
  | case2 c rest _ ih =>
      obtain ⟨part, parts, split⟩ := List.exists_cons_of_ne_nil (splitColons_ne_nil rest)
      rw [split] at ih ⊢
      cases parts with
      | nil => simpa using ih
      | cons next parts => simpa using ih
  | case3 => rfl

variable {part t : List Char} {parts : List (List Char)}

theorem splitColons_cons {c : Char} (other : c ≠ ':') (t : List Char) :
    splitColons (c :: t) = (splitColons t).modifyHead (c :: ·) := by
  rw [splitColons]
  rintro rest rfl
  exact absurd rfl other

/-- A part without colons reaches up to the leftmost `::`. -/
theorem splitColons_append (solid : ':' ∉ part) (rest : List Char) :
    splitColons (part ++ separator ++ rest) = part :: splitColons rest := by
  induction part with
  | nil => rfl
  | cons c part ih =>
      rw [List.mem_cons, not_or] at solid
      rw [List.cons_append, List.cons_append, splitColons_cons (Ne.symm solid.1), ih solid.2]
      rfl

theorem splitColons_of_not_mem (solid : ':' ∉ part) : splitColons part = [part] := by
  induction part with
  | nil => rfl
  | cons c part ih =>
      rw [List.mem_cons, not_or] at solid
      rw [splitColons_cons (Ne.symm solid.1), ih solid.2]
      rfl

theorem splitColons_eq_cons_iff (solid : ':' ∉ part) :
    splitColons t = part :: parts ↔
      t = part ∧ parts = [] ∨ ∃ rest, t = part ++ separator ++ rest ∧ splitColons rest = parts := by
  constructor
  · intro split
    have whole := intercalate_splitColons t
    rw [split] at whole
    cases parts with
    | nil => exact .inl ⟨by simpa using whole.symm, rfl⟩
    | cons next parts =>
        rw [List.intercalate_cons_cons] at whole
        rw [← whole, splitColons_append solid] at split
        exact .inr ⟨_, whole.symm, (List.cons.inj split).2⟩
  · rintro (⟨rfl, rfl⟩ | ⟨rest, rfl, rfl⟩)
    · exact splitColons_of_not_mem solid
    · exact splitColons_append solid rest

/-- A target has certain first parts if it begins with them. -/
theorem cons_isPrefix_splitColons_iff (solid : ':' ∉ part) :
    part :: parts <+: splitColons t ↔ t = part ∧ parts = [] ∨
      ∃ rest, t = part ++ separator ++ rest ∧ parts <+: splitColons rest := by
  constructor
  · rintro ⟨more, split⟩
    rcases (splitColons_eq_cons_iff solid).1 split.symm with ⟨same, none⟩ | ⟨rest, same, below⟩
    · exact .inl ⟨same, (List.append_eq_nil_iff.1 none).1⟩
    · exact .inr ⟨rest, same, more, below.symm⟩
  · rintro (⟨rfl, rfl⟩ | ⟨rest, rfl, below⟩)
    · rw [splitColons_of_not_mem solid]
    · rw [splitColons_append solid]
      exact List.cons_prefix_cons.2 ⟨rfl, below⟩

/-- In terms of the text: the target is what the parts make up, or goes on behind it with `::`. -/
theorem isPrefix_splitColons_iff (filled : parts ≠ []) (solid : ∀ part ∈ parts, ':' ∉ part) :
    parts <+: splitColons t ↔
      t = separator.intercalate parts ∨ separator.intercalate parts ++ separator <+: t := by
  induction parts generalizing t with
  | nil => exact absurd rfl filled
  | cons part parts ih =>
      obtain ⟨here, below⟩ := List.forall_mem_cons.1 solid
      rw [cons_isPrefix_splitColons_iff here]
      cases parts with
      | nil =>
          rw [List.intercalate_singleton]
          constructor
          · rintro (⟨same, _⟩ | ⟨rest, same, _⟩)
            · exact .inl same
            · exact .inr ⟨rest, same.symm⟩
          · rintro (same | ⟨rest, same⟩)
            · exact .inl ⟨same, rfl⟩
            · exact .inr ⟨rest, same.symm, List.nil_prefix⟩
      | cons next parts =>
          have later (rest : List Char) := ih (t := rest) (List.cons_ne_nil _ _) below
          simp only [later, reduceCtorEq, and_false, false_or]
          rw [List.intercalate_cons_cons, List.append_assoc _ _ separator]
          constructor
          · rintro ⟨rest, rfl, rfl | behind⟩
            · exact .inl rfl
            · exact .inr ((List.prefix_append_right_inj _).2 behind)
          · rintro (rfl | ⟨more, rfl⟩)
            · exact ⟨_, rfl, .inl rfl⟩
            · exact ⟨_, List.append_assoc .., .inr (List.prefix_append _ _)⟩

/-- What is put together with something in between ends with its last part. -/
theorem exists_intercalate_eq (between : List Char) (filled : parts ≠ []) :
    ∃ last ∈ parts, ∃ front, between.intercalate parts = front ++ last := by
  induction parts with
  | nil => exact absurd rfl filled
  | cons part parts ih =>
      cases parts with
      | nil => exact ⟨part, List.mem_singleton_self _, [], List.intercalate_singleton⟩
      | cons next parts =>
          obtain ⟨last, mem, front, ends⟩ := ih (List.cons_ne_nil _ _)
          refine ⟨last, List.mem_cons_of_mem _ mem, part ++ between ++ front, ?_⟩
          rw [List.append_assoc _ front, ← ends]
          exact List.intercalate_cons_cons

/-! ## Scopes -/

/-- What a logger is registered for: segments with `::` between them and, if `closed`, behind
them. -/
structure Scope where
  parts : List String
  filled : parts ≠ []
  solid : ∀ part ∈ parts, part ≠ "" ∧ ':' ∉ part.toList
  closed : Bool

namespace Scope

/-- The scope without a final `::`. -/
def open_ (s : Scope) : String := "::".intercalate s.parts

def text (s : Scope) : String := s.open_ ++ if s.closed then "::" else ""

variable (s : Scope)

theorem toList_open_ : s.open_.toList = separator.intercalate (s.parts.map String.toList) :=
  String.toList_intercalate

theorem not_isSuffix_open_ : ¬separator <:+ s.open_.toList := by
  rintro ⟨front, closed⟩
  obtain ⟨last, mem, before, ends⟩ :=
    exists_intercalate_eq separator (mt List.map_eq_nil_iff.1 s.filled)
  obtain ⟨part, listed, rfl⟩ := List.mem_map.1 mem
  obtain ⟨filled, solid⟩ := s.solid part listed
  have colon : (before ++ part.toList).getLast? = some ':' := by
    rw [← ends, ← toList_open_, ← closed]
    simp [separator]
  rw [List.getLast?_append_of_ne_nil _ (by simpa using filled)] at colon
  exact solid (List.mem_of_getLast? colon)

/-- However it is written, a scope is closed once. -/
theorem closeScope_text : closeScope s.text.toList = s.open_.toList ++ separator := by
  have open_ : closeScope s.open_.toList = s.open_.toList ++ separator :=
    if_neg (mt List.isSuffixOf_iff_suffix.1 s.not_isSuffix_open_)
  unfold text
  split
  · rw [String.toList_append]
    exact if_pos (List.isSuffixOf_iff_suffix.2 (List.suffix_append _ _))
  · rw [String.append_empty, open_]

/-- The logger does not depend on whether the scope is closed. -/
theorem create_closed (closed : Bool) (style : LineStyle) (room : Option Nat) :
    Logger.create { s with closed }.text style room = Logger.create s.text style room := by
  unfold Logger.create
  rw [closeScope_text, closeScope_text]
  rfl

/-- The scope's parts are the first parts of a target that is the scope or lies below it. -/
theorem isPrefix_segments_iff (target : String) : s.parts <+: segments target ↔
    target.toList = s.open_.toList ∨ s.open_.toList ++ separator <+: target.toList := by
  have texts : (segments target).map String.toList = splitColons target.toList := by
    simp [segments, Function.comp_def]
  have filled : s.parts.map String.toList ≠ [] := by simpa using s.filled
  have solid : ∀ part ∈ s.parts.map String.toList, ':' ∉ part := by
    intro _ mem
    obtain ⟨part, listed, rfl⟩ := List.mem_map.1 mem
    exact (s.solid part listed).2
  rw [toList_open_, ← isPrefix_splitColons_iff filled solid, ← texts,
    List.prefix_map_iff_of_injective fun _ _ => String.toList_injective]

theorem covers_iff (style : LineStyle) (room : Option Nat) (target : String) :
    (Logger.create s.text style room).covers target = true ↔ s.parts <+: segments target := by
  have front : (s.open_.toList ++ separator).dropLast.dropLast = s.open_.toList := by
    simp [separator]
  rw [isPrefix_segments_iff, Logger.covers, Logger.create, closeScope_text, coversTarget, front,
    Bool.or_eq_true, beq_iff_eq, List.isPrefixOf_iff_prefix]

end Scope

/-! ## Registrations -/

/-- What a logger is registered with. -/
structure Registration where
  scope : Scope
  style : LineStyle
  room : Option Nat

def Registration.logger (e : Registration) : Logger := .create e.scope.text e.style e.room

/-- The router with a logger for each registration. -/
def Router.of (l : List Registration) : Router :=
  l.foldl (fun router e => router.register e.logger) []

theorem Router.foldl_register (l : List Registration) (router : Router) :
    l.foldl (fun router e => router.register e.logger) router =
      router ++ l.map Registration.logger := by
  induction l generalizing router with
  | nil => exact (List.append_nil _).symm
  | cons e l ih => rw [List.foldl_cons, ih, register, List.append_assoc]; rfl

theorem Router.of_eq_map (l : List Registration) : Router.of l = l.map Registration.logger :=
  foldl_register l []

theorem mem_recipients_of_iff {l : List Registration} {target : String} {i : Nat} :
    i ∈ (Router.of l).recipients target ↔
      ∃ e, l[i]? = some e ∧ e.scope.parts <+: segments target := by
  simp [Router.mem_recipients_iff, Router.of_eq_map, Registration.logger, Scope.covers_iff]

/-- What becomes of a record in the router of `l`. -/
structure Routed (l : List Registration) (r : Record) : Prop where
  /-- It is delivered where the scope's parts are the first segments of its target. -/
  delivered : ∀ d : Delivery, d ∈ ((Router.of l).dispatch r).2 ↔
    d.record = r ∧ ∃ e, l[d.place]? = some e ∧ e.scope.parts <+: segments r.target
  /-- The deliveries are made in the order of registration, and to each logger one at most. -/
  order : (((Router.of l).dispatch r).2.map (·.place)).Pairwise (· < ·)
  written : ∀ (i : Nat) (e : Registration), l[i]? = some e → ((Router.of l).log r)[i]? =
    some (if e.scope.parts <+: segments r.target then e.logger.write r else e.logger)
  /-- Nothing but the target matters for that, and so a record's level does not. -/
  unfiltered : ∀ other : Record, other.target = r.target →
    ((Router.of l).dispatch other).2.map (·.place) = ((Router.of l).dispatch r).2.map (·.place)
  /-- A target that goes on behind a scope with anything but `::` lies elsewhere. -/
  continued : ∀ (i : Nat) (e : Registration) (more : String), l[i]? = some e →
    r.target = e.scope.open_ ++ more → more ≠ "" → ¬separator <+: more.toList →
      ∀ d ∈ ((Router.of l).dispatch r).2, d.place ≠ i

theorem mem_dispatch_of_iff {l : List Registration} {r : Record} {d : Delivery} :
    d ∈ ((Router.of l).dispatch r).2 ↔
      d.record = r ∧ ∃ e, l[d.place]? = some e ∧ e.scope.parts <+: segments r.target := by
  rw [Router.deliveries_dispatch, List.mem_map]
  constructor
  · rintro ⟨i, mem, rfl⟩
    exact ⟨rfl, mem_recipients_of_iff.1 mem⟩
  · rintro ⟨rfl, covers⟩
    exact ⟨d.place, mem_recipients_of_iff.2 covers, rfl⟩

theorem map_place_dispatch (router : Router) (r : Record) :
    (router.dispatch r).2.map (·.place) = router.recipients r.target := by
  rw [Router.deliveries_dispatch, List.map_map]
  exact List.map_id _

theorem routed (l : List Registration) (r : Record) : Routed l r := by
  refine ⟨fun d => mem_dispatch_of_iff, ?_, ?_, ?_, ?_⟩
  · rw [map_place_dispatch]
    exact Router.pairwise_recipients _ _
  · intro i e at_
    rw [Router.log_eq_map, Router.of_eq_map, List.getElem?_map, List.getElem?_map, at_]
    simp [Registration.logger, Scope.covers_iff]
  · intro other same
    rw [map_place_dispatch, map_place_dispatch, same]
  · rintro i e more at_ target goesOn other d mem rfl
    obtain ⟨_, _, same, covers⟩ := mem_dispatch_of_iff.1 mem
    cases at_.symm.trans same
    rw [Scope.isPrefix_segments_iff, target, String.toList_append] at covers
    rcases covers with same | below
    · exact goesOn (String.toList_eq_nil_iff.1 (List.append_right_eq_self.1 same))
    · exact other ((List.prefix_append_right_inj _).1 below)

/-- A closed scope has two bytes for `::` at its end. -/
theorem slice_closeScope (text : List Char) :
    let scope := Bytes.ofText (String.ofList (closeScope text))
    2 ≤ scope.length ∧ scope.take (scope.length - 2) =
      Bytes.ofText (String.ofList (closeScope text).dropLast.dropLast) := by
  obtain ⟨front, closed⟩ : separator <:+ closeScope text := by
    unfold closeScope
    split
    · next closed => exact List.isSuffixOf_iff_suffix.1 closed
    · exact List.suffix_append _ _
  have colons : Bytes.ofText (String.ofList separator) = [58, 58] := by decide
  have rest : (front ++ separator).dropLast.dropLast = front := by simp [separator]
  rw [← closed, rest, String.ofList_append, Bytes.ofText_append, colons]
  simp

/-- A record goes to the loggers whose scopes are made of the first segments of its target, to each
once and in their order. Whether a scope is closed does not matter, and what the target is compared
with is always there. -/
theorem records_routed (l : List Registration) (r : Record) :
    Routed l r ∧
      (∀ (s : Scope) closed style room,
        Logger.create { s with closed }.text style room = Logger.create s.text style room) ∧
      ∀ (text : String) style room,
        let scope := (Logger.create text style room).scope
        let bytes := Bytes.ofText (String.ofList scope)
        2 ≤ bytes.length ∧
          bytes.take (bytes.length - 2) = Bytes.ofText (String.ofList scope.dropLast.dropLast) :=
  ⟨routed l r, Scope.create_closed, fun text _ _ => slice_closeScope text.toList⟩

end JobShell.Log
