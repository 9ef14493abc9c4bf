import Folio.Proofs.Statement.Binding

/-!
# Folio.Proofs.Statement.Meaning

What a fragment means on a row. A fragment becomes a condition in which the values that it compares
with are parameters, and which parameter a value is depends on what was bound before it.
`Library.means` says what the fragment means without any of that, and `Library.truth_toCondition`
that its condition means the same wherever it stands in a command.
-/

namespace Folio.Relational

open Folio.Sql
open Folio.Statement

namespace Library

variable (L : Library)

/-- The names in a condition without parameters. -/
def rowEnv (row : String → Value) : Env where
  column := row
  columnOf _ := row
  params := []

/-- What a locator finds in a row. -/
def located (d : Dialect) (row : String → Value) (l : Locator) : Value :=
  L.term (rowEnv row) (l.toTerm d)

/-- The form in which a value is compared with what a locator finds. -/
def operand (d : Dialect) (l : Locator) (v : Value) : Value :=
  if d = .sqlite && l.conversion = .cast .timestamp && !v.isNull then L.cast .timestamp v else v

/-- A part of a fragment in free form. -/
def templatePart (d : Dialect) (row : String → Value) : TemplatePart → String ⊕ Value
  | .text s => .inl s
  | .locator l => .inr (L.located d row l)
  | .param v => .inr v

/-- An element of an array, as it is read. -/
def element (d : Dialect) (row : String → Value) (c : Conversion) (x : Value × Value) : Value :=
  L.term { rowEnv row with element := x } (elementTerm d c)

/-- The truth of a fragment on a row. -/
def means (d : Dialect) (row : String → Value) : Fragment → Option Bool
  | .compare l op v => (L.compare (L.located d row l) (L.operand d l v)).map op.holds
  | .isNull l => some (L.located d row l).isNull
  | .isNotNull l => some !(L.located d row l).isNull
  | .and left right => both (means d row left) (means d row right)
  | .or left right => either (means d row left) (means d row right)
  | .not inner => (means d row inner).map (!·)
  | .literal text => L.truth (rowEnv row) (.literal text)
  | .inList l values =>
    (values.map fun v => L.equal (L.located d row l) (L.operand d l v)).foldr either (some false)
  | .like l kind needle => L.like (L.located d row l) (.text (likePattern d kind needle))
  | .equalFolded l text => L.equalFolded (L.located d row l) (.text text)
  | .nullOrBlank l whitespace =>
    either (some (L.located d row l).isNull)
      (L.truth (rowEnv row) (blankCondition d (l.toTerm d) whitespace))
  | .arrayContains path c v =>
    some <| (L.elements path (row dataColumn)).any fun x => L.equal (L.element d row c x) v = some true
  | .template parts => L.free (parts.map (L.templatePart d row)) row

/-! ### Terms -/

variable {L} {d : Dialect} {env : Env}

theorem term_toTerm (l : Locator) : L.term env (l.toTerm d) = L.located d env.column l := by
  obtain ⟨place, c⟩ := l
  cases d <;> cases c <;> cases place <;> rfl

theorem term_elementTerm (c : Conversion) (x : Value × Value) :
    L.term { env with element := x } (elementTerm d c) = L.element d env.column c x := by
  cases d <;> cases c <;> rfl

theorem truth_blankCondition (l : Locator) (whitespace : Bool) :
    L.truth env (blankCondition d (l.toTerm d) whitespace) =
      L.truth (rowEnv env.column) (blankCondition d (l.toTerm d) whitespace) := by
  cases whitespace <;> cases d <;> simp only [blankCondition, truth, term, term_toTerm] <;> rfl

/-- A value that was bound is found by its parameter. -/
theorem term_bindValue {v : Value} {before : Array Value}
    (grown : (bindValue v before).2.toList <+: env.params) :
    L.term env (bindValue v before).1 = v := by
  obtain ⟨more, params⟩ := grown
  have there : env.params[before.size]? = some v := by
    rw [← params, bindValue]
    simp
  show (env.params[before.size + 1 - 1]?).getD .null = v
  rw [Nat.add_sub_cancel, there]
  rfl

theorem term_bindOperand {l : Locator} {v : Value} {before : Array Value}
    (grown : (bindOperand d l v before).2.toList <+: env.params) :
    L.term env (bindOperand d l v before).1 = L.operand d l v := by
  by_cases timestamp : (d = .sqlite && l.conversion = .cast .timestamp && !v.isNull) = true
  · have bound : bindOperand d l v before =
        (.cast .timestamp (bindValue v before).1, (bindValue v before).2) := by
      show (if _ then _ else _ : Binding Term) (bindValue v before).2 = _
      rw [if_pos timestamp]
      rfl
    rw [bound] at grown ⊢
    rw [term, term_bindValue grown, operand, if_pos timestamp]
  · have bound : bindOperand d l v before = bindValue v before := by
      show (if _ then _ else _ : Binding Term) (bindValue v before).2 = _
      rw [if_neg timestamp]
      rfl
    rw [bound] at grown ⊢
    rw [term_bindValue grown, operand, if_neg timestamp]

theorem part_toPart (part : TemplatePart) {before : Array Value}
    (grown : (part.toPart d before).2.toList <+: env.params) :
    L.part env (part.toPart d before).1 = L.templatePart d env.column part := by
  cases part with
  | text s => rfl
  | locator l => exact congrArg Sum.inr (term_toTerm l)
  | param v => exact congrArg Sum.inr (term_bindValue grown)

/-- Bound one after the other, values are each found in their place. -/
theorem mapM_bound {α β γ : Type} {f : α → Binding β} (read : β → γ) (value : α → γ)
    (grows : ∀ a, Grows (f a))
    (found : ∀ a before, (f a before).2.toList <+: env.params → read (f a before).1 = value a)
    {as : List α} {before : Array Value}
    (grown : (as.mapM f before).2.toList <+: env.params) :
    (as.mapM f before).1.map read = as.map value := by
  induction as generalizing before with
  | nil => rfl
  | cons a rest ih =>
    rw [List.mapM_cons] at grown ⊢
    have later : (rest.mapM f (f a before).2).2.toList <+: env.params := grown
    have first := ((Grows.mapM grows rest) (f a before).2).trans later
    show read (f a before).1 :: (rest.mapM f (f a before).2).1.map read = _
    rw [found a before first, ih later]
    rfl

/-- The condition for a fragment means what the fragment means, wherever it stands. -/
theorem truth_toCondition {f : Fragment} {before : Array Value}
    (grown : (f.toCondition d before).2.toList <+: env.params) :
    L.truth env (f.toCondition d before).1 = L.means d env.column f := by
  induction f generalizing before with
  | compare l op v =>
    show (L.compare (L.term env (l.toTerm d)) (L.term env (bindOperand d l v before).1)).map op.holds = _
    rw [term_toTerm, term_bindOperand grown]
    rfl
  | isNull l =>
    show some (L.term env (l.toTerm d)).isNull = _
    rw [term_toTerm]
    rfl
  | isNotNull l =>
    show some (!(L.term env (l.toTerm d)).isNull) = _
    rw [term_toTerm]
    rfl
  | and left right ihl ihr =>
    have last : (right.toCondition d (left.toCondition d before).2).2.toList <+: env.params := grown
    have first := (Grows.toCondition d right _).trans last
    exact congrArg₂ both (ihl first) (ihr last)
  | or left right ihl ihr =>
    have last : (right.toCondition d (left.toCondition d before).2).2.toList <+: env.params := grown
    have first := (Grows.toCondition d right _).trans last
    exact congrArg₂ either (ihl first) (ihr last)
  | not inner ih => exact congrArg (Option.map (!·)) (ih grown)
  | literal text => rfl
  | inList l values =>
    cases values with
    | nil => exact if_neg (by decide)
    | cons v vs =>
      have last : ((v :: vs).mapM (bindOperand d l) before).2.toList <+: env.params := grown
      have items := mapM_bound (L.term env) (L.operand d l) (Grows.bindOperand d l)
        (fun _ _ => term_bindOperand) last
      show ((((v :: vs).mapM (bindOperand d l) before).1.map fun item =>
        L.equal (L.term env (l.toTerm d)) (L.term env item)).foldr either (some false)) = _
      have compared := congrArg (List.map (L.equal (L.located d env.column l))) items
      rw [List.map_map, List.map_map] at compared
      rw [term_toTerm]
      exact congrArg (List.foldr either (some false)) compared
  | like l kind needle =>
    show L.like (L.term env (l.toTerm d))
      (L.term env (bindValue (.text (likePattern d kind needle)) before).1) = _
    rw [term_toTerm, term_bindValue grown]
    rfl
  | equalFolded l text =>
    show L.equalFolded (L.term env (l.toTerm d)) (L.term env (bindValue (.text text) before).1) = _
    rw [term_toTerm, term_bindValue grown]
    rfl
  | nullOrBlank l whitespace =>
    show either (some (L.term env (l.toTerm d)).isNull) _ = _
    rw [term_toTerm, truth_blankCondition]
    rfl
  | arrayContains path c v =>
    show some ((L.elements path (env.column dataColumn)).any fun x =>
      L.equal (L.term { env with element := x } (elementTerm d c))
        (L.term { env with element := x } (bindValue v before).1) = some true) = _
    have bound (x : Value × Value) :
        L.term { env with element := x } (bindValue v before).1 = v := term_bindValue grown
    simp only [term_elementTerm, bound]
    rfl
  | template parts =>
    have last : (parts.mapM (TemplatePart.toPart d) before).2.toList <+: env.params := grown
    have bound := mapM_bound (L.part env) (L.templatePart d env.column) (Grows.toPart d)
      (fun part _ => part_toPart part) last
    show L.free ((parts.mapM (TemplatePart.toPart d) before).1.map (L.part env)) env.column = _
    rw [bound]
    rfl

/-! ### Comparisons -/

section

variable {row : String → Value}

theorem means_compare_null (l : Locator) (op : Operator) :
    L.means d row (.compare l op .null) = none := by
  have none (v : Value) : L.compare v .null = none := by cases v <;> rfl
  rw [means, operand, if_neg (by simp [Value.isNull]), none]
  rfl

/-- Membership in a list is equality with one of its items. -/
theorem means_among (l : Locator) (vs : List Value) :
    L.means d row (.among l vs) =
      (vs.map fun v => L.means d row (.compare l .eq v)).foldr either (some false) := by
  cases vs <;> rfl

end

end Library

end Folio.Relational
