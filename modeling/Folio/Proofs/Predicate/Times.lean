import Folio.Proofs.Predicate.Bound
import Folio.Proofs.Statement.Layout

/-!
# Folio.Proofs.Predicate.Times

Which compiled predicates compare a stored timestamp as it should be compared in SQLite, both sides in the
layout of `strftime`.

Comparisons, `equals` and membership in constant lists do. What does not is a timestamp that is looked for
among the elements of a stored list (`Expr.SeeksTime`): the elements are brought into the layout, and the
timestamp is bound as it is. Each translator is shown to make an uneven fragment of such calls only
(`Translator.UnevenlySeeks`), then every expression by induction on its connectives
(`Compiler.isUneven_iff`). So a stored timestamp compares equal with the same timestamp unless it is looked
for in this way, where it never does (`Compiler.levels_iff`).
-/

namespace Folio

open Folio.Predicate
open Folio.Relational
open Folio.Sql (Term)
open Folio.Statement
open Folio.Time (Timestamp)

/-! ### What is looked for -/

namespace Expr

/-- Does the call look for a timestamp among the elements of a stored list? -/
def callSeeksTime (method : String) (target : Option Expr) (args : List Expr) : Prop :=
  match target, args with
  | some (.member m), .value v :: _ =>
    method = "contains" ∧ m.type = .list .timestamp ∧ v.isNull = false
  | _, _ => False

/-- Is the expression such a call? -/
def SeeksTime : Expr → Prop
  | .call method target args => callSeeksTime method target args
  | _ => False

end Expr

namespace Predicate

variable {c : Compiler} {m : Member} {l : Located} {f : Fragment} {v p : Value}

/-! ### Members -/

/-- What is found as it is, is not converted. -/
theorem Compiler.raw_of_locate (h : c.locate m = .ok l) : l.raw.conversion = .none := by
  rcases Compiler.locate_cases h with ⟨-, rfl⟩ | ⟨-, rfl⟩ <;> rfl

theorem Compiler.element_eq_of_locate (h : c.locate m = .ok l) {element : Scalar}
    (there : l.element = some element) : element = .ofType c.options.enums element.type := by
  rcases Compiler.locate_cases h with ⟨-, rfl⟩ | ⟨-, rfl⟩
  · cases there
  · obtain ⟨segments, type, nullable⟩ := m
    cases type with
    | list item =>
      obtain rfl := Option.some.inj there
      rfl
    | _ => cases there

/-- Timestamps, and nothing else, are read in the layout. -/
theorem Scalar.conversion_eq_timestamp {enums : EnumStorage} {type : ValueType} :
    (Scalar.ofType enums type).conversion = .cast .timestamp ↔ type = .timestamp := by
  cases type <;> cases enums <;> first | exact ⟨fun _ => rfl, fun _ => rfl⟩ | exact ⟨nofun, nofun⟩

/-- The parameter for a timestamp is missing if the constant is. -/
theorem Scalar.isNull_of_timestamp {enums : EnumStorage}
    (param : (Scalar.ofType enums .timestamp).toParam v = .ok p) : p.isNull = v.isNull := by
  cases v with
  | null | timestamp t =>
    obtain rfl := Except.ok.inj param
    rfl
  | text s =>
    change (readTimestamp s).map Value.timestamp = .ok p at param
    cases read : readTimestamp s with
    | ok t =>
      rw [read] at param
      obtain rfl := Except.ok.inj param
      rfl
    | error failure =>
      rw [read] at param
      cases param
  | _ => cases param

/-! ### Predicates -/

/-- A method makes an uneven fragment of a call just if the call looks for a timestamp. -/
theorem Context.Makes.isUneven_iff {method : String} {target : Option Expr} {args : List Expr}
    (makes : c.context.Makes method target args f) :
    f.IsUneven ↔ Expr.callSeeksTime method target args := by
  cases makes with
  | like _ text located =>
    refine iff_of_false ?_ fun seeks => ?_
    · rw [Fragment.IsUneven, Compiler.raw_of_locate located]
      intro cast
      cases cast
    · have list := seeks.2.1
      rw [text] at list
      cases list
  | folded located =>
    refine iff_of_false ?_ fun seeks => absurd seeks.1 (by decide)
    rw [Fragment.IsUneven, Compiler.raw_of_locate located]
    intro cast
    cases cast
  | missing => exact iff_of_false id fun seeks => absurd seeks.1 (by decide)
  | equal => exact iff_of_false id fun seeks => absurd seeks.1 (by decide)
  | blank => exact Iff.rfl
  | among => exact iff_of_false (Fragment.not_isUneven_among _ _) id
  | contained located _ elements param =>
    have made := Compiler.element_eq_of_locate located elements
    rw [made] at param
    rw [Fragment.IsUneven, made, Scalar.conversion_eq_timestamp, Expr.callSeeksTime,
      Compiler.element_of_locate located elements, ValueType.list.injEq]
    constructor
    · rintro ⟨timestamp, present⟩
      rw [timestamp] at param
      exact ⟨rfl, timestamp, Scalar.isNull_of_timestamp param ▸ present⟩
    · rintro ⟨-, timestamp, present⟩
      rw [timestamp] at param
      exact ⟨timestamp, (Scalar.isNull_of_timestamp param).trans present⟩

namespace Compiler

theorem not_isUneven_of_boolMember {expected : Bool} (compiled : c.boolMember m expected = .ok f) :
    ¬f.IsUneven := by
  rw [boolMember] at compiled
  split at compiled
  · cases compiled
  · obtain ⟨l, located, compiled⟩ := Outcome.bind_eq_ok.mp compiled
    obtain ⟨p, param, compiled⟩ := Outcome.bind_eq_ok.mp compiled
    obtain rfl := Except.ok.inj compiled
    exact id

theorem not_isUneven_of_comparison {left right : Expr} {op : Operator}
    (compiled : c.comparison left op right = .ok f) : ¬f.IsUneven := by
  rw [comparison] at compiled
  split at compiled
  · cases compiled
  next m op v sides =>
    obtain ⟨l, located, compiled⟩ := Outcome.bind_eq_ok.mp compiled
    split at compiled
    · cases op with
      | eq | ne =>
        obtain rfl := Except.ok.inj compiled
        exact id
      | _ => cases compiled
    · split at compiled
      · cases compiled
      · obtain ⟨p, param, compiled⟩ := Outcome.bind_eq_ok.mp compiled
        obtain rfl := Except.ok.inj compiled
        exact id

/-- The fragment of a predicate is uneven just if a part of the predicate looks for a timestamp. -/
theorem isUneven_iff (builtIn : c.translators = []) {e : Expr} (compiled : c.compile e = .ok f) :
    f.IsUneven ↔ ∃ x ∈ e.atoms, x.SeeksTime := by
  refine compile_induction (motive := fun e f => f.IsUneven ↔ ∃ x ∈ e.atoms, x.SeeksTime)
    ?and ?or ?not ?member ?negated ?constant ?compare ?call compiled
  case and | or =>
    intro left right f g first second
    rw [Fragment.IsUneven, Expr.atoms, first, second]
    simp only [List.mem_append, or_and_right, exists_or]
  case not => exact fun inner => inner
  case member | negated =>
    intro m f compiled
    exact iff_of_false (not_isUneven_of_boolMember compiled) (by simp [Expr.atoms, Expr.SeeksTime])
  case constant =>
    intro v text
    exact iff_of_false id (by simp [Expr.atoms, Expr.SeeksTime])
  case compare =>
    intro left op right f compiled
    exact iff_of_false (not_isUneven_of_comparison compiled) (by simp [Expr.atoms, Expr.SeeksTime])
  case call =>
    intro method target args f compiled
    rw [(makes_of_compile builtIn compiled).isUneven_iff]
    simp only [Expr.atoms, List.mem_singleton, exists_eq_left, Expr.SeeksTime]

/-- In the condition for a predicate, as SQLite gets it, timestamps are compared in the layout on both sides,
unless a part of the predicate looks for one among the elements of a stored list. Accordingly, what is stored
for the same timestamp as the parameter's compares equal, wherever that is so, and else it does not. -/
theorem levels_iff (builtIn : c.translators = []) {e : Expr} (compiled : c.compile e = .ok f)
    {before : Array Value} {params : List Value}
    (grown : (f.toCondition .sqlite before).2.toList <+: params) :
    ((f.toCondition .sqlite before).1.Levels params ↔ ∀ x ∈ e.atoms, ¬x.SeeksTime) ∧
      ∀ L : Library, L.LaysOut → ∀ env : Env, env.params = params →
        ∀ p ∈ (f.toCondition .sqlite before).1.comparisons, ∀ inner n t s,
          p.1 = .cast .timestamp inner → p.2.parameter? = some n →
          params[n - 1]? = some (.timestamp t) → L.term env p.1 = .text s →
          L.cast .timestamp (.timestamp t) = .text s →
            (L.equal (L.term env p.1) (L.term env p.2) = some true ↔ Sql.Levelled params p) := by
  constructor
  · rw [levels_toCondition grown, isUneven_iff builtIn compiled]
    push Not
    rfl
  · rintro L laid env rfl p mem inner n t s left parameter bound stored same
    exact laid.equal_iff left (parameter_of_mem_comparisons mem parameter) bound stored same

end Compiler

end Predicate

/-! ### Orders with stamps -/

namespace Orders

/-- The moments at which an order was stamped. -/
def stamps : Member :=
  ⟨[.field "stamps"], .list .timestamp, false⟩

/-- Was it stamped at this moment? -/
def stampedAt (t : Timestamp) : Expr :=
  .call "contains" (some (.member stamps)) [.value (.timestamp t)]

/-- The layout of `strftime`, with thousandths of the second. -/
def layout (t : Timestamp) : String :=
  let s := t.secondOfDay
  String.ofList <|
    Timestamp.yearText t.date.year ++ '-' :: Timestamp.padded 2 t.date.month ++
    '-' :: Timestamp.padded 2 t.date.day ++ ' ' :: Timestamp.padded 2 (s / 3600) ++
    ':' :: Timestamp.padded 2 (s / 60 % 60) ++ ':' :: Timestamp.padded 2 (s % 60) ++
    '.' :: Timestamp.padded 3 (t.nanos / 1000000)

/-- SQLite with its time functions. -/
noncomputable def clocked : Library where
  __ := sqlite
  cast
    | .timestamp, .timestamp t => .text (layout t)
    | .timestamp, .text s => ((Timestamp.read s).map fun t => .text (layout t)).getD .null
    | .timestamp, _ => .null
    | _, v => v
  order
    | .text s, .timestamp t => some (exactly (s = t.sortable) (s < t.sortable))
    | v, w => mixedOrder v w

theorem clocked_laysOut : clocked.LaysOut where
  bound s t := by
    show some (Operator.eq.holds (exactly (decide (s = t.sortable)) (decide (s < t.sortable)))) = _
    by_cases same : s = t.sortable
    · rw [decide_eq_true same]
      rfl
    · rw [decide_eq_false same]
      cases decide (s < t.sortable) <;> rfl
  blank v s h := by
    have blank (t : Timestamp) : ' ' ∈ (layout t).toList := by simp [layout]
    cases v with
    | timestamp t =>
      obtain rfl := Value.text.inj h
      exact blank t
    | text s' =>
      change ((Timestamp.read s').map fun t => Value.text (layout t)).getD .null = .text s at h
      cases read : Timestamp.read s' with
      | none =>
        rw [read] at h
        cases h
      | some t =>
        rw [read] at h
        obtain rfl := Value.text.inj h
        exact blank t
    | _ => cases h

/-- An element of the stamps, at hand while a condition is tested. -/
def stamp : Env where
  column _ := .null
  columnOf _ _ := .null
  params := [.timestamp .epoch]
  element := (.text "1970-01-01T00:00:00Z", .text "text")

example : layout .epoch = "1970-01-01 00:00:00.000" := by cbv

/-- An order is stamped at the start of 1970, and is not found by that. -/
theorem levels_iff_stamped :
    ∃ f, compiler.compile (stampedAt .epoch) = .ok f ∧
      ¬(f.toCondition .sqlite #[]).1.Levels [.timestamp .epoch] ∧
      ∀ p ∈ (f.toCondition .sqlite #[]).1.comparisons,
        clocked.term stamp p.1 = .text (layout .epoch) ∧
          clocked.equal (clocked.term stamp p.1) (clocked.term stamp p.2) ≠ some true := by
  have read : Timestamp.read "1970-01-01T00:00:00Z" = some .epoch := by cbv
  have stored : clocked.term stamp (.cast .timestamp .element) = .text (layout .epoch) := by
    show ((Timestamp.read "1970-01-01T00:00:00Z").map fun t => Value.text (layout t)).getD .null = _
    rw [read]
    rfl
  obtain ⟨exact, equal⟩ := Predicate.Compiler.levels_iff (c := compiler) (e := stampedAt .epoch) rfl rfl
    (List.prefix_refl _)
  refine ⟨_, rfl, ?_, fun p mem => ?_⟩
  · intro levels
    exact exact.mp levels _ List.mem_cons_self ⟨rfl, rfl, rfl⟩
  · obtain rfl := List.mem_singleton.mp mem
    refine ⟨stored, fun same => ?_⟩
    have levelled := (equal clocked clocked_laysOut stamp rfl _ mem _ 1 .epoch _ rfl rfl rfl stored rfl).mp same
    cases levelled _ 1 _ rfl rfl rfl rfl

end Orders

end Folio
