import Folio.Proofs.Predicate.Calls
import Folio.Proofs.Predicate.Preserved
import Folio.Typed.Path

/-!
# Folio.Proofs.Predicate.Membership

Which rows the membership in a list of constants selects.

One might expect the rows that equality with one of the items selects. A comparison with the missing
value is compiled to a test for it, though, while the items of a list are bound as they are, and SQL
finds nothing equal to the missing value. So the two differ on a row without the member if the
missing value is among the items, and nowhere else (`Compiler.inList_iff`).
-/

namespace Folio

open Folio.Predicate
open Folio.Relational
open Folio.Sql (Dialect JsonPath)
open Folio.Statement (Conversion Fragment Locator)
open Folio.Typed (Path)

theorem Value.isNull_iff {v : Value} : v.isNull = true ↔ v = .null := by
  cases v <;> simp [Value.isNull]

/-! ### Disjunctions -/

namespace Relational

theorem either_eq_true {a b : Option Bool} :
    either a b = some true ↔ a = some true ∨ b = some true := by
  rcases a with _ | _ | _ <;> rcases b with _ | _ | _ <;> decide

/-- A disjunction of many is true if one of them is. -/
theorem foldr_either {α : Type} {f : α → Option Bool} {as : List α} :
    (as.map f).foldr either (some false) = some true ↔ ∃ a ∈ as, f a = some true := by
  induction as with
  | nil => simp
  | cons a rest ih => rw [List.map_cons, List.foldr_cons, either_eq_true, ih, List.exists_mem_cons_iff]

namespace Library

variable {L : Library} {d : Dialect} {row : String → Value}

/-- Documented behaviour of the databases of a dialect: nothing is read of a missing value, and to
SQLite its type is missing too, or `null`. -/
structure KeepsNull (L : Library) (d : Dialect) : Prop where
  cast_null : ∀ c, L.cast c .null = .null
  jsonType_null : d = .sqlite → ∀ path v, L.json path v = .null →
    L.jsonType path v = .null ∨ L.jsonType path v = .text "null"

/-- The row is selected by the condition for the fragment, wherever that stands in a command. -/
def Selects (L : Library) (d : Dialect) (row : String → Value) (f : Fragment) : Prop :=
  ∀ env before, env.column = row → (f.toCondition d before).2.toList <+: env.params →
    L.truth env (f.toCondition d before).1 = some true

theorem selects_iff {f : Fragment} : L.Selects d row f ↔ L.means d row f = some true := by
  constructor
  · intro selects
    have grown := List.prefix_refl (f.toCondition d #[]).2.toList
    have first := selects { rowEnv row with params := (f.toCondition d #[]).2.toList } #[] rfl grown
    rwa [truth_toCondition grown] at first
  · rintro means env before rfl grown
    rwa [truth_toCondition grown]

/-- What is found missing is not equal to anything. -/
theorem means_compare_missing {l : Locator} (missing : L.located d row l = .null) (op : Operator)
    (v : Value) : L.means d row (.compare l op v) = none := by
  rw [means, missing, L.compare_null]
  rfl

end Library

end Relational

namespace Predicate.Compiler

variable {c : Compiler} {L : Library} {row : String → Value} {l : Located}

/-! ### One item -/

/-- Texts are bound for booleans, and they are not what SQLite finds as the type of a missing value. -/
theorem equal_jsonType_of_missing {v w : Value} {type : ValueType} {t : Value}
    (found : t = .null ∨ t = .text "null") (param : Scalar.toParam ⟨type, .boolText⟩ v = .ok w) :
    L.equal t w ≠ some true := by
  rcases found with rfl | rfl
  · rw [Library.equal, L.compare_null]
    exact (Option.some_ne_none _).symm
  cases v with
  | null =>
    obtain rfl := Except.ok.inj param
    exact (Option.some_ne_none _).symm
  | bool b =>
    obtain rfl := Except.ok.inj param
    rw [Ne, L.equal_text]
    cases b <;> decide
  | _ => cases param

/-- Only booleans are read as the name of their type. -/
theorem conversion_ne_boolText {enums : EnumStorage} {type : ValueType} (other : type ≠ .bool) :
    (Scalar.ofType enums type).conversion ≠ .boolText := by
  cases type with
  | bool => exact absurd rfl other
  | enum => cases enums <;> nofun
  | _ => nofun

/-- Any other reading of a missing value is missing. -/
theorem located_of_missing (keeps : L.KeepsNull c.dialect) {path : JsonPath} {conversion : Conversion}
    (absent : L.json path (row Sql.dataColumn) = .null) (other : conversion ≠ .boolText) :
    L.located c.dialect row ⟨.json path, conversion⟩ = .null := by
  cases conversion with
  | none => cases c.dialect <;> exact absent
  | boolText => exact absurd rfl other
  | cast type =>
    have read : L.located c.dialect row ⟨.json path, .cast type⟩ =
        L.cast type (L.json path (row Sql.dataColumn)) := by
      cases c.dialect <;> rfl
    rw [read, absent, keeps.cast_null]

/-- A missing member is not found equal to any item. -/
theorem means_typed_of_missing (keeps : L.KeepsNull c.dialect) {m : Member}
    (located : c.locate m = .ok l) (missing : L.located c.dialect row l.raw = .null) {v w : Value}
    (param : l.toParam v = .ok w) : L.means c.dialect row (.compare l.typed .eq w) ≠ some true := by
  have unknown {l : Locator} {w : Value} (h : L.located c.dialect row l = .null) :
      L.means c.dialect row (.compare l .eq w) ≠ some true := by
    rw [Library.means_compare_missing h]
    nofun
  rcases locate_cases located with ⟨-, rfl⟩ | ⟨-, rfl⟩
  · exact unknown missing
  · have absent : L.json ⟨c.pathOf m⟩ (row Sql.dataColumn) = .null := by
      cases h : c.dialect <;> rw [h] at missing <;> exact missing
    by_cases bool : m.type = .bool
    · rw [bool] at param ⊢
      cases h : c.dialect with
      | mssql =>
        rw [h] at unknown
        exact unknown absent
      | sqlite =>
        rw [h] at keeps
        exact equal_jsonType_of_missing (keeps.jsonType_null rfl _ _ absent) param
    · exact unknown (located_of_missing keeps absent (conversion_ne_boolText bool))

/-- Equality with an item selects what the item itself does in a list. If it is the missing value,
it also selects what is missing. -/
theorem means_equal {p : Path} {v w : Value} {g : Fragment} (located : c.locate p.member = .ok l)
    (param : l.toParam v = .ok w) (compiled : c.compile (p.compare .eq (.value v)) = .ok g) :
    L.means c.dialect row g = some true ↔
      v = .null ∧ L.located c.dialect row l.raw = .null ∨
        L.means c.dialect row (.compare l.typed .eq w) = some true := by
  obtain ⟨l', same, compiled⟩ := Outcome.bind_eq_ok.mp compiled
  rw [located] at same
  obtain rfl := Except.ok.inj same
  cases present : v.isNull with
  | true =>
    obtain rfl := Value.isNull_iff.mp present
    obtain rfl := Except.ok.inj compiled
    obtain rfl := Except.ok.inj ((Scalar.toParam_null _).symm.trans param)
    rw [Library.means_compare_null, Library.means, Option.some.injEq, Value.isNull_iff]
    simp
  | false =>
    rw [present, if_neg Bool.false_ne_true] at compiled
    split at compiled
    · cases compiled
    · obtain ⟨w', param', compiled⟩ := Outcome.bind_eq_ok.mp compiled
      rw [param] at param'
      obtain rfl := Except.ok.inj param'
      obtain rfl := Except.ok.inj compiled
      have there : v ≠ .null := by rintro rfl; cases present
      simp only [there, false_and, false_or]

/-! ### Lists of items -/

/-- A list of constants is a constant. -/
theorem listExpr_values (items : List Value) :
    Typed.Path.listExpr (items.map .value) = .value (.list items) := by
  have constant : (items.map Expr.value).mapM Expr.value? = some items := by
    induction items with
    | nil => rfl
    | cons v rest ih => rw [List.map_cons, List.mapM_cons, ih]; rfl
  rw [Typed.Path.listExpr, constant]

/-- The call that asks for the membership of a member in a list. -/
def membership (c : Compiler) (p : Path) (items : List Value) : Call :=
  ⟨"contains", c.targetOperand (some (.value (.list items))), c.operands [p.expr]⟩

/-- The call is translated as everywhere, unless a translator of the program takes it over. -/
theorem compile_inList {p : Path} {items : List Value}
    (own : ∀ t ∈ c.translators, t.accepts (c.membership p items) = false) :
    c.compile (p.inList (items.map .value)) =
      (do
        let l ← c.locate p.member
        return .among l.typed (← items.mapM l.toParam)) := by
  rw [Path.inList, listExpr_values, compile_untaken own]
  rfl

/-- Equality with one of the items selects what their list does. If the missing value is among them,
it also selects what is missing. -/
theorem exists_means_equal {p : Path} (located : c.locate p.member = .ok l) {items ws : List Value}
    {gs : List Fragment} (bound : List.Forall₂ (fun v w => l.toParam v = .ok w) items ws)
    (compiled : List.Forall₂ (fun v g => c.compile (p.compare .eq (.value v)) = .ok g) items gs) :
    (∃ g ∈ gs, L.means c.dialect row g = some true) ↔
      .null ∈ items ∧ L.located c.dialect row l.raw = .null ∨
        ∃ w ∈ ws, L.means c.dialect row (.compare l.typed .eq w) = some true := by
  induction bound generalizing gs with
  | nil =>
    obtain _ | _ := compiled
    simp
  | cons param _ ih =>
    obtain _ | ⟨first, others⟩ := compiled
    rw [List.exists_mem_cons_iff, List.exists_mem_cons_iff, List.mem_cons, ih others,
      means_equal located param first]
    grind

/-- Membership in a list of constants selects the rows that equality with one of them selects, but
for a row without the member if the missing value is in the list. That row is not selected by the
membership in any list. -/
theorem inList_iff (keeps : L.KeepsNull c.dialect) {p : Path} {items : List Value}
    (own : ∀ t ∈ c.translators, t.accepts (c.membership p items) = false) {f isNull : Fragment}
    {equals : List Fragment} (contains : c.compile (p.inList (items.map .value)) = .ok f)
    (each : items.mapM (fun v => c.compile (p.compare .eq (.value v))) = .ok equals)
    (missing : c.compile p.isNull = .ok isNull) :
    ((L.Selects c.dialect row f ↔ ∃ g ∈ equals, L.Selects c.dialect row g) ↔
        ¬(.null ∈ items ∧ L.Selects c.dialect row isNull)) ∧
      (L.Selects c.dialect row isNull → ¬L.Selects c.dialect row f) := by
  rw [compile_inList own] at contains
  obtain ⟨l, located, contains⟩ := Outcome.bind_eq_ok.mp contains
  obtain ⟨ws, bound, contains⟩ := Outcome.bind_eq_ok.mp contains
  obtain rfl := Except.ok.inj contains
  obtain ⟨l', same, missing⟩ := Outcome.bind_eq_ok.mp missing
  rw [located] at same
  obtain rfl := Except.ok.inj same
  obtain rfl := Except.ok.inj missing
  have either : (∃ g ∈ equals, L.means c.dialect row g = some true) ↔ _ :=
    exists_means_equal located (Outcome.mapM_eq_ok.mp bound) (Outcome.mapM_eq_ok.mp each)
  have absent : L.means c.dialect row (.isNull l.raw) = some true ↔
      L.located c.dialect row l.raw = .null := by
    rw [Library.means, Option.some.injEq, Value.isNull_iff]
  have unequal (h : L.located c.dialect row l.raw = .null) :
      ¬∃ w ∈ ws, L.means c.dialect row (.compare l.typed .eq w) = some true := by
    rintro ⟨w, mem, equal⟩
    obtain ⟨v, -, param⟩ := Outcome.exists_of_mem_mapM bound mem
    exact means_typed_of_missing keeps located h param equal
  simp only [Library.selects_iff, Library.means_among, foldr_either, either, absent]
  grind

end Predicate.Compiler

/-! ### Orders that are active or have not been decided on -/

namespace Orders

theorem sqlite_keepsNull : sqlite.KeepsNull .sqlite where
  cast_null _ := rfl
  jsonType_null _ path v absent := by
    have found : ((v.text?.bind Json.read).bind fun j => scalar? .sqlite (j.at? path.names)).getD .null =
        .null := absent
    show ((v.text?.bind Json.read).bind fun j => typeName? (j.at? path.names)).getD .null = .null ∨
      ((v.text?.bind Json.read).bind fun j => typeName? (j.at? path.names)).getD .null = .text "null"
    cases read : v.text?.bind Json.read with
    | none => exact .inl rfl
    | some j =>
      rw [read, Option.bind_some] at found
      rw [Option.bind_some]
      -- of what is missing for SQLite, only an explicit null has a type
      cases there : j.at? path.names with
      | none => exact .inl rfl
      | some x =>
        rw [there] at found
        cases x with
        | null => exact .inr rfl
        | bool b => cases found
        | _ => exact .inl rfl

/-- The way to whether an order is active. -/
def activity : Path := ⟨active⟩

/-- An undecided order is active or undecided, but not in the list of the two. -/
theorem inList_iff_undecided :
    ∃ f equals,
      compiler.compile (activity.inList ([.bool true, .null].map .value)) = .ok f ∧
      [Value.bool true, .null].mapM (fun v => compiler.compile (activity.compare .eq (.value v))) =
        .ok equals ∧
      ¬(sqlite.Selects .sqlite undecided.get f ↔ ∃ g ∈ equals, sqlite.Selects .sqlite undecided.get g) := by
  have own : ∀ t ∈ compiler.translators,
      t.accepts (compiler.membership activity [.bool true, .null]) = false :=
    fun t mem => absurd mem List.not_mem_nil
  have absent : sqlite.json ⟨compiler.pathOf active⟩ (.text undecided.data) = .null :=
    sqlite_speaks.json undecided_reads (congrArg (scalar? .sqlite) active_missing)
  refine ⟨_, _, rfl, rfl, fun agree => ?_⟩
  refine (Compiler.inList_iff sqlite_keepsNull own rfl rfl rfl).1.mp agree ⟨?_, ?_⟩
  · exact List.mem_cons_of_mem _ List.mem_cons_self
  · refine Library.selects_iff.mpr ?_
    show some (sqlite.json ⟨compiler.pathOf active⟩ (.text undecided.data)).isNull = some true
    rw [absent]
    rfl

end Orders

end Folio
