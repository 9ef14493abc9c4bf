import Folio.Predicate.Extension
import Folio.Proofs.Predicate.Calls
import Folio.Proofs.Predicate.Preserved
import Folio.Proofs.Statement.Columns

/-!
# Folio.Proofs.Predicate.Columns

Compiled predicates locate nothing outside of the columns of every table.

Members are found in the identity's column or in the document. Translators make predicates of what they are
given, and those of every store add no columns to it (`Translator.Keeps`). So nothing else is located by a
predicate, however its calls are nested (`Compiler.compile_common`), as long as the translators of the program
keep to this too.
-/

namespace Folio.Predicate

open Folio.Statement (Fragment)

/-- The member is found in a column of every table. -/
structure Located.Common (l : Located) : Prop where
  raw : l.raw.Common
  typed : l.typed.Common

theorem Compiler.common_of_locate {c : Compiler} {m : Member} {l : Located} (h : c.locate m = .ok l) :
    l.Common := by
  have id : [Sql.idColumn] ⊆ Sql.insertColumns := by decide
  have data : [Sql.dataColumn] ⊆ Sql.insertColumns := by decide
  rcases Compiler.locate_cases h with ⟨-, rfl⟩ | ⟨-, rfl⟩
  · exact ⟨id, id⟩
  · exact ⟨data, data⟩

/-! ### Methods -/

/-- The target and the arguments of a call. -/
def Call.operands (call : Call) : List Operand :=
  call.target.toList ++ call.args

/-- The translator adds no columns: if the members of a call and its operands as predicates are found in columns
of every table, so is what it makes of the call. -/
def Translator.Keeps (t : Translator) : Prop :=
  ∀ (cx : Context) (call : Call) (f : Fragment), t.accepts call = true →
    (∀ m l, cx.locate m = .ok l → l.Common) → (∀ x ∈ call.operands, ∀ g, x.predicate = .ok g → g.Common) →
      t.translate cx call = .ok f → f.Common

theorem common_among {l : Located} (common : l.Common) (params : List Value) :
    (Fragment.among l.typed params).Common := by
  unfold Fragment.among
  split
  · exact List.nil_subset _
  · exact common.typed

/-- So do the methods of every store. -/
theorem Context.Makes.common {cx : Context} {method : String} {target : Option Expr} {args : List Expr}
    {f : Fragment} (members : ∀ m l, cx.locate m = .ok l → l.Common)
    (makes : cx.Makes method target args f) : f.Common := by
  cases makes with
  | like _ _ located | folded located | missing located | blank located _ =>
    exact (members _ _ located).raw
  | equal located _ => exact (members _ _ located).typed
  | among located _ => exact common_among (members _ _ located) _
  | contained =>
    show [Sql.dataColumn] ⊆ Sql.insertColumns
    decide

theorem builtIn_keeps {t : Translator} (mem : t ∈ builtIn) : t.Keeps :=
  fun _ _ _ accepted members _ translated => (makes_of_builtIn mem accepted translated).common members

/-- Alternatives are made of the operands alone. -/
theorem Extension.exceptWhen_keeps : Extension.exceptWhen.Keeps := by
  intro cx call f _ _ operands translated
  have arg {x : Operand} (mem : x ∈ call.args) := operands x (List.mem_append_right _ mem)
  unfold Extension.exceptWhen at translated
  dsimp only at translated
  split at translated
  · cases translated
  next p rest args =>
    rw [args] at arg
    obtain ⟨first, made, translated⟩ := Outcome.bind_eq_ok.mp translated
    have common := arg List.mem_cons_self first made
    cases rest with
    | nil =>
      obtain rfl := Except.ok.inj translated
      exact List.append_subset.mpr ⟨common, List.nil_subset _⟩
    | cons q _ =>
      obtain ⟨second, made', translated⟩ := Outcome.bind_eq_ok.mp translated
      obtain rfl := Except.ok.inj translated
      exact List.append_subset.mpr ⟨common, arg (List.mem_cons_of_mem _ List.mem_cons_self) second made'⟩

/-! ### Expressions -/

namespace Compiler

variable {c : Compiler}

theorem boolMember_common {m : Member} {expected : Bool} {f : Fragment}
    (compiled : c.boolMember m expected = .ok f) : f.Common := by
  unfold boolMember at compiled
  split at compiled
  · cases compiled
  · obtain ⟨l, located, compiled⟩ := Outcome.bind_eq_ok.mp compiled
    obtain ⟨p, -, compiled⟩ := Outcome.bind_eq_ok.mp compiled
    obtain rfl := Except.ok.inj compiled
    exact (common_of_locate located).typed

theorem comparison_common {left right : Expr} {written : Operator} {f : Fragment}
    (compiled : c.comparison left written right = .ok f) : f.Common := by
  unfold comparison at compiled
  split at compiled
  · cases compiled
  next m op v _ =>
    obtain ⟨l, located, compiled⟩ := Outcome.bind_eq_ok.mp compiled
    have common := common_of_locate located
    split at compiled
    · cases op with
      | eq | ne =>
        obtain rfl := Except.ok.inj compiled
        exact common.raw
      | _ => cases compiled
    · split at compiled
      · cases compiled
      · obtain ⟨p, -, compiled⟩ := Outcome.bind_eq_ok.mp compiled
        obtain rfl := Except.ok.inj compiled
        exact common.typed

mutual

/-- What is compiled locates nothing outside of the columns of every table. -/
theorem compile_common (keeps : ∀ t ∈ c.translators, t.Keeps) :
    ∀ (e : Expr) (f : Fragment), c.compile e = .ok f → f.Common
  | .and left right, f, compiled | .or left right, f, compiled => by
    rw [compile] at compiled
    obtain ⟨f₁, first, compiled⟩ := Outcome.bind_eq_ok.mp compiled
    obtain ⟨f₂, second, compiled⟩ := Outcome.bind_eq_ok.mp compiled
    obtain rfl := Except.ok.inj compiled
    exact List.append_subset.mpr ⟨compile_common keeps left f₁ first, compile_common keeps right f₂ second⟩
  | .not inner, f, compiled => by
    by_cases bare : ∃ m, inner = .member m
    · obtain ⟨m, rfl⟩ := bare
      exact boolMember_common compiled
    · rw [compile_not bare] at compiled
      obtain ⟨f', compiled', compiled⟩ := Outcome.bind_eq_ok.mp compiled
      obtain rfl := Except.ok.inj compiled
      exact compile_common keeps inner f' compiled'
  | .member m, f, compiled => boolMember_common compiled
  | .value v, f, compiled => by
    cases v with
    | bool b => cases b <;> obtain rfl := Except.ok.inj compiled <;> exact List.nil_subset _
    | _ => cases compiled
  | .compare left op right, f, compiled => comparison_common compiled
  | .call method target args, f, compiled => by
    have operands := operands_common keeps args
    have targeted := targetOperand_common keeps target
    rw [compile, translateCall] at compiled
    split at compiled
    next t found =>
      have kept : t.Keeps :=
        (List.mem_append.mp (List.mem_of_find?_eq_some found)).elim (keeps t) builtIn_keeps
      have accepted := List.find?_some found
      refine kept _ _ f accepted (fun m l => common_of_locate) (fun x mem => ?_) compiled
      exact (List.mem_append.mp mem).elim (fun mem => targeted x (Option.mem_toList.mp mem)) (operands x)
    · cases compiled

/-- Nor does the target of a call as a predicate. -/
theorem targetOperand_common (keeps : ∀ t ∈ c.translators, t.Keeps) :
    ∀ (target : Option Expr), ∀ x ∈ c.targetOperand target, ∀ f, x.predicate = .ok f → f.Common
  | none, _, mem, _, _ => nomatch mem
  | some e, x, mem, f, compiled => by
    obtain rfl := Option.some.inj mem
    exact compile_common keeps e f compiled

/-- Nor do its arguments. -/
theorem operands_common (keeps : ∀ t ∈ c.translators, t.Keeps) :
    ∀ (args : List Expr), ∀ x ∈ c.operands args, ∀ f, x.predicate = .ok f → f.Common
  | [], _, mem, _, _ => absurd mem List.not_mem_nil
  | e :: rest, x, mem, f, compiled => by
    rcases List.mem_cons.mp mem with rfl | mem
    · exact compile_common keeps e f compiled
    · exact operands_common keeps rest x mem f compiled

end

end Compiler

end Folio.Predicate
