import Folio.Predicate.Extension
import Folio.Proofs.Predicate.Bound
import Folio.Proofs.Predicate.Calls

/-!
# Folio.Proofs.Predicate.Equality

`m.equals(v)` and `m = v` are one predicate in two spellings, and each has a way of its own to a fragment:
the method is translated (`compile_called`), the comparison is taken apart (`compile_equated`). Both test
for the missing value, and both compare with the parameter that the member makes of the constant. The
comparison turns whole lists and objects away before it asks for that parameter. The method does not, so a
constant that such a member takes (`TakesWhole`) is where the two differ, and the only place
(`spellings_agree_iff`).
-/

namespace Folio

open Folio.Predicate
open Folio.Statement (Fragment)

theorem Outcome.toOption_eq_some {α : Type} {x : Outcome α} {a : α} :
    x.toOption = some a ↔ x = .ok a := by
  cases x with
  | error failure => exact ⟨nofun, nofun⟩
  | ok b => exact ⟨fun same => congrArg _ (Option.some.inj same), fun same => congrArg _ same⟩

namespace Predicate

/-- The parameter for a whole list or object is the constant cast to its type. -/
theorem Located.toParam_collection {c : Compiler} {m : Member} {l : Located} (located : c.locate m = .ok l)
    (whole : Compiler.isCollection m.type = true) (v : Value) : l.toParam v = m.type.cast v := by
  obtain ⟨segments, type, nullable⟩ := m
  rcases Compiler.locate_cases located with ⟨-, rfl⟩ | ⟨-, rfl⟩
  · cases type <;> cases v <;> rfl
  · cases type with
    | list item => cases c.options.enums <;> cases v <;> rfl
    | object => cases c.options.enums <;> cases v <;> rfl
    | _ => cases whole

end Predicate

namespace Expr

/-- Equality as a method of the member, further arguments included. -/
def called (m : Member) (v : Value) (rest : List Expr) : Expr :=
  .call "equals" (some (.member m)) (.value v :: rest)

/-- Equality as a comparison. -/
def equated (m : Member) (v : Value) : Expr :=
  .compare (.member m) .eq (.value v)

end Expr

namespace Predicate.Compiler

variable {c : Compiler} {m : Member} {v : Value} {rest : List Expr}

/-- The program has no translator of its own for this call of `equals`. -/
def EqualsUntaken (c : Compiler) (m : Member) (v : Value) (rest : List Expr) : Prop :=
  ∀ t ∈ c.translators,
    t.accepts ⟨"equals", c.targetOperand (some (.member m)), c.operands (.value v :: rest)⟩ = false

/-- The method compares unless the constant is missing. -/
theorem compile_called (own : c.EqualsUntaken m v rest) (exact : folds rest = .ok false) :
    c.compile (.called m v rest) =
      (do
        let l ← c.locate m
        if v.isNull then return .isNull l.raw
        else return .compare l.typed .eq (← l.toParam v)) := by
  rw [Expr.called, compile_untaken own, translate_equals, exact]
  cases v <;> rfl

/-- The comparison does so for members that are one value. -/
theorem compile_equated :
    c.compile (.equated m v) =
      (do
        let l ← c.locate m
        if v.isNull then return .isNull l.raw
        else if isCollection l.type then unsupported .wholeCollection
        else return .compare l.typed .eq (← l.toParam v)) := by
  rw [Expr.equated, compile]
  rfl

/-- A member that is nowhere fails both for the same reason. -/
theorem compile_spellings_lost (own : c.EqualsUntaken m v rest) (exact : folds rest = .ok false)
    {failure : Failure} (lost : c.locate m = .error failure) :
    c.compile (.called m v rest) = c.compile (.equated m v) := by
  rw [compile_called own exact, compile_equated, lost]
  rfl

/-- A member that is one value, or a constant that is missing: both go the same way. -/
theorem compile_spellings_single (own : c.EqualsUntaken m v rest) (exact : folds rest = .ok false)
    (single : isCollection m.type = false ∨ v.isNull = true) :
    c.compile (.called m v rest) = c.compile (.equated m v) := by
  cases located : c.locate m with
  | error failure => exact compile_spellings_lost own exact located
  | ok l =>
    rw [compile_called own exact, compile_equated, located]
    show (if _ then _ else _) = (if _ then _ else _)
    rcases single with simple | missing
    · have plain : isCollection l.type = false := by
        rw [Located.type, type_of_locate located, simple]
      rw [plain, if_neg Bool.false_ne_true]
    · rw [if_pos missing, if_pos missing]

/-- A whole list or object: the comparison is refused, and the method asks whether the constant is one. -/
theorem compile_spellings_whole (own : c.EqualsUntaken m v rest) (exact : folds rest = .ok false)
    {l : Located} (located : c.locate m = .ok l) (whole : isCollection m.type = true)
    (present : v.isNull = false) :
    c.compile (.called m v rest) = (m.type.cast v).map (.compare l.typed .eq) ∧
      c.compile (.equated m v) = unsupported .wholeCollection := by
  have absent : ¬v.isNull = true := Bool.eq_false_iff.mp present
  constructor
  · rw [compile_called own exact, located]
    show (if _ then _ else _) = _
    rw [if_neg absent, Located.toParam_collection located whole]
    cases m.type.cast v <;> rfl
  · have collection : isCollection l.type = true := by
      rw [Located.type, type_of_locate located, whole]
    rw [compile_equated, located]
    show (if _ then _ else _) = _
    rw [if_neg absent, if_pos collection]

/-- The member is a whole list or object, and the constant, which is not missing, is one of its type. -/
structure TakesWhole (c : Compiler) (m : Member) (v : Value) : Prop where
  located : ∃ l, c.locate m = .ok l
  collection : isCollection m.type = true
  present : v.isNull = false
  cast : ∃ p, m.type.cast v = .ok p

/-- Such a constant is compared with by the one spelling only. -/
theorem TakesWhole.apart (takes : c.TakesWhole m v) (own : c.EqualsUntaken m v rest)
    (exact : folds rest = .ok false) :
    ∃ l p, c.locate m = .ok l ∧ m.type.cast v = .ok p ∧
      c.compile (.called m v rest) = .ok (.compare l.typed .eq p) ∧
      c.compile (.equated m v) = unsupported .wholeCollection := by
  obtain ⟨⟨l, located⟩, whole, present, p, cast⟩ := takes
  obtain ⟨called, refused⟩ := compile_spellings_whole own exact located whole present
  rw [cast] at called
  exact ⟨l, p, located, cast, called, refused⟩

/-- Any other is compared with by both or by none. -/
theorem toOption_spellings (takes : ¬c.TakesWhole m v) (own : c.EqualsUntaken m v rest)
    (exact : folds rest = .ok false) :
    (c.compile (.called m v rest)).toOption = (c.compile (.equated m v)).toOption := by
  by_cases single : isCollection m.type = false ∨ v.isNull = true
  · exact congrArg _ (compile_spellings_single own exact single)
  obtain ⟨collection, absent⟩ := not_or.mp single
  have whole : isCollection m.type = true := Bool.not_eq_false _ ▸ collection
  have present : v.isNull = false := Bool.eq_false_iff.mpr absent
  cases located : c.locate m with
  | error failure => exact congrArg _ (compile_spellings_lost own exact located)
  | ok l =>
    obtain ⟨called, refused⟩ := compile_spellings_whole own exact located whole present
    rw [called, refused]
    cases cast : m.type.cast v with
    | error failure => rfl
    | ok p => exact absurd ⟨⟨l, located⟩, whole, present, p, cast⟩ takes

/-- The two spellings of equality agree, on whether there is a fragment and on which, unless the constant is
a whole list or object that the member takes: the method compares with all of it, and the comparison is
refused. Whatever the comparison accepts, the method accepts as the same fragment. -/
theorem spellings_agree_iff (own : c.EqualsUntaken m v rest) (exact : folds rest = .ok false) :
    ((c.compile (.called m v rest)).toOption = (c.compile (.equated m v)).toOption ↔
        ¬c.TakesWhole m v) ∧
      (c.TakesWhole m v → ∃ l p, c.locate m = .ok l ∧ m.type.cast v = .ok p ∧
        c.compile (.called m v rest) = .ok (.compare l.typed .eq p) ∧
        c.compile (.equated m v) = unsupported .wholeCollection) ∧
      ∀ f, c.compile (.equated m v) = .ok f → c.compile (.called m v rest) = .ok f := by
  refine ⟨⟨fun same takes => ?_, fun takes => toOption_spellings takes own exact⟩,
    fun takes => takes.apart own exact, fun f equated => ?_⟩
  · obtain ⟨l, p, -, -, called, refused⟩ := takes.apart own exact
    rw [called, refused] at same
    cases same
  · have takes : ¬c.TakesWhole m v := by
      intro takes
      obtain ⟨l, p, -, -, -, refused⟩ := takes.apart own exact
      rw [refused] at equated
      cases equated
    have same := toOption_spellings takes own exact
    rw [equated] at same
    exact Outcome.toOption_eq_some.mp same

end Predicate.Compiler

namespace Orders

/-! ### Orders with tags, by either spelling -/

/-- A store that has ranges as a method of its own. -/
def ranging : Compiler :=
  { compiler with translators := [Extension.between] }

/-- The tags of an order are a whole list: one spelling compares with them, the other is refused. -/
theorem spellings_agree_iff_tagged :
    (∃ l, ranging.compile (.called tags (.list [.int32 1]) []) =
      .ok (.compare l .eq (.list [.int32 1]))) ∧
      ranging.compile (.equated tags (.list [.int32 1])) = unsupported .wholeCollection ∧
      (ranging.compile (.called tags (.list [.int32 1]) [])).toOption ≠
        (ranging.compile (.equated tags (.list [.int32 1]))).toOption ∧
      (ranging.compile (.called active (.bool true) [])).toOption =
        (ranging.compile (.equated active (.bool true))).toOption := by
  have own (m : Member) (v : Value) : ranging.EqualsUntaken m v [] := by
    intro t mem
    rw [List.mem_singleton.mp mem]
    rfl
  have takes : ranging.TakesWhole tags (.list [.int32 1]) := ⟨⟨_, rfl⟩, rfl, rfl, _, rfl⟩
  obtain ⟨agree, apart, -⟩ := Compiler.spellings_agree_iff (own tags (.list [.int32 1])) rfl
  obtain ⟨l, p, -, cast, called, refused⟩ := apart takes
  obtain rfl := Except.ok.inj cast
  refine ⟨⟨l.typed, called⟩, refused, fun same => agree.mp same takes, ?_⟩
  refine (Compiler.spellings_agree_iff (own active (.bool true)) rfl).1.mpr fun takes => ?_
  cases takes.collection

end Orders

end Folio
