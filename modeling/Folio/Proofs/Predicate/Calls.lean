import Folio.Predicate.Compile
import Folio.Proofs.Database.Run

/-!
# Folio.Proofs.Predicate.Calls

What the calls of built-in methods are compiled to.

`Context.Makes` lists all that these methods make of a call: which operands there are and what has become of
them. Every fragment that one of them has made is of these (`makes_of_builtIn`), so that what is said of
fragments is said by cases on it. Where the program has no translators of its own for a method
(`Compiler.BuiltIn`), there are equations for equality, for membership in constant lists, and for what is
contained in members, which are texts, lists, or nothing to look into.
-/

namespace Folio

open Folio.Predicate
open Folio.Statement (Fragment)

/-! ### What the methods make of calls -/

namespace Predicate

/-- What the methods of every store make of a call with these operands. -/
inductive Context.Makes (cx : Context) : String → Option Expr → List Expr → Fragment → Prop
  | like {method m l needle kind rest} (named : likeKind? method = some kind) (text : m.type = .text)
      (located : cx.locate m = .ok l) :
    Makes cx method (some (.member m)) (.value (.text needle) :: rest) (.like l.raw kind needle)
  | folded {m l s rest} (located : cx.locate m = .ok l) :
    Makes cx "equals" (some (.member m)) (.value (.text s) :: rest) (.equalFolded l.raw s)
  | missing {m l rest} (located : cx.locate m = .ok l) :
    Makes cx "equals" (some (.member m)) (.value .null :: rest) (.isNull l.raw)
  | equal {m l v p rest} (located : cx.locate m = .ok l) (param : l.toParam v = .ok p) :
    Makes cx "equals" (some (.member m)) (.value v :: rest) (.compare l.typed .eq p)
  | blank {method m l rest} (located : cx.locate m = .ok l) (whitespace : Bool) :
    Makes cx method none (.member m :: rest) (.nullOrBlank l.raw whitespace)
  | among {m l items params rest} (located : cx.locate m = .ok l)
      (converted : items.mapM l.toParam = .ok params) :
    Makes cx "contains" (some (.value (.list items))) (.member m :: rest) (.among l.typed params)
  | contained {m l path element v p rest} (located : cx.locate m = .ok l) (there : l.path = some path)
      (elements : l.element = some element) (param : element.toParam v = .ok p) :
    Makes cx "contains" (some (.member m)) (.value v :: rest)
      (.arrayContains path element.conversion p)

variable {cx : Context} {call : Call} {f : Fragment}

/-- The call's target and arguments as expressions. -/
def Context.MakesOf (cx : Context) (call : Call) (f : Fragment) : Prop :=
  cx.Makes call.method (call.target.map (·.expr)) (call.args.map (·.expr)) f

theorem Operand.eq_member {x : Operand} {l : Located} (h : x.member cx = .ok l) :
    ∃ m, x.expr = .member m ∧ cx.locate m = .ok l := by
  obtain ⟨expr, predicate⟩ := x
  cases expr with
  | member m => exact ⟨m, rfl, h⟩
  | _ => cases h

theorem Operand.eq_constant {x : Operand} {v : Value} (h : x.constant = .ok v) : x.expr = .value v := by
  obtain ⟨expr, predicate⟩ := x
  cases expr with
  | value w => exact congrArg Expr.value (Except.ok.inj h)
  | _ => cases h

theorem Call.eq_of_required {x? : Option Operand} {x : Operand} (h : call.required x? = .ok x) :
    x? = some x := by
  cases x? with
  | none => cases h
  | some y => exact congrArg some (Except.ok.inj h)

theorem Call.eq_of_firstArg {x : Operand} (h : call.firstArg = .ok x) :
    ∃ rest, call.args.map (·.expr) = x.expr :: rest := by
  obtain ⟨rest, args⟩ := List.head?_eq_some_iff.mp (eq_of_required h)
  exact ⟨rest.map (·.expr), congrArg (List.map _) args⟩

theorem Call.targetMember?_eq {e : Expr} (target : call.target.map (·.expr) = some e) :
    call.targetMember? = e.member? := by
  obtain ⟨x, there, rfl⟩ := Option.map_eq_some_iff.mp target
  rw [targetMember?, there]
  rfl

/-- A method that wants a member as its target and a constant as its first argument has got them. -/
theorem Call.on_member {k : Located → Value → Outcome Fragment}
    (h : (do
      let l ← (← call.required call.target).member cx
      let v ← (← call.firstArg).constant
      k l v) = .ok f) :
    ∃ m l v rest, call.target.map (·.expr) = some (.member m) ∧
      call.args.map (·.expr) = .value v :: rest ∧ cx.locate m = .ok l ∧ k l v = .ok f := by
  obtain ⟨x, required, h⟩ := Outcome.bind_eq_ok.mp h
  obtain ⟨l, located, h⟩ := Outcome.bind_eq_ok.mp h
  obtain ⟨y, first, h⟩ := Outcome.bind_eq_ok.mp h
  obtain ⟨v, constant, h⟩ := Outcome.bind_eq_ok.mp h
  obtain ⟨m, member, there⟩ := x.eq_member located
  obtain ⟨rest, args⟩ := eq_of_firstArg first
  rw [y.eq_constant constant] at args
  refine ⟨m, l, v, rest, ?_, args, there, h⟩
  rw [eq_of_required required, Option.map_some, member]

/-- So has one that wants a member as its first argument. -/
theorem Call.on_argument {k : Located → Outcome Fragment}
    (h : (do
      let l ← (← call.firstArg).member cx
      k l) = .ok f) :
    ∃ m l rest, call.args.map (·.expr) = .member m :: rest ∧ cx.locate m = .ok l ∧ k l = .ok f := by
  obtain ⟨x, first, h⟩ := Outcome.bind_eq_ok.mp h
  obtain ⟨l, located, h⟩ := Outcome.bind_eq_ok.mp h
  obtain ⟨m, member, there⟩ := x.eq_member located
  obtain ⟨rest, args⟩ := eq_of_firstArg first
  rw [member] at args
  exact ⟨m, l, rest, args, there, h⟩

theorem makes_of_textMatch (accepted : textMatch.accepts call = true)
    (translated : textMatch.translate cx call = .ok f) : cx.MakesOf call f := by
  obtain ⟨m, l, v, rest, target, args, located, translated⟩ := Call.on_member translated
  have text := (Bool.and_eq_true_iff.mp accepted).2
  rw [Call.targetMember?_eq target] at text
  rw [Context.MakesOf, target, args]
  split at translated
  next needle kind is named =>
    obtain rfl := Except.ok.inj translated
    cases v with
    | text s =>
      obtain rfl := Option.some.inj is
      exact .like named (of_decide_eq_true text) located
    | _ => cases is
  · cases translated

theorem makes_of_equals (accepted : equals.accepts call = true)
    (translated : equals.translate cx call = .ok f) : cx.MakesOf call f := by
  obtain ⟨m, l, v, rest, target, args, located, translated⟩ := Call.on_member translated
  have named : call.method = "equals" := of_decide_eq_true (Bool.and_eq_true_iff.mp accepted).1
  obtain ⟨folded, -, translated⟩ := Outcome.bind_eq_ok.mp translated
  rw [Context.MakesOf, named, target, args]
  split at translated
  · obtain rfl := Except.ok.inj translated
    exact .folded located
  · obtain rfl := Except.ok.inj translated
    exact .missing located
  · obtain ⟨p, param, translated⟩ := Outcome.bind_eq_ok.mp translated
    obtain rfl := Except.ok.inj translated
    exact .equal located param

theorem makes_of_nullOrBlank (accepted : nullOrBlank.accepts call = true)
    (translated : nullOrBlank.translate cx call = .ok f) : cx.MakesOf call f := by
  obtain ⟨m, l, rest, args, located, translated⟩ := Call.on_argument translated
  obtain rfl := Except.ok.inj translated
  have none : call.target = none := Option.isNone_iff_eq_none.mp (Bool.and_eq_true_iff.mp accepted).2
  rw [Context.MakesOf, none, args]
  exact .blank located _

theorem targetList?_eq_some {items : List Value} (h : targetList? call = some items) :
    call.target.map (·.expr) = some (.value (.list items)) := by
  unfold targetList? at h
  split at h
  next items' constant =>
    obtain rfl := Option.some.inj h
    obtain ⟨x, target, value⟩ := Option.bind_eq_some_iff.mp constant
    rw [target, Option.map_some]
    obtain ⟨expr, predicate⟩ := x
    cases expr with
    | value v => exact congrArg (some ∘ Expr.value) (Option.some.inj value)
    | _ => cases value
  · cases h

theorem makes_of_constantListContains (accepted : constantListContains.accepts call = true)
    (translated : constantListContains.translate cx call = .ok f) : cx.MakesOf call f := by
  obtain ⟨m, l, rest, args, located, translated⟩ := Call.on_argument translated
  obtain ⟨named, listed⟩ := Bool.and_eq_true_iff.mp accepted
  obtain ⟨items, constant⟩ := Option.isSome_iff_exists.mp listed
  rw [constant, Option.getD_some] at translated
  obtain ⟨params, converted, translated⟩ := Outcome.bind_eq_ok.mp translated
  obtain rfl := Except.ok.inj translated
  rw [Context.MakesOf, of_decide_eq_true named, targetList?_eq_some constant, args]
  exact .among located converted

theorem makes_of_storedListContains (accepted : storedListContains.accepts call = true)
    (translated : storedListContains.translate cx call = .ok f) : cx.MakesOf call f := by
  obtain ⟨m, l, v, rest, target, args, located, translated⟩ := Call.on_member translated
  have named : call.method = "contains" := of_decide_eq_true (Bool.and_eq_true_iff.mp accepted).1
  rw [Context.MakesOf, named, target, args]
  split at translated
  next path element there elements =>
    obtain ⟨p, param, translated⟩ := Outcome.bind_eq_ok.mp translated
    obtain rfl := Except.ok.inj translated
    exact .contained located there elements param
  · cases translated

/-- Whatever one of these methods makes is listed. -/
theorem makes_of_builtIn {t : Translator} (mem : t ∈ builtIn) (accepted : t.accepts call = true)
    (translated : t.translate cx call = .ok f) : cx.MakesOf call f := by
  simp only [builtIn, List.mem_cons, List.not_mem_nil, or_false] at mem
  rcases mem with rfl | rfl | rfl | rfl | rfl
  · exact makes_of_textMatch accepted translated
  · exact makes_of_equals accepted translated
  · exact makes_of_nullOrBlank accepted translated
  · exact makes_of_constantListContains accepted translated
  · exact makes_of_storedListContains accepted translated

end Predicate

/-! ### Equations -/

namespace Predicate.Compiler

variable {c : Compiler}

theorem map_targetOperand (c : Compiler) (target : Option Expr) :
    (c.targetOperand target).map (·.expr) = target := by
  cases target <;> rfl

theorem map_operands (c : Compiler) (args : List Expr) : (c.operands args).map (·.expr) = args := by
  induction args with
  | nil => rfl
  | cons e rest ih => exact congrArg (e :: ·) ih

/-- What an accepted call has been made into, if the program has no translators of its own. -/
theorem makes_of_compile (none : c.translators = []) {method : String} {target : Option Expr}
    {args : List Expr} {f : Fragment} (compiled : c.compile (.call method target args) = .ok f) :
    c.context.Makes method target args f := by
  rw [compile, none, List.nil_append, translateCall] at compiled
  split at compiled
  next t found =>
    have accepted := List.find?_some found
    have made := makes_of_builtIn (List.mem_of_find?_eq_some found) accepted compiled
    rw [Context.MakesOf, map_targetOperand, map_operands] at made
    exact made
  · cases compiled

/-- The program has no translators of its own for these methods. -/
def BuiltIn (c : Compiler) : Prop :=
  ∀ t ∈ c.translators, ∀ call : Call, call.method = "equals" ∨ call.method = "contains" →
    t.accepts call = false

/-- A call that the program does not translate is translated as everywhere. -/
theorem compile_untaken {method : String} {target : Option Expr} {args : List Expr}
    (own : ∀ t ∈ c.translators, t.accepts ⟨method, c.targetOperand target, c.operands args⟩ = false) :
    c.compile (.call method target args) =
      translateCall builtIn c.context ⟨method, c.targetOperand target, c.operands args⟩ := by
  have none : c.translators.find? (·.accepts ⟨method, c.targetOperand target, c.operands args⟩) =
      none := by
    rw [List.find?_eq_none]
    intro t mem
    rw [own t mem]
    exact Bool.false_ne_true
  rw [compile, translateCall, translateCall, List.find?_append, none, Option.none_or]

theorem compile_call (own : c.BuiltIn) {method : String} (known : method = "equals" ∨ method = "contains")
    (target : Option Expr) (args : List Expr) :
    c.compile (.call method target args) =
      translateCall builtIn c.context ⟨method, c.targetOperand target, c.operands args⟩ :=
  compile_untaken fun t mem => own t mem _ known

/-- Do the arguments of `equals` after the first one ask to disregard case? -/
def folds : List Expr → Outcome Bool
  | [] => .ok false
  | .value v :: _ => .ok (v.text? = some ignoreCase)
  | _ :: _ => unsupported .needsConstant

/-- What every store makes of `equals`. -/
theorem translate_equals (m : Member) (v : Value) (rest : List Expr) :
    translateCall builtIn c.context
        ⟨"equals", c.targetOperand (some (.member m)), c.operands (.value v :: rest)⟩ =
      (do
        let l ← c.locate m
        match v, ← folds rest with
        | .text s, true => return .equalFolded l.raw s
        | .null, _ => return .isNull l.raw
        | v, _ => return .compare l.typed .eq (← l.toParam v)) := by
  show Predicate.equals.translate c.context _ = _
  cases rest with
  | nil => rfl
  | cons e more => cases e <;> rfl

theorem compile_equals (own : c.BuiltIn) (m : Member) (v : Value) (rest : List Expr) :
    c.compile (.call "equals" (some (.member m)) (.value v :: rest)) =
      (do
        let l ← c.locate m
        match v, ← folds rest with
        | .text s, true => return .equalFolded l.raw s
        | .null, _ => return .isNull l.raw
        | v, _ => return .compare l.typed .eq (← l.toParam v)) :=
  (compile_call own (.inl rfl) _ _).trans (translate_equals m v rest)

theorem compile_among (own : c.BuiltIn) (m : Member) (items : List Value) (rest : List Expr) :
    c.compile (.call "contains" (some (.value (.list items))) (.member m :: rest)) =
      (do
        let l ← c.locate m
        return .among l.typed (← items.mapM l.toParam)) := by
  rw [compile_call own (.inr rfl)]
  rfl

/-- A text is looked for in the member as it is. -/
theorem compile_contains_text (own : c.BuiltIn) {m : Member} (text : m.type = .text) (v : Value)
    (rest : List Expr) :
    c.compile (.call "contains" (some (.member m)) (.value v :: rest)) =
      (do
        let l ← c.locate m
        match v.text? with
        | some needle => return .like l.raw .contains needle
        | none => unsupported (.needsText "contains")) := by
  obtain ⟨segments, type, nullable⟩ := m
  obtain rfl : type = .text := text
  rw [compile_call own (.inr rfl)]
  cases v <;> rfl

/-- A value is looked for among the elements of a list. -/
theorem compile_contains_list (own : c.BuiltIn) {m : Member} (list : m.type.isList = true) (v : Value)
    (rest : List Expr) :
    c.compile (.call "contains" (some (.member m)) (.value v :: rest)) =
      (do
        let l ← c.locate m
        match l.path, l.element with
        | some path, some element =>
          return .arrayContains path element.conversion (← element.toParam v)
        | _, _ => unsupported .needsArrayMember) := by
  obtain ⟨segments, type, nullable⟩ := m
  rw [compile_call own (.inr rfl)]
  cases type with
  | list item => rfl
  | _ => cases list

/-- There is nothing else to look into. -/
theorem compile_contains_other (own : c.BuiltIn) {m : Member} (text : m.type ≠ .text)
    (list : m.type.isList = false) (v : Value) (rest : List Expr) :
    ∃ f, c.compile (.call "contains" (some (.member m)) (.value v :: rest)) = .error f := by
  obtain ⟨segments, type, nullable⟩ := m
  rw [compile_call own (.inr rfl)]
  cases type with
  | text => exact absurd rfl text
  | list item => cases list
  | _ => exact ⟨_, rfl⟩

end Predicate.Compiler

end Folio
