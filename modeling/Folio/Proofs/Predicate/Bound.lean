import Folio.Proofs.Predicate.Calls
import Folio.Proofs.Predicate.Preserved

/-!
# Folio.Proofs.Predicate.Bound

Which compiled predicates bind a list.

Drivers bind scalars. A constant that is compared with a member is converted to the member's type first, and
only enumerations, objects and lists take lists (`ValueType.isList_of_cast`). Comparisons turn away members
that are objects or lists, and the methods do not. So a command has a list among its parameters exactly if a
list is compared in a predicate that is accepted (`Compiler.bindsList_iff`), with an enumeration in any way,
or with an object or a list in a method.

Whatever a translator makes of a call is shown to bind what the call compares (`Context.Makes.binds`), and
then every expression, by induction on its connectives (`Compiler.compile_induction`).
-/

namespace Folio

open Folio.Predicate
open Folio.Statement

/-! ### Conversions -/

/-- Is it a list? -/
def Value.isList : Value → Bool
  | .list _ => true
  | _ => false

namespace ValueType

/-- A list is taken by enumerations and objects as it comes, and by lists; nothing else becomes one. -/
def TakesLists : ValueType → Prop
  | .enum | .object | .list _ => True
  | _ => False

variable {t : ValueType} {v p : Value}

/-- Casts keep lists to be lists, and make none. -/
theorem isList_of_cast (h : t.cast v = .ok p) :
    p.isList = v.isList ∧ (v.isList = true → t.TakesLists) := by
  by_cases missing : v = .null
  · subst missing
    rw [cast_null] at h
    obtain rfl := Except.ok.inj h
    exact ⟨rfl, nofun⟩
  cases t with
  | enum | object =>
    obtain rfl : v = p := by cases v <;> exact Except.ok.inj h
    exact ⟨rfl, fun _ => trivial⟩
  | list item =>
    obtain ⟨items, casts, rfl, rfl, -⟩ := (cast_list_eq_ok missing).mp h
    exact ⟨rfl, fun _ => trivial⟩
  | _ =>
    obtain ⟨a, rfl⟩ := has_of_cast_scalar h missing nofun
    cases v with
    | list items => cases h
    | _ => exact ⟨rfl, nofun⟩

end ValueType

theorem Predicate.Scalar.isList_of_toParam {s : Scalar} {v p : Value} (h : s.toParam v = .ok p) :
    p.isList = v.isList ∧ (v.isList = true → s.type.TakesLists) := by
  obtain ⟨type, storage⟩ := s
  cases storage with
  | identity | plain =>
    cases v with
    | null =>
      obtain rfl := Except.ok.inj h
      exact ⟨rfl, nofun⟩
    | _ => exact ValueType.isList_of_cast h
  | boolText =>
    cases v with
    | null | bool b =>
      obtain rfl := Except.ok.inj h
      exact ⟨rfl, nofun⟩
    | _ => cases h
  | enumInteger | enumText =>
    cases v with
    | null | enum e =>
      obtain rfl := Except.ok.inj h
      exact ⟨rfl, nofun⟩
    | _ => exact ValueType.isList_of_cast h

/-! ### Parameters -/

namespace Statement

open Folio.Sql (Dialect)

/-- The values that a fragment binds, in order. -/
def Fragment.values (d : Dialect) : Fragment → List Value
  | .compare _ _ v | .arrayContains _ _ v => [v]
  | .and left right | .or left right => left.values d ++ right.values d
  | .not inner => inner.values d
  | .inList _ vs => vs
  | .like _ kind needle => [.text (likePattern d kind needle)]
  | .equalFolded _ text => [.text text]
  | .template parts => parts.flatMap fun
    | .param v => [v]
    | .text _ | .locator _ => []
  | .isNull _ | .isNotNull _ | .literal _ | .nullOrBlank .. => []

/-- Steps that each bind their values bind them one after the other. -/
theorem params_mapM {α β : Type} {f : α → Binding β} {values : α → List Value}
    (binds : ∀ a before, (f a before).2.toList = before.toList ++ values a) (as : List α)
    (before : Array Value) :
    (as.mapM f before).2.toList = before.toList ++ as.flatMap values := by
  induction as generalizing before with
  | nil => exact (List.append_nil _).symm
  | cons a rest ih =>
    rw [List.mapM_cons]
    show (rest.mapM f (f a before).2).2.toList = _
    rw [ih, binds, List.append_assoc, List.flatMap_cons]

theorem params_bindValue (v : Value) (before : Array Value) :
    (bindValue v before).2.toList = before.toList ++ [v] :=
  Array.toList_push

theorem params_bindOperand (d : Dialect) (l : Locator) (v : Value) (before : Array Value) :
    (bindOperand d l v before).2.toList = before.toList ++ [v] := by
  rw [← params_bindValue v before]
  show ((if _ then _ else _ : Binding Sql.Term) (bindValue v before).2).2.toList = _
  split <;> rfl

/-- The condition for a fragment binds the fragment's values. -/
theorem params_toCondition (d : Dialect) (f : Fragment) (before : Array Value) :
    (f.toCondition d before).2.toList = before.toList ++ f.values d := by
  induction f generalizing before with
  | compare l op v => exact params_bindOperand d l v before
  | and left right ihl ihr | or left right ihl ihr =>
    show (right.toCondition d (left.toCondition d before).2).2.toList = _
    rw [ihr, ihl, List.append_assoc]
    rfl
  | not inner ih => exact ih before
  | inList l vs =>
    cases vs with
    | nil => exact (List.append_nil _).symm
    | cons v vs =>
      show ((v :: vs).mapM (bindOperand d l) before).2.toList = _
      rw [params_mapM (params_bindOperand d l), List.flatMap_singleton']
      rfl
  | like l kind needle => exact params_bindValue _ before
  | equalFolded l text => exact params_bindValue _ before
  | arrayContains path c v => exact params_bindValue v before
  | template parts =>
    show (parts.mapM (TemplatePart.toPart d) before).2.toList = _
    refine params_mapM (fun part before => ?_) parts before
    cases part with
    | param v => exact params_bindValue v before
    | text s | locator l => exact (List.append_nil _).symm
  | isNull l | isNotNull l | literal text | nullOrBlank l whitespace =>
    exact (List.append_nil _).symm

/-- The command of a predicate by itself. -/
def Command.ofFragment (d : Dialect) (f : Fragment) : Command :=
  (Builder.appendFragment { dialect := d } f).build

theorem Command.params_ofFragment (d : Dialect) (f : Fragment) :
    (Command.ofFragment d f).params = f.values d :=
  params_toCondition d f #[]

end Statement

/-! ### What a predicate compares -/

/-- A stored scalar and a constant that it is compared with, as one value. -/
structure Comparand where
  /-- The type of the scalar. -/
  type : ValueType
  constant : Value
  /-- Is it a method that compares them? -/
  called : Bool

namespace Comparand

/-- Enumerations take any constant as it comes. Methods let objects and lists have one, too. -/
def TakesLists (x : Comparand) : Prop :=
  x.type = .enum ∨ x.called = true ∧ x.type.TakesLists

end Comparand

namespace Expr

/-- The predicates that connectives put together. -/
def atoms : Expr → List Expr
  | .and left right | .or left right => left.atoms ++ right.atoms
  | .not inner => inner.atoms
  | e => [e]

/-- What a call of a method compares: the target of `equals` with its argument, an argument of `contains` with
each item of a constant list, the elements of a stored list with the argument. -/
def comparandsOfCall (method : String) (target : Option Expr) (args : List Expr) : List Comparand :=
  match target, args with
  | some (.member m), .value v :: _ =>
    if method = "equals" then [⟨m.type, v, true⟩]
    else if method = "contains" then
      match m.type with
      | .list item => [⟨item, v, true⟩]
      | _ => []
    else []
  | some (.value (.list items)), .member m :: _ =>
    if method = "contains" then items.map (⟨m.type, ·, true⟩) else []
  | _, _ => []

/-- What a predicate without connectives compares. -/
def comparands : Expr → List Comparand
  | .compare (.member m) _ (.value v) | .compare (.value v) _ (.member m) => [⟨m.type, v, false⟩]
  | .call method target args => comparandsOfCall method target args
  | _ => []

end Expr

namespace Predicate

/-- The fragment binds a list if one is compared, and all those may be. -/
structure Binds (d : Sql.Dialect) (f : Fragment) (xs : List Comparand) : Prop where
  list_iff : (∃ v ∈ f.values d, v.isList = true) ↔ ∃ x ∈ xs, x.constant.isList = true
  takes : ∀ x ∈ xs, x.constant.isList = true → x.TakesLists

variable {d : Sql.Dialect} {f g : Fragment} {xs ys : List Comparand}

namespace Binds

/-- Where no list is bound or compared, there is nothing to show. -/
theorem of_flat (values : ∀ v ∈ f.values d, v.isList = false)
    (constants : ∀ x ∈ xs, x.constant.isList = false) : Binds d f xs := by
  refine ⟨⟨?_, ?_⟩, ?_⟩
  · rintro ⟨v, mem, list⟩
    rw [values v mem] at list
    cases list
  · rintro ⟨x, mem, list⟩
    rw [constants x mem] at list
    cases list
  · intro x mem list
    rw [constants x mem] at list
    cases list

theorem append (left : Binds d f xs) (right : Binds d g ys) {h : Fragment}
    (values : h.values d = f.values d ++ g.values d) : Binds d h (xs ++ ys) := by
  refine ⟨?_, fun x mem => (List.mem_append.mp mem).elim (left.takes x) (right.takes x)⟩
  rw [values]
  simp only [List.mem_append, or_and_right, exists_or]
  exact or_congr left.list_iff right.list_iff

/-- Each constant becomes one value, which is a list if the constant is. -/
theorem of_params (constants : List Value) {params : List Value} {type : ValueType} {called : Bool}
    (values : f.values d = params)
    (converted : List.Forall₂ (fun v p => p.isList = v.isList ∧
      (v.isList = true → (⟨type, v, called⟩ : Comparand).TakesLists)) constants params) :
    Binds d f (constants.map (⟨type, ·, called⟩)) := by
  refine ⟨?_, ?_⟩
  · rw [values]
    simp only [List.mem_map, exists_exists_and_eq_and]
    clear values
    induction converted with
    | nil => simp
    | cons first _ ih => simp only [List.mem_cons, exists_eq_or_imp, ih, first.1]
  · rw [List.forall_mem_map]
    clear values
    induction converted with
    | nil => exact fun _ mem => absurd mem List.not_mem_nil
    | cons first _ ih => exact List.forall_mem_cons.mpr ⟨first.2, ih⟩

end Binds

/-! ### Methods -/

variable {c : Compiler} {m : Member} {l : Located}

theorem Compiler.type_of_locate (h : c.locate m = .ok l) : l.scalar.type = m.type := by
  rcases Compiler.locate_cases h with ⟨-, rfl⟩ | ⟨-, rfl⟩ <;> rfl

/-- Only lists have elements. -/
theorem Compiler.element_of_locate (h : c.locate m = .ok l) {element : Scalar}
    (there : l.element = some element) : m.type = .list element.type := by
  rcases Compiler.locate_cases h with ⟨-, rfl⟩ | ⟨-, rfl⟩
  · cases there
  · obtain ⟨segments, type, nullable⟩ := m
    cases type with
    | list item =>
      obtain rfl := Option.some.inj there
      rfl
    | _ => cases there

/-- What a call compares. -/
def Call.comparands (call : Call) : List Comparand :=
  Expr.comparandsOfCall call.method (call.target.map (·.expr)) (call.args.map (·.expr))

/-- A fragment that such a translator makes of a call binds what the call compares. -/
def Translator.BindsComparands (t : Translator) : Prop :=
  ∀ (c : Compiler) (call : Call) (f : Fragment), t.accepts call = true →
    t.translate c.context call = .ok f → Binds c.dialect f call.comparands

/-- What becomes of one constant. -/
theorem Binds.of_param {v p : Value} {type : ValueType} (values : f.values d = [p])
    (converted : p.isList = v.isList ∧ (v.isList = true → type.TakesLists)) :
    Binds d f [⟨type, v, true⟩] :=
  .of_params [v] values (.cons ⟨converted.1, fun list => .inr ⟨rfl, converted.2 list⟩⟩ .nil)

/-- A method binds what it compares. -/
theorem Context.Makes.binds {method : String} {target : Option Expr} {args : List Expr}
    (makes : c.context.Makes method target args f) :
    Binds d f (Expr.comparandsOfCall method target args) := by
  cases makes with
  | @like _ m _ _ kind _ named text =>
    have other : method ≠ "equals" := by
      rintro rfl
      cases named
    refine .of_flat (by simp [Fragment.values, Value.isList]) ?_
    simp [Expr.comparandsOfCall, other, text]
  | folded =>
    exact .of_flat (by simp [Fragment.values, Value.isList]) (by simp [Expr.comparandsOfCall, Value.isList])
  | missing =>
    exact .of_flat (by simp [Fragment.values]) (by simp [Expr.comparandsOfCall, Value.isList])
  | equal located param =>
    have converted := Scalar.isList_of_toParam param
    rw [Compiler.type_of_locate located] at converted
    exact .of_param rfl converted
  | blank => exact .of_flat (by simp [Fragment.values]) fun _ mem => absurd mem List.not_mem_nil
  | @among m l items params _ located converted =>
    have values : (Fragment.among l.typed params).values d = params := by
      unfold Fragment.among
      cases params <;> rfl
    refine .of_params items values ((Outcome.mapM_eq_ok.mp converted).imp fun v p param => ?_)
    obtain ⟨same, takes⟩ := Scalar.isList_of_toParam param
    rw [Compiler.type_of_locate located] at takes
    exact ⟨same, fun list => .inr ⟨rfl, takes list⟩⟩
  | contained located _ elements param =>
    simp only [Expr.comparandsOfCall, Compiler.element_of_locate located elements]
    exact .of_param rfl (Scalar.isList_of_toParam param)

/-- So do all methods that every store understands. -/
theorem builtIn_binds {t : Translator} (mem : t ∈ builtIn) : t.BindsComparands :=
  fun _ _ _ accepted translated => (makes_of_builtIn mem accepted translated).binds

/-! ### Expressions -/

namespace Compiler

theorem call_binds (builtIn : c.translators = []) {method : String} {target : Option Expr}
    {args : List Expr} (compiled : c.compile (.call method target args) = .ok f) :
    Binds c.dialect f (Expr.comparandsOfCall method target args) := by
  rw [compile, builtIn, List.nil_append, translateCall] at compiled
  split at compiled
  next t found =>
    have accepted := List.find?_some found
    have bound := builtIn_binds (List.mem_of_find?_eq_some found) c _ f accepted compiled
    rw [Call.comparands, map_targetOperand, map_operands] at bound
    exact bound
  · cases compiled

theorem comparison_binds {left right : Expr} {written : Operator}
    (compiled : c.comparison left written right = .ok f) :
    Binds c.dialect f (Expr.comparands (.compare left written right)) := by
  rw [comparison] at compiled
  split at compiled
  · cases compiled
  next m op v sides =>
    have compared : Expr.comparands (.compare left written right) = [⟨m.type, v, false⟩] := by
      unfold sides? at sides
      split at sides
      · obtain ⟨⟩ := Option.some.inj sides
        rfl
      · obtain ⟨⟩ := Option.some.inj sides
        rfl
      · cases sides
    rw [compared]
    obtain ⟨l, there, compiled⟩ := Outcome.bind_eq_ok.mp compiled
    split at compiled
    next null =>
      have flat : v.isList = false := by
        cases v with
        | null => rfl
        | _ => cases null
      refine .of_flat ?_ (by simpa using flat)
      cases op with
      | eq | ne =>
        obtain rfl := Except.ok.inj compiled
        simp [Fragment.values]
      | _ => cases compiled
    · split at compiled
      · cases compiled
      next single =>
        obtain ⟨p, param, compiled⟩ := Outcome.bind_eq_ok.mp compiled
        obtain rfl := Except.ok.inj compiled
        obtain ⟨same, takes⟩ := Scalar.isList_of_toParam param
        refine .of_params [v] rfl (.cons ⟨same, fun list => .inl ?_⟩ .nil)
        -- of the types that take lists, those of several values are not compared
        have type : l.type = m.type := type_of_locate there
        rw [type] at single
        have taken := takes list
        rw [type_of_locate there] at taken
        revert single taken
        cases m.type <;> simp [isCollection, ValueType.TakesLists]

theorem boolMember_binds (expected : Bool) (compiled : c.boolMember m expected = .ok f) :
    Binds c.dialect f [] := by
  rw [boolMember] at compiled
  split at compiled
  · cases compiled
  · obtain ⟨l, there, compiled⟩ := Outcome.bind_eq_ok.mp compiled
    obtain ⟨p, param, compiled⟩ := Outcome.bind_eq_ok.mp compiled
    obtain rfl := Except.ok.inj compiled
    refine .of_flat ?_ (by simp)
    simpa [Fragment.values, Value.isList] using (Scalar.isList_of_toParam param).1

/-- What holds of comparisons, calls, members and constants with the fragments they are compiled to, and is
kept by the connectives, holds of every expression with its fragment. -/
theorem compile_induction {motive : Expr → Fragment → Prop}
    (and : ∀ {left right f g}, motive left f → motive right g → motive (.and left right) (.and f g))
    (or : ∀ {left right f g}, motive left f → motive right g → motive (.or left right) (.or f g))
    (not : ∀ {inner f}, motive inner f → motive (.not inner) (.not f))
    (member : ∀ {m f}, c.boolMember m true = .ok f → motive (.member m) f)
    (negated : ∀ {m f}, c.boolMember m false = .ok f → motive (.not (.member m)) f)
    (constant : ∀ {v text}, motive (.value v) (.literal text))
    (compare : ∀ {left op right f}, c.comparison left op right = .ok f →
      motive (.compare left op right) f)
    (call : ∀ {method target args f}, c.compile (.call method target args) = .ok f →
      motive (.call method target args) f)
    {e : Expr} (compiled : c.compile e = .ok f) : motive e f := by
  induction e using Expr.atoms.induct generalizing f with
  | case1 left right ihl ihr =>
    rw [compile] at compiled
    obtain ⟨f₁, first, compiled⟩ := Outcome.bind_eq_ok.mp compiled
    obtain ⟨f₂, second, compiled⟩ := Outcome.bind_eq_ok.mp compiled
    obtain rfl := Except.ok.inj compiled
    exact and (ihl first) (ihr second)
  | case2 left right ihl ihr =>
    rw [compile] at compiled
    obtain ⟨f₁, first, compiled⟩ := Outcome.bind_eq_ok.mp compiled
    obtain ⟨f₂, second, compiled⟩ := Outcome.bind_eq_ok.mp compiled
    obtain rfl := Except.ok.inj compiled
    exact or (ihl first) (ihr second)
  | case3 inner ih =>
    by_cases bare : ∃ m, inner = .member m
    -- a negated member is compared with `false`
    · obtain ⟨m, rfl⟩ := bare
      exact negated compiled
    · rw [compile_not bare] at compiled
      obtain ⟨f', compiled', made⟩ := Outcome.bind_eq_ok.mp compiled
      obtain rfl := Except.ok.inj made
      exact not (ih compiled')
  | case4 e noAnd noOr noNot =>
    cases e with
    | and left right => exact absurd rfl (noAnd left right)
    | or left right => exact absurd rfl (noOr left right)
    | not inner => exact absurd rfl (noNot inner)
    | member m => exact member compiled
    | value v =>
      cases v with
      | bool b => cases b <;> obtain rfl := Except.ok.inj compiled <;> exact constant
      | _ => cases compiled
    | compare left op right =>
      rw [compile] at compiled
      exact compare compiled
    | call method target args => exact call compiled

/-- What a compiled predicate binds is what it compares. -/
theorem compile_binds (builtIn : c.translators = []) {e : Expr} (compiled : c.compile e = .ok f) :
    Binds c.dialect f (e.atoms.flatMap Expr.comparands) := by
  refine compile_induction (motive := fun e f => Binds c.dialect f (e.atoms.flatMap Expr.comparands))
    ?and ?or ?not ?member ?negated ?constant ?compare ?call compiled
  case and | or =>
    intro left right f g first second
    rw [Expr.atoms, List.flatMap_append]
    exact first.append second rfl
  case not => exact fun inner => ⟨inner.list_iff, inner.takes⟩
  case member => exact boolMember_binds true
  case negated => exact boolMember_binds false
  case constant =>
    exact .of_flat (by simp [Fragment.values]) fun _ mem => absurd mem List.not_mem_nil
  case compare =>
    intro left op right f compared
    show Binds _ _ ([_].flatMap _)
    rw [List.flatMap_singleton]
    exact comparison_binds compared
  case call =>
    intro method target args f called
    show Binds _ _ ([_].flatMap _)
    rw [List.flatMap_singleton]
    exact call_binds builtIn called

/-- Without translators of its own, a store turns away every predicate with a list that cannot be bound as what
it is compared with. The commands of those that it accepts have a list among their parameters exactly if
there is one that is compared. -/
theorem bindsList_iff (builtIn : c.translators = []) (e : Expr) :
    ((∃ x ∈ e.atoms.flatMap Expr.comparands, x.constant.isList = true ∧ ¬x.TakesLists) →
      ∃ failure, c.compile e = .error failure) ∧
    ∀ f, c.compile e = .ok f →
      ((∃ v ∈ (Command.ofFragment c.dialect f).params, v.isList = true) ↔
        ∃ x ∈ e.atoms.flatMap Expr.comparands, x.constant.isList = true) := by
  refine ⟨?_, fun f compiled => ?_⟩
  · rintro ⟨x, mem, list, refused⟩
    cases compiled : c.compile e with
    | error failure => exact ⟨failure, rfl⟩
    | ok f => exact absurd ((compile_binds builtIn compiled).takes x mem list) refused
  · rw [Command.params_ofFragment]
    exact (compile_binds builtIn compiled).list_iff

end Compiler

end Predicate

namespace Orders

/-! ### Orders with tags -/

/-- The numbers that an order is tagged with. -/
def tags : Member :=
  ⟨[.field "tags"], .list .int32, false⟩

/-- Are they just these? -/
def taggedAs (numbers : List Int32) : Expr :=
  .call "equals" (some (.member tags)) [.value (.list (numbers.map .int32))]

/-- One whole list is bound where the tags of an order are looked for with `equals`. -/
theorem bindsList_iff_tagged :
    ∃ f, compiler.compile (taggedAs [1]) = .ok f ∧
      .list [.int32 1] ∈ (Command.ofFragment .sqlite f).params ∧
      ((∃ v ∈ (Command.ofFragment .sqlite f).params, v.isList = true) ↔
        ∃ x ∈ (taggedAs [1]).atoms.flatMap Expr.comparands, x.constant.isList = true) := by
  have compiled : ∃ f, compiler.compile (taggedAs [1]) = .ok f ∧
      f.values .sqlite = [.list [.int32 1]] := ⟨_, rfl, rfl⟩
  obtain ⟨f, accepted, values⟩ := compiled
  refine ⟨f, accepted, ?_, (Compiler.bindsList_iff rfl (taggedAs [1])).2 f accepted⟩
  rw [Command.params_ofFragment, values]
  exact List.mem_singleton_self _

end Orders

end Folio
