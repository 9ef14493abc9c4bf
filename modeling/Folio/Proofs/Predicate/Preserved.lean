import Folio.Proofs.Predicate.Compared
import Folio.Proofs.Session.Call

/-!
# Folio.Proofs.Predicate.Preserved

Compiling a predicate preserves what it means, as far as its dialect lets it.

`Compiler.kleene` says what an expression means on a document: comparisons are made with the values
of members, and unknown where a member is missing. The condition that the expression is compiled to
has the same truth on the document's row, but for members that are `Blurred`
(`Compiler.preserves_iff`).
-/

namespace Folio

open Folio.Sql (Dialect JsonPath)
open Folio.Predicate
open Folio.Relational
open Folio.Statement (Fragment)

/-- Predicates over such members: connectives, constants, boolean members, comparisons of a member
and a constant in either order, and any calls. -/
inductive Expr.Over (M : Member → Prop) : Expr → Prop
  | and {left right : Expr} : Over M left → Over M right → Over M (.and left right)
  | or {left right : Expr} : Over M left → Over M right → Over M (.or left right)
  | not {inner : Expr} : Over M inner → Over M (.not inner)
  | constant (b : Bool) : Over M (.value (.bool b))
  | member {m : Member} : M m → Over M (.member m)
  | compare {m : Member} (op : Operator) (v : Value) : M m → Over M (.compare (.member m) op (.value v))
  | turned {m : Member} (op : Operator) (v : Value) : M m → Over M (.compare (.value v) op (.member m))
  | call (method : String) (target : Option Expr) (args : List Expr) : Over M (.call method target args)

theorem Expr.Over.member_inv {M : Member → Prop} {m : Member} (h : Expr.Over M (.member m)) : M m := by
  cases h with
  | member named => exact named

namespace Predicate.Compiler

variable (c : Compiler)

/-- The names on the way to a member, as they are stored. -/
def pathOf (m : Member) : List String :=
  ((fieldNames m.segments).toOption.getD []).map c.options.casing.apply

/-- Is it the member that is kept in a column of its own? -/
def isIdentity (m : Member) : Bool :=
  (fieldNames m.segments).toOption = some [c.mapping.idMember]

/-- The value of a member in the document of a row, unless it is missing. -/
def value? (r : Record) (j : Json) (m : Member) : Option Value :=
  if c.isIdentity m then m.type.ofId r.id else (j.at? (c.pathOf m)).bind m.type.ofJson

/-- The member is missing, or its value is of its type. -/
structure Fits (r : Record) (j : Json) (m : Member) : Prop where
  simple : m.type.IsSimple c.options.enums
  identity : c.isIdentity m = true → (m.type.ofId r.id).isSome
  document : c.isIdentity m = false →
    ∀ x, j.at? (c.pathOf m) = some x → x ≠ .null → (m.type.ofJson x).isSome

/-- The member is found in the document, and not as what it is. -/
def IsBlurred (j : Json) (m : Member) : Prop :=
  ∃ l path, c.locate m = .ok l ∧ l.path = some path ∧
    Blurred c.dialect m.type (j.at? path.names)

/-! ### Meaning -/

variable (L : Library)

/-- A comparison of two values, unknown if one of them is missing. -/
def compared (op : Operator) (v w : Option Value) : Option Bool :=
  (v.bind fun v => w.bind fun w => L.between v w).map op.holds

/-- A comparison with the missing value, which tests for it. -/
def testedNull (op : Operator) (v : Option Value) : Option Bool :=
  match op with
  | .eq => some v.isNone
  | .ne => some v.isSome
  | _ => none

/-- What a predicate means on the document of a row. A call means what it was translated to. -/
def kleene (r : Record) (j : Json) : Expr → Option Bool
  | .and left right => both (kleene r j left) (kleene r j right)
  | .or left right => either (kleene r j left) (kleene r j right)
  | .not inner => (kleene r j inner).map (!·)
  | .value (.bool b) => some b
  | .value _ => none
  | .member m =>
    match c.value? r j m with
    | some (.bool b) => some b
    | _ => none
  | .compare (.member m) op (.value v) =>
    if v.isNull then testedNull op (c.value? r j m)
    else compared L op (c.value? r j m) (m.type.constant v)
  | .compare (.value v) op (.member m) =>
    if v.isNull then testedNull op (c.value? r j m)
    else compared L op (m.type.constant v) (c.value? r j m)
  | .compare .. => none
  | .call method target args =>
    match c.compile (.call method target args) with
    | .ok f => L.means c.dialect r.get f
    | .error _ => none

end Predicate.Compiler

/-! ### Members -/

namespace Predicate.Compiler

variable {c : Compiler} {L : Library} {r : Record} {j : Json} {m : Member} {l : Located}

/-- A negation is compiled as one, unless it is that of a member. -/
theorem compile_not {inner : Expr} (bare : ¬∃ m, inner = .member m) :
    c.compile (.not inner) = (return .not (← c.compile inner)) := by
  cases inner with
  | member m => exact absurd ⟨m, rfl⟩ bare
  | _ => rfl

/-- A member is located in the column of the identity, or at its path in the document. -/
theorem locate_cases (h : c.locate m = .ok l) :
    (c.isIdentity m = true ∧ l = Located.identity m.type) ∨
      (c.isIdentity m = false ∧ l = Located.inDocument c.options.enums ⟨c.pathOf m⟩ m.type) := by
  obtain ⟨names, named, h⟩ := Outcome.bind_eq_ok.mp h
  have known : (fieldNames m.segments).toOption = some names := by
    rw [named]
    rfl
  split at h
  · cases h
  · split at h
    next identity =>
      left
      refine ⟨?_, (Except.ok.inj h).symm⟩
      rw [isIdentity, known, identity]
      exact decide_eq_true rfl
    next other =>
      right
      refine ⟨?_, ?_⟩
      · rw [isIdentity, known]
        exact decide_eq_false fun same => other (Option.some.inj same)
      · rw [pathOf, known]
        exact (Except.ok.inj h).symm

/-- What a comparison with a constant finds is what the values compare as. -/
theorem compare_typed (speaks : L.Speaks c.dialect) (reads : Json.read r.data = some j)
    (fits : c.Fits r j m) (sharp : ¬c.IsBlurred j m) (located : c.locate m = .ok l) {v p : Value}
    (present : v.isNull = false) (param : l.toParam v = .ok p) :
    L.compare (L.located c.dialect r.get l.typed) (L.operand c.dialect l.typed p) =
      (c.value? r j m).bind fun x => (m.type.constant v).bind fun w => L.between x w := by
  rcases locate_cases located with ⟨identity, rfl⟩ | ⟨inside, rfl⟩
  · obtain ⟨x, stands⟩ := Option.isSome_iff_exists.mp (fits.identity identity)
    have column : L.located c.dialect r.get (Located.identity m.type).typed = r.id.toValue := by
      cases c.dialect <;> rfl
    have plain : L.operand c.dialect (Located.identity m.type).typed p = p := by
      cases c.dialect <;> rfl
    have cast : m.type.cast v = .ok p := by cases v <;> first | exact param | cases present
    obtain ⟨w, constant, same⟩ := Library.compare_identity stands present cast
    rw [column, plain, same, value?, if_pos identity, stands, constant]
    rfl
  · have crisp : ¬Blurred c.dialect m.type (j.at? (c.pathOf m)) :=
      fun blurred => sharp ⟨_, ⟨c.pathOf m⟩, located, rfl, blurred⟩
    rw [Library.operand_typed _ fits.simple, value?, if_neg (Bool.eq_false_iff.mp inside)]
    have missing (h : j.at? (c.pathOf m) = none ∨ j.at? (c.pathOf m) = some .null) :
        L.compare (L.located c.dialect r.get
          (Located.inDocument c.options.enums ⟨c.pathOf m⟩ m.type).typed) p = none := by
      rw [speaks.located_missing ⟨c.pathOf m⟩ reads h crisp]
      exact L.compare_null p
    cases there : j.at? (c.pathOf m) with
    | none => exact missing (.inl there)
    | some x =>
      by_cases null : x = .null
      · subst null
        rw [missing (.inr there), Option.bind_some, ValueType.ofJson_null]
        rfl
      · obtain ⟨v', stands⟩ := Option.isSome_iff_exists.mp (fits.document inside x there null)
        have typed := ValueType.stands_of_ofJson stands
        obtain ⟨w, constant, same⟩ := speaks.compare_param fits.simple typed present param
        rw [speaks.located_typed ⟨c.pathOf m⟩ reads fits.simple there typed crisp, same,
          Option.bind_some, stands, constant]
        rfl

/-- A test for the missing value finds whether the member is missing. -/
theorem means_nullTest (speaks : L.Speaks c.dialect) (reads : Json.read r.data = some j)
    (fits : c.Fits r j m) (sharp : ¬c.IsBlurred j m) (located : c.locate m = .ok l) {op : Operator}
    {f : Fragment} (compiled : nullTest l op = .ok f) :
    L.means c.dialect r.get f = testedNull op (c.value? r j m) := by
  have missing : (L.located c.dialect r.get l.raw).isNull = (c.value? r j m).isNone := by
    rcases locate_cases located with ⟨identity, rfl⟩ | ⟨inside, rfl⟩
    · obtain ⟨x, stands⟩ := Option.isSome_iff_exists.mp (fits.identity identity)
      have column : L.located c.dialect r.get (Located.identity m.type).raw = r.id.toValue := by
        cases c.dialect <;> rfl
      rw [column, value?, if_pos identity, stands]
      cases r.id <;> rfl
    · have crisp : ¬Blurred c.dialect m.type (j.at? (c.pathOf m)) :=
        fun blurred => sharp ⟨_, ⟨c.pathOf m⟩, located, rfl, blurred⟩
      rw [value?, if_neg (Bool.eq_false_iff.mp inside)]
      exact speaks.located_raw_isNull ⟨c.pathOf m⟩ reads (fits.document inside) crisp
  cases op with
  | eq =>
    obtain rfl := Except.ok.inj compiled
    exact congrArg some missing
  | ne =>
    obtain rfl := Except.ok.inj compiled
    show some (!(L.located c.dialect r.get l.raw).isNull) = some (c.value? r j m).isSome
    rw [missing, Option.not_isNone]
  | _ => cases compiled

/-- A boolean member has a boolean value, or none. -/
theorem value?_bool (type : m.type = .bool) :
    c.value? r j m = none ∨ ∃ b, c.value? r j m = some (.bool b) := by
  rw [value?, type]
  split
  · left
    cases r.id <;> rfl
  · cases j.at? (c.pathOf m) with
    | none => exact .inl rfl
    | some x =>
      cases x with
      | bool b => exact .inr ⟨b, rfl⟩
      | _ => exact .inl rfl

/-- A boolean member by itself, or its negation, is compared with a constant. -/
theorem means_boolMember (speaks : L.Speaks c.dialect) (reads : Json.read r.data = some j)
    (fits : c.Fits r j m) (sharp : ¬c.IsBlurred j m) {b : Bool} {f : Fragment}
    (compiled : c.boolMember m b = .ok f) :
    L.means c.dialect r.get f = (kleene c L r j (.member m)).map (· == b) := by
  rw [boolMember] at compiled
  split at compiled
  · cases compiled
  next type =>
    have type : m.type = .bool := not_not.mp type
    obtain ⟨l, located, compiled⟩ := Outcome.bind_eq_ok.mp compiled
    obtain ⟨p, param, compiled⟩ := Outcome.bind_eq_ok.mp compiled
    obtain rfl := Except.ok.inj compiled
    rw [Library.means, compare_typed speaks reads fits sharp located rfl param, kleene, type]
    have constant : ValueType.bool.constant (.bool b) = some (.bool b) := rfl
    rcases value?_bool type with none | ⟨x, some⟩
    · rw [none]
      rfl
    · rw [some, constant]
      cases x <;> cases b <;> rfl

/-- A comparison with a constant, on either side. -/
theorem means_comparison (speaks : L.Speaks c.dialect) (reads : Json.read r.data = some j)
    (fits : c.Fits r j m) (sharp : ¬c.IsBlurred j m) {op : Operator} {v : Value} {f : Fragment}
    (compiled : c.comparison (.member m) op (.value v) = .ok f) :
    L.means c.dialect r.get f = kleene c L r j (.compare (.member m) op (.value v)) := by
  obtain ⟨l, located, compiled⟩ := Outcome.bind_eq_ok.mp compiled
  rw [kleene]
  cases present : v.isNull with
  | true =>
    rw [if_pos present] at compiled
    exact means_nullTest speaks reads fits sharp located compiled
  | false =>
    rw [present, if_neg Bool.false_ne_true] at compiled
    split at compiled
    · cases compiled
    · obtain ⟨p, param, compiled⟩ := Outcome.bind_eq_ok.mp compiled
      obtain rfl := Except.ok.inj compiled
      rw [Library.means, compare_typed speaks reads fits sharp located present param]
      rfl

theorem testedNull_flip (op : Operator) (v : Option Value) :
    testedNull op.flip v = testedNull op v := by
  cases op <;> rfl

/-- The sides of a comparison can be exchanged with its operator. -/
theorem compared_flip (speaks : L.Speaks c.dialect) (op : Operator) (v w : Option Value) :
    compared L op.flip v w = compared L op w v := by
  cases v with
  | none => cases w <;> rfl
  | some v =>
    cases w with
    | none => rfl
    | some w =>
      show (L.between v w).map op.flip.holds = (L.between w v).map op.holds
      rw [speaks.between_swap v w, Option.map_map]
      exact congrArg (Option.map · (L.between v w)) (funext op.flip_holds)

/-! ### Expressions -/

/-- Where no member is blurred, a predicate is compiled to what it means. -/
theorem means_eq_kleene (speaks : L.Speaks c.dialect) (reads : Json.read r.data = some j)
    {M : Member → Prop} (fits : ∀ m, M m → c.Fits r j m) (sharp : ∀ m, M m → ¬c.IsBlurred j m)
    {e : Expr} (simple : e.Over M) {f : Fragment} (compiled : c.compile e = .ok f) :
    L.means c.dialect r.get f = kleene c L r j e := by
  induction simple generalizing f with
  | and _ _ ihl ihr | or _ _ ihl ihr =>
    rw [compile] at compiled
    obtain ⟨f₁, first, compiled⟩ := Outcome.bind_eq_ok.mp compiled
    obtain ⟨f₂, second, compiled⟩ := Outcome.bind_eq_ok.mp compiled
    obtain rfl := Except.ok.inj compiled
    rw [Library.means, kleene, ihl first, ihr second]
  | @not inner simple ih =>
    by_cases bare : ∃ m, inner = .member m
    -- a negated member is compared with `false`
    · obtain ⟨m, rfl⟩ := bare
      have compiled : c.boolMember m false = .ok f := compiled
      obtain named := simple.member_inv
      rw [means_boolMember speaks reads (fits m named) (sharp m named) compiled, kleene]
      exact congrArg (Option.map · _) (funext fun b => by cases b <;> rfl)
    · rw [compile_not bare] at compiled
      obtain ⟨f', compiled', made⟩ := Outcome.bind_eq_ok.mp compiled
      obtain rfl := Except.ok.inj made
      rw [Library.means, kleene, ih compiled']
  | constant b =>
    cases b with
    | true =>
      obtain rfl := Except.ok.inj compiled
      rfl
    | false =>
      obtain rfl := Except.ok.inj compiled
      rfl
  | @member m named =>
    have compiled : c.boolMember m true = .ok f := compiled
    rw [means_boolMember speaks reads (fits m named) (sharp m named) compiled]
    have same : (fun b : Bool => b == true) = id := funext fun b => by cases b <;> rfl
    rw [same, Option.map_id, id]
  | @compare m op v named =>
    exact means_comparison speaks reads (fits m named) (sharp m named) compiled
  | @turned m op v named =>
    have turned : c.comparison (.member m) op.flip (.value v) = .ok f := compiled
    rw [means_comparison speaks reads (fits m named) (sharp m named) turned, kleene, kleene,
      testedNull_flip, compared_flip speaks]
  | call method target args => rw [kleene, compiled]

/-- A member that is located and not the whole of a list or an object is compared as it is found. -/
theorem compile_comparison {op : Operator} {v p : Value} (located : c.locate m = .ok l)
    (present : v.isNull = false) (scalar : isCollection l.type = false)
    (param : l.toParam v = .ok p) :
    c.compile (.compare (.member m) op (.value v)) = .ok (.compare l.typed op p) := by
  show (do
    let l ← c.locate m
    if v.isNull then nullTest l op
    else if isCollection l.type then unsupported .wholeCollection
    else return .compare l.typed op (← l.toParam v)) = Except.ok (Fragment.compare l.typed op p)
  rw [located]
  show (if v.isNull then nullTest l op
    else if isCollection l.type then unsupported .wholeCollection
    else return .compare l.typed op (← l.toParam v)) = Except.ok (Fragment.compare l.typed op p)
  rw [present, scalar, param]
  rfl

/-- A comparison of a member of the document compares what is found at its path. -/
theorem means_compare_typed (simple : m.type.IsSimple c.options.enums) (path : JsonPath)
    (op : Operator) (p : Value) :
    L.means c.dialect r.get (.compare (Located.inDocument c.options.enums path m.type).typed op p) =
      (L.compare (L.located c.dialect r.get
        (Located.inDocument c.options.enums path m.type).typed) p).map op.holds := by
  rw [Library.means, Library.operand_typed _ simple]

/-- SQLite takes a boolean that is there and missing for one of a type that is not `true`. -/
theorem changed_of_null (speaks : L.Speaks c.dialect) (reads : Json.read r.data = some j)
    (located : c.locate m = .ok (Located.inDocument c.options.enums ⟨c.pathOf m⟩ m.type))
    (outside : c.isIdentity m = false) (there : j.at? (c.pathOf m) = some .null)
    (sqlite : c.dialect = .sqlite) (bool : m.type = .bool) :
    ∃ f, c.compile (.compare (.member m) .ne (.value (.bool true))) = .ok f ∧
      L.means c.dialect r.get f ≠
        kleene c L r j (.compare (.member m) .ne (.value (.bool true))) := by
  have scalar : isCollection m.type = false := by
    rw [bool]
    rfl
  have param : (Scalar.ofType c.options.enums m.type).toParam (.bool true) = .ok (.text "true") := by
    rw [bool]
    rfl
  have typed : L.located c.dialect r.get
      (Located.inDocument c.options.enums ⟨c.pathOf m⟩ m.type).typed = .text "null" := by
    rw [bool, sqlite]
    exact speaks.jsonType sqlite reads (by rw [there]; rfl)
  have unknown : kleene c L r j (.compare (.member m) .ne (.value (.bool true))) = none := by
    show compared L .ne (c.value? r j m) _ = none
    rw [value?, if_neg (Bool.eq_false_iff.mp outside), there, Option.bind_some, ValueType.ofJson_null]
    rfl
  refine ⟨_, compile_comparison located rfl scalar param, ?_⟩
  rw [means_compare_typed (bool ▸ trivial), typed, unknown]
  exact Option.some_ne_none _

/-- SQL Server has no such text, and takes it to be missing. -/
theorem changed_of_long (speaks : L.Speaks c.dialect) (reads : Json.read r.data = some j)
    (located : c.locate m = .ok (Located.inDocument c.options.enums ⟨c.pathOf m⟩ m.type))
    (outside : c.isIdentity m = false) {s : String} (there : j.at? (c.pathOf m) = some (.text s))
    (mssql : c.dialect = .mssql) (text : m.type = .text) (long : 4000 < utf16Length s) :
    ∃ f, c.compile (.compare (.member m) .eq (.value (.text s))) = .ok f ∧
      L.means c.dialect r.get f ≠ kleene c L r j (.compare (.member m) .eq (.value (.text s))) := by
  have scalar : isCollection m.type = false := by
    rw [text]
    rfl
  have param : (Scalar.ofType c.options.enums m.type).toParam (.text s) = .ok (.text s) := by
    rw [text]
    rfl
  have typed : L.located c.dialect r.get
      (Located.inDocument c.options.enums ⟨c.pathOf m⟩ m.type).typed = .null := by
    have none : L.json ⟨c.pathOf m⟩ (.text r.data) = .null := by
      refine speaks.json reads ?_
      rw [there, mssql]
      exact congrArg some (if_pos long)
    rw [text, mssql]
    exact none
  have known : kleene c L r j (.compare (.member m) .eq (.value (.text s))) = some true := by
    show compared L .eq (c.value? r j m) (m.type.constant (.text s)) = some true
    rw [value?, if_neg (Bool.eq_false_iff.mp outside), there, text]
    show (L.compare (.text s) (.text s)).map Operator.eq.holds = some true
    exact L.equal_text.mpr rfl
  refine ⟨_, compile_comparison located rfl scalar param, ?_⟩
  rw [means_compare_typed (text ▸ trivial), typed, known, L.compare_null]
  exact (Option.some_ne_none true).symm

/-- A blurred member has a comparison that is compiled to something else than what it means. -/
theorem exists_changed (speaks : L.Speaks c.dialect) (reads : Json.read r.data = some j)
    (blurred : c.IsBlurred j m) :
    ∃ op v f, c.compile (.compare (.member m) op (.value v)) = .ok f ∧
      L.means c.dialect r.get f ≠ kleene c L r j (.compare (.member m) op (.value v)) := by
  obtain ⟨l, path, located, inside, blurred⟩ := blurred
  rcases locate_cases located with ⟨-, rfl⟩ | ⟨outside, rfl⟩
  · cases inside
  obtain rfl := Option.some.inj inside
  cases there : j.at? (c.pathOf m) with
  | none =>
    rw [there] at blurred
    cases blurred
  | some x =>
    rw [there] at blurred
    cases x with
    | null => exact ⟨_, _, changed_of_null speaks reads located outside there blurred.1 blurred.2⟩
    | text s =>
      obtain ⟨mssql, text, long⟩ := blurred
      exact ⟨_, _, changed_of_long speaks reads located outside there mssql text long⟩
    | _ => cases blurred

/-- Predicates over members of simple types, as far as the document has them, are compiled to
conditions that have the truth that the predicates have, exactly if none of the members is
blurred. -/
theorem preserves_iff (speaks : L.Speaks c.dialect) (reads : Json.read r.data = some j)
    {M : Member → Prop} (fits : ∀ m, M m → c.Fits r j m) :
    (∀ e f, e.Over M → c.compile e = .ok f → ∀ before params,
      (f.toCondition c.dialect before).2.toList <+: params →
        L.truth (r.env params) (f.toCondition c.dialect before).1 = kleene c L r j e) ↔
      ∀ m, M m → ¬c.IsBlurred j m := by
  constructor
  · intro preserves m named blurred
    obtain ⟨op, v, f, compiled, changed⟩ := exists_changed speaks reads blurred
    have same := preserves _ f (.compare op v named) compiled #[] _ (List.prefix_refl _)
    rw [Library.truth_toCondition (List.prefix_refl _)] at same
    exact changed same
  · intro sharp e f simple compiled before params grown
    rw [Library.truth_toCondition grown]
    exact means_eq_kleene speaks reads fits sharp simple compiled

end Predicate.Compiler

namespace Orders

/-! ### Orders that may be active -/

/-- How SQLite orders values of two kinds: numbers by what they are, identifiers by their texts. -/
def mixedOrder : Value → Value → Option Ordering
  | .int64 n, .int32 m => some (compare n.toInt m.toInt)
  | .int32 n, .int64 m => some (compare n.toInt m.toInt)
  | .text s, .uuid u => some (exactly (s = u.toText) (s < u.toText))
  | .uuid u, .text s => some (exactly (u.toText = s) (u.toText < s))
  | _, _ => none

/-- Texts are ordered by what they are, identifiers by their texts. -/
def textLess : Value → Value → Bool
  | .text s, .text t => s < t
  | .uuid u, .uuid v => u.toText < v.toText
  | _, _ => false

/-- SQLite, as far as orders need it. -/
noncomputable def sqlite : Library where
  __ := Library.bare
  json path v :=
    (v.text?.bind Json.read).bind (fun j => scalar? .sqlite (j.at? path.names)) |>.getD .null
  jsonType path v :=
    (v.text?.bind Json.read).bind (fun j => typeName? (j.at? path.names)) |>.getD .null
  less := textLess
  order := mixedOrder

theorem less_turned {s t : String} (h : s ≠ t) : decide (t < s) = !decide (s < t) := by
  rcases lt_or_gt_of_ne h with less | greater
  · rw [decide_eq_true less, decide_eq_false (lt_asymm less)]
    rfl
  · rw [decide_eq_true greater, decide_eq_false (lt_asymm greater)]
    rfl

theorem textLess_uuid {u v : Uuid} (h : u ≠ v) :
    textLess (.uuid v) (.uuid u) = !textLess (.uuid u) (.uuid v) := by
  simp only [textLess]
  exact less_turned (Uuid.toText_injective.ne h)

theorem mixedOrder_swap (v w : Value) : mixedOrder w v = (mixedOrder v w).map Ordering.swap := by
  have text (s t : String) : exactly (t = s) (t < s) = (exactly (s = t) (s < t)).swap := by
    simp only [eq_comm (a := t)]
    exact exactly_swap fun h => less_turned (of_decide_eq_false h)
  cases v with
  | int32 n =>
    cases w with
    | int64 m => exact congrArg some Std.OrientedCmp.eq_swap
    | _ => rfl
  | int64 n =>
    cases w with
    | int32 m => exact congrArg some Std.OrientedCmp.eq_swap
    | _ => rfl
  | text s =>
    cases w with
    | uuid u => exact congrArg some (text s u.toText)
    | _ => rfl
  | uuid u =>
    cases w with
    | text s => exact congrArg some (text u.toText s)
    | _ => rfl
  | _ => cases w <;> rfl

theorem sqlite_less : sqlite.less = textLess := rfl

theorem sqlite_speaks : sqlite.Speaks .sqlite where
  less_text s t h := @less_turned s t h
  less_uuid _ _ h := by
    rw [sqlite_less]
    exact textLess_uuid h
  order_swap := mixedOrder_swap
  false_less_true := by decide
  json reads found := by simp [sqlite, Value.text?, reads, found]
  cast_null _ := rfl
  cast_int := nofun
  cast_bigint := nofun
  cast_uuid := nofun
  cast_whole _ _ _ _ := rfl
  cast_uuid_text _ _ := rfl
  order_whole _ _ _ := rfl
  order_uuid _ _ _ := rfl
  less_uuid_text _ _ _ := rfl
  jsonType _ {_ _ _ _} reads found := by simp [sqlite, Value.text?, reads, found]

/-- An order that has not been said to be active or not. -/
def undecided : Record :=
  ⟨.int32 7, "\x7b\"active\":null,\"id\":7\x7d", 1, .epoch, "order", "a", false, none⟩

theorem undecided_reads :
    Json.read undecided.data = some (.object [("active", .null), ("id", .whole 7)]) := by cbv

def compiler : Compiler :=
  ⟨.sqlite, { casing := .asIs }, mapping, []⟩

/-- Is the order active? -/
def active : Member :=
  ⟨[.field "active"], .bool, true⟩

theorem active_path : compiler.pathOf active = ["active"] := rfl

theorem active_inside : compiler.isIdentity active = false := by rfl

theorem active_missing :
    (Json.object [("active", .null), ("id", .whole 7)]).at? (compiler.pathOf active) =
      some .null := by
  rw [active_path]
  rfl

/-- Predicates on whether orders are active do not keep their meaning. -/
theorem preserves_iff_undecided :
    ¬∀ e f, e.Over (· = active) → compiler.compile e = .ok f → ∀ before params,
      (f.toCondition .sqlite before).2.toList <+: params →
        sqlite.truth (undecided.env params) (f.toCondition .sqlite before).1 =
          Compiler.kleene compiler sqlite undecided
            (.object [("active", .null), ("id", .whole 7)]) e := by
  have fits : ∀ m, m = active → compiler.Fits undecided
      (.object [("active", .null), ("id", .whole 7)]) m := by
    rintro m rfl
    refine ⟨trivial, fun identity => ?_, fun _ x there missing => ?_⟩
    · rw [active_inside] at identity
      cases identity
    · rw [active_missing] at there
      exact absurd (Option.some.inj there).symm missing
  intro preserves
  refine (Compiler.preserves_iff sqlite_speaks undecided_reads fits).mp preserves active rfl ?_
  refine ⟨_, ⟨compiler.pathOf active⟩, rfl, rfl, ?_⟩
  show Blurred .sqlite .bool (Json.at? _ (compiler.pathOf active))
  rw [active_missing]
  exact ⟨rfl, rfl⟩

end Orders

end Folio
