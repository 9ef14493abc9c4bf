import Folio.Proofs.Predicate.Calls
import Folio.Proofs.Predicate.Enumerated

/-!
# Folio.Proofs.Predicate.Storing

Predicates over documents that keep the constants of enumerations by their discriminants, and over the same
documents when they keep them by their names.

A test for the missing value means the same in both, and so does a comparison for equality. Names are in the
order of texts, discriminants in that of numbers, so a comparison for order means the same only with a
constant next to which the names are where the discriminants are (`Library.AgreesOn`,
`Compiler.compare_enum_iff`). Predicates of such comparisons are met by the same documents
(`Compiler.storing_agrees`); others need not be (`Orders.storing_differs`).
-/

namespace Folio

open Folio.Predicate
open Folio.Relational
open Folio.Sql (Dialect JsonPath)
open Folio.Statement (Fragment Locator)

/-! ### Predicates -/

section

variable (L : Library) (E : Member → List EnumConstant) (M : Member → Prop)

/-- What members are compared with. Any of them is compared with the missing value, and those of the
predicate with others: one that is of an enumeration with its constants, for order only where the names agree
with the discriminants, and the whole of a list of them with no text. -/
def Compared (m : Member) (op : Operator) (v : Value) : Prop :=
  v = .null ∨ M m ∧
    match m.type with
    | .enum => ∃ c ∈ E m, v = .enum c ∧ (op = .eq ∨ op = .ne ∨ L.AgreesOn (E m) op c)
    | .list .enum => ∀ s, v ≠ .text s
    | _ => True

/-- What is looked for in members: in a list of constants, one of them. -/
def Sought (m : Member) (v : Value) : Prop :=
  v = .null ∨ M m ∧ (m.type = .list .enum → ∃ c ∈ E m, v = .enum c)

/-- Predicates over such members, each with its enumeration: connectives, constants, boolean members,
comparisons in either order, `equals`, and membership in constant or stored lists. -/
inductive Expr.Draws : Expr → Prop
  | and {left right : Expr} : Draws left → Draws right → Draws (.and left right)
  | or {left right : Expr} : Draws left → Draws right → Draws (.or left right)
  | not {inner : Expr} : Draws inner → Draws (.not inner)
  | constant (b : Bool) : Draws (.value (.bool b))
  | member {m : Member} : M m → Draws (.member m)
  | compare {m : Member} {op : Operator} {v : Value} : Compared L E M m op v →
      Draws (.compare (.member m) op (.value v))
  | turned {m : Member} {op : Operator} {v : Value} : Compared L E M m op.flip v →
      Draws (.compare (.value v) op (.member m))
  | equals {m : Member} {v : Value} (rest : List Expr) : Compared L E M m .eq v →
      Draws (.call "equals" (some (.member m)) (.value v :: rest))
  | among {m : Member} {items : List Value} (rest : List Expr) :
      (∀ v ∈ items, Compared L E M m .eq v) →
      Draws (.call "contains" (some (.value (.list items))) (.member m :: rest))
  | contains {m : Member} {v : Value} (rest : List Expr) : Sought E M m v →
      Draws (.call "contains" (some (.member m)) (.value v :: rest))

end

/-- Only members without constants are compared with texts. -/
theorem Compared.plain_of_text {L : Library} {E : Member → List EnumConstant} {M : Member → Prop}
    {m : Member} {op : Operator} {s : String} (h : Compared L E M m op (.text s)) :
    M m ∧ m.type ≠ .enum ∧ m.type ≠ .list .enum := by
  rcases h with null | ⟨named, compared⟩
  · cases null
  refine ⟨named, fun type => ?_, fun type => ?_⟩
  · rw [type] at compared
    obtain ⟨_, -, same, -⟩ := compared
    cases same
  · rw [type] at compared
    exact compared s rfl

theorem Expr.Draws.member_inv {L : Library} {E : Member → List EnumConstant} {M : Member → Prop}
    {m : Member} (h : Expr.Draws L E M (.member m)) : M m := by
  cases h with
  | member named => exact named

/-! ### Members -/

/-- Only enumerations are stored in another form. -/
theorem Predicate.Scalar.ofType_plain {type : ValueType} (plain : type ≠ .enum) :
    Scalar.ofType .asText type = Scalar.ofType .asInteger type := by
  cases type with
  | enum => exact absurd rfl plain
  | _ => rfl

/-- Only enumerations and lists of them are located in another form. -/
theorem Predicate.Located.inDocument_plain {type : ValueType} (path : JsonPath) (scalar : type ≠ .enum)
    (list : type ≠ .list .enum) :
    Located.inDocument .asText path type = Located.inDocument .asInteger path type := by
  cases type with
  | enum => exact absurd rfl scalar
  | list item =>
    cases item with
    | enum => exact absurd rfl list
    | _ => rfl
  | _ => rfl

/-- A member without constants is found alike in both rows of a document. -/
structure Predicate.Located.Same (l : Located) (L : Library) (d : Dialect) (k : Kept) : Prop where
  raw : L.located d (k.row .asText).get l.raw = L.located d (k.row .asInteger).get l.raw
  typed : L.located d (k.row .asText).get l.typed = L.located d (k.row .asInteger).get l.typed
  elements : ∀ path, l.path = some path →
    L.elements path (.text (k.row .asText).data) = L.elements path (.text (k.row .asInteger).data)

namespace Predicate.Compiler

/-- The compiler of a store that keeps constants in a form. -/
def storing (c : Compiler) (o : EnumStorage) : Compiler :=
  { c with options := { c.options with enums := o } }

/-- The document has, at the members of a predicate, what is of their types. -/
structure Suited (c : Compiler) (E : Member → List EnumConstant) (M : Member → Prop) (k : Kept) :
    Prop where
  short : k.payload.Short c.dialect
  suits : ∀ m, M m → c.isIdentity m = false →
    ∀ x, k.payload.at? (c.pathOf m) = some x → x.Suits (E m) m.type

variable {c : Compiler} {L : Library} {E : Member → List EnumConstant} {M : Member → Prop} {k : Kept}
  {m : Member} {l l' : Located}

theorem located_identity (o : EnumStorage) :
    L.located c.dialect (k.row o).get ⟨.column Sql.idColumn, .none⟩ = (k.row o).id.toValue := by
  cases c.dialect <;> rfl

theorem same_identity (type : ValueType) : (Located.identity type).Same L c.dialect k := by
  have column : L.located c.dialect (k.row .asText).get ⟨.column Sql.idColumn, .none⟩ =
      L.located c.dialect (k.row .asInteger).get ⟨.column Sql.idColumn, .none⟩ := by
    rw [located_identity, located_identity, k.id_row]
  exact ⟨column, column, nofun⟩

theorem same_plain (finds : L.Finds c.dialect) {path : JsonPath} (scalar : m.type ≠ .enum)
    (list : m.type ≠ .list .enum)
    (suits : ∀ x, k.payload.at? path.names = some x → x.Suits (E m) m.type) :
    (Located.inDocument .asInteger path m.type).Same L c.dialect k := by
  have alike : (k.payload.at? path.names).map (Payload.stored .asInteger) =
      (k.payload.at? path.names).map (Payload.stored .asText) := by
    cases there : k.payload.at? path.names with
    | none => rfl
    | some x =>
      have plain := suits x there
      rw [Payload.Suits.eq_def] at plain
      split at plain
      · exact absurd ‹_› scalar
      · exact absurd ‹_› list
      · exact congrArg some plain
  refine ⟨k.located_plain path finds alike _, k.located_plain path finds alike _, ?_⟩
  rintro _ ⟨rfl⟩
  exact k.elements_plain path finds alike

section

variable (asText : (c.storing .asText).locate m = .ok l)
  (asInteger : (c.storing .asInteger).locate m = .ok l')

include asText asInteger

/-- A member is in the column of its own in both forms, or at one path. -/
theorem locate_storing : (l = .identity m.type ∧ l' = .identity m.type) ∨
    (c.isIdentity m = false ∧ l = .inDocument .asText ⟨c.pathOf m⟩ m.type ∧
      l' = .inDocument .asInteger ⟨c.pathOf m⟩ m.type) := by
  rcases locate_cases asText with ⟨identity, rfl⟩ | ⟨inside, rfl⟩
  · rcases locate_cases asInteger with ⟨-, rfl⟩ | ⟨inside, -⟩
    · exact .inl ⟨rfl, rfl⟩
    · exact absurd (identity.symm.trans inside) (by decide)
  · rcases locate_cases asInteger with ⟨identity, -⟩ | ⟨-, rfl⟩
    · exact absurd (inside.symm.trans identity) (by decide)
    · exact .inr ⟨inside, rfl, rfl⟩

/-- A member of the predicate is found alike, unless it is of an enumeration or a list of constants. -/
theorem locate_same (finds : L.Finds c.dialect) (suited : c.Suited E M k) (named : M m)
    (plain : m.type ≠ .enum ∧ m.type ≠ .list .enum) : l = l' ∧ l'.Same L c.dialect k := by
  rcases locate_storing asText asInteger with ⟨rfl, rfl⟩ | ⟨inside, rfl, rfl⟩
  · exact ⟨rfl, same_identity m.type⟩
  · refine ⟨Located.inDocument_plain _ plain.1 plain.2, ?_⟩
    exact same_plain finds plain.1 plain.2 (suited.suits m named inside)

/-- A member is there in both forms, or in neither. -/
theorem isNull_storing (speaks : L.Speaks c.dialect) (finds : L.Finds c.dialect) (suited : c.Suited E M k) :
    (L.located c.dialect (k.row .asText).get l.raw).isNull =
      (L.located c.dialect (k.row .asInteger).get l'.raw).isNull := by
  rcases locate_storing asText asInteger with ⟨rfl, rfl⟩ | ⟨-, rfl, rfl⟩
  · exact congrArg Value.isNull (same_identity m.type).raw
  · have raw (o : EnumStorage) : L.located c.dialect (k.row o).get
        (Located.inDocument o ⟨c.pathOf m⟩ m.type).raw =
          L.json ⟨c.pathOf m⟩ (.text (k.row o).data) := by
      cases c.dialect <;> rfl
    rw [raw, raw]
    exact k.isNull_row ⟨c.pathOf m⟩ speaks suited.short finds

end

end Predicate.Compiler

/-! ### Comparisons -/

namespace Relational.Library

variable {L : Library} {d : Dialect} {row : String → Value}

theorem means_compare_list (finds : L.Finds d) {l : Locator} (bare : l.conversion = .none) (op : Operator)
    (items : List Value) : L.means d row (.compare l op (.list items)) = none := by
  have none (v : Value) : L.compare v (.list items) = none := by
    cases v <;> first | rfl | exact finds.order_list _ items
  rw [means, operand, if_neg (by simp [bare]), none]
  rfl

theorem means_contains_null (path : JsonPath) (c : Statement.Conversion) :
    L.means d row (.arrayContains path c .null) = some false := by
  have none (v : Value) : L.equal v .null = none := by cases v <;> rfl
  rw [means]
  simp [none]

end Relational.Library

/-- The whole of a list is compared with a list, or with nothing. -/
theorem Predicate.Located.toParam_list {o : EnumStorage} {path : JsonPath} {item : ValueType} {v p : Value}
    (param : (Located.inDocument o path (.list item)).toParam v = .ok p) :
    p = .null ∨ ∃ items, p = .list items := by
  cases v with
  | null => exact .inl (Except.ok.inj param).symm
  | list items =>
    have cast : (items.mapM item.cast).map Value.list = .ok p := param
    cases each : items.mapM item.cast with
    | error f =>
      rw [each] at cast
      cases cast
    | ok vs =>
      rw [each] at cast
      exact .inr ⟨vs, (Except.ok.inj cast).symm⟩
  | _ => cases param

namespace Predicate.Compiler

variable {c : Compiler} {L : Library} {E : Member → List EnumConstant} {M : Member → Prop} {k : Kept}
  {m : Member} {l l' : Located}

theorem operand_enum (o : EnumStorage) (path : JsonPath) (v : Value) :
    L.operand c.dialect (Located.inDocument o path .enum).typed v = v := by
  cases o <;> cases c.dialect <;> rfl

/-- What a member of an enumeration is compared as: the constant that it is. -/
theorem means_compare_enum (speaks : L.Speaks c.dialect) (short : k.payload.Short c.dialect)
    {E : List EnumConstant} {path : JsonPath}
    (suits : ∀ x, k.payload.at? path.names = some x → x.IsOneOf E) (o : EnumStorage) (op : Operator)
    (x : EnumConstant) :
    L.means c.dialect (k.row o).get
        (.compare (Located.inDocument o path .enum).typed op (x.valueIn o)) =
      (L.compare (((k.payload.at? path.names).map (Payload.valueIn o)).getD .null)
        (x.valueIn o)).map op.holds := by
  rw [Library.means, operand_enum, k.located_enum o path speaks short suits]

/-- Where the names are as the discriminants, a constant compares as it does in the other form. -/
theorem compare_enum (speaks : L.Speaks c.dialect) (short : k.payload.Short c.dialect)
    {E : List EnumConstant} {path : JsonPath}
    (suits : ∀ x, k.payload.at? path.names = some x → x.IsOneOf E) {op : Operator} {x : EnumConstant}
    (agrees : L.AgreesOn E op x) :
    L.means c.dialect (k.row .asText).get
        (.compare (Located.inDocument .asText path .enum).typed op (x.valueIn .asText)) =
      L.means c.dialect (k.row .asInteger).get
        (.compare (Located.inDocument .asInteger path .enum).typed op (x.valueIn .asInteger)) := by
  rw [means_compare_enum speaks short suits, means_compare_enum speaks short suits]
  cases there : k.payload.at? path.names with
  | none => rfl
  | some y => exact L.compare_valueIn agrees (suits y there)

/-- Over documents in which all constants of an enumeration occur, only such a comparison means the same in
both forms. -/
theorem compare_enum_iff (speaks : L.Speaks c.dialect) {E : List EnumConstant} {path : JsonPath}
    {documents : List Kept} (short : ∀ k ∈ documents, k.payload.Short c.dialect)
    (suits : ∀ k ∈ documents, ∀ x, k.payload.at? path.names = some x → x.IsOneOf E)
    (occurs : ∀ y ∈ E, ∃ k ∈ documents, k.payload.at? path.names = some (.constant y)) {op : Operator}
    {x : EnumConstant} :
    (∀ k ∈ documents, L.means c.dialect (k.row .asText).get
          (.compare (Located.inDocument .asText path .enum).typed op (x.valueIn .asText)) =
        L.means c.dialect (k.row .asInteger).get
          (.compare (Located.inDocument .asInteger path .enum).typed op (x.valueIn .asInteger))) ↔
      L.AgreesOn E op x := by
  constructor
  · intro same y mem
    obtain ⟨k, one, there⟩ := occurs y mem
    have same := same k one
    rw [means_compare_enum speaks (short k one) (suits k one),
      means_compare_enum speaks (short k one) (suits k one), there] at same
    exact Option.some.inj same
  · intro agrees k one
    exact compare_enum speaks (short k one) (suits k one) agrees

/-- An element is compared as it is, whatever else the row holds. -/
theorem element_congr (row row' : String → Value) (conversion : Statement.Conversion) (x : Value × Value) :
    L.element c.dialect row conversion x = L.element c.dialect row' conversion x := by
  cases conversion <;> cases c.dialect <;> rfl

section

variable (speaks : L.Speaks c.dialect) (finds : L.Finds c.dialect)
  (enumeration : ∀ m, M m → OneToOne (E m)) (suited : c.Suited E M k)

include speaks finds suited

/-- A comparison with the missing value means the same in both forms. -/
theorem means_nullTest_storing (asText : (c.storing .asText).locate m = .ok l)
    (asInteger : (c.storing .asInteger).locate m = .ok l') {op : Operator} {f f' : Fragment}
    (made : nullTest l op = .ok f) (made' : nullTest l' op = .ok f') :
    L.means c.dialect (k.row .asText).get f = L.means c.dialect (k.row .asInteger).get f' := by
  have alike := isNull_storing asText asInteger speaks finds suited
  cases op with
  | eq =>
    obtain rfl := Except.ok.inj made
    obtain rfl := Except.ok.inj made'
    exact congrArg some alike
  | ne =>
    obtain rfl := Except.ok.inj made
    obtain rfl := Except.ok.inj made'
    exact congrArg (fun b => some !b) alike
  | _ => cases made

include enumeration

/-- A comparison means the same in both forms. -/
theorem means_compare_storing (asText : (c.storing .asText).locate m = .ok l)
    (asInteger : (c.storing .asInteger).locate m = .ok l') {op : Operator} {v p p' : Value}
    (compared : Compared L E M m op v) (param : l.toParam v = .ok p) (param' : l'.toParam v = .ok p') :
    L.means c.dialect (k.row .asText).get (.compare l.typed op p) =
      L.means c.dialect (k.row .asInteger).get (.compare l'.typed op p') := by
  rcases compared with rfl | ⟨named, compared⟩
  · obtain rfl := Except.ok.inj (l.scalar.toParam_null.symm.trans param)
    obtain rfl := Except.ok.inj (l'.scalar.toParam_null.symm.trans param')
    rw [Library.means_compare_null, Library.means_compare_null]
  have alike (same : l = l' ∧ l'.Same L c.dialect k) :
      L.means c.dialect (k.row .asText).get (.compare l.typed op p) =
        L.means c.dialect (k.row .asInteger).get (.compare l'.typed op p') := by
    obtain ⟨rfl, same⟩ := same
    obtain rfl := Except.ok.inj (param.symm.trans param')
    rw [Library.means, Library.means, same.typed]
  by_cases plain : m.type ≠ .enum ∧ m.type ≠ .list .enum
  · exact alike (locate_same asText asInteger finds suited named plain)
  rcases locate_storing asText asInteger with ⟨rfl, rfl⟩ | ⟨inside, rfl, rfl⟩
  · exact alike ⟨rfl, same_identity m.type⟩
  have suits := suited.suits m named inside
  rcases not_and_or.mp plain with enum | list
  · have type := not_not.mp enum
    rw [type] at compared suits param param' ⊢
    obtain ⟨x, mem, rfl, agrees⟩ := compared
    obtain rfl := Except.ok.inj param
    obtain rfl := Except.ok.inj param'
    refine compare_enum speaks suited.short suits ?_
    rcases agrees with equal | unequal | agrees
    · exact L.agreesOn_of_equality (enumeration m named) (.inl equal) mem
    · exact L.agreesOn_of_equality (enumeration m named) (.inr unequal) mem
    · exact agrees
  · have type := not_not.mp list
    rw [type] at param param' ⊢
    have unknown (o : EnumStorage) {p : Value}
        (param : (Located.inDocument o ⟨c.pathOf m⟩ (.list .enum)).toParam v = .ok p) :
        L.means c.dialect (k.row o).get
          (.compare (Located.inDocument o ⟨c.pathOf m⟩ (.list .enum)).typed op p) = none := by
      rcases Located.toParam_list param with rfl | ⟨items, rfl⟩
      · exact Library.means_compare_null _ op
      · exact Library.means_compare_list finds rfl op items
    rw [unknown .asText param, unknown .asInteger param']

theorem means_comparison_storing {op : Operator} {v : Value} (compared : Compared L E M m op v)
    {f f' : Fragment} (asText : (c.storing .asText).comparison (.member m) op (.value v) = .ok f)
    (asInteger : (c.storing .asInteger).comparison (.member m) op (.value v) = .ok f') :
    L.means c.dialect (k.row .asText).get f = L.means c.dialect (k.row .asInteger).get f' := by
  obtain ⟨l, located, asText⟩ := Outcome.bind_eq_ok.mp asText
  obtain ⟨l', located', asInteger⟩ := Outcome.bind_eq_ok.mp asInteger
  split at asText
  next null =>
    rw [if_pos null] at asInteger
    exact means_nullTest_storing speaks finds suited located located' asText asInteger
  next present =>
    rw [if_neg present] at asInteger
    split at asText
    · cases asText
    split at asInteger
    · cases asInteger
    obtain ⟨p, param, made⟩ := Outcome.bind_eq_ok.mp asText
    obtain ⟨p', param', made'⟩ := Outcome.bind_eq_ok.mp asInteger
    obtain rfl := Except.ok.inj made
    obtain rfl := Except.ok.inj made'
    exact means_compare_storing speaks finds enumeration suited located located' compared param param'

theorem means_boolMember_storing (named : M m) {b : Bool} {f f' : Fragment}
    (asText : (c.storing .asText).boolMember m b = .ok f)
    (asInteger : (c.storing .asInteger).boolMember m b = .ok f') :
    L.means c.dialect (k.row .asText).get f = L.means c.dialect (k.row .asInteger).get f' := by
  rw [boolMember] at asText asInteger
  split at asText
  · cases asText
  next bool =>
    rw [if_neg bool] at asInteger
    obtain ⟨l, located, asText⟩ := Outcome.bind_eq_ok.mp asText
    obtain ⟨l', located', asInteger⟩ := Outcome.bind_eq_ok.mp asInteger
    obtain ⟨p, param, made⟩ := Outcome.bind_eq_ok.mp asText
    obtain ⟨p', param', made'⟩ := Outcome.bind_eq_ok.mp asInteger
    obtain rfl := Except.ok.inj made
    obtain rfl := Except.ok.inj made'
    have compared : Compared L E M m .eq (.bool b) := by
      refine .inr ⟨named, ?_⟩
      rw [not_not.mp bool]
      exact trivial
    exact means_compare_storing speaks finds enumeration suited located located' compared param param'

/-! ### Calls in both forms -/

theorem means_equals_storing (own : c.BuiltIn) {v : Value} {rest : List Expr}
    (compared : Compared L E M m .eq v) {f f' : Fragment}
    (asText : (c.storing .asText).compile (.call "equals" (some (.member m)) (.value v :: rest)) = .ok f)
    (asInteger : (c.storing .asInteger).compile
      (.call "equals" (some (.member m)) (.value v :: rest)) = .ok f') :
    L.means c.dialect (k.row .asText).get f = L.means c.dialect (k.row .asInteger).get f' := by
  rw [compile_equals (c := c.storing .asText) own] at asText
  rw [compile_equals (c := c.storing .asInteger) own] at asInteger
  obtain ⟨l, located, asText⟩ := Outcome.bind_eq_ok.mp asText
  obtain ⟨l', located', asInteger⟩ := Outcome.bind_eq_ok.mp asInteger
  obtain ⟨b, folded, asText⟩ := Outcome.bind_eq_ok.mp asText
  obtain ⟨b', folded', asInteger⟩ := Outcome.bind_eq_ok.mp asInteger
  obtain rfl := Except.ok.inj (folded.symm.trans folded')
  have compares
      (asText : (do return Fragment.compare l.typed .eq (← l.toParam v)) = Except.ok f)
      (asInteger : (do return Fragment.compare l'.typed .eq (← l'.toParam v)) = Except.ok f') :
      L.means c.dialect (k.row .asText).get f = L.means c.dialect (k.row .asInteger).get f' := by
    obtain ⟨p, param, made⟩ := Outcome.bind_eq_ok.mp asText
    obtain ⟨p', param', made'⟩ := Outcome.bind_eq_ok.mp asInteger
    obtain rfl := Except.ok.inj made
    obtain rfl := Except.ok.inj made'
    exact means_compare_storing speaks finds enumeration suited located located' compared param param'
  cases v with
  | null =>
    obtain rfl := Except.ok.inj asText
    obtain rfl := Except.ok.inj asInteger
    exact congrArg some (isNull_storing located located' speaks finds suited)
  | text s =>
    cases b with
    | false => exact compares asText asInteger
    | true =>
      obtain rfl := Except.ok.inj asText
      obtain rfl := Except.ok.inj asInteger
      obtain ⟨named, plain⟩ := compared.plain_of_text
      obtain ⟨rfl, same⟩ := locate_same located located' finds suited named plain
      rw [Library.means, Library.means, same.raw]
  | _ => exact compares asText asInteger

/-- The comparisons with the items of a list mean the same in both forms. -/
theorem map_compare_storing (asText : (c.storing .asText).locate m = .ok l)
    (asInteger : (c.storing .asInteger).locate m = .ok l') {items ps ps' : List Value}
    (compared : ∀ v ∈ items, Compared L E M m .eq v)
    (params : List.Forall₂ (fun v p => l.toParam v = .ok p) items ps)
    (params' : List.Forall₂ (fun v p => l'.toParam v = .ok p) items ps') :
    (ps.map fun p => L.means c.dialect (k.row .asText).get (.compare l.typed .eq p)) =
      ps'.map fun p => L.means c.dialect (k.row .asInteger).get (.compare l'.typed .eq p) := by
  induction params generalizing ps' with
  | nil =>
    cases params'
    rfl
  | @cons v p items ps param _ ih =>
    obtain _ | ⟨param', params'⟩ := params'
    rw [List.map_cons, List.map_cons, ih (fun v mem => compared v (List.mem_cons_of_mem _ mem)) params',
      means_compare_storing speaks finds enumeration suited asText asInteger
        (compared v List.mem_cons_self) param param']

theorem means_among_storing (own : c.BuiltIn) {items : List Value} {rest : List Expr}
    (compared : ∀ v ∈ items, Compared L E M m .eq v) {f f' : Fragment}
    (asText : (c.storing .asText).compile
      (.call "contains" (some (.value (.list items))) (.member m :: rest)) = .ok f)
    (asInteger : (c.storing .asInteger).compile
      (.call "contains" (some (.value (.list items))) (.member m :: rest)) = .ok f') :
    L.means c.dialect (k.row .asText).get f = L.means c.dialect (k.row .asInteger).get f' := by
  rw [compile_among (c := c.storing .asText) own] at asText
  rw [compile_among (c := c.storing .asInteger) own] at asInteger
  obtain ⟨l, located, asText⟩ := Outcome.bind_eq_ok.mp asText
  obtain ⟨l', located', asInteger⟩ := Outcome.bind_eq_ok.mp asInteger
  obtain ⟨ps, params, made⟩ := Outcome.bind_eq_ok.mp asText
  obtain ⟨ps', params', made'⟩ := Outcome.bind_eq_ok.mp asInteger
  obtain rfl := Except.ok.inj made
  obtain rfl := Except.ok.inj made'
  rw [Library.means_among, Library.means_among,
    map_compare_storing speaks finds enumeration suited located located' compared
      (Outcome.mapM_eq_ok.mp params) (Outcome.mapM_eq_ok.mp params')]

/-- The elements of a list are compared with the same truth in both forms. -/
theorem means_arrayContains_storing {item : ValueType} (type : m.type = .list item)
    (inside : c.isIdentity m = false) {v p p' : Value} (sought : Sought E M m v)
    (param : (Scalar.ofType .asText item).toParam v = .ok p)
    (param' : (Scalar.ofType .asInteger item).toParam v = .ok p') :
    L.means c.dialect (k.row .asText).get
        (.arrayContains ⟨c.pathOf m⟩ (Scalar.ofType .asText item).conversion p) =
      L.means c.dialect (k.row .asInteger).get
        (.arrayContains ⟨c.pathOf m⟩ (Scalar.ofType .asInteger item).conversion p') := by
  rcases sought with rfl | ⟨named, constant⟩
  · obtain rfl := Except.ok.inj ((Scalar.toParam_null _).symm.trans param)
    obtain rfl := Except.ok.inj ((Scalar.toParam_null _).symm.trans param')
    rw [Library.means_contains_null, Library.means_contains_null]
  have suits := suited.suits m named inside
  by_cases enum : item = .enum
  · subst enum
    obtain ⟨x, mem, rfl⟩ := constant type
    obtain rfl := Except.ok.inj param
    obtain rfl := Except.ok.inj param'
    rw [type] at suits
    have agrees := L.agreesOn_of_equality (enumeration m named) (.inl rfl) mem
    exact k.contains_enum (v := fun o => x.valueIn o) ⟨c.pathOf m⟩ speaks finds suits fun y one =>
      L.compare_valueIn agrees one
  · rw [Scalar.ofType_plain enum] at param ⊢
    obtain rfl := Except.ok.inj (param.symm.trans param')
    have same : (Located.inDocument .asInteger ⟨c.pathOf m⟩ m.type).Same L c.dialect k :=
      same_plain finds (by simp [type]) (by simp [type, enum]) suits
    have elements := same.elements ⟨c.pathOf m⟩ rfl
    show some ((L.elements ⟨c.pathOf m⟩ (.text (k.row .asText).data)).any _) =
      some ((L.elements ⟨c.pathOf m⟩ (.text (k.row .asInteger).data)).any _)
    rw [elements]
    simp only [element_congr (k.row .asText).get (k.row .asInteger).get]

theorem means_contains_storing (own : c.BuiltIn) {v : Value} {rest : List Expr} (sought : Sought E M m v)
    {f f' : Fragment}
    (asText : (c.storing .asText).compile (.call "contains" (some (.member m)) (.value v :: rest)) =
      .ok f)
    (asInteger : (c.storing .asInteger).compile
      (.call "contains" (some (.member m)) (.value v :: rest)) = .ok f') :
    L.means c.dialect (k.row .asText).get f = L.means c.dialect (k.row .asInteger).get f' := by
  by_cases text : m.type = .text
  · rw [compile_contains_text (c := c.storing .asText) own text] at asText
    rw [compile_contains_text (c := c.storing .asInteger) own text] at asInteger
    obtain ⟨l, located, asText⟩ := Outcome.bind_eq_ok.mp asText
    obtain ⟨l', located', asInteger⟩ := Outcome.bind_eq_ok.mp asInteger
    rcases sought with rfl | ⟨named, -⟩
    · cases asText
    obtain ⟨rfl, same⟩ := locate_same located located' finds suited named (by simp [text])
    cases needle : v.text? with
    | none =>
      rw [needle] at asText
      cases asText
    | some s =>
      rw [needle] at asText asInteger
      obtain rfl := Except.ok.inj asText
      obtain rfl := Except.ok.inj asInteger
      rw [Library.means, Library.means, same.raw]
  cases list : m.type.isList with
  | false =>
    obtain ⟨_, failed⟩ := compile_contains_other (c := c.storing .asText) own text list v rest
    rw [failed] at asText
    cases asText
  | true =>
    obtain ⟨item, type⟩ : ∃ item, m.type = .list item := by
      cases type : m.type with
      | list item => exact ⟨item, rfl⟩
      | _ =>
        rw [type] at list
        cases list
    rw [compile_contains_list (c := c.storing .asText) own list] at asText
    rw [compile_contains_list (c := c.storing .asInteger) own list] at asInteger
    obtain ⟨l, located, asText⟩ := Outcome.bind_eq_ok.mp asText
    obtain ⟨l', located', asInteger⟩ := Outcome.bind_eq_ok.mp asInteger
    rcases locate_storing located located' with ⟨rfl, rfl⟩ | ⟨inside, rfl, rfl⟩
    · cases asText
    rw [type] at asText asInteger
    obtain ⟨p, param, made⟩ := Outcome.bind_eq_ok.mp asText
    obtain ⟨p', param', made'⟩ := Outcome.bind_eq_ok.mp asInteger
    obtain rfl := Except.ok.inj made
    obtain rfl := Except.ok.inj made'
    exact means_arrayContains_storing speaks finds enumeration suited type inside sought param param'

/-! ### Expressions -/

/-- A predicate means the same on both rows of a document. -/
theorem means_storing (own : c.BuiltIn) {e : Expr} (draws : e.Draws L E M) {f f' : Fragment}
    (asText : (c.storing .asText).compile e = .ok f)
    (asInteger : (c.storing .asInteger).compile e = .ok f') :
    L.means c.dialect (k.row .asText).get f = L.means c.dialect (k.row .asInteger).get f' := by
  induction draws generalizing f f' with
  | and _ _ ihl ihr | or _ _ ihl ihr =>
    rw [compile] at asText asInteger
    obtain ⟨g, first, asText⟩ := Outcome.bind_eq_ok.mp asText
    obtain ⟨h, second, asText⟩ := Outcome.bind_eq_ok.mp asText
    obtain ⟨g', first', asInteger⟩ := Outcome.bind_eq_ok.mp asInteger
    obtain ⟨h', second', asInteger⟩ := Outcome.bind_eq_ok.mp asInteger
    obtain rfl := Except.ok.inj asText
    obtain rfl := Except.ok.inj asInteger
    rw [Library.means, Library.means, ihl first first', ihr second second']
  | @not inner draws ih =>
    by_cases bare : ∃ m, inner = .member m
    -- a negated member is compared with `false`
    · obtain ⟨m, rfl⟩ := bare
      exact means_boolMember_storing speaks finds enumeration suited draws.member_inv asText asInteger
    · rw [compile_not bare] at asText asInteger
      obtain ⟨g, compiled, asText⟩ := Outcome.bind_eq_ok.mp asText
      obtain ⟨g', compiled', asInteger⟩ := Outcome.bind_eq_ok.mp asInteger
      obtain rfl := Except.ok.inj asText
      obtain rfl := Except.ok.inj asInteger
      rw [Library.means, Library.means, ih compiled compiled']
  | constant b =>
    cases b with
    | true | false =>
      obtain rfl := Except.ok.inj asText
      obtain rfl := Except.ok.inj asInteger
      rfl
  | member named => exact means_boolMember_storing speaks finds enumeration suited named asText asInteger
  | compare compared =>
    exact means_comparison_storing speaks finds enumeration suited compared asText asInteger
  | @turned m op v compared =>
    have turned : (c.storing .asText).comparison (.member m) op.flip (.value v) = .ok f := asText
    have turned' : (c.storing .asInteger).comparison (.member m) op.flip (.value v) = .ok f' := asInteger
    exact means_comparison_storing speaks finds enumeration suited compared turned turned'
  | equals rest compared =>
    exact means_equals_storing speaks finds enumeration suited own compared asText asInteger
  | among rest compared =>
    exact means_among_storing speaks finds enumeration suited own compared asText asInteger
  | contains rest sought =>
    exact means_contains_storing speaks finds enumeration suited own sought asText asInteger

end

/-- A predicate is met by the same documents, whether they keep the constants of enumerations by their
discriminants or by their names. Comparisons for order are made with constants only next to which the names
are where the discriminants are. -/
theorem storing_agrees (speaks : L.Speaks c.dialect) (finds : L.Finds c.dialect) (own : c.BuiltIn)
    (enumeration : ∀ m, M m → OneToOne (E m)) {documents : List Kept}
    (suited : ∀ k ∈ documents, c.Suited E M k) {e : Expr} (draws : e.Draws L E M) {f f' : Fragment}
    (asText : (c.storing .asText).compile e = .ok f)
    (asInteger : (c.storing .asInteger).compile e = .ok f') {before before' : Array Value}
    {params params' : List Value} (grown : (f.toCondition c.dialect before).2.toList <+: params)
    (grown' : (f'.toCondition c.dialect before').2.toList <+: params') :
    (documents.filter fun k =>
        L.truth ((k.row .asText).env params) (f.toCondition c.dialect before).1 = some true) =
      documents.filter fun k =>
        L.truth ((k.row .asInteger).env params') (f'.toCondition c.dialect before').1 = some true := by
  refine List.filter_congr fun k mem => ?_
  rw [Library.truth_toCondition grown, Library.truth_toCondition grown']
  exact congrArg (fun t => decide (t = some true))
    (means_storing speaks finds enumeration (suited k mem) own draws asText asInteger)

end Predicate.Compiler

namespace Orders

/-! ### Orders with a status -/

/-- What SQLite answers for a part of a document: scalars, and the text of what has parts itself. -/
def partValue (x : Option Json) : Value :=
  match scalar? .sqlite x with
  | some v => v
  | none => (x.map fun j => .text j.render).getD .null

/-- The elements of an array. -/
def elementsOf : Option Json → List (Value × Value)
  | some (.array items) => items.map fun x => ((element? .sqlite x).getD .null, .null)
  | _ => []

/-- The part of a text of JSON. -/
def partAt (path : JsonPath) (v : Value) : Option Json :=
  (v.text?.bind Json.read).bind (·.at? path.names)

/-- SQLite with the parts of documents that are no scalars. -/
noncomputable def finding : Library where
  __ := sqlite
  json path v := partValue (partAt path v)
  elements path v := elementsOf (partAt path v)

theorem finding_less : finding.less = textLess := rfl

theorem partAt_of_reads {path : JsonPath} {s : String} {j : Json} (reads : Json.read s = some j) :
    partAt path (.text s) = j.at? path.names := by
  rw [partAt, Value.text?, Option.bind_some, reads, Option.bind_some]

/-- What is compared does not depend on how else parts of documents are found. -/
theorem speaks_finding {L : Library} {d : Dialect} (speaks : L.Speaks d)
    {json : JsonPath → Value → Value} {elements : JsonPath → Value → List (Value × Value)}
    (scalars : ∀ {path text j v}, Json.read text = some j → scalar? d (j.at? path.names) = some v →
      json path (.text text) = v) :
    ({ L with json, elements } : Library).Speaks d :=
  { speaks with json := scalars }

theorem finding_speaks : finding.Speaks .sqlite :=
  speaks_finding sqlite_speaks fun {path text j v} reads scalar => by
    rw [partAt_of_reads reads, partValue, scalar]

theorem fst_elementsOf {items : List Json} {vs : List Value} (each : items.mapM (element? .sqlite) = some vs) :
    (elementsOf (some (.array items))).map Prod.fst = vs := by
  induction items generalizing vs with
  | nil =>
    obtain rfl := Option.some.inj each
    rfl
  | cons x rest ih =>
    rw [List.mapM_cons] at each
    obtain ⟨v, first, each⟩ := Option.bind_eq_some_iff.mp each
    obtain ⟨ws, others, each⟩ := Option.bind_eq_some_iff.mp each
    obtain rfl := Option.some.inj each
    show ((element? .sqlite x).getD .null) :: (elementsOf (some (.array rest))).map Prod.fst = v :: ws
    rw [first, ih others]
    rfl

theorem finding_finds : finding.Finds .sqlite where
  json_local {path s t j k} reads other same := by
    show partValue (partAt path (.text s)) = partValue (partAt path (.text t))
    rw [partAt_of_reads reads, partAt_of_reads other, same]
  jsonType_local {path s t j k} reads other same := by
    show sqlite.jsonType path (.text s) = sqlite.jsonType path (.text t)
    simp [sqlite, Value.text?, reads, other, same]
  elements_local {path s t j k} reads other same := by
    show elementsOf (partAt path (.text s)) = elementsOf (partAt path (.text t))
    rw [partAt_of_reads reads, partAt_of_reads other, same]
  json_array {path s j items} reads there := by
    show (partValue (partAt path (.text s))).isNull = _
    rw [partAt_of_reads reads, there]
    rfl
  json_object {path s j members} reads there := by
    show (partValue (partAt path (.text s))).isNull = _
    rw [partAt_of_reads reads, there]
    rfl
  elements_missing {path s j} reads missing e mem := by
    have none : elementsOf (partAt path (.text s)) = [] := by
      rw [partAt_of_reads reads]
      rcases missing with absent | null
      · rw [absent]
        rfl
      · rw [null]
        rfl
    have mem : e ∈ elementsOf (partAt path (.text s)) := mem
    rw [none] at mem
    cases mem
  elements_array {path s j items} reads there vs each := by
    show (elementsOf (partAt path (.text s))).map Prod.fst = vs
    rw [partAt_of_reads reads, there]
    exact fst_elementsOf each
  order_list v items := by cases v <;> rfl

def pending : EnumConstant := ⟨"Pending", 0⟩

def shipped : EnumConstant := ⟨"Shipped", 1⟩

def delivered : EnumConstant := ⟨"Delivered", 2⟩

def status : Member :=
  ⟨[.field "status"], .enum, false⟩

/-- Orders that are no longer pending. -/
def afterPending : Expr :=
  .compare (.member status) .gt (.value (.enum pending))

/-- The row of an order that has one document by numbers and one by names. -/
def rowIn (number name : String) (o : EnumStorage) : Record :=
  { undecided with
    data :=
      match o with
      | .asInteger => number
      | .asText => name }

/-- An order that has been shipped. -/
def shippedOrder : Kept where
  payload := .object [("id", .whole 7), ("status", .constant shipped)]
  row := rowIn "\x7b\"id\":7,\"status\":1\x7d" "\x7b\"id\":7,\"status\":\"Shipped\"\x7d"
  reads o := by cases o <;> cbv
  alike _ _ := rfl

/-- An order that has been delivered. -/
def deliveredOrder : Kept where
  payload := .object [("id", .whole 7), ("status", .constant delivered)]
  row := rowIn "\x7b\"id\":7,\"status\":2\x7d" "\x7b\"id\":7,\"status\":\"Delivered\"\x7d"
  reads o := by cases o <;> cbv
  alike _ _ := rfl

/-- What the predicate is compiled to in a form. -/
def afterPendingIn (o : EnumStorage) : Fragment :=
  .compare (Located.inDocument o ⟨["status"]⟩ .enum).typed .gt (pending.valueIn o)

theorem afterPending_compiled (o : EnumStorage) :
    (compiler.storing o).compile afterPending = .ok (afterPendingIn o) := by
  cases o <;> rfl

theorem status_path : compiler.pathOf status = ["status"] := rfl

/-- An order with a status is one that a predicate on it can be asked of. -/
theorem suited_of_status {k : Kept} {E : List EnumConstant} {c : EnumConstant} (mem : c ∈ E)
    (there : k.payload.at? ["status"] = some (.constant c)) :
    compiler.Suited (fun _ => E) (· = status) k where
  short _ _ _ mssql := by cases mssql
  suits m named _ x found := by
    subst named
    rw [status_path, there] at found
    obtain rfl := Option.some.inj found
    exact .inr ⟨c, mem, rfl⟩

/-- Is an order with a status taken? -/
theorem truth_afterPending {k : Kept} {E : List EnumConstant} {c : EnumConstant} (mem : c ∈ E)
    (there : k.payload.at? ["status"] = some (.constant c)) (o : EnumStorage) :
    finding.truth ((k.row o).env [pending.valueIn o]) ((afterPendingIn o).toCondition .sqlite #[]).1 =
      (finding.compare (c.valueIn o) (pending.valueIn o)).map Operator.gt.holds := by
  have suited := suited_of_status mem there
  have suits : ∀ x, k.payload.at? ["status"] = some x → x.IsOneOf E := suited.suits status rfl rfl
  have bound : ((afterPendingIn o).toCondition .sqlite #[]).2.toList <+: [pending.valueIn o] := by
    cases o <;> exact List.prefix_refl _
  have means : finding.means .sqlite (k.row o).get (afterPendingIn o) = _ :=
    Compiler.means_compare_enum (c := compiler) finding_speaks suited.short suits o .gt pending
  rw [Library.truth_toCondition bound]
  refine means.trans ?_
  rw [there]
  rfl

/-- A delivered order is after a pending one by its discriminant, and before it by its name. -/
theorem storing_differs :
    OneToOne [pending, shipped, delivered] ∧
      compiler.Suited (fun _ => [pending, shipped, delivered]) (· = status) deliveredOrder ∧
      (∀ o, (compiler.storing o).compile afterPending = .ok (afterPendingIn o)) ∧
      ([deliveredOrder].filter fun k => finding.truth ((k.row .asText).env [pending.valueIn .asText])
        ((afterPendingIn .asText).toCondition .sqlite #[]).1 = some true) = [] ∧
      ([deliveredOrder].filter fun k => finding.truth ((k.row .asInteger).env [pending.valueIn .asInteger])
        ((afterPendingIn .asInteger).toCondition .sqlite #[]).1 = some true) = [deliveredOrder] := by
  have mem : delivered ∈ [pending, shipped, delivered] := by decide
  have there : deliveredOrder.payload.at? ["status"] = some (.constant delivered) := rfl
  have names : finding.compare (delivered.valueIn .asText) (pending.valueIn .asText) = some .lt := by
    rw [Library.compare_valueIn_asText, finding_less]
    decide
  have numbers : finding.compare (delivered.valueIn .asInteger) (pending.valueIn .asInteger) =
      some .gt := rfl
  refine ⟨⟨by decide, by decide⟩, suited_of_status mem there, afterPending_compiled, ?_, ?_⟩
  · rw [List.filter_singleton, truth_afterPending mem there, names]
    rfl
  · rw [List.filter_singleton, truth_afterPending mem there, numbers]
    rfl

/-- A shipped order is after a pending one by its discriminant, and so it is by its name. -/
theorem storing_agrees_shipped :
    ([shippedOrder].filter fun k => finding.truth ((k.row .asInteger).env [pending.valueIn .asInteger])
        ((afterPendingIn .asInteger).toCondition .sqlite #[]).1 = some true) = [shippedOrder] ∧
      ([shippedOrder].filter fun k => finding.truth ((k.row .asText).env [pending.valueIn .asText])
        ((afterPendingIn .asText).toCondition .sqlite #[]).1 = some true) = [shippedOrder] := by
  have mem : shipped ∈ [pending, shipped] := by decide
  have there : shippedOrder.payload.at? ["status"] = some (.constant shipped) := rfl
  have agrees : finding.AgreesOn [pending, shipped] .gt pending := by
    rw [Library.AgreesOn, finding_less]
    decide
  have draws : afterPending.Draws finding (fun _ => [pending, shipped]) (· = status) :=
    .compare (.inr ⟨rfl, pending, by decide, rfl, .inr (.inr agrees)⟩)
  have own : compiler.BuiltIn := fun _ none => by cases none
  have suited : ∀ k ∈ [shippedOrder], compiler.Suited (fun _ => [pending, shipped]) (· = status) k := by
    intro k one
    obtain rfl := List.mem_singleton.mp one
    exact suited_of_status mem there
  have enumeration : OneToOne [pending, shipped] := ⟨by decide, by decide⟩
  have numbers : finding.compare (shipped.valueIn .asInteger) (pending.valueIn .asInteger) =
      some .gt := rfl
  have taken : ([shippedOrder].filter fun k => finding.truth ((k.row .asInteger).env
      [pending.valueIn .asInteger]) ((afterPendingIn .asInteger).toCondition .sqlite #[]).1 =
        some true) = [shippedOrder] := by
    rw [List.filter_singleton, truth_afterPending mem there, numbers]
    rfl
  refine ⟨taken, Eq.trans ?_ taken⟩
  exact Compiler.storing_agrees finding_speaks finding_finds own (fun _ _ => enumeration) suited draws
    (afterPending_compiled .asText) (afterPending_compiled .asInteger) (List.prefix_refl _)
    (List.prefix_refl _)

end Orders

end Folio
