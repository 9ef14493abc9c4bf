import Folio.Proofs.Predicate.Preserved

/-!
# Folio.Proofs.Predicate.Enumerated

Documents with constants of enumerations, which are stored by their discriminants or by their names.

* `Payload`: a document before its constants are stored in one of the forms, and `Kept`: its rows, one for
  each form.
* `Library.Finds`: what is documented of the databases about the parts of documents that are no scalars.
* `EnumConstant.valueIn`: the value as which a constant is found in a form, and compared there.
* `Kept.located_enum`, `Kept.isNull_row`, `Kept.map_elements`, `Kept.located_plain`: what is found of a
  member in the rows.
-/

namespace Folio

open Folio.Predicate
open Folio.Relational
open Folio.Sql (Dialect JsonPath)
open Folio.Statement (Conversion Locator)

/-! ### Documents -/

/-- A document whose constants of enumerations are in no form yet. -/
inductive Payload
  | null
  | bool (b : Bool)
  | whole (n : Int)
  | float (x : Number.Binary64)
  | text (s : String)
  | constant (c : EnumConstant)
  | array (items : List Payload)
  | object (members : List (String × Payload))

namespace Payload

mutual

/-- The document with its constants in a form. -/
def stored (o : EnumStorage) : Payload → Json
  | .null => .null
  | .bool b => .bool b
  | .whole n => .whole n
  | .float x => .float x
  | .text s => .text s
  | .constant c =>
    match o with
    | .asInteger => .whole c.discriminant.toInt
    | .asText => .text c.name
  | .array items => .array (storedItems o items)
  | .object members => .object (storedMembers o members)

/-- The items of an array with their constants in a form. -/
def storedItems (o : EnumStorage) : List Payload → List Json
  | [] => []
  | x :: rest => x.stored o :: storedItems o rest

/-- The members of an object with their constants in a form. -/
def storedMembers (o : EnumStorage) : List (String × Payload) → List (String × Json)
  | [] => []
  | (name, x) :: rest => (name, x.stored o) :: storedMembers o rest

end

/-- The member of that name. -/
def member? (x : Payload) (name : String) : Option Payload :=
  match x with
  | .object members => members.lookup name
  | _ => none

/-- The part at a path of names. -/
def at? (x : Payload) (names : List String) : Option Payload :=
  names.foldlM member? x

variable {o : EnumStorage}

theorem lookup_storedMembers (members : List (String × Payload)) (name : String) :
    (storedMembers o members).lookup name = (members.lookup name).map (stored o) := by
  induction members with
  | nil => rfl
  | cons entry rest ih =>
    obtain ⟨key, x⟩ := entry
    rw [storedMembers, List.lookup_cons, List.lookup_cons, ih]
    cases name == key <;> rfl

theorem member?_stored (x : Payload) (name : String) :
    (x.stored o).member? name = (x.member? name).map (stored o) := by
  cases x with
  | object members => exact lookup_storedMembers members name
  | constant c => cases o <;> rfl
  | _ => rfl

/-- What is at a path of the stored document is what is there, stored. -/
theorem at?_stored (x : Payload) (names : List String) :
    (x.stored o).at? names = (x.at? names).map (stored o) := by
  induction names generalizing x with
  | nil => rfl
  | cons name rest ih =>
    show ((x.stored o).member? name).bind (Json.at? · rest) =
      ((x.member? name).bind (at? · rest)).map (stored o)
    rw [member?_stored]
    cases x.member? name with
    | none => rfl
    | some y => exact ih y

/-- Nothing, or one of the constants. -/
def IsOneOf (E : List EnumConstant) (x : Payload) : Prop :=
  x = .null ∨ ∃ c ∈ E, x = .constant c

/-- What a member of a type is: one of the constants, a list of such, or something without constants. -/
def Suits (E : List EnumConstant) : ValueType → Payload → Prop
  | .enum, x => x.IsOneOf E
  | .list .enum, x => x = .null ∨ ∃ items, x = .array items ∧ ∀ y ∈ items, y.IsOneOf E
  | _, x => x.stored .asInteger = x.stored .asText

end Payload

/-- A document as tables keep it, with a row for each form. -/
structure Kept where
  payload : Payload
  row : EnumStorage → Record
  reads : ∀ o, Json.read (row o).data = some (payload.stored o)
  alike : ∀ o o', row o = { row o' with data := (row o).data }

/-- A unit enumeration: names and discriminants are one to one. -/
structure OneToOne (E : List EnumConstant) : Prop where
  names : ∀ x ∈ E, ∀ y ∈ E, x.name = y.name → x = y
  discriminants : ∀ x ∈ E, ∀ y ∈ E, x.discriminant = y.discriminant → x = y

/-! ### What databases find -/

namespace Relational

/-- What a database answers for an element of an array, where it matters here. SQL Server answers texts. -/
def element? (d : Dialect) : Json → Option Value
  | .null => some .null
  | .whole n =>
    match d with
    | .mssql => some (.text (toString n))
    | .sqlite => (int64? n).map .int64
  | .text s => some (.text s)
  | _ => none

/-- Documented behaviour of the databases of a dialect. They look at the part of a document that is at the
path; a part with others in it is a text to SQLite, and missing to SQL Server; what is missing has no
elements that are there; and nothing is compared with a list of values, which no database has. -/
structure Library.Finds (L : Library) (d : Dialect) : Prop where
  json_local : ∀ {path s t j k}, Json.read s = some j → Json.read t = some k →
    j.at? path.names = k.at? path.names → L.json path (.text s) = L.json path (.text t)
  jsonType_local : ∀ {path s t j k}, Json.read s = some j → Json.read t = some k →
    j.at? path.names = k.at? path.names → L.jsonType path (.text s) = L.jsonType path (.text t)
  elements_local : ∀ {path s t j k}, Json.read s = some j → Json.read t = some k →
    j.at? path.names = k.at? path.names → L.elements path (.text s) = L.elements path (.text t)
  json_array : ∀ {path s j items}, Json.read s = some j → j.at? path.names = some (.array items) →
    (L.json path (.text s)).isNull = decide (d = .mssql)
  json_object : ∀ {path s j members}, Json.read s = some j →
    j.at? path.names = some (.object members) → (L.json path (.text s)).isNull = decide (d = .mssql)
  elements_missing : ∀ {path s j}, Json.read s = some j →
    j.at? path.names = none ∨ j.at? path.names = some .null →
      ∀ e ∈ L.elements path (.text s), e.1 = .null
  elements_array : ∀ {path s j items}, Json.read s = some j → j.at? path.names = some (.array items) →
    ∀ {vs}, items.mapM (element? d) = some vs → (L.elements path (.text s)).map Prod.fst = vs
  order_list : ∀ v items, L.order v (.list items) = none

end Relational

/-! ### Values -/

/-- The value as which a constant is found in a form, and compared with what is found. -/
def EnumConstant.valueIn (o : EnumStorage) (c : EnumConstant) : Value :=
  match o with
  | .asInteger => .int64 c.discriminant
  | .asText => .text c.name

/-- The value as which a part is found, if it is one of the constants. -/
def Payload.valueIn (o : EnumStorage) : Payload → Value
  | .constant c => c.valueIn o
  | _ => .null

namespace Relational.Library

variable (L : Library) {E : List EnumConstant}

/-- The names of the constants are, next to that of this one, in the order of their discriminants, as far
as the operator tells. -/
def AgreesOn (E : List EnumConstant) (op : Operator) (c : EnumConstant) : Prop :=
  ∀ x ∈ E, op.holds (exactly (x.name = c.name) (L.less (.text x.name) (.text c.name))) =
    op.holds (exactly (x.discriminant = c.discriminant) (x.discriminant < c.discriminant))

theorem compare_valueIn_asText (x c : EnumConstant) :
    L.compare (x.valueIn .asText) (c.valueIn .asText) =
      some (exactly (x.name = c.name) (L.less (.text x.name) (.text c.name))) := rfl

/-- Equality does not tell the forms apart. -/
theorem agreesOn_of_equality (enumeration : OneToOne E) {op : Operator} (equality : op = .eq ∨ op = .ne)
    {c : EnumConstant} (mem : c ∈ E) : L.AgreesOn E op c := by
  intro x there
  by_cases same : x = c
  · subst same
    simp [exactly]
  · have name : x.name ≠ c.name := fun h => same (enumeration.names x there c mem h)
    have number : x.discriminant ≠ c.discriminant := fun h =>
      same (enumeration.discriminants x there c mem h)
    have unequal (less : Bool) : (exactly false less == .eq) = false := by cases less <;> rfl
    rcases equality with rfl | rfl <;>
      simp only [Operator.holds, exactly, name, number, decide_false, Bool.false_eq_true, if_false] <;>
      split <;> split <;> rfl

/-- A comparison in which the names agree with the discriminants has the same truth in both forms. -/
theorem compare_valueIn {op : Operator} {c : EnumConstant} (agrees : L.AgreesOn E op c) {x : Payload}
    (one : x.IsOneOf E) :
    (L.compare (x.valueIn .asText) (c.valueIn .asText)).map op.holds =
      (L.compare (x.valueIn .asInteger) (c.valueIn .asInteger)).map op.holds := by
  rcases one with rfl | ⟨y, mem, rfl⟩
  · rfl
  · exact congrArg some (agrees y mem)

end Relational.Library

/-- SQL Server finds no texts that are too long. -/
def Payload.Short (d : Dialect) (x : Payload) : Prop :=
  ∀ names c, x.at? names = some (.constant c) → d = .mssql → utf16Length c.name ≤ 4000

namespace Kept

variable {L : Library} {d : Dialect} {E : List EnumConstant} (k : Kept) (o : EnumStorage) (path : JsonPath)

/-- What is at a path in a row is what is there in the document, stored. -/
theorem at?_row : (k.payload.stored o).at? path.names =
    (k.payload.at? path.names).map (Payload.stored o) :=
  Payload.at?_stored _ _

theorem id_row : (k.row .asText).id = (k.row .asInteger).id := by
  rw [k.alike .asText .asInteger]

/-! ### Constants -/

section

variable (speaks : L.Speaks d) (short : k.payload.Short d)

include speaks

/-- What is missing is found to be so, in either form. -/
theorem json_missing (missing : k.payload.at? path.names = none ∨ k.payload.at? path.names = some .null) :
    L.json path (.text (k.row o).data) = .null := by
  refine speaks.json (k.reads o) ?_
  rw [at?_row]
  rcases missing with there | there <;> rw [there] <;> rfl

include short

/-- A name is found as it is. -/
theorem json_name {c : EnumConstant} (there : k.payload.at? path.names = some (.constant c)) :
    L.json path (.text (k.row .asText).data) = .text c.name := by
  refine speaks.json (k.reads .asText) ?_
  rw [at?_row, there]
  cases d with
  | mssql => exact congrArg some (if_neg (short _ c there rfl).not_gt)
  | sqlite => rfl

/-- A constant is there, in either form. -/
theorem json_constant {c : EnumConstant} (there : k.payload.at? path.names = some (.constant c)) :
    (L.json path (.text (k.row o).data)).isNull = false := by
  cases o with
  | asText => exact congrArg Value.isNull (k.json_name path speaks short there)
  | asInteger =>
    have number : ∃ v, scalar? d (some (.whole c.discriminant.toInt)) = some v ∧ v.isNull = false := by
      cases d with
      | mssql => exact ⟨_, rfl, rfl⟩
      | sqlite => exact ⟨_, congrArg (Option.map Value.int64) (int64?_toInt _), rfl⟩
    obtain ⟨v, is, present⟩ := number
    rw [speaks.json (k.reads .asInteger) (by rw [at?_row, there]; exact is), present]

/-- A constant is found as its discriminant or as its name. -/
theorem located_enum (suits : ∀ x, k.payload.at? path.names = some x → x.IsOneOf E) :
    L.located d (k.row o).get (Located.inDocument o path .enum).typed =
      ((k.payload.at? path.names).map (Payload.valueIn o)).getD .null := by
  have number : L.located d (k.row o).get ⟨.json path, .cast .bigint⟩ =
      L.cast .bigint (L.json path (.text (k.row o).data)) := by
    cases d <;> rfl
  have name : L.located d (k.row o).get ⟨.json path, .none⟩ =
      L.json path (.text (k.row o).data) := by
    cases d <;> rfl
  have missing (absent : k.payload.at? path.names = none ∨ k.payload.at? path.names = some .null) :
      L.located d (k.row o).get (Located.inDocument o path .enum).typed = .null := by
    have none := k.json_missing o path speaks absent
    cases o with
    | asInteger =>
      show L.located d _ ⟨.json path, .cast .bigint⟩ = _
      rw [number, none, speaks.cast_null]
    | asText =>
      show L.located d _ ⟨.json path, .none⟩ = _
      rw [name, none]
  cases there : k.payload.at? path.names with
  | none => exact missing (.inl there)
  | some x =>
    rcases suits x there with rfl | ⟨c, -, rfl⟩
    · exact missing (.inr there)
    · cases o with
      | asInteger =>
        show L.located d _ ⟨.json path, .cast .bigint⟩ = _
        rw [number]
        exact speaks.cast_bigint_found path (k.reads .asInteger) (by rw [at?_row, there]; rfl)
      | asText =>
        show L.located d _ ⟨.json path, .none⟩ = _
        rw [name, k.json_name path speaks short there]
        rfl

/-- Whatever there is in a document is there in both forms, or in neither. -/
theorem isNull_row (finds : L.Finds d) :
    (L.json path (.text (k.row .asText).data)).isNull =
      (L.json path (.text (k.row .asInteger).data)).isNull := by
  have plain (alike : (k.payload.at? path.names).map (Payload.stored .asText) =
      (k.payload.at? path.names).map (Payload.stored .asInteger)) :
      (L.json path (.text (k.row .asText).data)).isNull =
        (L.json path (.text (k.row .asInteger).data)).isNull := by
    refine congrArg Value.isNull (finds.json_local (k.reads .asText) (k.reads .asInteger) ?_)
    rw [at?_row, at?_row, alike]
  cases there : k.payload.at? path.names with
  | none => exact plain (by rw [there]; rfl)
  | some x =>
    cases x with
    | constant c =>
      rw [k.json_constant .asText path speaks short there,
        k.json_constant .asInteger path speaks short there]
    | array items =>
      have array (o : EnumStorage) :
          (L.json path (.text (k.row o).data)).isNull = decide (d = .mssql) :=
        finds.json_array (k.reads o) (by rw [at?_row, there]; rfl)
      rw [array, array]
    | object members =>
      have object (o : EnumStorage) :
          (L.json path (.text (k.row o).data)).isNull = decide (d = .mssql) :=
        finds.json_object (k.reads o) (by rw [at?_row, there]; rfl)
      rw [object, object]
    | _ => exact plain (by rw [there]; rfl)

end

/-! ### Lists -/

/-- The value as which an element of an array is found, if it is one of the constants. -/
def elementIn (d : Dialect) (o : EnumStorage) : Payload → Value
  | .constant c =>
    match o, d with
    | .asInteger, .mssql => .text (toString c.discriminant.toInt)
    | .asInteger, .sqlite => .int64 c.discriminant
    | .asText, _ => .text c.name
  | _ => .null

theorem element?_stored {x : Payload} (one : x.IsOneOf E) :
    element? d (x.stored o) = some (elementIn d o x) := by
  rcases one with rfl | ⟨c, -, rfl⟩
  · rfl
  · cases o with
    | asText => rfl
    | asInteger =>
      cases d with
      | mssql => rfl
      | sqlite => exact congrArg (Option.map Value.int64) (int64?_toInt _)

/-- The conversion that makes the elements comparable. -/
def conversionIn : EnumStorage → Conversion
  | .asInteger => .cast .bigint
  | .asText => .none

/-- An element is compared as the constant that it is. -/
theorem element_elementIn (speaks : L.Speaks d) (row : String → Value) {x : Payload} (type : Value) :
    L.element d row (conversionIn o) (elementIn d o x, type) = x.valueIn o := by
  have text : L.element d row (conversionIn .asText) (elementIn d .asText x, type) =
      elementIn d .asText x := by
    cases d <;> rfl
  have number : L.element d row (conversionIn .asInteger) (elementIn d .asInteger x, type) =
      L.cast .bigint (elementIn d .asInteger x) := by
    cases d <;> rfl
  cases o with
  | asText =>
    rw [text]
    cases x <;> rfl
  | asInteger =>
    rw [number]
    cases x with
    | constant c =>
      cases d with
      | mssql => exact speaks.cast_bigint rfl c.discriminant
      | sqlite => exact speaks.cast_whole rfl _ c.discriminant (.inr rfl)
    | _ => exact speaks.cast_null _

theorem mapM_element? {items : List Payload} (ones : ∀ x ∈ items, x.IsOneOf E) :
    (Payload.storedItems o items).mapM (element? d) = some (items.map (elementIn d o)) := by
  induction items with
  | nil => rfl
  | cons x rest ih =>
    rw [Payload.storedItems, List.mapM_cons, element?_stored o (ones x List.mem_cons_self),
      ih fun y mem => ones y (List.mem_cons_of_mem _ mem)]
    rfl

/-- What is compared of the elements of an array: the constants in it. -/
theorem map_elements (speaks : L.Speaks d) (finds : L.Finds d) {items : List Payload}
    (there : k.payload.at? path.names = some (.array items)) (ones : ∀ x ∈ items, x.IsOneOf E) :
    (L.elements path (.text (k.row o).data)).map (L.element d (k.row o).get (conversionIn o)) =
      items.map (Payload.valueIn o) := by
  have found := k.at?_row o path
  rw [there] at found
  have values := finds.elements_array (k.reads o) found (mapM_element? o ones)
  have first (e : Value × Value) : L.element d (k.row o).get (conversionIn o) e =
      L.element d (k.row o).get (conversionIn o) (e.1, .null) := by
    cases o <;> cases d <;> rfl
  calc (L.elements path (.text (k.row o).data)).map (L.element d (k.row o).get (conversionIn o))
      = ((L.elements path (.text (k.row o).data)).map Prod.fst).map fun v =>
          L.element d (k.row o).get (conversionIn o) (v, .null) := by
        rw [List.map_map]
        exact List.map_congr_left fun e _ => first e
    _ = items.map (Payload.valueIn o) := by
        rw [values, List.map_map]
        exact List.map_congr_left fun x _ => element_elementIn o speaks _ _

/-- An array contains the same constants in both forms. -/
theorem contains_enum (speaks : L.Speaks d) (finds : L.Finds d)
    (suits : ∀ x, k.payload.at? path.names = some x → x.Suits E (.list .enum)) {v : EnumStorage → Value}
    (same : ∀ x : Payload, x.IsOneOf E →
      L.equal (x.valueIn .asText) (v .asText) = L.equal (x.valueIn .asInteger) (v .asInteger)) :
    L.means d (k.row .asText).get (.arrayContains path (conversionIn .asText) (v .asText)) =
      L.means d (k.row .asInteger).get
        (.arrayContains path (conversionIn .asInteger) (v .asInteger)) := by
  have compared (o : EnumStorage) :
      L.means d (k.row o).get (.arrayContains path (conversionIn o) (v o)) =
        some (((L.elements path (.text (k.row o).data)).map
          (L.element d (k.row o).get (conversionIn o))).any fun w => L.equal w (v o) = some true) := by
    rw [List.any_map]
    rfl
  rw [compared, compared]
  have missing (o : EnumStorage) (absent : (k.payload.at? path.names).map (Payload.stored o) = none ∨
      (k.payload.at? path.names).map (Payload.stored o) = some .null) :
      (((L.elements path (.text (k.row o).data)).map
        (L.element d (k.row o).get (conversionIn o))).any fun w => L.equal w (v o) = some true) =
          false := by
    rw [List.any_map, List.any_eq_false]
    intro e mem
    have none := finds.elements_missing (k.reads o) (k.at?_row o path ▸ absent) e mem
    have null : L.element d (k.row o).get (conversionIn o) e = .null := by
      obtain ⟨w, type⟩ := e
      obtain rfl : w = .null := none
      exact element_elementIn (x := .null) o speaks _ type
    show ¬decide (L.equal (L.element d (k.row o).get (conversionIn o) e) (v o) = some true) = true
    rw [null, Library.equal, L.compare_null]
    exact of_decide_eq_false rfl
  cases there : k.payload.at? path.names with
  | none =>
    rw [missing .asText (by rw [there]; exact .inl rfl),
      missing .asInteger (by rw [there]; exact .inl rfl)]
  | some x =>
    rcases suits x there with rfl | ⟨items, rfl, ones⟩
    · rw [missing .asText (by rw [there]; exact .inr rfl),
        missing .asInteger (by rw [there]; exact .inr rfl)]
    · rw [k.map_elements .asText path speaks finds there ones,
        k.map_elements .asInteger path speaks finds there ones, List.any_map, List.any_map]
      refine congrArg some (Bool.eq_iff_iff.mpr ?_)
      simp only [List.any_eq_true, Function.comp_apply]
      refine exists_congr fun x => and_congr_right fun mem => ?_
      rw [same x (ones x mem)]

/-! ### Members without constants -/

/-- What is stored alike is found alike. -/
theorem located_plain (finds : L.Finds d)
    (alike : (k.payload.at? path.names).map (Payload.stored .asInteger) =
      (k.payload.at? path.names).map (Payload.stored .asText)) (c : Conversion) :
    L.located d (k.row .asText).get ⟨.json path, c⟩ =
      L.located d (k.row .asInteger).get ⟨.json path, c⟩ := by
  have same : (k.payload.stored .asText).at? path.names =
      (k.payload.stored .asInteger).at? path.names := by
    rw [at?_row, at?_row, alike]
  have json := finds.json_local (k.reads .asText) (k.reads .asInteger) same
  have type := finds.jsonType_local (k.reads .asText) (k.reads .asInteger) same
  cases c with
  | none => cases d <;> exact json
  | cast t => cases d <;> exact congrArg (L.cast t) json
  | boolText =>
    cases d with
    | mssql => exact json
    | sqlite => exact type

theorem elements_plain (finds : L.Finds d)
    (alike : (k.payload.at? path.names).map (Payload.stored .asInteger) =
      (k.payload.at? path.names).map (Payload.stored .asText)) :
    L.elements path (.text (k.row .asText).data) = L.elements path (.text (k.row .asInteger).data) := by
  refine finds.elements_local (k.reads .asText) (k.reads .asInteger) ?_
  rw [at?_row, at?_row, alike]

end Kept

end Folio
