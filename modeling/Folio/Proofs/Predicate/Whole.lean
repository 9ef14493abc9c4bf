import Folio.Proofs.Predicate.Preserved
import Folio.Typed.Shape

/-!
# Folio.Proofs.Predicate.Whole

Members that are whole numbers: which number one is in a document (`Compiler.number?`), as what value a
database finds it (`Compiler.located_number`), what is documented of the functions that compute with
such values (`Library.Totals`), and as what number the result is read (`Shape.load_number`).
-/

namespace Folio

open Folio.Predicate
open Folio.Relational
open Folio.Sql (Dialect)
open Folio.Typed (Shape)

/-- The whole number that a value is. -/
def Value.number? : Value → Option Int
  | .int32 n => some n.toInt
  | .int64 n => some n.toInt
  | _ => none

theorem Value.isNull_of_number? {v : Value} {n : Int} (h : v.number? = some n) : v.isNull = false := by
  cases v with
  | null => cases h
  | _ => rfl

namespace ValueType

/-- The types of whole numbers. -/
def IsWhole (type : ValueType) : Prop :=
  type = .int32 ∨ type = .int64

/-- The number is in the type. -/
def Fits : ValueType → Int → Prop
  | .int32, n => (int32? n).isSome
  | .int64, n => (int64? n).isSome
  | _, _ => False

theorem fits_int32 (n : Int32) : ValueType.int32.Fits n.toInt := by
  have range : Int32.minValue.toInt ≤ n.toInt ∧ n.toInt ≤ Int32.maxValue.toInt :=
    ⟨n.minValue_le_toInt, n.toInt_le⟩
  rw [Fits, int32?, if_pos range]
  rfl

theorem fits_int64 (n : Int64) : ValueType.int64.Fits n.toInt := by
  simp [Fits]

/-- A number of 32 bits is one of 64 bits. -/
theorem Fits.wider {n : Int} (h : ValueType.int32.Fits n) : ValueType.int64.Fits n := by
  obtain ⟨k, narrow⟩ := Option.isSome_iff_exists.mp h
  rw [← toInt_of_int32? narrow, ← Int32.toInt_toInt64]
  exact fits_int64 _

end ValueType

/-- All numbers of values have 64 bits. -/
theorem Value.fits_of_number? {v : Value} {n : Int} (h : v.number? = some n) :
    ValueType.int64.Fits n := by
  cases v with
  | int32 k =>
    obtain rfl := Option.some.inj h
    exact (ValueType.fits_int32 k).wider
  | int64 k =>
    obtain rfl := Option.some.inj h
    exact ValueType.fits_int64 k
  | _ => cases h

/-! ### Members -/

/-- A document that was read is the JSON value of its text. -/
theorem Document.reads_body {kind : IdKind} {text : String} {doc : Document}
    (h : Document.read kind text = .ok doc) : Json.read text = some doc.body := by
  unfold Document.read at h
  cases read : Json.read text with
  | none =>
    rw [read] at h
    cases h
  | some j =>
    rw [read, Option.bind_some] at h
    unfold Document.ofJson at h
    split at h
    next d made =>
      obtain rfl := Except.ok.inj h
      obtain ⟨id, -, rfl⟩ := Option.map_eq_some_iff.mp made
      rfl
    next => cases h

namespace Predicate.Compiler

variable (c : Compiler) (m : Member)

/-- The whole number that a member of a document is. -/
def number? (doc : Document) : Option Int :=
  (if c.isIdentity m then m.type.ofId doc.id
    else (doc.body.at? (c.pathOf m)).bind m.type.ofJson).bind Value.number?

/-- The value as which a database finds a number of the member. SQLite has one type of whole numbers for
what is in documents. -/
def numberAs (n : Int) : Value :=
  if m.type = .int32 ∧ (c.isIdentity m = true ∨ c.dialect = .mssql) then .int32 (Int32.ofInt n)
  else .int64 (Int64.ofInt n)

variable {c m} {L : Library} {r : Record}

theorem numberAs_int32 {n : Int32} (type : m.type = .int32)
    (own : c.isIdentity m = true ∨ c.dialect = .mssql) : c.numberAs m n.toInt = .int32 n := by
  rw [numberAs, if_pos ⟨type, own⟩, Int32.ofInt_toInt]

theorem numberAs_int64 {n : Int64}
    (other : ¬(m.type = .int32 ∧ (c.isIdentity m = true ∨ c.dialect = .mssql))) :
    c.numberAs m n.toInt = .int64 n := by
  rw [numberAs, if_neg other, Int64.ofInt_toInt]

/-- A number of the member is the number of the value as which it is found. -/
theorem number?_numberAs {n : Int} (whole : m.type.IsWhole) (fits : m.type.Fits n) :
    (c.numberAs m n).number? = some n := by
  have wide (fits : ValueType.int64.Fits n) : (Value.int64 (Int64.ofInt n)).number? = some n := by
    obtain ⟨k, is⟩ := Option.isSome_iff_exists.mp fits
    obtain rfl := toInt_of_int64? is
    rw [Int64.ofInt_toInt]
    rfl
  unfold numberAs
  rcases whole with type | type
  · rw [type] at fits
    split
    · obtain ⟨k, is⟩ := Option.isSome_iff_exists.mp fits
      obtain rfl := toInt_of_int32? is
      rw [Int32.ofInt_toInt]
      rfl
    · exact wide fits.wider
  · rw [type] at fits
    rw [if_neg (by simp [type])]
    exact wide fits

/-- The identity is found as it is. -/
theorem located_number_identity {n : Int} (whole : m.type.IsWhole) (identity : c.isIdentity m = true)
    (number : (m.type.ofId r.id).bind Value.number? = some n) :
    r.id.toValue = c.numberAs m n ∧ m.type.Fits n := by
  rcases whole with type | type
  · rw [type] at number ⊢
    cases id : r.id with
    | int32 k =>
      rw [id] at number
      obtain rfl := Option.some.inj number
      exact ⟨(numberAs_int32 type (.inl identity)).symm, ValueType.fits_int32 k⟩
    | _ =>
      rw [id] at number
      cases number
  · rw [type] at number ⊢
    cases id : r.id with
    | int64 k =>
      rw [id] at number
      obtain rfl := Option.some.inj number
      exact ⟨(numberAs_int64 (by simp [type])).symm, ValueType.fits_int64 k⟩
    | _ =>
      rw [id] at number
      cases number

/-- What is at the path of a member is found in the form in which its dialect stores it. -/
theorem located_number_inside {n : Int} {j : Json} (speaks : L.Speaks c.dialect)
    (whole : m.type.IsWhole) (inside : c.isIdentity m = false) (reads : Json.read r.data = some j)
    (number : ((j.at? (c.pathOf m)).bind m.type.ofJson).bind Value.number? = some n) :
    L.located c.dialect r.get (Located.inDocument c.options.enums ⟨c.pathOf m⟩ m.type).typed =
        c.numberAs m n ∧ m.type.Fits n := by
  obtain ⟨v, found, number⟩ := Option.bind_eq_some_iff.mp number
  obtain ⟨x, there, of⟩ := Option.bind_eq_some_iff.mp found
  have stands := ValueType.stands_of_ofJson of
  have simple : m.type.IsSimple c.options.enums := by
    rcases whole with type | type <;> rw [type] <;> exact trivial
  have sharp : ¬Blurred c.dialect m.type (j.at? (c.pathOf m)) := by
    rw [there]
    rcases whole with type | type <;> rw [type] at stands ⊢ <;> cases stands <;> exact id
  rw [speaks.located_typed ⟨c.pathOf m⟩ reads simple there stands sharp]
  rcases whole with type | type
  · rw [type] at stands ⊢
    cases stands with
    | int32 k =>
      obtain rfl := Option.some.inj number
      refine ⟨?_, ValueType.fits_int32 k⟩
      cases dialect : c.dialect with
      | mssql => exact (numberAs_int32 type (.inr dialect)).symm
      | sqlite =>
        show Value.int64 k.toInt64 = _
        rw [← Int32.toInt_toInt64]
        exact (numberAs_int64 (by simp [inside, dialect])).symm
  · rw [type] at stands ⊢
    cases stands with
    | int64 k =>
      obtain rfl := Option.some.inj number
      exact ⟨(numberAs_int64 (by simp [type])).symm, ValueType.fits_int64 k⟩

/-- A database finds the number that the member is in the document of a row. -/
theorem located_number {l : Located} {kind : IdKind} {doc : Document} {n : Int}
    (speaks : L.Speaks c.dialect) (whole : m.type.IsWhole) (located : c.locate m = .ok l)
    (read : Document.read kind r.data = .ok doc) (own : doc.id = r.id)
    (number : c.number? m doc = some n) :
    L.located c.dialect r.get l.typed = c.numberAs m n ∧ m.type.Fits n := by
  rcases locate_cases located with ⟨identity, rfl⟩ | ⟨inside, rfl⟩
  · have column : L.located c.dialect r.get (Located.identity m.type).typed = r.id.toValue := by
      cases c.dialect <;> rfl
    rw [number?, if_pos identity, own] at number
    rw [column]
    exact located_number_identity whole identity number
  · rw [number?, if_neg (Bool.eq_false_iff.mp inside)] at number
    exact located_number_inside speaks whole inside (Document.reads_body read) number

end Predicate.Compiler

/-! ### What is computed -/

/-- Documented behaviour of the databases: what they compute from whole numbers. A sum has 32 bits, or 64
if everything that is added up has. -/
structure Relational.Library.Totals (L : Library) : Prop where
  nothing : ∀ a, L.reply (L.aggregate a []) = .null
  sum : ∀ {vs : List Value} {ns : List Int}, vs.map Value.number? = ns.map some → ns ≠ [] →
    ValueType.int32.Fits ns.sum ∨ ValueType.int64.Fits ns.sum ∧ (∀ v ∈ vs, ∃ n, v = .int64 n) →
      (L.reply (L.aggregate .sum vs)).number? = some ns.sum
  min : ∀ {vs : List Value} {ns : List Int} {n : Int}, vs.map Value.number? = ns.map some →
    ns.min? = some n → (L.reply (L.aggregate .min vs)).number? = some n
  max : ∀ {vs : List Value} {ns : List Int} {n : Int}, vs.map Value.number? = ns.map some →
    ns.max? = some n → (L.reply (L.aggregate .max vs)).number? = some n

/-- A number that fits the type of a shape is read as that number. -/
theorem Typed.Shape.load_number {shape : Shape} {v : Value} {n : Int} (whole : shape.type.IsWhole)
    (number : v.number? = some n) (fits : shape.type.Fits n) :
    ∃ w, shape.load v = .ok w ∧ w.number? = some n := by
  induction shape with
  | int32 =>
    cases v with
    | int32 k => exact ⟨.int32 k, rfl, number⟩
    | int64 k =>
      obtain rfl := Option.some.inj number
      obtain ⟨k', is⟩ := Option.isSome_iff_exists.mp fits
      have cast : ValueType.int32.cast (.int64 k) = .ok (.int32 k') := by
        show Value.orCannot (.int64 k) "i32" .int32 (int32? k.toInt) = _
        rw [is]
        rfl
      refine ⟨.int32 k', ?_, congrArg some (toInt_of_int32? is)⟩
      rw [Shape.load, Shape.loadScalar, cast]
      rfl
    | _ => cases number
  | int64 =>
    cases v with
    | int32 k =>
      refine ⟨.int64 k.toInt64, rfl, ?_⟩
      rw [← number]
      exact congrArg some (Int32.toInt_toInt64 k)
    | int64 k => exact ⟨.int64 k, rfl, number⟩
    | _ => cases number
  | maybe inner ih =>
    obtain ⟨w, loaded, same⟩ := ih whole fits
    refine ⟨w, ?_, same⟩
    rw [Shape.load, if_neg (by simp [Value.isNull_of_number? number])]
    exact loaded
  | _ => rcases whole with type | type <;> cases type

end Folio
