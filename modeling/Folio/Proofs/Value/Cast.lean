import Folio.Proofs.Database.Run
import Folio.ValueType

/-!
# Folio.Proofs.Value.Cast

What comes out of a cast.

* `ValueType.Has`: values of a type's own kind.
* `ValueType.has_of_cast`: a cast gives nothing else, but for the missing value, which it keeps.
* `ValueType.cast_of_has`: such a value is cast to itself.
* `ValueType.cast_projects`: so a cast is a projection onto the values of the type.
-/

namespace Folio

/-- The value is of the type's own kind. What stands for a constant of an enumeration or for an object is
not looked into, and items of a list may be missing. -/
def ValueType.Has : ValueType → Value → Prop
  | .bool, v => ∃ b, v = .bool b
  | .int32, v => ∃ n, v = .int32 n
  | .int64, v => ∃ n, v = .int64 n
  | .float, v => ∃ x, v = .float x
  | .decimal, v => ∃ d, v = .decimal d
  | .text, v => ∃ s, v = .text s
  | .uuid, v => ∃ u, v = .uuid u
  | .timestamp, v => ∃ t, v = .timestamp t
  | .enum, _ | .object, _ => True
  | .list item, v => ∃ items, v = .list items ∧ ∀ w ∈ items, w = .null ∨ item.Has w

/-! ### Conversions -/

namespace Value

variable {v w : Value}

theorem ne_null_of_isNull (there : v.isNull = false) : v ≠ .null := by
  rintro rfl
  cases there

theorem orCannot_eq_ok {α : Type} {target : String} {wrap : α → Value} {o : Option α} :
    v.orCannot target wrap o = .ok w ↔ o.map wrap = some w := by
  cases o with
  | none => exact iff_of_false nofun nofun
  | some a => simp [orCannot]

theorem orFault_eq_ok {α : Type} {wrap : α → Value} {x : Except Number.WholeFault α} :
    orFault wrap x = .ok w ↔ ∃ a, x = .ok a ∧ wrap a = w := by
  cases x with
  | error fault => exact iff_of_false nofun nofun
  | ok a => simp [orFault]

theorem of_orCannot {α : Type} {target : String} {wrap : α → Value} {o : Option α}
    (h : v.orCannot target wrap o = .ok w) : ∃ a, w = wrap a := by
  obtain ⟨a, -, rfl⟩ := Option.map_eq_some_iff.mp (orCannot_eq_ok.mp h)
  exact ⟨a, rfl⟩

theorem of_orFault {α : Type} {wrap : α → Value} {x : Except Number.WholeFault α}
    (h : orFault wrap x = .ok w) : ∃ a, w = wrap a := by
  obtain ⟨a, -, rfl⟩ := orFault_eq_ok.mp h
  exact ⟨a, rfl⟩

theorem has_of_toBool (h : v.toBool = .ok w) : ValueType.bool.Has w := by
  cases v with
  | bool b | int32 n | int64 n => exact ⟨_, (Except.ok.inj h).symm⟩
  | text s =>
    simp only [toBool] at h
    split at h
    · exact ⟨_, (Except.ok.inj h).symm⟩
    · split at h
      · exact ⟨_, (Except.ok.inj h).symm⟩
      · cases h
  | _ => cases h

theorem has_of_toInt32 (h : v.toInt32 = .ok w) : ValueType.int32.Has w := by
  cases v with
  | bool b | int32 n => exact ⟨_, (Except.ok.inj h).symm⟩
  | int64 n | decimal d => exact of_orCannot h
  | text s => exact of_orFault h
  | float x =>
    simp only [toInt32] at h
    split at h
    · exact ⟨_, (Except.ok.inj h).symm⟩
    · cases h
  | _ => cases h

theorem has_of_toInt64 (h : v.toInt64 = .ok w) : ValueType.int64.Has w := by
  cases v with
  | bool b | int32 n | int64 n => exact ⟨_, (Except.ok.inj h).symm⟩
  | decimal d => exact of_orCannot h
  | text s => exact of_orFault h
  | float x =>
    simp only [toInt64] at h
    split at h
    · exact ⟨_, (Except.ok.inj h).symm⟩
    · cases h
  | _ => cases h

theorem has_of_toFloat (h : v.toFloat = .ok w) : ValueType.float.Has w := by
  cases v with
  | float x | int32 n | int64 n | decimal d => exact ⟨_, (Except.ok.inj h).symm⟩
  | text s =>
    unfold toFloat at h
    exact of_orCannot h
  | _ => cases h

theorem has_of_toDecimal (h : v.toDecimal = .ok w) : ValueType.decimal.Has w := by
  cases v with
  | decimal d | int32 n | int64 n => exact ⟨_, (Except.ok.inj h).symm⟩
  | float x | text s =>
    unfold toDecimal at h
    exact of_orCannot h
  | _ => cases h

theorem has_of_toTextValue (h : v.toTextValue = .ok w) : ValueType.text.Has w := by
  cases v with
  | text s | timestamp t | uuid u | int32 n | int64 n | enum c => exact ⟨_, (Except.ok.inj h).symm⟩
  | _ => cases h

theorem has_of_toUuid (h : v.toUuid = .ok w) : ValueType.uuid.Has w := by
  cases v with
  | uuid u => exact ⟨_, (Except.ok.inj h).symm⟩
  | text s =>
    simp only [toUuid] at h
    split at h
    · exact ⟨_, (Except.ok.inj h).symm⟩
    · cases h
  | _ => cases h

theorem has_of_toTimestamp (h : v.toTimestamp = .ok w) : ValueType.timestamp.Has w := by
  cases v with
  | timestamp t => exact ⟨_, (Except.ok.inj h).symm⟩
  | text s =>
    cases read : readTimestamp s with
    | ok t =>
      rw [toTimestamp, read] at h
      exact ⟨t, (Except.ok.inj h).symm⟩
    | error f =>
      rw [toTimestamp, read] at h
      cases h
  | _ => cases h

end Value

/-! ### Casts -/

namespace ValueType

variable {type : ValueType} {v w : Value}

/-- The conversion of what is there. -/
theorem cast_of_ne_null (there : v ≠ .null) :
    bool.cast v = v.toBool ∧ int32.cast v = v.toInt32 ∧ int64.cast v = v.toInt64 ∧
      float.cast v = v.toFloat ∧ decimal.cast v = v.toDecimal ∧ text.cast v = v.toTextValue ∧
      uuid.cast v = v.toUuid ∧ timestamp.cast v = v.toTimestamp := by
  cases v with
  | null => exact absurd rfl there
  | _ => exact ⟨rfl, rfl, rfl, rfl, rfl, rfl, rfl, rfl⟩

/-- The missing value is kept. -/
theorem cast_null (type : ValueType) : type.cast .null = .ok .null := by
  cases type <;> rfl

/-- A list is cast item by item. -/
theorem cast_list_eq_ok {item : ValueType} (there : v ≠ .null) :
    (ValueType.list item).cast v = .ok w ↔
      ∃ items casts, v = .list items ∧ w = .list casts ∧
        List.Forall₂ (fun x y => item.cast x = .ok y) items casts := by
  constructor
  · intro h
    cases v with
    | null => exact absurd rfl there
    | list items =>
      cases each : items.mapM item.cast with
      | error f =>
        rw [cast, each] at h
        cases h
      | ok casts =>
        rw [cast, each] at h
        exact ⟨items, casts, rfl, (Except.ok.inj h).symm, Outcome.mapM_eq_ok.mp each⟩
    | _ => cases h
  · rintro ⟨items, casts, rfl, rfl, each⟩
    rw [cast, Outcome.mapM_eq_ok.mpr each]
    rfl

/-- What is there becomes a value of the type, if the type has no items. -/
theorem has_of_cast_scalar (h : type.cast v = .ok w) (there : v ≠ .null)
    (scalar : ∀ item, type ≠ .list item) : type.Has w := by
  obtain ⟨toBool, toInt32, toInt64, toFloat, toDecimal, toText, toUuid, toTimestamp⟩ :=
    cast_of_ne_null there
  cases type with
  | bool => exact Value.has_of_toBool (toBool ▸ h)
  | int32 => exact Value.has_of_toInt32 (toInt32 ▸ h)
  | int64 => exact Value.has_of_toInt64 (toInt64 ▸ h)
  | float => exact Value.has_of_toFloat (toFloat ▸ h)
  | decimal => exact Value.has_of_toDecimal (toDecimal ▸ h)
  | text => exact Value.has_of_toTextValue (toText ▸ h)
  | uuid => exact Value.has_of_toUuid (toUuid ▸ h)
  | timestamp => exact Value.has_of_toTimestamp (toTimestamp ▸ h)
  | enum | object => trivial
  | list item => exact absurd rfl (scalar item)

/-- What is missing stays missing, and all else becomes a value of the type. -/
theorem has_of_cast (h : type.cast v = .ok w) : v = .null ∧ w = .null ∨ v ≠ .null ∧ type.Has w := by
  by_cases missing : v = .null
  · subst missing
    rw [cast_null] at h
    exact .inl ⟨rfl, (Except.ok.inj h).symm⟩
  refine .inr ⟨missing, ?_⟩
  induction type generalizing v w with
  | list item ih =>
    obtain ⟨items, casts, rfl, rfl, each⟩ := (cast_list_eq_ok missing).mp h
    refine ⟨casts, rfl, fun y mem => ?_⟩
    obtain ⟨x, -, cast⟩ := exists_of_forall₂ each mem
    by_cases absent : x = .null
    · subst absent
      rw [cast_null] at cast
      exact .inl (Except.ok.inj cast).symm
    · exact .inr (ih cast absent)
  | _ => exact has_of_cast_scalar h missing nofun

/-- Nothing goes missing in a cast. -/
theorem cast_ne_null (there : v ≠ .null) : type.cast v ≠ .ok .null := by
  intro h
  cases type with
  | enum | object =>
    cases v with
    | null => exact there rfl
    | _ => cases h
  | list item =>
    obtain ⟨items, casts, -, same, -⟩ := (cast_list_eq_ok there).mp h
    cases same
  | _ =>
    obtain ⟨a, same⟩ := has_of_cast_scalar h there nofun
    cases same

/-- Values of the type are cast to themselves. -/
theorem cast_of_has (h : type.Has v) : type.cast v = .ok v := by
  induction type generalizing v with
  | list item ih =>
    obtain ⟨items, rfl, each⟩ := h
    refine (cast_list_eq_ok Value.noConfusion).mpr ⟨items, items, rfl, rfl, ?_⟩
    refine List.forall₂_same.mpr fun x mem => ?_
    rcases each x mem with rfl | own
    · exact cast_null item
    · exact ih own
  | enum | object => cases v <;> rfl
  | _ =>
    obtain ⟨a, rfl⟩ := h
    rfl

/-- A cast is a projection onto the values of its type: what it gives is missing exactly if what it was given
is, is otherwise of the type, and is cast to itself. Constants of enumerations and objects are taken as they
come. -/
theorem cast_projects (type : ValueType) (v : Value) :
    (∀ w, type.cast v = .ok w →
      (w = .null ↔ v = .null) ∧ (w ≠ .null → type.Has w) ∧ type.cast w = .ok w) ∧
    (type = .enum ∨ type = .object → type.cast v = .ok v) := by
  constructor
  · intro w h
    rcases has_of_cast h with ⟨rfl, rfl⟩ | ⟨there, has⟩
    · exact ⟨Iff.rfl, fun present => absurd rfl present, h⟩
    · have present : w ≠ .null := by
        rintro rfl
        exact cast_ne_null there h
      exact ⟨iff_of_false present there, fun _ => has, cast_of_has has⟩
  · rintro (rfl | rfl) <;> cases v <;> rfl

end ValueType

namespace Orders

/-- A list of lists of numbers, one of them missing, as a driver may give it: some are text. -/
def grid : Value :=
  .list [.list [.text " 7 ", .null], .null, .list [.int64 8]]

/-- The cast reads the numbers, keeps what is missing, and leaves its result alone. -/
theorem cast_projects_grid :
    ∃ w, (ValueType.list (.list .int32)).cast grid = .ok w ∧ w ≠ .null ∧
      (ValueType.list (.list .int32)).Has w ∧ (ValueType.list (.list .int32)).cast w = .ok w := by
  have read : (ValueType.list (.list .int32)).cast grid =
      .ok (.list [.list [.int32 7, .null], .null, .list [.int32 8]]) := by
    rfl
  obtain ⟨missing, has, again⟩ := (ValueType.cast_projects (.list (.list .int32)) grid).1 _ read
  have present := mt missing.mp nofun
  exact ⟨_, read, present, has present, again⟩

end Orders

end Folio
