import Folio.Proofs.Json.Reading
import Folio.Proofs.Value.Exact
import Folio.Typed.Shape

/-!
# Folio.Proofs.Typed.Listed

Lists, loaded from lists and from their JSON text.

Databases give a list as the text of a JSON array, and programs as a list. From a list, each item is loaded in
the shape of the items, whatever that is (`Shape.load_own`). From a text, an item is a scalar first: arrays
among the items are turned away, also where the items are lists. So the text of a list gives the list back
exactly if no list is among its items (`Shape.load_list_iff`).
-/

namespace Folio.Typed.Shape

/-- Booleans, whole numbers and texts. -/
def IsScalar : Shape → Prop
  | .bool | .int32 | .int64 | .text => True
  | _ => False

/-- Scalars, lists, and both of them where they may be missing. -/
def IsPlain : Shape → Prop
  | .maybe inner => inner.nullable = false ∧ inner.IsPlain
  | .list item => item.IsPlain
  | shape => shape.IsScalar

/-- The value is one of the shape. -/
def Holds : Shape → Value → Prop
  | .maybe inner, v => v = .null ∨ inner.Holds v
  | .list item, v => ∃ items, v = .list items ∧ ∀ w ∈ items, item.Holds w
  | shape, v => shape.type.Has v

/-- The JSON value of a value of a plain shape. -/
def json : Shape → Value → Json
  | .maybe inner, v => inner.json v
  | .list item, .list items => .array (items.map item.json)
  | _, .bool b => .bool b
  | _, .int32 n => .whole n.toInt
  | _, .int64 n => .whole n.toInt
  | _, .text s => .text s
  | _, _ => .null

variable {shape item : Shape} {v w : Value} {xs : List Value}

theorem json_null (shape : Shape) : shape.json .null = .null := by
  induction shape with
  | maybe inner ih => exact ih
  | _ => rfl

theorem ne_null_of_holds (there : shape.nullable = false) (plain : shape.IsPlain) (own : shape.Holds v) :
    v ≠ .null := by
  rintro rfl
  cases shape with
  | maybe inner => cases there
  | list item =>
    obtain ⟨items, same, -⟩ := own
    cases same
  | bool | int32 | int64 | text =>
    obtain ⟨a, same⟩ := own
    cases same
  | _ => exact plain.elim

theorem load_null (there : shape.nullable = false) (plain : shape.IsPlain) : shape.load .null ≠ .ok v := by
  cases shape with
  | maybe inner => cases there
  | bool | int32 | int64 | text | list item => nofun
  | _ => exact plain.elim

theorem load_maybe {inner : Shape} (there : v ≠ .null) : (Shape.maybe inner).load v = inner.load v := by
  cases v with
  | null => exact absurd rfl there
  | _ => rfl

/-! ### Lists from lists -/

/-- A list is loaded item by item. -/
theorem load_list {items : List (Outcome Value)} (read : listItems v = .ok items) :
    (Shape.list item).load v = .ok w ↔
      ∃ ys, w = .list ys ∧ List.Forall₂ (fun x y => (x >>= item.load) = .ok y) items ys := by
  have eq : (Shape.list item).load v = items.mapM (· >>= item.load) >>= fun ys => .ok (.list ys) := by
    rw [load, read]
    rfl
  rw [eq, Outcome.bind_eq_ok]
  refine exists_congr fun ys => ?_
  rw [Outcome.mapM_eq_ok, and_comm, Except.ok.injEq, eq_comm]

/-- A value of a plain shape is loaded as itself. -/
theorem load_own (plain : shape.IsPlain) (own : shape.Holds v) : shape.load v = .ok v := by
  induction shape generalizing v with
  | bool | int32 | int64 | text =>
    obtain ⟨a, rfl⟩ := own
    rfl
  | maybe inner ih =>
    rcases own with rfl | own
    · rfl
    · rw [load_maybe (ne_null_of_holds plain.1 plain.2 own)]
      exact ih plain.2 own
  | list item ih =>
    obtain ⟨items, rfl, each⟩ := own
    refine (load_list rfl).mpr ⟨items, rfl, ?_⟩
    refine List.forall₂_map_left_iff.mpr (List.forall₂_same.mpr fun x mem => ?_)
    exact ih plain (each x mem)
  | _ => exact plain.elim

/-! ### Lists from texts -/

/-- A scalar is loaded from its JSON value. -/
theorem load_json (plain : shape.IsPlain) (own : shape.Holds v) (scalar : ∀ items, v ≠ .list items) :
    (shape.json v).IsScalar ∧ (scalarOfJson (shape.json v) >>= shape.load) = .ok v := by
  induction shape generalizing v with
  | bool =>
    obtain ⟨b, rfl⟩ := own
    exact ⟨trivial, rfl⟩
  | int32 =>
    obtain ⟨n, rfl⟩ := own
    refine ⟨⟨by have := n.le_toInt; omega, by have := n.toInt_lt; omega⟩, ?_⟩
    have cast : ValueType.int32.cast (.int64 n.toInt64) = .ok (.int32 n) := by
      simp [ValueType.cast, Value.toInt32, Value.orCannot]
    simp only [json, scalarOfJson, int64?_toInt_int32]
    show loadScalar .int32 (.int64 n.toInt64) = _
    rw [loadScalar, cast]
    rfl
  | int64 =>
    obtain ⟨n, rfl⟩ := own
    refine ⟨⟨n.le_toInt, by have := n.toInt_lt; omega⟩, ?_⟩
    simp only [json, scalarOfJson, int64?_toInt]
    rfl
  | text =>
    obtain ⟨s, rfl⟩ := own
    exact ⟨trivial, rfl⟩
  | maybe inner ih =>
    rcases own with rfl | own
    · rw [json_null]
      exact ⟨trivial, rfl⟩
    · obtain ⟨json, read⟩ := ih plain.2 own scalar
      obtain ⟨w, read, loaded⟩ := Outcome.bind_eq_ok.mp read
      have there : w ≠ .null := by
        rintro rfl
        exact load_null plain.1 plain.2 loaded
      exact ⟨json, Outcome.bind_eq_ok.mpr ⟨w, read, (load_maybe there).trans loaded⟩⟩
  | list item ih =>
    obtain ⟨items, rfl, -⟩ := own
    exact absurd rfl (scalar items)
  | _ => exact plain.elim

/-- The JSON value of a list is an array. -/
theorem json_list (plain : shape.IsPlain) (own : shape.Holds (.list xs)) :
    ∃ items, shape.json (.list xs) = .array items := by
  induction shape with
  | maybe inner ih =>
    rcases own with same | own
    · cases same
    · exact ih plain.2 own
  | list item => exact ⟨_, rfl⟩
  | bool | int32 | int64 | text =>
    obtain ⟨a, same⟩ := own
    cases same
  | _ => exact plain.elim

theorem isItem_json (plain : shape.IsPlain) (own : shape.Holds v) : (shape.json v).IsItem := by
  by_cases scalar : ∀ items, v ≠ .list items
  · exact .inl (load_json plain own scalar).1
  · obtain ⟨items, same⟩ := not_forall.mp scalar
    obtain rfl := not_not.mp same
    exact .inr (json_list plain own)

/-- The JSON text of a list. -/
def listText (item : Shape) (xs : List Value) : Value :=
  .text ((Shape.list item).json (.list xs)).render

/-- Without lists among its items, a list is loaded from its text. -/
theorem load_text (plain : item.IsPlain) (own : ∀ x ∈ xs, item.Holds x)
    (scalars : ∀ inner, .list inner ∉ xs) : (Shape.list item).load (item.listText xs) = .ok (.list xs) := by
  have json (x : Value) (mem : x ∈ xs) :=
    load_json plain (own x mem) fun items same => scalars items (same ▸ mem)
  have read : Json.read (Json.array (xs.map item.json)).render = some (.array (xs.map item.json)) :=
    Json.read_array (List.forall_mem_map.mpr fun x mem => (json x mem).1)
  have items : listItems (item.listText xs) = .ok ((xs.map item.json).map scalarOfJson) := by
    simp only [listText, Shape.json, listItems, read]
  refine (load_list items).mpr ⟨xs, rfl, ?_⟩
  rw [List.map_map, List.forall₂_map_left_iff]
  exact List.forall₂_same.mpr fun x mem => (json x mem).2

/-- With a list among its items, the text of a list is turned away. -/
theorem load_nested {inner : List Value} (plain : item.IsPlain) (own : ∀ x ∈ xs, item.Holds x)
    (mem : .list inner ∈ xs) : ∃ f, (Shape.list item).load (item.listText xs) = .error f := by
  obtain ⟨items, array⟩ := json_list plain (own _ mem)
  have nested : Json.array items ∈ xs.map item.json := array ▸ List.mem_map_of_mem mem
  cases loaded : (Shape.list item).load (item.listText xs) with
  | error f => exact ⟨f, rfl⟩
  | ok w =>
    cases read : Json.read (Json.array (xs.map item.json)).render with
    | none =>
      have items : listItems (item.listText xs) = fail .malformedJson := by
        simp only [listText, Shape.json, listItems, read]
      rw [load, items] at loaded
      cases loaded
    | some j =>
      obtain ⟨result, inner, rfl, mem⟩ :=
        Json.read_nested (List.forall_mem_map.mpr fun x mem => isItem_json plain (own x mem)) nested read
      have items : listItems (item.listText xs) = .ok (result.map scalarOfJson) := by
        simp only [listText, Shape.json, listItems, read]
      -- No value comes of the array among the items.
      obtain ⟨ys, -, each⟩ := (load_list items).mp loaded
      obtain ⟨y, -, taken⟩ := exists_of_forall₂ each.flip (List.mem_map_of_mem mem)
      cases taken

/-- From a list of the shape, the list itself is loaded. From its JSON text, it is exactly if no list is among
its items, and otherwise the text is turned away. -/
theorem load_list_iff (plain : item.IsPlain) (own : ∀ x ∈ xs, item.Holds x) :
    (Shape.list item).load (.list xs) = .ok (.list xs) ∧
    ((Shape.list item).load (item.listText xs) = .ok (.list xs) ↔ ∀ inner, .list inner ∉ xs) ∧
    ((∃ inner, .list inner ∈ xs) → ∃ f, (Shape.list item).load (item.listText xs) = .error f) := by
  refine ⟨load_own plain ⟨xs, rfl, own⟩, ⟨fun loaded inner mem => ?_, load_text plain own⟩, ?_⟩
  · obtain ⟨f, refused⟩ := load_nested plain own mem
    exact nomatch refused.symm.trans loaded
  · rintro ⟨inner, mem⟩
    exact load_nested plain own mem

end Folio.Typed.Shape

namespace Folio.Orders

open Folio.Typed (Shape)

/-- Quantities of an order, one of them missing. -/
def quantities : List Value :=
  [.int32 7, .null, .int32 (-8)]

/-- They are loaded from their text, and a list of them is not. -/
theorem load_list_iff_quantities :
    (Shape.list (.maybe .int32)).load (.text "[7,null,-8]") = .ok (.list quantities) ∧
      (Shape.list (.list (.maybe .int32))).load (.list [.list quantities]) = .ok (.list [.list quantities]) ∧
      ∃ f, (Shape.list (.list (.maybe .int32))).load (.text "[[7,null,-8]]") = .error f := by
  have plain : (Shape.maybe .int32).IsPlain := ⟨rfl, trivial⟩
  have own : ∀ x ∈ quantities, (Shape.maybe .int32).Holds x := by
    simp [quantities, Shape.Holds, Shape.type, ValueType.Has]
  have nested : ∀ x ∈ [Value.list quantities], (Shape.list (.maybe .int32)).Holds x :=
    List.forall_mem_singleton.mpr ⟨_, rfl, own⟩
  have inner := (Shape.load_list_iff plain own).2.1.mpr (by simp [quantities])
  have outer := Shape.load_list_iff (show (Shape.list (.maybe .int32)).IsPlain from plain) nested
  exact ⟨inner, outer.1, outer.2.2 ⟨_, List.mem_singleton_self _⟩⟩

end Folio.Orders
