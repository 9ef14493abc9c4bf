import Folio.Json.Reader
import Folio.Predicate.Compile
import Folio.Proofs.Database.Run
import Folio.Proofs.Statement.Meaning

/-!
# Folio.Proofs.Predicate.Stored

What the members of a document are, and what a database finds of them in its JSON text.

* `ValueType.ofJson`: the value of a type that a JSON value stands for.
* `Library.Speaks`: what is documented of the databases, as far as members of simple types are
  concerned: which value they find at a path, and how they cast and compare it.
* `Library.Speaks.located_typed`: a member is found in the form in which its dialect stores it, but for
  those that are `Blurred`.
-/

namespace Folio

open Folio.Sql (Cast Dialect JsonPath)
open Folio.Predicate
open Folio.Relational

/-! ### Identifiers -/

theorem eq_of_hexDigits {k n m : Nat} (same : ∀ i < k, n / 16 ^ i % 16 = m / 16 ^ i % 16)
    (hn : n < 16 ^ k) (hm : m < 16 ^ k) : n = m := by
  induction k generalizing n m with
  | zero => omega
  | succ k ih =>
    have last : n % 16 = m % 16 := by simpa using same 0 (Nat.succ_pos k)
    have rest : n / 16 = m / 16 := by
      refine ih (fun i hi => ?_) (by omega) (by omega)
      rw [Nat.div_div_eq_div_mul, Nat.div_div_eq_div_mul, ← Nat.pow_succ']
      exact same (i + 1) (Nat.succ_lt_succ hi)
    omega

theorem digitChar_inj {a b : Nat} (ha : a < 16) (hb : b < 16)
    (same : Nat.digitChar a = Nat.digitChar b) : a = b := by
  have all : ∀ a b : Fin 16, Nat.digitChar a = Nat.digitChar b → a = b := by decide
  exact congrArg Fin.val (all ⟨a, ha⟩ ⟨b, hb⟩ same)

namespace Uuid

/-- A digit of an identifier, the first being the most significant. -/
def digit (u : Uuid) (i : Nat) : Nat :=
  u.value.toNat / 16 ^ (31 - i) % 16

/-- Digits of an identifier as characters. -/
def group (u : Uuid) (start count : Nat) : List Char :=
  (List.range' start count).map fun i => Nat.digitChar (u.digit i)

theorem toText_eq (u : Uuid) :
    u.toText = String.ofList (u.group 0 8 ++ '-' :: u.group 8 4 ++ '-' :: u.group 12 4 ++
      '-' :: u.group 16 4 ++ '-' :: u.group 20 12) := rfl

theorem length_group (u : Uuid) (start count : Nat) : (u.group start count).length = count := by
  rw [group, List.length_map, List.length_range']

theorem digit_of_group {u v : Uuid} {start count i : Nat}
    (same : u.group start count = v.group start count) (after : start ≤ i)
    (before : i < start + count) : u.digit i = v.digit i := by
  have all := List.map_inj_left.mp same i (List.mem_range'_1.mpr ⟨after, before⟩)
  exact digitChar_inj (Nat.mod_lt _ (by decide)) (Nat.mod_lt _ (by decide)) all

/-- Different identifiers have different texts. -/
theorem toText_injective : Function.Injective toText := by
  intro u v same
  rw [toText_eq, toText_eq, String.ofList_inj] at same
  simp only [List.append_assoc, List.cons_append] at same
  obtain ⟨g₁, same⟩ := List.append_inj same (by simp only [length_group])
  obtain ⟨g₂, same⟩ := List.append_inj (List.cons.inj same).2 (by simp only [length_group])
  obtain ⟨g₃, same⟩ := List.append_inj (List.cons.inj same).2 (by simp only [length_group])
  obtain ⟨g₄, same⟩ := List.append_inj (List.cons.inj same).2 (by simp only [length_group])
  have g₅ := (List.cons.inj same).2
  have digits (i : Nat) (h : i < 32) : u.digit i = v.digit i := by
    rcases Nat.lt_or_ge i 8 with h₁ | h₁
    · exact digit_of_group g₁ (by omega) (by omega)
    rcases Nat.lt_or_ge i 12 with h₂ | h₂
    · exact digit_of_group g₂ (by omega) (by omega)
    rcases Nat.lt_or_ge i 16 with h₃ | h₃
    · exact digit_of_group g₃ (by omega) (by omega)
    rcases Nat.lt_or_ge i 20 with h₄ | h₄
    · exact digit_of_group g₄ (by omega) (by omega)
    · exact digit_of_group g₅ (by omega) (by omega)
  obtain ⟨a⟩ := u
  obtain ⟨b⟩ := v
  have numbers : a.toNat = b.toNat := by
    refine @eq_of_hexDigits 32 _ _ (fun i hi => ?_) a.isLt b.isLt
    have at_i := digits (31 - i) (by omega)
    rwa [digit, digit, Nat.sub_sub_self (by omega)] at at_i
  exact congrArg Uuid.mk (BitVec.eq_of_toNat_eq numbers)

end Uuid

theorem Uuid.length_toText (u : Uuid) : u.toText.toList.length = 36 := by
  simp [toText_eq, length_group]

/-! ### Whole numbers -/

theorem toInt_of_int32? {n : Int} {m : Int32} (h : int32? n = some m) : m.toInt = n := by
  rw [int32?] at h
  split at h
  next range =>
    obtain rfl := Option.some.inj h
    rw [Int32.toInt_minValue, Int32.toInt_maxValue] at range
    exact Int32.toInt_ofInt_of_le range.1 (by omega)
  next => cases h

theorem toInt_of_int64? {n : Int} {m : Int64} (h : int64? n = some m) : m.toInt = n := by
  rw [int64?] at h
  split at h
  next range =>
    obtain rfl := Option.some.inj h
    rw [Int64.toInt_minValue, Int64.toInt_maxValue] at range
    exact Int64.toInt_ofInt_of_le range.1 (by omega)
  next => cases h

@[simp] theorem int64?_toInt (n : Int64) : int64? n.toInt = some n := by
  rw [int64?, if_pos ⟨n.minValue_le_toInt, n.toInt_le⟩, Int64.ofInt_toInt]

/-! ### Members of a document -/

/-- The part of a JSON value at a path of names. -/
def Json.at? (j : Json) (names : List String) : Option Json :=
  names.foldlM Json.member? j

namespace ValueType

/-- The value of the type that a JSON value stands for, if it stands for one. A constant of an
enumeration is stored as its discriminant. -/
def ofJson : ValueType → Json → Option Value
  | .bool, .bool b => some (.bool b)
  | .int32, .whole n => (int32? n).map .int32
  | .int64, .whole n => (int64? n).map .int64
  | .enum, .whole n => (int64? n).map .int64
  | .text, .text s => some (.text s)
  | .uuid, .text s => (Uuid.read s).bind fun u => if u.toText = s then some (.uuid u) else none
  | _, _ => none

@[simp] theorem ofJson_null (type : ValueType) : type.ofJson .null = none := by
  cases type <;> rfl

/-- The values of simple types and what stands for them in a document. -/
inductive Stands : ValueType → Json → Value → Prop
  | bool (b : Bool) : Stands .bool (.bool b) (.bool b)
  | int32 (n : Int32) : Stands .int32 (.whole n.toInt) (.int32 n)
  | int64 (n : Int64) : Stands .int64 (.whole n.toInt) (.int64 n)
  | enum (n : Int64) : Stands .enum (.whole n.toInt) (.int64 n)
  | text (s : String) : Stands .text (.text s) (.text s)
  | uuid (u : Uuid) : Stands .uuid (.text u.toText) (.uuid u)

theorem stands_of_ofJson {type : ValueType} {x : Json} {v : Value} (h : type.ofJson x = some v) :
    type.Stands x v := by
  cases x with
  | bool b =>
    cases type with
    | bool =>
      obtain rfl := Option.some.inj h
      exact .bool b
    | _ => cases h
  | whole n =>
    cases type with
    | int32 =>
      obtain ⟨m, range, rfl⟩ := Option.map_eq_some_iff.mp h
      obtain rfl := toInt_of_int32? range
      exact .int32 m
    | int64 =>
      obtain ⟨m, range, rfl⟩ := Option.map_eq_some_iff.mp h
      obtain rfl := toInt_of_int64? range
      exact .int64 m
    | enum =>
      obtain ⟨m, range, rfl⟩ := Option.map_eq_some_iff.mp h
      obtain rfl := toInt_of_int64? range
      exact .enum m
    | _ => cases h
  | text s =>
    cases type with
    | text =>
      obtain rfl := Option.some.inj h
      exact .text s
    | uuid =>
      obtain ⟨u, -, same⟩ := Option.bind_eq_some_iff.mp h
      split at same
      next text =>
        obtain rfl := Option.some.inj same
        exact text ▸ .uuid u
      next => cases same
    | _ => cases h
  | _ => cases type <;> cases h

/-- The value of the type that an identity is, if it is one. -/
def ofId : ValueType → DocumentId → Option Value
  | .int32, .int32 n => some (.int32 n)
  | .int64, .int64 n => some (.int64 n)
  | .text, .text s => some (.text s)
  | .uuid, .uuid u => some (.uuid u)
  | _, _ => none

/-- A constant cast to the type; one of an enumeration is its discriminant. -/
def constant (type : ValueType) (v : Value) : Option Value :=
  (type.cast v).toOption.map fun
    | .enum c => .int64 c.discriminant
    | w => w

/-- Types whose values are compared as they are stored, enumerations being stored as numbers. -/
def IsSimple (o : EnumStorage) : ValueType → Prop
  | .bool | .int32 | .int64 | .text | .uuid => True
  | .enum => o = .asInteger
  | _ => False

end ValueType

/-! ### What databases find -/

/-- How many units of 16 bits a text has. -/
def utf16Length (s : String) : Nat :=
  (s.toList.map fun c => if c.toNat < 0x10000 then 1 else 2).sum

theorem utf16Length_le (s : String) : utf16Length s ≤ s.toList.length * 2 := by
  have each : ∀ n ∈ s.toList.map fun c => if c.toNat < 0x10000 then 1 else 2, n ≤ 2 := by
    intro n mem
    obtain ⟨c, -, rfl⟩ := List.mem_map.mp mem
    split <;> decide
  have bound := List.sum_le_card_nsmul _ 2 each
  rwa [List.length_map, smul_eq_mul] at bound

theorem Uuid.utf16Length_toText (u : Uuid) : ¬4000 < utf16Length u.toText := by
  have bound := utf16Length_le u.toText
  rw [u.length_toText] at bound
  omega

namespace Relational

/-- What a database answers for the part of a document at a path, where it is documented. SQL Server
answers texts, and none of more than 4000 units; SQLite answers numbers for numbers and booleans. -/
def scalar? (d : Dialect) : Option Json → Option Value
  | none | some .null => some .null
  | some (.bool b) =>
    match d with
    | .mssql => some (.text (if b then "true" else "false"))
    | .sqlite => some (.int64 (if b then 1 else 0))
  | some (.whole n) =>
    match d with
    | .mssql => some (.text (toString n))
    | .sqlite => (int64? n).map .int64
  | some (.text s) =>
    match d with
    | .mssql => some (if 4000 < utf16Length s then .null else .text s)
    | .sqlite => some (.text s)
  | some _ => none

/-- The name of the type of a part of a document, where it matters here. -/
def typeName? : Option Json → Option Value
  | none => some .null
  | some .null => some (.text "null")
  | some (.bool b) => some (.text (if b then "true" else "false"))
  | some _ => none

/-- Documented behaviour of the databases of a dialect. -/
structure Library.Speaks (L : Library) (d : Dialect) : Prop where
  less_text : ∀ s t : String, s ≠ t → L.less (.text t) (.text s) = !L.less (.text s) (.text t)
  less_uuid : ∀ u v : Uuid, u ≠ v → L.less (.uuid v) (.uuid u) = !L.less (.uuid u) (.uuid v)
  order_swap : ∀ v w, L.order w v = (L.order v w).map Ordering.swap
  false_less_true : L.less (.text "false") (.text "true") = true
  json : ∀ {path text j v}, Json.read text = some j →
    scalar? d (j.at? path.names) = some v → L.json path (.text text) = v
  cast_null : ∀ c, L.cast c .null = .null
  /-- SQL Server reads numbers and identifiers from text. -/
  cast_int : d = .mssql → ∀ n : Int32, L.cast .int (.text (toString n.toInt)) = .int32 n
  cast_bigint : d = .mssql → ∀ n : Int64, L.cast .bigint (.text (toString n.toInt)) = .int64 n
  cast_uuid : d = .mssql → ∀ u : Uuid, L.cast .uuid (.text u.toText) = .uuid u
  /-- SQLite has one type of whole numbers, and no identifiers. -/
  cast_whole : d = .sqlite → ∀ c n, c = .int ∨ c = .bigint → L.cast c (.int64 n) = .int64 n
  cast_uuid_text : d = .sqlite → ∀ s, L.cast .uuid (.text s) = .text s
  order_whole : d = .sqlite → ∀ (n : Int64) (m : Int32),
    L.order (.int64 n) (.int32 m) = some (Ord.compare n.toInt m.toInt)
  order_uuid : d = .sqlite → ∀ s u, L.order (.text s) (.uuid u) = L.compare (.text s) (.text u.toText)
  less_uuid_text : d = .sqlite → ∀ u v : Uuid,
    L.less (.uuid u) (.uuid v) = L.less (.text u.toText) (.text v.toText)
  jsonType : d = .sqlite → ∀ {path text j v}, Json.read text = some j →
    typeName? (j.at? path.names) = some v → L.jsonType path (.text text) = v

/-- Members that are not compared as they should: a boolean that is there and missing has a type for
SQLite, and SQL Server has no long texts. -/
def Blurred (d : Dialect) (type : ValueType) : Option Json → Prop
  | some .null => d = .sqlite ∧ type = .bool
  | some (.text s) => d = .mssql ∧ type = .text ∧ 4000 < utf16Length s
  | _ => False

/-- The form in which a database has a value that is stored in a document. -/
def storedAs (d : Dialect) : Value → Value
  | .bool b => .text (if b then "true" else "false")
  | .int32 n =>
    match d with
    | .mssql => .int32 n
    | .sqlite => .int64 n.toInt64
  | .uuid u =>
    match d with
    | .mssql => .uuid u
    | .sqlite => .text u.toText
  | v => v

section

variable {L : Library} {d : Dialect} {r : Record} {j : Json} {enums : EnumStorage}
  {type : ValueType} (path : JsonPath)

/-- A member that is missing is found to be so. -/
theorem Library.Speaks.located_missing (speaks : L.Speaks d) (reads : Json.read r.data = some j)
    (missing : j.at? path.names = none ∨ j.at? path.names = some .null)
    (sharp : ¬Blurred d type (j.at? path.names)) :
    L.located d r.get (Located.inDocument enums path type).typed = .null := by
  have none : L.json path (.text r.data) = .null := by
    refine speaks.json reads ?_
    rcases missing with h | h <;> rw [h] <;> rfl
  have cast (c : Cast) : L.cast c (L.json path (.text r.data)) = .null := by
    rw [none, speaks.cast_null]
  cases type with
  | bool =>
    cases d with
    | mssql => exact none
    | sqlite =>
      refine speaks.jsonType rfl reads ?_
      rcases missing with h | h
      · rw [h]
        rfl
      · rw [h] at sharp
        exact absurd ⟨rfl, rfl⟩ sharp
  | _ => cases enums <;> cases d <;> first | exact none | exact cast _

/-- A number that is there is found as the number that its dialect casts it to. -/
theorem Library.Speaks.cast_bigint_found (speaks : L.Speaks d) (reads : Json.read r.data = some j)
    {n : Int64} (there : j.at? path.names = some (.whole n.toInt)) :
    L.cast .bigint (L.json path (.text r.data)) = .int64 n := by
  cases d with
  | mssql =>
    rw [speaks.json reads (by rw [there]; rfl)]
    exact speaks.cast_bigint rfl n
  | sqlite =>
    have found : L.json path (.text r.data) = .int64 n :=
      speaks.json reads (there ▸ congrArg (Option.map Value.int64) (int64?_toInt n))
    rw [found]
    exact speaks.cast_whole rfl _ n (.inr rfl)

/-- A member that is there is found in the form in which it is stored. -/
theorem Library.Speaks.located_typed (speaks : L.Speaks d) (reads : Json.read r.data = some j)
    {x : Json} {v : Value} (simple : type.IsSimple enums) (there : j.at? path.names = some x)
    (stands : type.Stands x v) (sharp : ¬Blurred d type (j.at? path.names)) :
    L.located d r.get (Located.inDocument enums path type).typed = storedAs d v := by
  have found (w : Value) (h : scalar? d (some x) = some w) : L.json path (.text r.data) = w :=
    speaks.json reads (there ▸ h)
  rw [there] at sharp
  cases stands with
  | bool b =>
    cases d with
    | mssql => exact found _ rfl
    | sqlite => exact speaks.jsonType rfl reads (by rw [there]; rfl)
  | int32 n =>
    cases d with
    | mssql =>
      show L.cast .int (L.json path (.text r.data)) = .int32 n
      rw [found _ rfl]
      exact speaks.cast_int rfl n
    | sqlite =>
      show L.cast .int (L.json path (.text r.data)) = .int64 n.toInt64
      rw [found (.int64 n.toInt64) ?_]
      · exact speaks.cast_whole rfl _ _ (.inl rfl)
      · rw [← Int32.toInt_toInt64]
        exact congrArg (Option.map Value.int64) (int64?_toInt _)
  | int64 n => cases d <;> exact speaks.cast_bigint_found path reads there
  | enum n =>
    obtain rfl : enums = .asInteger := simple
    cases d <;> exact speaks.cast_bigint_found path reads there
  | text s =>
    cases d with
    | mssql => exact found _ (congrArg some (if_neg fun long => sharp ⟨rfl, rfl, long⟩))
    | sqlite => exact found _ rfl
  | uuid u =>
    cases d with
    | mssql =>
      show L.cast .uuid (L.json path (.text r.data)) = .uuid u
      rw [found (.text u.toText) (congrArg some (if_neg u.utf16Length_toText))]
      exact speaks.cast_uuid rfl u
    | sqlite =>
      show L.cast .uuid (L.json path (.text r.data)) = .text u.toText
      rw [found _ rfl]
      exact speaks.cast_uuid_text rfl u.toText

/-- There is an answer for every value that has a type. -/
theorem exists_scalar? {x : Json} {v : Value} (stands : type.Stands x v)
    (sharp : ¬Blurred d type (some x)) : ∃ w, scalar? d (some x) = some w ∧ w.isNull = false := by
  have number (n : Int64) : ∃ w, scalar? d (some (.whole n.toInt)) = some w ∧ w.isNull = false := by
    cases d with
    | mssql => exact ⟨_, rfl, rfl⟩
    | sqlite => exact ⟨.int64 n, congrArg (Option.map Value.int64) (int64?_toInt n), rfl⟩
  cases stands with
  | bool b => cases d <;> exact ⟨_, rfl, rfl⟩
  | int32 n =>
    rw [← Int32.toInt_toInt64]
    exact number n.toInt64
  | int64 n | enum n => exact number n
  | text s =>
    cases d with
    | mssql =>
      exact ⟨.text s, congrArg some (if_neg fun long => sharp ⟨rfl, rfl, long⟩), rfl⟩
    | sqlite => exact ⟨_, rfl, rfl⟩
  | uuid u =>
    cases d with
    | mssql => exact ⟨.text u.toText, congrArg some (if_neg u.utf16Length_toText), rfl⟩
    | sqlite => exact ⟨_, rfl, rfl⟩

/-- A member is found to be missing exactly if it is. -/
theorem Library.Speaks.located_raw_isNull (speaks : L.Speaks d) (reads : Json.read r.data = some j)
    (fits : ∀ x, j.at? path.names = some x → x ≠ .null → (type.ofJson x).isSome)
    (sharp : ¬Blurred d type (j.at? path.names)) :
    (L.located d r.get (Located.inDocument enums path type).raw).isNull =
      ((j.at? path.names).bind type.ofJson).isNone := by
  have raw : L.located d r.get (Located.inDocument enums path type).raw =
      L.json path (.text r.data) := by
    cases d <;> rfl
  rw [raw]
  cases there : j.at? path.names with
  | none => rw [speaks.json reads (there ▸ rfl : scalar? d (j.at? path.names) = some .null)]; rfl
  | some x =>
    by_cases missing : x = .null
    · subst missing
      rw [speaks.json reads (there ▸ rfl : scalar? d (j.at? path.names) = some .null)]
      cases type <;> rfl
    · obtain ⟨v, stands⟩ := Option.isSome_iff_exists.mp (fits x there missing)
      rw [there] at sharp
      obtain ⟨w, found, present⟩ := exists_scalar? (ValueType.stands_of_ofJson stands) sharp
      rw [speaks.json reads (there ▸ found), present, Option.bind_some, stands]
      rfl

end

end Relational

end Folio
