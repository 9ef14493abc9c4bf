import Mathlib
import Folio.Sqlite.Like
import Folio.Statement.Fragment

/-!
# Folio.Proofs.Statement.Pattern

What the patterns of `LIKE` match.

A dialect reads a pattern as a list of items (`Dialect.items`), and a text fits it if the items take
up its characters in order (`Fits`). The dialects differ in how a character is made to stand for
itself: SQL Server puts it into a class of its own, SQLite a backslash before it. Either way the
pattern for a needle is read as one item for each of its characters (`items_escaped`), so nothing in
the needle is a wildcard and `likes_likePattern` holds of all needles.

`Sqlite.likes_iff` says that the matcher of SQLite goes by the same rules, for any pattern.
-/

namespace Folio.Sql

/-! ### The rules -/

/-- An item of a pattern. -/
inductive PatternItem
  /-- Any run of characters, the empty one too. -/
  | run
  /-- Any one character. -/
  | any
  /-- The character. -/
  | char (c : Char)
  /-- One character of a class. -/
  | oneOf (members : List Char)
  deriving DecidableEq

/-- Is the character among these, or in one of the ranges among them? -/
def listed : List Char → Char → Bool
  | first :: '-' :: last :: rest, c => (decide (first ≤ c) && decide (c ≤ last)) || listed rest c
  | x :: rest, c => decide (c = x) || listed rest c
  | [], _ => false

/-- Is the character in the class? A caret at its start excludes what is listed after it. -/
def inClass : List Char → Char → Bool
  | '^' :: excluded, c => !listed excluded c
  | members, c => listed members c

/-- The items take up the text. -/
inductive Fits : List PatternItem → List Char → Prop
  | nil : Fits [] []
  | run {p : List PatternItem} {s : List Char} (skipped : List Char) :
      Fits p s → Fits (.run :: p) (skipped ++ s)
  | any {p : List PatternItem} {s : List Char} (c : Char) : Fits p s → Fits (.any :: p) (c :: s)
  | char {p : List PatternItem} {s : List Char} (c : Char) : Fits p s → Fits (.char c :: p) (c :: s)
  | oneOf {p : List PatternItem} {s members : List Char} {c : Char} :
      inClass members c = true → Fits p s → Fits (.oneOf members :: p) (c :: s)

/-- The items of a pattern for SQLite, where a backslash escapes. There are none if it escapes
nothing. -/
def sqliteItems : List Char → Option (List PatternItem)
  | [] => some []
  | '%' :: p => (sqliteItems p).map (.run :: ·)
  | '_' :: p => (sqliteItems p).map (.any :: ·)
  | ['\\'] => none
  | '\\' :: c :: p => (sqliteItems p).map (.char c :: ·)
  | c :: p => (sqliteItems p).map (.char c :: ·)

/-- The items of a pattern for SQL Server, the members of an open class given. There are none if a
class is never closed. -/
def mssqlItems : Option (List Char) → List Char → Option (List PatternItem)
  | none, [] => some []
  | some _, [] => none
  | some members, c :: p =>
    if c = ']' then (mssqlItems none p).map (.oneOf members :: ·)
    else mssqlItems (some (members ++ [c])) p
  | none, c :: p =>
    if c = '[' then mssqlItems (some []) p
    else if c = '%' then (mssqlItems none p).map (.run :: ·)
    else if c = '_' then (mssqlItems none p).map (.any :: ·)
    else (mssqlItems none p).map (.char c :: ·)

namespace Dialect

/-- The items of a pattern. -/
def items : Dialect → List Char → Option (List PatternItem)
  | .mssql, p => mssqlItems none p
  | .sqlite, p => sqliteItems p

/-- Does the text match the pattern? Upper and lower case differ. -/
def Likes (d : Dialect) (pattern s : List Char) : Prop :=
  ∃ p, d.items pattern = some p ∧ Fits p s

end Dialect

theorem fits_nil {s : List Char} : Fits [] s ↔ s = [] := by
  constructor
  · rintro ⟨⟩
    rfl
  · rintro rfl
    exact .nil

theorem fits_run {p : List PatternItem} {s : List Char} : Fits (.run :: p) s ↔ ∃ t, t <:+ s ∧ Fits p t := by
  constructor
  · rintro ⟨⟩
    next t skipped rest => exact ⟨t, List.suffix_append skipped t, rest⟩
  · rintro ⟨t, ⟨skipped, rfl⟩, rest⟩
    exact .run skipped rest

theorem fits_any {p : List PatternItem} {s : List Char} :
    Fits (.any :: p) s ↔ ∃ c t, s = c :: t ∧ Fits p t := by
  constructor
  · rintro ⟨⟩
    next t c rest => exact ⟨c, t, rfl, rest⟩
  · rintro ⟨c, t, rfl, rest⟩
    exact .any c rest

theorem fits_char {p : List PatternItem} {c : Char} {s : List Char} :
    Fits (.char c :: p) s ↔ ∃ t, s = c :: t ∧ Fits p t := by
  constructor
  · rintro ⟨⟩
    next t rest => exact ⟨t, rfl, rest⟩
  · rintro ⟨t, rfl, rest⟩
    exact .char c rest

theorem fits_oneOf {p : List PatternItem} {members s : List Char} :
    Fits (.oneOf members :: p) s ↔ ∃ c t, s = c :: t ∧ inClass members c = true ∧ Fits p t := by
  constructor
  · rintro ⟨⟩
    next t c member rest => exact ⟨c, t, rfl, member, rest⟩
  · rintro ⟨c, t, rfl, member, rest⟩
    exact .oneOf member rest

/-- What is read of a pattern with one more item in front. -/
theorem exists_items_cons {item : PatternItem} {o : Option (List PatternItem)} {s : List Char} :
    (∃ p, o.map (item :: ·) = some p ∧ Fits p s) ↔ ∃ p, o = some p ∧ Fits (item :: p) s := by
  constructor
  · rintro ⟨p, read, fits⟩
    obtain ⟨p', read', rfl⟩ := Option.map_eq_some_iff.mp read
    exact ⟨p', read', fits⟩
  · rintro ⟨p, rfl, fits⟩
    exact ⟨item :: p, rfl, fits⟩

/-- A run at the end takes up whatever is left. -/
theorem fits_run_last (s : List Char) : Fits [.run] s :=
  fits_run.mpr ⟨[], List.nil_suffix, .nil⟩

end Folio.Sql

/-! ### The matcher of SQLite -/

namespace Folio.Sqlite

open Folio.Sql

theorem anySuffix_eq_true {test : List Char → Bool} {s : List Char} :
    anySuffix test s = true ↔ ∃ t, t <:+ s ∧ test t = true := by
  induction s with
  | nil =>
    rw [anySuffix]
    exact ⟨fun h => ⟨[], List.suffix_refl [], h⟩, fun ⟨t, empty, h⟩ => List.suffix_nil.mp empty ▸ h⟩
  | cons c rest ih =>
    rw [anySuffix, Bool.or_eq_true, ih]
    constructor
    · rintro (h | ⟨t, after, h⟩)
      · exact ⟨_, List.suffix_refl _, h⟩
      · exact ⟨t, after.trans (List.suffix_cons c rest), h⟩
    · rintro ⟨t, after, h⟩
      rcases List.suffix_cons_iff.mp after with rfl | after
      · exact .inl h
      · exact .inr ⟨t, after, h⟩

/-- A character in front is taken up by itself. -/
theorem head?_tail_iff {c : Char} {s : List Char} {q : List Char → Bool} :
    (s.head? = some c && q s.tail) = true ↔ ∃ t, s = c :: t ∧ q t = true := by
  cases s with
  | nil => simp
  | cons x t =>
    rw [Bool.and_eq_true, decide_eq_true_iff, List.head?_cons, List.tail_cons, Option.some.injEq]
    constructor
    · rintro ⟨rfl, rest⟩
      exact ⟨t, rfl, rest⟩
    · rintro ⟨t', ⟨⟩, rest⟩
      exact ⟨rfl, rest⟩

/-- The matcher goes by the rules. -/
theorem likes_iff {p s : List Char} : likes p s = true ↔ Dialect.sqlite.Likes p s := by
  unfold Dialect.Likes Dialect.items
  dsimp only
  induction p using sqliteItems.induct generalizing s with
  | case1 => simp [likes, sqliteItems, fits_nil]
  | case2 p ih =>
    rw [likes, sqliteItems, anySuffix_eq_true, exists_items_cons]
    simp only [ih, fits_run]
    grind
  | case3 p ih =>
    rw [likes, sqliteItems, exists_items_cons]
    simp only [fits_any]
    cases s with
    | nil => simp
    | cons c t => simp [ih]
  | case4 => simp [likes, sqliteItems]
  | case5 c p ih =>
    rw [likes, sqliteItems, exists_items_cons, head?_tail_iff]
    simp only [ih, fits_char]
    grind
  | case6 c p run any escape escaped ih =>
    have matched : likes (c :: p) s = (s.head? = some c && likes p s.tail) := by
      rw [likes] <;> assumption
    have read : sqliteItems (c :: p) = (sqliteItems p).map (.char c :: ·) := by
      rw [sqliteItems] <;> assumption
    rw [matched, read, exists_items_cons, head?_tail_iff]
    simp only [ih, fits_char]
    grind

end Folio.Sqlite

/-! ### The patterns of needles -/

namespace Folio.Sql.Dialect

open Folio.Statement

/-- The item that the pattern of a needle has for a character. -/
def literal (d : Dialect) (c : Char) : PatternItem :=
  match d with
  | .mssql => if c = '[' || c = '%' || c = '_' then .oneOf [c] else .char c
  | .sqlite => .char c

theorem items_run (d : Dialect) (p : List Char) : d.items ('%' :: p) = (d.items p).map (.run :: ·) := by
  cases d with
  | mssql => simp [items, mssqlItems]
  | sqlite => simp only [items, sqliteItems]

theorem items_nil (d : Dialect) : d.items [] = some [] := by
  cases d with
  | mssql => simp only [items, mssqlItems]
  | sqlite => simp only [items, sqliteItems]

/-- However a character is escaped, it is read as one item, and so is what comes after it. -/
theorem items_patternChar (d : Dialect) (c : Char) (p : List Char) :
    d.items (patternChar d c ++ p) = (d.items p).map (d.literal c :: ·) := by
  cases d with
  | mssql =>
    by_cases special : (c = '[' || c = '%' || c = '_') = true
    · rw [patternChar, if_pos special, literal, if_pos special]
      -- The only special character that a class could end at is not one of these.
      have inside : c ≠ ']' := by rintro rfl; simp at special
      simp [items, mssqlItems, inside]
    · rw [patternChar, if_neg special, literal, if_neg special]
      simp only [Bool.or_eq_true, decide_eq_true_eq, not_or] at special
      simp [items, mssqlItems, special]
  | sqlite =>
    by_cases special : (c = '\\' || c = '%' || c = '_') = true
    · rw [patternChar, if_pos special]
      simp only [items, literal, List.cons_append, List.nil_append, sqliteItems]
    · rw [patternChar, if_neg special]
      simp only [Bool.or_eq_true, decide_eq_true_eq, not_or] at special
      obtain ⟨⟨escape, run⟩, any⟩ := special
      show sqliteItems (c :: p) = _
      rw [sqliteItems]
      · rfl
      all_goals simp_all

theorem items_escaped (d : Dialect) (needle p : List Char) :
    d.items (needle.flatMap (patternChar d) ++ p) = (d.items p).map (needle.map d.literal ++ ·) := by
  induction needle with
  | nil => simp
  | cons c needle ih =>
    rw [List.flatMap_cons, List.append_assoc, items_patternChar, ih, Option.map_map]
    rfl

theorem fits_literal {d : Dialect} {c : Char} {p : List PatternItem} {s : List Char} :
    Fits (d.literal c :: p) s ↔ ∃ t, s = c :: t ∧ Fits p t := by
  unfold literal
  cases d with
  | sqlite => exact fits_char
  | mssql =>
    dsimp only
    split
    · next special =>
      -- A caret would exclude, but it is no special character outside of a class.
      have member (x : Char) : inClass [c] x = true ↔ x = c := by
        have caret : c ≠ '^' := by rintro rfl; simp at special
        simp [inClass, listed, caret]
      rw [fits_oneOf]
      constructor
      · rintro ⟨x, t, rfl, found, rest⟩
        exact ⟨t, (member x).mp found ▸ rfl, rest⟩
      · rintro ⟨t, rfl, rest⟩
        exact ⟨c, t, rfl, (member c).mpr rfl, rest⟩
    · exact fits_char

theorem fits_literals {d : Dialect} {needle : List Char} {p : List PatternItem} {s : List Char} :
    Fits (needle.map d.literal ++ p) s ↔ ∃ t, s = needle ++ t ∧ Fits p t := by
  induction needle generalizing s with
  | nil => simp
  | cons c needle ih =>
    rw [List.map_cons, List.cons_append, fits_literal]
    simp only [ih, List.cons_append]
    grind

end Folio.Sql.Dialect

namespace Folio.Statement

open Folio.Sql

/-- Is the needle where it is looked for? -/
def LikeKind.Finds : LikeKind → List Char → List Char → Prop
  | .contains, needle, s => needle <:+: s
  | .startsWith, needle, s => needle <+: s
  | .endsWith, needle, s => needle <:+ s

/-- The items of the pattern for a needle. -/
def LikeKind.items (d : Dialect) (needle : List Char) : LikeKind → List PatternItem
  | .contains => .run :: (needle.map d.literal ++ [.run])
  | .startsWith => needle.map d.literal ++ [.run]
  | .endsWith => .run :: (needle.map d.literal)

theorem items_likePattern (d : Dialect) (kind : LikeKind) (needle : String) :
    d.items (likePattern d kind needle).toList = some (kind.items d needle.toList) := by
  have runLast : d.items ['%'] = some [.run] := by
    rw [Dialect.items_run, Dialect.items_nil]
    rfl
  unfold likePattern
  rw [String.toList_ofList]
  cases kind with
  | contains => simp [LikeKind.items, Dialect.items_run, Dialect.items_escaped, runLast]
  | startsWith => simp [LikeKind.items, Dialect.items_escaped, runLast]
  | endsWith =>
    have alone := Dialect.items_escaped d needle.toList []
    rw [List.append_nil, Dialect.items_nil] at alone
    simp [LikeKind.items, Dialect.items_run, alone]

theorem fits_items {d : Dialect} {kind : LikeKind} {needle s : List Char} :
    Fits (kind.items d needle) s ↔ kind.Finds needle s := by
  have inFront (t : List Char) : Fits (needle.map d.literal ++ [.run]) t ↔ needle <+: t := by
    rw [Dialect.fits_literals]
    simp only [fits_run_last, and_true]
    exact exists_congr fun _ => eq_comm
  cases kind with
  | contains =>
    rw [LikeKind.items, LikeKind.Finds, fits_run, List.infix_iff_prefix_suffix]
    simp only [inFront, and_comm]
  | startsWith => exact inFront s
  | endsWith =>
    have whole (t : List Char) : Fits (needle.map d.literal) t ↔ t = needle := by
      rw [← List.append_nil (needle.map d.literal), Dialect.fits_literals]
      simp [fits_nil]
    rw [LikeKind.items, LikeKind.Finds, fits_run]
    simp only [whole, exists_eq_right]

/-- The matcher of SQLite finds a needle just where it is. -/
theorem likes_needle {kind : LikeKind} {needle s : String} :
    Sqlite.likes (likePattern .sqlite kind needle).toList s.toList = true ↔
      kind.Finds needle.toList s.toList := by
  rw [Sqlite.likes_iff, Dialect.Likes, items_likePattern]
  simp only [Option.some.injEq, exists_eq_left', fits_items]

/-- The pattern for a needle matches just the texts that have the needle where it is looked for. -/
theorem likes_likePattern (d : Dialect) (kind : LikeKind) (needle s : String) :
    d.Likes (likePattern d kind needle).toList s.toList ↔ kind.Finds needle.toList s.toList := by
  rw [Dialect.Likes, items_likePattern]
  simp only [Option.some.injEq, exists_eq_left', fits_items]

end Folio.Statement
