import Folio.Proofs.Statement.Meaning

/-!
# Folio.Proofs.Statement.Layout

SQLite compares timestamps in the layout that `strftime` gives them, and a comparison is right only if both of
its sides are in it (`Sql.Levelled`).

Which comparisons of a condition are not is told from its fragment (`Fragment.IsUneven`): operands that are
bound for a locator are brought into the layout with it, and values that are bound by themselves are not
(`Statement.levels_toCondition`). What follows for the values is that a timestamp which equals the parameter
compares equal exactly where both sides are in the layout (`Library.LaysOut.equal_iff`): the layout has a
blank in it, and the text that a timestamp is bound as has none.
-/

namespace Folio

open Folio.Sql
open Folio.Statement
open Folio.Time (Timestamp)

/-! ### Comparisons in SQL -/

namespace Sql

/-- The number of the parameter that a term passes on, whatever it is cast to. -/
def Term.parameter? : Term → Option Nat
  | .slot n => some n
  | .cast _ inner => inner.parameter?
  | _ => none

/-- The terms that a condition compares with each other. -/
def Condition.comparisons : Condition → List (Term × Term)
  | .compare left _ right | .like left right | .equalFolded left right | .anyElement _ left right =>
    [(left, right)]
  | .inList t items => items.map (t, ·)
  | .and left right | .or left right => left.comparisons ++ right.comparisons
  | .not inner => inner.comparisons
  | .isNull _ | .isNotNull _ | .literal _ | .template _ => []

/-- If the left side is in the layout of timestamps and the right side is a parameter, then so is the
parameter, unless it is the missing value. -/
def Levelled (params : List Value) (p : Term × Term) : Prop :=
  ∀ inner n v, p.1 = .cast .timestamp inner → p.2.parameter? = some n → params[n - 1]? = some v →
    v.isNull = false → p.2 = .cast .timestamp (.slot n)

/-- All comparisons of the condition are such. -/
def Condition.Levels (params : List Value) (c : Condition) : Prop :=
  ∀ p ∈ c.comparisons, Levelled params p

variable {params : List Value} {left right : Condition}

theorem Condition.levels_and : (Condition.and left right).Levels params ↔
    left.Levels params ∧ right.Levels params :=
  List.forall_mem_append

theorem Condition.levels_or : (Condition.or left right).Levels params ↔
    left.Levels params ∧ right.Levels params :=
  List.forall_mem_append

/-- What is compared with no parameter is in no danger. -/
theorem Levelled.of_no_parameter {p : Term × Term} (none : p.2.parameter? = none) : Levelled params p := by
  intro inner n v _ parameter
  rw [none] at parameter
  cases parameter

end Sql

/-! ### Fragments -/

namespace Statement

/-- Does the fragment compare a timestamp in the layout with a value that is bound by itself? -/
def Fragment.IsUneven : Fragment → Prop
  | .arrayContains _ element v => element = .cast .timestamp ∧ v.isNull = false
  | .like l _ _ | .equalFolded l _ => l.conversion = .cast .timestamp
  | .and left right | .or left right => left.IsUneven ∨ right.IsUneven
  | .not inner => inner.IsUneven
  | _ => False

theorem Fragment.not_isUneven_among (l : Locator) (vs : List Value) : ¬(Fragment.among l vs).IsUneven := by
  cases vs <;> exact id

/-- A locator is in the layout if its conversion says so. -/
theorem Locator.toTerm_eq_timestamp {l : Locator} {d : Dialect} {inner : Term}
    (h : l.toTerm d = .cast .timestamp inner) : l.conversion = .cast .timestamp := by
  obtain ⟨place, c⟩ := l
  cases d <;> cases c <;> cases place <;> cases h <;> rfl

theorem Locator.toTerm_of_timestamp {l : Locator} {d : Dialect} (h : l.conversion = .cast .timestamp) :
    l.toTerm d = .cast .timestamp l.place.toTerm := by
  obtain ⟨place, c⟩ := l
  obtain rfl : c = .cast .timestamp := h
  cases d <;> rfl

theorem elementTerm_eq_timestamp {d : Dialect} {c : Conversion} :
    (∃ inner, elementTerm d c = .cast .timestamp inner) ↔ c = .cast .timestamp := by
  cases c with
  | cast type =>
    constructor
    · rintro ⟨inner, same⟩
      cases same
      rfl
    · rintro ⟨⟩
      exact ⟨_, rfl⟩
  | none => cases d <;> exact ⟨nofun, nofun⟩
  | boolText => cases d <;> exact ⟨nofun, nofun⟩

variable {params : List Value}

/-- A value that is bound is the parameter that its term names. -/
theorem getElem?_of_bindValue {v w : Value} {before : Array Value} {n : Nat}
    (grown : (bindValue v before).2.toList <+: params)
    (parameter : (bindValue v before).1.parameter? = some n) (there : params[n - 1]? = some w) : w = v := by
  obtain rfl : before.size + 1 = n := Option.some.inj parameter
  obtain ⟨more, rfl⟩ := grown
  rw [Nat.add_sub_cancel, bindValue] at there
  simpa using there.symm

/-- A value that is bound by itself stays out of the layout. -/
theorem levelled_bindValue {t : Term} {v : Value} {before : Array Value}
    (grown : (bindValue v before).2.toList <+: params) :
    Levelled params (t, (bindValue v before).1) ↔
      ¬((∃ inner, t = .cast .timestamp inner) ∧ v.isNull = false) := by
  have there : params[before.size + 1 - 1]? = some v := by
    obtain ⟨more, rfl⟩ := grown
    rw [Nat.add_sub_cancel, bindValue]
    simp
  constructor
  · rintro levelled ⟨⟨inner, rfl⟩, present⟩
    cases levelled inner _ v rfl rfl there present
  · intro even inner n w cast parameter found present
    obtain rfl := getElem?_of_bindValue grown parameter found
    exact absurd ⟨⟨inner, cast⟩, present⟩ even

/-- What is bound for a locator is brought into the layout with it. -/
theorem levelled_bindOperand {l : Locator} {v : Value} {before : Array Value}
    (grown : (bindOperand .sqlite l v before).2.toList <+: params) :
    Levelled params (l.toTerm .sqlite, (bindOperand .sqlite l v before).1) := by
  by_cases timestamp : l.conversion = .cast .timestamp ∧ v.isNull = false
  · obtain ⟨cast, present⟩ := timestamp
    have bound : bindOperand .sqlite l v before =
        (.cast .timestamp (bindValue v before).1, (bindValue v before).2) := by
      show (if _ then _ else _ : Binding Term) (bindValue v before).2 = _
      rw [if_pos (by simp [cast, present])]
      rfl
    rw [bound]
    rintro inner n w - parameter - -
    obtain rfl : before.size + 1 = n := Option.some.inj parameter
    rfl
  · have bound : bindOperand .sqlite l v before = bindValue v before := by
      show (if _ then _ else _ : Binding Term) (bindValue v before).2 = _
      rw [if_neg (by simpa using timestamp)]
      rfl
    rw [bound] at grown ⊢
    refine (levelled_bindValue grown).mpr ?_
    rintro ⟨⟨inner, cast⟩, present⟩
    exact timestamp ⟨Locator.toTerm_eq_timestamp cast, present⟩

/-- What is bound one after the other is bound each by itself, and stays bound. -/
theorem exists_of_mem_mapM {α β : Type} {f : α → Binding β} (grows : ∀ a, Grows (f a)) {as : List α}
    {before : Array Value} {x : β} (mem : x ∈ (as.mapM f before).1) :
    ∃ a ∈ as, ∃ b, x = (f a b).1 ∧ (f a b).2.toList <+: (as.mapM f before).2.toList := by
  induction as generalizing before with
  | nil => cases mem
  | cons a rest ih =>
    rw [List.mapM_cons] at mem ⊢
    change x ∈ (f a before).1 :: (rest.mapM f (f a before).2).1 at mem
    rcases List.mem_cons.mp mem with rfl | later
    · exact ⟨a, List.mem_cons_self, before, rfl, Grows.mapM grows rest _⟩
    · obtain ⟨a', there, b, made, stays⟩ := ih later
      exact ⟨a', List.mem_cons_of_mem a there, b, made, stays⟩

/-- Each comparison with an item of a list has an operand of its own. -/
theorem exists_of_mem_comparisons_inList {l : Locator} {v : Value} {vs : List Value} {before : Array Value}
    {p : Term × Term} (mem : p ∈ ((Fragment.inList l (v :: vs)).toCondition .sqlite before).1.comparisons) :
    ∃ w b, p = (l.toTerm .sqlite, (bindOperand .sqlite l w b).1) ∧
      (bindOperand .sqlite l w b).2.toList <+:
        ((Fragment.inList l (v :: vs)).toCondition .sqlite before).2.toList := by
  have items : p ∈ ((v :: vs).mapM (bindOperand .sqlite l) before).1.map (l.toTerm .sqlite, ·) := mem
  obtain ⟨item, there, rfl⟩ := List.mem_map.mp items
  obtain ⟨w, -, b, rfl, stays⟩ := exists_of_mem_mapM (Grows.bindOperand .sqlite l) there
  exact ⟨w, b, rfl, stays⟩

/-- All comparisons of a fragment have both sides in the layout, or none, unless the fragment is uneven. -/
theorem levels_toCondition {f : Fragment} {before : Array Value}
    (grown : (f.toCondition .sqlite before).2.toList <+: params) :
    (f.toCondition .sqlite before).1.Levels params ↔ ¬f.IsUneven := by
  induction f generalizing before with
  | compare l op v =>
    refine iff_of_true ?_ id
    rintro p mem
    obtain rfl := List.mem_singleton.mp mem
    exact levelled_bindOperand grown
  | and left right ihl ihr =>
    have last : (right.toCondition .sqlite (left.toCondition .sqlite before).2).2.toList <+: params := grown
    have first := (Grows.toCondition .sqlite right _).trans last
    rw [Fragment.IsUneven, not_or, ← ihl first, ← ihr last]
    exact Condition.levels_and
  | or left right ihl ihr =>
    have last : (right.toCondition .sqlite (left.toCondition .sqlite before).2).2.toList <+: params := grown
    have first := (Grows.toCondition .sqlite right _).trans last
    rw [Fragment.IsUneven, not_or, ← ihl first, ← ihr last]
    exact Condition.levels_or
  | not inner ih => exact ih grown
  | inList l values =>
    refine iff_of_true ?_ id
    cases values with
    | nil => exact fun _ mem => absurd mem List.not_mem_nil
    | cons v vs =>
      intro p mem
      obtain ⟨w, b, rfl, stays⟩ := exists_of_mem_comparisons_inList mem
      exact levelled_bindOperand (stays.trans grown)
  | like l | equalFolded l =>
    refine List.forall_mem_singleton.trans ((levelled_bindValue grown).trans (not_congr ?_))
    exact ⟨fun ⟨⟨_, cast⟩, _⟩ => Locator.toTerm_eq_timestamp cast,
      fun timestamp => ⟨⟨_, Locator.toTerm_of_timestamp timestamp⟩, rfl⟩⟩
  | arrayContains path element v =>
    refine List.forall_mem_singleton.trans ((levelled_bindValue grown).trans (not_congr ?_))
    exact and_congr_left' elementTerm_eq_timestamp
  | nullOrBlank l whitespace =>
    refine iff_of_true ?_ id
    -- the empty text is no parameter
    intro p mem
    refine Levelled.of_no_parameter ?_
    cases whitespace <;> obtain rfl := List.mem_singleton.mp mem <;> rfl
  | isNull l | isNotNull l | literal text | template parts =>
    exact iff_of_true (fun _ mem => absurd mem List.not_mem_nil) id

theorem bindOperand_parameter {l : Locator} {v : Value} {before : Array Value} {n : Nat}
    (parameter : (bindOperand .sqlite l v before).1.parameter? = some n) :
    (bindOperand .sqlite l v before).1 = .slot n ∨
      (bindOperand .sqlite l v before).1 = .cast .timestamp (.slot n) := by
  change ((if _ then _ else _ : Binding Term) (bindValue v before).2).1.parameter? = some n at parameter
  show ((if _ then _ else _ : Binding Term) (bindValue v before).2).1 = _ ∨
    ((if _ then _ else _ : Binding Term) (bindValue v before).2).1 = _
  split at parameter
  next layout =>
    rw [if_pos layout]
    exact .inr (congrArg _ (congrArg _ (Option.some.inj parameter)))
  next plain =>
    rw [if_neg plain]
    exact .inl (congrArg _ (Option.some.inj parameter))

/-- A parameter that a fragment compares with is as it was bound, or in the layout. -/
theorem parameter_of_mem_comparisons {f : Fragment} {before : Array Value} {p : Term × Term} {n : Nat}
    (mem : p ∈ (f.toCondition .sqlite before).1.comparisons) (parameter : p.2.parameter? = some n) :
    p.2 = .slot n ∨ p.2 = .cast .timestamp (.slot n) := by
  induction f generalizing before with
  | compare l op v =>
    obtain rfl := List.mem_singleton.mp mem
    exact bindOperand_parameter parameter
  | and left right ihl ihr | or left right ihl ihr =>
    exact (List.mem_append.mp mem).elim ihl ihr
  | not inner ih => exact ih mem
  | inList l values =>
    cases values with
    | nil => cases mem
    | cons v vs =>
      obtain ⟨w, b, rfl, -⟩ := exists_of_mem_comparisons_inList mem
      exact bindOperand_parameter parameter
  | like l kind needle | equalFolded l text | arrayContains path element v =>
    obtain rfl := List.mem_singleton.mp mem
    exact .inl (congrArg _ (Option.some.inj parameter))
  | nullOrBlank l whitespace =>
    cases whitespace <;> obtain rfl := List.mem_singleton.mp mem <;> cases parameter
  | isNull l | isNotNull l | literal text | template parts => cases mem

end Statement

/-! ### Values -/

namespace Relational

/-- What is documented of timestamps in SQLite: one is bound as a text with every digit and compared as
such, and the layout has a blank between the date and the time of day. -/
structure Library.LaysOut (L : Library) : Prop where
  bound : ∀ s t, L.equal (.text s) (.timestamp t) = some (decide (s = t.sortable))
  blank : ∀ v s, L.cast .timestamp v = .text s → ' ' ∈ s.toList

end Relational

namespace Time.Timestamp

theorem blank_not_mem_padded (width n : Nat) : ' ' ∉ padded width n := by
  intro mem
  rcases List.mem_append.mp mem with zeros | digits
  · cases (List.mem_replicate.mp zeros).2
  · have digit := Nat.isDigit_of_mem_toDigits (by decide) (by decide) digits
    cases digit

theorem blank_not_mem_sortable (t : Timestamp) : ' ' ∉ t.sortable.toList := by
  have year : ' ' ∉ yearText t.date.year := by
    unfold yearText
    split
    · exact blank_not_mem_padded _ _
    · split <;> simp [blank_not_mem_padded]
  simp [sortable, render, Fraction.render, year, blank_not_mem_padded]

end Time.Timestamp

namespace Relational

variable {L : Library} {env : Env} {p : Term × Term} {inner : Term} {n : Nat} {t : Timestamp} {s : String}

/-- What is in the layout, of a timestamp that is compared with the same timestamp, compares equal if and only
if that is in the layout, too. -/
theorem Library.LaysOut.equal_iff (laid : L.LaysOut) (left : p.1 = .cast .timestamp inner)
    (right : p.2 = .slot n ∨ p.2 = .cast .timestamp (.slot n))
    (bound : env.params[n - 1]? = some (.timestamp t)) (stored : L.term env p.1 = .text s)
    (same : L.cast .timestamp (.timestamp t) = .text s) :
    L.equal (L.term env p.1) (L.term env p.2) = some true ↔ Levelled env.params p := by
  have found : L.term env (.slot n) = .timestamp t := by
    rw [term, bound]
    rfl
  rcases right with plain | cast
  · have apart : s ≠ t.sortable := by
      rintro rfl
      exact t.blank_not_mem_sortable (laid.blank _ _ same)
    rw [stored, plain, found, laid.bound, decide_eq_false apart]
    refine iff_of_false (by decide) fun levelled => ?_
    have through := levelled inner n _ left (by rw [plain]; rfl) bound rfl
    rw [plain] at through
    cases through
  · rw [stored, cast, term, found, same, equal_text]
    refine iff_of_true rfl ?_
    rintro _ m v - parameter - -
    rw [cast] at parameter ⊢
    cases parameter
    rfl

end Relational

end Folio
