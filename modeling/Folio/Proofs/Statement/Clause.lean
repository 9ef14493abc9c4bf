import Folio.Proofs.Relational.Reads
import Folio.Proofs.Sql.Operands

/-!
# Folio.Proofs.Statement.Clause

The text of a predicate keeps its tree, and the `WHERE` clause of a statement is the
conjunction of its filters and scopes.

A fragment's `tree` has its connectives, and at its leaves the fragments that are none. The
text of the tree (`Shape.text`) depends on the texts of the leaves, which are read in two ways:
each as one condition, whatever it says, or by what it says. Both give the tree back
(`Shape.clauses_text`), the second one where every leaf is one condition or a pair of
parentheses, as all are that the library writes by itself (`Fragment.IsOwn`).
-/

namespace Folio

open Folio.Sql
open Folio.Statement

namespace Sql.Shape

variable {α β : Type}

/-- Every condition replaced, from left to right. -/
def mapM {m : Type → Type} [Monad m] (f : α → m β) : Shape α → m (Shape β)
  | .one a => return .one (← f a)
  | .and left right => return .and (← left.mapM f) (← right.mapM f)
  | .or left right => return .or (← left.mapM f) (← right.mapM f)
  | .not inner => return .not (← inner.mapM f)

/-- The text of a tree, given the texts of its conditions. -/
def text (leaf : α → List (Symbol β)) : Shape α → List (Symbol β)
  | .one a => leaf a
  | .and left right =>
    symbols "(" ++ left.text leaf ++ symbols " AND " ++ right.text leaf ++ symbols ")"
  | .or left right =>
    symbols "(" ++ left.text leaf ++ symbols " OR " ++ right.text leaf ++ symbols ")"
  | .not inner => symbols "NOT (" ++ inner.text leaf ++ symbols ")"

/-- The condition that a tree of conditions is. -/
def condition : Shape Condition → Condition
  | .one c => c
  | .and left right => .and left.condition right.condition
  | .or left right => .or left.condition right.condition
  | .not inner => .not inner.condition

/-- The text of a condition is that of its tree. -/
theorem symbols_condition (d : Dialect) (t : Shape Condition) :
    (symbols (t.condition.sql d) : List (Symbol β)) = t.text fun c => symbols (c.sql d) := by
  induction t with
  | one c => rfl
  | and left right ihl ihr =>
    show symbols ("(" ++ left.condition.sql d ++ " AND " ++ right.condition.sql d ++ ")") = _
    simp only [symbols_append, ihl, ihr, text]
  | or left right ihl ihr =>
    show symbols ("(" ++ left.condition.sql d ++ " OR " ++ right.condition.sql d ++ ")") = _
    simp only [symbols_append, ihl, ihr, text]
  | not inner ih =>
    show symbols ("NOT (" ++ inner.condition.sql d ++ ")") = _
    simp only [symbols_append, ih, text]

/-- A tree whose conditions are operands is read back as the tree of their readings. -/
theorem clauses_text {leaf : α → List (Symbol β)} {reading : α → Reading β} (t : Shape α)
    (h : ∀ a ∈ t.leaves, clauses (leaf a) = some [[reading a]]) :
    clauses (t.text leaf) = some [[t.bind reading]] := by
  induction t with
  | one a => exact h a List.mem_cons_self
  | and left right ihl ihr =>
    have first := ihl fun a mem => h a (List.mem_append_left _ mem)
    have second := ihr fun a mem => h a (List.mem_append_right _ mem)
    have inside : readText (left.text leaf ++ symbols " AND " ++ right.text leaf) =
        some (.and (left.bind reading) (right.bind reading)) := by
      rw [readText, clauses_and first second]
      rfl
    simpa only [text, Shape.bind, List.append_assoc] using clauses_group inside
  | or left right ihl ihr =>
    have first := ihl fun a mem => h a (List.mem_append_left _ mem)
    have second := ihr fun a mem => h a (List.mem_append_right _ mem)
    have inside : readText (left.text leaf ++ symbols " OR " ++ right.text leaf) =
        some (.or (left.bind reading) (right.bind reading)) := by
      rw [readText, clauses_or first second]
      rfl
    simpa only [text, Shape.bind, List.append_assoc] using clauses_group inside
  | not inner ih =>
    have inside : readText (inner.text leaf) = some (inner.bind reading) := by
      rw [readText, ih h]
      rfl
    exact clauses_not inside

end Sql.Shape

/-! ### Conjunctions -/

namespace Sql

variable {β : Type}

/-- Texts of which a row must meet all. -/
def conjoined (texts : List (List (Symbol β))) : List (Symbol β) :=
  (symbols " AND ").intercalate texts

theorem symbols_conjunctionSql (d : Dialect) (conditions : List Condition) :
    (symbols (conjunctionSql d conditions) : List (Symbol β)) =
      conjoined (conditions.map fun c => symbols (c.sql d)) := by
  induction conditions with
  | nil => rfl
  | cons c rest ih =>
    cases rest with
    | nil => simp [conjunctionSql, conjoined]
    | cons c' rest =>
      have joined : conjunctionSql d (c :: c' :: rest) =
          c.sql d ++ " AND " ++ conjunctionSql d (c' :: rest) := String.intercalate_cons_cons
      rw [joined, symbols_append, symbols_append, ih]
      simp [conjoined, List.intercalate, List.append_assoc]

theorem symbols_conjunctionSql_condition (d : Dialect) (trees : List (Shape Condition)) :
    (symbols (conjunctionSql d (trees.map Shape.condition)) : List (Symbol β)) =
      conjoined (trees.map (Shape.text fun c => symbols (c.sql d))) := by
  rw [symbols_conjunctionSql, List.map_map]
  congr 1
  exact List.map_congr_left fun t _ => t.symbols_condition d

/-- The clauses of a conjunction, from those of its texts. -/
theorem clauses_conjoined {texts : List (List (Symbol β))} {rows : List (List (List (Reading β)))}
    (h : List.Forall₂ (fun xs row => clauses xs = some row) texts rows) (some_ : texts ≠ []) :
    clauses (conjoined texts) = some (rows.foldr glue []) := by
  induction h with
  | nil => exact absurd rfl some_
  | @cons xs row texts rows first rest ih =>
    cases rest with
    | nil => simpa [conjoined] using first
    | cons second rest =>
      have joined := clauses_and first (ih (List.cons_ne_nil _ _))
      simpa [conjoined, List.intercalate, List.append_assoc] using joined

/-- Operands joined by `AND` are read as their conjunction. -/
theorem readText_conjoined {α : Type} {leaf : α → List (Symbol β)} {reading : α → Reading β}
    {trees : List (Shape α)} (h : ∀ t ∈ trees, ∀ a ∈ t.leaves, clauses (leaf a) = some [[reading a]]) :
    readText (conjoined (trees.map (Shape.text leaf))) = Shape.all? (trees.map (Shape.bind reading)) := by
  cases trees with
  | nil => rfl
  | cons t rest =>
    have each : List.Forall₂ (fun xs row => clauses xs = some row) ((t :: rest).map (Shape.text leaf))
        ((t :: rest).map fun t => [[t.bind reading]]) := by
      rw [List.forall₂_map_left_iff, List.forall₂_map_right_iff, List.forall₂_same]
      exact fun t mem => t.clauses_text (h t mem)
    have row : ∀ t rest, ((t :: rest).map fun t => [[t.bind reading]]).foldr glue [] =
        [(t :: rest).map (Shape.bind reading)] := by
      intro t rest
      induction rest generalizing t with
      | nil => rfl
      | cons t' rest ih =>
        rw [List.map_cons, List.foldr_cons, ih t']
        rfl
    rw [readText, clauses_conjoined each (by simp), row]
    rfl

end Sql

namespace Statement

/-! ### Trees of fragments -/

/-- The tree of a fragment. Its leaves connect no others. -/
def Fragment.tree : Fragment → Shape Fragment
  | .and left right => .and left.tree right.tree
  | .or left right => .or left.tree right.tree
  | .not inner => .not inner.tree
  | f => .one f

/-- The tree of a fragment's conditions, the values bound. -/
def Fragment.conditions (d : Dialect) (f : Fragment) : Binding (Shape Condition) :=
  f.tree.mapM (Fragment.toCondition d)

/-- The condition for a fragment has the fragment's tree. -/
theorem Fragment.toCondition_eq (d : Dialect) (f : Fragment) :
    f.toCondition d = Shape.condition <$> f.conditions d := by
  induction f with
  | and left right ihl ihr | or left right ihl ihr =>
    rw [Fragment.toCondition, ihl, ihr]
    rfl
  | not inner ih =>
    rw [Fragment.toCondition, ih]
    rfl
  | _ => rfl

/-- What is bound for a tree is bound for its leaves. -/
theorem mem_leaves_mapM {α β : Type} {f : α → Binding β} {t : Shape α} {before : Array Value} {b : β}
    (h : b ∈ (t.mapM f before).1.leaves) : ∃ a ∈ t.leaves, ∃ before, b = (f a before).1 := by
  induction t generalizing before with
  | one a => exact ⟨a, List.mem_cons_self, before, List.mem_singleton.mp h⟩
  | and left right ihl ihr | or left right ihl ihr =>
    rcases List.mem_append.mp h with h | h
    · obtain ⟨a, mem, bound⟩ := ihl h
      exact ⟨a, List.mem_append_left _ mem, bound⟩
    · obtain ⟨a, mem, bound⟩ := ihr h
      exact ⟨a, List.mem_append_right _ mem, bound⟩
  | not inner ih => exact ih h

theorem mem_mapM {α β : Type} {f : α → Binding β} {as : List α} {before : Array Value} {b : β}
    (h : b ∈ (as.mapM f before).1) : ∃ a ∈ as, ∃ before, b = (f a before).1 := by
  induction as generalizing before with
  | nil => cases h
  | cons a rest ih =>
    rw [List.mapM_cons] at h
    rcases List.mem_cons.mp h with h | h
    · exact ⟨a, List.mem_cons_self, before, h⟩
    · obtain ⟨a', mem, bound⟩ := ih h
      exact ⟨a', List.mem_cons_of_mem _ mem, bound⟩

/-! ### The library's own conditions -/

/-- The column that is located, if one is, has a name that is a word. -/
def Locator.IsNamed (l : Locator) : Prop :=
  ∀ name, l.place = .column name → IsName name

/-- The columns that a fragment locates have names that are words. -/
def Fragment.IsNamed : Fragment → Prop
  | .and left right | .or left right => left.IsNamed ∧ right.IsNamed
  | .not inner => inner.IsNamed
  | .literal _ | .template _ | .arrayContains .. => True
  | .compare l _ _ | .isNull l | .isNotNull l | .inList l _ | .like l _ _ | .equalFolded l _
  | .nullOrBlank l _ => l.IsNamed

/-- A condition whose text is not the library's own. -/
def IsCustom : Condition → Prop
  | .literal text => text ≠ "1=1" ∧ text ≠ "1=0"
  | .template _ => True
  | _ => False

/-- A fragment with no texts but the library's own. -/
def Fragment.IsOwn (f : Fragment) : Prop :=
  f.IsNamed ∧ ∀ leaf ∈ f.tree.leaves, ∀ d before, ¬IsCustom (leaf.toCondition d before).1

/-- The condition's text is read as one condition, or as what stands in its parentheses. -/
structure ReadsAs {β : Type} (d : Dialect) (c : Condition) (r : Reading β) : Prop where
  single : clauses (symbols (c.sql d)) = some [[r]]
  closed : (∃ ts, Reads (symbols (c.sql d)) ts ∧ r = .one ts) ∨
    ∃ xs, symbols (c.sql d) = symbols "(" ++ xs ++ symbols ")" ∧ readText xs = some r

section

variable {β : Type} (d : Dialect)

theorem readsAs_of_isPlain {c : Condition} (h : c.IsPlain) : ∃ r : Reading β, ReadsAs d c r := by
  obtain ⟨ts, reads, single⟩ := (c.isOperand (α := β) d h).clauses
  exact ⟨_, single, .inl ⟨ts, reads, rfl⟩⟩

/-- Between its parentheses, a check for a blank is two conditions. -/
theorem readsAs_blank {t : Term} (named : t.IsNamed) (whitespace : Bool) :
    ∃ r : Reading β, ReadsAs d (.or (.isNull t) (blankCondition d t whitespace)) r := by
  have blank : (blankCondition d t whitespace).IsPlain := by
    cases d <;> cases whitespace <;> exact ⟨named, trivial⟩
  obtain ⟨r, first, -⟩ := readsAs_of_isPlain (β := β) d (c := .isNull t) named
  obtain ⟨r', second, -⟩ := readsAs_of_isPlain (β := β) d blank
  have inside : readText (symbols ((Condition.isNull t).sql d) ++ symbols " OR " ++
      symbols ((blankCondition d t whitespace).sql d)) = some (.or r r') := by
    rw [readText, clauses_or first second]
    rfl
  have text : (symbols ((Condition.or (.isNull t) (blankCondition d t whitespace)).sql d) :
      List (Symbol β)) = symbols "(" ++ (symbols ((Condition.isNull t).sql d) ++ symbols " OR " ++
        symbols ((blankCondition d t whitespace).sql d)) ++ symbols ")" := by
    show symbols ("(" ++ (Condition.isNull t).sql d ++ " OR " ++
      (blankCondition d t whitespace).sql d ++ ")") = _
    simp only [symbols_append, List.append_assoc]
  exact ⟨_, text ▸ clauses_group inside, .inr ⟨_, text, inside⟩⟩

theorem Locator.isNamed_toTerm {l : Locator} (h : l.IsNamed) : (l.toTerm d).IsNamed := by
  obtain ⟨place, conversion⟩ := l
  cases place with
  | column name =>
    have named : IsName name := h name rfl
    cases d <;> cases conversion <;> exact named
  | json path => cases d <;> cases conversion <;> trivial

theorem isNamed_bindOperand (l : Locator) (v : Value) (before : Array Value) :
    (bindOperand d l v before).1.IsNamed := by
  simp only [bindOperand, bindValue, bind, StateT.bind, pure]
  split <;> trivial

/-- The conditions at the leaves of a fragment are read so, or have the text of others. -/
theorem Fragment.readsAs_of_isNamed {f : Fragment} (named : f.IsNamed) {before : Array Value}
    {c : Condition} (mem : c ∈ (f.conditions d before).1.leaves) :
    IsCustom c ∨ ∃ r : Reading β, ReadsAs d c r := by
  induction f generalizing before with
  | and left right ihl ihr | or left right ihl ihr =>
    rcases List.mem_append.mp mem with mem | mem
    · exact ihl named.1 mem
    · exact ihr named.2 mem
  | not inner ih => exact ih named mem
  | template parts =>
    obtain rfl := List.mem_singleton.mp mem
    exact .inl trivial
  | literal text =>
    obtain rfl := List.mem_singleton.mp mem
    by_cases own : text = "1=1" ∨ text = "1=0"
    · exact .inr (readsAs_of_isPlain d own)
    · exact .inl (not_or.mp own)
  | isNull l | isNotNull l =>
    obtain rfl := List.mem_singleton.mp mem
    exact .inr (readsAs_of_isPlain d (Locator.isNamed_toTerm d named))
  | nullOrBlank l whitespace =>
    obtain rfl := List.mem_singleton.mp mem
    exact .inr (readsAs_blank d (Locator.isNamed_toTerm d named) whitespace)
  | compare l op v =>
    obtain rfl := List.mem_singleton.mp mem
    exact .inr (readsAs_of_isPlain d
      ⟨Locator.isNamed_toTerm d named, isNamed_bindOperand d l v before⟩)
  | like l kind needle | equalFolded l text =>
    obtain rfl := List.mem_singleton.mp mem
    exact .inr (readsAs_of_isPlain d ⟨Locator.isNamed_toTerm d named, trivial⟩)
  | arrayContains path element v =>
    obtain rfl := List.mem_singleton.mp mem
    refine .inr (readsAs_of_isPlain d ⟨?_, trivial⟩)
    cases d <;> cases element <;> trivial
  | inList l values =>
    obtain rfl := List.mem_singleton.mp mem
    cases values with
    | nil => exact .inr (readsAs_of_isPlain d (c := .never) (.inr rfl))
    | cons v vs =>
      refine .inr (readsAs_of_isPlain d ⟨Locator.isNamed_toTerm d named, fun item mem => ?_⟩)
      have bound : item ∈ ((v :: vs).mapM (bindOperand d l) before).1 := mem
      obtain ⟨w, -, before, rfl⟩ := mem_mapM bound
      exact isNamed_bindOperand d l w before

/-- The conditions at the leaves of the library's own fragments are read so. -/
theorem Fragment.readsAs_of_isOwn {f : Fragment} (own : f.IsOwn) {before : Array Value}
    {c : Condition} (mem : c ∈ (f.conditions d before).1.leaves) : ∃ r : Reading β, ReadsAs d c r := by
  refine (readsAs_of_isNamed d own.1 mem).resolve_left fun custom => ?_
  obtain ⟨leaf, there, before, rfl⟩ := mem_leaves_mapM mem
  exact own.2 leaf there d before custom

/-- The conditions of scopes are the library's own. -/
theorem isPlain_of_mem_scopeConditions (tenant : Option String) (deletion : Deletion)
    (before : Array Value) : ∀ c ∈ (scopeConditions tenant deletion before).1, c.IsPlain := by
  have columns : IsName tenantColumn ∧ IsName deletedColumn ∧ IsName deletedAtColumn := by
    refine ⟨?_, ?_, ?_⟩ <;> constructor <;> decide
  have nil : ∀ c ∈ ([] : List Condition), c.IsPlain := nofun
  have cons {c : Condition} {cs : List Condition} (h : c.IsPlain) (rest : ∀ c ∈ cs, c.IsPlain) :
      ∀ x ∈ c :: cs, x.IsPlain := List.forall_mem_cons.mpr ⟨h, rest⟩
  have mine (n : Nat) : (Condition.compare (.column tenantColumn) .eq (.slot n)).IsPlain :=
    ⟨columns.1, trivial⟩
  have flag (n : Nat) : (Condition.compare (.column deletedColumn) .eq (.number n)).IsPlain :=
    ⟨columns.2.1, trivial⟩
  have time (op : Operator) (n : Nat) :
      (Condition.compare (.column deletedAtColumn) op (.slot n)).IsPlain := ⟨columns.2.2, trivial⟩
  cases tenant with
  | none =>
    cases deletion with
    | any => exact nil
    | notDeleted | deleted => exact cons (flag _) nil
    | deletedSince t | deletedBefore t => exact cons (flag 1) (cons (time _ _) nil)
  | some a =>
    cases deletion with
    | any => exact cons (mine _) nil
    | notDeleted | deleted => exact cons (mine _) (cons (flag _) nil)
    | deletedSince t | deletedBefore t =>
      exact cons (mine _) (cons (flag 1) (cons (time _ _) nil))

end

/-! ### Statements -/

/-- What a statement says about the rows that it is for. -/
structure RowFilter where
  filters : List Fragment
  tenant : Option String
  deletion : Deletion

/-- The trees of all that a row must meet: of the filters, the tenant and the deletion. -/
def RowFilter.trees (d : Dialect) (w : RowFilter) : Binding (List (Shape Condition)) := do
  let own ← w.filters.mapM (Fragment.conditions d)
  let scopes ← scopeConditions w.tenant w.deletion
  return own ++ scopes.map .one

/-- The conditions on the tenant and the deletion. -/
def RowFilter.scopes (d : Dialect) (w : RowFilter) (start : Array Value) : List Condition :=
  (scopeConditions w.tenant w.deletion (w.filters.mapM (Fragment.conditions d) start).2).1

theorem RowFilter.trees_eq (d : Dialect) (w : RowFilter) (start : Array Value) :
    (w.trees d start).1 =
      (w.filters.mapM (Fragment.conditions d) start).1 ++ (w.scopes d start).map .one := rfl

/-- The conditions in a statement's trees are those of its filters and scopes. -/
theorem RowFilter.of_mem_trees {d : Dialect} {w : RowFilter} {start : Array Value}
    {t : Shape Condition} (mem : t ∈ (w.trees d start).1) {c : Condition} (leaf : c ∈ t.leaves) :
    (∃ f ∈ w.filters, ∃ before, c ∈ (f.conditions d before).1.leaves) ∨ c ∈ w.scopes d start := by
  rcases List.mem_append.mp mem with mem | mem
  · obtain ⟨f, there, before, rfl⟩ := mem_mapM mem
    exact .inl ⟨f, there, before, leaf⟩
  · obtain ⟨c', there, rfl⟩ := List.mem_map.mp mem
    obtain rfl := List.mem_singleton.mp leaf
    exact .inr there

/-- Those of the scopes are read as one condition each. -/
theorem RowFilter.readsAs_of_mem_scopes {β : Type} (d : Dialect) {w : RowFilter} {start : Array Value}
    {c : Condition} (mem : c ∈ w.scopes d start) : ∃ r : Reading β, ReadsAs d c r :=
  readsAs_of_isPlain d (isPlain_of_mem_scopeConditions _ _ _ c mem)

theorem mapM_toCondition (d : Dialect) (filters : List Fragment) :
    filters.mapM (Fragment.toCondition d) =
      List.map Shape.condition <$> filters.mapM (Fragment.conditions d) := by
  induction filters with
  | nil => rfl
  | cons f rest ih =>
    rw [List.mapM_cons, List.mapM_cons, ih, Fragment.toCondition_eq]
    rfl

/-- The conditions of a `WHERE` clause are those of its trees. -/
theorem whereConditions_eq (d : Dialect) (w : RowFilter) :
    whereConditions d w.filters w.tenant w.deletion = List.map Shape.condition <$> w.trees d := by
  rw [whereConditions, mapM_toCondition]
  funext before
  show ((List.map Shape.condition _) ++ _, _) = (List.map Shape.condition (_ ++ List.map _ _), _)
  rw [List.map_append, List.map_map]
  congr 2
  exact (List.map_id _).symm

end Statement

/-- What a statement says about its rows, if it is for all rows that meet filters. -/
def Statement.rowFilter? : Statement → Option RowFilter
  | .select s => some ⟨s.filters, s.tenant, s.deletion⟩
  | .deleteWhere x => some ⟨x.filters, some x.tenant, if x.soft.isSome then .notDeleted else .any⟩
  | .undeleteWhere x => some ⟨x.filters, some x.tenant, .deleted⟩
  | _ => none

/-- The values that are bound before those of the clause: the time of a deletion. -/
def Statement.boundFirst (before : Array Value) : Statement → Array Value
  | .deleteWhere x => x.soft.elim before fun t => before.push (.timestamp t)
  | _ => before

/-- The trees of a statement's clause. -/
def Statement.trees (d : Dialect) (s : Statement) (w : RowFilter) (before : Array Value) :
    List (Shape Condition) :=
  (w.trees d (s.boundFirst before)).1

theorem Sql.RowQuery.sql_eq (d : Dialect) (q : RowQuery) :
    ∃ front back, q.sql d = front ++ whereSql d q.conditions ++ back :=
  ⟨_, q.order.sql d ++ q.page.sql, by rw [RowQuery.sql, String.append_assoc]⟩

/-- The text of such a statement has the clause in it, whose values are bound last. -/
theorem Statement.sql_eq {s : Statement} {w : RowFilter} (h : s.rowFilter? = some w) (d : Dialect)
    (before : Array Value) :
    ∃ front back, s.sql d before =
      (front ++ whereSql d ((s.trees d w before).map Shape.condition) ++ back,
        (w.trees d (s.boundFirst before)).2) := by
  have trees : ((s.trees d w before).map Shape.condition, (w.trees d (s.boundFirst before)).2) =
      whereConditions d w.filters w.tenant w.deletion (s.boundFirst before) := by
    rw [whereConditions_eq]
    rfl
  -- it is enough to find the clause's conditions and the values bound with them
  have found (front back : String) {text : String × Array Value}
      (same : text = (front ++
        whereSql d (whereConditions d w.filters w.tenant w.deletion (s.boundFirst before)).1 ++ back,
        (whereConditions d w.filters w.tenant w.deletion (s.boundFirst before)).2)) :
      ∃ front back, text = (front ++ whereSql d ((s.trees d w before).map Shape.condition) ++ back,
        (w.trees d (s.boundFirst before)).2) := by
    rw [← trees] at same
    exact ⟨front, back, same⟩
  cases s with
  | select s =>
    obtain rfl := Option.some.inj h
    obtain ⟨p, bound, query⟩ := Relational.Library.toQuery_cases d s before
    obtain ⟨front, back, text⟩ := RowQuery.sql_eq d (s.toRowQuery d p before).1
    have whole : Statement.sql d (.select s) before =
      ((s.toQuery d before).1.sql d, (s.toRowQuery d p before).2) := by
      rw [← bound]
      rfl
    rcases query with query | query | ⟨c, query⟩
    · refine found front back ?_
      rw [whole, query]
      exact congrArg (·, _) text
    · refine found ("SELECT CASE WHEN EXISTS (" ++ front) (back ++ ") THEN 1 ELSE 0 END") ?_
      have around : (s.toQuery d before).1.sql d = "SELECT CASE WHEN EXISTS (" ++
          (s.toRowQuery d p before).1.sql d ++ ") THEN 1 ELSE 0 END" := by
        rw [query]
        rfl
      rw [whole, around, text]
      simp only [String.append_assoc]
      rfl
    · refine found ("SELECT " ++ c.sql d ++ " FROM (" ++ front) (back ++ ") AS q") ?_
      have around : (s.toQuery d before).1.sql d = "SELECT " ++ c.sql d ++ " FROM (" ++
          (s.toRowQuery d p before).1.sql d ++ ") AS q" := by
        rw [query]
        rfl
      rw [whole, around, text]
      simp only [String.append_assoc]
      rfl
  | deleteWhere x =>
    obtain ⟨table, filters, tenant, soft⟩ := x
    obtain rfl := Option.some.inj h
    cases soft with
    | none =>
      refine found ("DELETE FROM " ++ table.sql d) "" ?_
      rw [String.append_empty]
      rfl
    | some t =>
      refine found ("UPDATE " ++ table.sql d ++ " SET " ++ assignmentsSql d
        [setColumn deletedColumn (.number 1), setColumn deletedAtColumn (.slot (before.size + 1))])
        "" ?_
      rw [String.append_empty]
      rfl
  | undeleteWhere x =>
    obtain rfl := Option.some.inj h
    refine found ("UPDATE " ++ x.table.sql d ++ " SET " ++ assignmentsSql d (reviving .column)) "" ?_
    rw [String.append_empty]
    rfl
  | _ => cases h

/-! ### Reading back -/

instance {β : Type} : Nonempty (Reading β) :=
  ⟨.one []⟩

/-- A condition that is taken as one is read as one. -/
theorem Sql.clauses_whole {β : Type} (a : β) :
    clauses [Symbol.whole a] = some [[.one [.whole a]]] :=
  clauses_eq_some_iff.mpr ⟨_, rfl, (Inert.whole a .nil).hasClauses rfl⟩

/-- The conjunction of the trees, each condition taken as one, is read back as it is. -/
theorem Sql.readText_conjoined_whole {β : Type} (trees : List (Shape β)) :
    readText (conjoined (trees.map (Shape.text fun c => [.whole c]))) =
      Shape.all? (trees.map (Shape.bind fun c => .one [.whole c])) :=
  readText_conjoined fun _ _ a _ => clauses_whole a

/-- So it is by what the texts say, if each of them is one condition or between parentheses. -/
theorem Statement.readText_conjunctionSql {β : Type} (d : Dialect) {trees : List (Shape Condition)}
    (h : ∀ t ∈ trees, ∀ c ∈ t.leaves, ∃ r : Reading β, ReadsAs d c r) :
    ∃ reading : Condition → Reading β, (∀ t ∈ trees, ∀ c ∈ t.leaves, ReadsAs d c (reading c)) ∧
      readText (symbols (conjunctionSql d (trees.map Shape.condition))) =
        Shape.all? (trees.map (Shape.bind reading)) := by
  have each (c : Condition) (mem : ∃ t ∈ trees, c ∈ t.leaves) : ∃ r : Reading β, ReadsAs d c r := by
    obtain ⟨t, there, leaf⟩ := mem
    exact h t there c leaf
  choose! reading reads using each
  refine ⟨reading, fun t there c leaf => reads c ⟨t, there, leaf⟩, ?_⟩
  rw [symbols_conjunctionSql_condition]
  exact readText_conjoined fun t there c leaf => (reads c ⟨t, there, leaf⟩).single

theorem Statement.RowFilter.readsAs_of_isOwn {β : Type} (d : Dialect) {w : RowFilter}
    (own : ∀ f ∈ w.filters, f.IsOwn) (start : Array Value) :
    ∀ t ∈ (w.trees d start).1, ∀ c ∈ t.leaves, ∃ r : Reading β, ReadsAs d c r := by
  intro t mem c leaf
  rcases RowFilter.of_mem_trees mem leaf with filter | scope
  · obtain ⟨f, there, before, leaf⟩ := filter
    exact Fragment.readsAs_of_isOwn d (own f there) leaf
  · exact RowFilter.readsAs_of_mem_scopes d scope

namespace Orders

/-- Orders without a note, or not of fewer than five items. -/
def lenient : Fragment :=
  .or (.nullOrBlank ⟨.json ⟨["note"]⟩, .none⟩ false)
    (.not (.compare ⟨.json ⟨["items"]⟩, .cast .int⟩ .lt (.int32 5)))

theorem lenient_isOwn : lenient.IsOwn := by
  refine ⟨⟨nofun, nofun⟩, fun leaf mem d before custom => ?_⟩
  rcases List.mem_cons.mp mem with rfl | mem
  · exact custom
  · obtain rfl := List.mem_singleton.mp mem
    exact custom

end Orders

end Folio
