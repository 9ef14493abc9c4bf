import Folio.Proofs.Statement.Clause

/-!
# Folio.Proofs.Statement.Scope

Whether the rows that a statement is for are the tenant's, when its filters have texts of others
in them.

Filters are joined by `AND` as they are. So the scopes bind to the last disjunct of all that is
before them: they hold for every row as long as no filter's text has an `OR` outside of
parentheses (`Loose`), and if one has, the other disjuncts stand beside them. Only a filter that
is text of others itself can be loose, since connectives have parentheses of their own.
-/

namespace Folio

open Folio.Sql
open Folio.Statement
open Folio.Relational (Record Library both either)
open Folio.Time (Timestamp)

/-! ### Truth of a reading -/

namespace Sql

/-- The truth of a tree, from that of its conditions. -/
def Shape.truth {α : Type} (v : α → Option Bool) : Shape α → Option Bool
  | .one a => v a
  | .and left right => both (left.truth v) (right.truth v)
  | .or left right => either (left.truth v) (right.truth v)
  | .not inner => (inner.truth v).map (!·)

theorem both_eq_true {a b : Option Bool} : both a b = some true ↔ a = some true ∧ b = some true := by
  rcases a with _ | _ | _ <;> rcases b with _ | _ | _ <;> simp [both]

/-- All of a row of conjuncts are true if their conjunction is. -/
theorem Shape.truth_of_all? {α : Type} {v : α → Option Bool} {xs : List (Shape α)} {x : Shape α}
    (h : Shape.all? xs = some x) (holds : x.truth v = some true) :
    ∀ y ∈ xs, y.truth v = some true := by
  cases xs with
  | nil => cases h
  | cons first rest =>
    obtain rfl := Option.some.inj h
    have each (rest : List (Shape α)) (first : Shape α)
        (holds : (rest.foldl .and first).truth v = some true) :
        first.truth v = some true ∧ ∀ y ∈ rest, y.truth v = some true := by
      induction rest generalizing first with
      | nil => exact ⟨holds, nofun⟩
      | cons y rest ih =>
        obtain ⟨both, later⟩ := ih _ holds
        obtain ⟨before, here⟩ := both_eq_true.mp both
        exact ⟨before, List.forall_mem_cons.mpr ⟨here, later⟩⟩
    obtain ⟨here, later⟩ := each rest first holds
    exact List.forall_mem_cons.mpr ⟨here, later⟩

/-! ### Rows of conjuncts -/

section

variable {β : Type}

theorem exists_glue_cons (row : List β) (rest b : List (List β)) :
    ∃ x xs, glue (row :: rest) b = x :: xs := by
  cases rest with
  | nil => cases b <;> exact ⟨_, _, rfl⟩
  | cons next rest => exact ⟨_, _, rfl⟩

theorem glue_assoc : ∀ a b c : List (List β), glue (glue a b) c = glue a (glue b c)
  | [], _, _ => rfl
  | [_], [], _ => rfl
  | [_], [_], [] => rfl
  | [row], [row'], x :: xs => by simp [glue]
  | [_], _ :: _ :: _, _ => rfl
  | row :: next :: rest, b, c => by
    obtain ⟨x, xs, same⟩ := exists_glue_cons next rest b
    rw [glue, same, glue, ← same, glue_assoc (next :: rest) b c, glue]

/-- Rows of which each has conjuncts. -/
def Filled (rows : List (List β)) : Prop :=
  rows ≠ [] ∧ ∀ row ∈ rows, row ≠ []

theorem Filled.append {a b : List (List β)} (ha : Filled a) (hb : Filled b) : Filled (a ++ b) :=
  ⟨by simp [ha.1], fun row mem => (List.mem_append.mp mem).elim (ha.2 row) (hb.2 row)⟩

theorem Filled.exists_last {a : List (List β)} (h : Filled a) :
    ∃ before last, a = before ++ [last] ∧ last ≠ [] :=
  ⟨a.dropLast, a.getLast h.1, (List.dropLast_append_getLast h.1).symm, h.2 _ (List.getLast_mem h.1)⟩

theorem Filled.glue {a b : List (List β)} (ha : Filled a) (hb : Filled b) :
    Filled (glue a b) ∧ a.length ≤ (Sql.glue a b).length ∧ b.length ≤ (Sql.glue a b).length := by
  obtain ⟨before, last, rfl, some_⟩ := ha.exists_last
  obtain ⟨row, rest, rfl⟩ := List.exists_cons_of_ne_nil hb.1
  rw [glue_append_singleton]
  refine ⟨⟨by simp, ?_⟩, by simp, by simp⟩
  simp only [List.forall_mem_append, List.forall_mem_cons]
  refine ⟨fun row mem => ha.2 row (List.mem_append_left _ mem), by simp [some_], ?_⟩
  exact fun row mem => hb.2 row (List.mem_cons_of_mem _ mem)

theorem foldr_glue (rowss : List (List (List β))) (last : List (List β)) :
    rowss.foldr glue last = glue (rowss.foldr glue []) last := by
  induction rowss with
  | nil => rfl
  | cons rows rest ih => rw [List.foldr_cons, List.foldr_cons, ih, glue_assoc]

/-- The rows of a conjunction are at least as many as those of each part. -/
theorem filled_foldr_glue (rowss : List (List (List β))) (some_ : rowss ≠ [])
    (h : ∀ rows ∈ rowss, Filled rows) :
    Filled (rowss.foldr glue []) ∧ ∀ rows ∈ rowss, rows.length ≤ (rowss.foldr glue []).length := by
  induction rowss with
  | nil => exact absurd rfl some_
  | cons rows rest ih =>
    cases rest with
    | nil => simpa using h rows List.mem_cons_self
    | cons next rest =>
      obtain ⟨filled, longer⟩ := ih (List.cons_ne_nil _ _) fun rows mem => h rows (List.mem_cons_of_mem _ mem)
      obtain ⟨whole, first, second⟩ := (h rows List.mem_cons_self).glue filled
      refine ⟨whole, List.forall_mem_cons.mpr ⟨first, fun rows mem => (longer rows mem).trans second⟩⟩

/-- Parts without disjuncts have none together. -/
theorem foldr_glue_singletons (rows : List (List β)) (some_ : rows ≠ []) :
    (rows.map fun row => [row]).foldr glue [] = [rows.flatten] := by
  induction rows with
  | nil => exact absurd rfl some_
  | cons row rest ih =>
    cases rest with
    | nil => simp
    | cons next rest =>
      rw [List.map_cons, List.foldr_cons, ih (List.cons_ne_nil _ _)]
      rfl

end

/-- Each row is a conjunction, if each has conjuncts. -/
theorem Shape.mapM_all? {α : Type} (rows : List (List (Shape α))) :
    (∃ xs, rows.mapM Shape.all? = some xs ∧ xs.length = rows.length) ∧ (∀ row ∈ rows, row ≠ []) ∨
      rows.mapM Shape.all? = none ∧ ¬∀ row ∈ rows, row ≠ [] := by
  induction rows with
  | nil => exact .inl ⟨⟨[], rfl, rfl⟩, nofun⟩
  | cons row rest ih =>
    rw [List.mapM_cons]
    cases row with
    | nil => exact .inr ⟨rfl, fun h => h [] List.mem_cons_self rfl⟩
    | cons x xs =>
      rcases ih with ⟨⟨ys, all, length⟩, some_⟩ | ⟨none_, empty⟩
      · refine .inl ⟨⟨_, by rw [all]; rfl, by simp [length]⟩, ?_⟩
        exact List.forall_mem_cons.mpr ⟨List.cons_ne_nil _ _, some_⟩
      · refine .inr ⟨by rw [none_]; rfl, fun h => empty fun row mem => ?_⟩
        exact h row (List.mem_cons_of_mem _ mem)

/-- Filled rows are one tree. -/
theorem Shape.exists_ofClauses?_iff {α : Type} {rows : List (List (Shape α))} :
    (∃ x, Shape.ofClauses? rows = some x) ↔ Filled rows := by
  rw [Shape.ofClauses?, Filled]
  rcases Shape.mapM_all? rows with ⟨⟨xs, all, length⟩, some_⟩ | ⟨none_, empty⟩
  · rw [all]
    cases xs with
    | nil => simp [Shape.any?, List.eq_nil_of_length_eq_zero length.symm]
    | cons x xs =>
      have rows_ne : rows ≠ [] := by
        rintro rfl
        cases length
      exact ⟨fun _ => ⟨rows_ne, some_⟩, fun _ => ⟨_, rfl⟩⟩
  · simp [none_, empty]

/-- The last row is the right of two disjuncts, if there are more. -/
theorem Shape.ofClauses?_append_singleton {α : Type} {rows : List (List (Shape α))}
    {row : List (Shape α)} {l r : Shape α} (left : Shape.ofClauses? rows = some l)
    (right : Shape.all? row = some r) : Shape.ofClauses? (rows ++ [row]) = some (.or l r) := by
  obtain ⟨xs, all, any⟩ := Option.bind_eq_some_iff.mp left
  cases xs with
  | nil => cases any
  | cons x xs =>
    obtain rfl := Option.some.inj any
    simp [Shape.ofClauses?, List.mapM_append, all, right, Shape.any?]

end Sql

/-! ### Texts of others -/

namespace Sql.Shape

variable {α β : Type}

/-- A tree whose conditions can all be read can be read itself, and has no disjuncts outside of
parentheses unless it is one condition. -/
theorem clauses_text_of_complete {leaf : α → List (Symbol β)} (t : Shape α)
    (h : ∀ a ∈ t.leaves, ∃ x, readText (leaf a) = some x) :
    ∃ rows, clauses (t.text leaf) = some rows ∧ Filled rows ∧ ((∃ a, t = .one a) ∨ rows.length = 1) := by
  have complete {xs : List (Symbol β)} : (∃ x, readText xs = some x) ↔
      ∃ rows, clauses xs = some rows ∧ Filled rows := by
    simp only [readText, Option.bind_eq_some_iff, ← Shape.exists_ofClauses?_iff]
    constructor
    · rintro ⟨x, rows, closes, whole⟩
      exact ⟨rows, closes, x, whole⟩
    · rintro ⟨rows, closes, x, whole⟩
      exact ⟨x, rows, closes, whole⟩
  induction t with
  | one a =>
    obtain ⟨rows, closes, filled⟩ := complete.mp (h a List.mem_cons_self)
    exact ⟨rows, closes, filled, .inl ⟨a, rfl⟩⟩
  | and left right ihl ihr =>
    obtain ⟨rows, first, filled, -⟩ := ihl fun a mem => h a (List.mem_append_left _ mem)
    obtain ⟨rows', second, filled', -⟩ := ihr fun a mem => h a (List.mem_append_right _ mem)
    obtain ⟨x, inside⟩ := complete.mpr ⟨_, clauses_and first second, (filled.glue filled').1⟩
    refine ⟨[[x]], ?_, ⟨by simp, by simp⟩, .inr rfl⟩
    simpa only [text, List.append_assoc] using clauses_group inside
  | or left right ihl ihr =>
    obtain ⟨rows, first, filled, -⟩ := ihl fun a mem => h a (List.mem_append_left _ mem)
    obtain ⟨rows', second, filled', -⟩ := ihr fun a mem => h a (List.mem_append_right _ mem)
    obtain ⟨x, inside⟩ := complete.mpr ⟨_, clauses_or first second, filled.append filled'⟩
    refine ⟨[[x]], ?_, ⟨by simp, by simp⟩, .inr rfl⟩
    simpa only [text, List.append_assoc] using clauses_group inside
  | not inner ih =>
    obtain ⟨rows, closes, filled, -⟩ := ih h
    obtain ⟨x, inside⟩ := complete.mpr ⟨_, closes, filled⟩
    exact ⟨[[.not x]], clauses_not inside, ⟨by simp, by simp⟩, .inr rfl⟩

end Sql.Shape

namespace Statement

/-- The text of the condition has an `OR` outside of all parentheses. -/
def Loose (d : Dialect) (c : Condition) : Prop :=
  ∃ rows : List (List (Reading Empty)), clauses (symbols (c.sql d)) = some rows ∧ 1 < rows.length

/-- What a row has to do with a deletion. -/
def Deletion.IsMet (L : Library) (r : Record) : Deletion → Prop
  | .any => True
  | .notDeleted => r.deleted = false
  | .deleted => r.deleted = true
  | .deletedSince t => r.deleted = true ∧
      (L.compare (r.get deletedAtColumn) (.timestamp t)).map Operator.ge.holds = some true
  | .deletedBefore t => r.deleted = true ∧
      (L.compare (r.get deletedAtColumn) (.timestamp t)).map Operator.lt.holds = some true

section

variable {L : Library} {r : Record} {params : List Value} {a : String} {deletion : Deletion}
  {before : Array Value}

theorem flag_of_truth {n : Nat}
    (h : L.truth (r.env params) (.compare (.column deletedColumn) .eq (.number n)) = some true) :
    (if r.deleted then 1 else 0 : Int64) = Int64.ofNat n :=
  L.equal_int64.mp h

theorem deleted_of_truth
    (h : L.truth (r.env params) (.compare (.column deletedColumn) .eq (.number 1)) = some true) :
    r.deleted = true := by
  have one := flag_of_truth h
  cases known : r.deleted with
  | true => rfl
  | false => simp [known] at one

theorem notDeleted_of_truth
    (h : L.truth (r.env params) (.compare (.column deletedColumn) .eq (.number 0)) = some true) :
    r.deleted = false := by
  have zero := flag_of_truth h
  cases known : r.deleted with
  | false => rfl
  | true => simp [known] at zero

theorem deletedAt_of_truth {t : Timestamp} {op : Operator} {i : Nat}
    (bound : params[i]? = some (.timestamp t))
    (h : L.truth (r.env params) (.compare (.column deletedAtColumn) op (.slot (i + 1))) = some true) :
    (L.compare (r.get deletedAtColumn) (.timestamp t)).map op.holds = some true := by
  change (L.compare (r.get deletedAtColumn) ((params[i + 1 - 1]?).getD .null)).map op.holds =
    some true at h
  rwa [Nat.add_sub_cancel, bound] at h

/-- A row on which the conditions of the scopes are true meets the deletion. -/
theorem isMet_of_truth (bound : (scopeConditions (some a) deletion before).2.toList <+: params)
    (holds : ∀ c ∈ (scopeConditions (some a) deletion before).1,
      L.truth (r.env params) c = some true) : deletion.IsMet L r := by
  have second (v : Value) :
      ((before.push (.text a)).push v).toList[before.size + 1]? = some v := by simp
  cases deletion with
  | any => trivial
  | notDeleted =>
    exact notDeleted_of_truth (holds _ (List.mem_cons_of_mem _ List.mem_cons_self))
  | deleted => exact deleted_of_truth (holds _ (List.mem_cons_of_mem _ List.mem_cons_self))
  | deletedSince t | deletedBefore t =>
    have last := holds _ (List.mem_cons_of_mem _ (List.mem_cons_of_mem _ List.mem_cons_self))
    rw [Array.size_push] at last
    exact ⟨deleted_of_truth (holds _ (List.mem_cons_of_mem _ List.mem_cons_self)),
      deletedAt_of_truth (getElem?_of_longer bound (second _)) last⟩

/-- A row on which the conditions of the scopes are true is within the scopes. -/
theorem RowFilter.met_of_truth {d : Dialect} {w : RowFilter} {start : Array Value}
    (tenant : w.tenant = some a) (grown : (w.trees d start).2.toList <+: params)
    (holds : ∀ c ∈ w.scopes d start, L.truth (r.env params) c = some true) :
    r.tenant = a ∧ w.deletion.IsMet L r := by
  obtain ⟨filters, _, deletion⟩ := w
  obtain rfl := tenant
  obtain ⟨mem, slot⟩ := tenant_mem_scopeConditions a deletion
    (filters.mapM (Fragment.conditions d) start).2
  have mine : TenantIn a (RowFilter.scopes d ⟨filters, some a, deletion⟩ start) params :=
    ⟨_, mem, getElem?_of_longer grown slot⟩
  have all : L.all (r.env params) (RowFilter.scopes d ⟨filters, some a, deletion⟩ start) = true :=
    List.all_eq_true.mpr fun c mem => decide_eq_true (holds c mem)
  exact ⟨L.tenant_of_all mine all, isMet_of_truth grown holds⟩

end

/-! ### Clauses of a statement -/

/-- The text of the condition can be read by itself. -/
def IsComplete (d : Dialect) (c : Condition) : Prop :=
  ∃ x : Reading Empty, readText (symbols (c.sql d)) = some x

/-- The disjuncts of a tree's text. -/
def rowsOf (d : Dialect) (t : Shape Condition) : List (List (Reading Empty)) :=
  (clauses (t.text fun c => symbols (c.sql d))).getD []

section

variable {d : Dialect} {t : Shape Condition} {trees : List (Shape Condition)}

theorem rowsOf_spec (h : ∀ c ∈ t.leaves, IsComplete d c) :
    clauses (t.text fun c => symbols (c.sql d)) = some (rowsOf d t) ∧ Filled (rowsOf d t) ∧
      ((∃ c, t = .one c) ∨ (rowsOf d t).length = 1) := by
  obtain ⟨rows, closes, filled, single⟩ := t.clauses_text_of_complete h
  rw [rowsOf, closes]
  exact ⟨rfl, filled, single⟩

theorem loose_iff (h : ∀ c ∈ t.leaves, IsComplete d c) :
    Loose d t.condition ↔ 1 < (rowsOf d t).length := by
  rw [Loose, Shape.symbols_condition, (rowsOf_spec h).1]
  constructor
  · rintro ⟨rows, same, more⟩
    exact Option.some.inj same ▸ more
  · exact fun more => ⟨_, rfl, more⟩

theorem rowsOf_of_readsAs {c : Condition} {r : Reading Empty} (h : ReadsAs d c r) :
    rowsOf d (.one c) = [[r]] := by
  rw [rowsOf, Shape.text, h.single]
  rfl

theorem ReadsAs.isComplete {c : Condition} {r : Reading Empty} (h : ReadsAs d c r) :
    IsComplete d c :=
  ⟨r, by rw [readText, h.single]; rfl⟩

/-- A text that is read as one condition is not loose. -/
theorem ReadsAs.not_loose {c : Condition} {r : Reading Empty} (h : ReadsAs d c r) : ¬Loose d c := by
  intro loose
  obtain ⟨rows, closes, more⟩ := loose
  obtain rfl := Option.some.inj (h.single.symm.trans closes)
  exact absurd more (by simp)

/-- The disjuncts of a conjunction are those of its trees, joined. -/
theorem clauses_conjunctionSql (h : ∀ t ∈ trees, ∀ c ∈ t.leaves, IsComplete d c) (some_ : trees ≠ []) :
    clauses (symbols (conjunctionSql d (trees.map Shape.condition))) =
      some ((trees.map (rowsOf d)).foldr glue []) := by
  rw [symbols_conjunctionSql_condition]
  refine clauses_conjoined ?_ (by simpa using some_)
  rw [List.forall₂_map_left_iff, List.forall₂_map_right_iff, List.forall₂_same]
  exact fun t mem => (rowsOf_spec (h t mem)).1

/-- Trees of which none is loose are read as the conjunction of all that they have. -/
theorem readText_of_not_loose (h : ∀ t ∈ trees, ∀ c ∈ t.leaves, IsComplete d c) (some_ : trees ≠ [])
    (tight : ∀ t ∈ trees, ¬Loose d t.condition) :
    ∃ x, readText (symbols (conjunctionSql d (trees.map Shape.condition))) = some x ∧
      ∀ v, x.truth v = some true → ∀ t ∈ trees, ∀ row ∈ rowsOf d t, ∀ y ∈ row, y.truth v = some true := by
  have single (t : Shape Condition) (mem : t ∈ trees) :
      rowsOf d t = [(rowsOf d t).flatten] ∧ (rowsOf d t).flatten ≠ [] := by
    obtain ⟨-, filled, -⟩ := rowsOf_spec (h t mem)
    have few := (loose_iff (h t mem)).not.mp (tight t mem)
    obtain ⟨before, last, same, some_⟩ := filled.exists_last
    cases before with
    | nil => simp [same, some_]
    | cons row rest => simp [same] at few
  have rows : trees.map (rowsOf d) = (trees.map fun t => (rowsOf d t).flatten).map fun row => [row] := by
    rw [List.map_map]
    exact List.map_congr_left fun t mem => (single t mem).1
  have closes := clauses_conjunctionSql h some_
  rw [rows, foldr_glue_singletons _ (by simpa using some_)] at closes
  obtain ⟨t, mem⟩ := List.exists_mem_of_ne_nil trees some_
  obtain ⟨x, whole⟩ : ∃ x, Shape.all? (trees.map fun t => (rowsOf d t).flatten).flatten = some x := by
    obtain ⟨y, there⟩ := List.exists_mem_of_ne_nil _ (single t mem).2
    have among : y ∈ (trees.map fun t => (rowsOf d t).flatten).flatten :=
      List.mem_flatten_of_mem (List.mem_map_of_mem mem) there
    obtain ⟨z, zs, same⟩ := List.exists_cons_of_ne_nil (List.ne_nil_of_mem among)
    exact ⟨_, by rw [same]; rfl⟩
  refine ⟨x, by rw [readText, closes]; simp [Shape.ofClauses?, whole, Shape.any?], ?_⟩
  intro v holds t mem row there y inside
  refine Shape.truth_of_all? whole holds y ?_
  exact List.mem_flatten_of_mem (List.mem_map_of_mem mem) (List.mem_flatten_of_mem there inside)

/-- Beside the last disjunct, which conditions that follow go on with, stand all that a loose tree
has before it. -/
theorem exists_left_of_loose (h : ∀ t ∈ trees, ∀ c ∈ t.leaves, IsComplete d c)
    (loose : ∃ t ∈ trees, Loose d t.condition) :
    ∃ l : Reading Empty, ∀ scopes : List Condition, (∀ c ∈ scopes, ∃ r : Reading Empty, ReadsAs d c r) →
      ∃ x, readText (symbols (conjunctionSql d ((trees ++ scopes.map Shape.one).map Shape.condition))) =
        some (.or l x) := by
  obtain ⟨t, mem, loose⟩ := loose
  have some_ : trees ≠ [] := List.ne_nil_of_mem mem
  obtain ⟨filled, longer⟩ := filled_foldr_glue (trees.map (rowsOf d)) (by simpa using some_) (by
    intro rows there
    obtain ⟨t, mem, rfl⟩ := List.mem_map.mp there
    exact (rowsOf_spec (h t mem)).2.1)
  obtain ⟨before, last, same, last_some⟩ := filled.exists_last
  have before_filled : Filled before := by
    refine ⟨?_, fun row there => filled.2 row (same ▸ List.mem_append_left _ there)⟩
    rintro rfl
    have two := (loose_iff (h t mem)).mp loose
    have few := longer _ (List.mem_map_of_mem mem)
    rw [same] at few
    exact absurd (two.trans_le few) (by simp)
  obtain ⟨l, left⟩ := Shape.exists_ofClauses?_iff.mpr before_filled
  refine ⟨l, fun scopes reads => ?_⟩
  -- the conditions that follow are one row at most
  have after : ∃ more, glue (before ++ [last]) (((scopes.map Shape.one).map (rowsOf d)).foldr glue []) =
      before ++ [last ++ more] := by
    by_cases none_ : scopes = []
    · exact ⟨[], by simp [none_]⟩
    · have rows : (scopes.map Shape.one).map (rowsOf d) =
          (scopes.map fun c => (rowsOf d (.one c)).flatten).map fun row => [row] := by
        rw [List.map_map, List.map_map]
        refine List.map_congr_left fun c mem => ?_
        obtain ⟨r, reads⟩ := reads c mem
        simp [rowsOf_of_readsAs reads]
      rw [rows, foldr_glue_singletons _ (by simpa using none_), glue_append_singleton]
      exact ⟨_, rfl⟩
  obtain ⟨more, after⟩ := after
  have complete : ∀ t ∈ trees ++ scopes.map Shape.one, ∀ c ∈ t.leaves, IsComplete d c := by
    intro t mem
    rcases List.mem_append.mp mem with mem | mem
    · exact h t mem
    · obtain ⟨c, there, rfl⟩ := List.mem_map.mp mem
      obtain ⟨r, reads⟩ := reads c there
      exact List.forall_mem_singleton.mpr reads.isComplete
  obtain ⟨y, ys, conjuncts⟩ := List.exists_cons_of_ne_nil (List.append_ne_nil_of_left_ne_nil last_some more)
  refine ⟨ys.foldl .and y, ?_⟩
  rw [readText, clauses_conjunctionSql complete (by simp [some_]), Option.bind_some, List.map_append,
    List.foldr_append, foldr_glue, same, after, conjuncts]
  exact Shape.ofClauses?_append_singleton left rfl

end

/-- What is not text of others is read as one condition. -/
theorem RowFilter.readsAs_of_isNamed (d : Dialect) {w : RowFilter}
    (named : ∀ f ∈ w.filters, f.IsNamed) (start : Array Value) :
    ∀ t ∈ (w.trees d start).1, ∀ c ∈ t.leaves, IsCustom c ∨ ∃ r : Reading Empty, ReadsAs d c r := by
  intro t mem c leaf
  rcases RowFilter.of_mem_trees mem leaf with filter | scope
  · obtain ⟨f, there, before, leaf⟩ := filter
    exact Fragment.readsAs_of_isNamed d (named f there) leaf
  · exact .inr (RowFilter.readsAs_of_mem_scopes d scope)

/-- Whether the rows that a statement is for are within its scopes, where the texts of others in
its filters can be read by themselves. They all are unless a filter is loose, and only one that is
text of others itself can be. If one is, what stands before its last `OR` is a disjunct beside all
scopes, whatever they are. -/
theorem scoped_unless_loose {d : Dialect} {s : Statement} {w : RowFilter} {a : String}
    (h : s.rowFilter? = some w) (tenant : w.tenant = some a) (named : ∀ f ∈ w.filters, f.IsNamed)
    (before : Array Value)
    (complete : ∀ t ∈ s.trees d w before, ∀ c ∈ t.leaves, IsCustom c → IsComplete d c) :
    let conditions := (s.trees d w before).map Shape.condition
    (∃ front back, (s.sql d before).1 = front ++ whereSql d conditions ++ back) ∧
    ((∀ c ∈ conditions, ¬Loose d c) →
      ∃ x, readText (symbols (conjunctionSql d conditions)) = some x ∧
        ∀ (L : Library) (r : Record) (params : List Value) (v : List (Token Empty) → Option Bool),
          (s.sql d before).2.toList <+: params →
          (∀ c ∈ w.scopes d (s.boundFirst before), ∀ ts, Reads (symbols (c.sql d)) ts →
            v ts = L.truth (r.env params) c) →
          x.truth v = some true → r.tenant = a ∧ w.deletion.IsMet L r) ∧
    (∀ t ∈ s.trees d w before, Loose d t.condition → ∃ c, t = .one c ∧ IsCustom c) ∧
    ((∃ c ∈ conditions, Loose d c) →
      ∃ l : Reading Empty, ∀ (tenant : Option String) (deletion : Deletion),
        ∃ x, readText (symbols (conjunctionSql d
          (((⟨w.filters, tenant, deletion⟩ : RowFilter).trees d (s.boundFirst before)).1.map
            Shape.condition))) = some (.or l x)) := by
  generalize starting : s.boundFirst before = start
  have trees : s.trees d w before = (w.trees d start).1 := by rw [Statement.trees, starting]
  have scope_tree {c : Condition} (mem : c ∈ w.scopes d start) :
      Shape.one c ∈ s.trees d w before := by
    rw [trees, RowFilter.trees_eq]
    exact List.mem_append_right _ (List.mem_map_of_mem mem)
  have reads : ∀ t ∈ s.trees d w before, ∀ c ∈ t.leaves,
      IsCustom c ∨ ∃ r : Reading Empty, ReadsAs d c r := by
    rw [trees]
    exact RowFilter.readsAs_of_isNamed d named start
  have all_complete : ∀ t ∈ s.trees d w before, ∀ c ∈ t.leaves, IsComplete d c := by
    intro t mem c leaf
    rcases reads t mem c leaf with custom | ⟨r, reads⟩
    · exact complete t mem c leaf custom
    · exact reads.isComplete
  obtain ⟨front, back, text⟩ := Statement.sql_eq h d before
  refine ⟨⟨front, back, congrArg Prod.fst text⟩, fun tight => ?_, fun t mem loose => ?_, fun loose => ?_⟩
  · have some_ : s.trees d w before ≠ [] := by
      obtain ⟨mem, -⟩ := tenant_mem_scopeConditions a w.deletion
        (w.filters.mapM (Fragment.conditions d) start).2
      rw [← tenant] at mem
      exact List.ne_nil_of_mem (scope_tree mem)
    obtain ⟨x, whole, conjuncts⟩ := readText_of_not_loose all_complete some_
      fun t mem => tight _ (List.mem_map_of_mem mem)
    refine ⟨x, whole, fun L r params v grown right holds => ?_⟩
    have bound : (w.trees d start).2.toList <+: params := by
      rw [text, starting] at grown
      exact grown
    refine RowFilter.met_of_truth tenant bound fun c mem => ?_
    have plain := isPlain_of_mem_scopeConditions _ _ _ c mem
    obtain ⟨ts, tokens, single⟩ := (c.isOperand (α := Empty) d plain).clauses
    have row : rowsOf d (.one c) = [[.one ts]] := by
      rw [rowsOf, Shape.text, single]
      rfl
    rw [← right c mem ts tokens]
    exact conjuncts v holds _ (scope_tree mem) _ (row ▸ List.mem_cons_self) _ List.mem_cons_self
  · have more := (loose_iff (all_complete t mem)).mp loose
    obtain ⟨c, rfl⟩ := (rowsOf_spec (all_complete t mem)).2.2.resolve_right (by omega)
    refine ⟨c, rfl, (reads _ mem c List.mem_cons_self).resolve_right fun one => ?_⟩
    obtain ⟨r, reads⟩ := one
    exact reads.not_loose loose
  · have own_loose : ∃ t ∈ (w.filters.mapM (Fragment.conditions d) start).1, Loose d t.condition := by
      obtain ⟨c, mem, loose⟩ := loose
      obtain ⟨t, there, rfl⟩ := List.mem_map.mp mem
      rw [trees, RowFilter.trees_eq] at there
      rcases List.mem_append.mp there with there | there
      · exact ⟨t, there, loose⟩
      · obtain ⟨c, scope, rfl⟩ := List.mem_map.mp there
        obtain ⟨r, reads⟩ := RowFilter.readsAs_of_mem_scopes (β := Empty) d scope
        exact absurd loose reads.not_loose
    obtain ⟨l, left⟩ := exists_left_of_loose (fun t mem => all_complete t (by
      rw [trees, RowFilter.trees_eq]
      exact List.mem_append_left _ mem)) own_loose
    exact ⟨l, fun tenant deletion => left _ fun c mem =>
      readsAs_of_isPlain d (isPlain_of_mem_scopeConditions tenant deletion _ c mem)⟩

end Statement

namespace Orders

/-- Two orders by their identities, in a text of others. -/
def twoOrders : Fragment :=
  .literal "id = 1 OR id = 2"

/-- Those two deleted. -/
def clearingTwo : Statement :=
  .deleteWhere ⟨⟨"dbo", "doc_order"⟩, [twoOrders], "a", none⟩

/-- The first of them is deleted whoever's it is. -/
theorem scoped_unless_loose_two :
    (clearingTwo.sql .sqlite #[]).1 =
      "DELETE FROM \"doc_order\" WHERE id = 1 OR id = 2 AND tenant_id = ?1" ∧
    (∃ first second mine : List (Token Empty),
      readText (symbols "id = 1 OR id = 2 AND tenant_id = ?1") =
        some (.or (.one first) (.and (.one second) (.one mine)))) ∧
    ∃ l : Reading Empty, ∀ (tenant : Option String) (deletion : Deletion),
      ∃ x, readText (symbols (conjunctionSql .sqlite
        (((⟨[twoOrders], tenant, deletion⟩ : RowFilter).trees .sqlite #[]).1.map
          Shape.condition))) = some (.or l x) := by
  have complete : ∀ t ∈ clearingTwo.trees .sqlite ⟨[twoOrders], some "a", .any⟩ #[],
      ∀ c ∈ t.leaves, IsCustom c → IsComplete .sqlite c := by
    intro t mem c leaf custom
    rcases List.mem_cons.mp mem with rfl | mem
    · obtain rfl := List.mem_singleton.mp leaf
      exact ⟨_, rfl⟩
    · obtain rfl := List.mem_singleton.mp mem
      obtain rfl := List.mem_singleton.mp leaf
      exact custom.elim
  have loose : Loose .sqlite (.literal "id = 1 OR id = 2") := ⟨_, rfl, by decide⟩
  obtain ⟨-, -, -, left⟩ := Statement.scoped_unless_loose (s := clearingTwo) (d := .sqlite)
    (w := ⟨[twoOrders], some "a", .any⟩) rfl rfl (List.forall_mem_singleton.mpr trivial) #[] complete
  exact ⟨rfl, ⟨_, _, _, rfl⟩, left ⟨_, List.mem_cons_self, loose⟩⟩

end Orders

end Folio
