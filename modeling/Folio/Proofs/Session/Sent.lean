import Folio.Proofs.Session.Counted

/-!
# Folio.Proofs.Session.Sent

The selections that reads send. Every read of a query sends the selection that the query stands for,
changed in what it reads of the documents and in how many of them it asks for (`Read.send`), so what is
said of the terminals of a query needs one look at that function only (`Read.plan_sends`).

* `Read.limit`, `Read.distinct`, `Read.member?`: what of a read its selection depends on.
* `Read.Sends`: the selection is what the read makes of that of its query.
* `Plan.query`, `Sql.Query.body`: what is sent, and the query of rows at its heart, by itself or nested.
-/

namespace Folio

open Folio.Predicate (Compiler Located)
open Folio.Sql (Aggregate Dialect Direction RowQuery)
open Folio.Statement (Locator Projection Purpose Selection)
open Folio.Typed (Shape)

/-! ### What is sent -/

namespace Statement.Selection

/-- The selection that computes a value from all documents. -/
def computing (s : Selection) (a : Aggregate) (l : Locator) : Selection :=
  ({ s with projection := .aggregate a l } : Selection).unorderedUnlessPaged

variable (s : Selection)

@[simp] theorem unorderedUnlessPaged_limit : s.unorderedUnlessPaged.limit = s.limit := by
  unfold unorderedUnlessPaged; split <;> rfl
@[simp] theorem unorderedUnlessPaged_offset : s.unorderedUnlessPaged.offset = s.offset := by
  unfold unorderedUnlessPaged; split <;> rfl
@[simp] theorem unorderedUnlessPaged_distinct : s.unorderedUnlessPaged.distinct = s.distinct := by
  unfold unorderedUnlessPaged; split <;> rfl
@[simp] theorem unorderedUnlessPaged_projection :
    s.unorderedUnlessPaged.projection = s.projection := by
  unfold unorderedUnlessPaged; split <;> rfl
@[simp] theorem unorderedUnlessPaged_existence : s.unorderedUnlessPaged.existence = s.existence := by
  unfold unorderedUnlessPaged; split <;> rfl
@[simp] theorem unorderedUnlessPaged_table : s.unorderedUnlessPaged.table = s.table := by
  unfold unorderedUnlessPaged; split <;> rfl

theorem unorderedUnlessPaged_of_paged (paged : s.isPaged = true) : s.unorderedUnlessPaged = s :=
  if_pos paged

end Statement.Selection

namespace Read

/-- How many documents a read needs to see at most. -/
def most : Read → Option Nat
  | .first _ | .firstOrDefault _ => some 1
  | .single _ | .singleOrDefault _ => some 2
  | _ => none

/-- How many documents a read asks for at most. -/
def limit (r : Read) : Option Nat :=
  match r.most with
  | some n => some (match r.query.limit with | some k => Nat.min k n | none => n)
  | none => r.query.limit

/-- Does a read ask for distinct rows? -/
def distinct : Read → Bool
  | .select q _ _ distinct => q.distinct || distinct
  | r => r.query.distinct

/-- The function and the member that a read computes with. -/
def computed? : Read → Option (Aggregate × Member)
  | .sum _ m _ => some (.sum, m)
  | .min _ m _ => some (.min, m)
  | .max _ m _ => some (.max, m)
  | .average _ m => some (.average, m)
  | _ => none

/-- The member that a read is of. -/
def member? : Read → Option Member
  | .select _ m _ _ => some m
  | r => r.computed?.map Prod.snd

theorem member?_of_computed? {r : Read} {a : Aggregate} {m : Member} (is : r.computed? = some (a, m)) :
    r.member? = some m := by
  cases r <;> simp_all [member?, computed?]

/-- The selection that a read sends, made of that of its query. The locator is that of its member. -/
def send (l : Locator) (s : Selection) : Read → Selection
  | .load _ | .loadMany _ | .list _ => s
  | .first _ | .firstOrDefault _ => s.atMost 1
  | .single _ | .singleOrDefault _ => s.atMost 2
  | .count _ => s.counting
  | .any _ => { s with existence := true }
  | .sum .. => s.computing .sum l
  | .min .. => s.computing .min l
  | .max .. => s.computing .max l
  | .average .. => s.computing .average l
  | .select _ _ _ distinct => { s with projection := .locator l, distinct := s.distinct || distinct }

end Read

/-- The selection of the documents that a query stands for, as far as order and page go. -/
structure Query.Selects (q : Query) (c : Compiler) (s : Selection) : Prop where
  limit : s.limit = q.limit
  offset : s.offset = q.offset
  distinct : s.distinct = q.distinct
  order : (q.order.mapM fun (m, direction) => do return (← c.orderKey m, direction)) = .ok s.order
  projection : s.projection = .documents
  existence : s.existence = false

/-- The locator is that of the member which the read is of. -/
def Read.IsOf (r : Read) (c : Compiler) (l : Locator) : Prop :=
  ∀ m, r.member? = some m → ∃ found, c.locate m = .ok found ∧ found.typed = l

/-- A distinct projection is in no order but its own. -/
def Read.IsSorted (r : Read) (l : Locator) (s : Selection) : Prop :=
  ∀ q m shape distinct, r = .select q m shape distinct → (s.distinct || distinct) = true →
    ∀ key ∈ s.order, key.1 = l

/-- The selection is what the read makes of that of its query. -/
def Read.Sends (r : Read) (c : Compiler) (sent : Selection) : Prop :=
  ∃ base l, r.query.Selects c base ∧ r.IsOf c l ∧ r.IsSorted l base ∧ sent = r.send l base

theorem Query.selects_of_toSelection {q : Query} {scope : Scope} {s : Selection}
    (h : q.toSelection scope .documents = .ok s) : q.Selects scope.compiler s := by
  obtain ⟨filters, -, h⟩ := Outcome.bind_eq_ok.mp h
  obtain ⟨order, ordered, h⟩ := Outcome.bind_eq_ok.mp h
  obtain rfl := Except.ok.inj h
  exact ⟨rfl, rfl, rfl, ordered, rfl, rfl⟩

namespace Query

variable {q : Query} {scope : Scope}

/-- The selection that is read for another purpose is that of the documents but for what is read. -/
theorem toSelection_documents {p : Projection} {s : Selection} (h : q.toSelection scope p = .ok s) :
    ∃ base, q.toSelection scope .documents = .ok base ∧ s = { base with projection := p } := by
  rw [toSelection_eq_map] at h
  cases compiled : q.toSelection scope .documents with
  | error f =>
    rw [compiled] at h
    cases h
  | ok base =>
    rw [compiled] at h
    exact ⟨base, rfl, (Except.ok.inj h).symm⟩

theorem atMost_sent {n : Nat} {p : Plan (List Document)} (h : q.atMost n scope = .ok p) :
    ∃ base, q.toSelection scope .documents = .ok base ∧ p.selection = base.atMost n := by
  obtain ⟨listing, listed, h⟩ := Outcome.bind_eq_ok.mp h
  obtain ⟨base, compiled, listed⟩ := Outcome.bind_eq_ok.mp listed
  obtain rfl := Except.ok.inj listed
  obtain rfl := Except.ok.inj h
  exact ⟨base, compiled, rfl⟩

theorem aggregate_sent {a : Aggregate} {m : Member} {p : Plan Value}
    (h : q.aggregate a m scope = .ok p) :
    ∃ base found, q.toSelection scope .documents = .ok base ∧
      scope.compiler.locate m = .ok found ∧ p.selection = base.computing a found.typed := by
  obtain ⟨found, located, h⟩ := Outcome.bind_eq_ok.mp h
  obtain ⟨s, projected, h⟩ := Outcome.bind_eq_ok.mp h
  obtain ⟨base, compiled, rfl⟩ := toSelection_documents projected
  obtain rfl := Except.ok.inj h
  exact ⟨base, found, compiled, located, rfl⟩

theorem select_sent {m : Member} {shape : Shape} {distinct : Bool} {p : Plan (List Value)}
    (h : q.select m shape distinct scope = .ok p) :
    ∃ base found, q.toSelection scope .documents = .ok base ∧
      scope.compiler.locate m = .ok found ∧
      p.selection =
        { base with projection := .locator found.typed, distinct := base.distinct || distinct } ∧
      ((base.distinct || distinct) = true → ∀ key ∈ base.order, key.1 = found.typed) := by
  obtain ⟨found, located, h⟩ := Outcome.bind_eq_ok.mp h
  obtain ⟨s, projected, h⟩ := Outcome.bind_eq_ok.mp h
  obtain ⟨base, compiled, rfl⟩ := toSelection_documents projected
  dsimp only at h
  split at h
  · cases h
  next sorted =>
    obtain rfl := Except.ok.inj h
    refine ⟨base, found, compiled, located, rfl, fun distinct key mem => ?_⟩
    by_contra foreign
    refine sorted (Bool.and_eq_true_iff.mpr ⟨distinct, List.any_eq_true.mpr ⟨key, mem, ?_⟩⟩)
    exact decide_eq_true foreign

end Query

/-- Making an answer into another one sends nothing else. -/
theorem Plan.exists_of_map {α β : Type} {x : Outcome (Plan α)} {f : α → Outcome β} {p : Plan β}
    (h : (return (← x).map f) = Except.ok p) : ∃ p', x = .ok p' ∧ p'.selection = p.selection := by
  obtain ⟨p', made, h⟩ := Outcome.bind_eq_ok.mp h
  obtain rfl := Except.ok.inj h
  exact ⟨p', made, rfl⟩

/-- A read without a member sends what its query stands for, changed in its own way. -/
theorem Read.Sends.of_query {r : Read} {c : Compiler} {base sent : Selection}
    (selects : r.query.Selects c base) (whole : r.member? = none)
    (same : ∀ l, sent = r.send l base) : r.Sends c sent := by
  refine ⟨base, ⟨.column "", .none⟩, selects, ?_, ?_, same _⟩
  · intro m is
    rw [whole] at is
    cases is
  · rintro q m shape distinct rfl
    cases whole

/-- A read that computes a value sends the selection of its query computing with its member. -/
theorem Read.Sends.of_aggregate {r : Read} {scope : Scope} {a : Aggregate} {m : Member}
    {p : Plan Value} (made : r.query.aggregate a m scope = .ok p) (computes : r.computed? = some (a, m))
    (sends : ∀ l base, r.send l base = base.computing a l) : r.Sends scope.compiler p.selection := by
  obtain ⟨base, located, compiled, there, sent⟩ := Query.aggregate_sent made
  refine ⟨base, located.typed, Query.selects_of_toSelection compiled, ?_, ?_, ?_⟩
  · intro m' is
    rw [Read.member?_of_computed? computes] at is
    cases is
    exact ⟨located, there, rfl⟩
  · rintro q m shape distinct rfl
    cases computes
  · rw [sent, sends]

/-- A read of so many documents at most sends the selection of its query, cut. -/
theorem Read.Sends.of_atMost {r : Read} {scope : Scope} {n : Nat} {p : Plan (List Document)}
    (made : r.query.atMost n scope = .ok p) (whole : r.member? = none)
    (sends : ∀ l base, r.send l base = base.atMost n) : r.Sends scope.compiler p.selection := by
  obtain ⟨base, compiled, sent⟩ := Query.atMost_sent made
  refine .of_query (Query.selects_of_toSelection compiled) whole fun l => ?_
  rw [sent, sends]

section

variable {s : Session} {schema : Schema} {t : DocumentType}

/-- A read sends the selection of its query, made into its own. -/
theorem Read.plan_sends {r : Read} {p : Plan Found} (h : r.plan s schema t = .ok p) :
    r.Sends (s.scope schema t).compiler p.selection := by
  cases r with
  | load | loadMany =>
    obtain rfl := Except.ok.inj h
    exact .of_query ⟨rfl, rfl, rfl, rfl, rfl, rfl⟩ rfl fun _ => rfl
  | list q =>
    obtain ⟨p', listed, same⟩ := Plan.exists_of_map h
    obtain ⟨base, compiled, listed⟩ := Outcome.bind_eq_ok.mp listed
    obtain rfl := Except.ok.inj listed
    exact .of_query (Query.selects_of_toSelection compiled) rfl fun _ => same.symm
  | first q | single q =>
    obtain ⟨p₁, made, same₁⟩ := Plan.exists_of_map h
    obtain ⟨p₂, made, same₂⟩ := Plan.exists_of_map made
    obtain ⟨p₃, made, same₃⟩ := Plan.exists_of_map made
    rw [← same₁, ← same₂, ← same₃]
    exact .of_atMost made rfl fun _ _ => rfl
  | firstOrDefault q | singleOrDefault q =>
    obtain ⟨p₁, made, same₁⟩ := Plan.exists_of_map h
    obtain ⟨p₂, made, same₂⟩ := Plan.exists_of_map made
    rw [← same₁, ← same₂]
    exact .of_atMost made rfl fun _ _ => rfl
  | count q =>
    obtain ⟨p', made, same⟩ := Plan.exists_of_map h
    obtain ⟨s', counted, made⟩ := Outcome.bind_eq_ok.mp made
    obtain ⟨base, compiled, rfl⟩ := Query.toSelection_documents counted
    obtain rfl := Except.ok.inj made
    exact .of_query (Query.selects_of_toSelection compiled) rfl fun _ => same.symm
  | any q =>
    obtain ⟨p', made, same⟩ := Plan.exists_of_map h
    obtain ⟨base, compiled, made⟩ := Outcome.bind_eq_ok.mp made
    obtain rfl := Except.ok.inj made
    exact .of_query (Query.selects_of_toSelection compiled) rfl fun _ => same.symm
  | sum q m | min q m | max q m | average q m =>
    obtain ⟨p₁, made, same₁⟩ := Plan.exists_of_map h
    obtain ⟨p₂, made, same₂⟩ := Plan.exists_of_map made
    rw [← same₁, ← same₂]
    exact .of_aggregate made rfl fun _ _ => rfl
  | select q m shape distinct =>
    obtain ⟨p', made, same⟩ := Plan.exists_of_map h
    obtain ⟨base, located, compiled, there, sent, sorted⟩ := Query.select_sent made
    rw [← same]
    refine ⟨base, located.typed, Query.selects_of_toSelection compiled, ?_, ?_, sent⟩
    · intro m' is
      cases is
      exact ⟨located, there, rfl⟩
    · intro q m shape distinct is
      cases is
      exact sorted

end

/-! ### What a read asks for is what its selection has -/

section

variable {r : Read} {c : Compiler} {l : Locator} {base : Selection}

theorem Read.send_limit (selects : r.query.Selects c base) : (r.send l base).limit = r.limit := by
  have limit := selects.limit
  cases r with
  | first | firstOrDefault | single | singleOrDefault =>
    rw [send, Selection.atMost, limit]
    rfl
  | count | sum | min | max | average =>
    exact (Selection.unorderedUnlessPaged_limit _).trans limit
  | _ => exact limit

theorem Read.send_offset (selects : r.query.Selects c base) :
    (r.send l base).offset = r.query.offset := by
  have offset := selects.offset
  cases r <;>
    simp_all [send, Read.query, Selection.atMost, Selection.counting, Selection.computing]

theorem Read.send_distinct (selects : r.query.Selects c base) :
    (r.send l base).distinct = r.distinct := by
  have distinct := selects.distinct
  cases r <;>
    simp_all [send, Read.distinct, Read.query, Selection.atMost, Selection.counting, Selection.computing]

end

/-! ### The query of rows -/

namespace Sql.Query

/-- The query of rows that a query is made of. -/
def body : Query → RowQuery
  | .rows q | .exists q | .over _ q => q

/-- Is the query of rows nested in another one? -/
def isNested : Query → Bool
  | .rows _ => false
  | .exists _ | .over .. => true

end Sql.Query

namespace Statement

/-- What the rows of a selection are read for. -/
def Selection.purpose (s : Selection) : Purpose :=
  if s.existence then .existence
  else
    match s.projection, s.isPaged || s.distinct with
    | .count, true => .counting
    | .aggregate _ l, true => .values l
    | _, _ => .answer

/-- The query of rows of a selection is the one for its purpose, and nested unless that is the answer. -/
theorem Selection.body_toQuery (d : Dialect) (s : Selection) (before : Array Value) :
    (s.toQuery d before).1.body = (s.toRowQuery d s.purpose before).1 ∧
      (s.toQuery d before).1.isNested = !decide (s.purpose = .answer) := by
  unfold toQuery purpose
  by_cases existence : s.existence = true
  · simp only [existence, if_true]
    exact ⟨rfl, rfl⟩
  · simp only [existence, Bool.false_eq_true, if_false]
    generalize s.projection = projection
    generalize (s.isPaged || s.distinct) = narrowed
    rcases projection with _ | l | _ | ⟨a, l⟩ <;> rcases narrowed with _ | _ <;>
      exact ⟨rfl, rfl⟩

end Statement

/-- The query that a plan sends, its values bound. -/
def Plan.query {α : Type} (p : Plan α) (d : Dialect) : Sql.Query :=
  (p.selection.toQuery d #[]).1

/-- The text of a plan's command is that of its query. -/
theorem Plan.sql_query {α : Type} (p : Plan α) (d : Dialect) :
    (Statement.Command.ofStatement d p.statement).sql = (p.query d).sql d ++ ";" := by
  show "" ++ "" ++ (p.query d).sql d ++ ";" = _
  rw [String.empty_append, String.empty_append]

end Folio
