import Folio.Proofs.Predicate.Columns
import Folio.Proofs.Session.Tables

/-!
# Folio.Proofs.Session.Columns

Whether the columns exist that a statement names.

Whatever a call sends about documents concerns a mapping (`Statement.Concerns`): it names columns that the table of
that mapping would have. But tables are told apart by their names alone. Where all succeeds, a table is made once
(`Flawless.standing_eq`) and for one that reaches it first of the types that share it (`Flawless.exists_owner`), so
the columns and the identities of the others depend on that one (`System.columns_exist_iff`).
-/

namespace Folio

open Folio.Database
open Folio.Predicate (Compiler)
open Folio.Relational (Request)
open Folio.Sql (Aggregate TableName)
open Folio.Statement (CreateTable Fragment Projection Selection)

/-! ### What is sent for the documents of a mapping -/

/-- The statement is about the documents of the mapping: it is about their table, locates nothing outside of the
columns of every table, and uses the mark of deleted documents only where these are kept. -/
structure Statement.Concerns (s : Statement) (m : Mapping) : Prop where
  table : s.table = m.table
  common : s.Common
  marked : s.usesMark = true → m.softDeleted = true

/-- Selections that read the same documents concern the same. -/
theorem Statement.Concerns.select {m : Mapping} {s s' : Selection} (h : (Statement.select s).Concerns m)
    (table : s'.table = s.table) (filters : s'.filters = s.filters) (deletion : s'.deletion = s.deletion)
    (order : s'.order ⊆ s.order) (projection : s'.projection.Common) :
    (Statement.select s').Concerns m where
  table := table.trans h.table
  common := ⟨filters ▸ h.common.filters, projection, fun key listed => h.common.order key (order listed)⟩
  marked used := h.marked ((congrArg (fun x : Statement.Deletion => decide (x ≠ .any)) deletion).symm.trans used)

theorem Statement.Concerns.unordered {m : Mapping} {s : Selection} (h : (Statement.select s).Concerns m) :
    (Statement.select s.unorderedUnlessPaged).Concerns m := by
  unfold Selection.unorderedUnlessPaged
  split
  · exact h
  · exact h.select rfl rfl rfl (List.nil_subset _) h.common.projection

/-- The plan is of documents of the mapping. -/
structure Plan.Concerns {α : Type} (p : Plan α) (m : Mapping) : Prop where
  mapping : p.mapping = m
  statement : p.statement.Concerns m

theorem Plan.Concerns.of_map {α β : Type} {x : Outcome (Plan α)} {f : α → Outcome β} {p : Plan β} {m : Mapping}
    (made : (do return (← x).map f) = Except.ok p) (h : ∀ p', x = .ok p' → p'.Concerns m) : p.Concerns m := by
  obtain ⟨p', there, made⟩ := Outcome.bind_eq_ok.mp made
  obtain rfl := Except.ok.inj made
  exact ⟨(h p' there).mapping, (h p' there).statement⟩

namespace Query

variable {q : Query} {scope : Scope} (keeps : ∀ t ∈ scope.schema.translators, t.Keeps)

include keeps

theorem toSelection_concerns {projection : Projection} {s : Selection}
    (h : q.toSelection scope projection = .ok s) (projected : projection.Common) :
    (Statement.select s).Concerns scope.mapping := by
  obtain ⟨filters, compiled, h⟩ := Outcome.bind_eq_ok.mp h
  obtain ⟨order, ordered, h⟩ := Outcome.bind_eq_ok.mp h
  obtain rfl := Except.ok.inj h
  refine ⟨rfl, ⟨fun f mem => ?_, projected, fun key mem => ?_⟩, fun used => ?_⟩
  · obtain ⟨e, -, made⟩ := Outcome.exists_of_mem_mapM compiled mem
    exact Compiler.compile_common keeps e f made
  · obtain ⟨⟨m, direction⟩, -, made⟩ := Outcome.exists_of_mem_mapM ordered mem
    obtain ⟨place, there, made⟩ := Outcome.bind_eq_ok.mp made
    obtain ⟨l, located, there⟩ := Outcome.bind_eq_ok.mp there
    obtain rfl := Except.ok.inj there
    obtain rfl := Except.ok.inj made
    exact (Compiler.common_of_locate located).typed
  · exact Statement.Deletion.of_ite_ne_any (of_decide_eq_true used)

theorem list_concerns {p : Plan (List Document)} (h : q.list scope = .ok p) : p.Concerns scope.mapping := by
  obtain ⟨s, selected, h⟩ := Outcome.bind_eq_ok.mp h
  obtain rfl := Except.ok.inj h
  exact ⟨rfl, toSelection_concerns keeps selected trivial⟩

theorem atMost_concerns {n : Nat} {p : Plan (List Document)} (h : q.atMost n scope = .ok p) :
    p.Concerns scope.mapping := by
  obtain ⟨p', listed, h⟩ := Outcome.bind_eq_ok.mp h
  obtain rfl := Except.ok.inj h
  have concerns := list_concerns keeps listed
  exact ⟨concerns.mapping,
    concerns.statement.select rfl rfl rfl (List.Subset.refl _) concerns.statement.common.projection⟩

theorem count_concerns {p : Plan Nat} (h : q.count scope = .ok p) : p.Concerns scope.mapping := by
  obtain ⟨s, selected, h⟩ := Outcome.bind_eq_ok.mp h
  obtain rfl := Except.ok.inj h
  exact ⟨rfl, (toSelection_concerns keeps selected trivial).unordered⟩

theorem any_concerns {p : Plan Bool} (h : q.any scope = .ok p) : p.Concerns scope.mapping := by
  obtain ⟨s, selected, h⟩ := Outcome.bind_eq_ok.mp h
  obtain rfl := Except.ok.inj h
  have concerns := toSelection_concerns keeps selected trivial
  exact ⟨rfl, concerns.select rfl rfl rfl (List.Subset.refl _) concerns.common.projection⟩

theorem aggregate_concerns {a : Aggregate} {m : Member} {p : Plan Value} (h : q.aggregate a m scope = .ok p) :
    p.Concerns scope.mapping := by
  obtain ⟨l, located, h⟩ := Outcome.bind_eq_ok.mp h
  obtain ⟨s, selected, h⟩ := Outcome.bind_eq_ok.mp h
  obtain rfl := Except.ok.inj h
  exact ⟨rfl, (toSelection_concerns keeps selected (Compiler.common_of_locate located).typed).unordered⟩

theorem select_concerns {m : Member} {shape : Typed.Shape} {distinct : Bool} {p : Plan (List Value)}
    (h : q.select m shape distinct scope = .ok p) : p.Concerns scope.mapping := by
  obtain ⟨l, located, h⟩ := Outcome.bind_eq_ok.mp h
  obtain ⟨s, selected, h⟩ := Outcome.bind_eq_ok.mp h
  have concerns := toSelection_concerns keeps selected (Compiler.common_of_locate located).typed
  dsimp only at h
  split at h
  · cases h
  · obtain rfl := Except.ok.inj h
    exact ⟨rfl, concerns.select rfl rfl rfl (List.Subset.refl _) concerns.common.projection⟩

end Query

section

variable {s : Session} {schema : Schema} {t : DocumentType} (keeps : ∀ t ∈ schema.translators, t.Keeps)

/-- Selections of the session's own documents concern their mapping. -/
theorem ownDocuments_concerns {m : Mapping} {f : Fragment} (common : f.Common) :
    (Statement.select (s.ownDocuments m f)).Concerns m := by
  refine ⟨rfl, ⟨List.forall_mem_singleton.mpr common, trivial, fun _ mem => absurd mem List.not_mem_nil⟩, ?_⟩
  exact fun used => Statement.Deletion.of_ite_ne_any (of_decide_eq_true used)

include keeps

/-- What a read sends concerns the mapping of its type. -/
theorem Read.plan_concerns {r : Read} {p : Plan Found} (h : r.plan s schema t = .ok p) :
    p.Concerns (schema.mapping t) := by
  have id : [Sql.idColumn] ⊆ Sql.insertColumns := by decide
  cases r with
  | load key =>
    obtain rfl := Except.ok.inj h
    exact ⟨rfl, ownDocuments_concerns id⟩
  | loadMany keys =>
    obtain rfl := Except.ok.inj h
    refine ⟨rfl, ownDocuments_concerns ?_⟩
    unfold Fragment.among
    split
    · exact List.nil_subset _
    · exact id
  | list q => exact .of_map h fun _ => Query.list_concerns keeps
  | first q | single q =>
    exact .of_map h fun _ made => .of_map made fun _ made => .of_map made fun _ => Query.atMost_concerns keeps
  | firstOrDefault q | singleOrDefault q =>
    exact .of_map h fun _ made => .of_map made fun _ => Query.atMost_concerns keeps
  | count q => exact .of_map h fun _ => Query.count_concerns keeps
  | any q => exact .of_map h fun _ => Query.any_concerns keeps
  | sum q m | min q m | max q m | average q m =>
    exact .of_map h fun _ made => .of_map made fun _ => Query.aggregate_concerns keeps
  | select q m shape distinct => exact .of_map h fun _ => Query.select_concerns keeps

/-- What is queued for a type concerns its mapping. -/
theorem Queued.concerns {p : PendingWrite} (h : Queued schema t p) : p.statement.Concerns p.mapping := by
  cases h with
  | insert | update => exact ⟨rfl, trivial, nofun⟩
  | upsert => exact ⟨rfl, trivial, id⟩
  | delete soft => exact ⟨rfl, trivial, soft⟩
  | deleteWhere compiled soft =>
    exact ⟨rfl, List.forall_mem_singleton.mpr (Compiler.compile_common keeps _ _ compiled), soft⟩
  | undeleteWhere compiled soft =>
    exact ⟨rfl, List.forall_mem_singleton.mpr (Compiler.compile_common keeps _ _ compiled), fun _ => soft⟩

end

/-! ### What calls send -/

/-- The statements about documents that a call sends, each with the mapping of its documents. -/
def Call.uses (schema : Schema) (s : Session) : Call → List (Mapping × Statement)
  | .read t r =>
    match r.plan s schema t with
    | .ok p => [(p.mapping, p.statement)]
    | .error _ => []
  | .batch items => (s.batchOf schema items).plans.map fun p => (p.mapping, p.statement)
  | .save => s.pending.map fun p => (p.mapping, p.statement)
  | _ => []

/-- The statements about documents that the call sent, as far as is known. -/
def Made.uses (schema : Schema) (e : Made) : List (Mapping × Statement) :=
  e.call.uses schema e.before

/-- The creation that a request is, if it is one. -/
def Relational.Request.creation? : Request → Option CreateTable
  | .write (.createTable x) => some x
  | _ => none

theorem Relational.Request.creates?_eq (r : Request) : r.creates? = r.creation?.map (·.table) := by
  rcases r with (s | s | s | s | s | s | s | s) | ss | _ | _ | _ <;> rfl

theorem Relational.Request.eq_of_creation? {r : Request} {x : CreateTable} (h : r.creation? = some x) :
    r = .write (.createTable x) := by
  rcases r with (s | s | s | s | s | s | s | s) | ss | _ | _ | _ <;> cases h
  rfl

/-- The request makes the table of some mapping, or it is about documents. -/
def Relational.Request.IsFor (uses : List (Mapping × Statement)) (r : Request) : Prop :=
  (∃ u ∈ uses, r.creation? = some u.1.createTable) ∨
    r.creation? = none ∧ ∀ s ∈ r.statements, ∃ u ∈ uses, u.2 = s

theorem isFor_of_mem_reading {plans : List (Plan Found)} {r : Request} (mem : r ∈ reading plans) :
    r.IsFor (plans.map fun p => (p.mapping, p.statement)) := by
  rcases List.mem_cons.mp mem with rfl | mem
  · refine .inr ⟨rfl, fun s among => ?_⟩
    obtain ⟨p, planned, rfl⟩ := List.mem_map.mp among
    exact ⟨_, List.mem_map_of_mem planned, rfl⟩
  · obtain ⟨p, planned, rfl⟩ := List.mem_map.mp mem
    exact .inl ⟨_, List.mem_map_of_mem planned, rfl⟩

theorem isFor_of_mem_saving {ps : List PendingWrite} (aligned : ∀ p ∈ ps, p.Aligned) {r : Request}
    (mem : r ∈ saving ps) : r.IsFor (ps.map fun p => (p.mapping, p.statement)) := by
  have none {r : Request} (there : r ∈ [Request.start, .commit, .rollback]) :
      r.IsFor (ps.map fun p => (p.mapping, p.statement)) := by
    simp only [List.mem_cons, List.not_mem_nil, or_false] at there
    rcases there with rfl | rfl | rfl <;> exact .inr ⟨rfl, fun _ among => absurd among List.not_mem_nil⟩
  rcases List.mem_append.mp mem with mem | mem
  · rcases List.mem_append.mp mem with mem | mem
    · exact none mem
    · obtain ⟨p, queued, rfl⟩ := List.mem_map.mp mem
      exact .inl ⟨_, List.mem_map_of_mem queued, rfl⟩
  · obtain ⟨p, queued, rfl⟩ := List.mem_map.mp mem
    have uses := (aligned p queued).uses
    rw [Request.creates?_eq, Option.map_eq_none_iff] at uses
    exact .inr ⟨uses, List.forall_mem_singleton.mpr ⟨_, List.mem_map_of_mem queued, rfl⟩⟩

/-- Every request of a call is for its statements. -/
theorem Made.isFor_of_mem_requests {schema : Schema} {e : Made} (proper : e.before.Proper schema) {r : Request}
    (mem : r ∈ e.requests schema) : r.IsFor (e.uses schema) := by
  obtain ⟨i, call, s, result⟩ := e
  unfold Made.requests at mem
  unfold Made.uses
  cases call with
  | read t r' =>
    cases planned : r'.plan s schema t with
    | error f =>
      simp only [Call.requests, planned] at mem
      cases mem
    | ok p =>
      simp only [Call.requests, planned] at mem
      simp only [Call.uses, planned]
      exact isFor_of_mem_reading mem
  | batch items => exact isFor_of_mem_reading mem
  | save => exact isFor_of_mem_saving proper.aligned mem
  | _ => exact absurd mem List.not_mem_nil

/-- The statements of a call concern their mappings. -/
theorem Made.concerns_of_mem_uses {schema : Schema} (keeps : ∀ t ∈ schema.translators, t.Keeps) {e : Made}
    (proper : e.before.Proper schema) {m : Mapping} {s : Statement} (mem : (m, s) ∈ e.uses schema) :
    s.Concerns m := by
  have of_plan {t : DocumentType} {r : Read} {p : Plan Found} (planned : r.plan e.before schema t = .ok p)
      (same : (m, s) = (p.mapping, p.statement)) : s.Concerns m := by
    obtain ⟨rfl, rfl⟩ := Prod.mk.inj same
    have concerns := Read.plan_concerns keeps planned
    rw [concerns.mapping]
    exact concerns.statement
  obtain ⟨i, call, session, result⟩ := e
  unfold Made.uses at mem
  cases call with
  | read t r =>
    cases planned : r.plan session schema t with
    | error f =>
      simp only [Call.uses, planned] at mem
      cases mem
    | ok p =>
      simp only [Call.uses, planned] at mem
      exact of_plan planned (List.mem_singleton.mp mem)
  | batch items =>
    obtain ⟨p, among, same⟩ := List.mem_map.mp mem
    obtain ⟨item, -, planned⟩ := Session.exists_of_mem_batchOf among
    exact of_plan planned same.symm
  | save =>
    obtain ⟨p, pending, same⟩ := List.mem_map.mp mem
    obtain ⟨rfl, rfl⟩ := Prod.mk.inj same
    obtain ⟨t, queued⟩ := proper p pending
    exact queued.concerns keeps
  | _ => exact absurd mem List.not_mem_nil

/-! ### Tables that were made -/

namespace Dialogue

/-- The request succeeds: a write is answered by a count, and anything else by anything. -/
def Succeeds : Request × Answer Reply → Prop
  | (.write _, answer) => ∃ n, answer = .reply (.count n)
  | (_, answer) => ∃ reply, answer = .reply reply

variable {x : Dialogue} {known : List TableName}

theorem Succeeds.reply {e : Request × Answer Reply} (h : Succeeds e) : ∃ reply, e.2 = .reply reply := by
  obtain ⟨r, answer⟩ := e
  cases r with
  | write s =>
    obtain ⟨n, same⟩ := h
    exact ⟨_, same⟩
  | _ => exact h

/-- A creation that succeeds makes its table. -/
theorem Succeeds.madeBy {e : Request × Answer Reply} (h : Succeeds e) :
    madeBy e = e.1.creation?.map (·.table) := by
  obtain ⟨r, answer⟩ := e
  cases r with
  | write s =>
    obtain ⟨n, rfl⟩ := h
    exact Request.creates?_eq _
  | _ =>
    obtain ⟨reply | reply, rfl⟩ := h
    · rfl
    · rfl

theorem made_of_succeeds (h : ∀ e ∈ x, Succeeds e) :
    x.made = (x.filterMap (·.1.creation?)).map (·.table) := by
  rw [List.map_filterMap]
  exact List.filterMap_congr fun e mem => (h e mem).madeBy

/-- No table is made twice. -/
theorem Orderly.nodup (h : Orderly known x) (once : known.Nodup) : (known ++ x.made).Nodup := by
  induction x generalizing known with
  | nil => simpa [made] using once
  | cons e rest ih =>
    obtain ⟨r, answer⟩ := e
    unfold Orderly at h
    cases making : r.creates? with
    | none =>
      simp only [making] at h
      rw [h.made, List.append_nil]
      exact once
    | some t =>
      simp only [making] at h
      obtain ⟨missing, h⟩ := h
      rcases answer with (n | cursor) | f | _
      · have later := ih h (List.nodup_cons.mpr ⟨missing, once⟩)
        have here : madeBy (r, .reply (.count n)) = some t := making
        rw [made, List.filterMap_cons_some here]
        exact (List.perm_middle.nodup_iff).mpr later
      all_goals
        rw [h]
        exact (List.append_nil known).symm ▸ once

/-- What is used is known or was made. -/
theorem Orderly.table_mem (h : Orderly known x) {e : Request × Answer Reply} (mem : e ∈ x)
    (use : e.1.creates? = none) {s : Statement} (among : s ∈ e.1.statements) : s.table ∈ known ++ x.made := by
  obtain ⟨before, after, rfl⟩ := List.append_of_mem mem
  have there := h.inOrder
  unfold InOrder at there
  simp only [use] at there
  rw [made_append]
  exact (List.mem_append.mp (there s among)).elim (List.mem_append_left _)
    fun made => List.mem_append_right _ (List.mem_append_left _ made)

end Dialogue

/-- What is said on the visit of a turn. -/
def Turn.dialogue (t : Turn) : Dialogue :=
  match t.visit with
  | .on _ x _ => x
  | .none | .refused => []

/-- The creations that are sent in a turn. -/
def Turn.creations (t : Turn) : List CreateTable :=
  t.dialogue.filterMap (·.1.creation?)

/-- All that is asked in the turn succeeds. -/
def Turn.Succeeds (t : Turn) : Prop :=
  ∀ e ∈ t.dialogue, Dialogue.Succeeds e

section

variable {σ : Type} {store : Store σ}

namespace Follows

variable {past : List Turn} {t : Turn} (h : Follows store past t)

include h

theorem asked {e : Request × Answer Reply} (mem : e ∈ t.dialogue) : e.1 ∈ t.made.requests store.schema := by
  obtain ⟨made, _ | _ | ⟨c, x, fate⟩⟩ := t
  · cases mem
  · cases mem
  · exact (h.conducted c x fate rfl).asked e mem

theorem orderly : t.dialogue.Orderly (standing past) := by
  obtain ⟨made, _ | _ | ⟨c, x, fate⟩⟩ := t
  · trivial
  · trivial
  · exact (h.conducted c x fate rfl).orderly

/-- Where all succeeds no connection is closed, so what is made stands. -/
theorem standing_concat (succeeds : t.Succeeds) :
    standing (past ++ [t]) = standing past ++ t.creations.map (·.table) := by
  rw [Folio.standing_concat, Turn.creations, ← Dialogue.made_of_succeeds succeeds]
  obtain ⟨made, _ | _ | ⟨c, x, fate⟩⟩ := t
  · exact (List.append_nil _).symm
  · exact (List.append_nil _).symm
  · cases fate with
    | returned | held => rfl
    | closed =>
      obtain ⟨e, mem, broken⟩ := (h.conducted c x .closed rfl).broken rfl
      obtain ⟨reply, same⟩ := (succeeds e mem).reply
      exact absurd same (broken reply)

end Follows

/-- What is made is the table of a mapping of which a statement is sent. -/
theorem Follows.exists_use {past : List Turn} {t : Turn} (h : Follows store past t) {x : CreateTable}
    (made : x ∈ t.creations) : ∃ u ∈ t.made.uses store.schema, x = u.1.createTable := by
  obtain ⟨e, said, creation⟩ := List.mem_filterMap.mp made
  rcases Made.isFor_of_mem_requests h.proper (h.asked said) with ⟨u, used, same⟩ | ⟨none, -⟩
  · exact ⟨u, used, Option.some.inj (creation.symm.trans same)⟩
  · cases creation.symm.trans none

/-- Statements about the documents of the mapping are sent in the turn in which its table is reached first. -/
def Mapping.ReachesFirst (m : Mapping) (schema : Schema) (turns : List Turn) : Prop :=
  ∃ past t future, turns = past ++ t :: future ∧ (∃ s, (m, s) ∈ t.made.uses schema) ∧
    ∀ t' ∈ past, ∀ e ∈ t'.dialogue, ∀ s ∈ e.1.statements, s.table ≠ m.table

/-- Turns that follow one another, and in which all succeeds. -/
structure Flawless (store : Store σ) (turns : List Turn) : Prop where
  follows : ∀ past t future, turns = past ++ t :: future → Follows store past t
  succeed : ∀ t ∈ turns, t.Succeeds

namespace Flawless

variable {turns past later future : List Turn} {t : Turn}

theorem of_append (h : Flawless store (past ++ later)) : Flawless store past where
  follows past' t future split :=
    h.follows past' t (future ++ later) (by rw [split, List.append_assoc, List.cons_append])
  succeed t mem := h.succeed t (List.mem_append_left _ mem)

/-- What stands are the tables of the creations that were sent, each of which was sent once. -/
theorem standing_eq (h : Flawless store turns) :
    standing turns = (turns.flatMap Turn.creations).map (·.table) ∧ (standing turns).Nodup := by
  induction turns using List.reverseRecOn with
  | nil => exact ⟨rfl, List.nodup_nil⟩
  | append_singleton past t ih =>
    have succeeds := h.succeed t (List.mem_append_right _ List.mem_cons_self)
    have next := h.follows past t [] rfl
    obtain ⟨same, once⟩ := ih h.of_append
    rw [next.standing_concat succeeds]
    refine ⟨?_, ?_⟩
    · rw [List.flatMap_append, List.map_append, same, List.flatMap_singleton]
    · rw [Turn.creations, ← Dialogue.made_of_succeeds succeeds]
      exact next.orderly.nodup once

theorem nodup (h : Flawless store turns) : ((turns.flatMap Turn.creations).map (·.table)).Nodup :=
  h.standing_eq.1 ▸ h.standing_eq.2

/-- The table of every statement that is sent is made. -/
theorem exists_creation (h : Flawless store (past ++ t :: future)) {e : Request × Answer Reply}
    (said : e ∈ t.dialogue) {s : Statement} (among : s ∈ e.1.statements) :
    ∃ x ∈ (past ++ t :: future).flatMap Turn.creations, x.table = s.table := by
  suffices by_then : ∃ x ∈ past.flatMap Turn.creations ++ t.creations, x.table = s.table by
    obtain ⟨x, made, same⟩ := by_then
    refine ⟨x, ?_, same⟩
    rw [List.flatMap_append, List.flatMap_cons, ← List.append_assoc]
    exact List.mem_append_left _ made
  cases creation : e.1.creation? with
  | some x =>
    refine ⟨x, List.mem_append_right _ (List.mem_filterMap.mpr ⟨e, said, creation⟩), ?_⟩
    rw [Request.eq_of_creation? creation] at among
    rw [List.mem_singleton.mp among]
    rfl
  | none =>
    have use : e.1.creates? = none := by rw [Request.creates?_eq, creation, Option.map_none]
    have here := Dialogue.made_of_succeeds (h.succeed t (List.mem_append_right _ List.mem_cons_self))
    have there := (h.follows past t future rfl).orderly.table_mem said use among
    rw [h.of_append.standing_eq.1, here, ← List.map_append] at there
    exact List.mem_map.mp there

/-- Before a table is made, nothing is sent about it. -/
theorem table_ne (h : Flawless store (past ++ t :: future)) {x : CreateTable} (made : x ∈ t.creations)
    {t' : Turn} (earlier : t' ∈ past) {e : Request × Answer Reply} (said : e ∈ t'.dialogue) {s : Statement}
    (among : s ∈ e.1.statements) : s.table ≠ x.table := by
  intro same
  obtain ⟨before, after, rfl⟩ := List.append_of_mem earlier
  obtain ⟨y, made', same'⟩ := h.of_append.exists_creation said among
  have once := h.nodup
  rw [List.flatMap_append, List.map_append] at once
  refine List.disjoint_of_nodup_append once (a := x.table) ?_ ?_
  · exact List.mem_map.mpr ⟨y, made', same'.trans same⟩
  · exact List.mem_map_of_mem (List.mem_flatMap.mpr ⟨t, List.mem_cons_self, made⟩)

/-- The table of a statement is made for a mapping that reaches it first. -/
theorem exists_owner (h : Flawless store turns) (turn : t ∈ turns) {e : Request × Answer Reply}
    (said : e ∈ t.dialogue) {s : Statement} (among : s ∈ e.1.statements) :
    ∃ owner : Mapping, owner.ReachesFirst store.schema turns ∧
      owner.createTable ∈ turns.flatMap Turn.creations ∧ owner.createTable.table = s.table := by
  obtain ⟨x, made, same⟩ : ∃ x ∈ turns.flatMap Turn.creations, x.table = s.table := by
    obtain ⟨past, future, rfl⟩ := List.append_of_mem turn
    exact h.exists_creation said among
  obtain ⟨first, turn', made'⟩ := List.mem_flatMap.mp made
  obtain ⟨past, future, rfl⟩ := List.append_of_mem turn'
  obtain ⟨⟨owner, s'⟩, used, rfl⟩ := (h.follows past first future rfl).exists_use made'
  exact ⟨owner, ⟨past, first, future, rfl, ⟨s', used⟩, fun t' earlier e' said' s'' among' =>
    h.table_ne made' earlier said' among'⟩, made, same⟩

end Flawless

/-- Of things with different names there is one of each name. -/
theorem filter_eq_singleton {α β : Type} [DecidableEq β] {f : α → β} {as : List α}
    (once : (as.map f).Nodup) {a : α} (mem : a ∈ as) : as.filter (f · = f a) = [a] := by
  induction as with
  | nil => cases mem
  | cons first rest ih =>
    obtain ⟨other, once⟩ := List.nodup_cons.mp once
    rcases List.mem_cons.mp mem with rfl | mem
    · have others : rest.filter (f · = f a) = [] :=
        List.filter_eq_nil_iff.mpr fun b listed same =>
          other (of_decide_eq_true same ▸ List.mem_map_of_mem listed)
      rw [List.filter_cons_of_pos (by simp), others]
    · have differs : f first ≠ f a := fun same => other (same ▸ List.mem_map_of_mem mem)
      rw [List.filter_cons_of_neg (by simpa using differs)]
      exact ih once mem

end

namespace System

variable {σ : Type}

/-- A driver that carries out everything lets all turns succeed. -/
theorem Unfolds.succeed {store : Store σ}
    (obliging : ∀ c r st, Dialogue.Succeeds (r, (store.driver.perform c (r.operation store.dialect) st).1))
    {sys : System σ} {calls : List (Nat × Call)} {turns : List Turn} (h : sys.Unfolds store calls turns) :
    ∀ t ∈ turns, t.Succeeds := by
  have said {c : ConnectionId} {st st' : σ} {x : Dialogue} (h : Said store c st x st') :
      ∀ e ∈ x, Dialogue.Succeeds e := by
    induction h with
    | nil => exact fun _ mem => absurd mem List.not_mem_nil
    | @cons st _ _ r _ _ answered _ ih =>
      refine List.forall_mem_cons.mpr ⟨?_, ih⟩
      have done := obliging c r st
      rwa [answered] at done
  have visited {made : Made} {v : Visit} {w w' : World σ} (h : Visits store w v w') :
      (⟨made, v⟩ : Turn).Succeeds := by
    cases h with
    | none | refused => exact fun _ mem => absurd mem List.not_mem_nil
    | on _ spoken => exact said spoken
  induction h with
  | nil => exact fun _ mem => absurd mem List.not_mem_nil
  | cons visits _ ih => exact List.forall_mem_cons.mpr ⟨visited visits, ih⟩

/-- Whether the columns exist that a statement names. In every run in which all that is asked succeeds, the table
of a statement is made once, for a mapping of the turn that reaches the table first. It has the columns that the
statement names and identities of its type exactly if that mapping keeps deleted documents, where the statement
uses their mark, and has identities that are stored like those of the statement's own mapping. -/
theorem columns_exist_iff (store : Store σ) (keeps : ∀ t ∈ store.translators, t.Keeps) (tenants : Nat → String)
    (st : σ) (calls : List (Nat × Call)) :
    ∃ turns, (opened tenants st).Unfolds store calls turns ∧
      ((∀ t ∈ turns, t.Succeeds) →
        ∀ t ∈ turns, ∀ e ∈ t.dialogue, e.1.creates? = none → ∀ s ∈ e.1.statements,
          (∃ m, (m, s) ∈ t.made.uses store.schema) ∧
          ∀ m, (m, s) ∈ t.made.uses store.schema →
            (s.usesMark = true → m.softDeleted = true) ∧
            ∃ owner : Mapping, owner.ReachesFirst store.schema turns ∧
              (turns.flatMap Turn.creations).filter (·.table = m.table) = [owner.createTable] ∧
              (owner.createTable.Suits store.dialect m s ↔
                (s.usesMark = true → owner.softDeleted = true) ∧
                  owner.idKind.StoredAs store.dialect m.idKind)) := by
  obtain ⟨turns, unfolds, follows⟩ := opened_follows store tenants st calls
  refine ⟨turns, unfolds, fun succeed t turn e said use s among => ?_⟩
  have flawless : Flawless store turns := ⟨follows, succeed⟩
  obtain ⟨past, future, split⟩ := List.append_of_mem turn
  have follow := follows past t future split
  refine ⟨?_, fun m used => ?_⟩
  · rcases Made.isFor_of_mem_requests follow.proper (follow.asked said) with ⟨u, -, creation⟩ | ⟨-, there⟩
    · rw [Request.creates?_eq, creation] at use
      cases use
    · obtain ⟨⟨m, s⟩, used, rfl⟩ := there s among
      exact ⟨m, used⟩
  · have concerns := Made.concerns_of_mem_uses keeps follow.proper used
    obtain ⟨owner, first, made, same⟩ := flawless.exists_owner turn said among
    refine ⟨concerns.marked, owner, first, ?_, owner.createTable.suits_iff store.dialect m concerns.common⟩
    rw [← concerns.table, ← same]
    exact filter_eq_singleton flawless.nodup made

end System

/-! ### Two types of orders in one table -/

namespace Orders

/-- Orders of another module, of the same alias, whose rows are kept. -/
def legacy : DocumentType :=
  ⟨"legacy::Order", .int32, [.typeAlias "order", .softDeleted], fun _ => true⟩

/-- A store on a database that carries out everything. -/
def obliging : Store Unit where
  driver := {
    capability := .sqlite
    connect _ st := (.reply (), st)
    perform _ op st :=
      match op with
      | .query _ => (.reply (.sets (.ofList [])), st)
      | _ => (.reply (.count 1), st) }
  options := {}
  translators := [Predicate.Extension.exceptWhen]

/-- Where orders are listed first, the others are listed by a column that their table does not have. -/
theorem columns_exist_iff_legacy :
    (∀ t ∈ obliging.translators, t.Keeps) ∧
      (∃ turns, (System.opened (fun _ => "a") ()).Unfolds obliging
          [(0, .read type (.list {})), (0, .read legacy (.list {}))] turns ∧
        (∀ t ∈ turns, t.Succeeds) ∧
        ∀ t ∈ turns, ∀ e ∈ t.dialogue, e.1.creates? = none → ∀ s ∈ e.1.statements,
          ∀ m, (m, s) ∈ t.made.uses obliging.schema →
            ∃ owner : Mapping, owner.ReachesFirst obliging.schema turns ∧
              (turns.flatMap Turn.creations).filter (·.table = m.table) = [owner.createTable] ∧
              (owner.createTable.Suits .sqlite m s ↔
                (s.usesMark = true → owner.softDeleted = true) ∧ owner.idKind.StoredAs .sqlite m.idKind)) ∧
      ∃ p, (Read.list {}).plan { tenant := "a" } obliging.schema legacy = .ok p ∧
        p.mapping.table = mapping.table ∧ ¬mapping.createTable.Suits .sqlite p.mapping p.statement := by
  have keeps : ∀ t ∈ obliging.translators, t.Keeps :=
    List.forall_mem_singleton.mpr Predicate.Extension.exceptWhen_keeps
  refine ⟨keeps, ?_, ?_⟩
  · obtain ⟨turns, unfolds, holds⟩ := System.columns_exist_iff obliging keeps (fun _ => "a") ()
      [(0, .read type (.list {})), (0, .read legacy (.list {}))]
    have succeed := unfolds.succeed (by rintro c (s | ss | _ | _ | _) st <;> exact ⟨_, rfl⟩)
    exact ⟨turns, unfolds, succeed, fun t turn e said use s among m used =>
      ((holds succeed t turn e said use s among).2 m used).2⟩
  · obtain ⟨p, planned⟩ : ∃ p, (Read.list {}).plan { tenant := "a" } obliging.schema legacy = .ok p := ⟨_, rfl⟩
    have concerns := Read.plan_concerns keeps planned
    refine ⟨p, planned, ?_, fun suits => ?_⟩
    · rw [concerns.mapping]
      rfl
    · have suited := (mapping.createTable.suits_iff .sqlite p.mapping concerns.statement.common).mp suits
      obtain rfl := Except.ok.inj planned
      exact Bool.false_ne_true (suited.1 rfl)

end Orders

end Folio
