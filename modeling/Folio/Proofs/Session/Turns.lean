import Folio.Proofs.Session.Visit

/-!
# Folio.Proofs.Session.Turns

Runs as turns, each a call with its visit.

Sessions that were just opened have queued nothing, and what they queue later are writes of the types of their
calls (`Queued`, `Session.Proper.perform`). So all calls of a run conduct themselves on their visits, and what
then holds of a turn, given the turns before it, holds of every turn (`System.opened_unfolds`).
-/

namespace Folio

open Folio.Database
open Folio.Predicate (Compiler)
open Folio.Relational (Request)
open Folio.Sql (TableName)

variable {σ : Type} {store : Store σ}

/-! ### Queues -/

/-- What the predicates over a type are compiled with. -/
def Schema.compiler (schema : Schema) (t : DocumentType) : Compiler :=
  ⟨schema.dialect, schema.options, schema.mapping t, schema.translators⟩

/-- The writes of a type that a session can queue. Only where documents are deleted softly is a deletion flagged,
or taken back. -/
inductive Queued (schema : Schema) (t : DocumentType) : PendingWrite → Prop
  | insert {id : DocumentId} {stored : Statement.StoredDocument} :
      Queued schema t ⟨schema.mapping t, .insert id, .insert ⟨(schema.mapping t).table, stored⟩⟩
  | update {id : DocumentId} {stored : Statement.StoredDocument} {expected : Option Int64} :
      Queued schema t
        ⟨schema.mapping t, .update id expected, .update ⟨(schema.mapping t).table, stored, expected⟩⟩
  | upsert {id : DocumentId} {stored : Statement.StoredDocument} {expected : Option Int64} :
      Queued schema t
        ⟨schema.mapping t, .upsert id expected,
          .upsert ⟨(schema.mapping t).table, stored, expected, (schema.mapping t).softDeleted⟩⟩
  | delete {id : DocumentId} {x : Value} {tenant : String} {soft : Option Time.Timestamp} :
      (soft.isSome → (schema.mapping t).softDeleted) →
      Queued schema t ⟨schema.mapping t, .delete id, .delete ⟨(schema.mapping t).table, x, tenant, soft⟩⟩
  | deleteWhere {e : Expr} {filter : Statement.Fragment} {tenant : String} {soft : Option Time.Timestamp} :
      (schema.compiler t).compile e = .ok filter → (soft.isSome → (schema.mapping t).softDeleted) →
      Queued schema t
        ⟨schema.mapping t, .bulk, .deleteWhere ⟨(schema.mapping t).table, [filter], tenant, soft⟩⟩
  | undeleteWhere {e : Expr} {filter : Statement.Fragment} {tenant : String} :
      (schema.compiler t).compile e = .ok filter → (schema.mapping t).softDeleted →
      Queued schema t ⟨schema.mapping t, .bulk, .undeleteWhere ⟨(schema.mapping t).table, [filter], tenant⟩⟩

theorem Queued.aligned {schema : Schema} {t : DocumentType} {p : PendingWrite} (h : Queued schema t p) :
    p.Aligned := by
  cases h <;> exact ⟨rfl, rfl⟩

theorem softTime_isSome {m : Mapping} {now : Time.Timestamp} (h : (Session.softTime m now).isSome) :
    m.softDeleted := by
  unfold Session.softTime at h
  split at h
  next soft => exact soft
  · cases h

namespace Session

/-- All writes in the queue are such. -/
def Proper (schema : Schema) (s : Session) : Prop :=
  ∀ p ∈ s.pending, ∃ t, Queued schema t p

variable {s : Session} {schema : Schema} {t : DocumentType} {m : Mapping} {now : Time.Timestamp} {w : World σ}

theorem Proper.aligned (proper : s.Proper schema) : s.Aligned := fun p mem =>
  let ⟨_, queued⟩ := proper p mem
  queued.aligned

theorem Proper.push (proper : s.Proper schema) {p : PendingWrite} (h : Queued schema t p) :
    (s.push p).Proper schema :=
  List.forall_mem_append.mpr ⟨proper, List.forall_mem_singleton.mpr ⟨t, h⟩⟩

theorem Proper.queued (proper : s.Proper schema) {x : Outcome Session}
    (h : ∀ s', x = .ok s' → s'.Proper schema) : (s.queued w x).session.Proper schema := by
  cases x with
  | ok s' => exact h s' rfl
  | error f => exact proper

/-- Writes of a document. -/
theorem Proper.stored (proper : s.Proper schema) {doc : Document}
    {f : Statement.StoredDocument → PendingWrite} {s' : Session}
    (done : (do
      let stored ← s.storedDocument t m now doc
      return s.push (f stored)) = Except.ok s')
    (h : ∀ stored, Queued schema t (f stored)) : s'.Proper schema := by
  obtain ⟨stored, -, done⟩ := Outcome.bind_eq_ok.mp done
  obtain rfl := Except.ok.inj done
  exact proper.push (h stored)

theorem Proper.deleteWhere (proper : s.Proper schema) {e : Expr} {s' : Session}
    (done : s.deleteWhere schema t now e = .ok s') : s'.Proper schema := by
  obtain ⟨filter, compiled, done⟩ := Outcome.bind_eq_ok.mp done
  obtain rfl := Except.ok.inj done
  exact proper.push (.deleteWhere compiled softTime_isSome)

theorem Proper.undeleteWhere (proper : s.Proper schema) {e : Expr} {s' : Session}
    (done : s.undeleteWhere schema t e = .ok s') : s'.Proper schema := by
  unfold Session.undeleteWhere at done
  dsimp only at done
  split at done
  · cases done
  next soft =>
    obtain ⟨filter, compiled, done⟩ := Outcome.bind_eq_ok.mp done
    obtain rfl := Except.ok.inj done
    exact proper.push (.undeleteWhere compiled (by simpa using soft))

/-- Reads queue nothing. -/
theorem run_pending {α : Type} (store : Store σ) (p : Plan α) : (s.run store p w).session.pending = s.pending := by
  unfold Session.run
  dsimp only
  split <;> rfl

theorem execute_pending {α : Type} (store : Store σ) (b : Batch α) :
    (b.execute store s w).session.pending = s.pending := by
  unfold Batch.execute
  split
  · rfl
  · split <;> rfl

/-- A save empties the queue or leaves it as it is. -/
theorem saveChanges_pending (store : Store σ) :
    (s.saveChanges store w).session.pending = [] ∨ (s.saveChanges store w).session.pending = s.pending := by
  by_cases nothing : s.pending = []
  · rw [saveChanges_nothing nothing]
    exact .inr rfl
  · rcases acquired : store.acquire w with ⟨halt | c, w₁⟩
    · rw [saveChanges_unconnected nothing acquired]
      exact .inr rfl
    · obtain ⟨_, _, _, _, result, -, ended⟩ := save_conversation nothing acquired
      rw [Session.saveChanges, ended]
      cases result with
      | error halt => exact .inr rfl
      | ok _ => exact .inl rfl

/-- Whatever a session does, its queue holds writes of its types. -/
theorem Proper.perform (proper : s.Proper store.schema) (call : Call) :
    (s.perform store call w).session.Proper store.schema := by
  cases call with
  | read t r =>
    by_cases nothing : r = .loadMany []
    · subst nothing
      exact proper
    · rw [perform_read store nothing]
      cases planned : r.plan s store.schema t with
      | error f => exact proper
      | ok p =>
        intro q mem
        exact proper q (run_pending store p ▸ mem)
  | batch items =>
    intro q mem
    exact proper q (execute_pending store _ ▸ mem)
  | insert t now doc => exact proper.queued fun _ done => proper.stored done fun _ => .insert
  | update t now doc => exact proper.queued fun _ done => proper.stored done fun _ => .update
  | store t now doc => exact proper.queued fun _ done => proper.stored done fun _ => .upsert
  | delete t now id => exact proper.push (.delete softTime_isSome)
  | hardDelete t id => exact proper.push (.delete nofun)
  | deleteWhere t now e => exact proper.queued fun _ done => proper.deleteWhere done
  | undeleteWhere t e => exact proper.queued fun _ done => proper.undeleteWhere done
  | discard => exact fun p mem => absurd mem List.not_mem_nil
  | save =>
    intro p mem
    rcases s.saveChanges_pending (w := w) store with none | same
    · exact absurd (none ▸ mem) List.not_mem_nil
    · exact proper p (same ▸ mem)

end Session

/-! ### Turns -/

/-- A call of a run, and its visit. -/
structure Turn where
  made : Made
  visit : Visit

namespace System

/-- Sessions that were just opened, for these tenants, on a store that has no connections yet. -/
def opened (tenants : Nat → String) (st : σ) : System σ where
  sessions i := { tenant := tenants i }
  world := { state := st }

/-- The calls are made one after the other, in these turns. -/
inductive Unfolds (store : Store σ) : System σ → List (Nat × Call) → List Turn → Prop
  | nil {sys : System σ} : Unfolds store sys [] []
  | cons {sys : System σ} {i : Nat} {call : Call} {rest : List (Nat × Call)} {v : Visit} {turns : List Turn} :
      Visits store sys.world v (sys.after store i call).world →
      Unfolds store (sys.after store i call) rest turns →
      Unfolds store sys ((i, call) :: rest) (⟨sys.made store i call, v⟩ :: turns)

/-- The turns are those of the run. -/
theorem Unfolds.made {sys : System σ} {calls : List (Nat × Call)} {turns : List Turn}
    (h : Unfolds store sys calls turns) : turns.map Turn.made = (sys.run store calls).1 := by
  induction h with
  | nil => rfl
  | cons _ _ ih =>
    rw [List.map_cons, ih]
    rfl

section

variable {I : List Turn → World σ → Prop} {P : List Turn → Turn → Prop}
  (step : ∀ {past w v w'} {e : Made}, I past w → e.before.Proper store.schema → Visits store w v w' →
    (∀ c x fate, v = .on c x fate → Conducted (e.requests store.schema) w.tables e.result x fate) →
      P past ⟨e, v⟩ ∧ I (past ++ [⟨e, v⟩]) w')

include step

/-- What a turn does, given the turns before it, every later turn of a run does. -/
theorem unfolds_of_proper {past : List Turn} {sys : System σ}
    (proper : ∀ i, (sys.sessions i).Proper store.schema) (start : I past sys.world) (calls : List (Nat × Call)) :
    ∃ turns, sys.Unfolds store calls turns ∧
      ∀ former t later, turns = former ++ t :: later → P (past ++ former) t := by
  induction calls generalizing sys past with
  | nil => exact ⟨[], .nil, fun former t later same => by simp at same⟩
  | cons first rest ih =>
    obtain ⟨i, call⟩ := first
    obtain ⟨v, visits, conducted⟩ := Session.perform_goes store (proper i).aligned call sys.world
    obtain ⟨here, onward⟩ := step (e := sys.made store i call) start (proper i) visits conducted
    have proper' : ∀ j, ((sys.after store i call).sessions j).Proper store.schema := by
      intro j
      by_cases same : j = i
      · subst same
        simp only [System.after, Function.update_self]
        exact (proper j).perform call
      · simp only [System.after, Function.update_of_ne same]
        exact proper j
    obtain ⟨turns, unfolds, holds⟩ := ih proper' onward
    refine ⟨_, .cons visits unfolds, fun former t later same => ?_⟩
    cases former with
    | nil =>
      obtain ⟨rfl, -⟩ := List.cons.inj same
      rwa [List.append_nil]
    | cons first former =>
      obtain ⟨rfl, rest⟩ := List.cons.inj same
      rw [List.append_cons]
      exact holds former t later rest

/-- So does every turn from the first on. -/
theorem opened_unfolds {tenants : Nat → String} {st : σ} (start : I [] (opened tenants st).world)
    (calls : List (Nat × Call)) :
    ∃ turns, (opened tenants st).Unfolds store calls turns ∧
      ∀ past t future, turns = past ++ t :: future → P past t :=
  unfolds_of_proper step (fun _ _ mem => absurd mem List.not_mem_nil) start calls

end

end System

end Folio
