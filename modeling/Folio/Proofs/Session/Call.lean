import Folio.Proofs.Relational.Server
import Folio.Proofs.Session.Saving

/-!
# Folio.Proofs.Session.Call

The calls that a program makes on its sessions, as one type, so that a run of a program is a
list of them.

* `Read`, `Call`: the calls, and `Session.perform`: what one call does.
* `Call.requests`: what a call may ask of the database.
* `System.run`: calls on any number of sessions, one after the other, in any order.
-/

namespace Folio

open Folio.Database
open Folio.Relational (Request)
open Folio.Sql (Aggregate)
open Folio.Time (Timestamp)
open Folio.Typed (Shape)

/-- What a read finds. -/
inductive Found
  | document (doc : Option Document)
  | documents (docs : List Document)
  | number (n : Nat)
  | truth (b : Bool)
  | value (v : Option Value)
  | values (vs : List Value)

/-- The documents that were found. -/
def Found.all : Found → List Document
  | .document doc => doc.toList
  | .documents docs => docs
  | _ => []

/-- What a call tells the program. -/
inductive Told
  | nothing
  | found (f : Found)
  | batch (answers : List (Outcome Found))

/-- The documents that were found. -/
def Told.documents : Told → List Document
  | .nothing => []
  | .found f => f.all
  | .batch answers => answers.flatMap fun
    | .ok f => f.all
    | .error _ => []

/-- A read of the documents of one type. -/
inductive Read
  | load (id : DocumentId)
  | loadMany (ids : List DocumentId)
  | list (q : Query)
  | first (q : Query)
  | firstOrDefault (q : Query)
  | single (q : Query)
  | singleOrDefault (q : Query)
  | count (q : Query)
  | any (q : Query)
  | sum (q : Query) (m : Member) (shape : Shape)
  | min (q : Query) (m : Member) (shape : Shape)
  | max (q : Query) (m : Member) (shape : Shape)
  | average (q : Query) (m : Member)
  | select (q : Query) (m : Member) (shape : Shape) (distinct : Bool)

namespace Read

/-- The query of a read. Reads by identity have none of their own. -/
def query : Read → Query
  | .load _ | .loadMany _ => {}
  | .list q | .first q | .firstOrDefault q | .single q | .singleOrDefault q | .count q | .any q
  | .sum q .. | .min q .. | .max q .. | .average q .. | .select q .. => q

/-- The plan of a read. -/
def plan (s : Session) (schema : Schema) (t : DocumentType) (r : Read) : Outcome (Plan Found) :=
  let scope := s.scope schema t
  match r with
  | .load id => return (s.loadPlan schema t id).map fun doc => .ok (.document doc)
  | .loadMany ids => return (s.loadManyPlan schema t ids).map fun docs => .ok (.documents docs)
  | .list q => return (← q.list scope).map fun docs => .ok (.documents docs)
  | .first q => return (← q.first scope).map fun doc => .ok (.document (some doc))
  | .firstOrDefault q => return (← q.firstOrDefault scope).map fun doc => .ok (.document doc)
  | .single q => return (← q.single scope).map fun doc => .ok (.document (some doc))
  | .singleOrDefault q => return (← q.singleOrDefault scope).map fun doc => .ok (.document doc)
  | .count q => return (← q.count scope).map fun n => .ok (.number n)
  | .any q => return (← q.any scope).map fun b => .ok (.truth b)
  | .sum q m shape => return (← q.sum m shape scope).map fun v => .ok (.value (some v))
  | .min q m shape => return (← q.min m shape scope).map fun v => .ok (.value v)
  | .max q m shape => return (← q.max m shape scope).map fun v => .ok (.value v)
  | .average q m => return (← q.average m scope).map fun v => .ok (.value v)
  | .select q m shape distinct =>
    return (← q.select m shape distinct scope).map fun vs => .ok (.values vs)

end Read

/-- A call on a session. -/
inductive Call
  | read (t : DocumentType) (r : Read)
  | batch (items : List (DocumentType × Read))
  | insert (t : DocumentType) (now : Timestamp) (doc : Document)
  | update (t : DocumentType) (now : Timestamp) (doc : Document)
  | store (t : DocumentType) (now : Timestamp) (doc : Document)
  | delete (t : DocumentType) (now : Timestamp) (id : DocumentId)
  | hardDelete (t : DocumentType) (id : DocumentId)
  | deleteWhere (t : DocumentType) (now : Timestamp) (e : Expr)
  | undeleteWhere (t : DocumentType) (e : Expr)
  | discard
  | save

/-- The answers of a batch: those of the plans that could be sent, and the failures to make
the others. -/
def withRejected : List (Outcome (Plan Found)) → List (Outcome Found) → List (Outcome Found)
  | [], _ => []
  | .error f :: plans, answers => .error f :: withRejected plans answers
  | .ok _ :: plans, [] => withRejected plans []
  | .ok _ :: plans, answer :: answers => answer :: withRejected plans answers

namespace Session

variable {σ : Type}

/-- The plans of the items of a batch. -/
def plansOf (s : Session) (schema : Schema) (items : List (DocumentType × Read)) :
    List (Outcome (Plan Found)) :=
  items.map fun (t, r) => r.plan s schema t

/-- The batch of the plans that could be made. -/
def batchOf (s : Session) (schema : Schema) (items : List (DocumentType × Read)) : Batch Found :=
  ⟨(s.plansOf schema items).filterMap Except.toOption⟩

/-- The end of a call that only queues. -/
def queued (s : Session) (w : World σ) : Outcome Session → Ended σ Told
  | .ok s' => ⟨.ok .nothing, s', w⟩
  | .error f => ⟨.error (.failed f), s, w⟩

/-- Makes a call. -/
def perform (store : Store σ) (call : Call) (s : Session) (w : World σ) : Ended σ Told :=
  let schema := store.schema
  match call with
  | .read _ (.loadMany []) => ⟨.ok (.found (.documents [])), s, w⟩
  | .read t r =>
    let ended := s.runPlanned store (r.plan s schema t) w
    ⟨ended.result.map .found, ended.session, ended.world⟩
  | .batch items =>
    let ended := (s.batchOf schema items).execute store s w
    ⟨ended.result.map fun _ => .batch (withRejected (s.plansOf schema items) ended.answers),
      ended.session, ended.world⟩
  | .insert t now doc => s.queued w (s.insert schema t now doc)
  | .update t now doc => s.queued w (s.update schema t now doc)
  | .store t now doc => s.queued w (s.store schema t now doc)
  | .delete t now id => s.queued w (.ok (s.delete schema t now id))
  | .hardDelete t id => s.queued w (.ok (s.hardDelete schema t id))
  | .deleteWhere t now e => s.queued w (s.deleteWhere schema t now e)
  | .undeleteWhere t e => s.queued w (s.undeleteWhere schema t e)
  | .discard => s.queued w (.ok s.discardChanges)
  | .save =>
    let ended := s.saveChanges store w
    ⟨ended.result.map fun _ => .nothing, ended.session, ended.world⟩

/-- What is in a batch was planned for one of its items. -/
theorem exists_of_mem_batchOf {s : Session} {schema : Schema} {items : List (DocumentType × Read)}
    {p : Plan Found} (mem : p ∈ (s.batchOf schema items).plans) :
    ∃ item ∈ items, item.2.plan s schema item.1 = .ok p := by
  obtain ⟨plan, planned, made⟩ := List.mem_filterMap.mp mem
  obtain ⟨⟨t, r⟩, listed, rfl⟩ := List.mem_map.mp planned
  refine ⟨_, listed, ?_⟩
  cases planned : r.plan s schema t with
  | error f =>
    simp only [planned] at made
    cases made
  | ok q =>
    simp only [planned] at made
    exact congrArg Except.ok (Option.some.inj made)

/-- Reads other than of no document at all are planned. -/
theorem perform_read (store : Store σ) {s : Session} {w : World σ} {t : DocumentType} {r : Read}
    (h : r ≠ .loadMany []) :
    s.perform store (.read t r) w =
      ⟨(s.runPlanned store (r.plan s store.schema t) w).result.map .found,
        (s.runPlanned store (r.plan s store.schema t) w).session,
        (s.runPlanned store (r.plan s store.schema t) w).world⟩ := by
  cases r with
  | loadMany ids =>
    cases ids with
    | nil => exact absurd rfl h
    | cons id ids => rfl
  | _ => rfl

end Session

/-! ### What a call asks -/

/-- The request that makes the table of a mapping. -/
def creation (m : Mapping) : Request :=
  .write (.createTable ⟨m.table, m.idKind, m.softDeleted⟩)

/-- What reads ask: tables, and one command. -/
def reading {α : Type} (plans : List (Plan α)) : List Request :=
  .read (plans.map (·.statement)) :: plans.map fun p => creation p.mapping

/-- What a save asks: tables, and the writes in a transaction. -/
def saving (ps : List PendingWrite) : List Request :=
  [.start, .commit, .rollback] ++ ps.map (fun p => creation p.mapping) ++
    ps.map fun p => .write p.statement

/-- What is true of all that reads ask. -/
theorem forall_mem_reading {α : Type} {plans : List (Plan α)} {P : Request → Prop} :
    (∀ r ∈ reading plans, P r) ↔
      P (.read (plans.map (·.statement))) ∧ ∀ m ∈ plans.map (·.mapping), P (creation m) := by
  rw [reading, List.forall_mem_cons, List.forall_mem_map, List.forall_mem_map]

/-- What is true of all that a save asks. -/
theorem forall_mem_saving {ps : List PendingWrite} {P : Request → Prop} :
    (∀ r ∈ saving ps, P r) ↔
      (P .start ∧ P .commit ∧ P .rollback) ∧ (∀ m ∈ ps.map (·.mapping), P (creation m)) ∧
        ∀ p ∈ ps, P (.write p.statement) := by
  simp only [saving, List.forall_mem_append, List.forall_mem_cons, List.forall_mem_map,
    List.not_mem_nil, false_imp_iff, implies_true, and_true, and_assoc]

/-- What a call may ask of the database. -/
def Call.requests (schema : Schema) (s : Session) : Call → List Request
  | .read t r =>
    match r.plan s schema t with
    | .ok p => reading [p]
    | .error _ => []
  | .batch items => reading (s.batchOf schema items).plans
  | .save => saving s.pending
  | _ => []

/-! ### Runs -/

/-- Sessions that share a store. -/
structure System (σ : Type) where
  sessions : Nat → Session
  world : World σ

/-- A call that was made: on which session, how that was before, and how it ended. -/
structure Made where
  session : Nat
  call : Call
  before : Session
  result : Except Halt Told

/-- What the call asked, as far as is known. -/
def Made.requests (schema : Schema) (e : Made) : List Request :=
  e.call.requests schema e.before

namespace System

variable {σ : Type} (store : Store σ)

/-- How a call on one of the sessions ends. -/
def ended (sys : System σ) (i : Nat) (call : Call) : Ended σ Told :=
  (sys.sessions i).perform store call sys.world

/-- The system after a call on one of the sessions. -/
def after (sys : System σ) (i : Nat) (call : Call) : System σ where
  sessions := Function.update sys.sessions i (sys.ended store i call).session
  world := (sys.ended store i call).world

/-- The call with its end. -/
def made (sys : System σ) (i : Nat) (call : Call) : Made :=
  ⟨i, call, sys.sessions i, (sys.ended store i call).result⟩

/-- Makes calls one after the other. -/
def run (sys : System σ) : List (Nat × Call) → List Made × System σ
  | [] => ([], sys)
  | (i, call) :: rest =>
    let (later, last) := (sys.after store i call).run rest
    (sys.made store i call :: later, last)

/-- Calls that are made after others. -/
theorem run_append (sys : System σ) (calls more : List (Nat × Call)) :
    sys.run store (calls ++ more) =
      ((sys.run store calls).1 ++ ((sys.run store calls).2.run store more).1,
        ((sys.run store calls).2.run store more).2) := by
  induction calls generalizing sys with
  | nil => rfl
  | cons first rest ih =>
    obtain ⟨i, call⟩ := first
    simp only [List.cons_append, run, ih]

/-- Every call is made, on its session. -/
theorem run_calls (sys : System σ) (calls : List (Nat × Call)) :
    (sys.run store calls).1.map (fun e => (e.session, e.call)) = calls := by
  induction calls generalizing sys with
  | nil => rfl
  | cons first rest ih =>
    obtain ⟨i, call⟩ := first
    simp only [run, List.map_cons, ih]
    rfl

/-- The system after calls on one session, while the others make none. -/
def alone (sys : System σ) (i : Nat) (calls : List Call) : System σ :=
  (sys.run store (calls.map (i, ·))).2

theorem alone_concat (sys : System σ) (i : Nat) (calls : List Call) (call : Call) :
    sys.alone store i (calls ++ [call]) = (sys.alone store i calls).after store i call := by
  rw [alone, List.map_append, run_append]
  rfl

/-- A call that is made among others is made on what those before it have left. -/
theorem made_mem_run_alone (sys : System σ) (i : Nat) {done calls : List Call} {call : Call}
    (h : done ++ [call] <+: calls) :
    (sys.alone store i done).made store i call ∈ (sys.run store (calls.map (i, ·))).1 := by
  obtain ⟨rest, rfl⟩ := h
  rw [List.map_append, List.map_append, run_append, run_append]
  exact List.mem_append_left _ (List.mem_append_right _ List.mem_cons_self)

end System

/-! ### A system of orders

One type of documents, one of its documents, and a database that knows a few statements about it. -/

namespace Orders

open Folio.Relational

/-- Orders, written back at the version at which they were read only. -/
def type : DocumentType :=
  ⟨"Order", .int32, [.typeAlias "order", .optimistic true], fun _ => true⟩

def mapping : Mapping :=
  .ofType {} type

def order : Document :=
  ⟨.int32 7, .object [("id", .whole 7)]⟩

/-- The order as a row of the tenant holds it. -/
def stored : Statement.StoredDocument :=
  ⟨.int32 7, "\x7b\"id\":7\x7d", "order", "a", .epoch⟩

theorem stored_read : Document.read .int32 stored.data = .ok order := by cbv

theorem readRow_stored (n : Int64) : readRow mapping [.text stored.data, .int64 n] = .ok (order, n) := by
  have read (text : String) : readRow mapping [.text text, .int64 n] =
      (Document.read .int32 text).map (·, n) := by
    show (Document.read .int32 text >>= fun doc => .ok (doc, n)) = _
    cases Document.read .int32 text <;> rfl
  rw [read, stored_read]
  rfl

def insertion : Statement :=
  .insert ⟨mapping.table, stored⟩

/-- The order written back, where version 1 is expected. -/
def storing : Statement :=
  .upsert ⟨mapping.table, stored, some 1, false⟩

/-- All orders deleted. -/
def clearing : Statement :=
  .deleteWhere ⟨mapping.table, [.literal "1=1"], "a", none⟩

/-- All orders listed. -/
def listing : Statement :=
  .select { table := mapping.table, projection := .documents, tenant := some "a" }

/-- The statements differ in how many values they bind. -/
def request? : Operation → Option Request
  | .start => some .start
  | .commit => some .commit
  | .rollback => some .rollback
  | .query _ => some (.read [listing])
  | .execute c =>
    match c.params.length with
    | 0 => some (creation mapping)
    | 1 => some (.write clearing)
    | 5 => some (.write insertion)
    | 6 => some (.write storing)
    | _ => none

/-- A duplicate key is told from other reasons to refuse a statement. -/
def refused (_ : Request) : Refusal → Failure
  | .duplicate => ⟨.duplicateKey "duplicate", []⟩
  | .constraint => ⟨.database "constraint" [], []⟩

noncomputable def database : Database Contents :=
  Library.bare.database .sqlite {} request? refused

/-- Sessions of one tenant, on tables without rows. -/
noncomputable def system : System Contents where
  sessions _ := { tenant := "a" }
  world := { state := ⟨fun _ => 0, fun _ => 0⟩ }

/-- Calls ask nothing that the database does not know. -/
theorem answers {calls : List (Nat × Call)}
    (understood : (((system.run database.store calls).1.flatMap
        (·.requests database.store.schema)).map fun r => request? (r.operation .sqlite)) =
      ((system.run database.store calls).1.flatMap (·.requests database.store.schema)).map some) :
    ∀ e ∈ (system.run database.store calls).1, ∀ r ∈ e.requests database.store.schema,
      database.Answers refused r := by
  intro e mem r asked
  exact Library.database_answers
    (List.map_inj_left.mp understood r (List.mem_flatMap.mpr ⟨e, mem, asked⟩))

end Orders

end Folio
