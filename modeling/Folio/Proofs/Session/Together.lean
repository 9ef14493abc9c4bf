import Folio.Proofs.Session.Serving
import Folio.Proofs.Statement.Renumbered

/-!
# Folio.Proofs.Session.Together

Reads that are sent together find what they find one by one.

* `Plan.Steady`: what a read makes of its rows does not depend on the versions known before, so one
  answer that cannot be read is nothing to the others.
* `Store.AnswersAlike`: a driver that answers statements together as it answers each alone.
* `Session.readItems`: what the items of a batch make of their rows, one after the other. Both the
  batch (`Session.readTogether_eq`) and the reads by themselves (`System.run_reads`) come to that.
* `System.batch_as_alone`: the batch and the reads end in the same way.
-/

namespace Folio

open Folio.Database
open Folio.Sql (TableName)
open Folio.Statement (Command)

/-! ### Answers without regard to versions -/

/-- What is read does not depend on the versions that are known. -/
def Plan.Steady {α : Type} (p : Plan α) : Prop :=
  ∀ rows vs vs', (p.read rows vs).1 = (p.read rows vs').1

/-- Rows are read as documents one by one. -/
theorem readDocuments_eq_mapM (m : Mapping) (rows : List Row) (vs : Versions) :
    (readDocuments m rows vs).1 = rows.mapM fun row => (readRow m row).map Prod.fst := by
  induction rows generalizing vs with
  | nil => rfl
  | cons row rest ih =>
    rw [List.mapM_cons, readDocuments]
    cases readRow m row with
    | error f => rfl
    | ok found =>
      obtain ⟨doc, v⟩ := found
      show (readDocuments m rest _).1.map (doc :: ·) = _
      rw [ih]
      cases rest.mapM fun row => (readRow m row).map Prod.fst <;> rfl

theorem readDocuments_steady (m : Mapping) (rows : List Row) (vs vs' : Versions) :
    (readDocuments m rows vs).1 = (readDocuments m rows vs').1 := by
  rw [readDocuments_eq_mapM, readDocuments_eq_mapM]

namespace Plan.Steady

variable {α β : Type}

theorem map {p : Plan α} (h : p.Steady) (f : α → Outcome β) : (p.map f).Steady :=
  fun rows vs vs' => congrArg (Except.bind · f) (h rows vs vs')

/-- What is made of the answer does not matter. -/
theorem of_map {x : Outcome (Plan α)} {f : α → Outcome β} {p : Plan β}
    (made : (do return (← x).map f) = Except.ok p) (h : ∀ p', x = .ok p' → p'.Steady) : p.Steady := by
  obtain ⟨p', there, made⟩ := Outcome.bind_eq_ok.mp made
  obtain rfl := Except.ok.inj made
  exact (h p' there).map f

theorem ofRows (m : Mapping) (s : Statement.Selection) (read : List Row → Outcome α) :
    (Plan.ofRows m s read).Steady :=
  fun _ _ _ => rfl

end Plan.Steady

namespace Query

variable {q : Query} {scope : Scope}

theorem list_steady {p : Plan (List Document)} (h : q.list scope = .ok p) : p.Steady := by
  obtain ⟨s, -, h⟩ := Outcome.bind_eq_ok.mp h
  obtain rfl := Except.ok.inj h
  exact readDocuments_steady scope.mapping

theorem atMost_steady {n : Nat} {p : Plan (List Document)} (h : q.atMost n scope = .ok p) :
    p.Steady := by
  obtain ⟨p', listed, h⟩ := Outcome.bind_eq_ok.mp h
  obtain rfl := Except.ok.inj h
  have steady := list_steady listed
  exact steady

theorem firstOrDefault_steady {p : Plan (Option Document)} (h : q.firstOrDefault scope = .ok p) :
    p.Steady :=
  .of_map h fun _ => atMost_steady

theorem singleOrDefault_steady {p : Plan (Option Document)} (h : q.singleOrDefault scope = .ok p) :
    p.Steady :=
  .of_map h fun _ => atMost_steady

theorem count_steady {p : Plan Nat} (h : q.count scope = .ok p) : p.Steady := by
  obtain ⟨s, -, h⟩ := Outcome.bind_eq_ok.mp h
  obtain rfl := Except.ok.inj h
  exact .ofRows _ _ _

theorem any_steady {p : Plan Bool} (h : q.any scope = .ok p) : p.Steady := by
  obtain ⟨s, -, h⟩ := Outcome.bind_eq_ok.mp h
  obtain rfl := Except.ok.inj h
  exact .ofRows _ _ _

theorem aggregate_steady {a : Sql.Aggregate} {m : Member} {p : Plan Value}
    (h : q.aggregate a m scope = .ok p) : p.Steady := by
  obtain ⟨l, -, h⟩ := Outcome.bind_eq_ok.mp h
  obtain ⟨s, -, h⟩ := Outcome.bind_eq_ok.mp h
  obtain rfl := Except.ok.inj h
  exact .ofRows _ _ _

theorem select_steady {m : Member} {shape : Typed.Shape} {distinct : Bool} {p : Plan (List Value)}
    (h : q.select m shape distinct scope = .ok p) : p.Steady := by
  obtain ⟨l, -, h⟩ := Outcome.bind_eq_ok.mp h
  obtain ⟨s, -, h⟩ := Outcome.bind_eq_ok.mp h
  dsimp only at h
  split at h
  · cases h
  · obtain rfl := Except.ok.inj h
    exact .ofRows _ _ _

end Query

theorem Read.plan_steady {s : Session} {schema : Schema} {t : DocumentType} {r : Read}
    {p : Plan Found} (h : r.plan s schema t = .ok p) : p.Steady := by
  cases r with
  | load id =>
    obtain rfl := Except.ok.inj h
    have steady : (s.loadPlan schema t id).Steady := fun rows vs vs' =>
      congrArg (Except.map List.head?) (readDocuments_steady _ (rows.take 1) vs vs')
    exact steady.map _
  | loadMany ids =>
    obtain rfl := Except.ok.inj h
    have steady : (s.loadManyPlan schema t ids).Steady := readDocuments_steady (schema.mapping t)
    exact steady.map _
  | list q => exact .of_map h fun _ => Query.list_steady
  | first q => exact .of_map h fun _ made => .of_map made fun _ => Query.firstOrDefault_steady
  | firstOrDefault q => exact .of_map h fun _ => Query.firstOrDefault_steady
  | single q => exact .of_map h fun _ made => .of_map made fun _ => Query.singleOrDefault_steady
  | singleOrDefault q => exact .of_map h fun _ => Query.singleOrDefault_steady
  | count q => exact .of_map h fun _ => Query.count_steady
  | any q => exact .of_map h fun _ => Query.any_steady
  | sum q m shape => exact .of_map h fun _ made => .of_map made fun _ => Query.aggregate_steady
  | min q m shape => exact .of_map h fun _ made => .of_map made fun _ => Query.aggregate_steady
  | max q m shape => exact .of_map h fun _ made => .of_map made fun _ => Query.aggregate_steady
  | average q m => exact .of_map h fun _ made => .of_map made fun _ => Query.aggregate_steady
  | select q m shape distinct => exact .of_map h fun _ => Query.select_steady

/-! ### Commands that are answered -/

namespace Store

variable {σ α β : Type} (store : Store σ)

/-- The driver is in such a state, and these tables at least are known. -/
structure At (ready : σ → Prop) (known : List TableName) (w : World σ) : Prop where
  ready : ready w.state
  known : known ⊆ w.tables

/-- A connection can be had. -/
def Usable (ready : σ → Prop) (known : List TableName) (w : World σ) : Prop :=
  ∃ c w', store.acquire w = (.ok c, w') ∧ At ready known w'

variable {store} {ready : σ → Prop} {known : List TableName}

/-- A connection that was given back can be had again. -/
theorem At.usable {w : World σ} (h : At ready known w) (c : ConnectionId) :
    store.Usable ready known (w.giveBack c) := by
  obtain ⟨first, rest, idle⟩ : ∃ first rest, w.idle ++ [c] = first :: rest :=
    List.exists_cons_of_ne_nil (by simp)
  refine ⟨first, { w.giveBack c with idle := rest }, ?_, ⟨h.ready, h.known⟩⟩
  rw [acquire]
  simp only [World.giveBack, idle]

/-- The task ends with that result, and leaves the driver ready. -/
def Leads (ready : σ → Prop) (known : List TableName) (t : Task σ α) (a : α) : Prop :=
  ∀ w, At ready known w → ∃ w', t w = (.ok a, w') ∧ At ready known w'

theorem Leads.bind {t : Task σ α} {f : α → Task σ β} {a : α} {b : β} (first : Leads ready known t a)
    (next : Leads ready known (f a) b) : Leads ready known (t >>= f) b := by
  intro w here
  obtain ⟨w₁, ran, there⟩ := first w here
  obtain ⟨w₂, ran', there'⟩ := next w₁ there
  exact ⟨w₂, by rw [Task.bind_ok ran, ran'], there'⟩

/-- Carrying out this makes the driver answer so. -/
def Replies (store : Store σ) (ready : σ → Prop) (op : Operation) (reply : Reply) : Prop :=
  ∀ c st, ready st → ∃ st', ready st' ∧ store.driver.perform c op st = (.reply reply, st')

theorem Leads.query {cmd : Command} {cursor : Cursor} (checked : store.checkParameters cmd = .ok ())
    (replies : store.Replies ready (.query cmd) (.sets cursor)) (c : ConnectionId) :
    Leads ready known (store.query c cmd) cursor := by
  intro w here
  obtain ⟨st, still, performed⟩ := replies c w.state here.ready
  have admitted : (Task.ofOutcome (store.checkParameters cmd) : Task σ Unit) w = (.ok (), w) := by
    rw [checked]
    rfl
  refine ⟨w.after c [(.query cmd, .reply (.sets cursor))] st [], ?_, still, ?_⟩
  · rw [Store.query, Task.bind_ok admitted, Task.bind_apply, perform_apply, performed]
    rfl
  · exact List.subset_append_of_subset_left _ here.known

theorem Leads.createTables {ms : List Mapping}
    (replies : ∀ m ∈ ms, ∃ n, store.Replies ready (.execute (store.createCommand m)) (.count n))
    (c : ConnectionId) : Leads ready known (store.createTables c ms) () := by
  induction ms with
  | nil => exact fun w here => ⟨w, rfl, here⟩
  | cons m rest ih =>
    intro w here
    obtain ⟨n, answered⟩ := replies m List.mem_cons_self
    obtain ⟨st, still, performed⟩ := answered c w.state here.ready
    let op := Operation.execute (store.createCommand m)
    have executed : store.execute c (store.createCommand m) w =
        (.ok n, w.after c [(op, .reply (.count n))] st []) := by
      rw [execute_apply store (Saving.createCommand_checked store m), performed]
      rfl
    have there : At ready known (w.after c [(op, .reply (.count n))] st [m.table]) :=
      ⟨still, List.subset_append_of_subset_left _ here.known⟩
    obtain ⟨w', ran, there'⟩ := ih (fun m' mem => replies m' (List.mem_cons_of_mem _ mem)) _ there
    refine ⟨w', ?_, there'⟩
    rw [Store.createTables, Task.bind_ok executed, ← ran]
    show store.createTables c rest { w.after c _ st [] with tables := w.tables ++ [] ++ [m.table] } = _
    rw [List.append_nil]
    rfl

theorem Leads.ensureTables {ms : List Mapping}
    (replies : ∀ m ∈ ms, m.table ∉ known →
      ∃ n, store.Replies ready (.execute (store.createCommand m)) (.count n))
    (c : ConnectionId) : Leads ready known (store.ensureTables c ms) () := by
  intro w here
  refine Leads.createTables (fun m mem => ?_) c w here
  obtain ⟨listed, unknown⟩ := List.mem_filter.mp mem
  refine replies m (Relational.Database.mem_of_mem_distinctTables listed) fun there => ?_
  simp [here.known there] at unknown

/-- A command that the driver answers is fetched, and then a connection can be had again. -/
theorem fetch_of_replies {ms : List Mapping} {cmd : Command} {cursor : Cursor}
    (created : ∀ m ∈ ms, m.table ∉ known →
      ∃ n, store.Replies ready (.execute (store.createCommand m)) (.count n))
    (checked : store.checkParameters cmd = .ok ())
    (replies : store.Replies ready (.query cmd) (.sets cursor)) {w : World σ}
    (usable : store.Usable ready known w) :
    ∃ w', store.fetch ms cmd w = (.ok cursor, w') ∧ store.Usable ready known w' := by
  obtain ⟨c, w₁, acquired, here⟩ := usable
  obtain ⟨w₂, ran, there⟩ :=
    (Leads.ensureTables created c).bind (f := fun _ => store.query c cmd)
      (.query checked replies c) w₁ here
  have released : releasing c (do store.ensureTables c ms; store.query c cmd) w₁ = (.ok cursor, w₂) := by
    rw [releasing_apply, ran]
  refine ⟨w₂.giveBack c, ?_, there.usable c⟩
  rw [fetch, withConnection, Task.bind_ok acquired, Task.bind_ok released]
  rfl

end Store

/-! ### Items one after the other -/

/-- A driver that answers statements together as it answers each alone: with these rows each. It
makes tables that are not known, and stays so. -/
structure Store.AnswersAlike {σ : Type} (store : Store σ) (plans : List (Plan Found))
    (rows : Statement → List Row) (ready : σ → Prop) (known : List TableName) : Prop where
  creates : ∀ p ∈ plans, p.mapping.table ∉ known →
    ∃ n, store.Replies ready (.execute (store.createCommand p.mapping)) (.count n)
  together : store.Replies ready
    (.query (.ofStatements store.schema.dialect (plans.map (·.statement))))
    (.sets (.ofList (plans.map fun p => rows p.statement)))
  alone : ∀ p ∈ plans, store.Replies ready (.query (.ofStatement store.schema.dialect p.statement))
    (.sets (.ofList [rows p.statement]))

namespace Session

/-- What a read makes of the rows of its statement. -/
def finds (s : Session) (schema : Schema) (rows : Statement → List Row) (t : DocumentType) (r : Read) :
    Outcome Found := do
  let p ← r.plan s schema t
  (p.read (rows p.statement) s.versions).1

theorem finds_load (s : Session) (schema : Schema) (rows : Statement → List Row) (t : DocumentType)
    (id : DocumentId) : s.finds schema rows t (.load id) =
      ((readDocuments (schema.mapping t) ((rows (s.loadPlan schema t id).statement).take 1)
        s.versions).1.map List.head?).bind fun doc => .ok (.document doc) := rfl

/-- What reads make of the rows of their statements, one after the other, and the versions known
then. -/
def readItems (s : Session) (schema : Schema) (rows : Statement → List Row) :
    List (DocumentType × Read) → Versions → List (Outcome Found) × Versions
  | [], vs => ([], vs)
  | (t, r) :: rest, vs =>
    match r.plan s schema t with
    | .error f => (.error f :: (readItems s schema rows rest vs).1, (readItems s schema rows rest vs).2)
    | .ok p =>
      let (answer, vs) := p.read (rows p.statement) vs
      (answer :: (readItems s schema rows rest vs).1, (readItems s schema rows rest vs).2)

variable {s : Session} {schema : Schema} {rows : Statement → List Row}

theorem readItems_error {t : DocumentType} {r : Read} {f : Failure} (h : r.plan s schema t = .error f)
    (rest : List (DocumentType × Read)) (vs : Versions) :
    s.readItems schema rows ((t, r) :: rest) vs =
      (.error f :: (s.readItems schema rows rest vs).1, (s.readItems schema rows rest vs).2) := by
  rw [readItems, h]

theorem readItems_ok {t : DocumentType} {r : Read} {p : Plan Found} (h : r.plan s schema t = .ok p)
    (rest : List (DocumentType × Read)) (vs : Versions) :
    s.readItems schema rows ((t, r) :: rest) vs =
      let read := p.read (rows p.statement) vs
      (read.1 :: (s.readItems schema rows rest read.2).1, (s.readItems schema rows rest read.2).2) := by
  rw [readItems, h]

/-- What one item finds, it finds whatever the others are. -/
theorem answers_readItems (items : List (DocumentType × Read)) (vs : Versions) :
    (s.readItems schema rows items vs).1 = items.map fun item => s.finds schema rows item.1 item.2 := by
  induction items generalizing vs with
  | nil => rfl
  | cons item rest ih =>
    obtain ⟨t, r⟩ := item
    simp only [List.map_cons]
    cases planned : r.plan s schema t with
    | error f =>
      have found : s.finds schema rows t r = .error f := by
        rw [finds.eq_def, planned]
        rfl
      rw [readItems_error planned, ih, found]
    | ok p =>
      have found : s.finds schema rows t r = (p.read (rows p.statement) s.versions).1 := by
        rw [finds.eq_def, planned]
        rfl
      rw [readItems_ok planned, found]
      exact congrArg₂ List.cons (r.plan_steady planned _ _ _) (ih _)

theorem plansOf_cons (t : DocumentType) (r : Read) (rest : List (DocumentType × Read)) :
    s.plansOf schema ((t, r) :: rest) = r.plan s schema t :: s.plansOf schema rest := rfl

theorem plans_batchOf (items : List (DocumentType × Read)) :
    (s.batchOf schema items).plans = (s.plansOf schema items).filterMap Except.toOption := rfl

/-- What the items of a batch make of the rows of their statements. -/
def readTogether (s : Session) (schema : Schema) (rows : Statement → List Row)
    (items : List (DocumentType × Read)) (vs : Versions) : List (Outcome Found) × Versions :=
  let plans := (s.batchOf schema items).plans
  Batch.readSets plans (.ofList (plans.map fun p => rows p.statement)) vs

variable (s schema rows) in
/-- The answers of a batch are those of its items, one after the other. -/
theorem readTogether_eq (items : List (DocumentType × Read)) (vs : Versions) :
    withRejected (s.plansOf schema items) (s.readTogether schema rows items vs).1 =
        (s.readItems schema rows items vs).1 ∧
      (s.readTogether schema rows items vs).2 = (s.readItems schema rows items vs).2 := by
  induction items generalizing vs with
  | nil => exact ⟨rfl, rfl⟩
  | cons item rest ih =>
    obtain ⟨t, r⟩ := item
    cases planned : r.plan s schema t with
    | error f =>
      have skipped : (s.batchOf schema ((t, r) :: rest)).plans = (s.batchOf schema rest).plans := by
        rw [plans_batchOf, plansOf_cons, planned]
        rfl
      obtain ⟨answers, versions⟩ := ih vs
      rw [readItems_error planned, readTogether, skipped]
      refine ⟨?_, versions⟩
      rw [plansOf_cons, planned]
      exact congrArg _ answers
    | ok p =>
      have sent : (s.batchOf schema ((t, r) :: rest)).plans = p :: (s.batchOf schema rest).plans := by
        rw [plans_batchOf, plansOf_cons, planned]
        rfl
      obtain ⟨answers, versions⟩ := ih (p.read (rows p.statement) vs).2
      rw [readItems_ok planned, readTogether, sent]
      refine ⟨?_, versions⟩
      rw [plansOf_cons, planned]
      exact congrArg _ answers

end Session

/-! ### Runs -/

/-- Reads by themselves, on one session. -/
def readCalls (i : Nat) (items : List (DocumentType × Read)) : List (Nat × Call) :=
  items.map fun item => (i, .read item.1 item.2)

/-- A driver that answers a plan that is sent alone. -/
structure Store.AnswersAlone {σ : Type} (store : Store σ) (p : Plan Found) (rows : List Row)
    (ready : σ → Prop) (known : List TableName) : Prop where
  creates : p.mapping.table ∉ known →
    ∃ n, store.Replies ready (.execute (store.createCommand p.mapping)) (.count n)
  checked : store.checkParameters (.ofStatement store.schema.dialect p.statement) = .ok ()
  replies : store.Replies ready (.query (.ofStatement store.schema.dialect p.statement))
    (.sets (.ofList [rows]))

section

variable {σ : Type} {store : Store σ} {rows : Statement → List Row} {ready : σ → Prop}
  {known : List TableName}

/-- A read by itself. -/
theorem Session.perform_alone {s : Session} {w : World σ} {t : DocumentType} {r : Read} {p : Plan Found}
    (some : r ≠ .loadMany []) (planned : r.plan s store.schema t = .ok p)
    (answers : store.AnswersAlone p (rows p.statement) ready known)
    (usable : store.Usable ready known w) :
    ∃ w', store.Usable ready known w' ∧ s.perform store (.read t r) w =
      let read := p.read (rows p.statement) s.versions
      ⟨(read.1.mapError .failed).map .found, { s with versions := read.2 }, w'⟩ := by
  obtain ⟨w', fetched, usable'⟩ := Store.fetch_of_replies
    (fun m (mem : m ∈ [p.mapping]) => List.mem_singleton.mp mem ▸ answers.creates)
    answers.checked answers.replies usable
  have ran : s.run store p w = ⟨(p.read (rows p.statement) s.versions).1.mapError .failed,
      { s with versions := (p.read (rows p.statement) s.versions).2 }, w'⟩ := by
    simp only [Session.run]
    rw [show store.driver.capability.dialect = store.schema.dialect from rfl, fetched]
    rfl
  refine ⟨w', usable', ?_⟩
  rw [s.perform_read store some, planned, Session.runPlanned, ran]

theorem Read.plan_versions (s : Session) (vs : Versions) (schema : Schema) (t : DocumentType)
    (r : Read) : r.plan { s with versions := vs } schema t = r.plan s schema t := by
  cases r <;> rfl

theorem System.run_readCalls_cons (sys : System σ) (i : Nat) (t : DocumentType) (r : Read)
    (rest : List (DocumentType × Read)) :
    sys.run store (readCalls i ((t, r) :: rest)) =
      let later := (sys.after store i (.read t r)).run store (readCalls i rest)
      (sys.made store i (.read t r) :: later.1, later.2) := rfl

/-- Reads by themselves find what their items do, one after the other. -/
theorem System.run_reads {s : Session} {i : Nat} (items : List (DocumentType × Read))
    (some : ∀ item ∈ items, item.2 ≠ .loadMany [])
    (answers : ∀ p ∈ (s.batchOf store.schema items).plans,
      store.AnswersAlone p (rows p.statement) ready known)
    {sys : System σ} {vs : Versions} (session : sys.sessions i = { s with versions := vs })
    (usable : (s.batchOf store.schema items).plans ≠ [] → store.Usable ready known sys.world) :
    (sys.run store (readCalls i items)).1.map (·.result) =
        (s.readItems store.schema rows items vs).1.map (fun a => (a.mapError .failed).map .found) ∧
      (sys.run store (readCalls i items)).2.sessions = Function.update sys.sessions i
        { s with versions := (s.readItems store.schema rows items vs).2 } := by
  induction items generalizing sys vs with
  | nil =>
    refine ⟨rfl, ?_⟩
    rw [Session.readItems, ← session, Function.update_eq_self]
    rfl
  | cons item rest ih =>
    obtain ⟨t, r⟩ := item
    have first : r ≠ .loadMany [] := some _ List.mem_cons_self
    have others : ∀ item ∈ rest, item.2 ≠ .loadMany [] := fun item mem =>
      some item (List.mem_cons_of_mem _ mem)
    have same : r.plan (sys.sessions i) store.schema t = r.plan s store.schema t := by
      rw [session, Read.plan_versions]
    rw [run_readCalls_cons]
    rw [Session.plans_batchOf, Session.plansOf_cons] at answers usable
    cases planned : r.plan s store.schema t with
    | error f =>
      rw [planned] at answers usable
      have ended : sys.ended store i (.read t r) =
          ⟨.error (.failed f), sys.sessions i, sys.world⟩ := by
        rw [System.ended, Session.perform_read store first, same, planned]
        rfl
      have unchanged : sys.after store i (.read t r) = sys := by
        rw [System.after, ended, Function.update_eq_self]
      obtain ⟨results, sessions⟩ := ih others answers session usable
      rw [unchanged, Session.readItems_error planned, System.made, ended]
      exact ⟨congrArg _ results, sessions⟩
    | ok p =>
      rw [planned] at answers usable
      obtain ⟨w', usable', performed⟩ := Session.perform_alone first (same.trans planned)
        (answers p List.mem_cons_self) (usable (List.cons_ne_nil _ _))
      let read := p.read (rows p.statement) vs
      have ended : sys.ended store i (.read t r) =
          ⟨(read.1.mapError .failed).map .found, { s with versions := read.2 }, w'⟩ := by
        rw [System.ended, performed, session]
      have after : sys.after store i (.read t r) =
          ⟨Function.update sys.sessions i { s with versions := read.2 }, w'⟩ := by
        rw [System.after, ended]
      obtain ⟨results, sessions⟩ := ih others (fun q mem => answers q (List.mem_cons_of_mem _ mem))
        (show (System.mk (Function.update sys.sessions i { s with versions := read.2 }) w').sessions i =
          { s with versions := read.2 } from Function.update_self ..) fun _ => usable'
      rw [Session.readItems_ok planned, after, System.made, ended]
      refine ⟨congrArg _ results, sessions.trans ?_⟩
      exact Function.update_idem ..

end

/-! ### Batches -/

namespace Batch

variable {α : Type}

/-- Whatever the sets are, each plan reads its own, and those for which there is none fail. -/
theorem readSets_of_steady {plans : List (Plan α)} (steady : ∀ p ∈ plans, p.Steady)
    (sets : List (List Row)) (vs vs' : Versions) :
    (readSets plans (.ofList sets) vs).1 = plans.mapIdx fun k p =>
      match sets[k]? with
      | some rows => (p.read rows vs').1
      | none => fail (.result .noCurrentSet) := by
  induction plans generalizing sets vs with
  | nil => rfl
  | cons p rest ih =>
    have others := fun q mem => steady q (List.mem_cons_of_mem _ mem)
    rw [List.mapIdx_cons]
    cases sets with
    | nil => exact congrArg _ (ih others [] vs)
    | cons rows sets =>
      exact congrArg₂ List.cons (steady p List.mem_cons_self rows vs vs') (ih others sets _)

variable {σ : Type} {b : Batch α} {store : Store σ} {s : Session} {w w' : World σ}

theorem execute_nil (none : b.plans = []) : b.execute store s w = ⟨.ok (), [], s, w⟩ := by
  rw [execute, none]
  rfl

theorem execute_failed (some : b.plans ≠ []) {f : Failure}
    (fetched : store.fetch (b.plans.map (·.mapping)) (b.command store.schema) w =
      (.error (.failed f), w')) :
    b.execute store s w = ⟨.error (.failed f), b.plans.map fun _ => .error f, s, w'⟩ := by
  rw [execute, if_neg (by simpa using some), fetched]

theorem execute_ok (some : b.plans ≠ []) {cursor : Cursor}
    (fetched : store.fetch (b.plans.map (·.mapping)) (b.command store.schema) w = (.ok cursor, w')) :
    b.execute store s w = ⟨.ok (), (readSets b.plans cursor s.versions).1,
      { s with versions := (readSets b.plans cursor s.versions).2 }, w'⟩ := by
  rw [execute, if_neg (by simpa using some), fetched]

end Batch

section

variable {σ : Type} {store : Store σ}

theorem checkParameters_eq_ok {cmd : Command} :
    store.checkParameters cmd = .ok () ↔
      cmd.params.length ≤ store.driver.capability.maxParameters := by
  rw [Store.checkParameters]
  split
  · exact iff_of_false (fun h => by cases h) (by omega)
  · exact ⟨fun _ => by omega, fun _ => rfl⟩

/-- A statement of a command has no more parameters than the command. -/
theorem checked_of_mem {ss : List Statement} {st : Statement} (mem : st ∈ ss)
    (checked : store.checkParameters (.ofStatements store.schema.dialect ss) = .ok ()) :
    store.checkParameters (.ofStatement store.schema.dialect st) = .ok () := by
  rw [checkParameters_eq_ok] at checked ⊢
  refine le_trans ?_ checked
  rw [Statement.params_ofStatements]
  obtain ⟨front, back, rfl⟩ := List.append_of_mem mem
  simp only [List.flatMap_append, List.flatMap_cons, List.length_append]
  omega

theorem Store.AnswersAlike.answersAlone {plans : List (Plan Found)} {rows : Statement → List Row}
    {ready : σ → Prop} {known : List TableName} (h : store.AnswersAlike plans rows ready known)
    (checked : store.checkParameters
      (.ofStatements store.schema.dialect (plans.map (·.statement))) = .ok ()) :
    ∀ p ∈ plans, store.AnswersAlone p (rows p.statement) ready known :=
  fun p mem => ⟨h.creates p mem, checked_of_mem (List.mem_map_of_mem mem) checked, h.alone p mem⟩

/-- A batch that is answered ends as its items do, one after the other. -/
theorem Session.perform_batch {s : Session} {w : World σ} {items : List (DocumentType × Read)}
    {rows : Statement → List Row} {ready : σ → Prop} {known : List TableName}
    (alike : store.AnswersAlike (s.batchOf store.schema items).plans rows ready known)
    (checked : store.checkParameters ((s.batchOf store.schema items).command store.schema) = .ok ())
    (usable : (s.batchOf store.schema items).plans ≠ [] → store.Usable ready known w) :
    (s.perform store (.batch items) w).result =
        .ok (.batch (s.readItems store.schema rows items s.versions).1) ∧
      (s.perform store (.batch items) w).session =
        { s with versions := (s.readItems store.schema rows items s.versions).2 } := by
  obtain ⟨answers, versions⟩ := readTogether_eq s store.schema rows items s.versions
  rw [← answers, ← versions, readTogether]
  have performed : s.perform store (.batch items) w =
      let ended := (s.batchOf store.schema items).execute store s w
      ⟨ended.result.map fun _ => .batch (withRejected (s.plansOf store.schema items) ended.answers),
        ended.session, ended.world⟩ := rfl
  rw [performed]
  by_cases none : (s.batchOf store.schema items).plans = []
  · rw [Batch.execute_nil none, none]
    exact ⟨rfl, rfl⟩
  · rw [Batch.command_eq] at checked
    obtain ⟨w', fetched, -⟩ := Store.fetch_of_replies (List.forall_mem_map.mpr alike.creates) checked
      alike.together (usable none)
    rw [Batch.execute_ok none ((Batch.command_eq _ _).symm ▸ fetched)]
    exact ⟨rfl, rfl⟩

/-- **A batch is its reads, one by one.** If a driver answers the statements of a batch together as it
answers each alone, then every item finds what its read by itself would find, whatever the others
find, and the session is the same in the end. Without any statement nothing is sent. If the command
fails, every plan fails with it; if there are fewer sets than plans, the plans beyond the last set
find none, and the others read their own. -/
theorem System.batch_as_alone (store : Store σ) (sys : System σ) (i : Nat)
    (items : List (DocumentType × Read)) :
    let s := sys.sessions i
    let batch := s.batchOf store.schema items
    let mappings := batch.plans.map (·.mapping)
    (∀ rows ready, (∀ item ∈ items, item.2 ≠ .loadMany []) →
        store.AnswersAlike batch.plans rows ready sys.world.tables →
        store.checkParameters (batch.command store.schema) = .ok () →
        (batch.plans ≠ [] → store.Usable ready sys.world.tables sys.world) →
        let answers := items.map fun item => s.finds store.schema rows item.1 item.2
        (sys.ended store i (.batch items)).result = .ok (.batch answers) ∧
          (sys.run store (readCalls i items)).1.map (·.result) =
            answers.map (fun a => (a.mapError .failed).map .found) ∧
          (sys.after store i (.batch items)).sessions =
            (sys.run store (readCalls i items)).2.sessions) ∧
      (batch.plans = [] → (sys.ended store i (.batch items)).world = sys.world ∧
        (sys.ended store i (.batch items)).session = s) ∧
      (batch.plans ≠ [] → ∀ f w,
        store.fetch mappings (batch.command store.schema) sys.world = (.error (.failed f), w) →
          batch.execute store s sys.world =
            ⟨.error (.failed f), batch.plans.map fun _ => .error f, s, w⟩) ∧
      (batch.plans ≠ [] → ∀ sets w,
        store.fetch mappings (batch.command store.schema) sys.world = (.ok (.ofList sets), w) →
          (batch.execute store s sys.world).result = .ok () ∧
            (batch.execute store s sys.world).answers = batch.plans.mapIdx fun k p =>
              match sets[k]? with
              | some rows => (p.read rows s.versions).1
              | none => fail (.result .noCurrentSet)) := by
  intro s batch mappings
  refine ⟨fun rows ready some alike checked usable => ?_, fun none => ?_, fun some f w fetched => ?_,
    fun some sets w fetched => ?_⟩
  · obtain ⟨result, session⟩ := Session.perform_batch alike checked usable
    have each := alike.answersAlone (by rwa [← Batch.command_eq])
    obtain ⟨results, sessions⟩ := System.run_reads items some each (show sys.sessions i = _ from rfl) usable
    rw [Session.answers_readItems] at result results
    refine ⟨result, results, ?_⟩
    rw [sessions, System.after, System.ended, session]
  · have nothing : batch.execute store s sys.world = _ := Batch.execute_nil none
    exact ⟨congrArg BatchEnded.world nothing, congrArg BatchEnded.session nothing⟩
  · exact Batch.execute_failed some fetched
  · rw [Batch.execute_ok some fetched]
    refine ⟨rfl, Batch.readSets_of_steady (fun p mem => ?_) sets s.versions s.versions⟩
    obtain ⟨item, -, planned⟩ := Session.exists_of_mem_batchOf mem
    exact Read.plan_steady planned

end

/-! ### Two reads together -/

namespace Orders

/-- All orders and one of them. -/
def listAndLoad : List (DocumentType × Read) :=
  [(type, .list {}), (type, .load (.int32 7))]

/-- The statements differ in how many values they bind. What is listed is no text. -/
def found (st : Statement) : List Row :=
  if (Command.ofStatement .sqlite st).params.length = 1 then [[.int64 7, .int64 1]]
  else [[.text stored.data, .int64 3]]

/-- A store whose driver answers these reads, alone or together. -/
def answering : Store Unit where
  driver := {
    capability := .sqlite
    connect := fun _ st => (.reply (), st)
    perform := fun _ op st =>
      match op with
      | .query c =>
        (.reply (.sets (.ofList
          (match c.params.length with
          | 1 => [[[.int64 7, .int64 1]]]
          | 2 => [[[.text stored.data, .int64 3]]]
          | _ => [[[.int64 7, .int64 1]], [[.text stored.data, .int64 3]]]))), st)
      | _ => (.reply (.count 0), st)
  }
  options := {}

/-- One of the reads fails, the other finds its document, and both are known to the batch as they are to
the reads by themselves. -/
theorem batch_as_alone_listAndLoad :
    let sys : System Unit := ⟨fun _ => { tenant := "a" }, { state := () }⟩
    ∃ f, (sys.ended answering 0 (.batch listAndLoad)).result =
        .ok (.batch [.error f, .ok (.document (some order))]) ∧
      (sys.run answering (readCalls 0 listAndLoad)).1.map (·.result) =
        [.error (.failed f), .ok (.found (.document (some order)))] ∧
      (sys.after answering 0 (.batch listAndLoad)).sessions =
        (sys.run answering (readCalls 0 listAndLoad)).2.sessions := by
  intro sys
  have alike : answering.AnswersAlike ((sys.sessions 0).batchOf answering.schema listAndLoad).plans
      found (fun _ => True) sys.world.tables := by
    refine ⟨fun p _ _ => ⟨0, fun c st _ => ⟨st, trivial, rfl⟩⟩, fun c st _ => ⟨st, trivial, rfl⟩, ?_⟩
    intro p mem
    rcases List.mem_cons.mp mem with rfl | mem
    · exact fun c st _ => ⟨st, trivial, rfl⟩
    · obtain rfl := List.mem_singleton.mp mem
      exact fun c st _ => ⟨st, trivial, rfl⟩
  have usable : answering.Usable (fun _ => True) sys.world.tables sys.world :=
    ⟨0, _, rfl, ⟨trivial, List.Subset.refl _⟩⟩
  obtain ⟨result, results, sessions⟩ := (System.batch_as_alone answering sys 0 listAndLoad).1 found
    (fun _ => True) (by simp [listAndLoad]) alike rfl fun _ => usable
  let f : Failure := ⟨.result (.notPayload "i64"), []⟩
  have listed : (sys.sessions 0).finds answering.schema found type (.list {}) = .error f := rfl
  have loaded : (sys.sessions 0).finds answering.schema found type (.load (.int32 7)) =
      .ok (.document (some order)) := by
    have rows : found ((sys.sessions 0).loadPlan answering.schema type (.int32 7)).statement =
        [[.text stored.data, .int64 3]] := rfl
    rw [Session.finds_load, rows, show answering.schema.mapping type = mapping from rfl,
      List.take_succ_cons, readDocuments, readRow_stored]
    rfl
  simp only [listAndLoad, List.map_cons, List.map_nil, listed, loaded] at result results
  exact ⟨f, result, results, sessions⟩

end Orders

end Folio
