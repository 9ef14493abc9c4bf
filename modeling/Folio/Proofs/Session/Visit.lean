import Folio.Proofs.Session.Serving
import Folio.Proofs.Versions.Sighted

/-!
# Folio.Proofs.Session.Visit

What a call does with the connections of its store.

A call visits the database once at most: it takes a connection, has a `Dialogue` on it, and leaves it to its
`Fate`. The visit is told from the worlds before and after the call (`Visits`), whatever the driver answers.
What is said on a visit is what the call may ask, the tables are made before they are used, and a connection
that is given back is in no transaction (`Conducted`). `Session.perform_visits` finds the visit of each call.
-/

namespace Folio

open Folio.Database
open Folio.Relational (Request)
open Folio.Saving (Fate)
open Folio.Sql (Dialect TableName)
open Folio.Statement (Command)

/-! ### Tables -/

/-- The SQL that a store speaks. -/
abbrev Store.dialect {σ : Type} (store : Store σ) : Dialect :=
  store.driver.capability.dialect

/-- The table that a statement is about. -/
def Statement.table : Statement → TableName
  | .select x => x.table
  | .insert x => x.table
  | .update x => x.table
  | .upsert x => x.table
  | .delete x => x.table
  | .deleteWhere x => x.table
  | .undeleteWhere x => x.table
  | .createTable x => x.table

namespace Relational.Request

/-- The statements of a request. -/
def statements : Request → List Statement
  | .write s => [s]
  | .read ss => ss
  | .start | .commit | .rollback => []

/-- The table that a request makes, if it does. -/
def creates? : Request → Option TableName
  | .write (.createTable x) => some x.table
  | _ => none

end Relational.Request

/-! ### Dialogues -/

/-- What was asked on a connection and what was answered, in order. -/
abbrev Dialogue := List (Request × Answer Reply)

namespace Dialogue

/-- The dialogue as the driver sees it. -/
def exchange (d : Dialect) (x : Dialogue) : Exchange :=
  x.map fun (r, answer) => (r.operation d, answer)

/-- The table that is made by a request with this answer: it succeeds if it is answered by a count. -/
def madeBy : Request × Answer Reply → Option TableName
  | (r, .reply (.count _)) => r.creates?
  | _ => none

/-- The tables that were made. -/
def made (x : Dialogue) : List TableName :=
  x.filterMap madeBy

/-- Is a connection in a transaction after a request? It enters one when a start succeeds, and leaves it when
a commit or a rollback does. -/
def within (before : Bool) : Request × Answer Reply → Bool
  | (.start, .reply _) => true
  | (.commit, .reply _) | (.rollback, .reply _) => false
  | _ => before

/-- Is a connection in a transaction after the dialogue? -/
def inTransaction (x : Dialogue) (before : Bool) : Bool :=
  x.foldl within before

/-- Tables are used and not made, and all of them are known. -/
def Uses (known : List TableName) (x : Dialogue) : Prop :=
  ∀ e ∈ x, e.1.creates? = none ∧ ∀ s ∈ e.1.statements, s.table ∈ known

/-- Tables are made first, and none that is known, before they are used. After one that could not be made nothing
is asked. -/
def Orderly : List TableName → Dialogue → Prop
  | _, [] => True
  | known, (r, answer) :: rest =>
    match r.creates? with
    | some t =>
      t ∉ known ∧
        match answer with
        | .reply (.count _) => Orderly (t :: known) rest
        | _ => rest = []
    | none => Uses known ((r, answer) :: rest)

variable {d : Dialect} {x y : Dialogue} {known : List TableName} {r : Request} {b : Bool}

theorem exchange_append : exchange d (x ++ y) = exchange d x ++ exchange d y :=
  List.map_append

theorem made_append : made (x ++ y) = made x ++ made y :=
  List.filterMap_append

theorem inTransaction_append :
    inTransaction (x ++ y) b = inTransaction y (inTransaction x b) :=
  List.foldl_append

/-- Where tables are used, none are made. -/
theorem Uses.made (h : Uses known x) : made x = [] := by
  refine List.filterMap_eq_nil_iff.mpr fun ⟨r, answer⟩ mem => ?_
  have none : r.creates? = none := (h _ mem).1
  rcases answer with (n | cursor) | f | _
  · exact none
  · rfl
  · rfl
  · rfl

theorem Uses.orderly (h : Uses known x) : Orderly known x := by
  cases x with
  | nil => trivial
  | cons e rest =>
    unfold Orderly
    simp only [(h e List.mem_cons_self).1]
    exact h

/-- Requests that begin and end no transaction. -/
theorem inTransaction_of_within (same : ∀ e ∈ x, within b e = b) : inTransaction x b = b := by
  induction x with
  | nil => rfl
  | cons e rest ih =>
    obtain ⟨here, later⟩ := List.forall_mem_cons.mp same
    show inTransaction rest (within b e) = b
    rw [here, ih later]

end Dialogue

/-! ### Visits -/

section

variable {σ α : Type}

/-- The driver answers so, one request after the other. -/
inductive Said (store : Store σ) (c : ConnectionId) : σ → Dialogue → σ → Prop
  | nil {st : σ} : Said store c st [] st
  | cons {st st₁ st₂ : σ} {r : Request} {answer : Answer Reply} {x : Dialogue} :
      store.driver.perform c (r.operation store.dialect) st = (answer, st₁) →
      Said store c st₁ x st₂ → Said store c st ((r, answer) :: x) st₂

/-- What a call does with the connections. -/
inductive Visit
  /-- Nothing. -/
  | none
  /-- It does not get one. -/
  | refused
  /-- It gets one, on which this is said, and leaves it so. -/
  | on (c : ConnectionId) (x : Dialogue) (fate : Fate)

/-- The visit leads from one world to the other. -/
inductive Visits (store : Store σ) (w : World σ) : Visit → World σ → Prop
  | none : Visits store w .none w
  | refused {halt : Halt} {w' : World σ} : store.acquire w = (.error halt, w') → Visits store w .refused w'
  | on {c : ConnectionId} {w₁ : World σ} {x : Dialogue} {st : σ} {fate : Fate} :
      store.acquire w = (.ok c, w₁) → Said store c w₁.state x st →
      Visits store w (.on c x fate)
        (fate.leave c (w₁.after c (Dialogue.exchange store.dialect x) st (Dialogue.made x)))

/-- What is said on a visit of a call that may ask these requests, and that ends so, when these tables are
known: the requests are among those, tables are used as they should be, the connection is held if and only if
the call never ends, is given back outside of a transaction, and is closed only after something has failed. -/
structure Conducted (requests : List Request) (known : List TableName) (result : Except Halt α)
    (x : Dialogue) (fate : Fate) : Prop where
  asked : ∀ e ∈ x, e.1 ∈ requests
  orderly : x.Orderly known
  held_iff : fate = .held ↔ result = .error .stalled
  outside : fate = .returned → x.inTransaction false = false
  broken : fate = .closed → ∃ e ∈ x, ∀ reply, e.2 ≠ .reply reply

/-- Some visit leads from the one world to the other, conducted so. -/
def Goes (store : Store σ) (requests : List Request) (result : Except Halt α) (w w' : World σ) : Prop :=
  ∃ v, Visits store w v w' ∧ ∀ c x fate, v = .on c x fate → Conducted requests w.tables result x fate

end

/-! ### What is said -/

section

variable {σ : Type} {store : Store σ} {c : ConnectionId} {st st₁ st₂ : σ} {x y : Dialogue}

theorem Said.append (h : Said store c st x st₁) (rest : Said store c st₁ y st₂) :
    Said store c st (x ++ y) st₂ := by
  induction h with
  | nil => exact rest
  | cons answered _ ih => exact .cons answered (ih rest)

theorem Said.single {r : Request} {answer : Answer Reply}
    (answered : store.driver.perform c (r.operation store.dialect) st = (answer, st₁)) :
    Said store c st [(r, answer)] st₁ :=
  .cons answered .nil

end

namespace Saving

variable {σ : Type} {store : Store σ} {c : ConnectionId} {st st' : σ} {z : Exchange}
  {steps more passed : List Step} {halt : Option Halt}

/-- Steps that are taken after others are not reached, or all the others pass. -/
theorem Progress.append_cases (h : Progress store c (steps ++ more) st z st' passed halt) :
    (∃ e, halt = some e ∧ Progress store c steps st z st' passed halt) ∨
      ∃ st₁ x y former later, Progress store c steps st x st₁ former none ∧
        Progress store c more st₁ y st' later halt ∧ z = x ++ y ∧ passed = former ++ later := by
  induction steps generalizing st z passed with
  | nil => exact .inr ⟨st, [], z, [], passed, .done, h, rfl, rfl⟩
  | cons step rest ih =>
    cases h with
    | passed admitted answered accepted others =>
      rcases ih others with ⟨e, rfl, first⟩ | ⟨st₁, x, y, former, later, first, second, rfl, rfl⟩
      · exact .inl ⟨e, rfl, .passed admitted answered accepted first⟩
      · exact .inr ⟨st₁, _, y, _, later, .passed admitted answered accepted first, second, rfl, rfl⟩
    | failed admitted answered rejected => exact .inl ⟨_, rfl, .failed admitted answered rejected⟩
    | refused tooLong => exact .inl ⟨_, rfl, .refused tooLong⟩

/-- A write that does not end was not answered. -/
theorem eq_never_of_verdict {p : PendingWrite} {answer : Answer Reply}
    (h : p.verdict answer = .error .stalled) : answer = .never := by
  rcases answer with (n | cursor) | f | _
  · rcases n with _ | n
    · rcases kind : p.kind with _ | ⟨_, _ | _⟩ | ⟨_, _ | _⟩ | _ | _ <;> simp [PendingWrite.verdict, kind] at h
    · cases h
  · cases h
  · cases kind : p.kind with
    | insert id => by_cases duplicate : f.isDuplicateKey <;> simp [PendingWrite.verdict, kind, duplicate] at h
    | _ => simp [PendingWrite.verdict, kind] at h
  · rfl

/-- Writes do not end only if one of them is not answered. -/
theorem Progress.unanswered {ps : List PendingWrite}
    (h : Progress store c (ps.map .write) st z st' passed (some .stalled)) : ∃ op, (op, Answer.never) ∈ z := by
  induction ps generalizing st z passed with
  | nil => cases h
  | cons p rest ih =>
    cases h with
    | passed _ _ _ later =>
      obtain ⟨op, mem⟩ := ih later
      exact ⟨op, List.mem_cons_of_mem _ mem⟩
    | failed _ _ rejected =>
      obtain rfl := eq_never_of_verdict rejected
      exact ⟨_, List.mem_singleton_self _⟩

theorem operation_eq (step : Step) :
    operation store step = step.request.operation store.dialect := by
  cases step <;> rfl

/-- The requests of steps, as far as they were taken. -/
theorem Progress.said (h : Progress store c steps st z st' passed halt) :
    ∃ x, Dialogue.exchange store.dialect x = z ∧ Said store c st x st' ∧
      ∀ e ∈ x, ∃ step ∈ steps, e.1 = step.request := by
  induction h with
  | done => exact ⟨[], rfl, .nil, fun _ mem => absurd mem List.not_mem_nil⟩
  | @passed step rest _ answer _ _ _ _ _ _ answered _ _ ih =>
    obtain ⟨x, rfl, said, steps⟩ := ih
    rw [operation_eq] at answered ⊢
    refine ⟨(step.request, answer) :: x, rfl, .cons answered said, ?_⟩
    refine List.forall_mem_cons.mpr ⟨⟨step, List.mem_cons_self, rfl⟩, fun e mem => ?_⟩
    obtain ⟨step', taken, same⟩ := steps e mem
    exact ⟨step', List.mem_cons_of_mem _ taken, same⟩
  | @failed step _ _ answer _ _ _ answered _ =>
    rw [operation_eq] at answered ⊢
    refine ⟨[(step.request, answer)], rfl, .single answered, ?_⟩
    exact List.forall_mem_singleton.mpr ⟨step, List.mem_cons_self, rfl⟩
  | refused => exact ⟨[], rfl, .nil, fun _ mem => absurd mem List.not_mem_nil⟩

/-- What is said to make the tables that are not known. If all are made, more can be said that uses them. -/
structure Prepares (known : List TableName) (ms : List Mapping) (all : Prop) (x : Dialogue) : Prop where
  asked : ∀ e ∈ x, ∃ m ∈ ms, e.1 = creation m
  orderly : x.Orderly known
  goes_on : all → ∀ y, Dialogue.Uses (x.made ++ known) y → Dialogue.Orderly known (x ++ y)
  ready : all → ∀ m ∈ ms, m.table ∈ x.made ++ known

theorem Prepares.nil {known : List TableName} {all : Prop} : Prepares known [] all [] :=
  ⟨fun _ mem => absurd mem List.not_mem_nil, trivial, fun _ _ later => later.orderly,
    fun _ _ mem => absurd mem List.not_mem_nil⟩

/-- A table that is known is not made. -/
theorem Prepares.cons_known {known : List TableName} {m : Mapping} {ms : List Mapping} {all : Prop}
    {x : Dialogue} (there : m.table ∈ known) (h : Prepares known ms all x) :
    Prepares known (m :: ms) all x where
  asked e mem :=
    let ⟨n, needed, same⟩ := h.asked e mem
    ⟨n, List.mem_cons_of_mem _ needed, same⟩
  orderly := h.orderly
  goes_on := h.goes_on
  ready whole := List.forall_mem_cons.mpr ⟨List.mem_append_right _ there, h.ready whole⟩

/-- A table that is made is known after it. -/
theorem Prepares.cons_made {known : List TableName} {m : Mapping} {ms : List Mapping} {all : Prop}
    {x : Dialogue} {n : Nat} (missing : m.table ∉ known) (h : Prepares (m.table :: known) ms all x) :
    Prepares known (m :: ms) all ((creation m, .reply (.count n)) :: x) where
  asked := by
    refine List.forall_mem_cons.mpr ⟨⟨m, List.mem_cons_self, rfl⟩, fun e mem => ?_⟩
    obtain ⟨n, needed, same⟩ := h.asked e mem
    exact ⟨n, List.mem_cons_of_mem _ needed, same⟩
  orderly := ⟨missing, h.orderly⟩
  goes_on whole y later := by
    refine ⟨missing, h.goes_on whole y fun e mem => ⟨(later e mem).1, fun s among => ?_⟩⟩
    have there : s.table ∈ (m.table :: x.made) ++ known := (later e mem).2 s among
    simp only [List.mem_append, List.mem_cons] at there ⊢
    tauto
  ready whole := by
    show ∀ m' ∈ m :: ms, m'.table ∈ (m.table :: x.made) ++ known
    refine List.forall_mem_cons.mpr ⟨List.mem_cons_self, fun m' needed => ?_⟩
    have there := h.ready whole m' needed
    simp only [List.mem_append, List.mem_cons] at there ⊢
    tauto

/-- One that could not be made ends the preparation. -/
theorem Prepares.failed {known : List TableName} {m : Mapping} {ms : List Mapping} {answer : Answer Reply}
    {all : Prop} (missing : m.table ∉ known) (answered : ∀ n, answer ≠ .reply (.count n)) (part : ¬all) :
    Prepares known (m :: ms) all [(creation m, answer)] where
  asked := List.forall_mem_singleton.mpr ⟨m, List.mem_cons_self, rfl⟩
  orderly := by
    refine ⟨missing, ?_⟩
    rcases answer with (n | cursor) | f | _
    · exact absurd rfl (answered n)
    · rfl
    · rfl
    · rfl
  goes_on whole := absurd whole part
  ready whole := absurd whole part

/-- Only a count says that a table was made. -/
theorem verdict_create {m : Mapping} {answer : Answer Reply} :
    verdict (.create m) answer = .ok () ↔ ∃ n, answer = .reply (.count n) := by
  rcases answer with (n | cursor) | f | _ <;> simp [verdict]

/-- Tables are made where they are first needed. -/
theorem Progress.prepares {known : List TableName} {ms : List Mapping}
    (h : Progress store c ((firstUses known ms).map .create) st z st' passed halt) :
    ∃ x, Dialogue.exchange store.dialect x = z ∧ Said store c st x st' ∧
      x.made = tablesOf passed ∧ Prepares known ms (halt = none) x := by
  induction ms generalizing known st z passed with
  | nil =>
    cases h
    exact ⟨[], rfl, .nil, rfl, .nil⟩
  | cons m rest ih =>
    rw [firstUses] at h
    split at h
    next there =>
      obtain ⟨x, same, said, made, prepares⟩ := ih h
      exact ⟨x, same, said, made, prepares.cons_known there⟩
    next missing =>
      cases h with
      | passed _ answered accepted later =>
        obtain ⟨x, rfl, said, made, prepares⟩ := ih later
        obtain ⟨n, rfl⟩ := verdict_create.mp accepted
        rw [operation_eq] at answered ⊢
        refine ⟨_, rfl, .cons answered said, ?_, prepares.cons_made missing⟩
        exact congrArg (m.table :: ·) made
      | @failed _ _ _ answer _ _ _ answered rejected =>
        have unmade : ∀ n, answer ≠ .reply (.count n) := fun n same => by
          rw [verdict_create.mpr ⟨n, same⟩] at rejected
          cases rejected
        rw [operation_eq] at answered ⊢
        refine ⟨[(creation m, answer)], rfl, .single answered, ?_, .failed missing unmade (Option.some_ne_none _)⟩
        rcases answer with (n | cursor) | f | _
        · exact absurd rfl (unmade n)
        · rfl
        · rfl
        · rfl
      | refused tooLong => cases tooLong

theorem Prepares.inTransaction {known : List TableName} {ms : List Mapping} {all : Prop} {x : Dialogue} {b : Bool}
    (h : Prepares known ms all x) : x.inTransaction b = b := by
  refine Dialogue.inTransaction_of_within fun e mem => ?_
  obtain ⟨r, answer⟩ := e
  obtain ⟨m, -, rfl⟩ := h.asked _ mem
  rfl

/-- The steps before the writes: the transaction is started if all of them pass. -/
theorem Progress.starts {known : List TableName} {ms : List Mapping}
    (h : Progress store c (preparation (firstUses known ms)) st z st' passed halt) :
    ∃ x, Dialogue.exchange store.dialect x = z ∧ Said store c st x st' ∧
      x.made = tablesOf passed ∧ (∀ e ∈ x, e.1 = .start ∨ ∃ m ∈ ms, e.1 = creation m) ∧ x.Orderly known ∧
      x.inTransaction false = halt.isNone ∧
      (halt = none → (∀ y, Dialogue.Uses (x.made ++ known) y → Dialogue.Orderly known (x ++ y)) ∧
        ∀ m ∈ ms, m.table ∈ x.made ++ known) := by
  rcases h.append_cases with ⟨e, rfl, creates⟩ | ⟨st₁, z₁, z₂, former, later, creates, start, rfl, rfl⟩
  · obtain ⟨x, rfl, said, made, prepares⟩ := creates.prepares
    exact ⟨x, rfl, said, made, fun e mem => .inr (prepares.asked e mem), prepares.orderly,
      prepares.inTransaction, nofun⟩
  · obtain ⟨x, rfl, said, made, prepares⟩ := creates.prepares
    -- the start is the last step, and makes no table
    obtain ⟨answer, answered, rfl, none_made, started⟩ : ∃ answer,
        store.driver.perform c .start st₁ = (answer, st') ∧ z₂ = [(.start, answer)] ∧ tablesOf later = [] ∧
          Dialogue.within false (.start, answer) = halt.isNone := by
      cases start with
      | @passed _ _ _ answer _ _ _ _ _ _ answered accepted rest =>
        cases rest
        refine ⟨answer, answered, rfl, rfl, ?_⟩
        cases answer with
        | reply reply => rfl
        | _ => cases accepted
      | @failed _ _ _ answer _ _ _ answered rejected =>
        refine ⟨answer, answered, rfl, rfl, ?_⟩
        cases answer with
        | reply reply => cases rejected
        | _ => rfl
      | refused tooLong => cases tooLong
    have uses : Dialogue.Uses (x.made ++ known) [(.start, answer)] :=
      List.forall_mem_singleton.mpr ⟨rfl, fun _ mem => absurd mem List.not_mem_nil⟩
    have made_start : Dialogue.made (x ++ [(.start, answer)]) = x.made := by
      rw [Dialogue.made_append, uses.made, List.append_nil]
    refine ⟨x ++ [(.start, answer)], Dialogue.exchange_append, said.append (.single (r := .start) answered),
      ?_, ?_,
      prepares.goes_on rfl _ uses, ?_, ?_⟩
    · rw [made_start, made, tablesOf_append, none_made, List.append_nil]
    · intro e mem
      rcases List.mem_append.mp mem with mem | mem
      · exact .inr (prepares.asked e mem)
      · rw [List.mem_singleton.mp mem]
        exact .inl rfl
    · rw [Dialogue.inTransaction_append, prepares.inTransaction]
      exact started
    · intro _
      rw [made_start]
      refine ⟨fun y later => ?_, prepares.ready rfl⟩
      rw [List.append_assoc]
      exact prepares.goes_on rfl _ (List.forall_mem_append.mpr ⟨uses, later⟩)

end Saving

/-- A queued write is to the table of its mapping, and does not make it. -/
structure PendingWrite.Aligned (p : PendingWrite) : Prop where
  table : p.statement.table = p.mapping.table
  uses : (Request.write p.statement).creates? = none

/-- All writes that a session has queued are. -/
def Session.Aligned (s : Session) : Prop :=
  ∀ p ∈ s.pending, p.Aligned

namespace Saving

variable {σ : Type} {store : Store σ} {c : ConnectionId} {st st' : σ} {z : Exchange} {ps : List PendingWrite}

/-- What is asked once a transaction is started. -/
def Transacts (ps : List PendingWrite) (r : Request) : Prop :=
  r = .commit ∨ r = .rollback ∨ ∃ p ∈ ps, r = .write p.statement

theorem Transacts.mem_saving {r : Request} (h : Transacts ps r) : r ∈ saving ps := by
  rw [saving, List.mem_append, List.mem_append]
  rcases h with rfl | rfl | ⟨p, queued, rfl⟩
  · exact .inl (.inl (by simp))
  · exact .inl (.inl (by simp))
  · exact .inr (List.mem_map_of_mem queued)

/-- Writes use the tables that were prepared. -/
theorem Transacts.uses {x : Dialogue} {known : List TableName} (aligned : ∀ p ∈ ps, p.Aligned)
    (ready : ∀ m ∈ ps.map (·.mapping), m.table ∈ known) (h : ∀ e ∈ x, Transacts ps e.1) :
    x.Uses known := by
  intro e mem
  rcases h e mem with same | same | ⟨p, queued, same⟩
  · rw [same]
    exact ⟨rfl, fun _ among => absurd among List.not_mem_nil⟩
  · rw [same]
    exact ⟨rfl, fun _ among => absurd among List.not_mem_nil⟩
  · rw [same]
    refine ⟨(aligned p queued).uses, List.forall_mem_singleton.mpr ?_⟩
    rw [(aligned p queued).table]
    exact ready _ (List.mem_map_of_mem queued)

theorem Progress.writes_said {passed : List Step} {halt : Option Halt}
    (h : Progress store c (ps.map .write) st z st' passed halt) :
    ∃ x, Dialogue.exchange store.dialect x = z ∧ Said store c st x st' ∧
      ∀ e ∈ x, Transacts ps e.1 := by
  obtain ⟨x, same, said, steps⟩ := h.said
  refine ⟨x, same, said, fun e mem => ?_⟩
  obtain ⟨step, taken, asks⟩ := steps e mem
  obtain ⟨p, queued, rfl⟩ := List.mem_map.mp taken
  exact .inr (.inr ⟨p, queued, asks⟩)

theorem Undone.said {f : Failure} (h : Undone store c ps st z st' f) :
    ∃ x, Dialogue.exchange store.dialect x = z ∧ Said store c st x st' ∧
      ∀ e ∈ x, Transacts ps e.1 := by
  cases h with
  | write progress => exact progress.writes_said
  | timeout progress _ => exact progress.writes_said
  | @commit _ _ _ _ f progress answered =>
    obtain ⟨x, rfl, said, asks⟩ := progress.writes_said
    refine ⟨x ++ [(.commit, .failure f)], Dialogue.exchange_append,
      said.append (.single (r := .commit) answered), ?_⟩
    exact List.forall_mem_append.mpr ⟨asks, List.forall_mem_singleton.mpr (.inl rfl)⟩

/-- However a transaction ends, its connection is given back only if it is over. -/
theorem Conclusion.said {fate : Fate} {result : Except Halt Unit}
    (h : Conclusion store c ps st z st' fate result) :
    ∃ x, Dialogue.exchange store.dialect x = z ∧ Said store c st x st' ∧
      (∀ e ∈ x, Transacts ps e.1) ∧ (fate = .held ↔ result = .error .stalled) ∧
      (fate = .returned → ∀ b, x.inTransaction b = false) ∧
      (fate = .closed → ∃ e ∈ x, ∀ reply, e.2 ≠ .reply reply) := by
  cases h with
  | @committed _ _ _ reply _ progress answered =>
    obtain ⟨x, rfl, said, asks⟩ := progress.writes_said
    refine ⟨x ++ [(.commit, .reply reply)], Dialogue.exchange_append,
      said.append (.single (r := .commit) answered), ?_, ⟨nofun, nofun⟩,
      fun _ b => Dialogue.inTransaction_append, nofun⟩
    exact List.forall_mem_append.mpr ⟨asks, List.forall_mem_singleton.mpr (.inl rfl)⟩
  | commitStall progress answered =>
    obtain ⟨x, rfl, said, asks⟩ := progress.writes_said
    refine ⟨x ++ [(.commit, .never)], Dialogue.exchange_append,
      said.append (.single (r := .commit) answered), ?_, ⟨fun _ => rfl, fun _ => rfl⟩, nofun, nofun⟩
    exact List.forall_mem_append.mpr ⟨asks, List.forall_mem_singleton.mpr (.inl rfl)⟩
  | @rolledBack _ _ f answer _ undone answered =>
    obtain ⟨x, rfl, said, asks⟩ := undone.said
    refine ⟨x ++ [(.rollback, answer)], Dialogue.exchange_append,
      said.append (.single (r := .rollback) answered), ?_, ?_, ?_, ?_⟩
    · exact List.forall_mem_append.mpr ⟨asks, List.forall_mem_singleton.mpr (.inr (.inl rfl))⟩
    · cases answer <;> simp [fateOf, reported]
    · intro returned b
      rw [Dialogue.inTransaction_append]
      cases answer with
      | reply reply => rfl
      | failure f => cases returned
      | never => cases returned
    · intro closed
      refine ⟨_, List.mem_append_right _ List.mem_cons_self, fun reply same => ?_⟩
      rw [show answer = .reply reply from same] at closed
      cases closed
  | dropped progress _ =>
    obtain ⟨op, unanswered⟩ := progress.unanswered
    obtain ⟨x, rfl, said, asks⟩ := progress.writes_said
    obtain ⟨⟨r, answer⟩, mem, same⟩ := List.mem_map.mp unanswered
    obtain ⟨rfl, rfl⟩ := Prod.mk.inj same
    exact ⟨x, rfl, said, asks, ⟨nofun, nofun⟩, nofun, fun _ => ⟨_, mem, fun reply => nofun⟩⟩

/-- A save is conducted as it should be. -/
theorem Conversation.conducted {known made : List TableName} {fate : Fate} {result : Except Halt Unit}
    (aligned : ∀ p ∈ ps, p.Aligned)
    (h : Conversation store c (firstUses known (ps.map (·.mapping))) ps st z st' made fate result) :
    ∃ x, Dialogue.exchange store.dialect x = z ∧ Said store c st x st' ∧
      x.made = made ∧ Conducted (saving ps) known result x fate := by
  have mem_saving {x : Dialogue}
      (asked : ∀ e ∈ x, e.1 = .start ∨ ∃ m ∈ ps.map (·.mapping), e.1 = creation m) :
      ∀ e ∈ x, e.1 ∈ saving ps := by
    intro e mem
    rw [saving, List.mem_append, List.mem_append]
    rcases asked e mem with same | ⟨m, needed, same⟩
    · exact .inl (.inl (by simp [same]))
    · obtain ⟨p, queued, rfl⟩ := List.mem_map.mp needed
      exact .inl (.inr (List.mem_map.mpr ⟨p, queued, same.symm⟩))
  cases h with
  | unprepared progress =>
    obtain ⟨x, rfl, said, made, asked, orderly, started, -⟩ := progress.starts
    exact ⟨x, rfl, said, made, mem_saving asked, orderly, ⟨fun same => (by cases same), fun same => by cases same⟩,
      fun _ => started, fun same => by cases same⟩
  | preparationStall progress =>
    obtain ⟨x, rfl, said, made, asked, orderly, -, -⟩ := progress.starts
    exact ⟨x, rfl, said, made, mem_saving asked, orderly, ⟨fun _ => rfl, fun _ => rfl⟩,
      fun same => (by cases same), fun same => by cases same⟩
  | prepared progress conclusion =>
    obtain ⟨x, rfl, said, made, asked, orderly, started, prepared⟩ := progress.starts
    obtain ⟨goes_on, ready⟩ := prepared rfl
    obtain ⟨y, rfl, concluded, asks, held_iff, left, broken⟩ := conclusion.said
    have uses := Transacts.uses aligned ready asks
    refine ⟨x ++ y, Dialogue.exchange_append, said.append concluded, ?_, ?_, goes_on y uses, held_iff, ?_, ?_⟩
    · rw [Dialogue.made_append, uses.made, List.append_nil, made]
    · exact List.forall_mem_append.mpr ⟨mem_saving asked, fun e mem => (asks e mem).mem_saving⟩
    · intro returned
      rw [Dialogue.inTransaction_append]
      exact left returned _
    · intro closed
      obtain ⟨e, mem, failed⟩ := broken closed
      exact ⟨e, List.mem_append_right _ mem, failed⟩

end Saving

/-! ### Reads -/

namespace Store

variable {σ α : Type} {store : Store σ}

/-- A connection that nobody holds is taken, or else one is asked for, under a number of its own. -/
theorem acquire_cases (w : World σ) :
    (∃ c rest, w.idle = c :: rest ∧ store.acquire w = (.ok c, { w with idle := rest })) ∨
      ∃ result w', store.acquire w = (result, w') ∧ w'.idle = w.idle ∧ w'.tables = w.tables ∧
        w'.attempts = w.attempts + 1 ∧ ∀ c, result = .ok c → c = w.attempts := by
  rw [acquire]
  split
  next c rest idle => exact .inl ⟨c, rest, idle, rfl⟩
  · right
    rw [openConnection]
    rcases store.driver.connect w.attempts w.state with ⟨_ | f | _, st⟩
    · exact ⟨_, _, rfl, rfl, rfl, rfl, fun _ same => (Except.ok.inj same).symm⟩
    · exact ⟨_, _, rfl, rfl, rfl, rfl, fun _ same => by cases same⟩
    · dsimp only
      split <;> exact ⟨_, _, rfl, rfl, rfl, rfl, fun _ same => by cases same⟩

/-- Taking a connection makes no tables. -/
theorem acquire_tables (w : World σ) : (store.acquire w).2.tables = w.tables := by
  rcases store.acquire_cases w with ⟨c, rest, -, acquired⟩ | ⟨result, w', acquired, -, tables, -⟩
  · rw [acquired]
  · rw [acquired, tables]

/-- A read gives its connection back when it ends. -/
def fateIn : Except Halt α → Fate
  | .error .stalled => .held
  | .error (.failed _) | .ok _ => .returned

theorem fateIn_eq_held {result : Except Halt α} : fateIn result = .held ↔ result = .error .stalled := by
  rcases result with (f | _) | a <;> simp [fateIn]

theorem fateIn_ne_closed {result : Except Halt α} : fateIn result ≠ .closed := by
  rcases result with (f | _) | a <;> nofun

theorem withConnection_apply {t : ConnectionId → Task σ α} {w w₁ w₂ : World σ} {c : ConnectionId}
    {result : Except Halt α} (acquired : store.acquire w = (.ok c, w₁)) (ran : t c w₁ = (result, w₂)) :
    store.withConnection t w = (result, (fateIn result).leave c w₂) := by
  rw [withConnection, Task.bind_ok acquired, Task.bind_apply, releasing_apply, ran]
  rcases result with (f | _) | a <;> rfl

/-- A command that answers rows is sent once, if at all. -/
theorem query_said (c : ConnectionId) (ss : List Statement) (w : World σ) :
    ∃ result x st, Said store c w.state x st ∧ (∀ e ∈ x, e.1 = .read ss) ∧
      store.query c (.ofStatements store.dialect ss) w =
        (result, w.after c (Dialogue.exchange store.dialect x) st []) := by
  cases checked : store.checkParameters (.ofStatements store.dialect ss) with
  | error f =>
    refine ⟨.error (.failed f), [], w.state, .nil, fun _ mem => absurd mem List.not_mem_nil, ?_⟩
    rw [query, checked, Dialogue.exchange, List.map_nil, World.after_nil]
    rfl
  | ok admitted =>
    obtain ⟨answer, st, answered⟩ : ∃ answer st, store.driver.perform c
        (.query (.ofStatements store.dialect ss)) w.state = (answer, st) := ⟨_, _, rfl⟩
    have asked : ∀ e ∈ ([(.read ss, answer)] : Dialogue), e.1 = .read ss :=
      List.forall_mem_singleton.mpr rfl
    have run : store.query c (.ofStatements store.dialect ss) w =
        (answer.toExcept.bind fun reply => reply.toSets.mapError .failed,
          w.after c [(.query (.ofStatements store.dialect ss), answer)] st []) := by
      have passed : (Task.ofOutcome (store.checkParameters
          (.ofStatements store.dialect ss)) : Task σ Unit) w = (.ok (), w) := by
        rw [checked]
        rfl
      rw [query, Task.bind_ok passed, Task.bind_apply, perform_apply, answered]
      rcases answer with reply | f | _
      · exact Task.ofOutcome_apply _ _
      · rfl
      · rfl
    exact ⟨_, [(.read ss, answer)], st, .single (r := .read ss) answered, asked, run⟩

/-- A read makes the tables that it needs, sends its command, and gives its connection back if it ends. -/
theorem fetch_goes (store : Store σ) {ms : List Mapping} {ss : List Statement} (w : World σ)
    (there : ∀ s ∈ ss, ∃ m ∈ ms, s.table = m.table) :
    Goes store (.read ss :: ms.map creation) (store.fetch ms (.ofStatements store.dialect ss) w).1 w
      (store.fetch ms (.ofStatements store.dialect ss) w).2 := by
  rcases acquired : store.acquire w with ⟨halt | c, w₁⟩
  · have ended : store.fetch ms (.ofStatements store.dialect ss) w = (.error halt, w₁) :=
      Task.bind_error acquired
    rw [ended]
    exact ⟨.refused, .refused acquired, nofun⟩
  · have known : w₁.tables = w.tables := by
      rw [← acquire_tables w, acquired]
    obtain ⟨z, st, passed, halt, progress, run⟩ : Saving.Takes store c _ _ w₁ := .tables ms
    obtain ⟨x, rfl, said, made, prepares⟩ := progress.prepares
    rw [known] at prepares
    have asked : ∀ e ∈ x, e.1 ∈ Request.read ss :: ms.map creation := by
      intro e mem
      obtain ⟨m, needed, same⟩ := prepares.asked e mem
      rw [same]
      exact List.mem_cons_of_mem _ (List.mem_map_of_mem needed)
    -- what the task on the connection comes to is what the read comes to
    have fetched {result : Except Halt Cursor} {w₂ : World σ}
        (ran : (do store.ensureTables c ms; store.query c (.ofStatements store.dialect ss)) w₁ =
          (result, w₂)) :
        store.fetch ms (.ofStatements store.dialect ss) w = (result, (fateIn result).leave c w₂) :=
      withConnection_apply acquired ran
    cases halt with
    | some halt =>
      rw [fetched (Task.bind_error run), ← made]
      refine ⟨_, .on acquired said, ?_⟩
      rintro _ _ _ ⟨⟩
      exact ⟨asked, prepares.orderly, fateIn_eq_held, fun _ => prepares.inTransaction,
        fun closed => absurd closed fateIn_ne_closed⟩
    | none =>
      obtain ⟨result, y, st', reads, asks, queried⟩ := query_said c ss
        (w₁.after c (Dialogue.exchange store.dialect x) st (Saving.tablesOf passed))
      have uses : Dialogue.Uses (x.made ++ w.tables) y := by
        intro e mem
        rw [asks e mem]
        refine ⟨rfl, fun s among => ?_⟩
        obtain ⟨m, needed, same⟩ := there s among
        rw [same]
        exact prepares.ready rfl m needed
      have made_all : Dialogue.made (x ++ y) = Saving.tablesOf passed ++ [] := by
        rw [Dialogue.made_append, uses.made, made]
      rw [fetched ((Task.bind_ok run).trans queried), World.after_after, ← made_all,
        ← Dialogue.exchange_append]
      refine ⟨_, .on acquired (said.append reads), ?_⟩
      rintro _ _ _ ⟨⟩
      refine ⟨?_, prepares.goes_on rfl y uses, fateIn_eq_held, fun _ => ?_,
        fun closed => absurd closed fateIn_ne_closed⟩
      · refine List.forall_mem_append.mpr ⟨asked, fun e mem => ?_⟩
        rw [asks e mem]
        exact List.mem_cons_self
      · rw [Dialogue.inTransaction_append, prepares.inTransaction]
        refine Dialogue.inTransaction_of_within fun ⟨r, answer⟩ mem => ?_
        obtain rfl := asks _ mem
        rfl

end Store

/-! ### Calls -/

section

variable {σ α β : Type} {store : Store σ} {requests : List Request} {w w' : World σ}

/-- A call that does nothing with the connections. -/
theorem Goes.nowhere (requests : List Request) (result : Except Halt α) (w : World σ) :
    Goes store requests result w w :=
  ⟨.none, .none, nofun⟩

/-- It matters only whether the call ends. -/
theorem Goes.congr {result : Except Halt α} {result' : Except Halt β} (h : Goes store requests result w w')
    (same : result = .error .stalled ↔ result' = .error .stalled) : Goes store requests result' w w' := by
  obtain ⟨v, visits, conducted⟩ := h
  refine ⟨v, visits, fun c x fate on => ?_⟩
  obtain ⟨asked, orderly, held_iff, outside, broken⟩ := conducted c x fate on
  exact ⟨asked, orderly, held_iff.trans same, outside, broken⟩

namespace Session

/-- Every plan of a read reads the table of its mapping. -/
theorem run_goes {p : Plan α} (table : p.selection.table = p.mapping.table) (s : Session) (w : World σ) :
    Goes store (reading [p]) (s.run store p w).result w (s.run store p w).world := by
  have there : ∀ st ∈ [p.statement], ∃ m ∈ [p.mapping], st.table = m.table :=
    List.forall_mem_singleton.mpr ⟨p.mapping, List.mem_cons_self, table⟩
  have goes := Store.fetch_goes store w there
  rw [Command.ofStatements_singleton] at goes
  rcases fetched : store.fetch [p.mapping] (.ofStatement store.dialect p.statement) w with
    ⟨halt | cursor, w'⟩
  · rw [fetched] at goes
    simp only [run, fetched]
    exact goes.congr ⟨fun same => by cases same; rfl, fun same => by cases same; rfl⟩
  · rw [fetched] at goes
    simp only [run, fetched]
    refine goes.congr ⟨fun same => (by cases same), fun same => ?_⟩
    cases answer : (p.readSet cursor.takeCurrent.1 s.versions).1 <;> simp [answer, Except.mapError] at same

/-- So does every plan of a batch, which is sent as one command. -/
theorem execute_goes {b : Batch α} (tables : ∀ p ∈ b.plans, p.selection.table = p.mapping.table)
    (s : Session) (w : World σ) :
    Goes store (reading b.plans) (b.execute store s w).result w (b.execute store s w).world := by
  rw [Batch.execute]
  split
  · exact .nowhere _ _ w
  · have there : ∀ st ∈ b.plans.map (·.statement), ∃ m ∈ b.plans.map (·.mapping), st.table = m.table := by
      refine List.forall_mem_map.mpr fun p mem => ⟨p.mapping, List.mem_map_of_mem mem, tables p mem⟩
    have goes := Store.fetch_goes store w there
    rw [← show b.command store.schema = .ofStatements store.dialect (b.plans.map (·.statement)) from
      b.command_eq _, List.map_map] at goes
    generalize store.fetch (b.plans.map (·.mapping)) (b.command store.schema) w = fetched at goes ⊢
    rcases fetched with ⟨(f | _) | cursor, w'⟩
    · exact goes.congr ⟨fun same => (by cases same), fun same => by cases same⟩
    · exact goes.congr ⟨fun _ => rfl, fun _ => rfl⟩
    · exact goes.congr ⟨fun same => (by cases same), fun same => by cases same⟩

/-- A save with nothing to save does nothing. -/
theorem saveChanges_nothing {s : Session} (nothing : s.pending = []) (w : World σ) :
    s.saveChanges store w = ⟨.ok (), s, w⟩ := by
  simp only [saveChanges, save, nothing]
  rfl

theorem saveChanges_goes {s : Session} (aligned : s.Aligned) (w : World σ) :
    Goes store (saving s.pending) (s.saveChanges store w).result w (s.saveChanges store w).world := by
  by_cases nothing : s.pending = []
  · rw [saveChanges_nothing nothing]
    exact .nowhere _ _ w
  · rcases acquired : store.acquire w with ⟨halt | c, w₁⟩
    · rw [saveChanges_unconnected nothing acquired]
      exact ⟨.refused, .refused acquired, nofun⟩
    · obtain ⟨z, st, made, fate, result, conversation, saved⟩ := save_conversation nothing acquired
      have known : w₁.tables = w.tables := by
        rw [← Store.acquire_tables w, acquired]
      rw [known] at conversation
      obtain ⟨x, rfl, said, rfl, conducted⟩ := conversation.conducted aligned
      have ended : (s.saveChanges store w).result = result ∧ (s.saveChanges store w).world =
          fate.leave c (w₁.after c (Dialogue.exchange store.dialect x) st x.made) := by
        rw [saveChanges, saved]
        cases result <;> exact ⟨rfl, rfl⟩
      rw [ended.1, ended.2]
      refine ⟨_, .on acquired said, ?_⟩
      rintro _ _ _ ⟨⟩
      exact conducted

/-- Every call visits the database once at most, and conducts itself there. -/
theorem perform_goes (store : Store σ) {s : Session} (aligned : s.Aligned) (call : Call) (w : World σ) :
    Goes store (call.requests store.schema s) (s.perform store call w).result w
      (s.perform store call w).world := by
  have queues (x : Outcome Session) :
      Goes store [] (s.queued w x).result w (s.queued w x).world := by
    cases x <;> exact .nowhere _ _ w
  cases call with
  | read t r =>
    by_cases nothing : r = .loadMany []
    · subst nothing
      exact .nowhere _ _ w
    · rw [perform_read store nothing]
      cases planned : r.plan s store.schema t with
      | error f => exact .nowhere _ _ w
      | ok p =>
        simp only [Call.requests, planned]
        have sees := Read.plan_sees planned
        refine (run_goes (sees.table.trans (congrArg _ sees.mapping.symm)) s w).congr ?_
        show _ ↔ (s.run store p w).result.map Told.found = _
        rcases (s.run store p w).result with (f | _) | a <;> simp [Except.map]
  | batch items =>
    have tables : ∀ p ∈ (s.batchOf store.schema items).plans, p.selection.table = p.mapping.table := by
      intro p mem
      obtain ⟨item, -, planned⟩ := exists_of_mem_batchOf mem
      have sees := Read.plan_sees planned
      exact sees.table.trans (congrArg _ sees.mapping.symm)
    refine (execute_goes tables s w).congr ?_
    simp only [perform]
    rcases ((s.batchOf store.schema items).execute store s w).result with (f | _) | a <;> simp [Except.map]
  | save =>
    refine (saveChanges_goes aligned w).congr ?_
    show _ ↔ (s.saveChanges store w).result.map (fun _ => Told.nothing) = _
    rcases (s.saveChanges store w).result with (f | _) | a <;> simp [Except.map]
  | insert t now doc => exact queues _
  | update t now doc => exact queues _
  | store t now doc => exact queues _
  | delete t now id => exact queues _
  | hardDelete t id => exact queues _
  | deleteWhere t now e => exact queues _
  | undeleteWhere t e => exact queues _
  | discard => exact queues _

end Session

end

end Folio
