import Folio.Database.Script
import Folio.Proofs.Session.Conversation
import Folio.Session.Read

/-!
# Folio.Proofs.Session.Saving

Every save is a conversation, whatever the driver answers: `Store.transact` concludes as
`Conclusion` says, and what comes before it is the `preparation`.
-/

namespace Folio

open Folio.Database
open Folio.Sql (TableName)
open Folio.Statement (Command)

variable {σ : Type}

namespace Saving

/-- How a task ends that stops where its steps stop. -/
def ending : Option Halt → Except Halt Unit
  | none => .ok ()
  | some h => .error h

/-! ### Progress -/

section

variable {store : Store σ} {c : ConnectionId} {steps more : List Step} {st st₁ st₂ : σ}
  {x y : Exchange} {passed others : List Step} {halt : Option Halt}

/-- Steps that all pass, and then more. -/
theorem Progress.append (h : Progress store c steps st x st₁ passed none)
    (rest : Progress store c more st₁ y st₂ others halt) :
    Progress store c (steps ++ more) st (x ++ y) st₂ (passed ++ others) halt := by
  -- the end is generalized, so that the steps that fail can be told apart
  generalize ended : (none : Option Halt) = e at h
  induction h with
  | done => exact rest
  | passed admitted answered accepted _ ih =>
    exact .passed admitted answered accepted (ih rest ended)
  | failed => cases ended
  | refused => cases ended

/-- Steps of which one fails end where they failed, whatever was to come. -/
theorem Progress.append_halted {e : Halt} (h : Progress store c steps st x st₁ passed (some e)) :
    Progress store c (steps ++ more) st x st₁ passed (some e) := by
  generalize ended : some e = o at h
  induction h with
  | done => cases ended
  | passed admitted answered accepted _ ih =>
    exact .passed admitted answered accepted (ih ended)
  | failed admitted answered rejected => exact .failed admitted answered rejected
  | refused tooLong => exact .refused tooLong

/-- If all steps pass, so does the first. -/
theorem Progress.cons_inv {step : Step} (h : Progress store c (step :: steps) st x st₂ passed none) :
    ∃ answer st₁ y others, store.driver.perform c (operation store step) st = (answer, st₁) ∧
      verdict step answer = .ok () ∧ Progress store c steps st₁ y st₂ others none := by
  cases h with
  | passed _ answered accepted later => exact ⟨_, _, _, _, answered, accepted, later⟩

/-- Steps that all pass do so one part after the other. -/
theorem Progress.append_inv (h : Progress store c (steps ++ more) st x st₂ passed none) :
    ∃ st₁ y z former later, Progress store c steps st y st₁ former none ∧
      Progress store c more st₁ z st₂ later none := by
  induction steps generalizing st x passed with
  | nil => exact ⟨st, [], x, [], passed, .done, h⟩
  | cons step rest ih =>
    cases h with
    | passed admitted answered accepted later =>
      obtain ⟨st₁, y, z, former, later, first, second⟩ := ih later
      exact ⟨st₁, _, z, _, later, .passed admitted answered accepted first, second⟩

/-- Nothing is left open: the same steps on the same connection go the same way. -/
theorem Progress.unique {st₁' : σ} {passed' : List Step} {halt' : Option Halt}
    (h : Progress store c steps st x st₁ passed halt)
    (h' : Progress store c steps st y st₁' passed' halt') :
    x = y ∧ st₁ = st₁' ∧ passed = passed' ∧ halt = halt' := by
  induction h generalizing y st₁' passed' halt' with
  | done =>
    cases h'
    exact ⟨rfl, rfl, rfl, rfl⟩
  | passed admitted answered accepted _ ih =>
    cases h' with
    | passed _ answered' _ later =>
      obtain ⟨rfl, rfl⟩ := Prod.mk.inj (answered.symm.trans answered')
      obtain ⟨rfl, rfl, rfl, rfl⟩ := ih later
      exact ⟨rfl, rfl, rfl, rfl⟩
    | failed _ answered' rejected =>
      obtain ⟨rfl, rfl⟩ := Prod.mk.inj (answered.symm.trans answered')
      cases accepted.symm.trans rejected
    | refused tooLong => cases admitted.symm.trans tooLong
  | failed admitted answered rejected =>
    cases h' with
    | passed _ answered' accepted =>
      obtain ⟨rfl, rfl⟩ := Prod.mk.inj (answered.symm.trans answered')
      cases rejected.symm.trans accepted
    | failed _ answered' rejected' =>
      obtain ⟨rfl, rfl⟩ := Prod.mk.inj (answered.symm.trans answered')
      cases rejected.symm.trans rejected'
      exact ⟨rfl, rfl, rfl, rfl⟩
    | refused tooLong => cases admitted.symm.trans tooLong
  | refused tooLong =>
    cases h' with
    | passed admitted => cases tooLong.symm.trans admitted
    | failed admitted => cases tooLong.symm.trans admitted
    | refused tooLong' =>
      cases tooLong.symm.trans tooLong'
      exact ⟨rfl, rfl, rfl, rfl⟩

/-- Steps pass from the first on. -/
theorem Progress.passed_isPrefix (h : Progress store c steps st x st₁ passed halt) :
    passed <+: steps := by
  induction h with
  | done => exact List.prefix_refl []
  | passed _ _ _ _ ih => exact List.cons_prefix_cons.mpr ⟨rfl, ih⟩
  | failed => exact List.nil_prefix
  | refused => exact List.nil_prefix

theorem tablesOf_append (steps more : List Step) :
    tablesOf (steps ++ more) = tablesOf steps ++ tablesOf more :=
  List.filterMap_append

/-- Writes make no tables. -/
theorem tablesOf_writes {writes : List PendingWrite} (h : passed <+: writes.map .write) :
    tablesOf passed = [] := by
  rw [tablesOf, List.filterMap_eq_nil_iff]
  intro step mem
  obtain ⟨p, _, rfl⟩ := List.mem_map.mp (h.subset mem)
  rfl

end

/-! ### Verdicts -/

/-- What the end of its command means for a queued write. -/
def judged (p : PendingWrite) : Except Halt Nat → Except Halt Unit
  | .ok n => (p.judge (.ok n)).mapError .failed
  | .error (.failed f) => (p.judge (.error f)).mapError .failed
  | .error .stalled => .error .stalled

/-- Only a duplicate key is told otherwise than as it came. -/
theorem judged_refusal {p : PendingWrite} {f : Failure} (h : f.isDuplicateKey = false) :
    judged p (.error (.failed f)) = .error (.failed f) := by
  cases kind : p.kind <;> simp [judged, PendingWrite.judge, kind, h, Except.mapError]

/-- The verdict on an answer is what the count in it means. -/
theorem judged_answer (p : PendingWrite) (answer : Answer Reply) :
    judged p (answer.toExcept.bind fun reply => reply.toCount.mapError .failed) =
      p.verdict answer := by
  rcases answer with (n | cursor) | f | _
  · rcases n with _ | n
    · rcases kind : p.kind with _ | ⟨_, _ | _⟩ | ⟨_, _ | _⟩ | _ | _ <;>
        simp [judged, PendingWrite.judge, PendingWrite.verdict, kind, Answer.toExcept,
          Except.bind, Reply.toCount, Except.mapError, fail]
    · rfl
  · exact judged_refusal rfl
  · by_cases duplicate : f.isDuplicateKey
    · cases kind : p.kind <;>
        simp [judged, PendingWrite.judge, PendingWrite.verdict, kind, Answer.toExcept,
          Except.bind, Except.mapError, duplicate, fail]
    · rw [Answer.toExcept, Except.bind, judged_refusal (Bool.eq_false_iff.mpr duplicate)]
      cases kind : p.kind <;> simp [PendingWrite.verdict, kind, duplicate]
  · rfl

theorem judge_of_verdict {p : PendingWrite} {n : Nat}
    (h : p.verdict (.reply (.count n)) = .ok ()) : p.judge (.ok n) = .ok () := by
  rw [← judged_answer] at h
  change (p.judge (.ok n)).mapError _ = _ at h
  cases ruling : p.judge (.ok n) with
  | ok => rfl
  | error f =>
    rw [ruling] at h
    cases h

/-- A failure is never taken for a success. -/
theorem verdict_failure_ne_ok (p : PendingWrite) (f : Failure) :
    p.verdict (.failure f) ≠ .ok () := by
  cases kind : p.kind with
  | insert id => by_cases duplicate : f.isDuplicateKey <;> simp [PendingWrite.verdict, kind, duplicate]
  | _ => simp [PendingWrite.verdict, kind]

/-- The statement that makes a table binds no values. -/
theorem createCommand_checked (store : Store σ) (m : Mapping) :
    store.checkParameters (store.createCommand m) = .ok () := by
  rw [Store.checkParameters, if_neg]
  exact Nat.not_lt_zero _

/-! ### Tasks that take steps -/

section

variable (store : Store σ) (c : ConnectionId)

/-- The task takes these steps on the connection, up to the first that fails. -/
def Takes (t : Task σ Unit) (steps : List Step) (w : World σ) : Prop :=
  ∃ x st passed halt, Progress store c steps w.state x st passed halt ∧
    t w = (ending halt, w.after c x st (tablesOf passed))

variable {store c} {t t' : Task σ Unit} {steps more : List Step} {w : World σ}

theorem Takes.pure : Takes store c (pure ()) [] w :=
  ⟨[], w.state, [], none, .done, by rw [tablesOf, List.filterMap_nil, World.after_nil]; rfl⟩

/-- One task after another takes the steps of both. -/
theorem Takes.bind (h : Takes store c t steps w)
    (rest : ∀ w', Takes store c t' more w') :
    Takes store c (t >>= fun _ => t') (steps ++ more) w := by
  obtain ⟨x, st, passed, halt, progress, run⟩ := h
  cases halt with
  | some e => exact ⟨x, st, passed, some e, progress.append_halted, Task.bind_error run⟩
  | none =>
    obtain ⟨y, st', others, halt, progress', run'⟩ := rest (w.after c x st (tablesOf passed))
    refine ⟨x ++ y, st', passed ++ others, halt, progress.append progress', ?_⟩
    rw [Task.bind_ok run, run', World.after_after, ← tablesOf_append]

/-- The tables that a step makes if it passes. -/
def gained (step : Step) (answer : Answer Reply) : List TableName :=
  match verdict step answer with
  | .ok () => tablesOf [step]
  | .error _ => []

/-- A task that sends one step and goes by the verdict on the answer. -/
theorem Takes.single {step : Step} (admitted : refusal store step = none)
    (run : ∀ answer st₁, store.driver.perform c (operation store step) w.state = (answer, st₁) →
      t w = (verdict step answer,
        w.after c [(operation store step, answer)] st₁ (gained step answer))) :
    Takes store c t [step] w := by
  obtain ⟨answer, st₁, sent⟩ :
      ∃ answer st₁, store.driver.perform c (operation store step) w.state = (answer, st₁) :=
    ⟨_, _, rfl⟩
  have ran := run answer st₁ sent
  rw [gained] at ran
  match judged : verdict step answer with
  | .ok () =>
    rw [judged] at ran
    exact ⟨_, st₁, [step], none, .passed admitted sent judged .done, ran⟩
  | .error e =>
    rw [judged] at ran
    exact ⟨_, st₁, [], some e, .failed admitted sent judged, ran⟩

/-- A queued write is judged by how its command ended. -/
theorem applyWrite_apply (p : PendingWrite) :
    store.applyWrite c p w =
      (judged p (store.execute c (command store p) w).1,
        (store.execute c (command store p) w).2) := by
  rw [Store.applyWrite, Task.bind_ok (Task.ending_apply _ _), ← command]
  rcases store.execute c (command store p) w with ⟨(f | _) | n, w⟩
  · exact Task.ofOutcome_apply _ _
  · rfl
  · exact Task.ofOutcome_apply _ _

theorem Takes.write (p : PendingWrite) :
    Takes store c (store.applyWrite c p) [.write p] w := by
  by_cases tooMany : store.driver.capability.maxParameters < (command store p).params.length
  -- the write fails without having been sent
  · have tooLong : store.checkParameters (command store p) = .error _ := if_pos tooMany
    have unsent := Store.execute_refused store tooLong c w
    refine ⟨[], w.state, [], some _, .refused (if_pos tooMany), ?_⟩
    rw [applyWrite_apply, unsent, judged_refusal rfl, tablesOf, List.filterMap_nil,
      World.after_nil]
    rfl
  · have checked : store.checkParameters (command store p) = .ok () := if_neg tooMany
    have sent := Store.execute_apply store checked c w
    refine Takes.single (if_neg tooMany) fun answer st₁ answered => ?_
    rw [operation] at answered
    have none_made : gained (.write p) answer = [] := by
      rw [gained]
      split <;> rfl
    rw [applyWrite_apply, sent, answered, judged_answer, none_made]
    rfl

theorem Takes.create (m : Mapping) :
    Takes store c (do
      let _ ← store.execute c (store.createCommand m)
      modify fun w => { w with tables := w.tables ++ [m.table] }) [.create m] w := by
  have sent := Store.execute_apply store (createCommand_checked store m) c w
  refine Takes.single rfl fun answer st₁ answered => ?_
  rw [operation] at answered
  rw [Task.bind_apply, sent, answered]
  rcases answer with (n | cursor) | f | _
  · simp [Answer.toExcept, Except.bind, Reply.toCount, Except.mapError, gained, verdict,
      operation, tablesOf, Step.table?, World.after]
  · rfl
  · rfl
  · rfl

theorem Takes.writes (ps : List PendingWrite) :
    Takes store c (store.applyWrites c ps) (ps.map .write) w := by
  induction ps generalizing w with
  | nil => exact .pure
  | cons p rest ih => exact (Takes.write p).bind fun _ => ih

theorem Takes.creates (ms : List Mapping) :
    Takes store c (store.createTables c ms) (ms.map .create) w := by
  induction ms generalizing w with
  | nil => exact .pure
  | cons m rest ih =>
    have created : Takes store c _ [.create m] w := .create m
    have all := created.bind fun _ => ih
    rw [bind_assoc] at all
    exact all

/-- The tables that are made are those that are first needed and not known. -/
theorem filter_distinctTables (known : List TableName) (ms : List Mapping) :
    (Store.distinctTables ms).filter (!known.contains ·.table) = firstUses known ms := by
  induction ms generalizing known with
  | nil => rfl
  | cons m rest ih =>
    rw [Store.distinctTables, firstUses]
    split
    next mem =>
      rw [List.filter_cons_of_neg (by simpa using mem), List.filter_filter, ← ih]
      refine List.filter_congr fun n _ => ?_
      by_cases same : n.table = m.table <;> simp [same, mem]
    next unknown =>
      rw [List.filter_cons_of_pos (by simpa using unknown), List.filter_filter, ← ih]
      congr 1
      refine List.filter_congr fun n _ => ?_
      by_cases same : n.table = m.table <;> simp [same]

theorem Takes.tables (ms : List Mapping) :
    Takes store c (store.ensureTables c ms) ((firstUses w.tables ms).map .create) w := by
  rw [← filter_distinctTables]
  exact .creates _

/-! ### The end of a transaction -/

/-- Writes that are undone are rolled back, and the save reports why. -/
theorem rollBack_throw {answer : Answer Reply} {st : σ}
    (answered : store.driver.perform c .rollback w.state = (answer, st)) (f : Failure) :
    (do store.rollBack c; throw (.failed f) : Task σ Unit) w =
      (reported f answer, (fateOf answer).leave c (w.after c [(.rollback, answer)] st [])) := by
  rw [Task.bind_apply, Store.rollBack, Task.bind_ok (Task.ending_apply _ _), Store.perform_apply,
    answered]
  rcases answer with reply | f | _ <;> rfl

/-- A task that came to this end has concluded a transaction started in `w₀`. -/
def Concludes (store : Store σ) (c : ConnectionId) (ps : List PendingWrite) (w₀ : World σ)
    (ended : Except Halt Unit × World σ) : Prop :=
  ∃ x st fate result, Conclusion store c ps w₀.state x st fate result ∧
    ended = (result, fate.leave c (w₀.after c x st []))

theorem concludes_rollBack {ps : List PendingWrite} {x : Exchange} {st : σ} {f : Failure}
    (undone : Undone store c ps w.state x st f) :
    Concludes store c ps w
      ((do store.rollBack c; throw (.failed f) : Task σ Unit) (w.after c x st [])) := by
  obtain ⟨answer, st₁, answered⟩ :
      ∃ answer st₁, store.driver.perform c .rollback st = (answer, st₁) := ⟨_, _, rfl⟩
  refine ⟨_, st₁, _, _, .rolledBack undone answered, ?_⟩
  rw [rollBack_throw (w := w.after c x st []) answered, World.after_after]
  rfl

/-- Once started, a transaction is concluded. -/
theorem transact_concludes (ps : List PendingWrite) {reply : Reply} {st : σ}
    (started : store.driver.perform c .start w.state = (.reply reply, st)) :
    Concludes store c ps (w.after c [(.start, .reply reply)] st []) (store.transact c ps w) := by
  have start : Store.releasing c (store.perform c .start) w =
      (.ok reply, w.after c [(.start, .reply reply)] st []) := by
    rw [Store.releasing_apply, Store.perform_apply, started]
    rfl
  rw [Store.transact, Task.bind_ok start]
  generalize w.after c [(.start, .reply reply)] st [] = w₁
  obtain ⟨x, st₁, passed, halt, progress, run⟩ : Takes store c _ _ w₁ := .writes ps
  have writes : (store.applyWrites c ps).ending w₁ = (.ok (ending halt), w₁.after c x st₁ []) := by
    rw [Task.ending_apply, run, tablesOf_writes progress.passed_isPrefix]
  rw [Task.bind_ok writes]
  rcases halt with _ | f | _
  -- all writes passed: the answer to the commit decides
  · obtain ⟨answer, st₂, answered⟩ :
        ∃ answer st₂, store.driver.perform c .commit st₁ = (answer, st₂) := ⟨_, _, rfl⟩
    have commit : (store.perform c .commit).ending (w₁.after c x st₁ []) =
        (.ok answer.toExcept, w₁.after c (x ++ [(.commit, answer)]) st₂ []) := by
      rw [Task.ending_apply, Store.perform_apply, World.after_state, answered, World.after_after]
      rfl
    simp only [ending]
    rw [Task.bind_ok commit]
    rcases answer with reply | f | _
    · exact ⟨_, st₂, _, _, .committed progress answered, rfl⟩
    · exact concludes_rollBack (.commit progress answered)
    · exact ⟨_, st₂, _, _, .commitStall progress answered, rfl⟩
  · exact concludes_rollBack (.write progress)
  -- the writes took too long: what is left to say depends on the driver
  · cases safe : store.driver.capability.cancelSafe
    · exact ⟨x, st₁, _, _, .dropped progress safe, rfl⟩
    · have undone := concludes_rollBack (.timeout progress safe)
      simpa [ending, safe] using undone

/-- A transaction that cannot be started ends the save. -/
theorem transact_unstarted (ps : List PendingWrite) {f : Failure} {st : σ}
    (rejected : store.driver.perform c .start w.state = (.failure f, st)) :
    store.transact c ps w =
      (.error (.failed f), (w.after c [(.start, .failure f)] st []).giveBack c) := by
  rw [Store.transact, Task.bind_error]
  rw [Store.releasing_apply, Store.perform_apply, rejected]
  rfl

theorem transact_stalled (ps : List PendingWrite) {st : σ}
    (stalled : store.driver.perform c .start w.state = (.never, st)) :
    store.transact c ps w = (.error .stalled, w.after c [(.start, .never)] st []) := by
  rw [Store.transact, Task.bind_error]
  rw [Store.releasing_apply, Store.perform_apply, stalled]
  rfl

/-- Once the tables are made, the transaction is the rest of the conversation. -/
theorem transact_conversation (ps : List PendingWrite) {missing : List Mapping} {x : Exchange}
    {st : σ} {passed : List Step}
    (created : Progress store c (missing.map .create) w.state x st passed none) :
    ∃ y st' made fate result,
      Conversation store c missing ps w.state y st' made fate result ∧
      store.transact c ps (w.after c x st (tablesOf passed)) =
        (result, fate.leave c (w.after c y st' made)) := by
  obtain ⟨answer, st₁, answered⟩ :
      ∃ answer st₁, store.driver.perform c .start st = (answer, st₁) := ⟨_, _, rfl⟩
  have admitted : refusal store .start = none := rfl
  rcases answer with reply | f | _
  · obtain ⟨y, st₂, fate, result, conclusion, run⟩ :=
      transact_concludes (w := w.after c x st (tablesOf passed)) ps answered
    have prepared := created.append (.passed admitted answered rfl .done)
    -- the start of a transaction makes no table
    have made : tablesOf (passed ++ [.start]) = tablesOf passed := by
      rw [tablesOf_append]
      exact List.append_nil _
    refine ⟨_, st₂, _, fate, result, .prepared prepared conclusion, ?_⟩
    rw [run, made]
    simp only [World.after_after, List.append_nil, List.append_assoc, operation]
  · have unstarted : Progress store c [.start] st _ st₁ [] (some (.failed f)) :=
      .failed admitted answered rfl
    refine ⟨_, st₁, _, _, _, .unprepared (created.append unstarted), ?_⟩
    rw [transact_unstarted (w := w.after c x st (tablesOf passed)) ps answered]
    simp only [World.after_after, List.append_nil]
    rfl
  · have stalled : Progress store c [.start] st _ st₁ [] (some .stalled) :=
      .failed admitted answered rfl
    refine ⟨_, st₁, _, _, _, .preparationStall (created.append stalled), ?_⟩
    rw [transact_stalled (w := w.after c x st (tablesOf passed)) ps answered]
    simp only [World.after_after, List.append_nil]
    rfl

end

end Saving

namespace Session

open Saving

/-- Saves all queued writes. Unless that succeeds the session is as before. -/
def saveChanges (store : Store σ) (s : Session) (w : World σ) : Ended σ Unit :=
  match s.save store w with
  | (.ok s', w) => ⟨.ok (), s', w⟩
  | (.error halt, w) => ⟨.error halt, s, w⟩

/-- Without a connection nothing is saved. -/
theorem saveChanges_unconnected {store : Store σ} {s : Session} (queued : s.pending ≠ [])
    {w w' : World σ} {halt : Halt} (acquired : store.acquire w = (.error halt, w')) :
    s.saveChanges store w = ⟨.error halt, s, w'⟩ := by
  have unempty : ¬s.pending.isEmpty = true := by simpa using queued
  have unsaved : s.save store w = (.error halt, w') := by
    rw [save, if_neg unempty, Task.bind_error acquired]
  rw [saveChanges, unsaved]

/-- On its connection a save is a conversation. -/
theorem save_conversation {store : Store σ} {s : Session} (queued : s.pending ≠ [])
    {w w' : World σ} {c : ConnectionId} (acquired : store.acquire w = (.ok c, w')) :
    ∃ x st made fate result,
      Conversation store c (firstUses w'.tables (s.pending.map (·.mapping))) s.pending w'.state
        x st made fate result ∧
      s.save store w = (result.map fun _ => s.saved, fate.leave c (w'.after c x st made)) := by
  have unempty : ¬s.pending.isEmpty = true := by simpa using queued
  rw [save, if_neg unempty, Task.bind_ok acquired]
  obtain ⟨x, st, passed, halt, created, run⟩ :
    Takes store c _ _ w' := .tables (s.pending.map (·.mapping))
  rcases halt with _ | f | _
  · have ensured : Store.releasing c (store.ensureTables c (s.pending.map (·.mapping))) w' =
        (.ok (), w'.after c x st (tablesOf passed)) := by
      rw [Store.releasing_apply, run]
      rfl
    obtain ⟨y, st', made, fate, result, conversation, ended⟩ :=
      transact_conversation s.pending created
    refine ⟨y, st', made, fate, result, conversation, ?_⟩
    rw [Task.bind_ok ensured, Task.bind_pure_apply, ended]
  · refine ⟨x, st, _, _, _, .unprepared created.append_halted, ?_⟩
    rw [Task.bind_error]
    · rfl
    · rw [Store.releasing_apply, run]
      rfl
  · refine ⟨x, st, _, _, _, .preparationStall created.append_halted, ?_⟩
    rw [Task.bind_error]
    · rfl
    · rw [Store.releasing_apply, run]
      rfl

end Session

end Folio
