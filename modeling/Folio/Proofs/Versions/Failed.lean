import Folio.Proofs.Versions.Sighted

/-!
# Folio.Proofs.Versions.Failed

What a read that fails has done to the versions that the session knows.

One might expect nothing, since the program is given no document. But documents are made of rows one
after the other, and each version is noted at once: those of the rows before the one that cannot be
read stay, and so do all of them if there are too many documents.

* `readDocuments_versions`: reading rows notes the versions in them, up to the first that cannot be
  read.
* `Session.readings`, `Session.perform_readings`: the reads of a call one after the other, each with
  the versions known before and after, and what the call makes of them.
* `Session.failed_readings_iff`: a read that fails leaves the versions alone exactly if it has decoded
  no document but at the version that was known of it.
-/

namespace Folio

open Folio.Database
open Folio.Statement

/-! ### Versions -/

/-- Notes versions of documents of one type, one after the other. -/
def Versions.noteAll (vs : Versions) (type : String) (found : List (DocumentId × Int64)) : Versions :=
  found.foldl (fun vs e => vs.set ⟨type, e.1⟩ e.2) vs

/-- The version found last of a document is the one that is known then. -/
theorem Versions.get?_noteAll (vs : Versions) (type : String) (found : List (DocumentId × Int64))
    (id : DocumentId) :
    (vs.noteAll type found).get? ⟨type, id⟩ = (found.reverse.lookup id).or (vs.get? ⟨type, id⟩) := by
  induction found using List.reverseRecOn with
  | nil => rfl
  | append_singleton found e ih =>
    rw [noteAll, List.foldl_append, List.reverse_append, List.reverse_singleton, List.singleton_append,
      List.lookup_cons]
    by_cases same : id = e.1
    · subst same
      rw [beq_self_eq_true]
      exact Versions.get?_put_self ..
    · rw [beq_eq_false_iff_ne.mpr same]
      have other : (⟨type, id⟩ : DocumentKey) ≠ ⟨type, e.1⟩ := fun h => same (DocumentKey.mk.inj h).2
      exact (Versions.get?_put_of_ne _ other).trans ih

/-- Documents of other types are known as before. -/
theorem Versions.get?_noteAll_of_ne (vs : Versions) {type : String} (found : List (DocumentId × Int64))
    {key : DocumentKey} (other : key.type ≠ type) : (vs.noteAll type found).get? key = vs.get? key := by
  induction found generalizing vs with
  | nil => rfl
  | cons e rest ih =>
    exact (ih _).trans (Versions.get?_put_of_ne _ fun h => other (congrArg DocumentKey.type h))

/-- Nothing has changed if each document was known at the version that was found last of it. -/
theorem Versions.noteAll_eq_iff {vs : Versions} {type : String} {found : List (DocumentId × Int64)} :
    vs.noteAll type found = vs ↔
      ∀ id v, found.reverse.lookup id = some v → vs.get? ⟨type, id⟩ = some v := by
  constructor
  · intro same id v last
    have after := vs.get?_noteAll type found id
    rw [same, last] at after
    exact after
  · intro known
    refine congrArg Versions.mk (funext fun key => ?_)
    show (vs.noteAll type found).get? key = vs.get? key
    by_cases its : key.type = type
    · obtain ⟨keyType, id⟩ := key
      obtain rfl : keyType = type := its
      rw [get?_noteAll]
      cases last : found.reverse.lookup id with
      | none => rfl
      | some v => exact (known id v last).symm
    · exact vs.get?_noteAll_of_ne found its

/-! ### Plans -/

/-- The documents in rows with their versions, up to the first row that cannot be read. -/
def Mapping.decoded (m : Mapping) : List Row → List (DocumentId × Int64)
  | [] => []
  | row :: rest =>
    match readRow m row with
    | .ok (doc, v) => (doc.id, v) :: m.decoded rest
    | .error _ => []

/-- Whatever comes of it, reading documents notes the versions of those that were decoded. -/
theorem readDocuments_versions (m : Mapping) (rows : List Row) (vs : Versions) :
    (readDocuments m rows vs).2 = vs.noteAll m.typeName (m.decoded rows) := by
  induction rows generalizing vs with
  | nil => rfl
  | cons row rest ih =>
    rw [readDocuments, Mapping.decoded]
    cases readRow m row with
    | error f => rfl
    | ok p => exact ih _

/-- A plan that notes the versions of the documents in a part of the rows. -/
def Plan.Decodes {α : Type} (m : Mapping) (part : List Row → List Row) (p : Plan α) : Prop :=
  ∀ rows vs, (p.read rows vs).2 = vs.noteAll m.typeName (m.decoded (part rows))

namespace Plan.Decodes

variable {α β : Type} {m : Mapping} {part : List Row → List Row}

/-- What is made of the answer does not matter. -/
theorem map {p : Plan α} (h : p.Decodes m part) (f : α → Outcome β) : (p.map f).Decodes m part := h

theorem of_map {x : Outcome (Plan α)} {f : α → Outcome β} {p : Plan β}
    (made : (do return (← x).map f) = Except.ok p) (h : ∀ p', x = .ok p' → p'.Decodes m part) :
    p.Decodes m part := by
  obtain ⟨p', there, made⟩ := Outcome.bind_eq_ok.mp made
  obtain rfl := Except.ok.inj made
  exact (h p' there).map f

theorem ofRows (s : Selection) (read : List Row → Outcome α) :
    (Plan.ofRows m s read).Decodes m fun _ => [] :=
  fun _ _ => rfl

end Plan.Decodes

namespace Query

variable {q : Query} {scope : Scope}

theorem list_decodes {p : Plan (List Document)} (h : q.list scope = .ok p) :
    p.Decodes scope.mapping id := by
  obtain ⟨s, -, h⟩ := Outcome.bind_eq_ok.mp h
  obtain rfl := Except.ok.inj h
  exact readDocuments_versions scope.mapping

theorem atMost_decodes {n : Nat} {p : Plan (List Document)} (h : q.atMost n scope = .ok p) :
    p.Decodes scope.mapping id := by
  obtain ⟨p', listed, h⟩ := Outcome.bind_eq_ok.mp h
  obtain rfl := Except.ok.inj h
  have decodes := list_decodes listed
  exact decodes

theorem firstOrDefault_decodes {p : Plan (Option Document)} (h : q.firstOrDefault scope = .ok p) :
    p.Decodes scope.mapping id :=
  .of_map h fun _ => atMost_decodes

theorem singleOrDefault_decodes {p : Plan (Option Document)} (h : q.singleOrDefault scope = .ok p) :
    p.Decodes scope.mapping id :=
  .of_map h fun _ => atMost_decodes

theorem count_decodes {p : Plan Nat} (h : q.count scope = .ok p) :
    p.Decodes scope.mapping fun _ => [] := by
  obtain ⟨s, -, h⟩ := Outcome.bind_eq_ok.mp h
  obtain rfl := Except.ok.inj h
  exact .ofRows _ _

theorem any_decodes {p : Plan Bool} (h : q.any scope = .ok p) :
    p.Decodes scope.mapping fun _ => [] := by
  obtain ⟨s, -, h⟩ := Outcome.bind_eq_ok.mp h
  obtain rfl := Except.ok.inj h
  exact .ofRows _ _

theorem aggregate_decodes {a : Sql.Aggregate} {m : Member} {p : Plan Value}
    (h : q.aggregate a m scope = .ok p) : p.Decodes scope.mapping fun _ => [] := by
  obtain ⟨l, -, h⟩ := Outcome.bind_eq_ok.mp h
  obtain ⟨s, -, h⟩ := Outcome.bind_eq_ok.mp h
  obtain rfl := Except.ok.inj h
  exact .ofRows _ _

theorem select_decodes {m : Member} {shape : Typed.Shape} {distinct : Bool} {p : Plan (List Value)}
    (h : q.select m shape distinct scope = .ok p) : p.Decodes scope.mapping fun _ => [] := by
  obtain ⟨l, -, h⟩ := Outcome.bind_eq_ok.mp h
  obtain ⟨s, -, h⟩ := Outcome.bind_eq_ok.mp h
  dsimp only at h
  split at h
  · cases h
  · obtain rfl := Except.ok.inj h
    exact .ofRows _ _

end Query

/-- The rows that a read makes documents of. -/
def Read.documentRows : Read → List Row → List Row
  | .load _, rows => rows.take 1
  | .loadMany _, rows | .list _, rows | .first _, rows | .firstOrDefault _, rows | .single _, rows
  | .singleOrDefault _, rows => rows
  | .count _, _ | .any _, _ | .sum .., _ | .min .., _ | .max .., _ | .average .., _ | .select .., _ => []

/-- Every read notes the versions of the documents that it decodes. -/
theorem Read.plan_decodes {s : Session} {schema : Schema} {t : DocumentType} {r : Read} {p : Plan Found}
    (h : r.plan s schema t = .ok p) : p.Decodes (schema.mapping t) r.documentRows := by
  cases r with
  | load id =>
    obtain rfl := Except.ok.inj h
    have decodes : (s.loadPlan schema t id).Decodes (schema.mapping t) (List.take 1) :=
      fun rows => readDocuments_versions _ (rows.take 1)
    exact decodes.map _
  | loadMany ids =>
    obtain rfl := Except.ok.inj h
    have decodes : (s.loadManyPlan schema t ids).Decodes (schema.mapping t) (fun rows => rows) :=
      readDocuments_versions (schema.mapping t)
    exact decodes.map _
  | list q => exact .of_map h fun _ => Query.list_decodes
  | first q => exact .of_map h fun _ made => .of_map made fun _ => Query.firstOrDefault_decodes
  | firstOrDefault q => exact .of_map h fun _ => Query.firstOrDefault_decodes
  | single q => exact .of_map h fun _ made => .of_map made fun _ => Query.singleOrDefault_decodes
  | singleOrDefault q => exact .of_map h fun _ => Query.singleOrDefault_decodes
  | count q => exact .of_map h fun _ => Query.count_decodes
  | any q => exact .of_map h fun _ => Query.any_decodes
  | sum q m shape => exact .of_map h fun _ made => .of_map made fun _ => Query.aggregate_decodes
  | min q m shape => exact .of_map h fun _ made => .of_map made fun _ => Query.aggregate_decodes
  | max q m shape => exact .of_map h fun _ made => .of_map made fun _ => Query.aggregate_decodes
  | average q m => exact .of_map h fun _ made => .of_map made fun _ => Query.aggregate_decodes
  | select q m shape distinct => exact .of_map h fun _ => Query.select_decodes

/-! ### Reads one after the other -/

/-- A read whose answer is looked at: the rows in it, or why there are none, and the versions known
before. -/
structure Reading extends Planned where
  set : Outcome (List Row)
  before : Versions

namespace Reading

/-- What comes of the read. -/
def outcome (e : Reading) : Outcome Found :=
  (e.plan.readSet e.set e.before).1

/-- The versions known after the read. -/
def after (e : Reading) : Versions :=
  (e.plan.readSet e.set e.before).2

/-- The documents that are decoded before the reading ends, with their versions. -/
def found (schema : Schema) (e : Reading) : List (DocumentId × Int64) :=
  match e.set with
  | .ok rows => (schema.mapping e.type).decoded (e.read.documentRows rows)
  | .error _ => []

/-- The last version of each document that is decoded is the one that was known of it. -/
def FindsKnown (schema : Schema) (e : Reading) : Prop :=
  ∀ id v, (e.found schema).reverse.lookup id = some v → e.before.get? ⟨e.type.name, id⟩ = some v

/-- A read that was planned has changed no version if it has found none but those known. -/
theorem after_eq_iff {s : Session} {schema : Schema} {e : Reading}
    (planned : e.read.plan s schema e.type = .ok e.plan) : e.after = e.before ↔ e.FindsKnown schema := by
  have after : e.after = e.before.noteAll e.type.name (e.found schema) := by
    obtain ⟨x, set, before⟩ := e
    cases set with
    | ok rows =>
      rw [← schema.mapping_typeName]
      exact Read.plan_decodes planned rows before
    | error f => rfl
  rw [after, Versions.noteAll_eq_iff, FindsKnown]

/-- The readings of planned reads from their answers. -/
def inOrder : List Planned → Cursor → Versions → List Reading
  | [], _, _ => []
  | x :: rest, cursor, vs =>
    let e : Reading := ⟨x, cursor.takeCurrent.1, vs⟩
    e :: inOrder rest cursor.takeCurrent.2.next.2 e.after

/-- The versions known after readings. -/
def last (vs : Versions) (readings : List Reading) : Versions :=
  readings.foldl (fun _ e => e.after) vs

theorem readSets_inOrder (planned : List Planned) (cursor : Cursor) (vs : Versions) :
    Batch.readSets (planned.map (·.plan)) cursor vs =
      ((inOrder planned cursor vs).map (·.outcome), last vs (inOrder planned cursor vs)) := by
  induction planned generalizing cursor vs with
  | nil => rfl
  | cons x rest ih =>
    rw [List.map_cons, Batch.readSets]
    simp only [ih]
    rfl

theorem mem_planned_of_inOrder {planned : List Planned} {cursor : Cursor} {vs : Versions} {e : Reading}
    (mem : e ∈ inOrder planned cursor vs) : e.toPlanned ∈ planned := by
  induction planned generalizing cursor vs with
  | nil => cases mem
  | cons x rest ih =>
    rcases List.mem_cons.mp mem with rfl | mem
    · exact List.mem_cons_self
    · exact List.mem_cons_of_mem _ (ih mem)

end Reading

/-- What a call that reads makes of the outcomes of its reads. -/
def Call.answered (s : Session) (schema : Schema) (outcomes : List (Outcome Found)) : Call → Except Halt Told
  | .batch items => .ok (.batch (withRejected (s.plansOf schema items) outcomes))
  | _ =>
    match outcomes with
    | [outcome] => (outcome.mapError .failed).map .found
    | _ => .ok .nothing

namespace Session

variable {σ : Type} {store : Store σ} {s : Session} {w : World σ}

/-- The readings of reads that are sent together, if they are answered. -/
def readingsOf (store : Store σ) (s : Session) (w : World σ) (planned : List Planned) : List Reading :=
  let batch : Batch Found := ⟨planned.map (·.plan)⟩
  match (store.fetch (batch.plans.map (·.mapping)) (batch.command store.schema) w).1 with
  | .ok cursor => Reading.inOrder planned cursor s.versions
  | .error _ => []

/-- The readings of a call. -/
def readings (store : Store σ) (s : Session) (w : World σ) (call : Call) : List Reading :=
  s.readingsOf store w (s.planned store.schema call.reads)

theorem readingsOf_nil : s.readingsOf store w [] = [] := by
  simp only [readingsOf]
  split <;> rfl

theorem readingsOf_singleton {x : Planned} (answered : s.readingsOf store w [x] ≠ []) :
    ∃ e, s.readingsOf store w [x] = [e] := by
  simp only [readingsOf] at answered ⊢
  split at answered
  · exact ⟨_, rfl⟩
  · exact absurd rfl answered

theorem mem_planned_of_readings {call : Call} {e : Reading} (mem : e ∈ s.readings store w call) :
    e.toPlanned ∈ s.planned store.schema call.reads := by
  simp only [readings, readingsOf] at mem
  split at mem
  · exact Reading.mem_planned_of_inOrder mem
  · cases mem

/-- Reads that are sent together leave what their readings leave. -/
theorem execute_readings (store : Store σ) (s : Session) (w : World σ) (planned : List Planned) :
    let ended := (⟨planned.map (·.plan)⟩ : Batch Found).execute store s w
    let readings := s.readingsOf store w planned
    ended.session = { s with versions := Reading.last s.versions readings } ∧
      (readings ≠ [] → ended.result = .ok () ∧ ended.answers = readings.map (·.outcome)) := by
  cases planned with
  | nil =>
    -- nothing is sent, whatever would be answered
    simp only [readingsOf_nil]
    exact ⟨rfl, fun answered => absurd rfl answered⟩
  | cons x rest =>
    have sets := Reading.readSets_inOrder (x :: rest)
    simp only [Batch.execute, readingsOf, List.map_cons, List.isEmpty_cons, Bool.false_eq_true, if_false]
      at sets ⊢
    rcases fetched : store.fetch (x.plan.mapping :: (rest.map (·.plan)).map (·.mapping))
      ((⟨x.plan :: rest.map (·.plan)⟩ : Batch Found).command store.schema) w with ⟨(f | _) | cursor, w'⟩
    · simp only [fetched]
      exact ⟨rfl, fun answered => absurd rfl answered⟩
    · simp only [fetched]
      exact ⟨rfl, fun answered => absurd rfl answered⟩
    · simp only [fetched, sets, and_self, implies_true]

/-- A plan by itself is answered as a batch of one. -/
theorem run_answer (store : Store σ) (p : Plan Found) (s : Session) (w : World σ) {outcome : Outcome Found}
    (answered : ((⟨[p]⟩ : Batch Found).execute store s w).answers = [outcome])
    (fetched : ((⟨[p]⟩ : Batch Found).execute store s w).result = .ok ()) :
    (s.run store p w).result = outcome.mapError .failed := by
  have one : (⟨[p]⟩ : Batch Found).command store.schema =
      Command.ofStatement store.driver.capability.dialect p.statement := rfl
  simp only [Batch.execute, List.isEmpty_cons, Bool.false_eq_true, if_false, one, List.map_cons,
    List.map_nil] at answered fetched
  rw [Session.run]
  simp only
  revert answered fetched
  rcases store.fetch [p.mapping] (.ofStatement store.driver.capability.dialect p.statement) w with
    ⟨(f | _) | cursor, w'⟩
  · intro _ fetched
    cases fetched
  · intro _ fetched
    cases fetched
  · intro answered _
    obtain ⟨rfl, -⟩ := List.cons.inj answered
    rfl

theorem perform_readings (store : Store σ) (s : Session) (w : World σ) {call : Call}
    (isRead : call.isRead = true) :
    (s.perform store call w).session =
        { s with versions := Reading.last s.versions (s.readings store w call) } ∧
      (s.readings store w call ≠ [] → (s.perform store call w).result =
        call.answered s store.schema ((s.readings store w call).map (·.outcome))) := by
  cases call with
  | batch items =>
    obtain ⟨session, told⟩ := execute_readings store s w (s.planned store.schema items)
    rw [← batchOf_eq] at session told
    refine ⟨session, fun answered => ?_⟩
    obtain ⟨ok, answers⟩ := told answered
    show (((s.batchOf store.schema items).execute store s w).result.map fun _ => _) = _
    rw [ok, answers]
    rfl
  | read t r =>
    by_cases empty : r = .loadMany []
    · subst empty
      have none : s.readings store w (.read t (.loadMany [])) = [] := readingsOf_nil
      rw [none]
      exact ⟨rfl, fun answered => absurd rfl answered⟩
    · rw [perform_read store empty, readings, Call.reads_read empty]
      cases made : r.plan s store.schema t with
      | error f =>
        rw [planned_error made, readingsOf_nil]
        exact ⟨rfl, fun answered => absurd rfl answered⟩
      | ok p =>
        rw [planned_ok made]
        obtain ⟨session, told⟩ := execute_readings store s w [⟨t, r, p⟩]
        refine ⟨(run_session store p s w).trans session, fun answered => ?_⟩
        obtain ⟨ok, answers⟩ := told answered
        obtain ⟨e, one⟩ := readingsOf_singleton answered
        rw [one] at answers ⊢
        exact congrArg (Except.map Told.found) (run_answer store p s w answers ok)
  | _ => cases isRead

/-- A call that reads changes nothing but the versions, which its reads leave one after the other, and
answers what comes of them. A read that fails, be it at a row or because there are too many documents,
leaves the versions as they were exactly if the version it has found last of each document on its way
was the one known. -/
theorem failed_readings_iff (store : Store σ) (s : Session) (w : World σ) {call : Call}
    (isRead : call.isRead = true) :
    (s.perform store call w).session =
        { s with versions := Reading.last s.versions (s.readings store w call) } ∧
      (s.readings store w call ≠ [] → (s.perform store call w).result =
        call.answered s store.schema ((s.readings store w call).map (·.outcome))) ∧
      ∀ e ∈ s.readings store w call, ∀ f, e.outcome = .error f →
        (e.after = e.before ↔ e.FindsKnown store.schema) := by
  obtain ⟨session, result⟩ := perform_readings store s w isRead
  refine ⟨session, result, fun e mem _ _ => ?_⟩
  obtain ⟨-, planned⟩ := of_mem_planned (mem_planned_of_readings mem)
  exact Reading.after_eq_iff planned

end Session

/-! ### An order before a row that holds none -/

namespace Orders

/-- The order at version 9, and a row that holds none. -/
def unreadable : List Row :=
  [[.text stored.data, .int64 9], [.null, .int64 1]]

/-- A database that answers the first query with these rows. -/
def garbled : World Script :=
  { state := { replies := [none, some (.reply (.sets (.ofList [unreadable])))] } }

/-- The order is known at version 3. -/
def knowing : Session :=
  ⟨"a", [], Versions.empty.set ⟨"Order", .int32 7⟩ 3⟩

theorem unreadable_decoded : mapping.decoded unreadable = [(.int32 7, 9)] := by
  rw [unreadable, Mapping.decoded, readRow_stored]
  rfl

theorem readDocuments_unreadable (vs : Versions) :
    (readDocuments mapping unreadable vs).1 = .error ⟨.result (.notPayload "null"), []⟩ := by
  rw [unreadable, readDocuments, readRow_stored]
  rfl

/-- The list fails, but version 9 is known afterwards. -/
theorem failed_readings_iff_garbled :
    let store : Store Script := ⟨Script.driver .sqlite, {}, [], false⟩
    let call : Call := .read type (.list {})
    call.isRead = true ∧
      ∃ e ∈ knowing.readings store garbled call, (∃ f, e.outcome = .error f) ∧ e.after ≠ e.before := by
  intro store call
  have isRead : call.isRead = true := rfl
  obtain ⟨-, -, failed⟩ := Session.failed_readings_iff store knowing garbled isRead
  obtain ⟨e, one, type_eq, set, before, documents, read⟩ :
      ∃ e, knowing.readings store garbled call = [e] ∧
        e.type = type ∧ e.set = .ok unreadable ∧ e.before = knowing.versions ∧
        (∀ rows, e.read.documentRows rows = rows) ∧
        ∀ rows vs, (e.plan.read rows vs).1 =
          (readDocuments mapping rows vs).1.bind fun docs => .ok (.documents docs) :=
    ⟨_, rfl, rfl, rfl, rfl, fun _ => rfl, fun _ _ => rfl⟩
  have mem : e ∈ knowing.readings store garbled call := one ▸ List.mem_singleton_self e
  have outcome : e.outcome = .error ⟨.result (.notPayload "null"), []⟩ := by
    rw [Reading.outcome, set, Plan.readSet, read, readDocuments_unreadable]
    rfl
  have found : e.found store.schema = [(.int32 7, 9)] := by
    rw [Reading.found, set, type_eq]
    exact (congrArg _ (documents unreadable)).trans unreadable_decoded
  refine ⟨isRead, e, mem, ⟨_, outcome⟩, fun same => ?_⟩
  have last : (e.found store.schema).reverse.lookup (.int32 7) = some 9 := by
    rw [found]
    rfl
  have known := (failed e mem _ outcome).mp same _ _ last
  rw [before, type_eq] at known
  exact absurd known (by decide)

end Orders

end Folio
