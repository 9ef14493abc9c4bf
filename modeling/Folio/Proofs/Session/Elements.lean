import Folio.Proofs.Relational.Coherent
import Folio.Proofs.Session.Sent
import Folio.Proofs.Session.Together

/-!
# Folio.Proofs.Session.Elements

Reads of one element of a query agree with its list.

The reads that expect one document ask for one or two at most, and the question whether there are any is asked
without an order. Drivers answer a query for fewer rows by the first of them (`Sql.Coherent`), so such a read
decodes the first documents of the list (`readDocuments_take`) and finds in them what there is to find in the
whole list: one row more than expected is enough to tell (`Session.elements_agree`).
-/

namespace Folio

open Folio.Database (World)
open Folio.Sql (Coherent Dialect TableName)
open Folio.Relational (Content Contents Library Refusal Request tableOfQuery)
open Folio.Statement (Command Selection)

/-! ### Reads of elements -/

/-- The list of a query and the reads that find one of its documents, or whether there is one. -/
def Query.elementReads (q : Query) : List Read :=
  [.list q, .first q, .firstOrDefault q, .single q, .singleOrDefault q, .any q]

/-- The values that the command of a plan binds. -/
def Plan.values {α : Type} (p : Plan α) (d : Dialect) : List Value :=
  (Command.ofStatement d p.statement).params

theorem Plan.values_eq {α : Type} (p : Plan α) (d : Dialect) :
    p.values d = (p.selection.toQuery d #[]).2.toList := by
  rw [values, Command.ofStatement_eq]
  rfl

/-- A driver that answers a list and the reads of its elements, each by what it answers to the query that is
sent, and answers parts of the rows of the list as it answers the list. -/
structure Store.AnswersElements {σ : Type} (store : Store σ) (s : Session) (t : DocumentType) (q : Query)
    (answer : List Value → Sql.Query → List Row) (ready : σ → Prop) (known : List TableName) : Prop where
  alone : ∀ r ∈ q.elementReads, ∀ p, r.plan s store.schema t = .ok p →
    store.AnswersAlone p (answer (p.values store.schema.dialect) (p.query store.schema.dialect)) ready known
  coherent : ∀ p rows, (Read.list q).plan s store.schema t = .ok p →
    p.query store.schema.dialect = .rows rows → Coherent (answer (p.values store.schema.dialect)) rows

/-- A read that takes so many documents of its query at most, and makes something of them. -/
def Read.Takes (r : Read) (n : Nat) (f : List Document → Outcome Found) : Prop :=
  ∀ s schema t base, r.query.toSelection (s.scope schema t) .documents = .ok base →
    ∃ p, r.plan s schema t = .ok p ∧ p.selection = base.atMost n ∧
      ∀ rows vs, (p.read rows vs).1 = (readDocuments (schema.mapping t) rows vs).1.bind f

theorem Query.atMost_eq {q : Query} {scope : Scope} {base : Selection} (n : Nat)
    (compiled : q.toSelection scope .documents = .ok base) :
    q.atMost n scope = .ok ⟨scope.mapping, base.atMost n, readDocuments scope.mapping⟩ := by
  rw [atMost, list, compiled]
  rfl

namespace Read

variable (q : Query)

theorem takes_firstOrDefault :
    (Read.firstOrDefault q).Takes 1 fun docs => .ok (.document docs.head?) := by
  intro s schema t base compiled
  have cut : q.atMost 1 _ = _ := Query.atMost_eq 1 compiled
  refine ⟨_, by rw [plan, Query.firstOrDefault, cut]; rfl, rfl, fun rows vs => ?_⟩
  show ((readDocuments (schema.mapping t) rows vs).1.bind _).bind _ = _
  cases (readDocuments (schema.mapping t) rows vs).1 <;> rfl

theorem takes_first :
    (Read.first q).Takes 1 fun docs => (needDocument docs.head?).map fun doc => .document (some doc) := by
  intro s schema t base compiled
  have cut : q.atMost 1 _ = _ := Query.atMost_eq 1 compiled
  refine ⟨_, by rw [plan, Query.first, Query.firstOrDefault, cut]; rfl, rfl, fun rows vs => ?_⟩
  show (((readDocuments (schema.mapping t) rows vs).1.bind _).bind _).bind _ = _
  cases (readDocuments (schema.mapping t) rows vs).1 <;> rfl

theorem takes_singleOrDefault :
    (Read.singleOrDefault q).Takes 2 fun docs => (onlyDocument docs).map .document := by
  intro s schema t base compiled
  have cut : q.atMost 2 _ = _ := Query.atMost_eq 2 compiled
  refine ⟨_, by rw [plan, Query.singleOrDefault, cut]; rfl, rfl, fun rows vs => ?_⟩
  show ((readDocuments (schema.mapping t) rows vs).1.bind _).bind _ = _
  cases (readDocuments (schema.mapping t) rows vs).1 <;> rfl

theorem takes_single :
    (Read.single q).Takes 2 fun docs =>
      ((onlyDocument docs).bind needDocument).map fun doc => .document (some doc) := by
  intro s schema t base compiled
  have cut : q.atMost 2 _ = _ := Query.atMost_eq 2 compiled
  refine ⟨_, by rw [plan, Query.single, Query.singleOrDefault, cut]; rfl, rfl, fun rows vs => ?_⟩
  show (((readDocuments (schema.mapping t) rows vs).1.bind _).bind _).bind _ = _
  cases (readDocuments (schema.mapping t) rows vs).1 <;> rfl

end Read

/-! ### Their rows -/

/-- The first rows hold the first documents. -/
theorem readDocuments_take {m : Mapping} {rows : List Row} {vs : Versions} {docs : List Document}
    (read : (readDocuments m rows vs).1 = .ok docs) (n : Nat) (vs' : Versions) :
    (readDocuments m (rows.take n) vs').1 = .ok (docs.take n) := by
  rw [readDocuments_eq_mapM] at read ⊢
  exact Outcome.mapM_eq_ok.mpr (List.forall₂_take n (Outcome.mapM_eq_ok.mp read))

theorem isEmpty_of_readDocuments {m : Mapping} {rows : List Row} {vs : Versions} {docs : List Document}
    (read : (readDocuments m rows vs).1 = .ok docs) : rows.isEmpty = docs.isEmpty := by
  rw [readDocuments_eq_mapM] at read
  cases Outcome.mapM_eq_ok.mp read <;> rfl

/-! ### Their answers -/

section

variable {σ : Type} {store : Store σ} {s s' : Session} {t : DocumentType} {q : Query}
  {answer : List Value → Sql.Query → List Row} {ready : σ → Prop} {known : List TableName} {w w' : World σ}
  {docs : List Document} {base : Selection}

/-- Of a session, a read sees the tenant alone. -/
theorem Read.plan_of_tenant (own : s'.tenant = s.tenant) (schema : Schema) (t : DocumentType) (r : Read) :
    r.plan s' schema t = r.plan s schema t := by
  obtain ⟨tenant, pending, versions⟩ := s
  obtain ⟨tenant', pending', versions'⟩ := s'
  obtain rfl : tenant' = tenant := own
  cases r <;> rfl

theorem Session.result_alone {r : Read} {p : Plan Found} {rows : List Row}
    (planned : r.plan s store.schema t = .ok p) (answers : store.AnswersAlone p rows ready known)
    (usable : store.Usable ready known w) (some : r ≠ .loadMany []) :
    (s.perform store (.read t r) w).result =
      ((p.read rows s.versions).1.mapError .failed).map .found := by
  let answered (_ : Statement) : List Row := rows
  have alone : store.AnswersAlone p (answered p.statement) ready known := answers
  obtain ⟨w', -, performed⟩ := perform_alone some planned alone usable
  rw [performed]

/-- The rows of the documents of a selection. -/
def Store.listed (store : Store σ) (answer : List Value → Sql.Query → List Row) (base : Selection) :
    List Row :=
  answer (base.toQuery store.schema.dialect #[]).2.toList (base.toQuery store.schema.dialect #[]).1

theorem Plan.read_list (m : Mapping) (base : Selection) (rows : List Row) (vs : Versions) :
    (((Plan.ofDocuments m base).map fun docs => .ok (Found.documents docs)).read rows vs).1 =
      (readDocuments m rows vs).1.map .documents := by
  show (readDocuments m rows vs).1.bind _ = _
  cases (readDocuments m rows vs).1 <;> rfl

theorem Read.plan_list {schema : Schema} (compiled : q.toSelection (s.scope schema t) .documents = .ok base) :
    (Read.list q).plan s schema t =
      .ok ((Plan.ofDocuments (schema.mapping t) base).map fun docs => .ok (.documents docs)) := by
  rw [plan, Query.list, compiled]
  rfl

theorem Read.plan_list_inv {schema : Schema} {p : Plan Found} (planned : (Read.list q).plan s schema t = .ok p) :
    ∃ base, q.toSelection (s.scope schema t) .documents = .ok base ∧
      p = (Plan.ofDocuments (schema.mapping t) base).map fun docs => .ok (.documents docs) := by
  cases compiled : q.toSelection (s.scope schema t) .documents with
  | error f =>
    rw [plan, Query.list, compiled] at planned
    cases planned
  | ok base => exact ⟨base, rfl, Except.ok.inj (planned.symm.trans (plan_list compiled))⟩

/-- A list that was found has been read from the rows of a selection that could be compiled. -/
theorem Session.listed_inv (answers : store.AnswersElements s t q answer ready known)
    (usable : store.Usable ready known w)
    (found : (s.perform store (.read t (.list q)) w).result = .ok (.found (.documents docs))) :
    ∃ base, q.toSelection (s.scope store.schema t) .documents = .ok base ∧
      (readDocuments (store.schema.mapping t) (store.listed answer base) s.versions).1 = .ok docs := by
  have some : Read.list q ≠ .loadMany [] := nofun
  cases planned : (Read.list q).plan s store.schema t with
  | error f =>
    rw [s.perform_read store some, planned] at found
    cases found
  | ok p =>
    obtain ⟨base, compiled, rfl⟩ := Read.plan_list_inv planned
    have alone := answers.alone _ List.mem_cons_self _ planned
    rw [Plan.values_eq] at alone
    rw [result_alone planned alone usable some, Plan.read_list] at found
    change (((readDocuments (store.schema.mapping t) (store.listed answer base) s.versions).1.map
      _).mapError _).map _ = _ at found
    refine ⟨base, compiled, ?_⟩
    cases read : (readDocuments (store.schema.mapping t) (store.listed answer base) s.versions).1 with
    | error f =>
      rw [read] at found
      cases found
    | ok docs' =>
      rw [read] at found
      cases found
      rfl

/-- The rows that are listed are those of one query, whose parts are answered as it is. -/
theorem Store.AnswersElements.rows (answers : store.AnswersElements s t q answer ready known)
    (compiled : q.toSelection (s.scope store.schema t) .documents = .ok base) :
    let sent := base.toRowQuery store.schema.dialect .answer #[]
    store.listed answer base = answer sent.2.toList (.rows sent.1) ∧
      Coherent (answer sent.2.toList) sent.1 := by
  intro sent
  have selects := Query.selects_of_toSelection compiled
  have query := Library.toQuery_documents store.schema.dialect #[] selects.projection
    selects.existence
  have coherent := answers.coherent _ sent.1 (Read.plan_list compiled) (congrArg Prod.fst query)
  rw [Plan.values_eq] at coherent
  have values : (base.toQuery store.schema.dialect #[]).2 = sent.2 := congrArg Prod.snd query
  refine ⟨?_, values ▸ coherent⟩
  rw [Store.listed, query]

/-- A read that takes some documents of the query finds what it makes of the first of those listed. -/
theorem Session.result_takes {r : Read} {n : Nat} {f : List Document → Outcome Found}
    (takes : r.Takes n f) (own : s'.tenant = s.tenant) (mem : r ∈ q.elementReads) (asks : r.query = q)
    (some : r ≠ .loadMany []) (answers : store.AnswersElements s t q answer ready known)
    (usable : store.Usable ready known w')
    (compiled : q.toSelection (s.scope store.schema t) .documents = .ok base)
    (read : (readDocuments (store.schema.mapping t) (store.listed answer base) s.versions).1 = .ok docs) :
    (s'.perform store (.read t r) w').result = ((f (docs.take n)).mapError .failed).map .found := by
  have selects := Query.selects_of_toSelection compiled
  obtain ⟨listed, coherent⟩ := answers.rows compiled
  obtain ⟨p, planned, selection, reads⟩ := takes s store.schema t base (asks ▸ compiled)
  have query := Library.toQuery_documents store.schema.dialect #[]
    (show (base.atMost n).projection = .documents from selects.projection) selects.existence
  have rows : answer (p.values store.schema.dialect) (p.query store.schema.dialect) =
      (store.listed answer base).take n := by
    rw [Plan.values_eq, Plan.query, selection, query, listed]
    exact Selection.answer_atMost coherent n
  have alone := answers.alone r mem p planned
  rw [rows] at alone
  rw [result_alone ((Read.plan_of_tenant own ..).trans planned) alone usable some, reads,
    readDocuments_take read n]
  rfl

/-- The question whether there are documents is answered as the list has some. -/
theorem Session.result_any (own : s'.tenant = s.tenant)
    (answers : store.AnswersElements s t q answer ready known) (usable : store.Usable ready known w')
    (compiled : q.toSelection (s.scope store.schema t) .documents = .ok base)
    (read : (readDocuments (store.schema.mapping t) (store.listed answer base) s.versions).1 = .ok docs) :
    (s'.perform store (.read t (.any q)) w').result = .ok (.found (.truth (!docs.isEmpty))) := by
  obtain ⟨listed, coherent⟩ := answers.rows compiled
  obtain ⟨v, answered, tells⟩ :=
    Selection.answer_existence (Query.selects_of_toSelection compiled).projection coherent
  let asked : Plan Bool := .ofRows (store.schema.mapping t) { base with existence := true } fun rows =>
    return (← (firstValue rows).whole) ≠ 0
  have planned : (Read.any q).plan s store.schema t = .ok (asked.map fun b => .ok (.truth b)) := by
    rw [Read.plan, Query.any, compiled]
    rfl
  have alone := answers.alone (.any q) (by simp [Query.elementReads]) _ planned
  have rows : answer ((asked.map fun b => .ok (Found.truth b)).values store.schema.dialect)
      ((asked.map fun b => .ok (Found.truth b)).query store.schema.dialect) = [[v]] := by
    rw [Plan.values_eq]
    exact answered
  rw [rows] at alone
  rw [result_alone ((Read.plan_of_tenant own ..).trans planned) alone usable nofun]
  rw [← listed, isEmpty_of_readDocuments read] at tells
  show ((((do return (← v.whole) ≠ 0 : Outcome Bool)).bind fun b => .ok (Found.truth b)).mapError _).map _ = _
  rw [tells]
  cases docs <;> rfl

/-- **Reads of one element agree with the list.** When the list of a query finds these documents, a call on the
tenant's behalf for the first or the only one, or for whether there are any, ends as the list says. -/
theorem Session.elements_agree (answers : store.AnswersElements s t q answer ready known)
    (own : s'.tenant = s.tenant) (usable : store.Usable ready known w) (usable' : store.Usable ready known w')
    (found : (s.perform store (.read t (.list q)) w).result = .ok (.found (.documents docs))) :
    let result (r : Read) := (s'.perform store (.read t r) w').result
    (result (.first q) = match docs with
      | [] => .error (.failed ⟨.noElements, []⟩)
      | doc :: _ => .ok (.found (.document (some doc)))) ∧
    result (.firstOrDefault q) = .ok (.found (.document docs.head?)) ∧
    (result (.single q) = match docs with
      | [] => .error (.failed ⟨.noElements, []⟩)
      | [doc] => .ok (.found (.document (some doc)))
      | _ => .error (.failed ⟨.moreThanOneElement, []⟩)) ∧
    (result (.singleOrDefault q) = match docs with
      | [] => .ok (.found (.document none))
      | [doc] => .ok (.found (.document (some doc)))
      | _ => .error (.failed ⟨.moreThanOneElement, []⟩)) ∧
    result (.any q) = .ok (.found (.truth (!docs.isEmpty))) := by
  intro result
  obtain ⟨base, compiled, read⟩ := listed_inv answers usable found
  have takes {r : Read} {n : Nat} {f : List Document → Outcome Found} (takes : r.Takes n f)
      (mem : r ∈ q.elementReads) (asks : r.query = q) (some : r ≠ .loadMany []) :=
    result_takes takes own mem asks some answers usable' compiled read
  refine ⟨?_, ?_, ?_, ?_, result_any own answers usable' compiled read⟩
  · refine (takes (Read.takes_first q) (by simp [Query.elementReads]) rfl nofun).trans ?_
    cases docs <;> rfl
  · refine (takes (Read.takes_firstOrDefault q) (by simp [Query.elementReads]) rfl nofun).trans ?_
    cases docs <;> rfl
  · refine (takes (Read.takes_single q) (by simp [Query.elementReads]) rfl nofun).trans ?_
    rcases docs with _ | ⟨doc, _ | _⟩ <;> rfl
  · refine (takes (Read.takes_singleOrDefault q) (by simp [Query.elementReads]) rfl nofun).trans ?_
    rcases docs with _ | ⟨doc, _ | _⟩ <;> rfl

end

/-! ### Databases -/

/-- A database that answers what is asked of it answers a list and the reads of its elements so, as long as its
tables stay as they are. -/
theorem Relational.Database.answersElements {σ : Type} {db : Database σ} {refused : Request → Refusal → Failure}
    {s : Session} {t : DocumentType} {q : Query} (K : Content) (known : List TableName)
    (asked : ∀ r ∈ q.elementReads, ∀ p, r.plan s db.store.schema t = .ok p →
      (∀ request ∈ reading [p], db.Answers refused request) ∧
        db.store.checkParameters (Command.ofStatement db.store.schema.dialect p.statement) = .ok ()) :
    db.store.AnswersElements s t q
      (fun params sent => db.library.answer params sent (K (tableOfQuery sent)))
      (fun st => (db.contents st).committed = K) known where
  alone r mem p planned := by
    obtain ⟨answered, checked⟩ := asked r mem p planned
    refine ⟨fun _ => ⟨0, fun c st here => ?_⟩, checked, fun c st here => ?_⟩
    · obtain ⟨working, response⟩ : ∃ working, db.library.respond db.dialect (creation p.mapping)
          (db.contents st) = .ok (.count 0, { db.contents st with working }) := ⟨_, rfl⟩
      have created := answered (creation p.mapping) (by simp [reading]) c st
      rw [response] at created
      obtain ⟨st', contents, performed⟩ := created
      exact ⟨st', (congrArg Contents.committed contents).trans here, performed⟩
    · obtain ⟨st', contents, performed⟩ : ∃ st', db.contents st' = db.contents st ∧
          db.store.driver.perform c (.query (.ofStatement db.store.schema.dialect p.statement)) st =
            (.reply (.sets (.ofList (db.library.answers db.dialect [p.statement] (db.contents st).committed))),
              st') := answered (.read [p.statement]) List.mem_cons_self c st
      refine ⟨st', (congrArg Contents.committed contents).trans here, ?_⟩
      rw [performed, here, Plan.values_eq]
      rfl
  coherent p rows planned sent := by
    obtain ⟨base, compiled, rfl⟩ := Read.plan_list_inv planned
    have selects := Query.selects_of_toSelection compiled
    have query := Library.toQuery_documents db.store.schema.dialect #[] selects.projection selects.existence
    obtain rfl := Sql.Query.rows.inj (sent.symm.trans (congrArg Prod.fst query))
    obtain ⟨extra, columns, plain⟩ := Library.columns_documents db.store.schema.dialect #[] selects.projection
    refine db.library.coherent _ K ?_
    rw [columns]
    exact plain

namespace Orders

/-- One order at most. -/
def oneOrder : Query :=
  { limit := some 1 }

/-- What lists it. -/
def listingOne : Statement :=
  .select { table := mapping.table, projection := .documents, tenant := some "a", limit := some 1 }

/-- What asks whether there is one. -/
def lookingForOne : Statement :=
  .select
    { table := mapping.table, projection := .documents, tenant := some "a", limit := some 1, existence := true }

/-- The latter begins with `SELECT CASE`, the former with `SELECT data`. -/
def asksForOne? : Database.Operation → Option Request
  | .query c => some (.read [if c.sql.toList[7]? = some 'C' then lookingForOne else listingOne])
  | .execute _ => some (creation mapping)
  | _ => none

set_option maxRecDepth 2000 in
theorem asksForOne_looking :
    asksForOne? (.query (.ofStatement .sqlite lookingForOne)) = some (.read [lookingForOne]) := by
  have letter : (Command.ofStatement .sqlite lookingForOne).sql.toList[7]? = some 'C' := by rfl
  rw [asksForOne?, if_pos letter]

theorem asksForOne_listing :
    asksForOne? (.query (.ofStatement .sqlite listingOne)) = some (.read [listingOne]) := by
  have letter : (Command.ofStatement .sqlite listingOne).sql.toList[7]? = some 'd' := by rfl
  rw [asksForOne?, letter, if_neg (by decide)]

noncomputable def ordering : Relational.Database Contents :=
  sorting.database .sqlite {} asksForOne? refused

/-- The database answers what the reads of one order ask. -/
theorem ordering_asked (r : Read) (mem : r ∈ oneOrder.elementReads) (p : Plan Found)
    (planned : r.plan { tenant := "a" } ordering.store.schema type = .ok p) :
    (∀ request ∈ reading [p], ordering.Answers refused request) ∧
      ordering.store.checkParameters (Command.ofStatement ordering.store.schema.dialect p.statement) = .ok () := by
  have sent : p.mapping = mapping ∧ (p.statement = listingOne ∨ p.statement = lookingForOne) := by
    simp only [Query.elementReads, List.mem_cons, List.not_mem_nil, or_false] at mem
    rcases mem with rfl | rfl | rfl | rfl | rfl | rfl
    case inr.inr.inr.inr.inr =>
      obtain rfl := Except.ok.inj planned
      exact ⟨rfl, .inr rfl⟩
    all_goals
      obtain rfl := Except.ok.inj planned
      exact ⟨rfl, .inl rfl⟩
  obtain ⟨own, statement⟩ := sent
  refine ⟨fun request asked => Library.database_answers ?_, ?_⟩
  · simp only [reading, List.map_cons, List.map_nil, own, List.mem_cons, List.not_mem_nil, or_false] at asked
    rcases asked with rfl | rfl
    · rcases statement with same | same
      · rw [same]
        exact asksForOne_listing
      · rw [same]
        exact asksForOne_looking
    · rfl
  · rcases statement with same | same <;> rw [same] <;> rfl

/-- The tenant's order at version 3. -/
noncomputable def ordered : World Contents where
  state := ⟨fun _ => {rowOf "a" 3}, fun _ => {rowOf "a" 3}⟩

/-- What the list of one order asks for and makes of the rows. -/
def listingPlan : Plan Found :=
  (Plan.ofDocuments mapping
    { table := mapping.table, projection := .documents, tenant := some "a", limit := some 1 }).map
      fun docs => .ok (.documents docs)

theorem listingPlan_rows :
    sorting.answer (listingPlan.values .sqlite) (listingPlan.query .sqlite) {rowOf "a" 3} =
      [[.text stored.data, .int64 3]] := by
  have arranged : sorting.answer (listingPlan.values .sqlite) (listingPlan.query .sqlite) {rowOf "a" 3} =
      ((((sorting.arrange [] {rowOf "a" 3}).map (·.env (listingPlan.values .sqlite))).map fun env =>
        [sorting.column env (.term (.column Sql.dataColumn)),
          sorting.column env (.term (.column Sql.versionColumn))]).take 1).map (·.map sorting.reply) := rfl
  rw [arranged, sorting_own]
  rfl

theorem listingPlan_read (vs : Versions) :
    (listingPlan.read [[.text stored.data, .int64 3]] vs).1 = .ok (.documents [order]) := by
  rw [listingPlan, Plan.read_list, readDocuments, readRow_stored]
  rfl

/-- The list finds the order, and so do the reads of one element. -/
theorem elements_agree_oneOrder :
    let result (r : Read) := (({ tenant := "a" } : Session).perform ordering.store (.read type r) ordered).result
    result (.list oneOrder) = .ok (.found (.documents [order])) ∧
      result (.first oneOrder) = .ok (.found (.document (some order))) ∧
      result (.single oneOrder) = .ok (.found (.document (some order))) ∧
      result (.any oneOrder) = .ok (.found (.truth true)) := by
  intro result
  have answers := Relational.Database.answersElements (fun _ => {rowOf "a" 3}) [] ordering_asked
  have usable : ordering.store.Usable
      (fun st => (ordering.contents st).committed = fun _ => {rowOf "a" 3}) [] ordered :=
    ⟨0, _, rfl, rfl, List.nil_subset _⟩
  have found : result (.list oneOrder) = .ok (.found (.documents [order])) := by
    have planned : (Read.list oneOrder).plan { tenant := "a" } ordering.store.schema type = .ok listingPlan := rfl
    have alone : ordering.store.AnswersAlone listingPlan [[.text stored.data, .int64 3]] _ [] :=
      listingPlan_rows ▸ answers.alone _ List.mem_cons_self _ planned
    have ended := Session.result_alone planned alone usable nofun
    rw [listingPlan_read] at ended
    exact ended
  have own : ({ tenant := "a" } : Session).tenant = ({ tenant := "a" } : Session).tenant := rfl
  obtain ⟨first, -, single, -, any⟩ := Session.elements_agree answers own usable usable found
  exact ⟨found, first, single, any⟩

end Orders

end Folio
