import Folio.Proofs.Relational.Reads
import Folio.Proofs.Session.Serving
import Folio.Proofs.Versions.View

/-!
# Folio.Proofs.Versions.Noted

Reading notes versions, and the versions that it notes are those of the table.

* `Noted`: some versions were noted, each as it is in the table.
* `Plan.Notes`: a plan notes the versions of the documents that it finds, and of no others.
* `Read.plan_notes`: every read does.
-/

namespace Folio

open Folio.Relational
open Folio.Statement

/-- The versions of these documents were noted, as they are. -/
structure Noted (m : Mapping) (a : String) (V : View) (seen : List DocumentId)
    (vs vs' : Versions) : Prop where
  current : ∀ id ∈ seen, ∃ v, vs'.get? ⟨m.typeName, id⟩ = some v ∧ V (a, id) = {v}
  other : ∀ key, (∀ id ∈ seen, key ≠ ⟨m.typeName, id⟩) → vs'.get? key = vs.get? key

@[simp] theorem Versions.get?_put_self (vs : Versions) (key : DocumentKey) (v : Option Int64) :
    (vs.put key v).get? key = v := if_pos rfl

theorem Versions.get?_put_of_ne {vs : Versions} {key k : DocumentKey} (v : Option Int64)
    (h : k ≠ key) : (vs.put key v).get? k = vs.get? k := if_neg h

namespace Noted

variable {m : Mapping} {a : String} {V : View} {seen more : List DocumentId}
  {vs vs₁ vs' : Versions}

theorem nil : Noted m a V [] vs vs :=
  ⟨fun _ mem => absurd mem List.not_mem_nil, fun _ _ => rfl⟩

/-- What is known of other documents stays known. -/
theorem of_not_mem {id : DocumentId} (h : Noted m a V seen vs vs') (unseen : id ∉ seen) :
    vs'.get? ⟨m.typeName, id⟩ = vs.get? ⟨m.typeName, id⟩ := by
  refine h.other _ fun id' mem same => unseen ?_
  obtain rfl : id = id' := congrArg DocumentKey.id same
  exact mem

/-- What is noted later counts. -/
theorem trans (h : Noted m a V seen vs vs₁) (later : Noted m a V more vs₁ vs') :
    Noted m a V (seen ++ more) vs vs' := by
  refine ⟨fun id mem => ?_, fun key apart => ?_⟩
  · by_cases again : id ∈ more
    · exact later.current id again
    · rw [later.of_not_mem again]
      exact h.current id ((List.mem_append.mp mem).resolve_right again)
  · rw [later.other key fun id mem => apart id (List.mem_append_right _ mem),
      h.other key fun id mem => apart id (List.mem_append_left _ mem)]

theorem set {id : DocumentId} {v : Int64} (there : V (a, id) = {v}) :
    Noted m a V [id] vs (vs.set ⟨m.typeName, id⟩ v) := by
  refine ⟨fun id' mem => ?_, fun key apart => ?_⟩
  · obtain rfl := List.mem_singleton.mp mem
    exact ⟨v, Versions.get?_put_self .., there⟩
  · exact Versions.get?_put_of_ne _ (apart id (List.mem_singleton_self id))

end Noted

/-- Choices about the mapping leave the name of the type. -/
theorem Schema.mapping_typeName (schema : Schema) (t : DocumentType) :
    (schema.mapping t).typeName = t.name := by
  have kept (m : Mapping) : (t.overrides.foldl Mapping.override m).typeName = m.typeName := by
    induction t.overrides generalizing m with
    | nil => rfl
    | cons choice rest ih =>
      rw [List.foldl_cons, ih]
      cases choice <;> rfl
  exact kept (.initial t)

/-! ### Rows -/

/-- A row that holds a document is read as that, if it can be read. -/
theorem readRow_of_holds {m : Mapping} {r : Record} {row : Row} {doc : Document} {v : Int64}
    (holds : Library.Holds r row) (h : readRow m row = .ok (doc, v)) :
    Document.read m.idKind r.data = .ok doc ∧ v = r.version := by
  obtain ⟨text, version⟩ := holds
  rw [readRow, payload, Row.takeColumn, Row.takeColumn, text, version] at h
  obtain ⟨text', same, h⟩ := Outcome.bind_eq_ok.mp h
  obtain rfl := Except.ok.inj same
  obtain ⟨doc', read, h⟩ := Outcome.bind_eq_ok.mp h
  obtain ⟨v', whole, h⟩ := Outcome.bind_eq_ok.mp h
  obtain ⟨rfl, rfl⟩ := Prod.mk.inj (Except.ok.inj h)
  exact ⟨read, (Except.ok.inj whole).symm⟩

theorem readDocuments_noted {m : Mapping} {a : String} {rows : Table}
    (sound : ∀ r ∈ rows, Sound m a r) (keyed : (versionsAt rows).Keyed) {answer : List Row}
    (holds : ∀ row ∈ answer, ∃ r ∈ rows, r.tenant = a ∧ Library.Holds r row) (vs : Versions) :
    ∃ seen, Noted m a (versionsAt rows) seen vs (readDocuments m answer vs).2 ∧
      ∀ docs, (readDocuments m answer vs).1 = .ok docs →
        seen = docs.map (·.id) ∧ docs.length = answer.length := by
  induction answer generalizing vs with
  | nil =>
    refine ⟨[], .nil, fun docs read => ?_⟩
    obtain rfl := Except.ok.inj read
    exact ⟨rfl, rfl⟩
  | cons row rest ih =>
    rw [readDocuments]
    cases first : readRow m row with
    | error f => exact ⟨[], .nil, nofun⟩
    | ok p =>
      obtain ⟨doc, v⟩ := p
      obtain ⟨r, there, mine, holdsRow⟩ := holds row List.mem_cons_self
      obtain ⟨read, rfl⟩ := readRow_of_holds holdsRow first
      -- the version is noted for the document that was read, which is the one that the row is of
      have key : r.key = (a, doc.id) := by
        rw [Record.key, mine, (sound r there).reads mine doc read]
      have one : versionsAt rows (a, doc.id) = {r.version} := by
        rw [← key]
        exact versionsAt_of_mem keyed there
      obtain ⟨seen, noted, all⟩ := ih (fun row mem => holds row (List.mem_cons_of_mem _ mem))
        (vs.set ⟨m.typeName, doc.id⟩ r.version)
      refine ⟨doc.id :: seen, (Noted.set one).trans noted, fun docs h => ?_⟩
      cases later : (readDocuments m rest (vs.set ⟨m.typeName, doc.id⟩ r.version)).1 with
      | error f => simp [later, Except.map] at h
      | ok found =>
        obtain ⟨rfl, same⟩ := all found later
        simp only [later, Except.map, Except.ok.injEq] at h
        subst h
        exact ⟨rfl, by rw [List.length_cons, List.length_cons, same]⟩

/-! ### Plans -/

/-- A plan that reads the tenant's rows of the mapping's table. -/
structure Plan.Own {α : Type} (m : Mapping) (a : String) (p : Plan α) : Prop where
  mapping : p.mapping = m
  table : p.selection.table = m.table
  tenant : p.selection.tenant = some a

/-- A possible answer to a selection of the tenant's. -/
def Answers (s : Selection) (a : String) (rows : Table) (answer : List Row) : Prop :=
  s.projection = .documents → s.existence = false → Library.Documents s a rows answer

/-- What a plan notes when it reads an answer, and what its result tells of that. -/
def Plan.Notes {α : Type} (m : Mapping) (a : String) (rows : Table) (p : Plan α)
    (tells : α → List DocumentId → Prop) : Prop :=
  ∀ answer, Answers p.selection a rows answer → ∀ vs,
    ∃ seen, Noted m a (versionsAt rows) seen vs (p.read answer vs).2 ∧
      ∀ x, (p.read answer vs).1 = .ok x → tells x seen

namespace Plan.Notes

variable {α β : Type} {m : Mapping} {a : String} {rows : Table}

theorem map {p : Plan α} {tells : α → List DocumentId → Prop} {f : α → Outcome β}
    {tells' : β → List DocumentId → Prop} (h : p.Notes m a rows tells)
    (carries : ∀ x y seen, f x = .ok y → tells x seen → tells' y seen) :
    (p.map f).Notes m a rows tells' := by
  intro answer possible vs
  obtain ⟨seen, noted, told⟩ := h answer possible vs
  refine ⟨seen, noted, fun y ended => ?_⟩
  obtain ⟨x, read, made⟩ := Outcome.bind_eq_ok.mp ended
  exact carries x y seen made (told x read)

/-- A plan that does not look at versions notes none. -/
theorem ofRows (s : Selection) (read : List Row → Outcome α) :
    (Plan.ofRows m s read).Notes m a rows fun _ seen => seen = [] :=
  fun _ _ _ => ⟨[], .nil, fun _ _ => rfl⟩

/-- A plan of documents notes those that it finds, and finds no more than it is to find. -/
theorem ofDocuments (sound : ∀ r ∈ rows, Sound m a r) (keyed : (versionsAt rows).Keyed)
    {s : Selection} (documents : s.projection = .documents) (whole : s.existence = false) :
    (Plan.ofDocuments m s).Notes m a rows fun docs seen =>
      seen = docs.map (·.id) ∧ ∀ n, s.limit = some n → docs.length ≤ n := by
  intro answer possible vs
  obtain ⟨holds, few⟩ := possible documents whole
  obtain ⟨seen, noted, all⟩ := readDocuments_noted sound keyed holds vs
  refine ⟨seen, noted, fun docs read => ?_⟩
  obtain ⟨same, length⟩ := all docs read
  exact ⟨same, fun n limit => length ▸ few n limit⟩

end Plan.Notes

/-- A plan of the tenant's that notes what its result tells. -/
structure Plan.Reads {α : Type} (m : Mapping) (a : String) (rows : Table) (p : Plan α)
    (tells : α → List DocumentId → Prop) : Prop where
  own : p.Own m a
  notes : p.Notes m a rows tells

theorem Plan.Reads.map {α β : Type} {m : Mapping} {a : String} {rows : Table} {p : Plan α}
    {tells : α → List DocumentId → Prop} {f : α → Outcome β} {tells' : β → List DocumentId → Prop}
    (h : p.Reads m a rows tells)
    (carries : ∀ x y seen, f x = .ok y → tells x seen → tells' y seen) :
    (p.map f).Reads m a rows tells' :=
  ⟨⟨h.own.mapping, h.own.table, h.own.tenant⟩, h.notes.map carries⟩

/-- A document that must be there is the one that was found. -/
theorem Plan.Reads.need {m : Mapping} {a : String} {rows : Table} {p : Plan (Option Document)}
    (h : p.Reads m a rows fun doc seen => seen = doc.toList.map (·.id)) :
    (p.map needDocument).Reads m a rows fun doc seen => seen = [doc.id] := by
  refine h.map fun found doc seen same told => ?_
  cases found with
  | none => cases same
  | some found =>
    obtain rfl := Except.ok.inj same
    exact told

/-! ### Queries -/

namespace Query

variable {q : Query} {scope : Scope} {rows : Table}

/-- The selection of a query that keeps to the tenant. -/
theorem toSelection_own {p : Projection} {s : Selection} (h : q.toSelection scope p = .ok s)
    (own : q.anyTenant = false) :
    s.table = scope.mapping.table ∧ s.tenant = some scope.tenant ∧ s.projection = p ∧
      s.existence = false := by
  obtain ⟨filters, -, h⟩ := Outcome.bind_eq_ok.mp h
  obtain ⟨order, -, h⟩ := Outcome.bind_eq_ok.mp h
  obtain rfl := Except.ok.inj h
  rw [own]
  exact ⟨rfl, rfl, rfl, rfl⟩

section

variable (sound : ∀ r ∈ rows, Sound scope.mapping scope.tenant r)
  (keyed : (versionsAt rows).Keyed) (own : q.anyTenant = false)
include sound keyed own

theorem list_reads {p : Plan (List Document)} (h : q.list scope = .ok p) :
    p.Reads scope.mapping scope.tenant rows fun docs seen => seen = docs.map (·.id) := by
  obtain ⟨s, selection, h⟩ := Outcome.bind_eq_ok.mp h
  obtain rfl := Except.ok.inj h
  obtain ⟨table, tenant, documents, whole⟩ := toSelection_own selection own
  refine ⟨⟨rfl, table, tenant⟩, fun answer possible vs => ?_⟩
  obtain ⟨seen, noted, told⟩ :=
    Plan.Notes.ofDocuments sound keyed documents whole answer possible vs
  exact ⟨seen, noted, fun docs read => (told docs read).1⟩

/-- A plan of so many documents at most finds no more. -/
theorem atMost_reads {n : Nat} {p : Plan (List Document)} (h : q.atMost n scope = .ok p) :
    p.Reads scope.mapping scope.tenant rows fun docs seen =>
      seen = docs.map (·.id) ∧ docs.length ≤ n := by
  obtain ⟨p', listed, h⟩ := Outcome.bind_eq_ok.mp h
  obtain rfl := Except.ok.inj h
  obtain ⟨s, selection, listed⟩ := Outcome.bind_eq_ok.mp listed
  obtain rfl := Except.ok.inj listed
  obtain ⟨table, tenant, documents, whole⟩ := toSelection_own selection own
  refine ⟨⟨rfl, table, tenant⟩, fun answer possible vs => ?_⟩
  obtain ⟨seen, noted, told⟩ := Plan.Notes.ofDocuments (s := s.atMost n) sound keyed documents
    whole answer possible vs
  refine ⟨seen, noted, fun docs read => ?_⟩
  obtain ⟨same, few⟩ := told docs read
  refine ⟨same, (few _ rfl).trans ?_⟩
  cases s.limit with
  | none => exact Nat.le_refl n
  | some k => exact Nat.min_le_right k n

theorem firstOrDefault_reads {p : Plan (Option Document)} (h : q.firstOrDefault scope = .ok p) :
    p.Reads scope.mapping scope.tenant rows fun doc seen => seen = doc.toList.map (·.id) := by
  obtain ⟨p', some_, h⟩ := Outcome.bind_eq_ok.mp h
  obtain rfl := Except.ok.inj h
  refine (atMost_reads sound keyed own some_).map fun docs doc seen same told => ?_
  obtain ⟨rfl, one⟩ := told
  obtain rfl := Except.ok.inj same
  rcases docs with _ | ⟨doc, _ | ⟨_, _⟩⟩
  · rfl
  · rfl
  · simp at one

theorem singleOrDefault_reads {p : Plan (Option Document)} (h : q.singleOrDefault scope = .ok p) :
    p.Reads scope.mapping scope.tenant rows fun doc seen => seen = doc.toList.map (·.id) := by
  obtain ⟨p', two, h⟩ := Outcome.bind_eq_ok.mp h
  obtain rfl := Except.ok.inj h
  refine (atMost_reads sound keyed own two).map fun docs doc seen same told => ?_
  obtain ⟨rfl, -⟩ := told
  rcases docs with _ | ⟨only, _ | ⟨_, _⟩⟩
  · obtain rfl := Except.ok.inj same
    rfl
  · obtain rfl := Except.ok.inj same
    rfl
  · cases same

theorem first_reads {p : Plan Document} (h : q.first scope = .ok p) :
    p.Reads scope.mapping scope.tenant rows fun doc seen => seen = [doc.id] := by
  obtain ⟨p', planned, h⟩ := Outcome.bind_eq_ok.mp h
  obtain rfl := Except.ok.inj h
  exact (firstOrDefault_reads sound keyed own planned).need

theorem single_reads {p : Plan Document} (h : q.single scope = .ok p) :
    p.Reads scope.mapping scope.tenant rows fun doc seen => seen = [doc.id] := by
  obtain ⟨p', planned, h⟩ := Outcome.bind_eq_ok.mp h
  obtain rfl := Except.ok.inj h
  exact (singleOrDefault_reads sound keyed own planned).need

end

/-- A plan that only looks at rows notes no versions. -/
theorem ofRows_reads {α : Type} {p : Projection} {s s' : Selection} (read : List Row → Outcome α)
    (selection : q.toSelection scope p = .ok s) (own : q.anyTenant = false)
    (table : s'.table = s.table) (tenant : s'.tenant = s.tenant) :
    (Plan.ofRows scope.mapping s' read).Reads scope.mapping scope.tenant rows
      fun _ seen => seen = [] := by
  obtain ⟨table', tenant', -, -⟩ := toSelection_own selection own
  exact ⟨⟨rfl, table.trans table', tenant.trans tenant'⟩, .ofRows _ _⟩

theorem unorderedUnlessPaged_scope (s : Selection) :
    s.unorderedUnlessPaged.table = s.table ∧ s.unorderedUnlessPaged.tenant = s.tenant := by
  rw [Selection.unorderedUnlessPaged]
  split
  · exact ⟨rfl, rfl⟩
  · exact ⟨rfl, rfl⟩

section

variable (own : q.anyTenant = false)
include own

theorem count_reads {p : Plan Nat} (h : q.count scope = .ok p) :
    p.Reads scope.mapping scope.tenant rows fun _ seen => seen = [] := by
  obtain ⟨s, selection, h⟩ := Outcome.bind_eq_ok.mp h
  obtain rfl := Except.ok.inj h
  obtain ⟨table, tenant⟩ := unorderedUnlessPaged_scope s
  exact ofRows_reads _ selection own table tenant

theorem any_reads {p : Plan Bool} (h : q.any scope = .ok p) :
    p.Reads scope.mapping scope.tenant rows fun _ seen => seen = [] := by
  obtain ⟨s, selection, h⟩ := Outcome.bind_eq_ok.mp h
  obtain rfl := Except.ok.inj h
  exact ofRows_reads _ selection own rfl rfl

theorem aggregate_reads {f : Sql.Aggregate} {m : Member} {p : Plan Value}
    (h : q.aggregate f m scope = .ok p) :
    p.Reads scope.mapping scope.tenant rows fun _ seen => seen = [] := by
  obtain ⟨l, -, h⟩ := Outcome.bind_eq_ok.mp h
  obtain ⟨s, selection, h⟩ := Outcome.bind_eq_ok.mp h
  obtain rfl := Except.ok.inj h
  obtain ⟨table, tenant⟩ := unorderedUnlessPaged_scope s
  exact ofRows_reads _ selection own table tenant

/-- So does what is made of an aggregate. -/
theorem aggregate_map_reads {α : Type} {f : Sql.Aggregate} {m : Member} {g : Value → Outcome α}
    {p : Plan α} (h : (do return (← q.aggregate f m scope).map g) = Except.ok p) :
    p.Reads scope.mapping scope.tenant rows fun _ seen => seen = [] := by
  obtain ⟨p', aggregated, h⟩ := Outcome.bind_eq_ok.mp h
  obtain rfl := Except.ok.inj h
  exact (aggregate_reads own aggregated).map fun _ _ _ _ told => told

theorem select_reads {m : Member} {shape : Typed.Shape} {distinct : Bool} {p : Plan (List Value)}
    (h : q.select m shape distinct scope = .ok p) :
    p.Reads scope.mapping scope.tenant rows fun _ seen => seen = [] := by
  obtain ⟨l, -, h⟩ := Outcome.bind_eq_ok.mp h
  obtain ⟨s, selection, h⟩ := Outcome.bind_eq_ok.mp h
  dsimp only at h
  split at h
  · cases h
  · obtain rfl := Except.ok.inj h
    exact ofRows_reads _ selection own rfl rfl

end

end Query

/-! ### Reads -/

/-- What was found tells which documents were seen. -/
def Found.Tells (f : Found) (seen : List DocumentId) : Prop :=
  seen = f.all.map (·.id)

section

variable {s : Session} {schema : Schema} {t : DocumentType} {rows : Table}
  (sound : ∀ r ∈ rows, Sound (schema.mapping t) s.tenant r) (keyed : (versionsAt rows).Keyed)
include sound keyed

theorem loadPlan_reads (id : DocumentId) :
    (s.loadPlan schema t id).Reads (schema.mapping t) s.tenant rows
      fun doc seen => seen = doc.toList.map (·.id) := by
  refine ⟨⟨rfl, rfl, rfl⟩, fun answer possible vs => ?_⟩
  obtain ⟨holds, -⟩ := possible rfl rfl
  obtain ⟨seen, noted, all⟩ := readDocuments_noted sound keyed
    (fun row mem => holds row (List.mem_of_mem_take (i := 1) mem)) vs
  refine ⟨seen, noted, fun doc read => ?_⟩
  change (readDocuments (schema.mapping t) (answer.take 1) vs).1.map List.head? = .ok doc at read
  cases found : (readDocuments (schema.mapping t) (answer.take 1) vs).1 with
  | error f => simp [found, Except.map] at read
  | ok docs =>
    obtain ⟨rfl, length⟩ := all docs found
    simp only [found, Except.map, Except.ok.injEq] at read
    subst read
    have one : docs.length ≤ 1 := length ▸ List.length_take_le 1 answer
    rcases docs with _ | ⟨only, _ | ⟨_, _⟩⟩
    · rfl
    · rfl
    · simp at one

theorem loadManyPlan_reads (ids : List DocumentId) :
    (s.loadManyPlan schema t ids).Reads (schema.mapping t) s.tenant rows
      fun docs seen => seen = docs.map (·.id) := by
  refine ⟨⟨rfl, rfl, rfl⟩, fun answer possible vs => ?_⟩
  obtain ⟨seen, noted, told⟩ := Plan.Notes.ofDocuments (s := s.ownDocuments (schema.mapping t) _)
    sound keyed rfl rfl answer possible vs
  exact ⟨seen, noted, fun docs read => (told docs read).1⟩

/-- Every read that keeps to the tenant notes the versions of the documents that it finds. -/
theorem Read.plan_reads {r : Read} {p : Plan Found} (h : r.plan s schema t = .ok p)
    (own : r.query.anyTenant = false) :
    p.Reads (schema.mapping t) s.tenant rows Found.Tells := by
  have finds {α : Type} {tells : α → List DocumentId → Prop} {f : α → Found}
      {x : Outcome (Plan α)} (planned : (do return (← x).map fun v => .ok (f v)) = Except.ok p)
      (reads : ∀ p', x = .ok p' → p'.Reads (schema.mapping t) s.tenant rows tells)
      (agree : ∀ v seen, tells v seen → (f v).Tells seen) :
      p.Reads (schema.mapping t) s.tenant rows Found.Tells := by
    obtain ⟨p', there, planned⟩ := Outcome.bind_eq_ok.mp planned
    obtain rfl := Except.ok.inj planned
    refine (reads p' there).map fun v y seen same told => ?_
    obtain rfl := Except.ok.inj same
    exact agree v seen told
  cases r with
  | load id =>
    refine finds (x := .ok _) h (fun p' same => ?_) fun _ _ told => told
    obtain rfl := Except.ok.inj same
    exact loadPlan_reads sound keyed id
  | loadMany ids =>
    refine finds (x := .ok _) h (fun p' same => ?_) fun _ _ told => told
    obtain rfl := Except.ok.inj same
    exact loadManyPlan_reads sound keyed ids
  | list q => exact finds h (fun _ => Query.list_reads sound keyed own) fun _ _ told => told
  | first q => exact finds h (fun _ => Query.first_reads sound keyed own) fun _ _ told => told
  | firstOrDefault q =>
    exact finds h (fun _ => Query.firstOrDefault_reads sound keyed own) fun _ _ told => told
  | single q => exact finds h (fun _ => Query.single_reads sound keyed own) fun _ _ told => told
  | singleOrDefault q =>
    exact finds h (fun _ => Query.singleOrDefault_reads sound keyed own) fun _ _ told => told
  | count q => exact finds h (fun _ => Query.count_reads own) fun _ _ told => told
  | any q => exact finds h (fun _ => Query.any_reads own) fun _ _ told => told
  | sum q m shape => exact finds h (fun _ => Query.aggregate_map_reads own) fun _ _ told => told
  | min q m shape => exact finds h (fun _ => Query.aggregate_map_reads own) fun _ _ told => told
  | max q m shape => exact finds h (fun _ => Query.aggregate_map_reads own) fun _ _ told => told
  | average q m => exact finds h (fun _ => Query.aggregate_map_reads own) fun _ _ told => told
  | select q m shape distinct =>
    exact finds h (fun _ => Query.select_reads own) fun _ _ told => told

end

end Folio
