import Folio.Proofs.Session.Columns
import Folio.Proofs.Versions.Moves

/-!
# Folio.Proofs.Versions.Forecast

What a session expects of a document does not change when its writes are saved.

Before a save the session looks at the last queued write of the document, and after it at what was noted of the
document while the writes of the whole queue were carried out. The two agree since each update or store in the
queue carries the version at which the writes before it leave the document (`Session.Chained`). Every call keeps
that, but for a read that notes another version of a document while a write of it is queued.
-/

namespace Folio

open Folio.Database

variable {σ : Type}

/-! ### Calls -/

/-- The type whose documents the call writes. -/
def Call.writes? : Call → Option DocumentType
  | .insert t .. | .update t .. | .store t .. | .delete t .. | .hardDelete t _ | .deleteWhere t .. |
    .undeleteWhere t _ => some t
  | .read .. | .batch _ | .discard | .save => none

namespace Session

/-- How a call leaves a session, whatever the database answers. -/
inductive Follows (schema : Schema) (s : Session) : Call → Session → Prop
  | same {call : Call} : Follows schema s call s
  | read {call : Call} {s' : Session} : call.isRead → s'.pending = s.pending → Follows schema s call s'
  | queued {call : Call} {t : DocumentType} {p : PendingWrite} :
      call.writes? = some t → p.mapping = schema.mapping t → call.kind p.mapping s = some p.kind →
      Follows schema s call (s.push p)
  | emptied {call : Call} {s' : Session} : s'.pending = [] → Follows schema s call s'

section

variable {schema : Schema} {s : Session} {call : Call} {w : World σ}

theorem Follows.of_outcome {x : Outcome Session} (h : ∀ s', x = .ok s' → Follows schema s call s') :
    Follows schema s call (s.queued w x).session := by
  cases x with
  | ok s' => exact h s' rfl
  | error f => exact .same

/-- Writes of a document that has a stored form. -/
theorem Follows.stored {t : DocumentType} {m : Mapping} {now : Time.Timestamp} {doc : Document}
    {f : Statement.StoredDocument → PendingWrite} {s' : Session}
    (done : (do
      let stored ← s.storedDocument t m now doc
      return s.push (f stored)) = Except.ok s')
    (h : ∀ stored, Follows schema s call (s.push (f stored))) : Follows schema s call s' := by
  obtain ⟨stored, -, done⟩ := Outcome.bind_eq_ok.mp done
  obtain rfl := Except.ok.inj done
  exact h stored

/-- A save that does not succeed leaves the session as it is. -/
theorem saveChanges_cases (store : Store σ) (s : Session) (w : World σ) :
    (s.saveChanges store w).result = .ok () ∧ (s.saveChanges store w).session = s.saved ∨
      (s.saveChanges store w).result ≠ .ok () ∧ (s.saveChanges store w).session = s := by
  by_cases nothing : s.pending = []
  · have unchanged : s.saved = s := by
      obtain ⟨tenant, pending, versions⟩ := s
      obtain rfl : pending = [] := nothing
      rfl
    rw [saveChanges_nothing nothing, unchanged]
    exact .inl ⟨rfl, rfl⟩
  · rcases acquired : store.acquire w with ⟨halt | c, w₁⟩
    · rw [saveChanges_unconnected nothing acquired]
      refine .inr ⟨fun done => ?_, rfl⟩
      cases done
    · obtain ⟨_, _, _, _, result, -, ended⟩ := save_conversation nothing acquired
      rw [saveChanges, ended]
      cases result with
      | error halt =>
        refine .inr ⟨fun done => ?_, rfl⟩
        cases done
      | ok _ => exact .inl ⟨rfl, rfl⟩

theorem perform_follows (store : Store σ) (s : Session) (call : Call) (w : World σ) :
    Follows store.schema s call (s.perform store call w).session := by
  cases call with
  | read t r =>
    by_cases nothing : r = .loadMany []
    · subst nothing
      exact .same
    · rw [perform_read store nothing]
      cases planned : r.plan s store.schema t with
      | error f => exact .same
      | ok p => exact .read rfl (run_pending store p)
  | batch items => exact .read rfl (execute_pending store _)
  | insert t now doc => exact .of_outcome fun _ done => .stored done fun _ => .queued (t := t) rfl rfl rfl
  | update t now doc => exact .of_outcome fun _ done => .stored done fun _ => .queued (t := t) rfl rfl rfl
  | store t now doc => exact .of_outcome fun _ done => .stored done fun _ => .queued (t := t) rfl rfl rfl
  | delete t now id => exact .queued (t := t) rfl rfl rfl
  | hardDelete t id => exact .queued (t := t) rfl rfl rfl
  | deleteWhere t now e =>
    refine .of_outcome fun _ done => ?_
    obtain ⟨filter, -, done⟩ := Outcome.bind_eq_ok.mp done
    obtain rfl := Except.ok.inj done
    exact .queued (t := t) rfl rfl rfl
  | undeleteWhere t e =>
    refine .of_outcome fun _ done => ?_
    unfold Session.undeleteWhere at done
    dsimp only at done
    split at done
    · cases done
    · obtain ⟨filter, -, done⟩ := Outcome.bind_eq_ok.mp done
      obtain rfl := Except.ok.inj done
      exact .queued (t := t) rfl rfl rfl
  | discard => exact .emptied rfl
  | save =>
    have session : (s.perform store .save w).session = (s.saveChanges store w).session := rfl
    rcases s.saveChanges_cases store w with ⟨-, saved⟩ | ⟨-, kept⟩
    · rw [session, saved]
      exact .emptied rfl
    · rw [session, kept]
      exact .same

end

/-! ### Queues -/

section

variable {m : Mapping} {id : DocumentId} {noted : Option Int64} {ps : List PendingWrite} {p : PendingWrite}

/-- The version at which queued writes leave a document, where this one was noted before. -/
def leftBy (m : Mapping) (id : DocumentId) (noted : Option Int64) (ps : List PendingWrite) : Option Int64 :=
  match ps.reverse.find? (isWriteOf m id) with
  | some p => p.kind.versionAfter
  | none => noted

theorem expectedVersion_eq {s : Session} (optimistic : m.optimistic) :
    s.expectedVersion m id = leftBy m id (s.versions.get? ⟨m.typeName, id⟩) s.pending :=
  if_pos optimistic

/-- The last write of the document decides. -/
theorem leftBy_of_last {latter : List PendingWrite} (own : isWriteOf m id p)
    (others : ∀ r ∈ latter, isWriteOf m id r = false) :
    leftBy m id noted (ps ++ p :: latter) = p.kind.versionAfter := by
  have unfound : latter.reverse.find? (isWriteOf m id) = none :=
    List.find?_eq_none.mpr fun r mem => by simp [others r (List.mem_reverse.mp mem)]
  have reversed : (ps ++ p :: latter).reverse = latter.reverse ++ p :: ps.reverse := by simp
  rw [leftBy, reversed, List.find?_append, unfound, Option.none_or, List.find?_cons_of_pos own]

theorem leftBy_concat_of_other (other : isWriteOf m id p = false) :
    leftBy m id noted (ps ++ [p]) = leftBy m id noted ps := by
  rw [leftBy, List.reverse_concat, List.find?_cons_of_neg (by simp [other])]
  rfl

/-- Is it an update or a store of the document that carries this version? -/
def Carrying (m : Mapping) (id : DocumentId) (e : Option Int64) (p : PendingWrite) : Prop :=
  p.mapping.typeName = m.typeName ∧ (p.kind = .update id e ∨ p.kind = .upsert id e)

/-- Each update or store of the document carries the version at which the writes before it leave the document. -/
def Chained (m : Mapping) (id : DocumentId) (noted : Option Int64) (ps : List PendingWrite) : Prop :=
  ∀ former p latter e, ps = former ++ p :: latter → Carrying m id e p → e = leftBy m id noted former

theorem Carrying.isWriteOf {e : Option Int64} (h : Carrying m id e p) : isWriteOf m id p := by
  obtain ⟨type, kind | kind⟩ := h <;> simp [Session.isWriteOf, type, kind, WriteKind.id?]

theorem Chained.nil : Chained m id noted [] := by
  intro former p latter e split
  cases former <;> cases split

theorem Chained.concat_iff : Chained m id noted (ps ++ [p]) ↔
    Chained m id noted ps ∧ ∀ e, Carrying m id e p → e = leftBy m id noted ps := by
  constructor
  · intro chained
    refine ⟨fun former q latter e split => ?_, fun e => chained ps p [] e rfl⟩
    subst split
    exact chained former q (latter ++ [p]) e (by simp)
  · rintro ⟨chained, last⟩ former q latter e split
    rcases List.eq_nil_or_concat latter with rfl | ⟨latter, r, rfl⟩
    · obtain ⟨rfl, rfl⟩ := List.append_inj' split rfl |>.imp_right List.singleton_inj.mp
      exact last e
    · have split : ps ++ [p] = (former ++ q :: latter) ++ [r] := by simpa using split
      exact chained former q latter e (List.append_inj_left' split rfl)

/-- Where no write of the document is queued, any version can have been noted. -/
theorem Chained.of_none (none : ∀ p ∈ ps, isWriteOf m id p = false) : Chained m id noted ps := by
  intro former p latter e split carrying
  have own := carrying.isWriteOf
  rw [none p (split ▸ by simp)] at own
  cases own

theorem isWriteOf_iff : isWriteOf m id p ↔ p.mapping.typeName = m.typeName ∧ p.kind.id? = some id := by
  simp [isWriteOf]

/-- A write that expects what is noted of its document leaves the document at the version that is noted then. -/
theorem get?_saved_of_own {vs : Versions} (own : p.kind.id? = some id)
    (expects : ∀ e, p.kind = .update id e ∨ p.kind = .upsert id e → e = vs.get? ⟨p.mapping.typeName, id⟩) :
    (p.saved vs).get? ⟨p.mapping.typeName, id⟩ = p.kind.versionAfter := by
  have rewritten {e : Option Int64} (kind : p.kind = .update id e ∨ p.kind = .upsert id e) :
      (p.saved vs).get? ⟨p.mapping.typeName, id⟩ = e.map (· + 1) := by
    rw [saved_of_rewritten kind, ← expects e kind, Option.or_self]
  cases kind : p.kind with
  | insert id' | delete id' =>
    obtain rfl : id' = id := by simpa [kind, WriteKind.id?] using own
    simp only [PendingWrite.saved, kind]
    exact Versions.get?_put_self ..
  | update id' e =>
    obtain rfl : id' = id := by simpa [kind, WriteKind.id?] using own
    exact rewritten (.inl kind)
  | upsert id' e =>
    obtain rfl : id' = id := by simpa [kind, WriteKind.id?] using own
    exact rewritten (.inr kind)
  | bulk => simp [kind, WriteKind.id?] at own

/-- What is noted of the document when a queue has been carried out is the version at which the queue leaves it. -/
theorem Chained.get?_foldl_saved {vs : Versions} (chained : Chained m id (vs.get? ⟨m.typeName, id⟩) ps) :
    (ps.foldl PendingWrite.saved vs).get? ⟨m.typeName, id⟩ = leftBy m id (vs.get? ⟨m.typeName, id⟩) ps := by
  induction ps using List.reverseRecOn with
  | nil => rfl
  | append_singleton ps p ih =>
    obtain ⟨before, last⟩ := concat_iff.mp chained
    -- what is noted when `p` is carried out is what `p` was to expect when it was queued
    have noted := ih before
    rw [List.foldl_concat]
    cases own : Session.isWriteOf m id p with
    | false =>
      have other : ∀ id', p.kind.id? = some id' →
          (⟨m.typeName, id⟩ : DocumentKey) ≠ ⟨p.mapping.typeName, id'⟩ := by
        intro id' named same
        obtain ⟨type, rfl⟩ := DocumentKey.mk.inj same
        rw [isWriteOf_iff.mpr ⟨type.symm, named⟩] at own
        cases own
      rw [PendingWrite.get?_saved_of_ne other, noted, leftBy_concat_of_other own]
    | true =>
      obtain ⟨type, named⟩ := isWriteOf_iff.mp own
      rw [leftBy_of_last own (by simp), ← type]
      refine get?_saved_of_own named fun e kind => ?_
      rw [type, noted]
      exact last e ⟨type, kind⟩

end

/-! ### Calls and the queue -/

section

variable {schema : Schema} {t : DocumentType} {id : DocumentId} {s s' : Session} {call : Call}

/-- What a call queues expects the version that the session does. -/
theorem expected_of_kind {m : Mapping} {kind : WriteKind} {e : Option Int64} (queues : call.kind m s = some kind)
    (carries : kind = .update id e ∨ kind = .upsert id e) : e = s.expectedVersion m id := by
  rcases carries with rfl | rfl <;> cases call <;> cases queues <;> rfl

/-- A call keeps the queue so, but for a read that notes something else of a document that is to be written. -/
theorem Follows.chained (follows : Follows schema s call s') (optimistic : (schema.mapping t).optimistic)
    (named : ∀ t', call.writes? = some t' → t'.name = t.name → t' = t)
    (unread : call.isRead → (∃ p ∈ s.pending, isWriteOf (schema.mapping t) id p) →
      s'.versionOf t id = s.versionOf t id)
    (chained : Chained (schema.mapping t) id (s.versionOf t id) s.pending) :
    Chained (schema.mapping t) id (s'.versionOf t id) s'.pending := by
  cases follows with
  | same => exact chained
  | read reads same =>
    rw [same]
    -- with no write of the document queued, a read may note any version
    by_cases queued : ∃ p ∈ s.pending, isWriteOf (schema.mapping t) id p
    · rw [unread reads queued]
      exact chained
    · refine .of_none fun p mem => ?_
      simpa using fun own => queued ⟨p, mem, own⟩
  | @queued t' p writes mapping queues =>
    refine Chained.concat_iff.mpr ⟨chained, fun e carrying => ?_⟩
    obtain ⟨type, carries⟩ := carrying
    obtain rfl : t' = t := by
      rw [mapping, Schema.mapping_typeName, Schema.mapping_typeName] at type
      exact named t' writes type
    rw [mapping] at queues
    rw [expected_of_kind queues carries, expectedVersion_eq optimistic, Schema.mapping_typeName]
    rfl
  | emptied none =>
    rw [none]
    exact .nil

end

end Session

/-- The version at which a write leaves the row of its document, as far as it is known. -/
inductive WriteKind.Leaves : WriteKind → Option Int64 → Prop
  | inserted {id : DocumentId} : Leaves (.insert id) (some 1)
  | updated {id : DocumentId} {v : Int64} : Leaves (.update id (some v)) (some (v + 1))
  | stored {id : DocumentId} {v : Int64} : Leaves (.upsert id (some v)) (some (v + 1))
  | updatedUnchecked {id : DocumentId} : Leaves (.update id none) none
  | storedUnchecked {id : DocumentId} : Leaves (.upsert id none) none
  | deleted {id : DocumentId} : Leaves (.delete id) none

theorem WriteKind.leaves_versionAfter {kind : WriteKind} {id : DocumentId} (own : kind.id? = some id) :
    kind.Leaves kind.versionAfter := by
  cases kind with
  | insert _ => exact .inserted
  | update _ e =>
    cases e with
    | none => exact .updatedUnchecked
    | some v => exact .updated
  | upsert _ e =>
    cases e with
    | none => exact .storedUnchecked
    | some v => exact .stored
  | delete _ => exact .deleted
  | bulk => cases own

namespace Session

/-- The sessions to which any calls lead from one with nothing queued, whatever is noted there and whatever the
database answers, but for this: the type's name is that of no other type that is written, and while a write of the
document is queued no read notes another version of it. -/
inductive Undisturbed (store : Store σ) (t : DocumentType) (id : DocumentId) : Session → Prop
  | idle {s : Session} : s.pending = [] → Undisturbed store t id s
  | called {s : Session} (call : Call) (w : World σ) :
      Undisturbed store t id s →
      (∀ t', call.writes? = some t' → t'.name = t.name → t' = t) →
      (call.isRead → (∃ p ∈ s.pending, isWriteOf (store.schema.mapping t) id p) →
        (s.perform store call w).session.versionOf t id = s.versionOf t id) →
      Undisturbed store t id (s.perform store call w).session

variable {store : Store σ} {t : DocumentType} {id : DocumentId} {s : Session}

theorem Undisturbed.chained (reached : Undisturbed store t id s) (optimistic : (store.schema.mapping t).optimistic) :
    Chained (store.schema.mapping t) id (s.versionOf t id) s.pending := by
  induction reached with
  | idle none =>
    rw [none]
    exact .nil
  | @called s call w _ named unread ih => exact (perform_follows store s call w).chained optimistic named unread ih

/-- What a session expects of a document is what it expects after its writes were saved. In the queue each update or
store of the document carries the version at which the write of the document before it leaves the document. -/
theorem expectedVersion_saved (reached : Undisturbed store t id s)
    (optimistic : (store.schema.mapping t).optimistic) :
    (∀ w, (s.saveChanges store w).result = .ok () →
      (s.saveChanges store w).session.expectedVersion (store.schema.mapping t) id =
        s.expectedVersion (store.schema.mapping t) id) ∧
    ∀ former q between p latter, s.pending = former ++ q :: (between ++ p :: latter) →
      isWriteOf (store.schema.mapping t) id q →
      (∀ r ∈ between, isWriteOf (store.schema.mapping t) id r = false) →
      isWriteOf (store.schema.mapping t) id p →
      ∀ e, (p.kind = .update id e ∨ p.kind = .upsert id e) → q.kind.Leaves e := by
  have chained := reached.chained optimistic
  constructor
  · intro w succeeds
    obtain ⟨-, saved⟩ := (s.saveChanges_cases store w).resolve_right fun unsaved => unsaved.1 succeeds
    have known : (⟨t.name, id⟩ : DocumentKey) = ⟨(store.schema.mapping t).typeName, id⟩ := by
      rw [Schema.mapping_typeName]
    rw [versionOf, known] at chained
    rw [saved, expectedVersion_eq optimistic, expectedVersion_eq optimistic, ← chained.get?_foldl_saved]
    rfl
  · intro former q between p latter split ownQ others ownP e carries
    have carrying : Carrying (store.schema.mapping t) id e p := ⟨(isWriteOf_iff.mp ownP).1, carries⟩
    rw [chained (former ++ q :: between) p latter e (by rw [split, List.append_assoc]; rfl) carrying,
      leftBy_of_last ownQ others]
    exact WriteKind.leaves_versionAfter (isWriteOf_iff.mp ownQ).2

end Session
namespace Orders

/-- An order is inserted and written back, and in between others are written. -/
def drafting : List Call :=
  [.insert type .epoch order, .deleteWhere type .epoch (.value (.bool true)), .store legacy .epoch order,
    .update type .epoch order]

/-- A session after these calls, which had read the order before. -/
def drafted : Session :=
  drafting.foldl (fun s call => (s.perform obliging call { state := () }).session)
    { tenant := "a", versions := Versions.empty.set ⟨"Order", order.id⟩ 5 }

theorem drafted_undisturbed : Session.Undisturbed obliging type order.id drafted := by
  have orders : ∀ t', some type = some t' → t'.name = type.name → t' = type :=
    fun _ same _ => (Option.some.inj same).symm
  have others : ∀ t', some legacy = some t' → t'.name = type.name → t' = type := by
    rintro _ ⟨⟩ same
    exact absurd same (by decide)
  exact .called _ _ (.called _ _ (.called _ _ (.called _ _ (.idle rfl) orders nofun) orders nofun) others nofun)
    orders nofun

/-- The update carries the version after the insert, and both the session and the saved one expect the next. -/
theorem expectedVersion_saved_drafted :
    drafted.pending.map (·.kind) =
        [.insert order.id, .bulk, .upsert order.id none, .update order.id (some 1)] ∧
      WriteKind.Leaves (.insert order.id) (some 1) ∧
      drafted.expectedVersion (obliging.schema.mapping type) order.id = some 2 ∧
      (drafted.saveChanges obliging { state := () }).session.expectedVersion (obliging.schema.mapping type)
        order.id = some 2 := by
  have optimistic : (obliging.schema.mapping type).optimistic := rfl
  obtain ⟨saves, leaves⟩ := Session.expectedVersion_saved drafted_undisturbed optimistic
  have expected : drafted.expectedVersion (obliging.schema.mapping type) order.id = some 2 := rfl
  refine ⟨rfl, ?_, expected, (saves { state := () } rfl).trans expected⟩
  refine leaves [] (drafted.pending.get ⟨0, by decide⟩)
    [drafted.pending.get ⟨1, by decide⟩, drafted.pending.get ⟨2, by decide⟩]
    (drafted.pending.get ⟨3, by decide⟩) [] rfl rfl ?_ rfl (some 1) (.inl rfl)
  simp only [List.forall_mem_cons]
  exact ⟨rfl, rfl, by simp⟩

end Orders

end Folio
