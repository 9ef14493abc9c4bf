import Folio.Proofs.Versions.Advance

/-!
# Folio.Proofs.Versions.LostUpdate

No update is lost among sessions of one tenant, whatever the order of their calls.

* `System.Underway`: the invariant of such sessions, which every call keeps
  (`System.Underway.after`).
* `Trace`: calls as they were made, each with the invariant before it; what a session knows and
  has queued is followed along traces.
* `System.no_lost_update`: a save that succeeds has overwritten nothing that the session has not
  seen.
-/

namespace Folio

open Folio.Database
open Folio.Relational

namespace Call

/-- Does the call delete documents, or take a deletion back? -/
def deletes : Call → Bool
  | .delete .. | .hardDelete .. | .deleteWhere .. | .undeleteWhere .. => true
  | .read .. | .batch _ | .insert .. | .update .. | .store .. | .discard | .save => false

/-- The document that the call queues a write of. -/
def written? : Call → Option DocumentId
  | .insert _ _ doc | .update _ _ doc | .store _ _ doc => some doc.id
  | .delete _ _ id | .hardDelete _ id => some id
  | .deleteWhere .. | .undeleteWhere .. | .read .. | .batch _ | .discard | .save => none

end Call

namespace Made

/-- The call ended well, and so did each of its parts. -/
def Succeeds (e : Made) : Prop :=
  ∃ told, e.result = .ok told ∧ told.Whole

/-- The call has read the document. -/
def Reads (e : Made) (id : DocumentId) : Prop :=
  ∃ told, e.result = .ok told ∧ ∃ doc ∈ told.documents, doc.id = id

/-- The call is a save that succeeded. -/
def Saves (e : Made) : Prop :=
  e.call = .save ∧ e.result = .ok .nothing

/-- The call has committed a write of the document. -/
def Commits (e : Made) (m : Mapping) (id : DocumentId) : Prop :=
  e.Saves ∧ ∃ p ∈ e.before.pending, Session.isWriteOf m id p = true

/-- The call has committed an insert of the document. -/
def Inserts (e : Made) (m : Mapping) (id : DocumentId) : Prop :=
  e.Saves ∧ ∃ p ∈ e.before.pending, p.mapping = m ∧ p.kind = .insert id

/-- The call has read the document or committed a write of it. -/
def Accesses (e : Made) (m : Mapping) (id : DocumentId) : Prop :=
  e.Reads id ∨ e.Commits m id

/-- The call has queued a write of the document, and none was queued before. -/
def Queues (e : Made) (m : Mapping) (id : DocumentId) : Prop :=
  e.call.written? = some id ∧ e.result = .ok .nothing ∧
    ∀ p ∈ e.before.pending, Session.isWriteOf m id p = false

/-- The call has emptied the queue. -/
def Drops (e : Made) : Prop :=
  e.call = .discard ∨ e.Saves

/-- A call about documents of the type that deletes none. Reads succeed, and the database serves
what is asked. -/
structure Allowed {σ : Type} (db : Database σ) (t : DocumentType) (e : Made) : Prop where
  about : e.call.About db.store.schema t
  plain : e.call.deletes = false
  succeeds : e.call.isRead = true → e.Succeeds
  served : ∀ r ∈ e.requests db.store.schema, db.Serves r

end Made

/-! ### One call -/

section

variable {L : Library} {d : Sql.Dialect} {m : Mapping} {a : String} {id : DocumentId}
  {K K' : Content} {s s' : Session} {call : Call} {result : Except Halt Told} {p : PendingWrite}
  {i : Nat}

/-- A call that deletes nothing queues no delete. -/
theorem keepsRows_of_kind (kind : call.kind m s = some p.kind) (plain : call.deletes = false) :
    p.kind.keepsRows = true := by
  cases call with
  | insert | update | store =>
    rw [← Option.some.inj kind]
    rfl
  | delete | hardDelete | deleteWhere | undeleteWhere => cases plain
  | read | batch | discard | save => cases kind

/-- A write is queued with the version that the session expects. -/
theorem expected_of_kind (kind : call.kind m s = some p.kind) {n : Int64}
    (own : p.kind.id? = some id) (expects : p.kind.expected? = some n) :
    s.expectedVersion m id = some n := by
  cases call with
  | insert | delete | hardDelete | deleteWhere | undeleteWhere =>
    rw [← Option.some.inj kind] at expects
    cases expects
  | update | store =>
    rw [← Option.some.inj kind] at own expects
    obtain rfl := Option.some.inj own
    exact expects
  | read | batch | discard | save => cases kind

section

variable (moves : Moves L d m s K call result s' K') (works : s.WorksOn m a)
  (keeps : ∀ p ∈ s.pending, p.kind.keepsRows = true) (orderly : Orderly m a K)
include moves works keeps orderly

theorem Moves.advance : Advance (versionsAt (K m.table)) (versionsAt (K' m.table)) := by
  cases moves with
  | saved carried => exact carried.advance works.queued keeps orderly
  | read | queued | rejected | discarded | unsaved => exact .refl _

theorem Moves.passes (saves : call = .save) (succeeds : result = .ok .nothing)
    (own : ∃ p ∈ s.pending, Session.isWriteOf m id p = true) :
    Passes (a, id) (versionsAt (K m.table)) (versionsAt (K' m.table)) := by
  subst saves succeeds
  obtain ⟨p, mem, its⟩ := own
  rw [Session.isWriteOf, Bool.and_eq_true, decide_eq_true_eq, decide_eq_true_eq] at its
  cases moves with
  | saved carried => exact carried.passes works.queued keeps orderly ⟨p, mem, its.2⟩
  | read isRead => cases isRead
  | queued kind => cases kind

theorem Moves.behind (behind : Behind m a s.versions (versionsAt (K m.table)))
    (grounded : Grounded a (versionsAt (K m.table)) s.pending) :
    Behind m a s'.versions (versionsAt (K' m.table)) := by
  cases moves with
  | read _ noted _ =>
    rw [works.tenant] at noted
    exact behind.noted noted
  | saved carried => exact carried.behind works.queued keeps orderly grounded behind
  | queued | rejected | discarded | unsaved => exact behind

end

theorem Moves.keepsRows (moves : Moves L d m s K call result s' K') (plain : call.deletes = false)
    (keeps : ∀ p ∈ s.pending, p.kind.keepsRows = true) :
    ∀ p ∈ s'.pending, p.kind.keepsRows = true := by
  intro p mem
  cases moves with
  | queued kind _ =>
    rcases List.mem_append.mp mem with mem | mem
    · exact keeps p mem
    · obtain rfl := List.mem_singleton.mp mem
      exact keepsRows_of_kind kind plain
  | read | rejected | unsaved => exact keeps p mem
  | discarded | saved => cases mem

theorem Moves.grounded (moves : Moves L d m s K call result s' K')
    (behind : Behind m a s.versions (versionsAt (K m.table)))
    (grounded : Grounded a (versionsAt (K m.table)) s.pending) :
    Grounded a (versionsAt (K' m.table)) s'.pending := by
  cases moves with
  | queued kind _ => exact grounded.push behind fun id n => expected_of_kind kind
  | read | rejected | unsaved => exact grounded
  | discarded | saved => exact .nil

/-- Writes of other documents leave what is noted of this one. -/
theorem foldl_saved_of_other {ps : List PendingWrite} (queued : ∀ p ∈ ps, Written m a p)
    (others : ∀ p ∈ ps, p.kind.id? ≠ some id) (vs : Versions) :
    (ps.foldl PendingWrite.saved vs).get? ⟨m.typeName, id⟩ = vs.get? ⟨m.typeName, id⟩ := by
  induction ps generalizing vs with
  | nil => rfl
  | cons p rest ih =>
    rw [List.forall_mem_cons] at queued others
    rw [List.foldl_cons, ih queued.2 others.2]
    exact saved_of_other queued.1.mapping others.1

/-- A version that is known stays known when a write is saved that deletes nothing. -/
theorem isSome_saved (written : Written m a p) (keeps : p.kind.keepsRows = true) {vs : Versions}
    (known : (vs.get? ⟨m.typeName, id⟩).isSome ∨ p.kind = .insert id) :
    ((p.saved vs).get? ⟨m.typeName, id⟩).isSome := by
  by_cases own : p.kind.id? = some id
  · rw [← written.mapping] at known ⊢
    have counted {expected : Option Int64}
        (kind : p.kind = .update id expected ∨ p.kind = .upsert id expected) :
        ((p.saved vs).get? ⟨p.mapping.typeName, id⟩).isSome := by
      have noInsert : p.kind ≠ .insert id := by
        rcases kind with kind | kind <;> rw [kind] <;> nofun
      rw [saved_of_rewritten kind, Option.isSome_map, Option.isSome_or,
        known.resolve_right noInsert, Bool.or_true]
    cases kind : p.kind with
    | insert id' =>
      rw [kind] at own
      obtain rfl := Option.some.inj own
      simp [PendingWrite.saved, kind, Versions.set]
    | update id' expected =>
      rw [kind] at own
      obtain rfl := Option.some.inj own
      exact counted (.inl kind)
    | upsert id' expected =>
      rw [kind] at own
      obtain rfl := Option.some.inj own
      exact counted (.inr kind)
    | delete id' =>
      rw [kind] at keeps
      cases keeps
    | bulk =>
      rw [kind] at keeps
      cases keeps
  · rw [saved_of_other written.mapping own]
    refine known.resolve_right fun inserts => own ?_
    rw [inserts]
    rfl

theorem isSome_foldl_saved {ps : List PendingWrite} (queued : ∀ p ∈ ps, Written m a p)
    (keeps : ∀ p ∈ ps, p.kind.keepsRows = true) {vs : Versions}
    (known : (vs.get? ⟨m.typeName, id⟩).isSome ∨ ∃ p ∈ ps, p.kind = .insert id) :
    ((ps.foldl PendingWrite.saved vs).get? ⟨m.typeName, id⟩).isSome := by
  induction ps generalizing vs with
  | nil =>
    refine known.resolve_right ?_
    intro h
    obtain ⟨p, mem, -⟩ := h
    cases mem
  | cons p rest ih =>
    rw [List.forall_mem_cons] at queued keeps
    refine ih queued.2 keeps.2 ?_
    rcases known with known | ⟨q, mem, inserts⟩
    · exact .inl (isSome_saved queued.1 keeps.1 (.inl known))
    · rcases List.mem_cons.mp mem with rfl | mem
      · exact .inl (isSome_saved queued.1 keeps.1 (.inr inserts))
      · exact .inr ⟨q, mem, inserts⟩

/-! ### What a call does to what its session knows -/

/-- A call that tells nothing and is no successful save has neither read nor inserted a document. -/
theorem not_learns (silent : ∀ told, result = .ok told → told = .nothing)
    (unsaved : ¬(Made.mk i call s result).Saves) :
    ¬((Made.mk i call s result).Reads id ∨ (Made.mk i call s result).Inserts m id) := by
  intro h
  rcases h with ⟨told, ok, doc, mem, -⟩ | ⟨saves, -⟩
  · rw [silent told ok] at mem
    cases mem
  · exact unsaved saves

section

variable (moves : Moves L d m s K call result s' K') (works : s.WorksOn m a)
  (succeeds : call.isRead = true → (Made.mk i call s result).Succeeds)
include moves works succeeds

theorem Moves.unaccessed (unaccessed : ¬(Made.mk i call s result).Accesses m id) :
    s'.versions.get? ⟨m.typeName, id⟩ = s.versions.get? ⟨m.typeName, id⟩ := by
  cases moves with
  | read isRead noted told =>
    obtain ⟨x, ok, whole⟩ := succeeds isRead
    refine noted.of_not_mem fun seen => unaccessed (.inl ⟨x, ok, ?_⟩)
    rw [told x ok whole] at seen
    exact List.mem_map.mp seen
  | saved carried =>
    refine foldl_saved_of_other works.queued (fun p mem own => ?_) s.versions
    refine unaccessed (.inr ⟨⟨rfl, rfl⟩, p, mem, ?_⟩)
    rw [Session.isWriteOf, (works.queued p mem).mapping, own]
    simp
  | queued | rejected | discarded | unsaved => rfl

theorem Moves.known (keeps : ∀ p ∈ s.pending, p.kind.keepsRows = true)
    (known : (s.versions.get? ⟨m.typeName, id⟩).isSome ∨ (Made.mk i call s result).Reads id ∨
      (Made.mk i call s result).Inserts m id) :
    (s'.versions.get? ⟨m.typeName, id⟩).isSome := by
  cases moves with
  | @read _ _ seen vs isRead noted told =>
    by_cases now : id ∈ seen
    · obtain ⟨v, noted, -⟩ := noted.current id now
      exact Option.isSome_of_mem noted
    · rw [noted.of_not_mem now]
      rcases known with known | ⟨x, ok, doc, mem, rfl⟩ | ⟨⟨rfl, -⟩, -⟩
      · exact known
      · obtain ⟨y, ok', whole⟩ := succeeds isRead
        obtain rfl : x = y := Except.ok.inj (ok.symm.trans ok')
        rw [told x ok whole] at now
        exact absurd (List.mem_map_of_mem mem) now
      · cases isRead
  | saved carried =>
    refine isSome_foldl_saved works.queued keeps (known.imp_right ?_)
    intro h
    rcases h with ⟨x, ok, doc, mem, -⟩ | ⟨-, p, mem, -, inserts⟩
    · obtain rfl := Except.ok.inj ok
      cases mem
    · exact ⟨p, mem, inserts⟩
  | queued kind _ =>
    refine known.resolve_right (not_learns (fun _ ok => (Except.ok.inj ok).symm) ?_)
    intro h
    obtain ⟨rfl, -⟩ := h
    cases kind
  | rejected => exact known.resolve_right (not_learns nofun fun h => nomatch h.2)
  | discarded =>
    exact known.resolve_right (not_learns (fun _ ok => (Except.ok.inj ok).symm) fun h => nomatch h.1)
  | unsaved => exact known.resolve_right (not_learns nofun fun h => nomatch h.2)

end

/-- What is queued for a document is an insert of it, or carries the version that the session
expects. -/
theorem Moves.queued_of_written (moves : Moves L d m s K call result s' K') (written : call.written? = some id)
    (plain : call.deletes = false) (succeeds : result = .ok .nothing) :
    ∃ p, s' = s.push p ∧ p.kind.id? = some id ∧
      (p.kind = .insert id ∨ p.kind.expected? = s.expectedVersion m id) := by
  cases moves with
  | @queued _ p kind _ =>
    refine ⟨p, rfl, ?_⟩
    cases call with
    | insert | update | store =>
      obtain rfl := Option.some.inj written
      rw [← Option.some.inj kind]
      simp [WriteKind.id?, WriteKind.expected?]
    | delete | hardDelete | deleteWhere | undeleteWhere => cases plain
    | read | batch | discard | save => cases kind
  | read isRead =>
    cases call with
    | read | batch => cases written
    | _ => cases isRead
  | rejected => cases succeeds
  | discarded => cases written
  | saved => cases written
  | unsaved => cases written

/-- A save that succeeds has carried out what was queued. -/
theorem Moves.carries (moves : Moves L d m s K call result s' K') (save : call = .save)
    (succeeds : result = .ok .nothing) : Carries L d s.pending K K' := by
  subst save succeeds
  cases moves with
  | saved carried => exact carried
  | read isRead => cases isRead
  | queued kind => cases kind

theorem isWriteOf_eq_false_iff (written : Written m a p) :
    Session.isWriteOf m id p = false ↔ p.kind.id? ≠ some id := by
  rw [Session.isWriteOf, written.mapping]
  simp

/-- Where no write of the document is queued, the version that is known is expected. -/
theorem expectedVersion_of_unqueued (optimistic : m.optimistic = true)
    (unqueued : ∀ p ∈ s.pending, Session.isWriteOf m id p = false) :
    s.expectedVersion m id = s.versions.get? ⟨m.typeName, id⟩ := by
  have none : s.pending.reverse.find? (Session.isWriteOf m id) = none := by
    rw [List.find?_eq_none]
    intro p mem
    rw [unqueued p (List.mem_reverse.mp mem)]
    exact Bool.false_ne_true
  rw [Session.expectedVersion, if_pos optimistic, none]

/-- Unless it is emptied, the queue only grows. -/
theorem Moves.pending_grows (moves : Moves L d m s K call result s' K')
    (kept : ¬(Made.mk i call s result).Drops) : s.pending <+: s'.pending := by
  cases moves with
  | queued => exact List.prefix_append ..
  | read | rejected | unsaved => exact List.prefix_refl _
  | discarded => exact absurd (.inl rfl) kept
  | saved => exact absurd (.inr ⟨rfl, rfl⟩) kept

end

/-! ### The invariant -/

section

variable {σ : Type} {db : Database σ} {sys last : System σ} {t : DocumentType} {a : String}
  {i : Nat} {id : DocumentId} {call : Call}

/-- The versions in the table of a type. -/
def System.view (db : Database σ) (sys : System σ) (t : DocumentType) : View :=
  versionsAt (db.committed sys.world (db.store.schema.mapping t).table)

/-- Sessions of one tenant at work on one type of documents, none of which they delete. -/
structure System.Underway (db : Database σ) (sys : System σ) (t : DocumentType) (a : String) :
    Prop where
  works : ∀ j, (sys.sessions j).WorksOn (db.store.schema.mapping t) a
  keeps : ∀ j, ∀ p ∈ (sys.sessions j).pending, p.kind.keepsRows = true
  orderly : Orderly (db.store.schema.mapping t) a (db.committed sys.world)
  behind : ∀ j, Behind (db.store.schema.mapping t) a (sys.sessions j).versions (sys.view db t)
  grounded : ∀ j, Grounded a (sys.view db t) (sys.sessions j).pending

theorem System.after_self (store : Store σ) (sys : System σ) (i : Nat) (call : Call) :
    (sys.after store i call).sessions i = (sys.ended store i call).session :=
  Function.update_self ..

theorem System.after_of_ne (store : Store σ) (sys : System σ) {i j : Nat} (call : Call)
    (other : j ≠ i) : (sys.after store i call).sessions j = sys.sessions j :=
  Function.update_of_ne other ..

/-- Sessions that were just opened. -/
theorem System.Underway.fresh (fresh : ∀ j, (sys.sessions j).Fresh a)
    (orderly : Orderly (db.store.schema.mapping t) a (db.committed sys.world)) :
    sys.Underway db t a where
  works j := (fresh j).worksOn _
  keeps j p mem := by
    rw [(fresh j).pending] at mem
    cases mem
  orderly := orderly
  behind j id v known := by
    rw [(fresh j).versions] at known
    cases known
  grounded j := by
    rw [(fresh j).pending]
    exact .nil

section

variable (underway : sys.Underway db t a) (allowed : (sys.made db.store i call).Allowed db t)
include underway allowed

theorem System.Underway.moves :
    Moves db.library db.dialect (db.store.schema.mapping t) (sys.sessions i)
      (db.committed sys.world) call (sys.ended db.store i call).result
      ((sys.after db.store i call).sessions i) (db.committed (sys.after db.store i call).world) := by
  have orderly := underway.orderly
  rw [← (underway.works i).tenant] at orderly
  rw [System.after_self]
  exact Session.perform_moves allowed.about allowed.served orderly.sound orderly.keyed

theorem System.Underway.advance :
    Advance (sys.view db t) ((sys.after db.store i call).view db t) :=
  (underway.moves allowed).advance (underway.works i) (underway.keeps i) underway.orderly

/-- Every call keeps the invariant. -/
theorem System.Underway.after : (sys.after db.store i call).Underway db t a := by
  have moves := underway.moves allowed
  have advance := underway.advance allowed
  obtain ⟨works, orderly⟩ := moves.keeps (underway.works i) underway.orderly
  -- The other sessions are as before, and the rows have advanced.
  refine ⟨fun j => ?_, fun j => ?_, orderly, fun j => ?_, fun j => ?_⟩
  · by_cases own : j = i
    · rw [own]
      exact works
    · rw [System.after_of_ne db.store sys call own]
      exact underway.works j
  · by_cases own : j = i
    · rw [own]
      exact moves.keepsRows allowed.plain (underway.keeps i)
    · rw [System.after_of_ne db.store sys call own]
      exact underway.keeps j
  · by_cases own : j = i
    · rw [own]
      exact moves.behind (underway.works i) (underway.keeps i) underway.orderly (underway.behind i)
        (underway.grounded i)
    · rw [System.after_of_ne db.store sys call own]
      exact (underway.behind j).advance advance
  · by_cases own : j = i
    · rw [own]
      exact moves.grounded (underway.behind i) (underway.grounded i)
    · rw [System.after_of_ne db.store sys call own]
      exact (underway.grounded j).advance underway.orderly.keyed advance

end

/-! ### Traces -/

/-- Calls as they were made, one after the other, while the invariant holds. -/
inductive Trace (db : Database σ) (t : DocumentType) (a : String) :
    System σ → List Made → System σ → Prop
  | nil {sys : System σ} : sys.Underway db t a → Trace db t a sys [] sys
  | cons {sys last : System σ} {i : Nat} {call : Call} {events : List Made} :
      sys.Underway db t a → (sys.made db.store i call).Allowed db t →
      Trace db t a (sys.after db.store i call) events last →
      Trace db t a sys (sys.made db.store i call :: events) last

variable {events more : List Made}

theorem Trace.of_run {calls : List (Nat × Call)} (underway : sys.Underway db t a)
    (allowed : ∀ e ∈ (sys.run db.store calls).1, e.Allowed db t) :
    Trace db t a sys (sys.run db.store calls).1 (sys.run db.store calls).2 := by
  induction calls generalizing sys with
  | nil => exact .nil underway
  | cons first rest ih =>
    have now := allowed _ List.mem_cons_self
    refine .cons underway now (ih (underway.after now) fun e mem => ?_)
    exact allowed e (List.mem_cons_of_mem _ mem)

theorem Trace.underway (trace : Trace db t a sys events last) : sys.Underway db t a := by
  cases trace with
  | nil underway => exact underway
  | cons underway => exact underway

/-- Events are made one part after the other. -/
theorem Trace.append_inv (trace : Trace db t a sys (events ++ more) last) :
    ∃ mid, Trace db t a sys events mid ∧ Trace db t a mid more last := by
  induction events generalizing sys with
  | nil => exact ⟨sys, .nil trace.underway, trace⟩
  | cons e rest ih =>
    cases trace with
    | cons underway allowed later =>
      obtain ⟨mid, former, latter⟩ := ih later
      exact ⟨mid, .cons underway allowed former, latter⟩

theorem Trace.advance (trace : Trace db t a sys events last) :
    Advance (sys.view db t) (last.view db t) := by
  induction trace with
  | nil => exact .refl _
  | cons underway allowed _ ih => exact (underway.advance allowed).trans ih

/-- While the document is written by anyone, its row passes on. -/
theorem Trace.passes (trace : Trace db t a sys events last)
    (committed : ∃ e ∈ events, e.Commits (db.store.schema.mapping t) id) :
    Passes (a, id) (sys.view db t) (last.view db t) := by
  induction trace with
  | nil =>
    obtain ⟨e, mem, -⟩ := committed
    cases mem
  | @cons sys _ i _ _ underway allowed later ih =>
    obtain ⟨e, mem, commits⟩ := committed
    rcases List.mem_cons.mp mem with rfl | mem
    · obtain ⟨⟨saves, succeeds⟩, own⟩ := commits
      have passes := (underway.moves allowed).passes (underway.works i) (underway.keeps i)
        underway.orderly saves succeeds own
      exact passes.trans_advance later.advance
    · exact (underway.advance allowed).trans_passes (ih ⟨e, mem, commits⟩)

/-- What a session knows of a document changes only when it reads or writes it. -/
theorem Trace.unaccessed (trace : Trace db t a sys events last)
    (unaccessed : ∀ e ∈ events, e.session = i → ¬e.Accesses (db.store.schema.mapping t) id) :
    (last.sessions i).versions.get? ⟨(db.store.schema.mapping t).typeName, id⟩ =
      (sys.sessions i).versions.get? ⟨(db.store.schema.mapping t).typeName, id⟩ := by
  induction trace with
  | nil => rfl
  | @cons sys _ j call _ underway allowed _ ih =>
    rw [ih fun e mem => unaccessed e (List.mem_cons_of_mem _ mem)]
    by_cases own : i = j
    · subst own
      exact (underway.moves allowed).unaccessed (underway.works i) allowed.succeeds
        (unaccessed _ List.mem_cons_self rfl)
    · rw [System.after_of_ne db.store sys call own]

/-- A session that has read or inserted a document knows a version of it. -/
theorem Trace.known (trace : Trace db t a sys events last)
    (known : ((sys.sessions i).versions.get? ⟨(db.store.schema.mapping t).typeName, id⟩).isSome ∨
      ∃ e ∈ events, e.session = i ∧ (e.Reads id ∨ e.Inserts (db.store.schema.mapping t) id)) :
    ((last.sessions i).versions.get? ⟨(db.store.schema.mapping t).typeName, id⟩).isSome := by
  induction trace with
  | nil =>
    refine known.resolve_right ?_
    intro h
    obtain ⟨e, mem, -⟩ := h
    cases mem
  | @cons sys _ j call _ underway allowed _ ih =>
    have moves := underway.moves allowed
    refine ih ?_
    by_cases own : i = j
    · subst own
      rcases known with known | ⟨e, mem, same, learns⟩
      · exact .inl (moves.known (underway.works i) allowed.succeeds (underway.keeps i) (.inl known))
      · rcases List.mem_cons.mp mem with rfl | mem
        · exact .inl
            (moves.known (underway.works i) allowed.succeeds (underway.keeps i) (.inr learns))
        · exact .inr ⟨e, mem, same, learns⟩
    · rw [System.after_of_ne db.store sys call own]
      rcases known with known | ⟨e, mem, same, learns⟩
      · exact .inl known
      · rcases List.mem_cons.mp mem with rfl | mem
        · exact absurd same.symm own
        · exact .inr ⟨e, mem, same, learns⟩

/-- A queue that is not emptied keeps its writes. -/
theorem Trace.pending_grows (trace : Trace db t a sys events last)
    (kept : ∀ e ∈ events, e.session = i → ¬e.Drops) :
    (sys.sessions i).pending <+: (last.sessions i).pending := by
  induction trace with
  | nil => exact List.prefix_refl _
  | @cons sys _ j call _ underway allowed _ ih =>
    refine List.IsPrefix.trans ?_ (ih fun e mem => kept e (List.mem_cons_of_mem _ mem))
    by_cases own : i = j
    · subst own
      exact (underway.moves allowed).pending_grows (kept _ List.mem_cons_self rfl)
    · simp only [System.after_of_ne db.store sys call own, List.prefix_refl]

/-! ### Saves that succeed -/

/-- A save of a session that succeeds, seen from one of the documents that it writes: the last time
before the queuing at which the session accessed the document, the call that queued the first of
the writes, and the save. -/
structure Attempt (m : Mapping) (i : Nat) (id : DocumentId) (former : List Made) (access : Made)
    (between : List Made) (queue : Made) (later : List Made) (save : Made) : Prop where
  /-- When the write was queued, the session had read the document or had inserted it. -/
  known : ∃ e ∈ former ++ [access], e.session = i ∧ (e.Reads id ∨ e.Inserts m id)
  accessed : access.session = i ∧ access.Accesses m id
  last : ∀ e ∈ between, e.session = i → ¬e.Accesses m id
  queued : queue.session = i ∧ queue.Queues m id
  kept : ∀ e ∈ later, e.session = i → ¬e.Drops
  saved : save.session = i ∧ save.Saves

/-- No update is lost. If a save succeeds, nobody has committed a write of a document that it
writes since the session last read or wrote that document. -/
theorem System.no_lost_update {calls : List (Nat × Call)} {former between later : List Made}
    {access queue save : Made} (optimistic : (db.store.schema.mapping t).optimistic = true)
    (fresh : ∀ j, (sys.sessions j).Fresh a)
    (orderly : Orderly (db.store.schema.mapping t) a (db.committed sys.world))
    (allowed : ∀ e ∈ (sys.run db.store calls).1, e.Allowed db t)
    (events : (sys.run db.store calls).1 =
      (former ++ [access]) ++ ((between ++ queue :: later) ++ [save]))
    (attempt : Attempt (db.store.schema.mapping t) i id former access between queue later save) :
    ∀ e ∈ between ++ queue :: later, ¬e.Commits (db.store.schema.mapping t) id := by
  intro e mem commits
  have trace := Trace.of_run (.fresh fresh orderly) allowed
  rw [events] at trace
  obtain ⟨sys₁, before, rest⟩ := trace.append_inv
  obtain ⟨sys₄, since, saving⟩ := rest.append_inv
  obtain ⟨sys₂, unaccessed, queuing⟩ := since.append_inv
  -- The version that the session knows was reached when it last accessed the document.
  obtain ⟨v, known⟩ := Option.isSome_iff_exists.mp (before.known (.inr attempt.known))
  obtain ⟨w, there, reached⟩ := since.underway.behind i id v known
  obtain ⟨w', there', passed⟩ := since.passes ⟨e, mem, commits⟩ w there
  -- The first write of the document expects that version.
  have still := unaccessed.unaccessed attempt.last
  rw [known] at still
  cases queuing with
  | @cons _ _ j call _ underway₂ allowed₂ kept =>
    obtain ⟨same, writes, succeeds, none⟩ := attempt.queued
    obtain rfl : j = i := same
    have unqueued : ∀ q ∈ (sys₂.sessions j).pending,
        Session.isWriteOf (db.store.schema.mapping t) id q = false := none
    obtain ⟨p, pushed, own, expects⟩ :=
      (underway₂.moves allowed₂).queued_of_written writes allowed₂.plain succeeds
    rw [expectedVersion_of_unqueued optimistic unqueued, still] at expects
    -- It is still queued when the session saves, and it is the first.
    obtain ⟨more, grown⟩ := kept.pending_grows attempt.kept
    have queue : (sys₄.sessions j).pending = (sys₂.sessions j).pending ++ p :: more := by
      rw [← grown, pushed, Session.push, List.append_assoc]
      rfl
    have first : ∀ q ∈ (sys₂.sessions j).pending, q.kind.id? ≠ some id := fun q mem =>
      (isWriteOf_eq_false_iff ((underway₂.works j).queued q mem)).mp (unqueued q mem)
    cases saving with
    | @cons _ _ k call' _ underway₄ allowed₄ _ =>
      obtain ⟨same, save, ok⟩ := attempt.saved
      obtain rfl : k = j := same
      have carried := (underway₄.moves allowed₄).carries save ok
      have written := (underway₄.works k).queued
      have keeps := underway₄.keeps k
      rw [queue] at carried written keeps
      obtain ⟨noInsert, meets⟩ :=
        carried.meets written keeps underway₄.orderly first own there'
      have expects := meets v (expects.resolve_left noInsert)
      rw [expects] at reached
      omega

end

namespace Orders

/-- An order that is written by one session, while another one does something else. -/
def rewriting : List (Nat × Call) :=
  [(0, .insert type .epoch order), (0, .save), (0, .store type .epoch order), (1, .discard),
    (0, .save)]

theorem rewriting_allowed :
    ∀ e ∈ (system.run database.store rewriting).1, e.Allowed database type := by
  intro e mem
  have made : (e.session, e.call) ∈ rewriting := by
    rw [← System.run_calls database.store system rewriting]
    exact List.mem_map_of_mem mem
  have answered := answers rfl e mem
  simp only [rewriting, List.mem_cons, Prod.mk.injEq, List.not_mem_nil, or_false] at made
  refine ⟨?_, ?_, ?_, fun r asked => (answered r asked).serves⟩
  · rcases made with ⟨-, call⟩ | ⟨-, call⟩ | ⟨-, call⟩ | ⟨-, call⟩ | ⟨-, call⟩ <;> rw [call]
    · exact ⟨rfl, order_faithful⟩
    · trivial
    · exact ⟨rfl, order_faithful⟩
    · trivial
    · trivial
  · rcases made with ⟨-, call⟩ | ⟨-, call⟩ | ⟨-, call⟩ | ⟨-, call⟩ | ⟨-, call⟩ <;> rw [call] <;> rfl
  · rcases made with ⟨-, call⟩ | ⟨-, call⟩ | ⟨-, call⟩ | ⟨-, call⟩ | ⟨-, call⟩ <;> rw [call] <;> nofun

/-- The system after so many of these calls. -/
noncomputable def stage (n : Nat) : System Contents :=
  (system.run database.store (rewriting.take n)).2

/-- The second save has overwritten what the first one has written. -/
theorem no_lost_update_rewriting :
    ((stage 4).made database.store 0 .save).Saves ∧
      ∀ e ∈ [] ++ (stage 2).made database.store 0 (.store type .epoch order) ::
        [(stage 3).made database.store 1 .discard], ¬e.Commits mapping (.int32 7) := by
  have saved : ((stage 1).made database.store 0 .save).Saves := ⟨rfl, rfl⟩
  have saved' : ((stage 4).made database.store 0 .save).Saves := ⟨rfl, rfl⟩
  have events : (system.run database.store rewriting).1 =
      ([(stage 0).made database.store 0 (.insert type .epoch order)] ++
        [(stage 1).made database.store 0 .save]) ++
      (([] ++ (stage 2).made database.store 0 (.store type .epoch order) ::
        [(stage 3).made database.store 1 .discard]) ++
        [(stage 4).made database.store 0 .save]) := rfl
  have queue : ((stage 1).sessions 0).pending = [⟨mapping, .insert (.int32 7), insertion⟩] := rfl
  have inserts : ((stage 1).made database.store 0 .save).Inserts mapping (.int32 7) :=
    ⟨saved, _, by rw [System.made, queue]; exact List.mem_cons_self, rfl, rfl⟩
  have isWrite : Session.isWriteOf mapping (.int32 7)
      ⟨mapping, .insert (.int32 7), insertion⟩ = true := by decide
  have attempt : Attempt mapping 0 (.int32 7)
      [(stage 0).made database.store 0 (.insert type .epoch order)]
      ((stage 1).made database.store 0 .save) []
      ((stage 2).made database.store 0 (.store type .epoch order))
      [(stage 3).made database.store 1 .discard] ((stage 4).made database.store 0 .save) := by
    refine ⟨?_, ?_, ?_, ?_, ?_, ⟨rfl, saved'⟩⟩
    · exact ⟨_, List.mem_append_right _ List.mem_cons_self, rfl, .inr inserts⟩
    · exact ⟨rfl, .inr ⟨saved, _, by rw [System.made, queue]; exact List.mem_cons_self, isWrite⟩⟩
    · exact fun e mem => absurd mem List.not_mem_nil
    · have empty : ((stage 2).sessions 0).pending = [] := rfl
      refine ⟨rfl, rfl, rfl, fun p mem => ?_⟩
      rw [System.made, empty] at mem
      cases mem
    · intro e mem same
      rw [List.mem_singleton.mp mem] at same
      cases same
  have start : Orderly (database.store.schema.mapping type) "a" (database.committed system.world) :=
    orderly
  exact ⟨saved', System.no_lost_update rfl (fun _ => ⟨rfl, rfl, rfl⟩) start rewriting_allowed
    events attempt⟩

end Orders

end Folio
