import Folio.Proofs.Versions.Moves

/-!
# Folio.Proofs.Versions.Agreement

When the versions that a session knows are those of the rows.

A session does not read back what its writes have done: it computes the versions. While nobody
else writes, it computes them rightly but for one case. A `store` that finds no row inserts one at
version 1, and if the session has a version of that document, it counts that one up instead.

* `Recreates`: a write for which that is so.
* `Misleads`: writes that leave a wrong version behind, since one of them is such a write.
* `System.versions_agree_iff`: the versions agree after every call, unless a save misleads.
-/

namespace Folio

open Folio.Database
open Folio.Relational

variable {L : Library} {d : Sql.Dialect} {m : Mapping} {a : String} {id : DocumentId}
  {vs : Versions} {V V' : View} {K K' : Content} {p : PendingWrite} {ps : List PendingWrite}

/-! ### One write -/

/-- The session has a version of the document, the row has another. -/
def Differs (m : Mapping) (a : String) (id : DocumentId) (vs : Versions) (V : View) : Prop :=
  ∃ v w, vs.get? ⟨m.typeName, id⟩ = some v ∧ V (a, id) = {w} ∧ v ≠ w

theorem Differs.row (differs : Differs m a id vs V) : V (a, id) ≠ 0 := by
  obtain ⟨v, w, -, there, -⟩ := differs
  exact View.ne_zero_of_version there

/-- A store that inserts the row of the document although the session has a version of it: the one
that the store expects, or else the one that is noted. -/
def Recreates (m : Mapping) (a : String) (id : DocumentId) (vs : Versions) (V : View)
    (p : PendingWrite) : Prop :=
  ∃ expected v, p.kind = .upsert id expected ∧ V (a, id) = 0 ∧
    expected.or (vs.get? ⟨m.typeName, id⟩) = some v ∧ v ≠ 0

/-- A write that leaves the document alone, or counts its version up whatever it is. -/
def WriteKind.counts (id : DocumentId) : WriteKind → Bool
  | .bulk | .update _ none | .upsert _ none => true
  | .insert id' | .update id' (some _) | .upsert id' (some _) | .delete id' => id' ≠ id

/-- Counting up is injective. -/
theorem add_one_inj {v w : Int64} : v + 1 = w + 1 ↔ v = w := by
  constructor
  · intro same
    have back : v + 1 - 1 = w + 1 - 1 := by rw [same]
    simpa using back
  · intro same
    rw [same]

theorem differs_iff_of_other {soft : Bool} (shift : Shift a soft p.kind V V')
    (same : p.mapping = m) (other : p.kind.id? ≠ some id) :
    Differs m a id (p.saved vs) V' ↔ Differs m a id vs V ∧ V' (a, id) ≠ 0 := by
  rw [Differs, Differs, saved_of_other same other]
  rcases shift.other other with kept | gone
  · rw [kept]
    exact ⟨fun differs => ⟨differs, Differs.row differs⟩, fun differs => differs.1⟩
  · refine iff_of_false ?_ fun differs => differs.2 gone
    intro h
    obtain ⟨v, w, -, there, -⟩ := h
    exact View.ne_zero_of_version there gone

/-- Where the session has no version, or the one of the row, nothing differs. -/
theorem not_differs_of_eq {v : Int64} (known : vs.get? ⟨m.typeName, id⟩ = some v)
    (there : V (a, id) = {v}) : ¬Differs m a id vs V := by
  intro h
  obtain ⟨v', w, known', there', differs⟩ := h
  rw [known] at known'
  exact differs ((Option.some.inj known').symm.trans (View.version_inj there there'))

theorem not_differs_of_none (unknown : vs.get? ⟨m.typeName, id⟩ = none) : ¬Differs m a id vs V := by
  intro h
  obtain ⟨v, w, known, -⟩ := h
  rw [unknown] at known
  cases known

theorem not_differs_of_absent (absent : V (a, id) = 0) : ¬Differs m a id vs V :=
  fun differs => differs.row absent

/-- A row is inserted at version 1, whatever version was counted up for it. -/
theorem differs_created {V : View} :
    Differs m a id vs (Function.update V (a, id) {1}) ↔
      ∃ v, vs.get? ⟨m.typeName, id⟩ = some v ∧ v ≠ 1 := by
  rw [Differs, Function.update_self]
  constructor
  · intro h
    obtain ⟨v, w, known, there, differs⟩ := h
    obtain rfl := Multiset.singleton_inj.mp there
    exact ⟨v, known, differs⟩
  · intro h
    obtain ⟨v, known, differs⟩ := h
    exact ⟨v, 1, known, rfl, differs⟩

/-- A version is counted up in the row and among the versions. -/
theorem differs_bump {w : Int64} (there : V (a, id) = {w}) :
    Differs m a id (vs.bump ⟨m.typeName, id⟩) (Function.update V (a, id) {w + 1}) ↔
      Differs m a id vs V := by
  rw [Differs, Differs, Function.update_self, Versions.bump, Versions.get?_put_self, there]
  constructor
  · intro h
    obtain ⟨v, w', known, same, differs⟩ := h
    obtain ⟨u, noted, rfl⟩ := Option.map_eq_some_iff.mp known
    obtain rfl := Multiset.singleton_inj.mp same
    exact ⟨u, w, noted, rfl, fun agree => differs (add_one_inj.mpr agree)⟩
  · intro h
    obtain ⟨u, w', noted, same, differs⟩ := h
    obtain rfl := Multiset.singleton_inj.mp same
    exact ⟨u + 1, w + 1, by rw [noted]; rfl, rfl, fun agree => differs (add_one_inj.mp agree)⟩

theorem counts_of_other {kind : WriteKind} (other : kind.id? ≠ some id) : kind.counts id = true := by
  cases kind with
  | insert id' | delete id' => simpa [WriteKind.counts, WriteKind.id?] using other
  | update id' expected | upsert id' expected =>
    cases expected with
    | none => rfl
    | some n => simpa [WriteKind.counts, WriteKind.id?] using other
  | bulk => rfl

/-- A row that is there is not recreated. -/
theorem not_recreates_of_row {v : Int64} (there : V (a, id) = {v}) : ¬Recreates m a id vs V p := by
  intro h
  obtain ⟨-, -, -, absent, -⟩ := h
  exact View.ne_zero_of_version there absent

/-- A write of a row that is there, at the version that it expects. -/
theorem differs_iff_of_rewritten {expected : Option Int64} {v : Int64}
    (kind : p.kind = .update id expected ∨ p.kind = .upsert id expected) (there : V (a, id) = {v})
    (meets : ∀ n, expected = some n → n = v) :
    Differs p.mapping a id (p.saved vs) (Function.update V (a, id) {v + 1}) ↔
      Differs p.mapping a id vs V ∧ p.kind.counts id := by
  cases expected with
  | none =>
    have bumped : p.saved vs = vs.bump ⟨p.mapping.typeName, id⟩ := by
      rcases kind with kind | kind <;> simp only [PendingWrite.saved, kind]
    have counts : p.kind.counts id = true := by
      rcases kind with kind | kind <;> rw [kind] <;> rfl
    rw [bumped, differs_bump there]
    simp only [counts, and_true]
  | some n =>
    obtain rfl := meets n rfl
    have noted : p.saved vs = vs.set ⟨p.mapping.typeName, id⟩ (n + 1) := by
      rcases kind with kind | kind <;> simp only [PendingWrite.saved, kind]
    have fixed : p.kind.counts id = false := by
      rcases kind with kind | kind <;> rw [kind] <;> simp [WriteKind.counts]
    refine iff_of_false ?_ ?_
    · rw [noted]
      exact not_differs_of_eq (Versions.get?_put_self ..) (Function.update_self ..)
    · simp [fixed]

/-- A store where there is no row. Its version is counted up from what was expected or noted. -/
theorem differs_iff_of_created {expected : Option Int64} (kind : p.kind = .upsert id expected)
    (absent : V (a, id) = 0) :
    Differs p.mapping a id (p.saved vs) (Function.update V (a, id) {1}) ↔
      Recreates p.mapping a id vs V p := by
  rw [differs_created, saved_of_rewritten (.inr kind) vs]
  constructor
  · intro h
    obtain ⟨w, known, wrong⟩ := h
    obtain ⟨v, noted, rfl⟩ := Option.map_eq_some_iff.mp known
    refine ⟨expected, v, kind, absent, noted, ?_⟩
    intro zero
    exact wrong (by rw [zero]; rfl)
  · intro h
    obtain ⟨expected', v, kind', -, noted, wrong⟩ := h
    rw [kind] at kind'
    cases kind'
    refine ⟨v + 1, by rw [noted]; rfl, ?_⟩
    intro one
    exact wrong (add_one_inj.mp one)

/-- A delete, whether it keeps the row or not: its version is forgotten. -/
theorem differs_iff_of_deleted (kind : p.kind = .delete id) :
    Differs p.mapping a id (p.saved vs) V' ↔
      Recreates p.mapping a id vs V p ∨
        Differs p.mapping a id vs V ∧ p.kind.counts id ∧ V' (a, id) ≠ 0 := by
  have forgotten : (p.saved vs).get? ⟨p.mapping.typeName, id⟩ = none := by
    simp only [PendingWrite.saved, kind]
    exact Versions.get?_put_self ..
  refine iff_of_false (not_differs_of_none forgotten) ?_
  intro h
  rcases h with ⟨expected, v, upsert, -⟩ | ⟨-, counts, -⟩
  · rw [kind] at upsert
    cases upsert
  · simp [kind, WriteKind.counts] at counts

/-- An accepted write of the document itself. -/
theorem differs_iff_of_own {soft : Bool} (shift : Shift a soft p.kind V V') (same : p.mapping = m)
    (own : p.kind.id? = some id) :
    Differs m a id (p.saved vs) V' ↔
      Recreates m a id vs V p ∨ Differs m a id vs V ∧ p.kind.counts id ∧ V' (a, id) ≠ 0 := by
  subst same
  obtain ⟨m, kind, statement⟩ := p
  cases shift with
  | inserted absent =>
    obtain rfl := Option.some.inj own
    refine iff_of_false (not_differs_of_eq (v := 1) ?_ (Function.update_self ..)) ?_
    · exact Versions.get?_put_self ..
    · intro h'
      rcases h' with ⟨expected, v, kind, -⟩ | ⟨differs, -⟩
      · cases kind
      · exact not_differs_of_absent absent differs
  | updated there room meets =>
    obtain rfl := Option.some.inj own
    rw [differs_iff_of_rewritten (.inl rfl) there meets]
    simp only [not_recreates_of_row there, false_or, Function.update_self, ne_eq,
      Multiset.singleton_ne_zero, not_false_eq_true, and_true]
  | replaced there room meets =>
    obtain rfl := Option.some.inj own
    rw [differs_iff_of_rewritten (.inr rfl) there meets]
    simp only [not_recreates_of_row there, false_or, Function.update_self, ne_eq,
      Multiset.singleton_ne_zero, not_false_eq_true, and_true]
  | created absent =>
    obtain rfl := Option.some.inj own
    rw [differs_iff_of_created rfl absent]
    simp only [not_differs_of_absent absent, false_and, or_false]
  | deleted | flagged =>
    obtain rfl := Option.some.inj own
    exact differs_iff_of_deleted rfl
  | swept => cases own

/-- After one write the version differs only if the write has recreated the row, or if it differed
before. -/
theorem Shift.differs_iff {soft : Bool} (shift : Shift a soft p.kind V V') (same : p.mapping = m) :
    Differs m a id (p.saved vs) V' ↔
      Recreates m a id vs V p ∨ Differs m a id vs V ∧ p.kind.counts id ∧ V' (a, id) ≠ 0 := by
  by_cases own : p.kind.id? = some id
  · exact differs_iff_of_own shift same own
  · have unborn : ¬Recreates m a id vs V p := by
      intro h
      obtain ⟨expected, v, kind, -⟩ := h
      exact own (by rw [kind]; rfl)
    rw [differs_iff_of_other shift same own]
    simp only [unborn, false_or, counts_of_other own, true_and]

/-! ### The writes of a save -/

/-- While the writes are carried out, the row of the document is there. -/
def Stays (L : Library) (d : Sql.Dialect) (m : Mapping) (a : String) (id : DocumentId)
    (K : Content) (ps : List PendingWrite) : Prop :=
  ∀ former latter K₁, ps = former ++ latter → Carries L d former K K₁ →
    versionsAt (K₁ m.table) (a, id) ≠ 0

/-- The writes leave the session with a wrong version of the document. One of them recreates the
row, and those after it let the row be and at most count its version up. -/
def Misleads (L : Library) (d : Sql.Dialect) (m : Mapping) (a : String) (id : DocumentId)
    (vs : Versions) (K : Content) (ps : List PendingWrite) : Prop :=
  ∃ former p latter K₁ K₂, ps = former ++ p :: latter ∧ Carries L d former K K₁ ∧
    Recreates m a id (former.foldl PendingWrite.saved vs) (versionsAt (K₁ m.table)) p ∧
    Carries L d [p] K₁ K₂ ∧ (∀ q ∈ latter, q.kind.counts id) ∧ Stays L d m a id K₂ latter

theorem Stays.row (stays : Stays L d m a id K ps) : versionsAt (K m.table) (a, id) ≠ 0 :=
  stays [] ps K rfl .nil

section

variable {n : Nat} {K₁ : Content} (effect : L.effect d p.statement K = .ok (n, K₁))
  (accepted : p.judge (.ok n) = .ok ())
include effect accepted

/-- What comes after a write comes after the contents that it leaves. -/
theorem Carries.tail_iff : Carries L d (p :: ps) K K' ↔ Carries L d ps K₁ K' := by
  rw [Carries.cons_iff]
  constructor
  · intro h
    obtain ⟨n', K₁', effect', -, later⟩ := h
    rw [effect] at effect'
    obtain ⟨rfl, rfl⟩ := Prod.mk.inj (Except.ok.inj effect')
    exact later
  · intro later
    exact ⟨n, K₁, effect, accepted, later⟩

theorem Stays.cons_iff :
    Stays L d m a id K (p :: ps) ↔ versionsAt (K m.table) (a, id) ≠ 0 ∧ Stays L d m a id K₁ ps := by
  constructor
  · intro stays
    refine ⟨stays [] (p :: ps) K rfl .nil, fun former latter K₂ split carried => ?_⟩
    refine stays (p :: former) latter K₂ (by rw [split]; rfl) ?_
    exact (Carries.tail_iff effect accepted).mpr carried
  · intro h former latter K₂ split carried
    obtain ⟨there, stays⟩ := h
    cases former with
    | nil =>
      rw [Carries.nil_iff.mp carried]
      exact there
    | cons q former =>
      obtain ⟨rfl, rest⟩ := List.cons.inj split
      exact stays former latter K₂ rest ((Carries.tail_iff effect accepted).mp carried)

theorem Misleads.cons_iff :
    Misleads L d m a id vs K (p :: ps) ↔
      Recreates m a id vs (versionsAt (K m.table)) p ∧ (∀ q ∈ ps, q.kind.counts id) ∧
          Stays L d m a id K₁ ps ∨
        Misleads L d m a id (p.saved vs) K₁ ps := by
  have alone : Carries L d [p] K K₁ := (Carries.tail_iff effect accepted).mpr .nil
  constructor
  · intro h
    obtain ⟨former, q, latter, K₂, K₃, split, carried, recreates, this, counts, stays⟩ := h
    cases former with
    | nil =>
      obtain ⟨rfl, rfl⟩ := List.cons.inj split
      obtain rfl := Carries.nil_iff.mp carried
      obtain rfl := Carries.nil_iff.mp ((Carries.tail_iff effect accepted).mp this)
      exact .inl ⟨recreates, counts, stays⟩
    | cons q' former =>
      obtain ⟨rfl, rest⟩ := List.cons.inj split
      have later := (Carries.tail_iff effect accepted).mp carried
      exact .inr ⟨former, q, latter, K₂, K₃, rest, later, recreates, this, counts, stays⟩
  · intro h
    rcases h with ⟨recreates, counts, stays⟩ | ⟨former, q, latter, K₂, K₃, rfl, later, rest⟩
    · exact ⟨[], p, ps, K, K₁, rfl, .nil, recreates, alone, counts, stays⟩
    · have carried := (Carries.tail_iff effect accepted).mpr later
      exact ⟨p :: former, q, latter, K₂, K₃, rfl, carried, rest⟩

end

/-- After a save the version of a document differs only if the save has misled, or if it differed
before. -/
theorem Carries.differs_iff (carried : Carries L d ps K K') (queued : ∀ p ∈ ps, Written m a p)
    (orderly : Orderly m a K) (vs : Versions) :
    Differs m a id (ps.foldl PendingWrite.saved vs) (versionsAt (K' m.table)) ↔
      Misleads L d m a id vs K ps ∨ Differs m a id vs (versionsAt (K m.table)) ∧
        (∀ p ∈ ps, p.kind.counts id) ∧ Stays L d m a id K ps := by
  induction carried generalizing vs with
  | @nil K =>
    have none : ¬Misleads L d m a id vs K [] := by
      intro h'
      obtain ⟨former, p, latter, -, -, split, -⟩ := h'
      cases former <;> cases split
    rw [List.foldl_nil, or_iff_right none]
    refine ⟨fun differs => ⟨differs, fun p mem => absurd mem List.not_mem_nil, ?_⟩,
      fun h => h.1⟩
    intro former latter K₁ split carried
    obtain ⟨rfl, -⟩ := List.append_eq_nil_iff.mp split.symm
    rw [Carries.nil_iff.mp carried]
    exact differs.row
  | @cons p ps n K K₁ K₂ effect accepted later ih =>
    rw [List.forall_mem_cons] at queued
    obtain ⟨next, shift⟩ := queued.1.shift_orderly orderly effect accepted
    have tail := ih queued.2 next (p.saved vs)
    rw [List.foldl_cons, tail, Misleads.cons_iff effect accepted, Stays.cons_iff effect accepted,
      shift.differs_iff queued.1.mapping, List.forall_mem_cons]
    -- Either the first write recreates the row, or a later one does, or it differed before.
    constructor
    · intro h'
      rcases h' with misleads | ⟨recreates | ⟨differs, counts, -⟩, others, stays⟩
      · exact .inl (.inr misleads)
      · exact .inl (.inl ⟨recreates, others, stays⟩)
      · exact .inr ⟨differs, ⟨counts, others⟩, differs.row, stays⟩
    · intro h'
      rcases h' with (⟨recreates, others, stays⟩ | misleads) | ⟨differs, ⟨counts, others⟩, -, stays⟩
      · exact .inr ⟨.inl recreates, others, stays⟩
      · exact .inl misleads
      · exact .inr ⟨.inr ⟨differs, counts, stays.row⟩, others, stays⟩

/-! ### Runs -/

/-- The versions that the session knows are those of the rows that are there. -/
def Session.Agrees (s : Session) (t : DocumentType) (rows : Table) : Prop :=
  ∀ id v, s.versionOf t id = some v → ∀ r ∈ rows, r.key = (s.tenant, id) → r.version = v

theorem Session.agrees_iff {s : Session} {schema : Schema} {t : DocumentType} {rows : Table}
    (keyed : (versionsAt rows).Keyed) :
    s.Agrees t rows ↔
      ∀ id, ¬Differs (schema.mapping t) s.tenant id s.versions (versionsAt rows) := by
  rw [Session.Agrees]
  refine forall_congr' fun id => ?_
  rw [Session.versionOf, ← schema.mapping_typeName t]
  constructor
  · intro agrees h'
    obtain ⟨v, w, known, there, differs⟩ := h'
    obtain ⟨r, only, key, rfl⟩ := filter_of_versionsAt there
    have mem : r ∈ rows.filter (·.key = (s.tenant, id)) := by
      rw [only]
      exact Multiset.mem_singleton_self r
    exact differs (agrees v known r (Multiset.mem_filter.mp mem).1 key).symm
  · intro same v known r mem key
    by_contra differs
    have there := versionsAt_of_mem keyed mem
    rw [key] at there
    exact same ⟨v, r.version, known, there, fun h => differs h.symm⟩

/-- Documents whose versions are noted do not differ. -/
theorem Noted.differs {seen : List DocumentId} {vs' : Versions} (noted : Noted m a V seen vs vs')
    (differs : Differs m a id vs' V) : Differs m a id vs V := by
  by_cases now : id ∈ seen
  · obtain ⟨v, known, there⟩ := noted.current id now
    exact absurd differs (not_differs_of_eq known there)
  · obtain ⟨v, w, known, there, wrong⟩ := differs
    refine ⟨v, w, ?_, there, wrong⟩
    rw [← noted.of_not_mem now]
    exact known

/-- One call keeps the agreement, unless it is a save that misleads. -/
theorem Moves.agrees_iff {s s' : Session} {call : Call} {result : Except Halt Told}
    (moves : Moves L d m s K call result s' K') (works : s.WorksOn m a) (orderly : Orderly m a K)
    (agrees : ∀ id, ¬Differs m a id s.versions (versionsAt (K m.table))) :
    (∀ id, ¬Differs m a id s'.versions (versionsAt (K' m.table))) ↔
      ¬(call = .save ∧ result = .ok .nothing ∧ ∃ id, Misleads L d m a id s.versions K s.pending) := by
  obtain ⟨rfl, queued⟩ := works
  cases moves with
  | read isRead noted _ =>
    refine iff_of_true (fun id differs => agrees id (noted.differs differs)) ?_
    intro h
    obtain ⟨rfl, -⟩ := h
    cases isRead
  | queued kind | rejected kind =>
    refine iff_of_true agrees ?_
    intro h
    obtain ⟨rfl, -⟩ := h
    cases kind
  | discarded =>
    refine iff_of_true agrees ?_
    intro h
    obtain ⟨same, -⟩ := h
    cases same
  | saved carried =>
    constructor
    · intro still h
      obtain ⟨-, -, id, misleads⟩ := h
      exact still id ((carried.differs_iff queued orderly s.versions).mpr (.inl misleads))
    · intro honest id differs
      rcases (carried.differs_iff queued orderly s.versions).mp differs with misleads | before
      · exact honest ⟨rfl, rfl, id, misleads⟩
      · exact agrees id before.1
  | unsaved =>
    refine iff_of_true agrees ?_
    intro h
    obtain ⟨-, same, -⟩ := h
    cases same

section

variable {σ : Type} {db : Database σ} {sys : System σ} {t : DocumentType} {i : Nat}
  {calls : List Call}

/-- The save that the session makes next succeeds, and leaves it with a wrong version. -/
def System.SaveMisleads (db : Database σ) (sys : System σ) (t : DocumentType) (i : Nat) : Prop :=
  (sys.ended db.store i .save).result = .ok .nothing ∧ ∃ id,
    Misleads db.library db.dialect (db.store.schema.mapping t) (sys.sessions i).tenant id
      (sys.sessions i).versions (db.committed sys.world) (sys.sessions i).pending

/-- The system is at work: the session has queued writes of the type only, and the table is in
order. -/
structure System.Works (db : Database σ) (sys : System σ) (t : DocumentType) (i : Nat)
    (a : String) : Prop where
  session : (sys.sessions i).WorksOn (db.store.schema.mapping t) a
  orderly : Orderly (db.store.schema.mapping t) a (db.committed sys.world)

/-- The versions that the session knows agree with what is committed. -/
def System.Agrees (db : Database σ) (sys : System σ) (t : DocumentType) (i : Nat) : Prop :=
  (sys.sessions i).Agrees t (db.committed sys.world (db.store.schema.mapping t).table)

/-- What a call of the session does. -/
theorem System.Works.moves (works : sys.Works db t i a) {call : Call}
    (about : call.About db.store.schema t)
    (served : ∀ r ∈ (sys.made db.store i call).requests db.store.schema, db.Serves r) :
    Moves db.library db.dialect (db.store.schema.mapping t) (sys.sessions i)
      (db.committed sys.world) call (sys.ended db.store i call).result
      ((sys.after db.store i call).sessions i) (db.committed (sys.after db.store i call).world) := by
  have there : (sys.after db.store i call).sessions i = (sys.ended db.store i call).session :=
    Function.update_self ..
  obtain ⟨⟨rfl, -⟩, sound, keyed⟩ := works
  rw [there]
  exact Session.perform_moves about served sound keyed

theorem System.Works.after (works : sys.Works db t i a) {call : Call}
    (about : call.About db.store.schema t)
    (served : ∀ r ∈ (sys.made db.store i call).requests db.store.schema, db.Serves r) :
    (sys.after db.store i call).Works db t i a := by
  obtain ⟨session, orderly⟩ := (works.moves about served).keeps works.session works.orderly
  exact ⟨session, orderly⟩

theorem System.Works.agrees_iff (works : sys.Works db t i a) :
    sys.Agrees db t i ↔ ∀ id, ¬Differs (db.store.schema.mapping t) a id (sys.sessions i).versions
      (versionsAt (db.committed sys.world (db.store.schema.mapping t).table)) := by
  rw [← works.session.tenant]
  exact Session.agrees_iff works.orderly.keyed

theorem System.Works.agrees_after (works : sys.Works db t i a) {call : Call}
    (about : call.About db.store.schema t)
    (served : ∀ r ∈ (sys.made db.store i call).requests db.store.schema, db.Serves r)
    (agrees : sys.Agrees db t i) :
    (sys.after db.store i call).Agrees db t i ↔ ¬(call = .save ∧ sys.SaveMisleads db t i) := by
  have moves := works.moves about served
  rw [works.agrees_iff] at agrees
  rw [(works.after about served).agrees_iff,
    moves.agrees_iff works.session works.orderly agrees, SaveMisleads, works.session.tenant]
  refine not_congr (and_congr_right fun save => ?_)
  rw [save]

/-- Every run of the session alone works. -/
theorem System.Works.alone (works : sys.Works db t i a)
    (about : ∀ call ∈ calls, call.About db.store.schema t)
    (served : ∀ e ∈ (sys.run db.store (calls.map (i, ·))).1,
      ∀ r ∈ e.requests db.store.schema, db.Serves r) {done : List Call} (h : done <+: calls) :
    (sys.alone db.store i done).Works db t i a := by
  induction done using List.reverseRecOn with
  | nil => exact works
  | append_singleton done call ih =>
    have mem : call ∈ calls := h.subset (List.mem_append_right _ (List.mem_singleton_self call))
    rw [System.alone_concat]
    refine (ih ((List.prefix_append done [call]).trans h)).after (about call mem) ?_
    exact served _ (sys.made_mem_run_alone db.store i h)

/-- While a session alone makes calls, the versions that it knows agree with the rows after every
call, unless there is a save that misleads it. -/
theorem System.versions_agree_iff (fresh : (sys.sessions i).Fresh a)
    (orderly : Orderly (db.store.schema.mapping t) a (db.committed sys.world))
    (about : ∀ call ∈ calls, call.About db.store.schema t)
    (served : ∀ e ∈ (sys.run db.store (calls.map (i, ·))).1,
      ∀ r ∈ e.requests db.store.schema, db.Serves r) :
    (∀ done, done <+: calls → (sys.alone db.store i done).Agrees db t i) ↔
      ∀ done, done ++ [.save] <+: calls → ¬(sys.alone db.store i done).SaveMisleads db t i := by
  have start : sys.Works db t i a := ⟨fresh.worksOn _, orderly⟩
  -- What a call does to the agreement, in the course of the run.
  have step {done : List Call} {call : Call} (h : done ++ [call] <+: calls)
      (agrees : (sys.alone db.store i done).Agrees db t i) :
      (sys.alone db.store i (done ++ [call])).Agrees db t i ↔
        ¬(call = .save ∧ (sys.alone db.store i done).SaveMisleads db t i) := by
    have works := start.alone about served ((List.prefix_append done [call]).trans h)
    have mem : call ∈ calls := h.subset (List.mem_append_right _ (List.mem_singleton_self call))
    rw [System.alone_concat]
    exact works.agrees_after (about call mem) (served _ (sys.made_mem_run_alone db.store i h)) agrees
  constructor
  · intro agrees done h misleads
    exact (step h (agrees done ((List.prefix_append done [.save]).trans h))).mp (agrees _ h)
      ⟨rfl, misleads⟩
  · intro honest done h
    induction done using List.reverseRecOn with
    | nil =>
      intro id v known
      simp [Session.versionOf, System.alone, System.run, fresh.versions, Versions.empty] at known
    | append_singleton done call ih =>
      refine (step h (ih ((List.prefix_append done [call]).trans h))).mpr ?_
      intro h'
      obtain ⟨rfl, misleads⟩ := h'
      exact honest done h misleads

end

namespace Orders

/-- An order that is deleted with all others, and stored once more. -/
def restoring : List Call :=
  [.insert type .epoch order, .save, .deleteWhere type .epoch (.value (.bool true)), .save,
    .store type .epoch order, .save]

/-- A run in which a save misleads. -/
theorem versions_agree_iff_restoring :
    (∀ done, done <+: restoring → (system.alone database.store 0 done).Agrees database type 0) ↔
      ∀ done, done ++ [.save] <+: restoring →
        ¬(system.alone database.store 0 done).SaveMisleads database type 0 := by
  have about : ∀ call ∈ restoring, call.About database.store.schema type := by
    simp only [restoring, List.forall_mem_cons, Call.About, true_and]
    exact ⟨order_faithful, order_faithful, fun _ mem => absurd mem List.not_mem_nil⟩
  exact System.versions_agree_iff ⟨rfl, rfl, rfl⟩ orderly about
    fun e mem r asked => (answers rfl e mem r asked).serves

/-- The row is new, at version 1, and the session takes it to be at version 2. -/
example :
    ((system.alone database.store 0 restoring).sessions 0).versionOf type (.int32 7) = some 2 ∧
      (database.committed (system.alone database.store 0 restoring).world mapping.table).map
        (·.version) = {1} :=
  ⟨rfl, rfl⟩

end Orders

end Folio
