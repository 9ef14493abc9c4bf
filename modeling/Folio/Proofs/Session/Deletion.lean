import Folio.Proofs.Relational.Writes
import Folio.Proofs.Session.Serving

/-!
# Folio.Proofs.Session.Deletion

Deleting a document by its identity, and deleting by the predicate that the identity member is that
identity.

Either deletion concerns the row of the document's key (`Library.effect_delete`,
`Library.effect_deleteWhere_isDocument`), and where documents are deleted for good they are the same. Where
the rows are kept, the predicate passes over a row that is deleted already, and the identity does not: the
row's time of deletion is overwritten. That is all they differ in (`Session.deletions_agree_iff`).
-/

namespace Folio

open Folio.Database
open Folio.Predicate (Compiler)
open Folio.Relational
open Folio.Sql (Dialect TableName)
open Folio.Statement (Fragment)
open Folio.Time (Timestamp)

/-! ### The predicate -/

/-- The type of the identities of a kind. -/
def IdKind.type : IdKind → ValueType
  | .uuid => .uuid
  | .text => .text
  | .int32 => .int32
  | .int64 => .int64

theorem DocumentId.cast_toValue (id : DocumentId) : id.kind.type.cast id.toValue = .ok id.toValue := by
  cases id <;> rfl

/-- The predicate that the identity member is the identity. -/
def Mapping.isDocument (m : Mapping) (nullable : Bool) (id : DocumentId) : Expr :=
  .compare (.member ⟨[.field m.idMember], id.kind.type, nullable⟩) .eq (.value id.toValue)

/-- The identity is compared with in its column. -/
def Statement.Fragment.isDocument (id : DocumentId) : Fragment :=
  .compare ⟨.column Sql.idColumn, .none⟩ .eq id.toValue

theorem Predicate.Compiler.compile_isDocument (c : Compiler) (nullable : Bool) (id : DocumentId) :
    c.compile (c.mapping.isDocument nullable id) = .ok (.isDocument id) := by
  have located : c.locate ⟨[.field c.mapping.idMember], id.kind.type, nullable⟩ =
      .ok (.identity id.kind.type) := if_pos rfl
  rw [Mapping.isDocument, compile]
  show (c.locate _ >>= _) = _
  rw [located]
  cases id <;> rfl

/-! ### The rows -/

namespace Relational

variable {k : String × DocumentId} {soft : Option Timestamp} {rows : Table} {t : Timestamp}

theorem Record.flagged_eq_self {r : Record} (gone : r.deleted = true) (since : r.deletedAt = some t) :
    r.flagged t = r := by
  cases r
  obtain rfl := gone
  obtain rfl := since
  rfl

/-- Is it the row of the key, and not deleted yet where a deletion keeps it? -/
def Record.isStanding (soft : Option Timestamp) (k : String × DocumentId) (r : Record) : Bool :=
  r.key = k && (soft.isNone || !r.deleted)

namespace Library

/-- A row that is deleted already is kept as it is by the one deletion, and flagged by the other. -/
theorem mem_deleted_of_deleted {r : Record} (mem : r ∈ rows) (key : r.key = k) (gone : r.deleted = true) :
    r ∈ (deleted (some t) (·.isStanding (some t) k) rows).2 ∧
      r.flagged t ∈ (deleted (some t) (·.key = k) rows).2 := by
  have passed : ¬r.isStanding (some t) k = true := by simp [Record.isStanding, gone]
  exact ⟨Multiset.mem_map.mpr ⟨r, mem, if_neg passed⟩,
    Multiset.mem_map.mpr ⟨r, mem, if_pos (decide_eq_true key)⟩⟩

/-- The deletions come to the same unless there is such a row, deleted at another time. -/
theorem deleted_eq_iff :
    (deleted soft (·.key = k) rows).2 = (deleted soft (·.isStanding soft k) rows).2 ↔
      ∀ r ∈ rows, r.key = k → r.deleted = true → ∀ t, soft = some t → r.deletedAt = some t := by
  cases soft with
  | none =>
    refine iff_of_true ?_ fun _ _ _ _ _ => nofun
    exact congrArg Prod.snd (deleted_congr none fun r _ => by simp [Record.isStanding])
  | some t =>
    constructor
    · rintro same r mem key gone t' ⟨⟩
      have stays := (mem_deleted_of_deleted (t := t) mem key gone).1
      rw [← same] at stays
      obtain ⟨s, -, becomes⟩ := Multiset.mem_map.mp stays
      by_cases its : s.key = k
      · rw [if_pos (decide_eq_true its)] at becomes
        rw [← becomes]
        rfl
      · rw [if_neg (by simpa using its)] at becomes
        exact absurd (becomes ▸ key) its
    · refine fun since => Multiset.map_congr rfl fun r mem => ?_
      by_cases key : r.key = k
      · cases gone : r.deleted with
        | false => simp [Record.isStanding, key, gone]
        | true =>
          simp [Record.isStanding, key, gone, Record.flagged_eq_self gone (since r mem key gone t rfl)]
      · simp [Record.isStanding, key]

end Library

/-! ### The statements -/

variable {L : Library} {d : Dialect} {table : TableName} {K : Content} {id : DocumentId} {a : String}

theorem Library.all_notDeleted {params : List Value} {r : Record} :
    L.all (r.env params) [.compare (.column Sql.deletedColumn) .eq (.number 0)] = !r.deleted := by
  have compared : L.truth (r.env params) (.compare (.column Sql.deletedColumn) .eq (.number 0)) =
      some true ↔ r.deleted = false := by
    show L.equal (.int64 (if r.deleted then 1 else 0)) (.int64 0) = some true ↔ _
    rw [L.equal_int64]
    cases r.deleted <;> decide
  simp only [all, List.all_cons, List.all_nil, Bool.and_true, compared]
  cases r.deleted <;> rfl

/-- What the deletion by the predicate does. -/
theorem Library.effect_deleteWhere_isDocument (kinds : ∀ r ∈ K table, r.id.kind = id.kind)
    (soft : Option Timestamp) :
    L.effect d (.deleteWhere ⟨table, [.isDocument id], a, soft⟩) K =
      within K table (.ok (deleted soft (·.isStanding soft (a, id)) (K table))) := by
  cases soft with
  | none =>
    have tree : Statement.tree d (.deleteWhere ⟨table, [.isDocument id], a, none⟩) #[] =
        (.change (.delete table ([Statement.columnIs Sql.idColumn (.slot 1),
          Statement.columnIs Sql.tenantColumn (.slot 2)] ++ [])), #[id.toValue, .text a]) := by
      cases d <;> rfl
    refine L.effect_of_tree tree rfl (congrArg Except.ok (deleted_congr none fun r mem => ?_))
    rw [L.all_key (kinds r mem) rfl rfl]
    rfl
  | some t =>
    have tree : Statement.tree d (.deleteWhere ⟨table, [.isDocument id], a, some t⟩) #[] =
        (.change (.update table [Statement.setColumn Sql.deletedColumn (.number 1),
            Statement.setColumn Sql.deletedAtColumn (.slot 1)]
          ([Statement.columnIs Sql.idColumn (.slot 2), Statement.columnIs Sql.tenantColumn (.slot 3)] ++
            [.compare (.column Sql.deletedColumn) .eq (.number 0)])),
          #[.timestamp t, id.toValue, .text a]) := by
      cases d <;> rfl
    refine L.effect_of_tree tree rfl ((change_deletion t (fun _ => rfl) (K table)).trans ?_)
    refine congrArg Except.ok (deleted_congr (some t) fun r mem => ?_)
    rw [L.all_key (kinds r mem) rfl rfl, all_notDeleted]
    rfl

end Relational

/-! ### The saves -/

namespace Session

open Saving (Served)

variable {σ : Type} {db : Database σ} {s : Session} {K : Content}

/-- The writes in the queue make `K'` of the tables `K`, and a save of them that succeeds commits it. -/
structure Leaves (db : Database σ) (s : Session) (K K' : Content) : Prop where
  carries : Carries db.library db.dialect s.pending K K'
  commits : ∀ w, db.committed w = K → Served db s.pending → (s.saveChanges db.store w).result = .ok () →
    db.committed (s.saveChanges db.store w).world = K'

theorem Leaves.of_single {p : PendingWrite} {n : Nat} {K' : Content} (queued : s.pending = [p])
    (effect : db.library.effect db.dialect p.statement K = .ok (n, K')) (judged : ∀ n, p.judge (.ok n) = .ok ()) :
    s.Leaves db K K' where
  carries := queued ▸ .cons effect (judged n) .nil
  commits := by
    intro w found served saved
    have settled := (saveChanges_served served w).1
    rw [saved, queued, found] at settled
    cases settled with
    | cons carried _ rest =>
      cases rest
      exact congrArg Prod.snd (Except.ok.inj (carried.symm.trans effect))

variable {m : Mapping} {now : Timestamp} {id : DocumentId}

/-- The tables once the document's row is deleted by its identity. -/
def deletedById (s : Session) (m : Mapping) (now : Timestamp) (id : DocumentId) (K : Content) : Content :=
  Function.update K m.table
    (Library.deleted (softTime m now) (·.key = (s.tenant, id)) (K m.table)).2

/-- The tables once it is deleted by the predicate. -/
def deletedByMember (s : Session) (m : Mapping) (now : Timestamp) (id : DocumentId) (K : Content) : Content :=
  Function.update K m.table
    (Library.deleted (softTime m now) (·.isStanding (softTime m now) (s.tenant, id)) (K m.table)).2

theorem softTime_eq_some {t : Timestamp} : softTime m now = some t ↔ now = t ∧ m.softDeleted = true := by
  rw [softTime]
  split
  next soft => simp [soft]
  next hard => simp [hard]

theorem deletedById_eq_iff :
    s.deletedById m now id K = s.deletedByMember m now id K ↔
      ∀ r ∈ K m.table, r.key = (s.tenant, id) → r.deleted = true → m.softDeleted = true →
        r.deletedAt = some now := by
  have rows : s.deletedById m now id K = s.deletedByMember m now id K ↔
      (Library.deleted (softTime m now) (·.key = (s.tenant, id)) (K m.table)).2 =
        (Library.deleted (softTime m now) (·.isStanding (softTime m now) (s.tenant, id)) (K m.table)).2 := by
    refine ⟨fun same => ?_, fun same => congrArg (Function.update K m.table) same⟩
    have there := congrFun same m.table
    rwa [deletedById, deletedByMember, Function.update_self, Function.update_self] at there
  rw [rows, Library.deleted_eq_iff]
  simp only [softTime_eq_some, and_imp, forall_eq']

theorem leaves_delete (idle : s.pending = []) {schema : Schema} {t : DocumentType}
    (kinds : ∀ r ∈ K (schema.mapping t).table, r.id.kind = id.kind) :
    (s.delete schema t now id).Leaves db K (s.deletedById (schema.mapping t) now id K) :=
  .of_single (congrArg (· ++ _) idle) (db.library.effect_delete kinds _) fun n => by cases n <;> rfl

/-- The predicate is accepted, whatever methods the program has. -/
theorem leaves_deleteWhere (idle : s.pending = []) {schema : Schema} {t : DocumentType} (nullable : Bool)
    (kinds : ∀ r ∈ K (schema.mapping t).table, r.id.kind = id.kind) :
    ∃ byMember, s.deleteWhere schema t now ((schema.mapping t).isDocument nullable id) = .ok byMember ∧
      byMember.Leaves db K (s.deletedByMember (schema.mapping t) now id K) := by
  have compiled : (s.scope schema t).compiler.compile ((schema.mapping t).isDocument nullable id) =
      .ok (.isDocument id) := Predicate.Compiler.compile_isDocument _ nullable id
  refine ⟨s.push ⟨schema.mapping t, .bulk, .deleteWhere
    ⟨(schema.mapping t).table, [.isDocument id], s.tenant, softTime (schema.mapping t) now⟩⟩, ?_, ?_⟩
  · rw [deleteWhere, compiled]
    rfl
  · exact .of_single (congrArg (· ++ _) idle) (db.library.effect_deleteWhere_isDocument kinds _)
      fun n => by cases n <;> rfl

variable (db now) in
/-- Deleting by identity and deleting by the predicate that the identity member is that identity. Both are
queued and carried out, whatever the tables hold. They leave the same tables unless documents of the type
are deleted softly and the document's row is deleted already, at another time: the predicate leaves that row
as it is, and the identity stamps it anew. -/
theorem deletions_agree_iff (idle : s.pending = []) (t : DocumentType) (nullable : Bool)
    (kinds : ∀ r ∈ K (db.store.schema.mapping t).table, r.id.kind = id.kind) :
    let m := db.store.schema.mapping t
    ∃ byMember, s.deleteWhere db.store.schema t now (m.isDocument nullable id) = .ok byMember ∧
      (s.delete db.store.schema t now id).Leaves db K (s.deletedById m now id K) ∧
      byMember.Leaves db K (s.deletedByMember m now id K) ∧
      (s.deletedById m now id K = s.deletedByMember m now id K ↔
        ∀ r ∈ K m.table, r.key = (s.tenant, id) → r.deleted = true → m.softDeleted = true →
          r.deletedAt = some now) ∧
      ∀ r ∈ K m.table, r.key = (s.tenant, id) → r.deleted = true → m.softDeleted = true →
        r ∈ s.deletedByMember m now id K m.table ∧ r.flagged now ∈ s.deletedById m now id K m.table := by
  intro m
  obtain ⟨byMember, accepted, leaves⟩ := leaves_deleteWhere idle nullable kinds
  refine ⟨byMember, accepted, leaves_delete idle kinds, leaves, deletedById_eq_iff, ?_⟩
  intro r mem key gone soft
  rw [deletedById, deletedByMember, Function.update_self, Function.update_self,
    softTime_eq_some.mpr ⟨rfl, soft⟩]
  exact Library.mem_deleted_of_deleted mem key gone

end Session

/-! ### An order that is deleted twice -/

namespace Orders

/-- Orders whose rows are kept when they are deleted. -/
def archived : DocumentType :=
  ⟨"Order", .int32, [.typeAlias "order", .softDeleted], fun _ => true⟩

def archive : Mapping :=
  .ofType {} archived

/-- The second deletion. -/
def later : Timestamp :=
  { Timestamp.epoch with seconds := 1 }

def deletingById : Statement :=
  .delete ⟨archive.table, .int32 7, "a", some later⟩

def deletingByMember : Statement :=
  .deleteWhere ⟨archive.table, [.isDocument (.int32 7)], "a", some later⟩

/-- The statements differ in their texts. -/
def archiveRequest? : Operation → Option Request
  | .start => some .start
  | .commit => some .commit
  | .rollback => some .rollback
  | .query _ => none
  | .execute c =>
    if c.params.length = 0 then some (creation archive)
    else if c.sql = (Statement.Command.ofStatement .sqlite deletingById).sql then some (.write deletingById)
    else some (.write deletingByMember)

noncomputable def archiving : Database Contents :=
  Library.bare.database .sqlite {} archiveRequest? refused

/-- The order was deleted at the start of 1970. -/
def gone : Record :=
  ⟨.int32 7, stored.data, 1, .epoch, "order", "a", true, some .epoch⟩

def goneContent : Content :=
  fun table => if table = archive.table then {gone} else 0

noncomputable def goneWorld : World Contents :=
  { state := ⟨goneContent, goneContent⟩ }

theorem archiving_served {ps : List PendingWrite}
    (known : ∀ p ∈ ps, p.mapping = archive ∧ (p.statement = deletingById ∨ p.statement = deletingByMember)) :
    Saving.Served archiving ps := by
  have serves (r : Request) (made : archiveRequest? (r.operation .sqlite) = some r) : archiving.Serves r := by
    have answers : archiving.Answers refused r := Library.database_answers made
    exact answers.serves
  refine ⟨fun p mem => ?_, fun p mem => ?_, serves .start rfl, serves .commit rfl, serves .rollback rfl⟩
  · rw [(known p mem).1]
    exact serves _ rfl
  · rcases (known p mem).2 with is | is <;> rw [is] <;> exact serves _ rfl

/-- A session with nothing in its queue. -/
def idle : Session := { tenant := "a" }

/-- The order was deleted at the start of 1970. Deleted by its identity a second later, it has the later
time; deleted by the predicate, it keeps its own. -/
theorem deletions_agree_iff_gone :
    ∃ byMember,
      idle.deleteWhere archiving.store.schema archived later (archive.isDocument false (.int32 7)) =
        .ok byMember ∧
      archiving.committed ((idle.delete archiving.store.schema archived later (.int32 7)).saveChanges
        archiving.store goneWorld).world archive.table = {gone.flagged later} ∧
      archiving.committed (byMember.saveChanges archiving.store goneWorld).world archive.table =
        {gone} := by
  have kinds : ∀ r ∈ goneContent archive.table, r.id.kind = (DocumentId.int32 7).kind := by
    intro r mem
    rw [Multiset.mem_singleton.mp mem]
    rfl
  obtain ⟨byMember, accepted, leavesById, leavesByMember, -⟩ :=
    Session.deletions_agree_iff archiving later (rfl : idle.pending = []) archived false kinds
  have queued : idle.deleteWhere archiving.store.schema archived later
      (archive.isDocument false (.int32 7)) = .ok (idle.push ⟨archive, .bulk, deletingByMember⟩) := rfl
  obtain rfl := Except.ok.inj (queued.symm.trans accepted)
  have servedById : Saving.Served archiving
      (idle.delete archiving.store.schema archived later (.int32 7)).pending :=
    archiving_served fun p mem => List.mem_singleton.mp mem ▸ ⟨rfl, .inl rfl⟩
  have servedByMember : Saving.Served archiving (idle.push ⟨archive, .bulk, deletingByMember⟩).pending :=
    archiving_served fun p mem => List.mem_singleton.mp mem ▸ ⟨rfl, .inr rfl⟩
  refine ⟨_, accepted, ?_, ?_⟩
  · rw [leavesById.commits goneWorld rfl servedById rfl]
    rfl
  · rw [leavesByMember.commits goneWorld rfl servedByMember rfl]
    rfl

end Orders

end Folio
