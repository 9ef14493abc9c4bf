import Folio.Proofs.Session.Sent
import Folio.Proofs.Statement.Clause

/-!
# Folio.Proofs.Statement.Columns

Which columns of its table a statement names.

`mentions` lists them, from the terms of a statement up to its tree. A statement that locates nothing outside of
the columns of every table (`Statement.Common`) names no others but those of soft deletion, and these only if it
reads or sets the mark of deleted documents, but then it does (`Statement.mentions_subset`,
`Statement.deleted_mem_mentions`). So whether a table suits a statement is told by the creation of the table
alone (`Statement.CreateTable.suits_iff`).
-/

namespace Folio

open Folio.Relational (Tree)
open Folio.Statement
open Folio.Time (Timestamp)

/-! ### The columns that are named -/

namespace Sql

/-- The columns of the table that a term names. Those of the row that a merge is given are not the table's. -/
def Term.mentions : Term → List String
  | .column name => [name]
  | .columnOf .source _ => []
  | .columnOf .target name | .columnOf .excluded name | .columnOf (.table _) name => [name]
  | .json _ | .jsonType _ => [dataColumn]
  | .cast _ inner | .next inner | .byteLength inner | .trimmed inner => inner.mentions
  | .slot _ | .number _ | .null | .emptyText | .element | .elementType => []

/-- The columns that a part in free form names. What its text may name is not looked into. -/
def Part.mentions : Part → List String
  | .text _ => []
  | .term t => t.mentions

/-- The columns that a condition names. -/
def Condition.mentions : Condition → List String
  | .compare left _ right => left.mentions ++ right.mentions
  | .isNull t | .isNotNull t => t.mentions
  | .and left right | .or left right => left.mentions ++ right.mentions
  | .not inner => inner.mentions
  | .literal _ => []
  | .inList t items => t.mentions ++ items.flatMap Term.mentions
  | .like t other | .equalFolded t other => t.mentions ++ other.mentions
  | .anyElement _ item other => dataColumn :: (item.mentions ++ other.mentions)
  | .template parts => parts.flatMap Part.mentions

/-- The columns that a column of a result is computed from. -/
def Column.mentions : Column → List String
  | .term t | .named t _ | .aggregate _ t => t.mentions
  | .count => []

/-- The columns that an order goes by. -/
def Order.mentions : Order → List String
  | .by terms => terms.flatMap (·.1.mentions)
  | .none | .arbitrary => []

/-- The columns that a query of rows names. -/
def RowQuery.mentions (q : RowQuery) : List String :=
  q.columns.flatMap Column.mentions ++ (q.conditions.flatMap Condition.mentions ++ q.order.mentions)

/-- The columns of the table that a query names. What is computed from another query has columns of that one. -/
def Query.mentions (q : Query) : List String :=
  q.body.mentions

/-- The columns that an assignment names. -/
def Assignment.mentions (a : Assignment) : List String :=
  a.column.mentions ++ a.value.mentions

/-- The columns that a merge names. -/
def Merge.mentions (m : Merge) : List String :=
  m.key.flatMap (fun (t, name) => name :: t.mentions) ++ m.matched.flatMap Condition.mentions ++
    m.updates.flatMap Assignment.mentions ++ m.columns ++ m.values.flatMap Term.mentions

/-- The columns that an insert names which may become an update. -/
def InsertOrUpdate.mentions (i : InsertOrUpdate) : List String :=
  i.columns ++ i.values.flatMap Term.mentions ++ i.key ++ i.updates.flatMap Assignment.mentions ++
    i.matched.flatMap Condition.mentions

/-- The columns of its table that a change names. The creation of a table defines them. -/
def Change.mentions : Change → List String
  | .insert _ columns values => columns ++ values.flatMap Term.mentions
  | .update _ updates conditions =>
    updates.flatMap Assignment.mentions ++ conditions.flatMap Condition.mentions
  | .delete _ conditions => conditions.flatMap Condition.mentions
  | .merge m => m.mentions
  | .insertOrUpdate i => i.mentions
  | .createTable _ => []

/-- The columns of a table of documents, with those of soft deletion or without. -/
def tableColumns (soft : Bool) : List String :=
  insertColumns ++ if soft then [deletedColumn, deletedAtColumn] else []

theorem insertColumns_subset (soft : Bool) : insertColumns ⊆ tableColumns soft :=
  List.subset_append_left _ _

/-- There are columns of soft deletion only where documents are deleted softly. -/
theorem deleted_mem_tableColumns {soft : Bool} : deletedColumn ∈ tableColumns soft ↔ soft = true := by
  cases soft <;> decide

theorem tableColumns_subset {soft other : Bool} (h : soft = true → other = true) :
    tableColumns soft ⊆ tableColumns other := by
  cases soft with
  | false => exact fun name mem => insertColumns_subset other (by simpa [tableColumns] using mem)
  | true =>
    rw [h rfl]
    exact List.Subset.refl _

end Sql

open Folio.Sql

/-- The columns of its table that a statement names, as a tree. -/
def Relational.Tree.mentions : Tree → List String
  | .query q => q.mentions
  | .change c => c.mentions

/-! ### Fragments -/

namespace Statement

/-- The columns of the place of a member. -/
def Locator.mentions (l : Locator) : List String :=
  match l.place with
  | .column name => [name]
  | .json _ => [dataColumn]

/-- The columns that a part in free form names. -/
def TemplatePart.mentions : TemplatePart → List String
  | .locator l => l.mentions
  | .text _ | .param _ => []

/-- The columns that a predicate locates something in. -/
def Fragment.mentions : Fragment → List String
  | .and left right | .or left right => left.mentions ++ right.mentions
  | .not inner => inner.mentions
  | .literal _ => []
  | .compare l _ _ | .isNull l | .isNotNull l | .inList l _ | .like l _ _ | .equalFolded l _
  | .nullOrBlank l _ => l.mentions
  | .arrayContains .. => [dataColumn]
  | .template parts => parts.flatMap TemplatePart.mentions

variable (d : Dialect)

theorem Locator.mentions_toTerm (l : Locator) : (l.toTerm d).mentions = l.mentions := by
  obtain ⟨place, conversion⟩ := l
  cases d <;> cases conversion <;> cases place <;> rfl

theorem Locator.mentions_toTerm_subset (l : Locator) : (l.toTerm d).mentions ⊆ l.mentions := by
  rw [mentions_toTerm]
  exact List.Subset.refl _

theorem mentions_bindOperand (l : Locator) (v : Value) (before : Array Value) :
    (bindOperand d l v before).1.mentions = [] := by
  show (ite _ _ _ : Binding Term) _ |>.1.mentions = []
  split <;> rfl

theorem mentions_elementTerm (c : Conversion) : (elementTerm d c).mentions = [] := by
  cases d <;> cases c <;> rfl

theorem mentions_blankCondition (t : Term) (whitespace : Bool) :
    (blankCondition d t whitespace).mentions = t.mentions := by
  cases whitespace <;> cases d <;> exact List.append_nil _

theorem TemplatePart.mentions_toPart (p : TemplatePart) (before : Array Value) :
    (p.toPart d before).1.mentions = p.mentions := by
  cases p with
  | locator l => exact l.mentions_toTerm d
  | text s => rfl
  | param v => rfl

/-- The condition for a predicate names the columns in which the predicate locates something. -/
theorem Fragment.mentions_toCondition (f : Fragment) (before : Array Value) :
    (f.toCondition d before).1.mentions ⊆ f.mentions := by
  induction f generalizing before with
  | compare l op v =>
    show (l.toTerm d).mentions ++ (bindOperand d l v before).1.mentions ⊆ l.mentions
    rw [l.mentions_toTerm, mentions_bindOperand, List.append_nil]
    exact List.Subset.refl _
  | isNull l | isNotNull l => exact l.mentions_toTerm_subset d
  | and left right ihl ihr | or left right ihl ihr =>
    exact List.append_subset.mpr
      ⟨List.subset_append_of_subset_left _ (ihl _), List.subset_append_of_subset_right _ (ihr _)⟩
  | not inner ih => exact ih before
  | literal text => exact List.nil_subset _
  | inList l values =>
    cases values with
    | nil => exact List.nil_subset _
    | cons v vs =>
      refine List.append_subset.mpr ⟨l.mentions_toTerm_subset d, fun name mem => ?_⟩
      obtain ⟨t, bound, mem⟩ := List.mem_flatMap.mp mem
      have among : t ∈ ((v :: vs).mapM (bindOperand d l) before).1 := bound
      obtain ⟨v', -, before', rfl⟩ := mem_mapM among
      rw [mentions_bindOperand] at mem
      cases mem
  | like l kind needle | equalFolded l text =>
    exact List.append_subset.mpr ⟨l.mentions_toTerm_subset d, List.nil_subset _⟩
  | nullOrBlank l whitespace =>
    refine List.append_subset.mpr ⟨l.mentions_toTerm_subset d, ?_⟩
    rw [mentions_blankCondition]
    exact l.mentions_toTerm_subset d
  | arrayContains path element v =>
    show dataColumn :: ((elementTerm d element).mentions ++ []) ⊆ [dataColumn]
    rw [mentions_elementTerm]
    exact List.Subset.refl _
  | template parts =>
    intro name mem
    obtain ⟨p, bound, mem⟩ := List.mem_flatMap.mp mem
    obtain ⟨p', among, before', rfl⟩ := mem_mapM bound
    rw [p'.mentions_toPart] at mem
    exact List.mem_flatMap.mpr ⟨p', among, mem⟩

/-- It is found in a column of every table. -/
def Locator.Common (l : Locator) : Prop :=
  l.mentions ⊆ insertColumns

/-- It locates nothing outside of the columns of every table. -/
def Fragment.Common (f : Fragment) : Prop :=
  f.mentions ⊆ insertColumns

/-- What is read is found in columns of every table. -/
def Projection.Common : Projection → Prop
  | .locator l | .aggregate _ l => l.Common
  | .documents | .count => True

/-- The selection locates nothing outside of the columns of every table. -/
structure Selection.Common (s : Selection) : Prop where
  filters : ∀ f ∈ s.filters, f.Common
  projection : s.projection.Common
  order : ∀ key ∈ s.order, key.1.Common

end Statement

/-- The statement locates nothing outside of the columns of every table. -/
def Statement.Common : Statement → Prop
  | .select s => s.Common
  | .deleteWhere x => ∀ f ∈ x.filters, f.Common
  | .undeleteWhere x => ∀ f ∈ x.filters, f.Common
  | .insert _ | .update _ | .upsert _ | .delete _ | .createTable _ => True

/-- Does the statement read or set the mark of deleted documents? -/
def Statement.usesMark : Statement → Bool
  | .select s => s.deletion ≠ .any
  | .upsert x => x.revive
  | .delete x => x.soft.isSome
  | .deleteWhere x => x.soft.isSome
  | .undeleteWhere _ => true
  | .insert _ | .update _ | .createTable _ => false

namespace Statement

variable (d : Dialect) (before : Array Value)

/-! ### Conditions -/

/-- The columns that the condition on a deletion names. -/
def Deletion.mentions : Deletion → List String
  | .any => []
  | .notDeleted | .deleted => [deletedColumn]
  | .deletedSince _ | .deletedBefore _ => [deletedColumn, deletedAtColumn]

theorem Deletion.mentions_subset (deletion : Deletion) : deletion.mentions ⊆ tableColumns (deletion ≠ .any) := by
  by_cases any : deletion = .any
  · rw [any]
    exact List.nil_subset _
  · rw [decide_eq_true any]
    cases deletion with
    | any => exact absurd rfl any
    | notDeleted | deleted => show [deletedColumn] ⊆ _; decide
    | deletedSince t | deletedBefore t => show [deletedColumn, deletedAtColumn] ⊆ _; decide

/-- What asks for a deletion under a condition only does so where the condition is met. -/
theorem Deletion.of_ite_ne_any {b : Bool} {deletion : Deletion} (h : (if b then deletion else .any) ≠ .any) :
    b = true := by
  by_contra unmet
  exact h (if_neg unmet)

theorem Deletion.deleted_mem_mentions {deletion : Deletion} (h : deletion ≠ .any) :
    deletedColumn ∈ deletion.mentions := by
  cases deletion with
  | any => exact absurd rfl h
  | _ => exact List.mem_cons_self

theorem mentions_scopeConditions (tenant : Option String) (deletion : Deletion) :
    (scopeConditions tenant deletion before).1.flatMap Condition.mentions =
      (if tenant.isSome then [tenantColumn] else []) ++ deletion.mentions := by
  cases tenant <;> cases deletion <;> rfl

/-- Conditions name what their filters and scopes name. -/
theorem mentions_whereConditions (filters : List Fragment) (tenant : Option String) (deletion : Deletion) :
    ∃ own, own ⊆ filters.flatMap Fragment.mentions ∧
      (whereConditions d filters tenant deletion before).1.flatMap Condition.mentions =
        own ++ ((if tenant.isSome then [tenantColumn] else []) ++ deletion.mentions) := by
  have split : (whereConditions d filters tenant deletion before).1 =
      (filters.mapM (Fragment.toCondition d) before).1 ++
        (scopeConditions tenant deletion (filters.mapM (Fragment.toCondition d) before).2).1 := rfl
  refine ⟨(filters.mapM (Fragment.toCondition d) before).1.flatMap Condition.mentions, fun name mem => ?_, ?_⟩
  · obtain ⟨c, bound, mem⟩ := List.mem_flatMap.mp mem
    obtain ⟨f, among, before', rfl⟩ := mem_mapM bound
    exact List.mem_flatMap.mpr ⟨f, among, f.mentions_toCondition d before' mem⟩
  · rw [split, List.flatMap_append, mentions_scopeConditions]

variable {d before} {filters : List Fragment} {tenant : Option String} {deletion : Deletion}

theorem whereConditions_subset (common : ∀ f ∈ filters, f.Common) :
    (whereConditions d filters tenant deletion before).1.flatMap Condition.mentions ⊆
      tableColumns (deletion ≠ .any) := by
  obtain ⟨own, listed, mentions⟩ := mentions_whereConditions d before filters tenant deletion
  rw [mentions]
  refine List.append_subset.mpr ⟨fun name mem => ?_, List.append_subset.mpr ⟨?_, deletion.mentions_subset⟩⟩
  · obtain ⟨f, among, mem⟩ := List.mem_flatMap.mp (listed mem)
    exact insertColumns_subset _ (common f among mem)
  · refine List.Subset.trans ?_ (insertColumns_subset _)
    split
    · decide
    · exact List.nil_subset _

theorem deleted_mem_whereConditions (h : deletion ≠ .any) :
    deletedColumn ∈ (whereConditions d filters tenant deletion before).1.flatMap Condition.mentions := by
  obtain ⟨own, -, mentions⟩ := mentions_whereConditions d before filters tenant deletion
  rw [mentions]
  exact List.mem_append_right _ (List.mem_append_right _ (deletion.deleted_mem_mentions h))

/-! ### Selections -/

namespace Selection

variable {s : Selection} {p : Purpose}

/-- The columns of a projection are computed from columns of every table. -/
theorem columns_subset {p : Projection} (common : p.Common) :
    (columns d p).flatMap Column.mentions ⊆ insertColumns := by
  cases p with
  | documents => show [dataColumn, versionColumn] ⊆ _; decide
  | count => exact List.nil_subset _
  | locator l | aggregate a l =>
    show (l.toTerm d).mentions ++ [] ⊆ _
    rw [List.append_nil, l.mentions_toTerm]
    exact common

theorem columnsFor_subset (common : s.Common) :
    (s.columnsFor d s.purpose).flatMap Column.mentions ⊆ insertColumns := by
  cases purpose : s.purpose with
  | answer | existence => exact columns_subset common.projection
  | counting => show [dataColumn] ⊆ _; decide
  | values l =>
    -- only a member that is computed with is read for its values
    have computed : l.Common := by
      have projected := common.projection
      unfold Selection.purpose at purpose
      split at purpose
      · cases purpose
      · split at purpose
        · cases purpose
        next there _ =>
          cases purpose
          rwa [there] at projected
        · cases purpose
    show (l.toTerm d).mentions ++ [] ⊆ _
    rw [List.append_nil, l.mentions_toTerm]
    exact computed

theorem order_subset (common : s.Common) {name : String}
    (mem : ∃ key ∈ s.order, name ∈ (key.1.toTerm d).mentions) : name ∈ insertColumns := by
  obtain ⟨key, listed, mem⟩ := mem
  rw [key.1.mentions_toTerm] at mem
  exact common.order key listed mem

theorem orderColumns_subset (common : s.Common) :
    (s.orderColumns d).flatMap Column.mentions ⊆ insertColumns := by
  intro name mem
  obtain ⟨column, listed, mem⟩ := List.mem_flatMap.mp mem
  obtain ⟨⟨key, i⟩, numbered, rfl⟩ := List.mem_map.mp listed
  exact order_subset common ⟨key, (List.mem_zipIdx' numbered).2 ▸ List.getElem_mem _, mem⟩

/-- A query names the columns of every table, and those of soft deletion if it asks for the deletion. -/
theorem mentions_toQuery_subset (common : s.Common) :
    (s.toQuery d before).1.mentions ⊆ tableColumns (s.deletion ≠ .any) := by
  rw [Query.mentions, (s.body_toQuery d before).1]
  show ((s.columnsFor d s.purpose ++ ite _ _ _).flatMap Column.mentions ++
    ((whereConditions d s.filters s.tenant s.deletion before).1.flatMap Condition.mentions ++
      Order.mentions (ite _ _ _))) ⊆ _
  rw [List.flatMap_append]
  refine List.append_subset.mpr ⟨List.append_subset.mpr ⟨?_, ?_⟩, List.append_subset.mpr ⟨?_, ?_⟩⟩
  · exact List.Subset.trans (columnsFor_subset common) (insertColumns_subset _)
  · split
    · exact List.Subset.trans (orderColumns_subset common) (insertColumns_subset _)
    · exact List.nil_subset _
  · exact whereConditions_subset common.filters
  · split
    · intro name mem
      obtain ⟨term, listed, mem⟩ := List.mem_flatMap.mp mem
      obtain ⟨key, ordered, rfl⟩ := List.mem_map.mp listed
      exact insertColumns_subset _ (order_subset common ⟨key, ordered, mem⟩)
    · split <;> exact List.nil_subset _

theorem deleted_mem_toQuery (h : s.deletion ≠ .any) : deletedColumn ∈ (s.toQuery d before).1.mentions := by
  rw [Query.mentions, (s.body_toQuery d before).1]
  exact List.mem_append_right _ (List.mem_append_left _ (deleted_mem_whereConditions h))

end Selection

/-! ### Writes -/

theorem versionCondition_subset {version : Term} {expected : Option Int64} :
    (versionCondition version expected before).1.flatMap Condition.mentions ⊆ version.mentions := by
  cases expected with
  | none => exact List.nil_subset _
  | some n =>
    show (version.mentions ++ []) ++ [] ⊆ _
    rw [List.append_nil, List.append_nil]
    exact List.Subset.refl _

theorem Insert.mentions_subset (x : Insert) : (x.toChange before).1.mentions ⊆ insertColumns := by
  show insertColumns ++ [] ⊆ _
  rw [List.append_nil]
  exact List.Subset.refl _

theorem Update.mentions_subset (x : Update) : (x.toChange before).1.mentions ⊆ insertColumns := by
  show [dataColumn, versionColumn, versionColumn, modifiedColumn, typeColumn] ++
    ([idColumn, tenantColumn] ++ (versionCondition (.column versionColumn) _ _).1.flatMap Condition.mentions) ⊆ _
  refine List.append_subset.mpr ⟨by decide, List.append_subset.mpr ⟨by decide, ?_⟩⟩
  exact List.Subset.trans versionCondition_subset (by decide)

/-- The columns that taking back a deletion names. -/
theorem mentions_reviving {column : String → Term} (named : ∀ name, (column name).mentions = [name])
    (revive : Bool) :
    (if revive then reviving column else []).flatMap Assignment.mentions =
      if revive then [deletedColumn, deletedAtColumn] else [] := by
  cases revive with
  | false => rfl
  | true =>
    show (((column _).mentions ++ []) ++ (((column _).mentions ++ []) ++ [])) = _
    rw [named, named]
    rfl

/-- An upsert names the columns of every table and, if it takes a deletion back, those of soft deletion. -/
theorem Upsert.mem_mentions (x : Upsert) (name : String) :
    name ∈ (x.toChange d before).1.mentions ↔ name ∈ tableColumns x.revive := by
  have version {term : Term} (named : term.mentions = [versionColumn]) {expected : Option Int64}
      {before : Array Value} :
      (versionCondition term expected before).1.flatMap Condition.mentions ⊆ insertColumns :=
    List.Subset.trans versionCondition_subset (named ▸ by decide)
  cases d with
  | mssql =>
    have key : [idColumn, tenantColumn] ⊆ insertColumns := by decide
    have set : [dataColumn, versionColumn, versionColumn, modifiedColumn, typeColumn] ⊆ insertColumns := by decide
    show name ∈ [idColumn, tenantColumn] ++
      (versionCondition (.columnOf .target versionColumn) _ _).1.flatMap Condition.mentions ++
      ([dataColumn, versionColumn, versionColumn, modifiedColumn, typeColumn] ++
        (if x.revive then reviving (.columnOf .target) else []).flatMap Assignment.mentions) ++
      insertColumns ++ [] ↔ _
    rw [mentions_reviving fun _ => rfl]
    simp only [tableColumns, List.mem_append, List.not_mem_nil, or_false]
    refine ⟨?_, fun mem => mem.elim .inr fun mem => .inl (.inr (.inr mem))⟩
    rintro (((mem | mem) | mem | mem) | mem)
    · exact .inl (key mem)
    · exact .inl (version rfl mem)
    · exact .inl (set mem)
    · exact .inr mem
    · exact .inl mem
  | sqlite =>
    have set : [dataColumn, dataColumn, versionColumn, versionColumn, modifiedColumn, modifiedColumn, typeColumn,
      typeColumn] ⊆ insertColumns := by decide
    have key : keyColumns ⊆ insertColumns := by decide
    show name ∈ insertColumns ++ [] ++ keyColumns ++
      ([dataColumn, dataColumn, versionColumn, versionColumn, modifiedColumn, modifiedColumn, typeColumn,
          typeColumn] ++
        (if x.revive then reviving .column else []).flatMap Assignment.mentions) ++
      (versionCondition (.columnOf (.table x.table) versionColumn) _ _).1.flatMap Condition.mentions ↔ _
    rw [mentions_reviving fun _ => rfl]
    simp only [tableColumns, List.mem_append, List.not_mem_nil, or_false]
    refine ⟨?_, fun mem => .inl (mem.elim (fun mem => .inl (.inl mem)) fun mem => .inr (.inr mem))⟩
    rintro (((mem | mem) | mem | mem) | mem)
    · exact .inl mem
    · exact .inl (key mem)
    · exact .inl (set mem)
    · exact .inr mem
    · exact .inl (version rfl mem)

/-- A deletion names the columns of its conditions and, if it is soft, those of soft deletion. -/
theorem mentions_bindDeletion (table : TableName) (soft : Option Timestamp) (conditions : List Condition) :
    ((bindDeletion table soft before).1 conditions).mentions =
      (if soft.isSome then [deletedColumn, deletedAtColumn] else []) ++
        conditions.flatMap Condition.mentions := by
  cases soft <;> rfl

end Statement

/-! ### Statements -/

namespace Statement

/-- A statement names the columns of every table, and those of soft deletion only if it uses the mark. -/
theorem mentions_subset {s : Statement} (common : s.Common) :
    (s.tree d before).1.mentions ⊆ tableColumns s.usesMark := by
  cases s with
  | select x => exact Selection.mentions_toQuery_subset common
  | insert x => exact x.mentions_subset
  | update x => exact x.mentions_subset
  | upsert x => exact fun name mem => (x.mem_mentions name).mp mem
  | delete x =>
    show ((bindDeletion x.table x.soft before).1 _).mentions ⊆ tableColumns x.soft.isSome
    rw [mentions_bindDeletion]
    have key : [idColumn, tenantColumn] ⊆ insertColumns := by decide
    exact List.append_subset.mpr ⟨List.subset_append_right _ _, List.Subset.trans key (insertColumns_subset _)⟩
  | deleteWhere x =>
    show ((bindDeletion x.table x.soft before).1 (whereConditions d x.filters (some x.tenant)
      (if x.soft.isSome then .notDeleted else .any) (bindDeletion x.table x.soft before).2).1).mentions ⊆
        tableColumns x.soft.isSome
    rw [mentions_bindDeletion]
    refine List.append_subset.mpr ⟨List.subset_append_right _ _, ?_⟩
    exact List.Subset.trans (whereConditions_subset common)
      (tableColumns_subset fun asked => Deletion.of_ite_ne_any (of_decide_eq_true asked))
  | undeleteWhere x =>
    have revived : [deletedColumn, deletedAtColumn] ⊆ tableColumns true := List.subset_append_right _ _
    show [deletedColumn, deletedAtColumn] ++
      (whereConditions d x.filters (some x.tenant) .deleted before).1.flatMap Condition.mentions ⊆ _
    exact List.append_subset.mpr ⟨revived, whereConditions_subset common⟩
  | createTable x => exact List.nil_subset _

/-- A statement that uses the mark names its column. -/
theorem deleted_mem_mentions {s : Statement} (h : s.usesMark) :
    deletedColumn ∈ (s.tree d before).1.mentions := by
  cases s with
  | select x => exact Selection.deleted_mem_toQuery (of_decide_eq_true h)
  | upsert x => exact (x.mem_mentions _).mpr (deleted_mem_tableColumns.mpr h)
  | delete x | deleteWhere x =>
    show _ ∈ ((bindDeletion x.table x.soft before).1 _).mentions
    have soft : x.soft.isSome = true := h
    rw [mentions_bindDeletion, if_pos soft]
    exact List.mem_cons_self
  | undeleteWhere x => exact List.mem_cons_self
  | insert x | update x | createTable x => cases h

end Statement

/-! ### Tables -/

/-- The table of a mapping, as it is made. -/
def Mapping.createTable (m : Mapping) : CreateTable :=
  ⟨m.table, m.idKind, m.softDeleted⟩

/-- Are identities of the kind numbers? -/
def IdKind.isNumber : IdKind → Bool
  | .int32 | .int64 => true
  | .uuid | .text => false

/-- Identities of the two kinds are stored alike. SQLite only tells numbers from texts. -/
def IdKind.StoredAs (d : Dialect) (a b : IdKind) : Prop :=
  a = b ∨ d = .sqlite ∧ a.isNumber = b.isNumber

instance (d : Dialect) (a b : IdKind) : Decidable (a.StoredAs d b) :=
  inferInstanceAs (Decidable (_ ∨ _))

theorem Sql.ColumnType.sql_id_eq_iff (d : Dialect) (a b : IdKind) :
    (ColumnType.id a).sql d = (ColumnType.id b).sql d ↔ a.StoredAs d b := by
  cases d <;> cases a <;> cases b <;> decide

namespace Statement.CreateTable

/-- The table that is made has all columns that the statement names, and its column of identities has the type
for those of the mapping. -/
def Suits (x : CreateTable) (d : Dialect) (m : Mapping) (s : Statement) : Prop :=
  (∀ before, (s.tree d before).1.mentions ⊆ x.definition.columns.map (·.name)) ∧
    ∃ c ∈ x.definition.columns, c.name = idColumn ∧ c.type.sql d = (ColumnType.id m.idKind).sql d

theorem names_definition (x : CreateTable) :
    x.definition.columns.map (·.name) = tableColumns x.softDelete := by
  obtain ⟨table, kind, soft⟩ := x
  cases soft <;> rfl

theorem exists_id_iff (x : CreateTable) {P : ColumnType → Prop} :
    (∃ c ∈ x.definition.columns, c.name = idColumn ∧ P c.type) ↔ P (.id x.idKind) := by
  refine ⟨?_, fun h => ⟨_, List.mem_cons_self, rfl, h⟩⟩
  rintro ⟨c, listed, named, h⟩
  -- no other column has the name
  have unique : ∀ c ∈ x.definition.columns, c.name = idColumn → c.type = .id x.idKind := by
    obtain ⟨table, kind, soft⟩ := x
    cases soft <;> simp [definition, idColumn, dataColumn, versionColumn, modifiedColumn, typeColumn,
      tenantColumn, deletedColumn, deletedAtColumn]
  exact unique c listed named ▸ h

/-- A table suits a statement if it is made with soft deletion where the statement uses the mark, and for
identities that are stored alike. -/
theorem suits_iff (x : CreateTable) (d : Dialect) (m : Mapping) {s : Statement} (common : s.Common) :
    x.Suits d m s ↔ (s.usesMark = true → x.softDelete = true) ∧ x.idKind.StoredAs d m.idKind := by
  refine and_congr ⟨fun named uses => ?_, fun soft before => ?_⟩
    ((x.exists_id_iff (P := fun type => type.sql d = _)).trans (ColumnType.sql_id_eq_iff d _ _))
  · have there := named #[] (deleted_mem_mentions uses)
    rw [names_definition] at there
    exact deleted_mem_tableColumns.mp there
  · rw [names_definition]
    exact List.Subset.trans (mentions_subset common) (tableColumns_subset soft)

end Statement.CreateTable

end Folio
