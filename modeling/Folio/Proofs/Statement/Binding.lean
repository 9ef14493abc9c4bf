import Folio.Proofs.Statement.Numbered

/-!
# Folio.Proofs.Statement.Binding

Binding only ever adds values. A parameter that a term was given therefore holds the same
value in every command that the term becomes part of (`Grows.getElem?`).
-/

namespace Folio.Statement

open Folio.Sql

variable {α β : Type}

/-- What a list has at a place, all longer ones have there. -/
theorem getElem?_of_longer {xs ys : List α} (grown : xs <+: ys) {i : Nat} {a : α}
    (h : xs[i]? = some a) : ys[i]? = some a := by
  obtain ⟨more, rfl⟩ := grown
  exact (List.getElem?_append_left (List.getElem?_eq_some_iff.mp h).1).trans h

/-- The values that were bound before stay where they are. -/
def Grows (b : Binding α) : Prop :=
  ∀ before, before.toList <+: (b before).2.toList

namespace Grows

theorem pure (a : α) : Grows (pure a) :=
  fun before => List.prefix_refl before.toList

theorem bind {b : Binding α} {f : α → Binding β} (hb : Grows b) (hf : ∀ a, Grows (f a)) :
    Grows (b >>= f) :=
  fun before => (hb before).trans (hf (b before).1 (b before).2)

theorem mapM {f : α → Binding β} (hf : ∀ a, Grows (f a)) (as : List α) : Grows (as.mapM f) := by
  induction as with
  | nil => exact .pure []
  | cons a rest ih =>
    rw [List.mapM_cons]
    exact (hf a).bind fun _ => ih.bind fun _ => .pure _

/-- What binds the same values whatever was bound before does not touch those. -/
theorem of_tallies {used : α → List Nat} {b : Binding α} (h : Tallies used b) : Grows b := by
  intro before
  obtain ⟨vs, fills⟩ := h
  rw [(fills _ before rfl).2]
  exact List.prefix_append ..

variable (d : Dialect)

theorem bindOperand (l : Locator) (v : Value) : Grows (bindOperand d l v) :=
  .of_tallies (Tallies.bindOperand d l v)

theorem toPart (p : TemplatePart) : Grows (p.toPart d) :=
  .of_tallies (Tallies.toPart d p)

theorem toCondition (f : Fragment) : Grows (f.toCondition d) :=
  .of_tallies (Tallies.toCondition d f)

theorem whereConditions (filters : List Fragment) (tenant : Option String) (deletion : Deletion) :
    Grows (whereConditions d filters tenant deletion) :=
  .of_tallies (Tallies.whereConditions d filters tenant deletion)

theorem toQuery (s : Selection) : Grows (s.toQuery d) :=
  .of_tallies (Tallies.toQuery d s)

/-- A value keeps its place in all that is bound later. -/
theorem getElem? {b : Binding α} (hb : Grows b) (before : Array Value) {i : Nat} {v : Value}
    (h : before.toList[i]? = some v) : (b before).2.toList[i]? = some v :=
  getElem?_of_longer (hb before) h

end Grows

/-- The condition on the tenant is among those of every selection that has one. -/
theorem tenant_mem_scopeConditions (a : String) (deletion : Deletion) (before : Array Value) :
    .compare (.column tenantColumn) .eq (.slot (before.size + 1)) ∈
        (scopeConditions (some a) deletion before).1 ∧
      (scopeConditions (some a) deletion before).2.toList[before.size]? = some (.text a) := by
  have first : (before.push (.text a)).toList[before.size]? = some (.text a) := by simp
  have second (v : Value) :
      ((before.push (.text a)).push v).toList[before.size]? = some (.text a) := by
    simp
  cases deletion with
  | any => exact ⟨List.mem_cons_self, first⟩
  | notDeleted => exact ⟨List.mem_cons_self, first⟩
  | deleted => exact ⟨List.mem_cons_self, first⟩
  | deletedSince t => exact ⟨List.mem_cons_self, second _⟩
  | deletedBefore t => exact ⟨List.mem_cons_self, second _⟩

/-- Conditions of which one is that a row is of this tenant, once the values are bound. -/
def TenantIn (a : String) (conditions : List Condition) (params : List Value) : Prop :=
  ∃ i, .compare (.column tenantColumn) .eq (.slot (i + 1)) ∈ conditions ∧
    params[i]? = some (.text a)

theorem tenantIn_whereConditions (d : Dialect) (filters : List Fragment) (a : String)
    (deletion : Deletion) (before : Array Value) :
    TenantIn a (whereConditions d filters (some a) deletion before).1
      (whereConditions d filters (some a) deletion before).2.toList := by
  obtain ⟨mem, bound⟩ := tenant_mem_scopeConditions a deletion
    (filters.mapM (Fragment.toCondition d) before).2
  exact ⟨_, List.mem_append_right _ mem, bound⟩

/-- Later values do not change whose rows the conditions are about. -/
theorem TenantIn.mono {a : String} {conditions : List Condition} {params more : List Value}
    (h : TenantIn a conditions params) (grown : params <+: more) : TenantIn a conditions more := by
  obtain ⟨i, mem, bound⟩ := h
  exact ⟨i, mem, getElem?_of_longer grown bound⟩

end Folio.Statement
