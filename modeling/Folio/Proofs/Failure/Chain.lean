import Mathlib
import Folio.Failure

/-!
# Folio.Proofs.Failure.Chain

What a chain of causes keeps, and what it tells about a document.

A context goes in front of the causes that are there, and these stay as they are. Of the context itself its first
cause goes in front, as it is or, if somebody else holds the context, by its message only
(`Failure.message_addContext`, `Failure.sought_addContext`). So a context that is a single cause is shown in full,
and asking for the kinds of cause that are looked for in a whole chain finds it unless it is held
(`Failure.addContext_keeps`).

The type and the identity of a document are those of the first cause that is about a document, the version is that
of the first conflict (`Failure.describes_first`). With another cause about a document in front of the conflict
these are two documents (`Failure.describes_two`).
-/

namespace Folio

namespace Failure

variable {e c f : Failure} {held : Bool} {p : Failure → Bool}

/-! ### Context -/

/-- The questions for a kind of cause that are put to all causes of a chain. -/
def sought : List (Failure → Bool) :=
  [isConflict, isAlreadyExists, isNotFound, isDuplicateKey]

/-- A question for a kind is put to each cause, and no mere message is of the kind. -/
theorem exists_eq_any (mem : p ∈ sought) :
    ∃ isKind : Cause → Bool, (∀ text, isKind (.message text) = false) ∧ ∀ f, p f = f.chain.any isKind := by
  simp only [sought, List.mem_cons, List.not_mem_nil, or_false] at mem
  rcases mem with rfl | rfl | rfl | rfl <;> exact ⟨_, fun _ => rfl, fun _ => rfl⟩

/-- Held or not, the first cause of the context is shown. -/
theorem wording_addContext (e c : Failure) (held : Bool) :
    (e.addContext c held).head.wording = c.head.wording := by
  cases held <;> rfl

theorem message_addContext (e c : Failure) (held : Bool) :
    (e.addContext c held).message = c.head.wording ++ ": " ++ e.message := by
  rw [message, chain, List.map_cons, wording_addContext]
  exact String.intercalate_cons_cons

theorem message_of_bare (bare : c.beneath = []) : c.message = c.head.wording := by
  rw [message, chain, bare]
  exact String.intercalate_singleton

/-- A kind is found behind a context if the context is not held and begins with it, or if it was there before. -/
theorem sought_addContext (mem : p ∈ sought) :
    p (e.addContext c held) = true ↔ (held = false ∧ p ⟨c.head, []⟩ = true) ∨ p e = true := by
  obtain ⟨isKind, noMessage, asks⟩ := exists_eq_any mem
  have first : isKind (e.addContext c held).head = true ↔ held = false ∧ isKind c.head = true := by
    cases held with
    | false => simp [addContext]
    | true => simp [addContext, noMessage]
  rw [asks, asks, asks, chain, List.any_cons, Bool.or_eq_true, first]
  simp [chain, addContext]

/-- A kind that the first cause of a chain is of is found in the chain. -/
theorem sought_of_head (mem : p ∈ sought) (first : p ⟨c.head, []⟩ = true) : p c = true := by
  obtain ⟨isKind, -, asks⟩ := exists_eq_any mem
  rw [asks, chain, List.any_cons, Bool.or_eq_true]
  rw [asks] at first
  exact .inl (by simpa [chain] using first)

/-- A context without context of its own is shown in front of the failure, and a kind is found behind it if it was
there before or if the context is of that kind and nobody else holds it. Of any context the first cause is shown in
front, unless it is held its kind is found, and no kind is found that is neither that of a cause of the context nor
was there before; all that was there is shown and found as before. -/
theorem addContext_keeps (e c : Failure) (held : Bool) :
    (c.beneath = [] →
      (e.addContext c held).message = c.message ++ ": " ++ e.message ∧
        ∀ p ∈ sought, p (e.addContext c held) = true ↔ (held = false ∧ p c = true) ∨ p e = true) ∧
      (∃ between, (e.addContext c held).message = c.head.wording ++ between ++ ": " ++ e.message) ∧
      ∀ p ∈ sought,
        (p e = true → p (e.addContext c held) = true) ∧
        (held = false → p ⟨c.head, []⟩ = true → p (e.addContext c held) = true) ∧
        (p (e.addContext c held) = true → p c = true ∨ p e = true) := by
  refine ⟨fun bare => ⟨?_, fun p mem => ?_⟩, ⟨"", ?_⟩, fun p mem => ⟨fun there => ?_, fun free first => ?_, ?_⟩⟩
  · rw [message_addContext, message_of_bare bare]
  · have alone : (⟨c.head, []⟩ : Failure) = c := by rw [← bare]
    rw [sought_addContext mem, alone]
  · rw [message_addContext, String.append_empty]
  · exact (sought_addContext mem).mpr (.inr there)
  · exact (sought_addContext mem).mpr (.inl ⟨free, first⟩)
  · intro found
    rcases (sought_addContext mem).mp found with ⟨-, first⟩ | there
    · exact .inl (sought_of_head mem first)
    · exact .inr there

/-- A write of a user that found another version. -/
def stale : Failure :=
  ⟨.conflict "user" (.int64 7) 3, []⟩

/-- A failure without more than a message. -/
def plain : Failure :=
  ⟨.message "root", []⟩

/-- The same write, seen from the saving that it was a part of. -/
def staleSaving : Failure :=
  stale.addContext ⟨.message "save_changes", []⟩ false

/-- A conflict is shown and found behind any failure to which it is added, and it is still found when context is
added to it that somebody else holds. -/
theorem addContext_keeps_stale :
    (plain.addContext stale false).message = stale.message ++ ": " ++ plain.message ∧
      (plain.addContext stale false).isConflict = true ∧ (stale.addContext staleSaving true).isConflict = true := by
  have conflict : isConflict ∈ sought := by simp [sought]
  obtain ⟨shown, found⟩ := (addContext_keeps plain stale false).1 rfl
  refine ⟨shown, (found isConflict conflict).mpr (.inl ⟨rfl, rfl⟩), ?_⟩
  exact ((addContext_keeps stale staleSaving true).2.2 isConflict conflict).1 rfl

/-- A conflict that somebody else holds is not found behind the failure to which it is added, and of a context with
context of its own the conflict underneath is not shown. -/
theorem addContext_loses :
    ¬((plain.addContext stale true).isConflict = true ↔ stale.isConflict = true ∨ plain.isConflict = true) ∧
      (plain.addContext staleSaving false).message ≠ staleSaving.message ++ ": " ++ plain.message :=
  ⟨by decide, by decide⟩

end Failure

/-! ### Documents -/

/-- The document that the cause is about. -/
def Cause.document? : Cause → Option (String × DocumentId)
  | .conflict type id _ | .alreadyExists type id | .notFound type id => some (type, id)
  | _ => none

/-- The version that the write expected, if the cause is a conflict. -/
def Cause.expected? : Cause → Option Int64
  | .conflict _ _ version => some version
  | _ => none

theorem Cause.expected?_eq_some {cause : Cause} {version : Int64} :
    cause.expected? = some version ↔ ∃ type id, cause = .conflict type id version := by
  cases cause <;> simp [expected?]

namespace Failure

variable {f : Failure} {type : String} {id : DocumentId}

theorem documentType_eq (f : Failure) :
    f.documentType = (f.chain.findSome? Cause.document?).map Prod.fst := by
  rw [List.map_findSome?, documentType, find?]
  exact congrArg (f.chain.findSome? ·) (funext fun cause => by cases cause <;> rfl)

theorem documentId_eq (f : Failure) :
    f.documentId = (f.chain.findSome? Cause.document?).map Prod.snd := by
  rw [List.map_findSome?, documentId, find?]
  exact congrArg (f.chain.findSome? ·) (funext fun cause => by cases cause <;> rfl)

theorem expectedVersion_eq (f : Failure) : f.expectedVersion = f.chain.findSome? Cause.expected? := by
  rw [expectedVersion, find?]
  exact congrArg (f.chain.findSome? ·) (funext fun cause => by cases cause <;> rfl)

/-- The document is that of the first cause that is about one. -/
theorem document_of_first {front back : List Cause} {cause : Cause} (split : f.chain = front ++ cause :: back)
    (about : cause.document? = some (type, id)) (first : ∀ x ∈ front, x.document? = none) :
    f.documentType = some type ∧ f.documentId = some id := by
  have found : f.chain.findSome? Cause.document? = some (type, id) :=
    List.findSome?_eq_some_iff.mpr ⟨front, cause, back, split, about, first⟩
  rw [documentType_eq, documentId_eq, found]
  exact ⟨rfl, rfl⟩

/-- Either there is no document, or its type and its identity are those of one cause, the first that is about a
document. An expected version is that of the first conflict, which is about that document unless a cause in front
of it is about one. -/
theorem describes_first (f : Failure) :
    ((f.documentType = none ∧ f.documentId = none) ∨
      ∃ front cause back type id, f.chain = front ++ cause :: back ∧ cause.document? = some (type, id) ∧
        (∀ x ∈ front, x.document? = none) ∧ f.documentType = some type ∧ f.documentId = some id) ∧
      ∀ version, f.expectedVersion = some version →
        ∃ front type id back, f.chain = front ++ .conflict type id version :: back ∧
          (∀ x ∈ front, x.expected? = none) ∧
          ((∀ x ∈ front, x.document? = none) → f.documentType = some type ∧ f.documentId = some id) := by
  constructor
  · cases found : f.chain.findSome? Cause.document? with
    | none =>
      left
      rw [documentType_eq, documentId_eq, found]
      exact ⟨rfl, rfl⟩
    | some document =>
      right
      obtain ⟨front, cause, back, split, about, first⟩ := List.findSome?_eq_some_iff.mp found
      exact ⟨front, cause, back, document.1, document.2, split, about, first, document_of_first split about first⟩
  · intro version expected
    rw [expectedVersion_eq] at expected
    obtain ⟨front, cause, back, split, expects, first⟩ := List.findSome?_eq_some_iff.mp expected
    obtain ⟨type, id, rfl⟩ := Cause.expected?_eq_some.mp expects
    exact ⟨front, type, id, back, split, first, document_of_first split rfl⟩

/-- With a mere message in front of it, the conflict is the document's. -/
theorem describes_first_stale :
    staleSaving.documentType = some "user" ∧ staleSaving.documentId = some (.int64 7) ∧
      staleSaving.expectedVersion = some 3 := by
  obtain ⟨front, type, id, back, split, -, same⟩ := (describes_first staleSaving).2 3 rfl
  rcases front with _ | ⟨x, _ | ⟨y, front⟩⟩
  · cases split
  · cases split
    have about := same fun x mem => by
      rw [List.mem_singleton.mp mem]
      rfl
    exact ⟨about.1, about.2, rfl⟩
  · exact absurd (congrArg List.length split) (by simp [staleSaving, stale, addContext, chain])

/-- A conflict over an order, to which was added that a user exists. -/
def crossed : Failure :=
  addContext ⟨.conflict "order" (.int32 2) 3, []⟩ ⟨.alreadyExists "user" (.int32 1), []⟩ false

/-- The type and the identity are those of the user, the version is that of the order, and there is no conflict of
all three. -/
theorem describes_two :
    crossed.documentType = some "user" ∧ crossed.documentId = some (.int32 1) ∧ crossed.expectedVersion = some 3 ∧
      ¬∃ type id version, .conflict type id version ∈ crossed.chain ∧ crossed.documentType = some type ∧
        crossed.documentId = some id ∧ crossed.expectedVersion = some version := by
  refine ⟨rfl, rfl, rfl, ?_⟩
  rintro ⟨type, id, version, mem, named, -⟩
  have order : type = "order" := by
    simpa [crossed, addContext, chain] using And.left (by simpa [crossed, addContext, chain] using mem)
  rw [order] at named
  exact absurd named (by decide)

end Failure
end Folio
