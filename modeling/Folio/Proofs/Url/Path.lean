import Mathlib
import Folio.Url.Reader

/-!
# Folio.Proofs.Url.Path

Paths of URLs, and which of them stand for themselves.

A path that was read has no character left that would be escaped, and no step that is a dot or a pair of dots: it is
normal (`Url.IsNormal`, `Url.isNormal_readPath`). Escapes do not bring dots about, because the only character whose
bytes would read as a dot is the dot, and it is not escaped (`Url.eq_of_dotted`). A normal path is read as itself
(`Url.readPath_of_normal`).
-/

namespace Folio.Url

variable {c x : Char} {cs p segment : List Char} {path : List String}

/-! ### Escapes -/

/-- The characters of which an escape is made. -/
def escapeChars : List Char :=
  ['%', '0', '1', '2', '3', '4', '5', '6', '7', '8', '9', 'A', 'B', 'C', 'D', 'E', 'F']

theorem mem_escapeChars_of_mem_escape (mem : x ∈ escape c) : x ∈ escapeChars := by
  have digits : ∀ n < 16, (Nat.digitChar n).toUpper ∈ escapeChars := by decide
  rw [escape, List.mem_flatMap] at mem
  obtain ⟨b, -, mem⟩ := mem
  have byte := b.toNat_lt
  simp only [escapeByte, List.mem_cons, List.not_mem_nil, or_false] at mem
  rcases mem with rfl | rfl | rfl
  · decide
  · exact digits _ (by omega)
  · exact digits _ (by omega)

theorem kept_of_mem_escapeChars (mem : c ∈ escapeChars) : isEscapedInPath c = false := by
  have all : escapeChars.all (!isEscapedInPath ·) = true := rfl
  exact (Bool.not_eq_true' _).mp (List.all_eq_true.mp all c mem)

/-- What stands in an encoded text stood there before, unescaped, or is of an escape. -/
theorem of_mem_percentEncode {escaped : Char → Bool} (mem : x ∈ percentEncode escaped cs) :
    (x ∈ cs ∧ escaped x = false) ∨ x ∈ escapeChars := by
  rw [percentEncode, List.mem_flatMap] at mem
  obtain ⟨c, there, mem⟩ := mem
  split at mem
  · exact .inr (mem_escapeChars_of_mem_escape mem)
  next unescaped =>
    obtain rfl := List.mem_singleton.mp mem
    exact .inl ⟨there, Bool.eq_false_of_not_eq_true unescaped⟩

theorem percentEncode_eq_self {escaped : Char → Bool} (kept : ∀ c ∈ cs, escaped c = false) :
    percentEncode escaped cs = cs := by
  rw [percentEncode, List.flatMap_congr (g := fun c => [c]) fun c mem => by rw [kept c mem]; rfl]
  exact List.flatMap_singleton' cs

/-- The first byte of a character is not that of a dot, unless the character is a dot. -/
theorem exists_escape (c : Char) (ne : c ≠ '.') :
    ∃ (b : UInt8) (rest : List Char), escape c = escapeByte b ++ rest ∧ b.toNat ≠ 0x2E := by
  have first : ∃ b bs, String.utf8EncodeChar c = b :: bs ∧ b.toNat ≠ 0x2E := by
    simp only [String.utf8EncodeChar]
    split
    next one =>
      refine ⟨_, _, rfl, fun same => ne ?_⟩
      rw [UInt8.toNat_ofNat', Nat.mod_eq_of_lt (by omega)] at same
      exact Char.toNat_inj.mp same
    next =>
      -- the first of several bytes is one of the upper half
      split
      · exact ⟨_, _, rfl, by rw [UInt8.toNat_ofNat']; omega⟩
      · split
        · exact ⟨_, _, rfl, by rw [UInt8.toNat_ofNat']; omega⟩
        · exact ⟨_, _, rfl, by rw [UInt8.toNat_ofNat']; omega⟩
  obtain ⟨b, bs, encoded, other⟩ := first
  exact ⟨b, bs.flatMap escapeByte, by rw [escape, encoded, List.flatMap_cons], other⟩

/-! ### Dots -/

/-- The segment is a dot or a pair of dots, be they escaped: it leads along the path and is no step of it. -/
def Dotted (segment : List Char) : Prop :=
  isDot segment = true ∨ isDoubleDot segment = true

instance (segment : List Char) : Decidable (Dotted segment) :=
  inferInstanceAs (Decidable (_ ∨ _))

/-- What is escaped in dots is a dot. -/
theorem Dotted.of_infix {h l : Char} (dots : Dotted segment) (mark : ['%', h, l] <:+: segment.map Char.toLower) :
    h = '2' ∧ l = 'e' := by
  have spelled : String.ofList (segment.map Char.toLower) ∈ [".", "%2e", "..", ".%2e", "%2e.", "%2e%2e"] := by
    rcases dots with dot | dots
    · exact List.mem_append_left _ (List.contains_iff_mem.mp dot)
    · exact List.mem_append_right [".", "%2e"] (List.contains_iff_mem.mp dots)
  obtain ⟨t, mem, same⟩ : ∃ t ∈ [".", "%2e", "..", ".%2e", "%2e.", "%2e%2e"],
      segment.map Char.toLower = String.toList t :=
    ⟨_, spelled, String.toList_ofList.symm⟩
  rw [same] at mark
  revert mark
  simp only [List.mem_cons, List.not_mem_nil, or_false] at mem
  rcases mem with rfl | rfl | rfl | rfl | rfl | rfl <;>
    simp [List.infix_cons_iff, List.cons_prefix_cons]

/-- Dots stand in an encoded text only if they stood there before. -/
theorem eq_of_dotted (dots : Dotted (percentEncode isEscapedInPath cs)) : percentEncode isEscapedInPath cs = cs := by
  refine percentEncode_eq_self fun c mem => Bool.eq_false_of_not_eq_true fun escaped => ?_
  obtain ⟨front, back, rfl⟩ := List.append_of_mem mem
  have ne : c ≠ '.' := by
    rintro rfl
    exact absurd escaped (by decide)
  obtain ⟨b, rest, encoded, other⟩ := exists_escape c ne
  -- the escape of the first byte is within the dots, so that the byte is the one of a dot
  have inside : escapeByte b <:+: percentEncode isEscapedInPath (front ++ c :: back) := by
    refine ⟨percentEncode isEscapedInPath front, rest ++ percentEncode isEscapedInPath back, ?_⟩
    simp [percentEncode, escaped, encoded]
  have digits : ∀ n < 16, ((Nat.digitChar n).toUpper.toLower = '2' → n = 2) ∧
      ((Nat.digitChar n).toUpper.toLower = 'e' → n = 14) := by decide
  have byte := b.toNat_lt
  obtain ⟨high, low⟩ := dots.of_infix (inside.map Char.toLower)
  have high := (digits (b.toNat / 16) (by omega)).1 high
  have low := (digits (b.toNat % 16) (by omega)).2 low
  omega

/-! ### Steps -/

/-- A step of a path that was read. -/
structure IsStep (segment : List Char) : Prop where
  kept : ∀ c ∈ segment, isEscapedInPath c = false
  undivided : '/' ∉ segment
  straight : ¬Dotted segment

theorem isStep_percentEncode (undivided : '/' ∉ segment) (straight : ¬Dotted segment) :
    IsStep (percentEncode isEscapedInPath segment) where
  kept c mem := by
    rcases of_mem_percentEncode mem with ⟨-, kept⟩ | ofEscape
    · exact kept
    · exact kept_of_mem_escapeChars ofEscape
  undivided mem := by
    rcases of_mem_percentEncode mem with ⟨there, -⟩ | ofEscape
    · exact undivided there
    · exact absurd ofEscape (by decide)
  straight dots := straight (eq_of_dotted dots ▸ dots)

theorem isStep_nil : IsStep [] where
  kept := nofun
  undivided := nofun
  straight := by decide

theorem isSteps_enter (steps : ∀ s ∈ path, IsStep s.toList) (undivided : '/' ∉ segment) :
    ∀ s ∈ enter path segment, IsStep s.toList := by
  rw [enter]
  split
  · exact fun s mem => steps s (List.mem_of_mem_dropLast mem)
  next single =>
    split
    · exact steps
    next double =>
      intro s mem
      rcases List.mem_append.mp mem with mem | mem
      · exact steps s mem
      · rw [List.mem_singleton.mp mem, String.toList_ofList]
        exact isStep_percentEncode undivided (not_or.mpr ⟨double, single⟩)

theorem isSteps_follow {segments : List (List Char)} (steps : ∀ s ∈ path, IsStep s.toList)
    (undivided : ∀ s ∈ segments, '/' ∉ s) : ∀ s ∈ follow path segments, IsStep s.toList := by
  fun_induction follow path segments with
  | case1 path => exact steps
  | case2 path last =>
    intro s mem
    rcases List.mem_append.mp mem with mem | mem
    · exact isSteps_enter steps (undivided last (List.mem_singleton_self _)) s mem
    · split at mem
      · rw [List.mem_singleton.mp mem]
        exact isStep_nil
      · cases mem
  | case3 path segment rest more ih =>
    rw [List.forall_mem_cons] at undivided
    exact ih (isSteps_enter steps undivided.1) undivided.2

/-! ### Paths as texts -/

theorem isSlash_other : Family.other.isSlash = (· == '/') := by
  funext c
  simp [Family.isSlash, Bool.beq_eq_decide_eq]

theorem toList_rooted (steps : List String) :
    (Path.rooted steps).toText.toList = steps.flatMap fun s => '/' :: s.toList := by
  rw [Path.toText, String.toList_join, List.flatMap_map]
  simp only [String.toList_append]
  rfl

/-- What stands between slashes has none. -/
theorem undivided_of_mem_splitOn (mem : segment ∈ cs.splitOn '/') : '/' ∉ segment := by
  induction cs generalizing segment with
  | nil =>
    rw [List.splitOn_nil, List.mem_singleton] at mem
    exact mem ▸ List.not_mem_nil
  | cons c cs ih =>
    rw [List.splitOn_cons_eq_if_modifyHead] at mem
    split at mem
    · rcases List.mem_cons.mp mem with rfl | mem
      · exact List.not_mem_nil
      · exact ih mem
    next other =>
      cases segments : cs.splitOn '/' with
      | nil =>
        rw [segments] at mem
        cases mem
      | cons first rest =>
        rw [segments] at ih mem
        rcases List.mem_cons.mp mem with rfl | mem
        · rw [List.mem_cons, not_or]
          exact ⟨fun same => other (beq_iff_eq.mpr same.symm), ih List.mem_cons_self⟩
        · exact ih (List.mem_cons_of_mem _ mem)

/-- A text of segments is the first of them, and the others behind slashes. -/
theorem intercalate_slash (front : List Char) (segments : List (List Char)) :
    ['/'].intercalate (front :: segments) = front ++ segments.flatMap fun s => '/' :: s := by
  induction segments generalizing front with
  | nil => rw [List.intercalate_singleton, List.flatMap_nil, List.append_nil]
  | cons s segments ih =>
    rw [List.intercalate_cons_cons, ih, List.flatMap_cons, List.append_assoc, List.singleton_append, List.cons_append]

/-- A text behind a slash is its segments, each behind one. -/
theorem flatMap_splitOn (cs : List Char) : ((cs.splitOn '/').flatMap fun s => '/' :: s) = '/' :: cs := by
  have whole : ['/'].intercalate (cs.splitOn '/') = cs := List.intercalate_splitOn '/'
  obtain ⟨first, rest, segments⟩ := List.exists_cons_of_ne_nil (List.splitOn_ne_nil '/' cs)
  rw [segments, intercalate_slash] at whole
  rw [segments, List.flatMap_cons, List.cons_append, whole]

/-- The segments of steps, with what stands in front of them as the first. -/
theorem splitOn_steps {front : List Char} {steps : List String} (undivided : '/' ∉ front)
    (each : ∀ s ∈ steps, '/' ∉ s.toList) :
    (front ++ steps.flatMap fun s => '/' :: s.toList).splitOn '/' = front :: steps.map String.toList := by
  have apart : ∀ l ∈ front :: steps.map String.toList, '/' ∉ l :=
    List.forall_mem_cons.mpr ⟨undivided, List.forall_mem_map.mpr each⟩
  rw [← List.splitOn_intercalate '/' apart (List.cons_ne_nil _ _), intercalate_slash, List.flatMap_map]

/-! ### Normal paths -/

/-- A path that stands for itself in a URL: none of its characters is escaped, and between its slashes are no
dots. -/
structure IsNormal (p : List Char) : Prop where
  kept : ∀ c ∈ p, isEscapedInPath c = false
  straight : ∀ s ∈ p.splitOn '/', ¬Dotted s

theorem isNormal_iff : IsNormal p ↔
    (p.all (!isEscapedInPath ·) && (p.splitOn '/').all fun s => !decide (Dotted s)) = true := by
  simp only [Bool.and_eq_true, List.all_eq_true, Bool.not_eq_true', decide_eq_false_iff_not]
  exact ⟨fun normal => ⟨normal.kept, normal.straight⟩, fun both => ⟨both.1, both.2⟩⟩

instance (p : List Char) : Decidable (IsNormal p) :=
  decidable_of_iff _ isNormal_iff.symm

theorem isNormal_rooted {steps : List String} (each : ∀ s ∈ steps, IsStep s.toList) :
    IsNormal (Path.rooted steps).toText.toList where
  kept c mem := by
    rw [toList_rooted, List.mem_flatMap] at mem
    obtain ⟨s, there, mem⟩ := mem
    rcases List.mem_cons.mp mem with rfl | mem
    · decide
    · exact (each s there).kept c mem
  straight s mem := by
    rw [toList_rooted, ← List.nil_append (List.flatMap _ _),
      splitOn_steps List.not_mem_nil fun s there => (each s there).undivided, List.mem_cons] at mem
    rcases mem with rfl | mem
    · exact isStep_nil.straight
    · obtain ⟨s, there, rfl⟩ := List.mem_map.mp mem
      exact (each s there).straight

/-- A path that was read is normal. -/
theorem isNormal_readPath (cs : List Char) : IsNormal (readPath .other cs).toText.toList := by
  rw [readPath]
  split
  · exact isNormal_rooted nofun
  · rw [segmentsOf, isSlash_other]
    exact isNormal_rooted (isSteps_follow nofun fun s mem => undivided_of_mem_splitOn mem)

/-- A path of steps is empty or begins with a slash. -/
theorem toList_readPath (cs : List Char) :
    (readPath .other cs).toText.toList = [] ∨ ∃ p, (readPath .other cs).toText.toList = '/' :: p := by
  have rooted : ∃ steps, readPath .other cs = .rooted steps := by
    rw [readPath]
    split
    · exact ⟨_, rfl⟩
    · exact ⟨_, rfl⟩
  obtain ⟨steps, path⟩ := rooted
  rw [path, toList_rooted]
  cases steps with
  | nil => exact .inl rfl
  | cons s steps => exact .inr ⟨_, rfl⟩

theorem enter_eq_append (kept : ∀ c ∈ segment, isEscapedInPath c = false) (straight : ¬Dotted segment) :
    enter path segment = path ++ [String.ofList segment] := by
  obtain ⟨single, double⟩ := not_or.mp straight
  rw [enter, if_neg double, if_neg single, percentEncode_eq_self kept]

theorem follow_eq_append {segments : List (List Char)} (kept : ∀ s ∈ segments, ∀ c ∈ s, isEscapedInPath c = false)
    (straight : ∀ s ∈ segments, ¬Dotted s) : follow path segments = path ++ segments.map String.ofList := by
  fun_induction follow path segments with
  | case1 path => exact (List.append_nil _).symm
  | case2 path last =>
    have plain := straight last (List.mem_singleton_self _)
    rw [enter_eq_append (kept last (List.mem_singleton_self _)) plain, if_neg, List.append_nil]
    · rfl
    · rwa [Bool.or_eq_true, or_comm]
  | case3 path segment rest more ih =>
    rw [List.forall_mem_cons] at kept straight
    rw [ih kept.2 straight.2, enter_eq_append kept.1 straight.1, List.map_cons, List.append_assoc,
      List.singleton_append]

theorem mem_of_mem_splitOn (mem : segment ∈ cs.splitOn '/') (there : c ∈ segment) : c ∈ cs := by
  have inside : c ∈ '/' :: cs := by
    rw [← flatMap_splitOn]
    exact List.mem_flatMap_of_mem mem (List.mem_cons_of_mem _ there)
  rcases List.mem_cons.mp inside with rfl | inside
  · exact absurd there (undivided_of_mem_splitOn mem)
  · exact inside

/-- What ends a path is escaped in it. -/
theorem endsPath_eq_false (kept : isEscapedInPath c = false) : endsPath c = false := by
  refine Bool.eq_false_of_not_eq_true fun ends => ?_
  simp only [endsPath, Bool.or_eq_true, decide_eq_true_eq] at ends
  rcases ends with rfl | rfl <;> exact absurd kept (by decide)

/-- A normal path is read as itself. -/
theorem readPath_of_normal (normal : IsNormal ('/' :: p)) :
    (readPath .other ('/' :: p)).toText.toList = '/' :: p := by
  have whole : ('/' :: p).takeWhile (!endsPath ·) = '/' :: p :=
    List.takeWhile_eq_self_iff.mpr fun c mem => by rw [endsPath_eq_false (normal.kept c mem)]; rfl
  have segments : ('/' :: p).splitOn '/' = [] :: p.splitOn '/' := by
    rw [List.splitOn_cons_eq_if_modifyHead, if_pos (beq_self_eq_true _)]
  have straight := normal.straight
  rw [segments, List.forall_mem_cons] at straight
  have kept : ∀ s ∈ p.splitOn '/', ∀ c ∈ s, isEscapedInPath c = false := fun s mem c there =>
    normal.kept c (List.mem_cons_of_mem _ (mem_of_mem_splitOn mem there))
  rw [readPath, whole]
  show (Path.rooted (segmentsOf .other p)).toText.toList = _
  rw [segmentsOf, isSlash_other, ← List.splitOn, follow_eq_append kept straight.2, List.nil_append, toList_rooted,
    List.flatMap_map]
  simp only [String.toList_ofList]
  exact flatMap_splitOn p

end Folio.Url
