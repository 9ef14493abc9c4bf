import Folio.Proofs.Sql.Operands

/-!
# Folio.Proofs.Sql.Path

Paths as a database reads them.

A statement holds a path as a text, in which steps are written as plain words or between double quotes. Between
these a backslash takes the next character as it is, so the one that stands before a quote has to be told from
one that is a part of the name. Names are written with the first only (`JsonPath.escapeChar`), and therefore a
path is read back just if no name has a backslash (`JsonPath.read_sql_iff`).

That no other name comes out right by chance is a matter of length: what reads as a name is as long as the step
that is written for that name, and longer by one for each backslash in it (`JsonPath.length_of_readStep`).
-/

namespace Folio.Sql

/-- The characters that a text between single quotes stands for, if there is nothing else. -/
def unquoted? (s : String) : Option (List Char) :=
  match tokens (α := Empty) (symbols s) with
  | some [.quoted .single cs] => some cs
  | _ => none

theorem unquoted?_quoteText (s : String) : unquoted? (quoteText s) = some s.toList := by
  have opened : beginWith (α := Empty) '\'' = some (.quoted .single [], []) := rfl
  have quoted := scan_doubling (α := Empty) .single [] s.toList []
  rw [Quote.closing, List.nil_append] at quoted
  simp [unquoted?, tokens, symbols, quoteText, doubled, scan, Pending.next, opened, quoted, Pending.flush]

namespace JsonPath

variable {cs name after : List Char}

/-! ### Names -/

/-- The name up to the double quote that ends it, and what follows. A character after a backslash is taken as it
is. -/
def readQuoted : List Char → Option (List Char × List Char)
  | [] => none
  | '"' :: rest => some ([], rest)
  | ['\\'] => none
  | '\\' :: c :: rest => (readQuoted rest).map fun (name, after) => (c :: name, after)
  | c :: rest => (readQuoted rest).map fun (name, after) => (c :: name, after)

/-- The letters, digits and underscores of ASCII at the start, and what follows. A digit begins no name. -/
def readWord (cs : List Char) : Option (List Char × List Char) :=
  match cs.takeWhile fun c => c.isAlphanum || c == '_' with
  | [] => none
  | c :: rest =>
    if c.isDigit then none else some (c :: rest, cs.dropWhile fun c => c.isAlphanum || c == '_')

/-- The name in the first step, and the steps that follow. -/
def readStep : List Char → Option (List Char × List Char)
  | '.' :: '"' :: rest => readQuoted rest
  | '.' :: rest => readWord rest
  | _ => none

/-- Characters that are no backslashes are read back from their escapes. -/
theorem readQuoted_escaped (plain : '\\' ∉ name) (after : List Char) :
    readQuoted (name.flatMap escapeChar ++ '"' :: after) = some (name, after) := by
  induction name with
  | nil => rfl
  | cons c name ih =>
    rw [List.mem_cons, not_or] at plain
    rw [List.flatMap_cons, List.append_assoc, escapeChar]
    -- a quote is the only character that stands after a backslash
    by_cases quote : c = '"'
    · subst quote
      simp [readQuoted, ih plain.2]
    · rw [if_neg quote, List.singleton_append, readQuoted]
      · simp [ih plain.2]
      · exact fun same => quote same
      · rintro same -
        exact plain.1 same.symm
      · rintro c' rest same -
        exact plain.1 same.symm

/-- The length of a name as it is written between quotes, and once more its backslashes. -/
def weight (name : List Char) : Nat :=
  (name.flatMap escapeChar).length + name.count '\\'

theorem weight_cons (c : Char) (name : List Char) :
    weight (c :: name) = (if c = '"' ∨ c = '\\' then 2 else 1) + weight name := by
  rw [weight, weight, List.flatMap_cons, List.length_append, List.count_cons, escapeChar]
  by_cases quote : c = '"'
  · subst quote
    simp
    omega
  · by_cases backslash : c = '\\'
    · subst backslash
      simp
      omega
    · simp [quote, backslash]
      omega

/-- A name that was read weighs less than what was read. -/
theorem weight_of_readQuoted (read : readQuoted cs = some (name, after)) :
    weight name + 1 + after.length ≤ cs.length := by
  fun_induction readQuoted cs generalizing name after with
  | case1 => cases read
  | case2 rest =>
    obtain ⟨rfl, rfl⟩ := Prod.mk.inj (Option.some.inj read)
    simp [weight, Nat.add_comm]
  | case3 => cases read
  | case4 c rest ih =>
    obtain ⟨⟨name, after⟩, later, same⟩ := Option.map_eq_some_iff.mp read
    obtain ⟨rfl, rfl⟩ := Prod.mk.inj same
    have shorter := ih later
    have one : (if c = '"' ∨ c = '\\' then 2 else 1) ≤ 2 := by split <;> decide
    rw [weight_cons, List.length_cons, List.length_cons]
    omega
  | case5 c rest quote last backslash ih =>
    obtain ⟨⟨name, after⟩, later, same⟩ := Option.map_eq_some_iff.mp read
    obtain ⟨rfl, rfl⟩ := Prod.mk.inj same
    have shorter := ih later
    have plain : ¬(c = '"' ∨ c = '\\') := by
      rintro (rfl | rfl)
      · exact quote rfl
      · cases rest with
        | nil => exact last rfl rfl
        | cons c' rest => exact backslash c' rest rfl rfl
    rw [weight_cons, if_neg plain, List.length_cons]
    omega

/-- A plain name is read up to the point of the next step, or the end. -/
theorem readWord_plain (plain : isPlain name = true) (ends : after = [] ∨ ∃ rest, after = '.' :: rest) :
    readWord (name ++ after) = some (name, after) := by
  cases name with
  | nil => cases plain
  | cons c name =>
    simp only [isPlain, Bool.and_eq_true, Bool.not_eq_true', List.all_eq_true] at plain
    obtain ⟨⟨noDigit, first⟩, rest⟩ := plain
    have letters : ∀ x ∈ c :: name, isWordChar x = true := List.forall_mem_cons.mpr ⟨first, rest⟩
    have stops : after.takeWhile isWordChar = [] ∧ after.dropWhile isWordChar = after := by
      rcases ends with rfl | ⟨after, rfl⟩
      · exact ⟨rfl, rfl⟩
      · exact ⟨rfl, rfl⟩
    have taken : (c :: name ++ after).takeWhile isWordChar = c :: name := by
      rw [List.takeWhile_append_of_pos letters, stops.1, List.append_nil]
    have left : (c :: name ++ after).dropWhile isWordChar = after := by
      rw [List.dropWhile_append_of_pos letters, stops.2]
    show (match (c :: name ++ after).takeWhile isWordChar with
      | [] => none
      | c' :: rest => if c'.isDigit then none else some (c' :: rest, (c :: name ++ after).dropWhile isWordChar)) = _
    rw [taken, left]
    simp [noDigit]

/-- A word that was read is a plain name. -/
theorem eq_of_readWord (read : readWord cs = some (name, after)) :
    cs = name ++ after ∧ isPlain name = true := by
  change (match cs.takeWhile isWordChar with
    | [] => none
    | c :: rest => if c.isDigit then none else some (c :: rest, cs.dropWhile isWordChar)) = _ at read
  have whole := List.takeWhile_append_dropWhile (p := isWordChar) (l := cs)
  have letters := List.all_takeWhile (p := isWordChar) (l := cs)
  cases taken : cs.takeWhile isWordChar with
  | nil =>
    rw [taken] at read
    cases read
  | cons c rest =>
    rw [taken] at read whole letters
    dsimp only at read
    split at read
    · cases read
    next noDigit =>
      obtain ⟨rfl, rfl⟩ := Prod.mk.inj (Option.some.inj read)
      exact ⟨whole.symm, by simpa [isPlain, noDigit] using letters⟩

/-! ### Steps -/

/-- A step is read back if its name has no backslash. -/
theorem readStep_stepChars {name : String} (plain : '\\' ∉ name.toList)
    (ends : after = [] ∨ ∃ rest, after = '.' :: rest) :
    readStep (stepChars name ++ after) = some (name.toList, after) := by
  rw [stepChars]
  split
  next word =>
    have unquoted : ∀ rest, name.toList ++ after ≠ '"' :: rest := by
      cases chars : name.toList with
      | nil =>
        rw [chars] at word
        cases word
      | cons c cs =>
        rintro rest same
        obtain ⟨rfl, -⟩ := List.cons.inj same
        rw [chars] at word
        cases word
    rw [List.cons_append, readStep]
    · exact readWord_plain word ends
    · exact unquoted
  next =>
    show readStep ('.' :: '"' :: (name.toList.flatMap escapeChar ++ ['"'] ++ after)) = _
    rw [readStep, List.append_assoc, List.singleton_append]
    exact readQuoted_escaped plain after

/-- The step of a name weighs at most as if it were quoted. -/
theorem length_stepChars_le (name : List Char) :
    (stepChars (String.ofList name)).length + name.count '\\' ≤ weight name + 3 := by
  have longer : name.length ≤ (name.flatMap escapeChar).length := by
    induction name with
    | nil => exact Nat.le_refl 0
    | cons c name ih =>
      have one : 1 ≤ (escapeChar c).length := by
        rw [escapeChar]
        split <;> exact Nat.succ_pos _
      rw [List.flatMap_cons, List.length_append, List.length_cons]
      omega
  rw [stepChars, String.toList_ofList, weight]
  split
  · rw [List.length_cons]
    omega
  · rw [List.length_cons, List.length_cons, List.length_append, List.length_singleton]
    omega

/-- What reads as a name is as long as the step that is written for the name, and longer by its backslashes. -/
theorem length_of_readStep (read : readStep cs = some (name, after)) :
    (stepChars (String.ofList name)).length + name.count '\\' + after.length ≤ cs.length := by
  unfold readStep at read
  split at read
  next rest =>
    have quoted := length_stepChars_le name
    have shorter := weight_of_readQuoted read
    rw [List.length_cons, List.length_cons]
    omega
  next rest _ =>
    obtain ⟨rfl, plain⟩ := eq_of_readWord read
    have none : name.count '\\' = 0 := by
      rw [List.count_eq_zero]
      intro mem
      cases name with
      | nil => cases plain
      | cons c name =>
        simp only [isPlain, Bool.and_eq_true, List.all_eq_true] at plain
        rcases List.mem_cons.mp mem with same | mem
        · exact absurd (same ▸ plain.1.2) (by decide)
        · exact absurd (plain.2 _ mem) (by decide)
    rw [stepChars, String.toList_ofList, if_pos plain, none, List.length_cons, List.length_cons,
      List.length_append]
    omega
  next => cases read

/-- What follows a step is shorter. -/
theorem length_lt_of_readStep (read : readStep cs = some (name, after)) : after.length < cs.length := by
  have written : 0 < (stepChars (String.ofList name)).length := by
    rw [stepChars]
    split <;> exact Nat.zero_lt_succ _
  have shorter := length_of_readStep read
  omega

/-- The names in steps. -/
def readSteps (cs : List Char) : Option (List String) :=
  if cs = [] then some []
  else
    match _ : readStep cs with
    | none => none
    | some (name, after) => (readSteps after).map (String.ofList name :: ·)
termination_by cs.length
decreasing_by exact length_lt_of_readStep ‹_›

theorem readSteps_of_readStep (read : readStep cs = some (name, after)) :
    readSteps cs = (readSteps after).map (String.ofList name :: ·) := by
  have there : cs ≠ [] := by
    rintro rfl
    cases read
  rw [readSteps, if_neg there]
  split
  next none => cases none.symm.trans read
  next name' after' same =>
    obtain ⟨rfl, rfl⟩ := Prod.mk.inj (Option.some.inj (same.symm.trans read))
    rfl

/-- Steps begin with a point. -/
theorem steps_eq_nil_or_cons (names : List String) :
    names.flatMap stepChars = [] ∨ ∃ rest, names.flatMap stepChars = '.' :: rest := by
  cases names with
  | nil => exact .inl rfl
  | cons name names =>
    rw [List.flatMap_cons, stepChars]
    split
    · exact .inr ⟨_, rfl⟩
    · exact .inr ⟨_, rfl⟩

/-- Steps are read back if no name has a backslash. -/
theorem readSteps_steps {names : List String} (plain : ∀ name ∈ names, '\\' ∉ name.toList) :
    readSteps (names.flatMap stepChars) = some names := by
  induction names with
  | nil => rw [List.flatMap_nil, readSteps, if_pos rfl]
  | cons name names ih =>
    rw [List.forall_mem_cons] at plain
    rw [List.flatMap_cons, readSteps_of_readStep (readStep_stepChars plain.1 (steps_eq_nil_or_cons names)),
      ih plain.2, Option.map_some, String.ofList_toList]

/-- What reads as names is as long as the steps that are written for them, and longer by their backslashes. -/
theorem length_of_readSteps {names : List String} (read : readSteps cs = some names) :
    (names.flatMap stepChars).length + (names.map (·.toList.count '\\')).sum ≤ cs.length := by
  induction names generalizing cs with
  | nil => exact Nat.zero_le _
  | cons name names ih =>
    rw [readSteps] at read
    split at read
    · cases read
    · split at read
      · cases read
      next name' after first =>
        obtain ⟨names', later, same⟩ := Option.map_eq_some_iff.mp read
        obtain ⟨rfl, rfl⟩ := List.cons.inj same
        have here := length_of_readStep first
        have there := ih later
        rw [List.flatMap_cons, List.length_append, List.map_cons, List.sum_cons, String.toList_ofList]
        omega

/-! ### Paths -/

/-- The names in a path. -/
def read? : List Char → Option (List String)
  | '$' :: cs => readSteps cs
  | _ => none

/-- The text of a path in a statement stands for characters that read as this path, exactly if no name has a
backslash. -/
theorem read_sql_iff (p : JsonPath) :
    (unquoted? p.sql).bind read? = some p.names ↔ ∀ name ∈ p.names, '\\' ∉ name.toList := by
  rw [sql, unquoted?_quoteText, Option.bind_some, toText, String.toList_ofList, read?]
  constructor
  · intro read name mem
    -- the text is as long as its steps, which leaves no room for backslashes
    have none := length_of_readSteps read
    have counted : name.toList.count '\\' ≤ (p.names.map (·.toList.count '\\')).sum :=
      List.le_sum_of_mem (List.mem_map_of_mem mem)
    exact List.count_eq_zero.mp (by omega)
  · exact readSteps_steps

/-- A name with a backslash is read as another. -/
example : readQuoted ("a\\b".toList.flatMap escapeChar ++ ['"']) = some ("ab".toList, []) := rfl

end JsonPath
end Folio.Sql
