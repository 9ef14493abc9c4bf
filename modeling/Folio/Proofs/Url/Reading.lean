import Folio.Proofs.Url.Path

/-!
# Folio.Proofs.Url.Reading

URLs whose scheme is neither one of the network's nor that of files, as they are read.

What follows the scheme is read by what it begins with (`Url.read_of_other`). Behind two slashes stands a host: user,
host and port are taken off the front, each leaving an end of the text (`skipUser_suffix`, `splitHost_suffix`,
`skipPort_suffix`), and the path is read from there (`Url.path_of_readAuthority`). So it is shorter than the text,
unless characters of it are escaped (`Url.length_readPath_le`).

Behind a single slash the whole is a path of steps; and behind none it is a path that may be any text
(`Url.path_of_read`). Such a text has its controls escaped and no space at its end, and is read as itself from then
on (`Url.isRootless_readRootless`, `Url.readRootless_of_rootless`).
-/

namespace Folio.Url

variable {c : Char} {cs p rest : List Char} {path : List String} {u : Url}

/-! ### The length of a path -/

/-- A step adds its length and a slash, and dots add nothing. -/
theorem length_enter_le (path : List String) {segment : List Char} (kept : ∀ c ∈ segment, isEscapedInPath c = false) :
    (Path.rooted (enter path segment)).toText.toList.length ≤
      (Path.rooted path).toText.toList.length + if Dotted segment then 0 else segment.length + 1 := by
  by_cases dots : Dotted segment
  · rw [if_pos dots, enter]
    split
    next =>
      rcases List.eq_nil_or_concat' path with rfl | ⟨front, last, rfl⟩
      · exact Nat.le_refl _
      · rw [List.dropLast_concat, toList_rooted, toList_rooted, List.flatMap_append, List.length_append]
        omega
    next single =>
      rw [if_pos (dots.resolve_right single)]
      omega
  · rw [if_neg dots, enter_eq_append kept dots, toList_rooted, toList_rooted, List.flatMap_append,
      List.length_append]
    simp

theorem length_follow_le (path : List String) {segments : List (List Char)}
    (kept : ∀ s ∈ segments, ∀ c ∈ s, isEscapedInPath c = false) :
    (Path.rooted (follow path segments)).toText.toList.length ≤
      (Path.rooted path).toText.toList.length + (segments.flatMap fun s => '/' :: s).length := by
  fun_induction follow path segments with
  | case1 path => exact Nat.le_add_right ..
  | case2 path last =>
    have entered := length_enter_le path (kept last (List.mem_singleton_self _))
    rw [toList_rooted] at entered ⊢
    rw [List.flatMap_append, List.length_append, List.flatMap_singleton, List.length_cons]
    by_cases dots : Dotted last
    · rw [if_pos dots] at entered
      rw [if_pos ((Bool.or_eq_true ..).mpr dots.symm)]
      simp only [List.flatMap_cons, List.flatMap_nil, String.toList_empty, List.append_nil, List.length_singleton]
      omega
    · rw [if_neg dots] at entered
      rw [if_neg fun h => dots ((Bool.or_eq_true ..).mp h).symm, List.flatMap_nil, List.length_nil]
      omega
  | case3 path segment rest more ih =>
    rw [List.forall_mem_cons] at kept
    have entered := length_enter_le path kept.1
    have followed := ih kept.2
    rw [List.flatMap_cons, List.length_append, List.length_cons]
    split at entered <;> omega

/-- Without escapes a path is no longer than what it is read from, and the slash in front. -/
theorem length_readPath_le (kept : ∀ c ∈ cs, isEscapedInPath c = false) :
    (readPath .other cs).toText.toList.length ≤ cs.length + 1 := by
  have shorter := (List.takeWhile_prefix (l := cs) (!endsPath ·)).length_le
  have kept' : ∀ c ∈ cs.takeWhile (!endsPath ·), isEscapedInPath c = false := fun c mem =>
    kept c ((List.takeWhile_prefix _).subset mem)
  have bound : ∀ text : List Char, (∀ c ∈ text, isEscapedInPath c = false) →
      (Path.rooted (segmentsOf .other text)).toText.toList.length ≤ text.length + 1 := by
    intro text kept
    rw [segmentsOf, isSlash_other, ← List.splitOn]
    have followed := length_follow_le [] fun s mem c there => kept c (mem_of_mem_splitOn mem there)
    rwa [flatMap_splitOn, List.length_cons, toList_rooted [], List.flatMap_nil, List.length_nil, Nat.zero_add]
      at followed
  rw [readPath]
  split
  · exact Nat.zero_le _
  next c text taken =>
    rw [taken] at shorter kept'
    rw [List.length_cons] at shorter
    rw [List.forall_mem_cons] at kept'
    split
    · exact (bound text kept'.2).trans (by omega)
    · exact (bound (c :: text) (List.forall_mem_cons.mpr kept')).trans (by rw [List.length_cons]; omega)

/-! ### Behind two slashes -/

theorem splitAtLastSign_suffix {front back : List Char} (split : splitAtLastSign cs = some (front, back)) :
    back <:+ cs := by
  rw [splitAtLastSign, List.span_eq_takeWhile_dropWhile] at split
  have whole := List.takeWhile_append_dropWhile (p := (· ≠ '@')) (l := cs.reverse)
  cases dropped : cs.reverse.dropWhile (· ≠ '@') with
  | nil =>
    rw [dropped] at split
    cases split
  | cons sign rest =>
    rw [dropped] at split whole
    obtain ⟨-, rfl⟩ := Prod.mk.inj (Option.some.inj split)
    refine ⟨(sign :: rest).reverse, ?_⟩
    rw [← List.reverse_append, whole, List.reverse_reverse]

theorem skipUser_suffix {f : Family} {hasUser : Bool} (skipped : skipUser f cs = .ok (hasUser, rest)) :
    rest <:+ cs := by
  rw [skipUser, List.span_eq_takeWhile_dropWhile] at skipped
  have whole := List.takeWhile_append_dropWhile (p := fun c => !(f.isSlash c || endsPath c)) (l := cs)
  dsimp only at skipped
  split at skipped
  · cases skipped
    exact List.suffix_refl _
  · split at skipped
    · cases skipped
      exact List.nil_suffix
    · cases skipped
  next user host _ split =>
    cases skipped
    obtain ⟨front, same⟩ := splitAtLastSign_suffix split
    refine ⟨front, ?_⟩
    rw [← List.append_assoc, same, whole]

theorem splitHost_suffix (f : Family) (bracketed : Bool) (cs : List Char) :
    (splitHost f bracketed cs).2 <:+ cs := by
  fun_induction splitHost f bracketed cs with
  | case1 => exact List.suffix_refl _
  | case2 => exact List.suffix_refl _
  | case3 bracketed c cs _ _ host rest split ih =>
    rw [split] at ih
    exact ih.trans (List.suffix_cons ..)

theorem skipPort_suffix (skipped : skipPort cs = .ok rest) : rest <:+ cs := by
  unfold skipPort at skipped
  split at skipped
  next cs =>
    rw [List.span_eq_takeWhile_dropWhile] at skipped
    dsimp only at skipped
    split at skipped
    · cases skipped
      exact (List.dropWhile_suffix _).trans (List.suffix_cons ..)
    · cases skipped
  · cases skipped
    exact List.suffix_refl _

/-- Behind two slashes, the path is read from somewhere on. -/
theorem path_of_readAuthority {scheme : String} {f : Family} (read : readAuthority scheme f cs = .ok u) :
    u.scheme = scheme ∧ ∃ rest, rest <:+ cs ∧ u.path = readPath f rest := by
  rw [readAuthority] at read
  cases skipped : skipUser f cs with
  | error fault =>
    rw [skipped] at read
    cases read
  | ok user =>
    obtain ⟨hasUser, after⟩ := user
    have fromUser := skipUser_suffix skipped
    have fromHost := splitHost_suffix f false after
    rw [skipped] at read
    simp only [bind, Except.bind, pure, Except.pure, throw, throwThe, MonadExceptOf.throw] at read
    split at read
    · split at read
      · cases read
      · cases read
        exact ⟨rfl, _, fromHost.trans fromUser, rfl⟩
    · cases host : readHost (if f = .other then readPlainHost else readName) (splitHost f false after).1 with
      | error fault =>
        rw [host] at read
        cases read
      | ok host' =>
        rw [host] at read
        cases port : skipPort (splitHost f false after).2 with
        | error fault =>
          rw [port] at read
          cases read
        | ok rest =>
          rw [port] at read
          cases read
          exact ⟨rfl, rest, (skipPort_suffix port).trans (fromHost.trans fromUser), rfl⟩

theorem scheme_of_readFile (read : readFile cs = .ok u) : u.scheme = "file" := by
  rw [readFile, List.span_eq_takeWhile_dropWhile] at read
  simp only [bind, Except.bind, pure, Except.pure] at read
  split at read
  · cases read
    rfl
  · split at read
    · cases read
      rfl
    · split at read
      · cases read
      · split at read
        · cases read
          rfl
        · cases read
          rfl

/-! ### The whole text -/

theorem dropWhile_of_head {escaped : Char → Bool} (head : ∀ c ∈ cs.head?, escaped c = false) :
    cs.dropWhile escaped = cs := by
  cases cs with
  | nil => rfl
  | cons c cs => exact List.dropWhile_cons_of_neg (by rw [head c rfl]; exact Bool.false_ne_true)

/-- A text that is read does not end in a space. -/
theorem getLast?_clean (s : String) : (clean s).getLast? ≠ some ' ' := by
  intro last
  rw [clean, List.getLast?_filter, List.reverse_reverse] at last
  have within := List.head?_dropWhile_not (fun c => decide (c ≤ ' '))
    (s.toList.dropWhile fun c => decide (c ≤ ' ')).reverse
  cases cut : (s.toList.dropWhile fun c => decide (c ≤ ' ')).reverse.dropWhile fun c => decide (c ≤ ' ') with
  | nil =>
    rw [cut] at last
    cases last
  | cons c cs =>
    -- the last character is beyond a space and is therefore kept
    rw [cut] at last within
    have beyond : ¬c ≤ ' ' := of_decide_eq_false within
    have kept : (!(decide (c = '\t') || decide (c = '\n') || decide (c = '\r'))) = true := by
      rw [Bool.not_eq_true', Bool.eq_false_iff]
      intro removed
      simp only [Bool.or_eq_true, decide_eq_true_eq] at removed
      rcases removed with (rfl | rfl) | rfl <;> exact beyond (by decide)
    rw [List.find?_cons, kept] at last
    obtain rfl := Option.some.inj last
    exact beyond (le_refl _)

/-- A text of no controls, which neither begins nor ends with a space, is read as it is. -/
theorem clean_eq_self {s : String} (plain : ∀ c ∈ s.toList, isControl c = false)
    (first : s.toList.head? ≠ some ' ') (last : s.toList.getLast? ≠ some ' ') : clean s = s.toList := by
  have beyond : ∀ c ∈ s.toList, c ≠ ' ' → decide (c ≤ ' ') = false := by
    intro c mem ne
    have unescaped := plain c mem
    simp only [isControl, Bool.or_eq_false_iff, decide_eq_false_iff_not, not_lt] at unescaped
    exact decide_eq_false fun le => ne (le_antisymm le unescaped.1)
  have front : s.toList.dropWhile (fun c => decide (c ≤ ' ')) = s.toList :=
    dropWhile_of_head fun c head => beyond c (List.mem_of_mem_head? head) fun same => first (same ▸ head)
  have back : s.toList.reverse.dropWhile (fun c => decide (c ≤ ' ')) = s.toList.reverse := by
    refine dropWhile_of_head fun c head => ?_
    rw [List.head?_reverse] at head
    exact beyond c (List.mem_of_mem_getLast? head) fun same => last (same ▸ head)
  rw [clean, front, back, List.reverse_reverse, List.filter_eq_self]
  intro c mem
  have unescaped := plain c mem
  rw [Bool.not_eq_true', Bool.eq_false_iff]
  intro removed
  simp only [Bool.or_eq_true, decide_eq_true_eq] at removed
  rcases removed with (rfl | rfl) | rfl <;> exact absurd unescaped (by decide)

/-- The scheme is followed by a colon. -/
theorem of_readScheme {scheme : String} (read : readScheme cs = some (scheme, rest)) :
    ∃ name, cs = name ++ ':' :: rest := by
  rw [readScheme, List.span_eq_takeWhile_dropWhile] at read
  have whole := List.takeWhile_append_dropWhile (p := isSchemeChar) (l := cs)
  split at read
  · split at read
    next name rest' split =>
      obtain ⟨rfl, dropped⟩ := Prod.mk.inj split
      obtain ⟨-, rfl⟩ := Prod.mk.inj (Option.some.inj read)
      exact ⟨_, by rw [← dropped, whole]⟩
    · cases read
  · cases read

/-- What is read behind a scheme that is not one of the network's or that of files. -/
def readOther (scheme : String) : List Char → Except Fault Url
  | '/' :: '/' :: rest => readAuthority scheme .other rest
  | '/' :: rest => .ok ⟨scheme, none, readPath .other ('/' :: rest)⟩
  | cs => .ok ⟨scheme, none, readRootless cs⟩

theorem read_of_other {s scheme : String} (begun : readScheme (clean s) = some (scheme, cs))
    (other : Family.ofScheme scheme = .other) : Url.read s = readOther scheme cs := by
  rw [Url.read, begun]
  dsimp only
  split
  next network => cases other.symm.trans network
  next file => cases other.symm.trans file
  next file _ => cases other.symm.trans file
  next => rfl
  next authority _ => rw [readOther.eq_2 _ _ authority]
  next authority rooted => rw [readOther.eq_3 _ _ authority rooted]

/-- The path of a URL whose scheme is not one of the network's or that of files: it is read as a path of steps, or
as one that is any text. -/
theorem path_of_read {s : String} (read : Url.read s = .ok u) (other : Family.ofScheme u.scheme = .other) :
    (∃ cs, u.path = readPath .other cs) ∨
      ∃ cs, cs.head? ≠ some '/' ∧ cs.getLast? ≠ some ' ' ∧ u.path = readRootless cs := by
  rw [Url.read] at read
  cases begun : readScheme (clean s) with
  | none =>
    rw [begun] at read
    cases read
  | some parts =>
    obtain ⟨scheme, cs⟩ := parts
    rw [begun] at read
    dsimp only at read
    split at read
    next family =>
      rw [(path_of_readAuthority read).1, family] at other
      cases other
    next family =>
      split at read
      · rw [scheme_of_readFile read] at other
        cases other
      · cases read
        exact absurd (family.symm.trans other) nofun
    next family _ =>
      cases read
      exact absurd (family.symm.trans other) nofun
    next =>
      obtain ⟨-, rest, -, path⟩ := path_of_readAuthority read
      exact .inl ⟨rest, path⟩
    next rest _ _ =>
      cases read
      exact .inl ⟨'/' :: rest, rfl⟩
    next cs _ _ _ _ rootless =>
      cases read
      refine .inr ⟨cs, fun slash => ?_, fun space => ?_, rfl⟩
      · cases cs with
        | nil => cases slash
        | cons c cs => exact rootless cs (congrArg (· :: cs) (Option.some.inj slash))
      · -- the text follows a colon, so that its end is that of the whole
        obtain ⟨name, whole⟩ := of_readScheme begun
        have last := getLast?_clean s
        rw [whole, List.getLast?_append_cons] at last
        cases cs with
        | nil => cases space
        | cons c cs => exact last (List.getLast?_cons_cons.trans space)

/-! ### Paths that are any text -/

/-- A text that is the path of a URL of no steps and stands for itself there. -/
structure IsRootless (p : List Char) : Prop where
  rootless : p.head? ≠ some '/'
  plain : ∀ c ∈ p, isControl c = false
  unended : ∀ c ∈ p, endsPath c = false
  last : p.getLast? ≠ some ' '

theorem isRootless_nil : IsRootless [] :=
  ⟨nofun, nofun, nofun, nofun⟩

theorem IsRootless.unslashed (h : IsRootless p) : ¬['/'] <+: p := by
  rintro ⟨rest, rfl⟩
  exact h.rootless rfl

/-- An escape is read as itself, and is no end of a path. -/
theorem plain_of_mem_escapeChars (mem : c ∈ escapeChars) :
    isControl c = false ∧ endsPath c = false ∧ c ≠ '/' ∧ c ≠ ' ' := by
  have all : escapeChars.all (fun c => !isControl c && !endsPath c && c != '/' && c != ' ') = true := rfl
  have this := List.all_eq_true.mp all c mem
  simpa [and_assoc] using this

theorem escape_ne_nil (c : Char) : escape c ≠ [] := by
  by_cases dot : c = '.'
  · rw [dot]
    decide
  · obtain ⟨b, rest, encoded, -⟩ := exists_escape c dot
    rw [encoded]
    exact List.cons_ne_nil _ _

theorem head?_percentEncode {escaped : Char → Bool} (slash : (percentEncode escaped cs).head? = some '/') :
    cs.head? = some '/' := by
  cases cs with
  | nil => exact slash
  | cons c cs =>
    rw [percentEncode, List.flatMap_cons] at slash
    split at slash
    · rw [List.head?_append_of_ne_nil _ (escape_ne_nil c)] at slash
      exact absurd rfl (plain_of_mem_escapeChars (mem_escapeChars_of_mem_escape (List.mem_of_mem_head? slash))).2.2.1
    · exact slash

theorem getLast?_percentEncode {escaped : Char → Bool} (space : (percentEncode escaped cs).getLast? = some ' ') :
    cs.getLast? = some ' ' := by
  rcases List.eq_nil_or_concat' cs with rfl | ⟨front, c, rfl⟩
  · exact space
  · rw [percentEncode, List.flatMap_append, List.flatMap_singleton] at space
    split at space
    · rw [List.getLast?_append_of_ne_nil _ (escape_ne_nil c)] at space
      exact absurd rfl (plain_of_mem_escapeChars (mem_escapeChars_of_mem_escape (List.mem_of_mem_getLast? space))).2.2.2
    · rwa [List.getLast?_concat] at space ⊢

/-- What is left of a text up to its end has neither a control nor an end. -/
theorem plain_encoded (cs : List Char) :
    ∀ c ∈ percentEncode isControl (cs.takeWhile (!endsPath ·)), isControl c = false ∧ endsPath c = false := by
  intro c mem
  rcases of_mem_percentEncode mem with ⟨there, plain⟩ | ofEscape
  · exact ⟨plain, (Bool.not_eq_true' _).mp (List.mem_takeWhile_imp (p := (!endsPath ·)) there)⟩
  · have plain := plain_of_mem_escapeChars ofEscape
    exact ⟨plain.1, plain.2.1⟩

theorem rootless_encoded (rootless : cs.head? ≠ some '/') :
    (percentEncode isControl (cs.takeWhile (!endsPath ·))).head? ≠ some '/' := by
  intro slash
  have slash := head?_percentEncode slash
  cases cs with
  | nil => cases slash
  | cons c cs =>
    rw [List.takeWhile_cons] at slash
    split at slash
    · exact rootless slash
    · cases slash

/-- With the space at its end escaped, a text ends in a digit. -/
theorem isRootless_escape_space (rootless : p.head? ≠ some '/')
    (plain : ∀ c ∈ p, isControl c = false ∧ endsPath c = false) : IsRootless (p.dropLast ++ escape ' ') := by
  have all : ∀ c ∈ p.dropLast ++ escape ' ', isControl c = false ∧ endsPath c = false := by
    intro c mem
    rcases List.mem_append.mp mem with mem | mem
    · exact plain c (List.mem_of_mem_dropLast mem)
    · have escaped := plain_of_mem_escapeChars (mem_escapeChars_of_mem_escape mem)
      exact ⟨escaped.1, escaped.2.1⟩
  refine ⟨fun slash => ?_, fun c mem => (all c mem).1, fun c mem => (all c mem).2, ?_⟩
  · rcases p with _ | ⟨c, _ | ⟨c', p⟩⟩
    · cases slash
    · cases slash
    · exact rootless slash
  · rw [List.getLast?_append_of_ne_nil _ (escape_ne_nil ' ')]
    decide

/-- A path of no steps that was read stands for itself. -/
theorem isRootless_readRootless (rootless : cs.head? ≠ some '/') (last : cs.getLast? ≠ some ' ') :
    IsRootless (readRootless cs).toText.toList := by
  have whole := List.takeWhile_append_dropWhile (p := (!endsPath ·)) (l := cs)
  have plain := plain_encoded cs
  have rootless := rootless_encoded rootless
  rw [readRootless, List.span_eq_takeWhile_dropWhile]
  dsimp only
  rw [Path.toText, String.toList_ofList]
  split
  · exact isRootless_escape_space rootless plain
  next spaced =>
    refine ⟨rootless, fun c mem => (plain c mem).1, fun c mem => (plain c mem).2, fun space => ?_⟩
    -- without an end, the text is all there is
    rw [space, decide_eq_true rfl, Bool.true_and, Bool.not_eq_true', Bool.not_eq_false, List.isEmpty_iff] at spaced
    rw [spaced, List.append_nil] at whole
    rw [whole] at space
    exact last (getLast?_percentEncode space)

/-- A text that stands for itself is read as itself. -/
theorem readRootless_of_rootless (h : IsRootless p) : readRootless p = .rootless (String.ofList p) := by
  have whole : p.takeWhile (!endsPath ·) = p :=
    List.takeWhile_eq_self_iff.mpr fun c mem => by rw [h.unended c mem]; rfl
  have nothing : p.dropWhile (!endsPath ·) = [] :=
    List.dropWhile_eq_nil_iff.mpr fun c mem => by rw [h.unended c mem]; rfl
  rw [readRootless, List.span_eq_takeWhile_dropWhile]
  dsimp only
  rw [whole, nothing, percentEncode_eq_self h.plain, if_neg]
  simp

end Folio.Url
