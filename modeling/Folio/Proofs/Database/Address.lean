import Folio.Database.Address
import Folio.Proofs.Database.Run
import Folio.Proofs.Url.Reading

/-!
# Folio.Proofs.Database.Address

Which file a SQLite URL names.

Behind the scheme stands a path, and a path in a URL is not any text: some of its characters are escaped, and dots
lead along it. The text that is left is taken for the name of the file. So a URL names the file that it says just
if the path is normal (`Url.IsNormal`), and the URL of a database names it again unless the path begins with two
slashes, behind which a host is read (`Address.names_exactly_iff`).
-/

namespace Folio.Database.Address

open Folio.Url (IsNormal IsRootless)

variable {url : String} {d : Address} {q : String} {p : List Char}

theorem readUrl_eq_ok {u : Url} : readUrl url = .ok u ↔ Url.read url = .ok u := by
  rw [readUrl]
  cases Url.read url with
  | ok parsed => exact ⟨fun same => congrArg _ (Except.ok.inj same), fun same => congrArg _ (Except.ok.inj same)⟩
  | error fault => exact iff_of_false nofun nofun

theorem sqlite_eq_ok : sqlite url = .ok d ↔
    ∃ u, Url.read url = .ok u ∧ u.scheme = "sqlite" ∧ ofPath u.path.toText = d := by
  simp only [sqlite, Outcome.bind_eq_ok, readUrl_eq_ok]
  refine exists_congr fun u => and_congr_right fun _ => ?_
  by_cases scheme : u.scheme = "sqlite"
  · rw [if_pos scheme]
    exact ⟨fun same => ⟨scheme, Except.ok.inj same⟩, fun same => congrArg _ same.2⟩
  · rw [if_neg scheme]
    exact iff_of_false nofun fun h => scheme h.1

theorem eq_of_ofPath {path : String} (same : ofPath path = .file q) : path = q := by
  rw [ofPath] at same
  split at same
  · cases same
  · exact Address.file.inj same

/-- The path of a file that was named is not the one that stands for memory. -/
theorem ofPath_of_sqlite (named : sqlite url = .ok (.file q)) : ofPath q = .file q := by
  obtain ⟨u, -, -, same⟩ := sqlite_eq_ok.mp named
  rwa [eq_of_ofPath same] at same

/-! ### URLs of paths -/

/-- A text of no controls that does not end in a space stands behind the scheme as it is. -/
theorem readScheme_sqlite (plain : ∀ c ∈ p, Url.isControl c = false) (last : p.getLast? ≠ some ' ') :
    Url.readScheme (Url.clean ("sqlite:" ++ String.ofList p)) = some ("sqlite", p) := by
  have chars : ("sqlite:" ++ String.ofList p).toList = ['s', 'q', 'l', 'i', 't', 'e', ':'] ++ p := by
    simp only [String.toList_append, String.toList_ofList]
    rfl
  have kept : ['s', 'q', 'l', 'i', 't', 'e', ':'].all (!Url.isControl ·) = true := rfl
  rw [Url.clean_eq_self, chars]
  · rfl
  · rw [chars]
    intro c mem
    rcases List.mem_append.mp mem with mem | mem
    · exact (Bool.not_eq_true' _).mp (List.all_eq_true.mp kept c mem)
    · exact plain c mem
  · rw [chars]
    exact fun space => absurd (Option.some.inj space) (by decide)
  · rw [chars]
    cases p with
    | nil => decide
    | cons c p => rwa [List.getLast?_append_of_ne_nil _ (List.cons_ne_nil c p)]

/-- The URL of such a text is read by what it begins with. -/
theorem read_sqlite (plain : ∀ c ∈ p, Url.isControl c = false) (last : p.getLast? ≠ some ' ') :
    Url.read ("sqlite:" ++ String.ofList p) = Url.readOther "sqlite" p :=
  Url.read_of_other (readScheme_sqlite plain last) rfl

theorem plain_of_normal (normal : IsNormal p) : (∀ c ∈ p, Url.isControl c = false) ∧ p.getLast? ≠ some ' ' := by
  refine ⟨fun c mem => (Bool.or_eq_false_iff.mp (normal.kept c mem)).1, fun space => ?_⟩
  exact absurd (normal.kept ' ' (List.mem_of_mem_getLast? space)) (by decide)

/-- A path of no steps is that of its URL. -/
theorem sqlite_of_rootless (h : IsRootless p) :
    sqlite ("sqlite:" ++ String.ofList p) = .ok (ofPath (String.ofList p)) := by
  refine sqlite_eq_ok.mpr ⟨⟨"sqlite", none, .rootless (String.ofList p)⟩, ?_, rfl, rfl⟩
  rw [read_sqlite h.plain h.last, Url.readOther.eq_3, Url.readRootless_of_rootless h]
  · rintro rest rfl
    exact h.rootless rfl
  · rintro rest rfl
    exact h.rootless rfl

/-- A normal path behind a single slash is that of its URL. -/
theorem sqlite_of_single (normal : IsNormal ('/' :: p)) (single : p.head? ≠ some '/') :
    sqlite ("sqlite:" ++ String.ofList ('/' :: p)) = .ok (.file (String.ofList ('/' :: p))) := by
  have plain := plain_of_normal normal
  have path : (Url.readPath .other ('/' :: p)).toText = String.ofList ('/' :: p) := by
    rw [← String.toList_inj, Url.readPath_of_normal normal, String.toList_ofList]
  have file : String.ofList ('/' :: p) ≠ memoryPath := by
    intro same
    have chars : '/' :: p = [':', 'm', 'e', 'm', 'o', 'r', 'y', ':'] := by
      rw [← String.toList_ofList (l := '/' :: p), same]
      rfl
    exact absurd (List.cons.inj chars).1 (by decide)
  refine sqlite_eq_ok.mpr ⟨⟨"sqlite", none, Url.readPath .other ('/' :: p)⟩, ?_, rfl, ?_⟩
  · rw [read_sqlite plain.1 plain.2, Url.readOther.eq_2]
    rintro rest rfl
    exact single rfl
  · rw [path]
    exact if_neg file

/-- Behind two slashes a host is read, so that the path is another. -/
theorem sqlite_of_double (normal : IsNormal ('/' :: '/' :: p)) :
    sqlite ("sqlite:" ++ String.ofList ('/' :: '/' :: p)) ≠ .ok (.file (String.ofList ('/' :: '/' :: p))) := by
  have plain := plain_of_normal normal
  intro named
  obtain ⟨u, read, -, same⟩ := sqlite_eq_ok.mp named
  rw [read_sqlite plain.1 plain.2, Url.readOther] at read
  obtain ⟨-, rest, suffix, path⟩ := Url.path_of_readAuthority read
  have kept : ∀ c ∈ rest, Url.isEscapedInPath c = false := fun c mem =>
    normal.kept c (List.mem_cons_of_mem _ (List.mem_cons_of_mem _ (suffix.subset mem)))
  -- what is left for the path is too short
  have short := Url.length_readPath_le kept
  have shorter := suffix.length_le
  rw [← path, eq_of_ofPath same, String.toList_ofList, List.length_cons, List.length_cons] at short
  omega

/-- A normal path behind a slash is that of its URL just if there is no second one. -/
theorem sqlite_of_normal {path : String} (slash : ['/'] <+: path.toList) (normal : IsNormal path.toList) :
    sqlite ("sqlite:" ++ path) = .ok (.file path) ↔ ¬['/', '/'] <+: path.toList := by
  obtain ⟨p, chars⟩ := slash
  obtain rfl : path = String.ofList ('/' :: p) := by
    rw [← String.toList_inj, String.toList_ofList, ← chars, List.singleton_append]
  rw [String.toList_ofList] at normal ⊢
  by_cases double : p.head? = some '/'
  · obtain ⟨p, rfl⟩ := List.head?_eq_some_iff.mp double
    exact iff_of_false (sqlite_of_double normal) (not_not_intro ⟨p, rfl⟩)
  · refine iff_of_true (sqlite_of_single normal double) ?_
    rintro ⟨rest, same⟩
    rw [← (List.cons.inj same).2] at double
    exact double rfl

/-- The path of a file that was named by a URL is normal behind a slash, or it is a text without one in front. -/
theorem path_of_sqlite (named : sqlite url = .ok (.file q)) :
    IsRootless q.toList ∨ ['/'] <+: q.toList ∧ IsNormal q.toList := by
  obtain ⟨u, read, scheme, same⟩ := sqlite_eq_ok.mp named
  obtain rfl := eq_of_ofPath same
  have other : Url.Family.ofScheme u.scheme = .other := by rw [scheme]; rfl
  rcases Url.path_of_read read other with ⟨cs, path⟩ | ⟨cs, rootless, last, path⟩
  · have normal := Url.isNormal_readPath cs
    rw [path]
    rcases Url.toList_readPath cs with empty | ⟨p, slash⟩
    · rw [empty]
      exact .inl Url.isRootless_nil
    · exact .inr ⟨⟨p, slash.symm⟩, normal⟩
  · rw [path]
    exact .inl (Url.isRootless_readRootless rootless last)

/-! ### The file that a URL says -/

/-- The URL of a path behind a single slash names its file just if the path is normal. And the URL of a database
that was named by a URL names the same one, unless that is a file whose path begins with two slashes. -/
theorem names_exactly_iff (path url : String) :
    (['/'] <+: path.toList → ¬['/', '/'] <+: path.toList →
      (sqlite ("sqlite:" ++ path) = .ok (.file path) ↔ IsNormal path.toList)) ∧
      ∀ d, sqlite url = .ok d →
        (sqlite d.url = .ok d ↔ ∀ q, d = .file q → ¬['/', '/'] <+: q.toList) := by
  constructor
  · intro slash single
    refine ⟨fun named => ?_, fun normal => (sqlite_of_normal slash normal).mpr single⟩
    exact ((path_of_sqlite named).resolve_left fun rootless => rootless.unslashed slash).2
  · intro d named
    cases d with
    | memory => exact iff_of_true rfl nofun
    | server url' =>
      obtain ⟨u, -, -, same⟩ := sqlite_eq_ok.mp named
      rw [ofPath] at same
      split at same <;> cases same
    | file name =>
      have one : (∀ q, file name = .file q → ¬['/', '/'] <+: q.toList) ↔ ¬['/', '/'] <+: name.toList :=
        ⟨fun all => all name rfl, fun not q same => Address.file.inj same ▸ not⟩
      rw [one]
      rcases path_of_sqlite named with rootless | ⟨slash, normal⟩
      · have again := sqlite_of_rootless rootless
        rw [String.ofList_toList, ofPath_of_sqlite named] at again
        exact iff_of_true again fun double => rootless.unslashed ((List.prefix_append ['/'] ['/']).trans double)
      · exact sqlite_of_normal slash normal

/-- A path with a space is not the one of its URL, a plain one is; and a path with two slashes in front is not the
one that its URL names again. -/
theorem names_exactly_iff_spaced :
    sqlite ("sqlite:" ++ "/my docs.db") ≠ .ok (.file "/my docs.db") ∧
      sqlite ("sqlite:" ++ "/tmp/docs.db") = .ok (.file "/tmp/docs.db") ∧
      sqlite "sqlite:////a" = .ok (.file "//a") ∧ sqlite (Address.file "//a").url ≠ .ok (.file "//a") := by
  refine ⟨fun named => ?_, ?_, rfl, fun named => ?_⟩
  · exact absurd (((names_exactly_iff "/my docs.db" "").1 (by decide) (by decide)).mp named) (by decide)
  · exact ((names_exactly_iff "/tmp/docs.db" "").1 (by decide) (by decide)).mpr (by decide)
  · exact ((names_exactly_iff "" "sqlite:////a").2 (.file "//a") rfl).mp named "//a" rfl (by decide)

end Folio.Database.Address
