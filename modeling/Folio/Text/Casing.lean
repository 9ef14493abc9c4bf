import Folio.Text.Alphanumeric
import Folio.Text.LetterCase

/-!
# Words and casings

A name is read as a list of words, and written back in one of four casings. Everything but letters and
numbers separates words. Inside a run of those, a word ends

* between a lower-case letter and an upper-case one (`zip|Code`), numbers in between not counting
  (`foo2|Bar`), and
* before the last of several upper-case letters when a lower-case one follows (`HTTP|Server`).
-/

namespace Folio.Text

/-- The last cased letter of the word that is being read. -/
inductive LastCase
  | none
  | lower
  | upper
  deriving Repr, DecidableEq

/-- Where the word stands after one more letter. -/
def LastCase.after (last : LastCase) (c : Char) : LastCase :=
  if isLowercase c then .lower else if isUppercase c then .upper else last

/-- The words of a run of letters and numbers, of which `seen` (last letter first) is already read. -/
def splitCase (seen : List Char) (last : LastCase) : List Char → List (List Char)
  | [] => if seen.isEmpty then [] else [seen.reverse]
  | [c] => [(c :: seen).reverse]
  | c :: d :: rest =>
    if last.after c = .lower && isUppercase d then
      (c :: seen).reverse :: splitCase [] .none (d :: rest)
    else if last = .upper && isUppercase c && isLowercase d then
      seen.reverse :: splitCase [c] .none (d :: rest)
    else
      splitCase (c :: seen) (last.after c) (d :: rest)

/-- The words of a name. -/
def words (cs : List Char) : List (List Char) :=
  (cs.splitOnP fun c => !isAlphanumeric c).flatMap (splitCase [] .none)

/-- A word in lower case; a sigma at its end takes its final form. -/
def lowerWord : List Char → List Char
  | [] => []
  | [c] => if c = 'Σ' then ['ς'] else toLowercase.apply c
  | c :: rest => toLowercase.apply c ++ lowerWord rest

/-- A word in lower case but for its first letter. -/
def capitalWord : List Char → List Char
  | [] => []
  | c :: rest => toUppercase.apply c ++ lowerWord rest

/-- How names are written. -/
inductive Casing
  /-- As in `zipCode`. -/
  | camel
  /-- As in `zip_code`. -/
  | snake
  /-- As in `ZipCode`. -/
  | pascal
  /-- As given. -/
  | asIs
  deriving Repr, DecidableEq

/-- The name in the casing. -/
def Casing.apply (casing : Casing) (name : String) : String :=
  match casing with
  | .asIs => name
  | .pascal => String.ofList ((words name.toList).flatMap capitalWord)
  | .snake => String.ofList (List.intercalate ['_'] ((words name.toList).map lowerWord))
  | .camel =>
    match words name.toList with
    | [] => ""
    | w :: ws => String.ofList (lowerWord w ++ ws.flatMap capitalWord)

end Folio.Text
