import Mathlib
import Folio.Sql.Dialect
import Folio.Text.Blank

/-!
# Folio.Proofs.Sql.Tokens

The words and marks of a statement, as a database finds them in its text.

Texts are read from left to right with one `Pending` piece at a time: a word, a quoted text
whose delimiter may still turn out to be doubled, or a mark that could begin a comment. What
is not the same in both dialects, or not a part of one condition, is not read at all:
comments, semicolons, controls, blanks outside of ASCII, and words that begin like a number.

A stretch of text may be taken as one thing, whatever it says (`Symbol.whole`).

* `tokens`: the tokens of a text.
* `Reads.append`, `Reads.after`: the tokens of a text are those of its parts, where a part ends
  at a break.
-/

namespace Folio.Sql

/-- What a text is made of: characters, and stretches that are taken as one. -/
inductive Symbol (α : Type)
  | char (c : Char)
  | whole (a : α)

/-- The characters of a text. -/
def symbols {α : Type} (s : String) : List (Symbol α) :=
  s.toList.map .char

/-- What texts and names are put between. -/
inductive Quote
  | single
  | double
  | bracket
  | grave
  deriving DecidableEq

/-- The quote that a character opens. -/
def Quote.opened? : Char → Option Quote
  | '\'' => some .single
  | '"' => some .double
  | '[' => some .bracket
  | '\x60' => some .grave
  | _ => none

/-- The character that ends a quote, unless it is doubled. -/
def Quote.closing : Quote → Char
  | .single => '\''
  | .double => '"'
  | .bracket => ']'
  | .grave => '\x60'

/-- A word or mark. -/
inductive Token (α : Type)
  | word (cs : List Char)
  | mark (c : Char)
  | quoted (q : Quote) (cs : List Char)
  | left
  | right
  | and
  | or
  | not
  | between
  | case
  | done
  | whole (a : α)

variable {α : Type}

/-! ### Words -/

/-- Can the character be a part of a word? -/
def isWordChar (c : Char) : Bool :=
  c.isAlphanum || c == '_' || c == '@' || c == '$' || c == '#' || c == ':' ||
    (128 ≤ c.toNat && !Text.isBlank c)

/-- Words that hold conditions together. -/
def keywords : List (List Char) :=
  ["and", "or", "not", "between", "case", "end"].map String.toList

/-- The tokens of these words. -/
def keywordTokens : List (Token α) :=
  [.and, .or, .not, .between, .case, .done]

/-- Can it be a part of a number? -/
def isNumberChar (c : Char) : Bool :=
  c.isDigit || "abcdefxABCDEFX".toList.contains c

/-- The token of a word, whatever its letter case. A database may see two words where the first
begins like a number. -/
def Token.ofWord? (cs : List Char) : Option (Token α) :=
  if cs.head?.any Char.isDigit then if cs.all isNumberChar then some (.word cs) else none
  else some (((keywords.zip keywordTokens).lookup (cs.map Char.toLower)).getD (.word cs))

/-! ### Reading tokens -/

/-- What was read last and is not yet complete. -/
inductive Pending
  | nothing
  | word (cs : List Char)
  | mark (c : Char)
  | quoted (q : Quote) (cs : List Char)
  /-- A quoted text whose delimiter came, perhaps the first of two. -/
  | quoteEnd (q : Quote) (cs : List Char)

/-- The tokens of a pending piece that ends here. -/
def Pending.flush : Pending → Option (List (Token α))
  | .nothing => some []
  | .word cs => (Token.ofWord? cs).map ([·])
  | .mark c => some [.mark c]
  | .quoted _ _ => none
  | .quoteEnd q cs => some [.quoted q cs]

/-- A character of its own. -/
def beginWith (c : Char) : Option (Pending × List (Token α)) :=
  match Quote.opened? c with
  | some q => some (.quoted q [], [])
  | none =>
    if c = '(' then some (.nothing, [.left])
    else if c = ')' then some (.nothing, [.right])
    else if isWordChar c then some (.word [c], [])
    else if c.toNat < 128 && Text.isBlank c then some (.nothing, [])
    else if c.toNat < 32 || 127 ≤ c.toNat || c = ';' then none
    else some (.mark c, [])

/-- Do the two marks begin a comment? -/
def isComment (c c' : Char) : Bool :=
  (c == '-' && c' == '-') || (c == '/' && c' == '*')

/-- The pending piece ends, and the character begins another. -/
def Pending.break (p : Pending) (c : Char) : Option (Pending × List (Token α)) := do
  let ts ← p.flush
  let (p', us) ← beginWith c
  return (p', ts ++ us)

/-- The next symbol of a text. -/
def Pending.next : Pending → Symbol α → Option (Pending × List (Token α))
  | .word cs, .char c => if isWordChar c then some (.word (cs ++ [c]), []) else (Pending.word cs).break c
  | .mark c, .char c' => if isComment c c' then none else (Pending.mark c).break c'
  | .quoted q cs, .char c => some (if c = q.closing then .quoteEnd q cs else .quoted q (cs ++ [c]), [])
  | .quoteEnd q cs, .char c =>
    if c = q.closing then some (.quoted q (cs ++ [c]), []) else (Pending.quoteEnd q cs).break c
  | .nothing, .char c => beginWith c
  | p, .whole a => p.flush.map fun ts => (.nothing, ts ++ [.whole a])

/-- The tokens of a text as far as they are complete, and what is pending then. -/
def scan : Pending → List (Symbol α) → Option (Pending × List (Token α))
  | p, [] => some (p, [])
  | p, x :: xs => do
    let (p', ts) ← p.next x
    let (p'', us) ← scan p' xs
    return (p'', ts ++ us)

/-- The tokens of a text. -/
def tokens (xs : List (Symbol α)) : Option (List (Token α)) := do
  let (p, ts) ← scan .nothing xs
  let us ← p.flush
  return ts ++ us

/-! ### Texts put together -/

@[simp] theorem symbols_append (s r : String) :
    (symbols (s ++ r) : List (Symbol α)) = symbols s ++ symbols r := by
  rw [symbols, String.toList_append, List.map_append]
  rfl

theorem scan_append (p : Pending) (xs ys : List (Symbol α)) :
    scan p (xs ++ ys) = (do
      let (p', ts) ← scan p xs
      let (p'', us) ← scan p' ys
      return (p'', ts ++ us)) := by
  induction xs generalizing p with
  | nil => simp [scan]
  | cons x xs ih => simp [scan, ih, Option.bind_assoc, List.append_assoc]

/-- The text has these tokens. -/
def Reads (xs : List (Symbol α)) (ts : List (Token α)) : Prop :=
  tokens xs = some ts

/-- Does a word, mark or quoted text end before the character? -/
def isBreak (c : Char) : Bool :=
  c = ' ' || c = ')' || c = ','

theorem next_of_isBreak {c : Char} (h : isBreak c) {p : Pending} {ts : List (Token α)}
    (ends : p.flush = some ts) : p.next (.char c) = p.break (α := α) c := by
  have breaks : c = ' ' ∨ c = ')' ∨ c = ',' := by simpa [isBreak, or_assoc] using h
  have apart : isWordChar c = false := by rcases breaks with rfl | rfl | rfl <;> decide
  have plain (a : Char) : isComment a c = false := by
    rcases breaks with rfl | rfl | rfl <;> simp [isComment]
  have outside (q : Quote) : c ≠ q.closing := by
    rcases breaks with rfl | rfl | rfl <;> cases q <;> decide
  cases p with
  | nothing =>
    obtain rfl : [] = ts := Option.some.inj ends
    simp only [Pending.next, Pending.break, Pending.flush]
    cases beginWith (α := α) c <;> rfl
  | word cs => simp only [Pending.next, apart, Bool.false_eq_true, if_false]
  | mark a => simp only [Pending.next, plain, Bool.false_eq_true, if_false]
  | quoted q cs => cases ends
  | quoteEnd q cs => simp only [Pending.next, outside, if_false]

/-- A text of which nothing is pending can be followed by any other. -/
theorem Reads.after {xs ys : List (Symbol α)} {ts us : List (Token α)}
    (first : scan .nothing xs = some (.nothing, ts)) (rest : Reads ys us) : Reads (xs ++ ys) (ts ++ us) := by
  rw [Reads, tokens] at rest ⊢
  obtain ⟨⟨p, vs⟩, scanned, rest⟩ := Option.bind_eq_some_iff.mp rest
  obtain ⟨ws, flushed, rest⟩ := Option.bind_eq_some_iff.mp rest
  obtain rfl := Option.some.inj rest
  simp [scan_append, first, scanned, flushed]

/-- A break ends what is pending. -/
theorem Reads.append {xs ys : List (Symbol α)} {ts us : List (Token α)} {c : Char}
    (first : Reads xs ts) (breaks : isBreak c) (rest : Reads (.char c :: ys) us) :
    Reads (xs ++ .char c :: ys) (ts ++ us) := by
  rw [Reads, tokens] at first rest ⊢
  obtain ⟨⟨p, vs⟩, scanned, first⟩ := Option.bind_eq_some_iff.mp first
  obtain ⟨ws, flushed, first⟩ := Option.bind_eq_some_iff.mp first
  obtain rfl := Option.some.inj first
  obtain ⟨⟨p', vs'⟩, begun, rest⟩ := Option.bind_eq_some_iff.mp rest
  obtain ⟨⟨p₁, us₁⟩, head, begun⟩ := Option.bind_eq_some_iff.mp begun
  have broken : p.next (.char c) = some (p₁, ws ++ us₁) := by
    have head : beginWith (α := α) c = some (p₁, us₁) := head
    rw [next_of_isBreak breaks flushed, Pending.break, flushed, head]
    rfl
  simp only [scan_append, scanned, scan, broken, Option.bind_eq_bind, Option.bind_some] at begun ⊢
  obtain ⟨⟨p₂, us₂⟩, tail, begun⟩ := Option.bind_eq_some_iff.mp begun
  obtain ⟨rfl, rfl⟩ := Prod.mk.inj (Option.some.inj begun)
  obtain ⟨zs, flushed', rest⟩ := Option.bind_eq_some_iff.mp rest
  obtain rfl := Option.some.inj rest
  simp [tail, flushed', List.append_assoc]

end Folio.Sql
