import Folio.Predicate.Method

/-!
# Methods beyond the built-in ones

Translators that a program may register with its store: ranges, unescaped starts of text, alternatives to a
predicate and several starts at once. One of them takes a method over that stores understand already.
-/

namespace Folio.Predicate.Extension

open Folio.Sql (Dialect)
open Folio.Statement (Fragment)

/-- The target, which the method cannot do without. -/
def target (call : Call) : Outcome Operand :=
  match call.target with
  | some x => .ok x
  | none => fail (.message ("`" ++ call.method ++ "` needs a member"))

/-- The member lies between two constants, the bounds included. -/
def between : Translator where
  accepts call := call.method = "between" && call.args.length = 2
  translate cx call := do
    let l ← (← target call).member cx
    let bounds ← call.args.mapM fun x => do l.toParam (← x.constant)
    match bounds with
    | [lo, hi] =>
      return .template
        [.locator l.typed, .text " BETWEEN ", .param lo, .text " AND ", .param hi]
    | _ => unsupported (.missingArgument call.method)

/-- The whole text is the constant. -/
def exactPrefix : Translator where
  accepts call := call.method = "starts_with" && call.args.length = 1
  translate cx call := do
    let l ← (← target call).member cx
    let v ← (← call.firstArg).constant
    return .template [.locator l.raw, .text " = ", .param v]

/-- Every document has everything in it. -/
def containsAlways : Translator where
  accepts call := call.method = "contains"
  translate _ _ := .ok (.literal "1=1")

/-- A condition that is false, as the dialects write it. -/
def falseText : Dialect → String
  | .mssql => "0=1"
  | .sqlite => "FALSE"

/-- The first predicate holds or the second does not; without a second one, any document meets it. -/
def exceptWhen : Translator where
  accepts call := call.method = "unless"
  translate cx call := do
    match call.args with
    | [] => fail (.message "`unless` needs a predicate")
    | p :: rest =>
      let first ← p.predicate
      let second ← match rest with
        | q :: _ => q.predicate
        | [] => pure (.literal (falseText cx.dialect))
      return .or first (.not second)

/-- The member starts with one of the texts of a constant list; other items of the list are passed over. -/
def prefixAny : Translator where
  accepts call := call.method = "prefix_any"
  translate cx call := do
    let l ← (← target call).member cx
    match call.args.head?.bind (·.expr.value?) with
    | some (.list items) =>
      match (items.filterMap Value.text?).map (Fragment.like l.raw .startsWith) with
      | [] => return .never
      | first :: rest => return rest.foldl .or first
    | _ => fail (.message "`prefix_any` needs a list")

end Folio.Predicate.Extension
