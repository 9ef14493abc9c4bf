import Folio.Predicate.Located
import Folio.Statement.Fragment

/-!
# Methods in expressions

A translator makes a predicate out of the calls that it accepts. It sees a call with each operand in two forms:
the expression itself, and what the expression becomes as a predicate.
-/

namespace Folio.Predicate

open Folio.Sql (Dialect)
open Folio.Statement (Fragment)

/-- The target or an argument of a call. -/
structure Operand where
  expr : Expr
  /-- What the expression becomes as a predicate. -/
  predicate : Outcome Fragment

/-- A call of a method. -/
structure Call where
  method : String
  target : Option Operand
  args : List Operand

/-- What a translator knows besides the call. -/
structure Context where
  dialect : Dialect
  locate : Member → Outcome Located

/-- A translator of the calls that it accepts. -/
structure Translator where
  accepts : Call → Bool
  translate : Context → Call → Outcome Fragment

namespace Operand

/-- The operand's place, if it is a member. -/
def member (x : Operand) (cx : Context) : Outcome Located :=
  match x.expr with
  | .member m => cx.locate m
  | _ => unsupported .needsMember

/-- The operand's value, if it is a constant. -/
def constant (x : Operand) : Outcome Value :=
  match x.expr with
  | .value v => .ok v
  | _ => unsupported .needsConstant

end Operand

namespace Call

/-- The member that the method is called on, if it is called on one. -/
def targetMember? (call : Call) : Option Member :=
  call.target.bind (·.expr.member?)

/-- An operand that the method cannot do without. -/
def required (call : Call) : Option Operand → Outcome Operand
  | some x => .ok x
  | none => unsupported (.missingArgument call.method)

/-- The first argument. -/
def firstArg (call : Call) : Outcome Operand :=
  call.required call.args.head?

end Call

/-- The first translator that accepts the call translates it. -/
def translateCall (translators : List Translator) (cx : Context) (call : Call) : Outcome Fragment :=
  match translators.find? (·.accepts call) with
  | some t => t.translate cx call
  | none => unsupported (.noTranslator call.method)

end Folio.Predicate
