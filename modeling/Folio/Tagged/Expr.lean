import Folio.Expr
import Folio.Tagged.Value

/-!
# Expressions in tagged JSON
-/

namespace Folio.Tagged

/-- A step on the way to a member: a name, or the number of an item. -/
def segment? : Json → Option Segment
  | .text s => some (.field s)
  | j => (nat? j).map .index

/-- The JSON value for a step. -/
def ofSegment : Segment → Json
  | .field name => .text name
  | .index i => .whole i

/-- The member that the JSON value stands for. -/
def member? (j : Json) : Option Member := do
  return {
    segments := ← (← items? (field j "path")).mapM segment?
    type := ← type? (field j "ty")
    nullable := ← flag? (field j "nullable")
  }

/-- The JSON value for a member. -/
def ofMember (m : Member) : Json :=
  .object [("path", .array (m.segments.map ofSegment)), ("ty", ofType m.type), ("nullable", .bool m.nullable)]

mutual

/-- The expression that the JSON value stands for. -/
def expr? : Json → Option Expr
  | .object [("and", .array [a, b])] => do return .and (← expr? a) (← expr? b)
  | .object [("or", .array [a, b])] => do return .or (← expr? a) (← expr? b)
  | .object [("not", a)] => do return .not (← expr? a)
  | .object [("cmp", .array [a, op, b])] => do
    return .compare (← expr? a) (← operators.read? op) (← expr? b)
  | .object [("call", .object parts)] => do
    return .call (← text? (field (.object parts) "method")) (← target? parts) (← args? parts)
  | .object [("member", m)] => (member? m).map .member
  | .object [("value", v)] => (value? v).map .value
  | _ => none

/-- The target among the parts of a call, if it has one. -/
def target? : List (String × Json) → Option (Option Expr)
  | [] => some none
  | ("target", .null) :: _ => some none
  | ("target", e) :: _ => (expr? e).map some
  | _ :: rest => target? rest

/-- The arguments among the parts of a call. -/
def args? : List (String × Json) → Option (List Expr)
  | [] => some []
  | ("args", .array items) :: _ => exprs? items
  | _ :: rest => args? rest

/-- The expressions that the JSON values stand for. -/
def exprs? : List Json → Option (List Expr)
  | [] => some []
  | j :: rest => do return (← expr? j) :: (← exprs? rest)

end

mutual

/-- The JSON value for an expression. -/
def ofExpr : Expr → Json
  | .and a b => .object [("and", .array [ofExpr a, ofExpr b])]
  | .or a b => .object [("or", .array [ofExpr a, ofExpr b])]
  | .not a => .object [("not", ofExpr a)]
  | .compare a op b => .object [("cmp", .array [ofExpr a, operators.write op, ofExpr b])]
  | .call method target args =>
    .object [("call", .object
      [("method", .text method), ("target", ofTarget target), ("args", .array (ofExprs args))])]
  | .member m => .object [("member", ofMember m)]
  | .value v => .object [("value", ofValue v)]

/-- The JSON value for the target of a call. -/
def ofTarget : Option Expr → Json
  | none => .null
  | some e => ofExpr e

/-- The JSON values for expressions. -/
def ofExprs : List Expr → List Json
  | [] => []
  | e :: rest => ofExpr e :: ofExprs rest

end

end Folio.Tagged
