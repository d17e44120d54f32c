import SchemaLineage.Sql.Query
/-
Reading statements that change the rows of a table.

They have no columns to follow, but they may stand in a `WITH` clause, and the tables that they name
are read like all others.
-/

namespace SchemaLineage
namespace Sql
namespace Change

open Sql.Parser

/-- Expressions between commas as one part. -/
def list (kind : String) (es : List Expr) : List Expr :=
  if es.isEmpty then [] else [.operation kind es]

def returning (g : Grammar) : Parser (List Expr) := do
  if ← eat "RETURNING" then return list "Returning" (← commaSeparated (Expression.item g))
  return []

def whereClause (g : Grammar) : Parser (List Expr) := do
  if ← eat "WHERE" then return [.operation "Where" [← need g.expression]]
  return []

/-- An item of a `FROM` clause with what is joined to it. -/
def joined (g : Grammar) : Parser Expr := do
  let i ← g.fromItem
  return .relation (i.addJoins (← g.joins))

/-- What happens to rows that are already there. -/
def conflict (g : Grammar) : Parser (List Expr) := do
  if ← eatAll ["ON", "CONFLICT"] then
    if ← eatAll ["ON", "CONSTRAINT"] then
      let _ ← name g.dialect true []
    else
      let _ ← skipGroup
    let place ← whereClause g
    if ← eatAll ["DO", "NOTHING"] then return place
    if ← eatAll ["DO", "UPDATE"] then
      expect "SET"
      let changes ← commaSeparated g.equality
      return [.operation "OnConflict" (place ++ changes ++ (← whereClause g))]
    failure
  if ← eatAll ["ON", "DUPLICATE", "KEY", "UPDATE"] then
    let _ ← eat "SET"
    return list "OnConflict" (← commaSeparated g.equality)
  return []

/-- The rows to insert. -/
def rows (g : Grammar) : Parser (List Expr) := do
  if ← eatAll ["DEFAULT", "VALUES"] then return []
  if ← eatAll ["(", "VALUES"] then
    let (rows, label) ← Query.valuesRest g true
    return [.query (.values rows label)]
  if ← eat "VALUES" then
    let (rows, label) ← Query.valuesRest g false
    return [.query (.values rows label)]
  match ← Query.operand g with
  | some q => return [.query (← Query.modified g (← Expression.combine g q))]
  | none => return []

def insertRest (g : Grammar) : Parser Query := do
  if ← eat "OR" then
    let _ ← name g.dialect true []
  let _ ← eatAny ["IGNORE"]
  let _ ← eatAny ["INTO", "OVERWRITE"]
  let _ ← eat "TABLE"
  let table ← Query.mention g
  let hasColumns := (← isAt "(") &&
    !((← peekSecond).any fun t => ["SELECT", "VALUES", "WITH"].contains t.key)
  let target ←
    if hasColumns then
      let _ ← skipGroup
      pure (Expr.operation "Schema" [table])
    else
      if ← isAt "AS" then
        let _ ← Query.tableAlias g
      pure table
  let parts ← rows g
  let conflicts ← conflict g
  return .other "Insert" (target :: parts ++ conflicts ++ (← returning g)) []

def updateRest (g : Grammar) : Parser Query := do
  let _ ← eat "ONLY"
  let table ← Query.tableName g false
  let marked ← eat "AS"
  let label ← name g.dialect marked ("SET" :: joinWords)
  let js ← g.joins
  let changes ← if ← eat "SET" then commaSeparated g.equality else pure []
  let source ← if ← eat "FROM" then pure [Expr.operation "From" [← joined g]] else pure []
  let place ← whereClause g
  let back ← returning g
  let target := Expr.relation ((table.toItem label []).addJoins js)
  return .other "Update" (target :: changes ++ source ++ place ++ back) []

def deleteRest (g : Grammar) : Parser Query := do
  let named ←
    if ← isAt "FROM" then pure []
    else commaSeparated (do return some (Expr.relation (← g.fromItem)))
  let target ← if ← eat "FROM" then pure [← joined g] else pure []
  let others ← if ← eat "USING" then commaSeparated (do return some (← joined g)) else pure []
  let place ← whereClause g
  return .other "Delete" (named ++ target ++ others ++ place ++ (← returning g)) []

end Change
end Sql
end SchemaLineage
