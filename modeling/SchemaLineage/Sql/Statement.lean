import SchemaLineage.Sql.Change
/-
Reading statements.

Only queries and the queries that views and tables are created from are read in full; of the other
statements it matters what they are.
-/

namespace SchemaLineage
namespace Sql
namespace Statement

open Sql.Parser

/-- Take all that is left. -/
def takeRest : Parser Unit := set ([] : List Token)

/-- Statements that are known by their first word. -/
def otherKinds : List (String × String) :=
  [("MERGE", "Merge"), ("TRUNCATE", "TruncateTable"), ("ALTER", "Alter"), ("COMMENT", "Comment"),
   ("SET", "Set"), ("USE", "Use"), ("DESCRIBE", "Describe"), ("DESC", "Describe"),
   ("PRAGMA", "Pragma"), ("GRANT", "Grant"), ("REVOKE", "Revoke"), ("COPY", "Copy"),
   ("ANALYZE", "Analyze"), ("KILL", "Kill"), ("LOAD", "LoadData"), ("CACHE", "Cache"),
   ("UNCACHE", "Uncache")]

/-- Words that start a statement nothing else is known of. -/
def commandWords : List String :=
  ["EXPLAIN", "CALL", "OPTIMIZE", "PREPARE", "VACUUM", "EXECUTE", "FETCH", "SHOW", "RENAME"]

/-- What can be created or dropped. -/
def objectWords : List String :=
  ["TABLE", "VIEW", "SCHEMA", "DATABASE", "SEQUENCE", "INDEX", "FUNCTION", "PROCEDURE", "COLUMN",
   "CONSTRAINT", "TRIGGER", "TYPE", "DICTIONARY", "NAMESPACE"]

/-- What is created under a name that may have a schema. -/
def namedObjects : List String :=
  ["TABLE", "VIEW", "SCHEMA", "DATABASE", "SEQUENCE", "DICTIONARY", "NAMESPACE"]

def plainProperties : List String :=
  ["TEMP", "TEMPORARY", "MATERIALIZED", "UNLOGGED", "GLOBAL", "LOCAL", "VOLATILE", "TRANSIENT",
   "EXTERNAL", "RECURSIVE"]

/-- A property before the kind of what is created. -/
def property (g : Grammar) : Parser (Option Unit) := do
  if (← eatAny plainProperties).isSome then return some ()
  if ← eatAll ["ALGORITHM", "="] then
    let _ ← name g.dialect true []
    return some ()
  if ← eatAll ["DEFINER", "="] then
    let _ ← name g.dialect true []
    if ← eat "@" then
      let _ ← name g.dialect true []
    return some ()
  if ← eat "SQL SECURITY" then
    let _ ← name g.dialect true []
    return some ()
  return none

/-- A property after the name of what is created. -/
def laterProperty (g : Grammar) : Parser (Option Unit) := do
  if ← areAt ["WITH", "("] then
    skip 1
    let _ ← skipGroup
    return some ()
  if ← eat "TABLESPACE" then
    let _ ← name g.dialect true []
    return some ()
  if (← peekSecond).any (·.key == "=") then
    if (← peek).any (·.isName g.dialect) then
      skip 3
      return some ()
  return none

/-- The query that a view or table is made from; a table's name stands for its rows. -/
def definition (g : Grammar) (marked : Bool) : Parser (Option Statement) := do
  match ← Query.operand g with
  | some q => return some (.query (← Query.modified g (← Expression.combine g q)))
  | none =>
    if marked then
      match ← attempt (Query.mention g) with
      | some e => return some (.expression e)
      | none => return none
    return none

def createRest (g : Grammar) : Parser Statement := do
  if ← eatAll ["OR", "REPLACE"] then pure ()
  else if ← eatAll ["OR", "ALTER"] then pure ()
  let _ ← eat "UNIQUE"
  let _ ← many (property g)
  match ← eatAny objectWords with
  | none =>
    takeRest
    return .other "Command"
  | some word =>
    let _ ← eat "CONCURRENTLY"
    let _ ← eatAll ["IF", "NOT", "EXISTS"]
    if !namedObjects.contains word then
      if (← get).isEmpty then failure
      takeRest
      return .create none
    let _ ← Query.mention g
    if (← isAt "(") && !((← peekSecond).any fun t => ["(", "SELECT", "WITH"].contains t.key) then
      let _ ← skipGroup
    let _ ← many (laterProperty g)
    let marked ← eat "AS"
    let body ← definition g marked
    let _ ← many (laterProperty g)
    if ← eatAll ["WITH", "NO", "DATA"] then pure ()
    else if ← eatAll ["WITH", "DATA"] then pure ()
    match ← peek with
    | none => return .create body
    | some t =>
      if t.key = ")" || t.key = "," then return .create body
      takeRest
      return .other "Command"

/-- A statement known by its first word; none of them goes without a second word. -/
def otherRest (kind : String) : Parser Statement := do
  if (← get).isEmpty then failure
  takeRest
  return .other kind

def transactionRest (g : Grammar) : Parser Statement := do
  let _ ← eatAny ["DEFERRED", "IMMEDIATE", "EXCLUSIVE"]
  let _ ← eatAny ["TRANSACTION", "WORK"]
  let _ ← commaSeparated (many (name g.dialect false []) >>= fun
    | [] => return none
    | ns => return some ns)
  return .other "Transaction"

/-- A query, or an expression with what may follow it. -/
def queryOrExpression (g : Grammar) : Parser (Option Statement) := do
  let isTable := (← peekSecond).any fun t => t.isName g.dialect
  let e ← if (← isAt "TABLE") && isTable then pure none else Expression.item g
  match e with
  | some (.subquery q) =>
    let q ← Query.modified g (← Expression.combine g (.wrapped q "" [] [] []))
    return some (.query q)
  | some e =>
    if ← isAtAny ["UNION", "INTERSECT", "EXCEPT"] then
      return some (.query (← Expression.combine g (.other e.kind [e] [])))
    return some (.expression e)
  | none =>
    match ← Query.query g with
    | some q => return some (.query (← Query.modified g q))
    | none => return none

def statement (g : Grammar) : Parser (Option Statement) := do
  match ← peek with
  | none => return none
  | some t =>
    if t.kind = .word then
      if t.key = "CREATE" then
        skip 1
        return some (← createRest g)
      if t.key = "DROP" then
        skip 1
        let isObject := (← eatAny ("MATERIALIZED" :: "TEMPORARY" :: objectWords)).isSome
        takeRest
        return some (.other (if isObject then "Drop" else "Command"))
      if t.key = "INSERT" then
        skip 1
        return some (.query (← Change.insertRest g))
      if t.key = "UPDATE" then
        skip 1
        return some (.query (← Change.updateRest g))
      if t.key = "DELETE" then
        skip 1
        return some (.query (← Change.deleteRest g))
      if t.key = "BEGIN" then
        skip 1
        return some (← transactionRest g)
      if t.key = "COMMIT" then
        skip 1
        let _ ← eatAny ["TRANSACTION", "WORK"]
        return some (.other "Commit")
      if t.key = "ROLLBACK" then
        takeRest
        return some (.other "Rollback")
      let kinds := g.dialect.extraStatements ++ otherKinds
      let isCommand := commandWords.contains t.key || g.dialect.extraCommands.contains t.key
      if isCommand && !(g.dialect.extraStatements.lookup t.key).isSome then
        takeRest
        return some (.other "Command")
      match kinds.lookup t.key with
      | some kind =>
        skip 1
        return some (← otherRest kind)
      | none => queryOrExpression g
    else queryOrExpression g

end Statement

/-! ## The grammar -/

namespace Grammar

/-- The readers that allow one more level of nesting. -/
def deeper (g : Grammar) : Grammar :=
  { dialect := g.dialect
    expression := Expression.assignment g (Expression.unary g)
    equality := Expression.equality g (Expression.unary g)
    unary := Expression.unary g
    query := Query.query g
    operand := Query.operand g
    fromItem := Query.fromItem g
    joins := Query.joins g
    statement := Statement.statement g }

def upTo (d : Dialect) : Nat → Grammar
  | 0 => refusing d
  | n + 1 => (upTo d n).deeper

end Grammar

namespace Statement

/-- Each level of nesting passes at most a few readers for each token. -/
def readTokens (d : Dialect) (ts : List Token) : Option Statement :=
  match (statement (.upTo d (4 * ts.length + 8))) ts with
  | some (some s, []) => some s
  | _ => none

/-- Read SQL text.  Several statements, or a comment after the last semicolon, are a block. -/
def ofText? (d : Dialect) (sql : String) : Option Statement := do
  let ts ← tokens d sql
  let chunks := Text.splitWhen (·.key == ";") ts
  let bare := chunks.map fun c => c.filter (·.kind != .comment)
  let last := chunks.getLast?.getD []
  let tail := last.all (·.kind = .comment)
  let counted := if tail then bare.dropLast else bare
  match counted with
  | [] => none
  | [one] =>
    let s ← readTokens d one
    return if tail && !last.isEmpty && 1 < chunks.length then .other "Block" else s
  | many => do
    let _ ← (many.filter fun c => !c.isEmpty).mapM (readTokens d)
    if (many.headD []).isEmpty then none else return .other "Block"

end Statement
end Sql
end SchemaLineage
