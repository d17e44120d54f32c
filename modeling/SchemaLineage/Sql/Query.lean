import SchemaLineage.Sql.Expression
/-
Reading queries: the `FROM` clause with its joins, the clauses after it, `WITH`, and queries that are
combined with one another.

A comma with nothing after it, and a join without a condition, are accepted.
-/

namespace SchemaLineage
namespace Sql
namespace Query

open Sql.Parser
open Expression (ordered orderList aliased item isLimitAhead limitRest offsetRest listWithEnd)

/-! ## Aliases of tables -/

/-- The name of a column in an alias, with the type that some functions ask for. -/
def aliasColumn (d : Dialect) : Parser (Option Unit) := do
  match ← name d true [] with
  | none => return none
  | some _ =>
    let _ ← Expression.typeName d true
    return some ()

/-- An alias with its columns, which are passed over.  The answer also says whether there was one
at all, since columns alone are an alias without a name. -/
def tableAlias (g : Grammar) : Parser (Option String × Bool) := do
  let d := g.dialect
  if ← isLimitAhead g then return (none, false)
  let marked ← eat "AS"
  let found ← Expression.orElse (name d marked (joinWords ++ d.indexWords)) textName
  if ← isAt "(" then
    let back ← get
    skip 1
    let columns ← commaSeparated (aliasColumn d)
    if columns.isEmpty then set back
    else
      expect ")"
      return (found, true)
  return (found, found.isSome)

def sample : Parser Unit := do
  if ← eat "TABLESAMPLE" then
    match ← peek with
    | some t => if t.kind = .word then skip 1
    | none => pure ()
    let _ ← skipGroup
    if (← eatAny ["REPEATABLE", "SEED"]).isSome then
      let _ ← skipGroup

/-- What a dialect allows after a table about its indexes. -/
def indexHints (d : Dialect) : Parser Unit := do
  let _ ← many (do
    match ← eatAny d.indexWords with
    | none => return none
    | some _ =>
      let _ ← eatAny ["INDEX", "KEY"]
      if ← eat "FOR" then
        let _ ← eatAny ["JOIN", "ORDER BY", "GROUP BY"]
      let _ ← skipGroup
      return some ())

/-! ## Tables -/

/-- One part of a table's name: a name, or a call of a function that yields a table. -/
def tablePart (g : Grammar) (callable : Bool) : Parser (Option Expression.Field) := do
  let call ← if callable then Expression.function g false false false else pure none
  match call with
  | some e => return some (.value e)
  | none =>
    match ← Expression.orElse (name g.dialect false []) textName with
    | some n => return some (.name n)
    | none => return (← Expression.placeholder g.dialect).map .value

/-- A table's name with the schema before it, or a call. -/
structure TableName where
  schema : Option String
  part : Expression.Field

/-- The last part is the table and the one before it the schema. -/
def tableName (g : Grammar) (callable : Bool) : Parser TableName := do
  let first ← need (tablePart g callable)
  let found ← loop
    (fun (t : TableName) => do
      if ← eat "." then
        let schema :=
          match t.part with
          | .name n => some n
          | .value e => some e.caption
        match ← tablePart g callable with
        | some p => return some ⟨schema, p⟩
        | none => if ← isAt "." then return some ⟨schema, .name ""⟩ else failure
      return none)
    ⟨none, first⟩
  return { found with schema := found.schema.filter fun s => !s.isEmpty }

def TableName.toItem (t : TableName) (label : Option String) (extras : List Expr) : FromItem :=
  match t.part with
  | .name n => .table t.schema n label extras []
  | .value e => .other (label.getD "") (e :: extras) []

/-- A table that is named outside a `FROM` clause. -/
def mention (g : Grammar) : Parser Expr := do
  return .relation ((← tableName g false).toItem none [])

def table (g : Grammar) : Parser FromItem := do
  let _ ← eat "ONLY"
  let t ← tableName g true
  let _ ← eat "*"
  let (label, _) ← tableAlias g
  let extras ← if ← eat "INDEXED BY" then pure [← mention g] else pure []
  let _ ← eatAll ["NOT", "INDEXED"]
  if ← areAt ["WITH", "("] then
    skip 1
    let _ ← skipGroup
  indexHints g.dialect
  sample
  if ← eatAll ["WITH", "ORDINALITY"] then
    let (again, _) ← tableAlias g
    return t.toItem (again.or label) extras
  return t.toItem label extras

/-! ## Other items of a `FROM` clause -/

def valueRow (g : Grammar) : Parser (Option Expr) := do
  if ← eat "(" then
    let es ← commaSeparated (item g)
    expect ")"
    return some (.operation "Tuple" es)
  return (← item g).map fun e => .operation "Tuple" [e]

/-- Rows after `VALUES`, with the alias before and the one after a closing parenthesis. -/
def valuesRest (g : Grammar) (enclosed : Bool) : Parser (List Expr × String) := do
  let rows ← commaSeparated (valueRow g)
  let (first, found) ← tableAlias g
  if enclosed then expect ")"
  if found then return (rows, first.getD "")
  let (second, _) ← tableAlias g
  return (rows, second.getD "")

def unnestRest (g : Grammar) : Parser FromItem := do
  let es ← parenthesized (commaSeparated g.expression)
  let _ ← eatAll ["WITH", "ORDINALITY"]
  let (label, _) ← tableAlias g
  if ← eatAll ["WITH", "OFFSET"] then
    let _ ← eat "AS"
    let _ ← name g.dialect false []
  return .other (label.getD "") [.operation "Unnest" es] []

/-! ## Clauses -/

def lockRest (g : Grammar) : Parser (Option Expr) := do
  let starts := [["FOR", "UPDATE"], ["FOR", "SHARE"], ["FOR", "KEY", "SHARE"],
    ["FOR", "NO", "KEY", "UPDATE"], ["LOCK", "IN", "SHARE", "MODE"]]
  match ← starts.findM? (fun ks => eatAll ks) with
  | none => return none
  | some _ =>
    let tables ← if ← eat "OF" then commaSeparated (do return some (← mention g)) else pure []
    if ← eat "NOWAIT" then pure ()
    else if ← eatAll ["SKIP", "LOCKED"] then pure ()
    else if ← eat "WAIT" then
      let _ ← Expression.primary g
    return some (.operation "Lock" tables)

def namedWindow (g : Grammar) : Parser (Option Expr) := do
  match ← name g.dialect false [] with
  | none => return none
  | some _ =>
    let _ ← eat "AS"
    if ← eat "(" then return Expression.op "Window" (← Expression.windowBody g)
    let _ ← name g.dialect false []
    return Expression.op "Window" []

def groupRest (g : Grammar) : Parser Expr := do
  let _ ← eatAny ["ALL", "DISTINCT"]
  let es ← loop
    (fun acc => do
      let back ← get
      let found ← commaSeparated (do
        if ← isAtAny ["CUBE", "ROLLUP"] then
          skip 1
          let es ← parenthesized (commaSeparated g.expression)
          return Expression.op "Rollup" es
        if ← eat "GROUPING SETS" then
          let es ← parenthesized (commaSeparated g.expression)
          return Expression.op "GroupingSets" es
        g.expression)
      let rolled ← Expression.orElse
        (do if ← eatAll ["WITH", "ROLLUP"] then return some () else return none)
        (do if ← eatAll ["WITH", "CUBE"] then return some () else return none)
      if found.isEmpty && rolled.isNone then
        set back
        return none
      return some (acc ++ found))
    []
  return .operation "Group" es

/-- The name under which a clause may occur once, and the clause; nothing where none starts. -/
def clause (g : Grammar) : Parser (Option (String × Expr)) := do
  let back ← get
  let single (kind : String) : Parser (Option (String × Expr)) := do
    return some (kind, .operation kind [← need g.expression])
  match ← eatAny
      ["WHERE", "GROUP BY", "HAVING", "QUALIFY", "WINDOW", "ORDER BY", "LIMIT", "FETCH", "OFFSET",
       "CLUSTER BY", "DISTRIBUTE BY", "SORT BY", "CONNECT BY", "START WITH"] with
  | some "WHERE" => single "Where"
  | some "HAVING" => single "Having"
  | some "QUALIFY" => single "Qualify"
  | some "CONNECT BY" => single "Connect"
  | some "START WITH" => single "Connect start"
  | some "GROUP BY" => return some ("Group", ← groupRest g)
  | some "WINDOW" =>
    match ← commaSeparated (namedWindow g) with
    | [] =>
      set back
      return none
    | ws => return some ("Windows", .operation "Windows" ws)
  | some "ORDER BY" => return some ("Order", .operation "Order" (← orderList g))
  | some "LIMIT" => return some ("Limit", ← limitRest g)
  | some "FETCH" =>
    let _ ← eatAny ["FIRST", "NEXT"]
    let count ← Expression.primary g
    let _ ← eat "PERCENT"
    let _ ← eatAny ["ROWS", "ROW"]
    if ← eatAll ["WITH", "TIES"] then pure () else
      let _ ← eat "ONLY"
    return some ("Limit", .operation "Fetch" count.toList)
  | some "OFFSET" => return some ("Offset", ← offsetRest g)
  | some key => return some (key, .operation key (← orderList g))
  | none =>
    if ← isAtAny ["FOR", "LOCK"] then
      match ← many (lockRest g) with
      | [] => return none
      | ls => return some ("Locks", .operation "Locks" ls)
    if ← isAt "TABLESAMPLE" then
      sample
      return some ("Sample", .operation "Sample" [])
    return none

/-- The clauses of a query, in the order in which they are written; none may occur twice. -/
def clauses (g : Grammar) : Parser (List Expr) := do
  let (_, back) ← loop
    (fun (seen, acc) => do
      match ← clause g with
      | none => return none
      | some (kind, e) =>
        if seen.contains kind then failure
        return some (kind :: seen, e :: acc))
    (([] : List String), ([] : List Expr))
  return back.reverse

/-- Joins and clauses after a query. -/
def modified (g : Grammar) (q : Query) : Parser Query := do
  let js ← g.joins
  let cs ← clauses g
  if js.isEmpty && cs.isEmpty then return q
  match q with
  | .select (.mk items source joins clauses ctes) =>
    return .select (.mk items source (joins ++ js) (clauses ++ cs) ctes)
  | .combined kind l r clauses ctes =>
    if js.isEmpty then return .combined kind l r (clauses ++ cs) ctes else failure
  | .wrapped q label joins clauses ctes =>
    return .wrapped q label (joins ++ js) (clauses ++ cs) ctes
  | q => return .wrapped q "" js cs []

/-! ## The `FROM` clause -/

/-- Items in parentheses.  A query is an item of its own, and so are queries that are combined. -/
def enclosedRest (g : Grammar) : Parser FromItem := do
  if ← isAtAny ["SELECT", "WITH", "FROM"] then
    let q ← need g.query
    let q ← modified g (← Expression.combine g q)
    expect ")"
    let (label, _) ← tableAlias g
    sample
    return .derived q (label.getD "") []
  let inner ← g.fromItem
  let isCombined ← isAtAny ["UNION", "INTERSECT", "EXCEPT"]
  match inner, isCombined with
  | .derived q label js, true =>
    let q ← modified g (← Expression.combine g (.wrapped q label js [] []))
    expect ")"
    let (label, _) ← tableAlias g
    return .derived q (label.getD "") []
  | _, _ =>
    let js ← g.joins
    let cs ← clauses g
    expect ")"
    let _ ← tableAlias g
    sample
    return .group (inner.addJoins js) cs []

def lateralRest (g : Grammar) : Parser FromItem := do
  if ← eat "(" then
    match ← enclosedRest g with
    | .derived q label _ => return .other label [.subquery q] []
    | i => return .other "" [.relation i] []
  let outer ← eat "VIEW"
  let _ ← if outer then eat "OUTER" else pure false
  if (← isAt "UNNEST") && (← peekSecond).any (·.key == "(") then
    skip 1
    match ← unnestRest g with
    | .other label ps _ => return .other label ps []
    | i => return i
  let first ← Expression.orElse (Expression.function g false false true)
    (do return (← name g.dialect false []).map (.column none))
  let e ← loop
    (fun e => do
      if ← eat "." then
        let part ← Expression.orElse (Expression.function g false false true)
          (do return (← name g.dialect false []).map (.column none))
        return some (.member e (← need (pure part)))
      return none)
    (← need (pure first))
  if ← eatAll ["WITH", "ORDINALITY"] then pure ()
  if outer then
    let label ← name g.dialect false []
    if ← eat "AS" then
      let _ ← commaSeparated (name g.dialect true [])
    return .other (label.getD "") [.operation "Explode" [e]] []
  let (label, _) ← tableAlias g
  return .other (label.getD "") [.operation "Explode" [e]] []

/-- One item of a `FROM` clause without what is joined to it. -/
def fromItem (g : Grammar) : Parser FromItem := do
  if ← eatAll ["CROSS", "APPLY"] then return ← lateralRest g
  if ← eatAll ["OUTER", "APPLY"] then return ← lateralRest g
  if ← eat "LATERAL" then return ← lateralRest g
  if (← isAt "UNNEST") && (← peekSecond).any (·.key == "(") then
    skip 1
    return ← unnestRest g
  if ← eatAll ["(", "VALUES"] then
    let (rows, label) ← valuesRest g true
    return .other label rows []
  if ← eat "VALUES" then
    let (rows, label) ← valuesRest g false
    return .other label rows []
  if ← isAtAny ["SELECT", "WITH", "FROM"] then
    let q ← need g.query
    return .other "" [.query q] []
  if ← eat "(" then return ← enclosedRest g
  if ← eatAll ["ROWS", "FROM", "("] then
    let es ← commaSeparated (do return some (Expr.relation (← g.fromItem)))
    expect ")"
    let (label, _) ← tableAlias g
    return .other (label.getD "") es []
  table g

/-! ## Joins -/

def joinMethods : List String := ["ASOF", "NATURAL", "POSITIONAL"]

def joinSides : List String := ["LEFT", "RIGHT", "FULL"]

def joinKinds : List String := ["ANTI", "CROSS", "INNER", "OUTER", "SEMI", "STRAIGHT_JOIN"]

def usingRest (g : Grammar) : Parser (List Expr) := do
  if ← eat "(" then
    let es ← commaSeparated (Expression.column g)
    expect ")"
    return es
  commaSeparated (Expression.column g)

/-- A condition of a join, which may be empty. -/
def condition (g : Grammar) : Parser (Option (List Expr)) := do
  if ← eat "ON" then return some (← g.expression).toList
  if ← eat "USING" then
    let _ ← usingRest g
    return some []
  return none

/-- One join.  An item without a condition takes the joins after it if a condition follows them, so
that conditions may close several joins from the inside out. -/
def join (g : Grammar) : Parser (Option Join) := do
  if ← eat "," then
    return (← attempt (fromItem g)).map fun i => .mk i []
  let back ← get
  let method ← eatAny joinMethods
  let _ ← eatAny joinSides
  let kind ← eatAny joinKinds
  let isJoin ← if kind = some "STRAIGHT_JOIN" then pure true else eat "JOIN"
  if !isJoin then
    set back
    if ← areAt ["CROSS", "APPLY"] then return some (.mk (← fromItem g) [])
    if ← areAt ["OUTER", "APPLY"] then return some (.mk (← fromItem g) [])
    return none
  let i ← fromItem g
  match ← condition g with
  | some es => return some (.mk i es)
  | none =>
    if method.isSome || kind = some "CROSS" then return some (.mk i [])
    let start ← get
    let js ← g.joins
    match ← if js.isEmpty then pure none else condition g with
    | some es => return some (.mk (i.addJoins js) es)
    | none =>
      set start
      return some (.mk i [])

def joins (g : Grammar) : Parser (List Join) := many (join g)

/-! ## Whole queries -/

/-- What follows `SELECT`, the item of a leading `FROM` being given. -/
def selectRest (g : Grammar) (lead : Option FromItem) : Parser Query := do
  let point := (← peekSecond).all (·.key == ".")
  let all ← if point then pure false else eat "ALL"
  let distinct ← if point then pure false else eat "DISTINCT"
  if all && distinct then failure
  let on ←
    if distinct && (← eat "ON") then
      let e ← need (valueRow g)
      pure [Expr.operation "Distinct" [e]]
    else pure []
  let _ ← many (eatAny g.dialect.selectWords)
  let items ← commaSeparated (item g)
  let into ←
    if ← eat "INTO" then
      let _ ← eatAny ["TEMPORARY", "TEMP"]
      let _ ← eat "UNLOGGED"
      let _ ← eat "TABLE"
      pure [Expr.operation "Into" [← mention g]]
    else pure []
  let source ←
    match lead with
    | some i => pure [i]
    | none => if ← eat "FROM" then pure [← fromItem g] else pure []
  let js ← joins g
  let cs ← clauses g
  return .select (.mk items source js (on ++ into ++ cs) [])

/-- A query that is neither in parentheses nor combined with another one. -/
def plain (g : Grammar) : Parser (Option Query) := do
  if ← eat "SELECT" then return some (← selectRest g none)
  if ← eat "VALUES" then
    let (rows, label) ← valuesRest g false
    return some (.values rows label)
  if ← eat "FROM" then
    let i ← fromItem g
    let js ← joins g
    let i := i.addJoins js
    if ← eat "SELECT" then return some (← selectRest g (some i))
    return some (.select (.mk [.star] [i] [] (← clauses g) []))
  let isTable := (← peekSecond).any fun t => t.isName g.dialect
  if (← isAt "TABLE") && isTable then
    skip 1
    let t ← tableName g false
    return some (.select (.mk [.star] [t.toItem none []] [] (← clauses g) []))
  return none

def Statement.toQuery : Statement → Query
  | .query q => q
  | .create _ => .other "Create" [] []
  | .expression (.subquery q) => .wrapped q "" [] [] []
  | .expression e => .other e.kind [e] []
  | .other kind => .other kind [] []

def cte (g : Grammar) (recursive : Bool) : Parser (Option Cte) := do
  let d := g.dialect
  let _ ← eat "AS"
  let n ← need (Expression.orElse (name d false []) textName)
  if ← isAt "(" then
    let back ← get
    skip 1
    let columns ← commaSeparated (aliasColumn d)
    if columns.isEmpty then set back else expect ")"
  let _ ← eat "AS"
  if ← eatAll ["NOT", "MATERIALIZED"] then pure () else
    let _ ← eat "MATERIALIZED"
  let s ← parenthesized (need g.statement)
  return some (.mk n recursive (Statement.toQuery s))

/-- The definitions after `WITH`. -/
def ctesRest (g : Grammar) : Parser (List Cte) := do
  let recursive ← eat "RECURSIVE"
  let first ← need (cte g recursive)
  let back ← loop
    (fun acc => do
      if (← eatAny [",", "WITH"]).isSome then
        return some ((← need (cte g recursive)) :: acc)
      return none)
    [first]
  return back.reverse

/-- The statement after `WITH`, with the definitions attached to its query. -/
def withRest (g : Grammar) : Parser Query := do
  let ctes ← ctesRest g
  match ← need g.statement with
  | .query q => return (if isBare q then q.unwrapped else q).addCtes ctes
  | .expression (.subquery q) => return q.unwrapped.addCtes ctes
  | .other kind => return .other kind [] ctes
  | _ => failure
where
  isBare : Query → Bool
    | .wrapped _ label joins clauses ctes =>
      label.isEmpty && joins.isEmpty && clauses.isEmpty && ctes.isEmpty
    | _ => false

/-- A query that starts with a keyword, with all that is combined with it. -/
def query (g : Grammar) : Parser (Option Query) := do
  if ← eat "WITH" then return some (← withRest g)
  match ← plain g with
  | none => return none
  | some q => return some (← Expression.combine g q)

/-- A query to combine with another one. -/
def operand (g : Grammar) : Parser (Option Query) := do
  if ← eat "WITH" then return some (← withRest g)
  if ← eat "(" then
    let q ← need g.operand
    let q ← modified g (← Expression.combine g q)
    expect ")"
    let (label, _) ← tableAlias g
    return some (.wrapped q (label.getD "") [] [] [])
  plain g

end Query
end Sql
end SchemaLineage
