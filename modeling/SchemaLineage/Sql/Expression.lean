import SchemaLineage.Sql.Grammar
/-
Reading expressions.

The ranks of operators, from the loosest: `OR`, `AND`, equality, order, the tests such as `LIKE` and
`IN`, bits and joined texts, sums, products, powers, signs, and last the accesses to parts of a
value.  A reader that finds no expression takes nothing.
-/

namespace SchemaLineage
namespace Sql
namespace Expression

open Sql.Parser

/-- What stands where a name or a value may. -/
inductive Field where
  | name (text : String)
  | value (e : Expr)

def Field.toExpr : Field → Expr
  | name n => .column none n
  | value e => e

/-- The first that finds something. -/
def orElse {α : Type} (p q : Parser (Option α)) : Parser (Option α) := do
  match ← p with
  | some a => return some a
  | none => q

def op (kind : String) (es : List Expr) : Option Expr := some (.operation kind es)

/-! ## Names of types -/

/-- The parts of a type after its name; the answer says whether the first was a group in
parentheses. -/
def typeParts (d : Dialect) : Parser Bool := do
  let grouped ← skipGroup
  if ← eatAll ["WITH", "TIME", "ZONE"] then pure ()
  else if ← eatAll ["WITHOUT", "TIME", "ZONE"] then pure ()
  else if ← eatAll ["WITH", "LOCAL", "TIME", "ZONE"] then pure ()
  if ← eat "CHARACTER SET" then
    let _ ← name d true []
  let _ ← eatAny ["UNSIGNED", "ZEROFILL"]
  let _ ← many (do
    if ← eatAll ["[", "]"] then return some ()
    return none)
  return grouped

/-- A type; with `named` also one that is known by name only. -/
def typeName (d : Dialect) (named : Bool) : Parser (Option Bool) := do
  match ← peek with
  | none => return none
  | some t =>
    if t.isType d then
      skip 1
      return some (← typeParts d)
    else if named && (t.isName d || t.key = "SET") then
      skip 1
      let _ ← many (do
        if ← eat "." then return ← name d true []
        return none)
      if t.key = "INTERVAL" then
        let _ ← eatAny intervalUnits
        if ← eat "TO" then
          let _ ← eatAny intervalUnits
      return some (← typeParts d)
    else return none

/-! ## Parts of expressions -/

def isQueryStart : Parser Bool := isAtAny ["SELECT", "WITH", "FROM", "VALUES"]

/-- The last step of a path into a document; none for a step by position. -/
def pathName (text : String) : String :=
  let cs := text.toList
  let body :=
    match cs with
    | '$' :: r => r
    | r => r
  match body.reverse with
  | ']' :: back =>
    let inner := (back.takeWhile (· != '[')).reverse
    match inner with
    | '\'' :: r => String.ofList (r.takeWhile (· != '\''))
    | '"' :: r => String.ofList (r.takeWhile (· != '"'))
    | r => if r.all Char.isDigit || r.head? = some '-' then "" else text
  | '"' :: back => String.ofList (back.takeWhile (· != '"')).reverse
  | '.' :: _ => text
  | back => String.ofList (back.takeWhile fun c => c != '.' && c != ':').reverse

/-- A subscript counted from the dialect's first index, counted from zero. -/
def fromZero (d : Dialect) (subscripts : List Expr) : List Expr :=
  match subscripts with
  | [.literal text] =>
    match if d.firstIndex = 0 then none else text.toNat? with
    | some n =>
      if d.firstIndex ≤ n then [.literal (toString (n - d.firstIndex))]
      else [.operation "Neg" [.literal (toString (d.firstIndex - n))]]
    | none => subscripts
  | _ => subscripts

/-- `ASC` or `DESC` and the place of nulls after an expression to order by. -/
def ordered (g : Grammar) : Parser (Option Expr) := do
  match ← g.expression with
  | none => return none
  | some e =>
    let _ ← eat "ASC"
    let _ ← eat "DESC"
    if ← eatAll ["NULLS", "FIRST"] then pure ()
    else if ← eatAll ["NULLS", "LAST"] then pure ()
    return op "Ordered" [e]

/-- What follows `ORDER BY`; there has to be something. -/
def orderList (g : Grammar) : Parser (List Expr) := do
  let es ← commaSeparated (ordered g)
  if es.isEmpty then failure
  return es

/-! ## Windows -/

def frameBound (g : Grammar) : Parser (List Expr) := do
  let bound ←
    if ← eat "UNBOUNDED" then pure none
    else if ← eatAll ["CURRENT", "ROW"] then pure none
    else g.unary
  let _ ← eatAny ["PRECEDING", "FOLLOWING"]
  return bound.toList

/-- The definition of a window, up to its closing parenthesis. -/
def windowBody (g : Grammar) : Parser (List Expr) := do
  let _ ← name g.dialect false ["PARTITION BY", "ROWS", "RANGE", "GROUPS"]
  let partition ← if ← eat "PARTITION BY" then commaSeparated g.expression else pure []
  let order ← if ← eat "ORDER BY" then orderList g else pure []
  let frame ←
    match ← eatAny ["ROWS", "RANGE", "GROUPS"] with
    | none => pure []
    | some _ =>
      if ← eat "BETWEEN" then
        let low ← frameBound g
        let high ← if ← eat "AND" then frameBound g else pure []
        pure (low ++ high)
      else frameBound g
  if ← eat "EXCLUDE" then
    if ← eatAll ["CURRENT", "ROW"] then pure ()
    else if ← eatAll ["NO", "OTHERS"] then pure ()
    else
      let _ ← eatAny ["GROUP", "TIES"]
  expect ")"
  let orders := if order.isEmpty then [] else [Expr.operation "Order" order]
  return partition ++ orders ++ frame

def skipNullsRule : Parser Unit := do
  if ← eatAll ["IGNORE", "NULLS"] then return ()
  let _ ← eatAll ["RESPECT", "NULLS"]

/-- What may follow a call: the order within a group, a filter and a window. -/
def window (g : Grammar) (e : Expr) : Parser Expr := do
  let mut e := e
  if ← eatAll ["WITHIN", "GROUP"] then
    expect "("
    let order ← if ← eat "ORDER BY" then orderList g else pure []
    expect ")"
    e := .operation "WithinGroup" [e, .operation "Order" order]
  if ← eatAll ["FILTER", "("] then
    let _ ← eat "WHERE"
    let condition ← need g.expression
    expect ")"
    e := .operation "Filter" [e, .operation "Where" [condition]]
  skipNullsRule
  if ← eat "OVER" then
    if ← eat "(" then
      let parts ← windowBody g
      return .operation "Window" (e :: parts)
    let _ ← name g.dialect false []
    return .operation "Window" [e]
  return e

/-! ## Operators, given the reader of signed values -/

def atTimeZone (g : Grammar) (e : Option Expr) : Parser (Option Expr) := do
  match e with
  | none => return none
  | some e =>
    let e ← loop
      (fun e => do
        if ← eatAll ["AT", "TIME", "ZONE"] then
          return op "AtTimeZone" [e, ← need g.unary]
        return none)
      e
    return some e

section operators

variable (g : Grammar) (unary : Parser (Option Expr))

def power : Parser (Option Expr) :=
  if g.dialect.caretIsPower then chain (operatorOf [("^", "Pow")]) unary else unary

/-- `DIV` without a right operand is a name and stays. -/
def factor : Parser (Option Expr) := do
  match ← atTimeZone g (← power g unary) with
  | none => return none
  | some first =>
    let e ← loop
      (fun left => do
        let back ← get
        match ← operatorOf
            ([("*", "Mul"), ("/", "Div"), ("DIV", "IntDiv"), ("<->", "Distance")] ++
              g.dialect.factorWords) with
        | none => return none
        | some kind =>
          match ← power g unary with
          | some right => return op kind [left, right]
          | none =>
            if kind = "IntDiv" then
              set back
              return none
            else failure)
      first
    return some e

def term : Parser (Option Expr) :=
  chain (operatorOf [("-", "Sub"), ("+", "Add"), ("%", "Mod"), ("COLLATE", "Collate")])
    (factor g unary)

def bitOperator : Parser (Option String) := do
  if ← eatAll ["<", "<"] then return some "BitwiseLeftShift"
  if ← eatAll [">", ">"] then return some "BitwiseRightShift"
  let d := g.dialect
  operatorOf
    ([("&", "BitwiseAnd"), ("|", "BitwiseOr"), ("??", "Coalesce")] ++
      (if d.caretIsPower then [("#", "BitwiseXor")] else [("^", "BitwiseXor")]) ++
      (if d.barsMeanOr then [] else [("||", "DPipe")]))

def bitwise : Parser (Option Expr) := chain (bitOperator g) (term g unary)

/-- Tests with a right operand of their own. -/
def binaryTests : List (String × String) :=
  [("GLOB", "Glob"), ("~~~", "Glob"), ("ILIKE", "ILike"), ("~~*", "ILike"),
   ("~*", "RegexpILike"), ("LIKE", "Like"), ("~~", "Like"), ("RLIKE", "RegexpLike"),
   ("REGEXP", "RegexpLike"), ("~", "RegexpLike"), ("SIMILAR TO", "SimilarTo"),
   ("OVERLAPS", "Overlaps"), ("@>", "ArrayContainsAll"), ("<@", "ArrayContainsAll"),
   ("&&", "ArrayOverlaps"), ("?&", "JSONBContainsAllTopKeys"),
   ("?|", "JSONBContainsAnyTopKeys"), ("#-", "JSONBDeleteAtPath"), ("-|-", "Adjacent"),
   ("@@", "MatchAgainst"), ("&<", "ExtendsLeft"), ("&>", "ExtendsRight")]

/-- A query, or an expression with what is combined with it. -/
def argumentQuery : Parser (Option Expr) := do
  if ← isQueryStart then
    return (← g.query).map .query
  return none

/-- The right side of `IN`. -/
def membership (left : Expr) : Parser Expr := do
  if ← eat "(" then
    let es ← commaSeparated (orElse (argumentQuery g) g.expression)
    expect ")"
    match es with
    | [.query q] => return .operation "In" [left, .subquery q]
    | _ => return .operation "In" (left :: es)
  if ← eat "[" then
    let es ← commaSeparated g.expression
    expect "]"
    return .operation "In" (left :: es)
  return .operation "In" (left :: (← g.unary).toList)

/-- What follows `IS`; nothing when that is no test, and then nothing is taken. -/
def identity (left : Expr) : Parser (Option Expr) := do
  let back ← get
  let negated := (← eatAny ["NOT", "!"]).isSome
  if ← eatAll ["DISTINCT", "FROM"] then
    return op (if negated then "NullSafeEQ" else "NullSafeNEQ") [left, ← need (bitwise g unary)]
  match ← bitwise g unary with
  | none =>
    set back
    return none
  | some right =>
    let test := Expr.operation "Is" [left, right]
    return some (if negated then .operation "Not" [test] else test)

def rangeTest (left : Expr) : Parser (Option Expr) := do
  if ← eat "BETWEEN" then
    let _ ← eatAny ["SYMMETRIC", "ASYMMETRIC"]
    let low ← need (bitwise g unary)
    let _ ← eat "AND"
    let high ← need (bitwise g unary)
    return op "Between" [left, low, high]
  if ← eat "IN" then return some (← membership g left)
  if ← isAt "IS" then
    let back ← get
    skip 1
    match ← identity g unary left with
    | some e => return some e
    | none =>
      set back
      return none
  if ← areAt ["OPERATOR", "("] then
    skip 1
    let _ ← skipGroup
    return op "Operator" [left, ← need (bitwise g unary)]
  match ← operatorOf (binaryTests ++ g.dialect.testWords) with
  | none => return none
  | some kind =>
    let right ← need (bitwise g unary)
    let test := Expr.operation kind [left, right]
    if ← eat "ESCAPE" then return op "Escape" [test, ← need g.unary]
    return some test

/-- A value with a test after it.  `NOT` before the test turns it round. -/
def range : Parser (Option Expr) := do
  match ← bitwise g unary with
  | none => return none
  | some e =>
    let negated := (← eatAny ["NOT", "!"]).isSome
    let mut e := e
    match ← rangeTest g unary e with
    | some t => e := t
    | none =>
      if ← eat "ISNULL" then e := .operation "Is" [e, .null]
      else if negated then
        if ← eat "NULL" then e := .operation "Is" [e, .null]
    if ← eat "NOTNULL" then e := .operation "Not" [.operation "Is" [e, .null]]
    if negated then e := .operation "Not" [e]
    if ← isAt "IS" then
      let back ← get
      skip 1
      match ← identity g unary e with
      | some t => e := t
      | none => set back
    return some e

def comparison : Parser (Option Expr) :=
  chain (operatorOf [(">", "GT"), (">=", "GTE"), ("<", "LT"), ("<=", "LTE")]) (range g unary)

def equality : Parser (Option Expr) :=
  chain
    (operatorOf [("=", "EQ"), ("==", "EQ"), ("<>", "NEQ"), ("!=", "NEQ"), ("<=>", "NullSafeEQ")])
    (comparison g unary)

def conjunction : Parser (Option Expr) :=
  let kinds := [("AND", "And")] ++
    if g.dialect.barsMeanOr then [("&&", "And"), ("XOR", "Xor")] else []
  chain (operatorOf kinds) (equality g unary)

def disjunction : Parser (Option Expr) :=
  let kinds := [("OR", "Or")] ++ if g.dialect.barsMeanOr then [("||", "Or")] else []
  chain (operatorOf kinds) (conjunction g unary)

/-- A value given to a name; several are read from the right. -/
def assignment : Parser (Option Expr) := do
  match ← disjunction g unary with
  | none => return none
  | some left =>
    if ← eat ":=" then return op "PropertyEQ" [left, ← need g.expression]
    return some left

end operators

/-! ## Limits and aliases -/

def limitRest (g : Grammar) : Parser Expr := do
  let first ← need (attempt (need (term g g.unary)) >>= fun found =>
    match found with
    | some e => return some e
    | none => factor g g.unary)
  let _ ← eat "PERCENT"
  let _ ← eatAny ["ROWS", "ROW"]
  if ← eatAll ["WITH", "TIES"] then pure () else
    let _ ← eat "ONLY"
  if ← eat "," then
    return .operation "Limit" [← need (term g g.unary), first]
  return .operation "Limit" [first]

def offsetRest (g : Grammar) : Parser Expr := do
  let e ← need (term g g.unary)
  let _ ← eatAny ["ROWS", "ROW"]
  return .operation "Offset" [e]

/-- `LIMIT` and `OFFSET` are names where no number follows them. -/
def isLimitAhead (g : Grammar) : Parser Bool := do
  if ← isAt "LIMIT" then
    return (← ahead (do skip 1; limitRest g)).isSome
  if ← isAt "OFFSET" then
    return (← ahead (do skip 1; offsetRest g)).isSome
  return false

/-- An expression with its alias; with `explicit` only one that follows `AS`. -/
def aliased (g : Grammar) (explicit : Bool) (e : Option Expr) : Parser (Option Expr) := do
  if ← isLimitAhead g then return e
  let marked ← eat "AS"
  if explicit && !marked then return e
  if ← eat "(" then
    let _ ← commaSeparated (name g.dialect marked [])
    expect ")"
    match e with
    | some e => return op "Aliases" [e]
    | none => failure
  let found ← name g.dialect marked []
  let found ←
    match found with
    | some n => pure (some n)
    | none => if g.dialect.textAliases then textName else pure none
  match found, e with
  | some n, some e => return some (.named e n)
  | some _, none => failure
  | none, e => return e

def item (g : Grammar) : Parser (Option Expr) := do aliased g false (← g.expression)

/-! ## Calls -/

def caseRest (g : Grammar) : Parser Expr := do
  let subject ← g.expression
  let branches ← many (do
    if ← eat "WHEN" then
      let condition ← need g.expression
      let _ ← eat "THEN"
      let value ← need g.expression
      return op "If" [condition, value]
    return none)
  let fallback ← if ← eat "ELSE" then g.expression else pure none
  expect "END"
  if branches.isEmpty then failure
  return .operation "Case" (subject.toList ++ branches ++ fallback.toList)

/-- One argument of a call.  Only a function that is not built in takes an alias. -/
def argument (g : Grammar) (aliasable : Bool) : Parser (Option Expr) := do
  let first ← peek
  let second ← peekSecond
  if first.any (·.isName g.dialect) && second.any (·.key == "=>") then
    skip 2
    return op "Kwarg" [← need g.expression]
  let e ←
    if ← eat "DISTINCT" then
      let es ← commaSeparated g.expression
      pure (op "Distinct" es)
    else
      match ← argumentQuery g with
      | some q => pure (some q)
      | none =>
        let e ← g.expression
        if aliasable then aliased g true e else pure e
  skipNullsRule
  let e ←
    if ← eat "ORDER BY" then
      let es ← orderList g
      pure (op "Order" (e.toList ++ es))
    else pure e
  if ← eat "LIMIT" then
    return op "Limit" (e.toList ++ [← limitRest g])
  return e

def castRest (g : Grammar) : Parser Expr := do
  let e ← need g.expression
  if !(← eat "AS") then
    expect ","
    let _ ← textName
    return .operation "CastToStrType" [e]
  match ← typeName g.dialect true with
  | none => failure
  | some _ =>
    if ← eat "FORMAT" then
      let _ ← textName
    return .cast e

def convertRest (g : Grammar) : Parser Expr := do
  let e ← need (bitwise g g.unary)
  if ← eat "USING" then
    let _ ← name g.dialect true []
  else if ← eat "," then
    let _ ← typeName g.dialect true
  return .cast e

def extractRest (g : Grammar) : Parser Expr := do
  let unit ← need (name g.dialect true [])
  let _ ← skipGroup
  if !(← eat "FROM") then expect ","
  return .operation "Extract" [.literal (Text.uppered unit), ← need (bitwise g g.unary)]

def positionRest (g : Grammar) : Parser Expr := do
  let es ← commaSeparated (bitwise g g.unary)
  if ← eat "IN" then
    return .operation "StrPosition" ((← need (bitwise g g.unary)) :: es)
  return .operation "StrPosition" es.reverse

/-- Arguments that words lead in. -/
def wordedRest (g : Grammar) (kind : String) (words : List String) : Parser Expr := do
  let es ← commaSeparated (bitwise g g.unary)
  let more ← many (do
    match ← eatAny words with
    | some _ => return some (← need (bitwise g g.unary))
    | none => return none)
  return .operation kind (es ++ more)

def trimRest (g : Grammar) : Parser Expr := do
  let _ ← eatAny ["BOTH", "LEADING", "TRAILING"]
  let first ← bitwise g g.unary
  let second ←
    match ← eatAny ["FROM", ","] with
    | some _ => bitwise g g.unary
    | none => pure none
  return .operation "Trim" (second.toList ++ first.toList)

/-- The readers of arguments that are not a plain list. -/
def specialRest? (g : Grammar) (key : String) : Option (Parser Expr) :=
  match key with
  | "CAST" => some (castRest g)
  | "TRY_CAST" => some (castRest g)
  | "SAFE_CAST" => some (castRest g)
  | "CONVERT" => some (convertRest g)
  | "TRY_CONVERT" => some (convertRest g)
  | "EXTRACT" => some (extractRest g)
  | "POSITION" => some (positionRest g)
  | "SUBSTRING" => some (wordedRest g "Substring" ["FROM", "FOR"])
  | "OVERLAY" => some (wordedRest g "Overlay" ["PLACING", "FROM", "FOR"])
  | "TRIM" => some (trimRest g)
  | _ => none

/-- A predicate over a whole query. -/
def predicates : List (String × String) :=
  [("ANY", "Any"), ("ALL", "All"), ("EXISTS", "Exists"), ("SOME", "Any")]

/-- A call of a function that is built in.  Where the arguments do not start with the subject they
are put in order, and a path into a document is a key. -/
def builtinCall (kind : String) (arguments : List Expr) : Expr :=
  match kind, arguments with
  | "TimestampTrunc", unit :: e :: more => .operation kind (e :: unit :: more)
  | "JSONExtract", [e, .literal path] => .keyed kind e (.literal (pathName path))
  | "JSONExtractScalar", [e, .literal path] => .keyed kind e (.literal (pathName path))
  | "JSONExtractPath", e :: keys => .keyed "JSONExtract" e (keys.getLastD .null)
  | _, es => .operation kind es

/-- The kind of a function that is built in. -/
def builtin? (d : Dialect) (key : String) : Option String :=
  (d.extraBuiltins.lookup key).or (builtins.lookup key)

/-- What follows the opening parenthesis of a call. -/
def callRest (g : Grammar) (t : Token) (anonymous : Bool) : Parser Expr := do
  let key := if t.kind = .quoted then Text.uppered t.text else t.key
  match if anonymous then none else specialRest? g key with
  | some rest =>
    let e ← rest
    expect ")"
    window g e
  | none =>
    match if ← isAtAny ["SELECT", "WITH", "FROM"] then predicates.lookup key else none with
    | some kind =>
      let q ← need g.query
      expect ")"
      return .operation kind [.query q]
    | none =>
      let known := if anonymous then none else builtin? g.dialect key
      let es ← commaSeparated (argument g known.isNone)
      if ← eat "SEPARATOR" then
        let _ ← textName
      expect ")"
      match known with
      | some kind => window g (builtinCall kind es)
      | none =>
        match if anonymous then none else predicates.lookup key with
        | some kind => window g (.operation kind es)
        | none => window g (.call t.text es)

/-- A call, or one of the functions that need no parentheses when `bare` allows them. -/
def function (g : Grammar) (anonymous any bare : Bool) : Parser (Option Expr) := do
  match ← peek with
  | none => return none
  | some t =>
    let back ← get
    if bare && t.kind = .word && t.key = "CASE" then
      skip 1
      if ← isAt "." then
        set back
        return none
      return some (← window g (← caseRest g))
    if bare && t.kind = .word && t.key = "ANY" then
      skip 1
      return op "Any" [← need (bitwise g g.unary)]
    if (← peekSecond).any (·.key == "(") then
      if (any && t.isAnyName) || t.isFunction g.dialect then
        skip 2
        return some (← callRest g t anonymous)
      return none
    if bare && t.kind = .word then
      match bareFunctions.lookup t.key with
      | some kind =>
        skip 1
        return op kind []
      | none => return none
    return none

/-! ## Values -/

/-- What a star leaves out or replaces. -/
def starParts (g : Grammar) : Parser Unit := do
  let _ ← many (do
    match ← eatAny ["EXCEPT", "EXCLUDE", "REPLACE", "RENAME"] with
    | none => return none
    | some _ =>
      if ← eat "(" then
        let _ ← commaSeparated (item g)
        expect ")"
      else
        let _ ← aliased g true (← g.expression)
      return some ())

/-- Queries combined with a given one, from left to right. -/
def combine (g : Grammar) (q : Query) : Parser Query :=
  loop
    (fun left => do
      match ← operatorOf [("UNION", "Union"), ("INTERSECT", "Intersect"), ("EXCEPT", "Except")] with
      | none => return none
      | some kind =>
        if !(← eat "DISTINCT") then
          let _ ← eat "ALL"
        if ← eatAll ["BY", "NAME"] then pure ()
        let right ← need g.operand
        return some (.combined kind left right [] []))
    q

/-- Expressions between commas, and whether the last comma has nothing after it. -/
def listWithEnd (g : Grammar) : Parser (List Expr × Bool) := do
  let first ← item g
  let (back, ended) ← loop
    (fun (acc, _) => do
      if ← eat "," then
        let e ← item g
        return some (e.toList ++ acc, e.isNone)
      return none)
    (first.toList, false)
  return (back.reverse, ended)

/-- What an opening parenthesis starts: a query, a tuple or a single expression. -/
def parenRest (g : Grammar) : Parser Expr := do
  if ← isQueryStart then
    match ← g.query with
    | some q =>
      let q ← combine g q
      expect ")"
      return .subquery q
    | none => pure ()
  let (es, ended) ← listWithEnd g
  let e ←
    match es with
    | [] => if ended then failure else pure (.operation "Tuple" [])
    | .subquery q :: _ =>
      let q ← combine g (.wrapped q "" [] [] [])
      pure (.subquery q)
    | [e] => pure (if ended then .operation "Tuple" [e] else .paren e)
    | es => pure (.operation "Tuple" es)
  expect ")"
  return e

/-- Texts that stand side by side are one. -/
def textRest (first : String) : Parser Expr := do
  match ← many textName with
  | [] => return .literal first
  | more => return .operation "Concat" ((first :: more).map .literal)

def primary (g : Grammar) : Parser (Option Expr) := do
  match ← peek with
  | none => return none
  | some t =>
    match t.kind with
    | .text =>
      skip 1
      return some (← textRest t.text)
    | .number =>
      skip 1
      return some (.literal t.text)
    | .marked node =>
      skip 1
      return op node []
    | .word =>
      match t.key with
      | "NULL" =>
        skip 1
        return some .null
      | "TRUE" =>
        skip 1
        return op "Boolean" []
      | "FALSE" =>
        skip 1
        return op "Boolean" []
      | word =>
        if g.dialect.isCharacterSet word && (← peekSecond).any (·.kind = .text) then
          skip 2
          return op "Introducer" []
        return none
    | .symbol =>
      match t.key with
      | "*" =>
        skip 1
        starParts g
        return some .star
      | "(" =>
        skip 1
        return some (← parenRest g)
      | "." =>
        match ← peekSecond with
        | some n =>
          if n.kind = .number then
            skip 2
            return some (.literal ("0." ++ n.text))
          return none
        | none => return none
      | _ => return none
    | _ => return none

/-- A mark that stands for a value given later. -/
def placeholder (d : Dialect) : Parser (Option Expr) := do
  if ← eat "?" then return op "Placeholder" []
  if d.percentMarks && (← eat "%") then
    if ← eat "(" then
      let _ ← name d false []
      expect ")"
    let _ ← eat "S"
    return op "Placeholder" []
  let second ← peekSecond
  if ← isAt ":" then
    if second.any fun t => t.kind = .number || t.isName d then
      skip 2
      return op "Placeholder" []
    return none
  if ← isAtAny ["@", "@@", "$"] then
    if second.any (·.isAnyName) then
      skip 2
      return op "Parameter" []
    return none
  return none

/-- A value, a call or a name.  After a point all that can be a name is one, and a call is never of
a built-in function. -/
def field (g : Grammar) (afterPoint : Bool) : Parser (Option Field) := do
  let value ←
    if afterPoint then orElse (function g true true true) (primary g)
    else orElse (primary g) (function g false false true)
  match value with
  | some e => return some (.value e)
  | none =>
    match ← name g.dialect afterPoint [] with
    | some n => return some (.name n)
    | none =>
      match ← placeholder g.dialect with
      | some e => return some (.value e)
      | none =>
        if (← isAt "VALUES") && !((← peekSecond).any (·.key == "(")) then
          let t ← peek
          skip 1
          return t.map fun t => .name t.text
        return none

/-- One subscript, or a range of them. -/
def subscript (g : Grammar) : Parser (Option Expr) := do
  let low ← if ← isAt ":" then pure none else aliased g true (← g.expression)
  if ← eat ":" then
    let high ← g.expression
    return op "Slice" (low.toList ++ high.toList)
  return low

/-- Constructors of arrays look like subscripts of their own name. -/
def subscripts (g : Grammar) (e : Expr) : Parser Expr :=
  loop
    (fun e => do
      if ← eat "[" then
        let es ← commaSeparated (subscript g)
        expect "]"
        if ["ARRAY", "LIST"].contains (Text.uppered e.caption) then return op "Array" es
        return some (.index e (fromZero g.dialect es))
      return none)
    e

def isColumn : Expr → Bool
  | .column .. => true
  | _ => false

/-- A value with the parts of its name counted, which are none when it is no column. -/
structure Access where
  value : Expr
  parts : Nat

/-- The member of a value.  Up to four names in a row are one column; a call takes all that stands
before it as the place where the function is kept. -/
def Access.step (a : Access) (part : Field) : Access :=
  let isColumn := 0 < a.parts && a.parts < 4
  match part with
  | .name n =>
    if isColumn then ⟨.column (some a.value.caption) n, a.parts + 1⟩
    else ⟨.member a.value (.column none n), 0⟩
  | .value .star => if isColumn then ⟨.starOf a.value.caption, 0⟩ else ⟨.member a.value .star, 0⟩
  | .value (.operation "Window" (fn :: rest)) =>
    let owner := if 0 < a.parts then Expr.operation "Identifier" [] else a.value
    ⟨.operation "Window" (.member owner fn :: rest), 0⟩
  | .value (.literal text) =>
    if isColumn then ⟨.column (some a.value.caption) text, a.parts + 1⟩
    else ⟨.member a.value (.literal text), 0⟩
  | .value e =>
    let owner := if 0 < a.parts then Expr.operation "Identifier" [] else a.value
    ⟨.member owner e, 0⟩

def keyField (g : Grammar) (columnOps : Expr → Parser Expr) : Parser Field := do
  match ← field g false with
  | some (.name n) =>
    if ← isAt "." then return .value (← columnOps (.column none n))
    return .name n
  | some f => return f
  | none => return .value (← need (bitwise g g.unary))

/-- A key after an arrow.  A text leads to a part by name, and a number by position, which names
nothing. -/
def key (g : Grammar) (columnOps : Expr → Parser Expr) : Parser Expr := do
  let byPosition := (← peek).any (·.kind = .number)
  match ← keyField g columnOps with
  | .value (.literal text) =>
    if byPosition then return .operation "Subscript" []
    return .literal (if g.dialect.plainKeys then text else pathName text)
  | f => return f.toExpr

/-- The accesses that follow a value, given the reader for those inside a key. -/
def accesses (g : Grammar) (inner : Expr → Parser Expr) (e : Expr) : Parser Expr := do
  let e ← subscripts g e
  let parts :=
    match e with
    | .column none _ => 1
    | _ => 0
  let a ← loop
    (fun (a : Access) => do
      let next : Option Access ←
        match ← eatAny ["::", "->", "->>", "#>", "#>>", "?", "."] with
        | none => pure none
        | some "::" =>
          match ← typeName g.dialect true with
          | some _ => pure (some ⟨.cast a.value, 0⟩)
          | none => failure
        | some "->" => pure (some ⟨.keyed "JSONExtract" a.value (← key g inner), 0⟩)
        | some "->>" => pure (some ⟨.keyed "JSONExtractScalar" a.value (← key g inner), 0⟩)
        | some "#>" =>
          pure (some ⟨.operation "JSONBExtract" [a.value, (← keyField g inner).toExpr], 0⟩)
        | some "#>>" =>
          pure (some ⟨.operation "JSONBExtractScalar" [a.value, (← keyField g inner).toExpr], 0⟩)
        | some "?" =>
          pure (some ⟨.operation "JSONBContains" [a.value, (← keyField g inner).toExpr], 0⟩)
        | some _ => pure (some (a.step (← need (field g true))))
      match next with
      | none => return none
      | some a' =>
        let e ← subscripts g a'.value
        return some ⟨e, if isColumn e then a'.parts else 0⟩)
    ⟨e, parts⟩
  return a.value

/-- The names of a column inside a key. -/
def keyAccesses (g : Grammar) (e : Expr) : Parser Expr :=
  accesses g (fun e => return e) e

def columnOps (g : Grammar) (e : Expr) : Parser Expr := accesses g (keyAccesses g) e

/-! ## Typed texts, intervals, signs -/

/-- Whether a text holds a number with its unit. -/
def holdsUnit (text : String) : Bool :=
  let cs := text.toList
  let rest := (cs.dropWhile fun c => !c.isDigit).dropWhile fun c =>
    c.isDigit || c == '.' || Text.isBlank c
  rest.head?.any Char.isAlpha

/-- The unit of an interval.  A text that holds its own needs none, and the word that follows is not
taken then. -/
def intervalUnit (g : Grammar) (amount : Expr) : Parser Unit := do
  let back ← get
  match ← function g false false false with
  | some _ => pure ()
  | none =>
    match ← peek with
    | some t =>
      if t.key != "AS" && t.isAnyName && t.kind != .quoted then skip 1
    | none => pure ()
  match amount with
  | .literal text => if holdsUnit text then set back
  | _ => pure ()
  if ← eat "TO" then
    match ← peek with
    | some t => if t.isAnyName then skip 1
    | none => pure ()

/-- `INTERVAL` with an amount; without one the word is a name. -/
def interval (g : Grammar) (unary : Parser (Option Expr)) : Parser (Option Expr) := do
  if !(← isAt "INTERVAL") then return none
  let back ← get
  skip 1
  let amount ← if (← peek).any (·.kind = .text) then primary g else term g unary
  match amount with
  | none =>
    set back
    return none
  | some e =>
    let bareColumn :=
      match e with
      | .column none _ => true
      | _ => false
    if bareColumn && (← peek).any (fun t => !intervalUnits.contains t.key) then
      set back
      return none
    intervalUnit g e
    let more ← many (do
      let start ← get
      let _ ← eat "+"
      match ← peek with
      | some t =>
        if t.kind = .text || t.kind = .number then
          let e ← need (primary g)
          intervalUnit g e
          return some e
        set start
        return none
      | none =>
        set start
        return none)
    let first := Expr.operation "Interval" [e]
    return some (if more.isEmpty then first else .operation "Add" (first :: more))

/-- A text with its type before it, such as a date. -/
def typedText (g : Grammar) : Parser (Option Expr) := do
  let back ← get
  match ← peek with
  | none => return none
  | some t =>
    match ← typeName g.dialect false with
    | none => return none
    | some grouped =>
      let follows ← peek
      let isText := follows.any (·.kind = .text)
      let isNumber := !grouped && follows.any (·.kind = .number)
      if isText || isNumber then
        match ← primary g with
        | some (.literal text) =>
          let e ← columnOps g (.literal text)
          if t.key = "JSON" then return op "ParseJSON" [e]
          return some (.cast e)
        | _ =>
          set back
          return none
      set back
      return none

def column (g : Grammar) : Parser (Option Expr) := do
  match ← field g false with
  | some f => return some (← columnOps g f.toExpr)
  | none =>
    if ← eat "[" then
      let es ← commaSeparated (subscript g)
      expect "]"
      return some (← columnOps g (.operation "Array" es))
    return none

/-- A value with its signs; a plus sign changes nothing. -/
def unary (g : Grammar) : Parser (Option Expr) := do
  match ← eatAny ["+", "-", "~", "NOT", "!", "|/", "||/"] with
  | some "+" => g.unary
  | some "-" => return op "Neg" [← need g.unary]
  | some "~" => return op "BitwiseNot" [← need g.unary]
  | some "|/" => return op "Sqrt" [← need g.unary]
  | some "||/" => return op "Cbrt" [← need g.unary]
  | some _ => return op "Not" [← need g.equality]
  | none =>
    match ← interval g g.unary with
    | some e => return some (← columnOps g e)
    | none =>
      match ← typedText g with
      | some e => return some e
      | none => column g

end Expression
end Sql
end SchemaLineage
