/-
Syntax trees of queries, as far as lineage needs them.

What decides where a column comes from is spelled out: columns, stars, aliases, parentheses, the
items of a `FROM` clause and the queries nested anywhere.  All other expressions are operations with
a kind and operands.

`Select.mentions` lists the names that a query mentions at any depth; `Expr.outputName` is the name
under which an item is seen from outside.
-/

namespace SchemaLineage
namespace Sql

mutual

inductive Expr where
  /-- Only the last two parts of a name matter: the column and what it is said to belong to. -/
  | column (qualifier : Option String) (name : String)
  | star
  | starOf (qualifier : String)
  | literal (text : String)
  | null
  | named (operand : Expr) (name : String)
  | paren (operand : Expr)
  | cast (operand : Expr)
  /-- A member of a value; a member that is a plain name is a column without a qualifier. -/
  | member (operand : Expr) (part : Expr)
  /-- The subscripts are counted from zero. -/
  | index (operand : Expr) (subscripts : List Expr)
  /-- The part of a document that a key leads to. -/
  | keyed (kind : String) (operand : Expr) (key : Expr)
  /-- A call of a function that is not built in. -/
  | call (name : String) (arguments : List Expr)
  /-- The first operand is the subject. -/
  | operation (kind : String) (operands : List Expr)
  /-- A query in parentheses. -/
  | subquery (body : Query)
  | query (body : Query)
  /-- A relation named elsewhere than in a `FROM` clause. -/
  | relation (item : FromItem)

inductive Query where
  | select (body : Select)
  | combined (kind : String) (left right : Query) (clauses : List Expr) (ctes : List Cte)
  | values (rows : List Expr) (label : String)
  | wrapped (body : Query) (label : String) (joins : List Join) (clauses : List Expr)
      (ctes : List Cte)
  /-- A statement of another kind where a query may stand. -/
  | other (kind : String) (parts : List Expr) (ctes : List Cte)

inductive Select where
  | mk (items : List Expr) (source : List FromItem) (joins : List Join) (clauses : List Expr)
      (ctes : List Cte)

inductive FromItem where
  | table (schema : Option String) (name : String) (label : Option String) (extras : List Expr)
      (joins : List Join)
  | derived (body : Query) (label : String) (joins : List Join)
  /-- Items in parentheses; an alias after the parenthesis is not kept. -/
  | group (item : FromItem) (clauses : List Expr) (joins : List Join)
  /-- A table function, a list of values and the like. -/
  | other (label : String) (parts : List Expr) (joins : List Join)

inductive Join where
  | mk (item : FromItem) (condition : List Expr)

inductive Cte where
  /-- A recursive definition may speak of itself. -/
  | mk (name : String) (recursive : Bool) (body : Query)

end

instance : Inhabited Expr := ⟨.null⟩

instance : Inhabited Query := ⟨.values [] ""⟩

namespace Select

def items : Select → List Expr
  | mk items .. => items

def source : Select → List FromItem
  | mk _ source .. => source

def joins : Select → List Join
  | mk _ _ joins .. => joins

def clauses : Select → List Expr
  | mk _ _ _ clauses _ => clauses

def ctes : Select → List Cte
  | mk _ _ _ _ ctes => ctes

end Select

def Join.item : Join → FromItem
  | mk item _ => item

def Cte.name : Cte → String
  | mk name _ _ => name

def Cte.body : Cte → Query
  | mk _ _ body => body

namespace FromItem

def joins : FromItem → List Join
  | table _ _ _ _ joins => joins
  | derived _ _ joins => joins
  | group _ _ joins => joins
  | other _ _ joins => joins

/-- Further joins that belong to the item. -/
def addJoins (more : List Join) : FromItem → FromItem
  | table s n a es joins => table s n a es (joins ++ more)
  | derived q a joins => derived q a (joins ++ more)
  | group i cs joins => group i cs (joins ++ more)
  | other a ps joins => other a ps (joins ++ more)

end FromItem

/-! ## Names of expressions -/

namespace Expr

/-- Kinds whose operands are all alike, so that none is the subject. -/
def subjectless : List String :=
  ["Tuple", "Array", "Struct", "Concat", "ConcatWs", "Distinct", "GenerateSeries", "JSONObject",
   "Slice", "Aliases", "Case"]

/-- The text of an expression that is a single word by itself. -/
def word : Expr → String
  | literal text => text
  | null => "NULL"
  | star => "*"
  | _ => ""

/-- What an expression is called inside another one. -/
def caption : Expr → String
  | column _ name => name
  | star => "*"
  | starOf _ => "*"
  | literal text => text
  | null => "NULL"
  | named e _ => e.word
  | paren e => e.word
  | cast e => e.caption
  | member _ part => part.caption
  | index e _ => e.word
  | keyed _ e _ => e.word
  | call name _ => name
  | operation kind es =>
    if subjectless.contains kind then ""
    else
      match es with
      | [] => ""
      | e :: _ => e.word
  | subquery _ => ""
  | query _ => ""
  | relation _ => ""

/-- The name of an item as seen from outside the query; empty when it has none. -/
def outputName : Expr → String
  | column _ name => name
  | star => "*"
  | starOf _ => "*"
  | literal text => text
  | named _ name => name
  | paren e => e.caption
  | cast e => e.caption
  | member _ part => part.caption
  | index _ [i] => i.outputName
  | keyed _ _ key => key.outputName
  | _ => ""

/-- The word for the kind of an expression. -/
def kind : Expr → String
  | column .. => "Column"
  | star => "Star"
  | starOf _ => "Column"
  | literal _ => "Literal"
  | null => "Null"
  | named .. => "Alias"
  | paren _ => "Paren"
  | cast _ => "Cast"
  | member .. => "Dot"
  | index .. => "Bracket"
  | keyed kind .. => kind
  | call .. => "Anonymous"
  | operation kind _ => kind
  | subquery _ => "Subquery"
  | query _ => "Select"
  | relation _ => "Table"

end Expr

/-! ## Names that a query mentions -/

/-- A table's name, or what a column is said to belong to. -/
inductive Mention where
  | table (schema : Option String) (name : String)
  | qualifier (name : String)
  deriving DecidableEq, Repr

mutual

/-- The names mentioned below a node at depth `d`, with the depth of each, in the order in which
they are written. -/
def Expr.mentions (d : Nat) : Expr → List (Nat × Mention)
  | .column (some q) _ => [(d, .qualifier q)]
  | .column none _ => []
  | .star => []
  | .starOf q => [(d, .qualifier q)]
  | .literal _ => []
  | .null => []
  | .named e _ => e.mentions (d + 1)
  | .paren e => e.mentions (d + 1)
  | .cast e => e.mentions (d + 1)
  | .member e p => e.mentions (d + 1) ++ p.mentions (d + 1)
  | .index e is => e.mentions (d + 1) ++ mentionsOfExprs (d + 1) is
  | .keyed _ e k => e.mentions (d + 1) ++ k.mentions (d + 1)
  | .call _ es => mentionsOfExprs (d + 1) es
  | .operation _ es => mentionsOfExprs (d + 1) es
  | .subquery q => q.mentions (d + 1)
  | .query q => q.mentions d
  | .relation i => i.mentions d

/-- A query in `FROM` stands two nodes below the query that it belongs to, one in `WITH` three. -/
def Query.mentions (d : Nat) : Query → List (Nat × Mention)
  | .select s => s.mentions d
  | .combined _ l r cs ws =>
    l.mentions (d + 1) ++ r.mentions (d + 1) ++ mentionsOfExprs (d + 1) cs ++ mentionsOfCtes d ws
  | .values rs _ => mentionsOfExprs (d + 1) rs
  | .wrapped q _ js cs ws =>
    q.mentions (d + 1) ++ mentionsOfJoins (d + 1) js ++ mentionsOfExprs (d + 1) cs ++
      mentionsOfCtes d ws
  | .other _ ps ws => mentionsOfExprs (d + 1) ps ++ mentionsOfCtes d ws

def Select.mentions (d : Nat) : Select → List (Nat × Mention)
  | .mk is src js cs ws =>
    mentionsOfExprs (d + 1) is ++ mentionsOfItems (d + 2) src ++ mentionsOfJoins (d + 1) js ++
      mentionsOfExprs (d + 1) cs ++ mentionsOfCtes d ws

def FromItem.mentions (d : Nat) : FromItem → List (Nat × Mention)
  | .table s n _ es js =>
    (d, .table s n) :: mentionsOfExprs (d + 1) es ++ mentionsOfJoins (d + 1) js
  | .derived q _ js => q.mentions (d + 1) ++ mentionsOfJoins (d + 1) js
  | .group i cs js =>
    i.mentions (d + 1) ++ mentionsOfExprs (d + 1) cs ++ mentionsOfJoins (d + 1) js
  | .other _ ps js => mentionsOfExprs (d + 1) ps ++ mentionsOfJoins (d + 1) js

def Join.mentions (d : Nat) : Join → List (Nat × Mention)
  | .mk i cs => i.mentions (d + 1) ++ mentionsOfExprs (d + 1) cs

def Cte.mentions (d : Nat) : Cte → List (Nat × Mention)
  | .mk _ _ q => q.mentions (d + 3)

def mentionsOfExprs (d : Nat) : List Expr → List (Nat × Mention)
  | [] => []
  | e :: es => e.mentions d ++ mentionsOfExprs d es

def mentionsOfItems (d : Nat) : List FromItem → List (Nat × Mention)
  | [] => []
  | i :: is => i.mentions d ++ mentionsOfItems d is

def mentionsOfJoins (d : Nat) : List Join → List (Nat × Mention)
  | [] => []
  | j :: js => j.mentions d ++ mentionsOfJoins d js

def mentionsOfCtes (d : Nat) : List Cte → List (Nat × Mention)
  | [] => []
  | c :: cs => c.mentions d ++ mentionsOfCtes d cs

end

namespace Mention

def table? : Mention → Option (Option String × String)
  | table schema name => some (schema, name)
  | qualifier _ => none

def qualifier? : Mention → Option String
  | table .. => none
  | qualifier name => some name

end Mention

/-- All that an expression's columns are said to belong to, at any depth. -/
def Expr.qualifiers (e : Expr) : List String :=
  (e.mentions 0).filterMap fun m => m.2.qualifier?

/-- The tables that a query names at any depth, those nearer to the root first. -/
def Select.tables (s : Select) : List (Option String × String) :=
  ((s.mentions 0).mergeSort fun a b => a.1 ≤ b.1).filterMap fun m => m.2.table?

/-! ## Statements -/

inductive Statement where
  | query (body : Query)
  /-- A statement that creates something, with the query it is made from. -/
  | create (body : Option Statement)
  | expression (e : Expr)
  | other (kind : String)

namespace Query

/-- The query inside its parentheses. -/
def unwrapped : Query → Query
  | wrapped q _ _ _ _ => q.unwrapped
  | q => q

def kind : Query → String
  | select _ => "Select"
  | combined kind .. => kind
  | values .. => "Values"
  | wrapped .. => "Subquery"
  | other kind .. => kind

def addCtes (more : List Cte) : Query → Query
  | select (.mk is src js cs ws) => select (.mk is src js cs (ws ++ more))
  | combined k l r cs ws => combined k l r cs (ws ++ more)
  | values rows label => values rows label
  | wrapped q a js cs ws => wrapped q a js cs (ws ++ more)
  | other k ps ws => other k ps (ws ++ more)

end Query

namespace Expr

/-- What a statement that is an expression in parentheses stands for. -/
def toStatement : Expr → Statement
  | paren e => e.toStatement
  | subquery q => .query q
  | query q => .query q
  | e => .expression e

end Expr

namespace Statement

/-- The query of a `CREATE` statement, or the statement itself, without parentheses. -/
def core : Statement → Option Statement
  | query q => some (.query q.unwrapped)
  | expression e =>
    match e.toStatement with
    | .query q => some (.query q.unwrapped)
    | s => some s
  | other kind => some (.other kind)
  | create none => none
  | create (some s) => s.core

/-- The single `SELECT` that a statement stands for, or the word for what it is instead. -/
def toSelect (s : Statement) : Except String Select :=
  match s.core with
  | none => .error "nothing"
  | some (.query (.select body)) => .ok body
  | some (.query q) => .error q.kind
  | some (.expression e) => .error e.kind
  | some (.other kind) => .error kind
  | some (.create _) => .error "Create"

end Statement
end Sql
end SchemaLineage
