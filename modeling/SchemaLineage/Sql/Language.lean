import SchemaLineage.Sql.Statement
/-
Languages, each with the way in which its texts are read.

A view's definition is followed through its statement, whatever it is that finds the statement in the
text.  So the reading of texts is a part of the language, and what holds of views in any language
holds for every such function.
-/

namespace SchemaLineage
namespace Sql

/-- How texts are read: for each name of a language that is known, the statement that a text makes,
or what is wrong with the text. -/
abbrev Reader := String → Option (String → Except String Statement)

/-- A language by its name.  Texts in a language that is not known are not read at all. -/
structure Language where
  name : String
  read? : Option (String → Except String Statement)

/-- Of all texts that make no statement the same is said. -/
def Dialect.read (d : Dialect) (sql : String) : Except String Statement :=
  match Statement.ofText? d sql with
  | some s => .ok s
  | none => .error "<parser message>"

/-- The languages whose grammars are written out in this library. -/
def reader : Reader := fun name => (Dialect.ofName? name).map Dialect.read

namespace Language

def IsKnown (l : Language) : Prop := l.read?.isSome

def ofReader (r : Reader) (name : String) : Language := ⟨name, r name⟩

def named (name : String) : Language := ofReader reader name

/-- A name alone stands for the language that `reader` has under it. -/
instance : CoeTail String Language := ⟨named⟩

instance : CoeOut Language String := ⟨name⟩

end Language
end Sql
end SchemaLineage
