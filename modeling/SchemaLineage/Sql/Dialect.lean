/-
The dialects of SQL in which view definitions are written, as far as reading them differs.
-/

namespace SchemaLineage
namespace Sql

structure Dialect where
  /-- Opening and closing mark of a name that is taken as written. -/
  nameQuotes : List (Char × Char) := [('"', '"')]
  textQuotes : List Char := ['\'']
  /-- A letter before a quoted text gives the text another meaning. -/
  markedTexts : List (Char × String) := [('n', "National")]
  backslashEscapes : Bool := false
  hashComments : Bool := false
  nestedComments : Bool := true
  /-- Texts between `$tag$` marks. -/
  dollarTexts : Bool := false
  /-- A name may start with digits. -/
  digitNames : Bool := false
  /-- Whether `0x` and `0b` start a number of another base. -/
  hexNumbers : Bool := false
  bitNumbers : Bool := false
  /-- Operators of two or more characters beyond the usual ones. -/
  extraSymbols : List String := []
  extraPairs : List String := []
  /-- Words beyond the usual ones that cannot be names. -/
  extraReserved : List String := []
  extraTypes : List String := []
  extraCommands : List String := []
  /-- Statements known by their first word, beyond the usual ones. -/
  extraStatements : List (String × String) := []
  /-- Words that are read as another keyword. -/
  spellings : List (String × String) := []
  /-- Words between two values that stand for an operator like the star. -/
  factorWords : List (String × String) := []
  /-- Words between two values that test the one against the other. -/
  testWords : List (String × String) := []
  /-- Names of character sets, which with an underscore before them mark the text that follows. -/
  characterSets : List String := []
  /-- Functions beyond the usual ones that are built in. -/
  extraBuiltins : List (String × String) := []
  /-- Words between `SELECT` and the items that say how to run the query. -/
  selectWords : List String := []
  /-- Words after a table that say which of its indexes to use. -/
  indexWords : List String := []
  /-- A text after an item is its alias. -/
  textAliases : Bool := false
  /-- Two bars mean `OR` rather than joining texts. -/
  barsMeanOr : Bool := false
  caretIsPower : Bool := false
  /-- A percent sign where a value should be stands for one that is given later. -/
  percentMarks : Bool := false
  /-- A text after an arrow is a key as it stands, not a path of keys. -/
  plainKeys : Bool := false
  /-- The index of the first element of an array. -/
  firstIndex : Nat := 0
  deriving Repr

namespace Dialect

def generic : Dialect := {}

def postgres : Dialect :=
  { markedTexts :=
      [('n', "National"), ('b', "BitString"), ('x', "HexString"), ('e', "ByteString")]
    dollarTexts := true
    hexNumbers := true
    bitNumbers := true
    extraSymbols := ["@@", "@>", "<@", "?&", "?|", "#-", "|/", "||/", "-|-"]
    extraReserved := ["ONLY"]
    extraTypes :=
      ["NAME", "OID", "MONEY", "XML", "SERIAL", "BIGSERIAL", "SMALLSERIAL", "HSTORE", "CSTRING",
       "REGCLASS", "REGTYPE", "REGPROC", "REGNAMESPACE", "REGROLE"]
    extraCommands := ["DO", "DECLARE", "EXEC", "REFRESH", "REINDEX", "RESET"]
    extraBuiltins :=
      [("DATE_PART", "Extract"), ("JSON_AGG", "JSONArrayAgg"),
       ("JSON_EXTRACT_PATH", "JSONExtractPath"), ("JSON_EXTRACT_PATH_TEXT", "JSONExtractPath"),
       ("JSON_OBJECT_AGG", "JSONObjectAgg"), ("JSONB_OBJECT_AGG", "JSONBObjectAgg"),
       ("SHA256", "SHA2"), ("SHA384", "SHA2"), ("SHA512", "SHA2")]
    caretIsPower := true
    percentMarks := true
    plainKeys := true
    firstIndex := 1 }

def sqlite : Dialect :=
  { nameQuotes := [('"', '"'), ('[', ']'), ('\x60', '\x60')]
    markedTexts := [('n', "National"), ('x', "HexString")]
    nestedComments := false
    hexNumbers := true
    extraPairs := ["INDEXED BY"]
    extraCommands := ["REPLACE"]
    extraStatements := [("ATTACH", "Attach"), ("DETACH", "Detach")]
    testWords := [("MATCH", "Match")]
    textAliases := true }

def mysql : Dialect :=
  { nameQuotes := [('\x60', '\x60')]
    textQuotes := ['\'', '"']
    markedTexts := [('n', "National"), ('b', "BitString"), ('x', "HexString")]
    backslashEscapes := true
    hashComments := true
    nestedComments := false
    digitNames := true
    hexNumbers := true
    bitNumbers := true
    extraSymbols := ["@@"]
    extraPairs := ["MEMBER OF", "SOUNDS LIKE"]
    extraReserved := ["MEMBER OF", "MOD", "SOUNDS LIKE", "XOR"]
    extraTypes := ["YEAR", "SIGNED", "UNSIGNED"]
    extraCommands := ["REPLACE"]
    extraStatements := [("EXPLAIN", "Describe"), ("SHOW", "Show")]
    spellings := [("DISTINCTROW", "DISTINCT"), ("START", "BEGIN")]
    factorWords := [("MOD", "Mod")]
    testWords := [("MEMBER OF", "JSONArrayContains"), ("SOUNDS LIKE", "EQ")]
    characterSets :=
      ["ARMSCII8", "ASCII", "BIG5", "BINARY", "CP1250", "CP1251", "CP1256", "CP1257", "CP850",
       "CP852", "CP866", "CP932", "DEC8", "EUCJPMS", "EUCKR", "GB18030", "GB2312", "GBK",
       "GEOSTD8", "GREEK", "HEBREW", "HP8", "KEYBCS2", "KOI8R", "KOI8U", "LATIN1", "LATIN2",
       "LATIN5", "LATIN7", "MACCE", "MACROMAN", "SJIS", "SWE7", "TIS620", "UCS2", "UJIS", "UTF16",
       "UTF16LE", "UTF32", "UTF8", "UTF8MB3", "UTF8MB4"]
    selectWords :=
      ["HIGH_PRIORITY", "STRAIGHT_JOIN", "SQL_SMALL_RESULT", "SQL_BIG_RESULT", "SQL_BUFFER_RESULT",
       "SQL_NO_CACHE", "SQL_CALC_FOUND_ROWS"]
    indexWords := ["USE", "FORCE", "IGNORE"]
    textAliases := true
    barsMeanOr := true }

/-- Whether a word, in uppercase, says in which character set the text after it is. -/
def isCharacterSet (d : Dialect) (word : String) : Bool :=
  d.characterSets.any fun s => "_" ++ s == word

def ofName? (name : String) : Option Dialect :=
  match name with
  | "" => some generic
  | "postgres" => some postgres
  | "sqlite" => some sqlite
  | "mysql" => some mysql
  | _ => none

end Dialect
end Sql
end SchemaLineage
