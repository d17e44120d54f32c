import SchemaLineage.Sql.Token
/-
The words of SQL that are not names everywhere: reserved words, names of types, functions that are
built in, and the units of intervals.
-/

namespace SchemaLineage
namespace Sql

/-- Words that cannot be a name unless they are quoted. -/
def reservedWords : List String :=
  ["AS", "AND", "BETWEEN", "CREATE", "CROSS", "DISTINCT", "DROP", "ELSE", "EXCEPT", "FETCH", "FOR",
   "FROM", "GLOB", "HAVING", "ILIKE", "IN", "INNER", "INSERT", "INTERSECT", "INTO", "JOIN",
   "LATERAL", "LIKE", "NOT", "NULL", "ON", "OR", "OUTER", "OVER", "QUALIFY", "RETURNING", "RLIKE",
   "REGEXP", "SELECT", "STRAIGHT_JOIN", "TABLESAMPLE", "THEN", "UNION", "USING", "VALUES", "WHEN",
   "WHERE", "WITH", "ALTER", "NOTNULL", "UNCACHE", "GROUP BY", "ORDER BY", "PARTITION BY",
   "CLUSTER BY", "DISTRIBUTE BY", "SORT BY", "CONNECT BY", "START WITH", "GROUPING SETS",
   "SIMILAR TO", "CHARACTER SET", "PRIMARY KEY", "INDEXED BY", "SQL SECURITY"]

/-- Names that cannot be the alias of a table without `AS`, since they go on with the clause. -/
def joinWords : List String :=
  ["ANTI", "ASOF", "FULL", "LEFT", "LOCK", "NATURAL", "RIGHT", "SEMI", "WINDOW"]

/-- Words that name a type even without being asked for one. -/
def typeWords : List String :=
  ["BIT", "BOOL", "BOOLEAN", "BYTE", "MEDIUMINT", "INT1", "TINYINT", "INT16", "SHORT", "SMALLINT",
   "HUGEINT", "UHUGEINT", "INT2", "INTEGER", "INT", "INT4", "INT32", "INT64", "INT128", "INT256",
   "LONG", "BIGINT", "INT8", "UINT", "UINT128", "UINT256", "DEC", "DECIMAL", "DECIMAL32",
   "DECIMAL64", "DECIMAL128", "DECIMAL256", "DECFLOAT", "BIGDECIMAL", "BIGNUMERIC", "BIGNUM",
   "LIST", "MAP", "NULLABLE", "NUMBER", "NUMERIC", "FIXED", "REAL", "FLOAT", "FLOAT4", "FLOAT8",
   "DOUBLE", "DOUBLE PRECISION", "JSON", "JSONB", "CHAR", "CHARACTER", "CHAR VARYING",
   "CHARACTER VARYING", "NCHAR", "VARCHAR", "VARCHAR2", "NVARCHAR", "NVARCHAR2", "BPCHAR", "STR",
   "STRING", "TEXT", "LONGTEXT", "MEDIUMTEXT", "TINYTEXT", "CLOB", "LONGVARCHAR", "BINARY", "BLOB",
   "VARBINARY", "LONGBLOB", "MEDIUMBLOB", "TINYBLOB", "BYTEA", "TIME", "TIMETZ", "TIME_NS",
   "TIMESTAMP", "TIMESTAMPTZ", "TIMESTAMPLTZ", "TIMESTAMP_LTZ", "TIMESTAMPNTZ", "TIMESTAMP_NTZ",
   "DATE", "DATETIME", "INT4RANGE", "INT4MULTIRANGE", "INT8RANGE", "INT8MULTIRANGE", "NUMRANGE",
   "NUMMULTIRANGE", "TSRANGE", "TSMULTIRANGE", "TSTZRANGE", "TSTZMULTIRANGE", "DATERANGE",
   "DATEMULTIRANGE", "UUID", "INET", "GEOGRAPHY", "GEOMETRY", "ENUM", "OBJECT", "STRUCT",
   "VARIANT", "VECTOR", "USER-DEFINED", "UNKNOWN", "ARRAY"]

/-- Functions that are built in, with the kind of node a call of one becomes. -/
def builtins : List (String × String) :=
  [("ABS", "Abs"), ("ACOS", "Acos"), ("ANY_VALUE", "AnyValue"), ("ARRAY", "Array"),
   ("ARRAY_AGG", "ArrayAgg"), ("ARRAY_CONCAT", "ArrayConcat"), ("ARRAY_LENGTH", "ArraySize"),
   ("ARRAY_SIZE", "ArraySize"), ("ARRAY_TO_STRING", "ArrayToString"), ("ASCII", "Ascii"),
   ("ASIN", "Asin"), ("ATAN", "Atan"), ("ATAN2", "Atan2"), ("AVG", "Avg"),
   ("BIT_LENGTH", "BitLength"), ("BOOL_AND", "LogicalAnd"), ("BOOL_OR", "LogicalOr"),
   ("CBRT", "Cbrt"),
   ("CEIL", "Ceil"), ("CEILING", "Ceil"), ("CHR", "Chr"), ("CHAR", "Chr"),
   ("COALESCE", "Coalesce"), ("IFNULL", "Coalesce"), ("NVL", "Coalesce"), ("CONCAT", "Concat"),
   ("CONCAT_WS", "ConcatWs"), ("CORR", "Corr"), ("COS", "Cos"), ("COT", "Cot"), ("COUNT", "Count"),
   ("COUNT_IF", "CountIf"), ("COUNTIF", "CountIf"), ("COVAR_POP", "CovarPop"),
   ("COVAR_SAMP", "CovarSamp"), ("DATE", "Date"), ("DATE_ADD", "DateAdd"),
   ("DATE_DIFF", "DateDiff"), ("DATEDIFF", "DateDiff"), ("DATE_SUB", "DateSub"),
   ("DATE_TRUNC", "TimestampTrunc"), ("DAY", "Day"), ("DEGREES", "Degrees"),
   ("DENSE_RANK", "DenseRank"), ("ENCODE", "Encode"), ("DECODE", "Decode"), ("EXP", "Exp"),
   ("FIRST", "First"), ("FIRST_VALUE", "FirstValue"), ("FLOOR", "Floor"), ("FORMAT", "Format"),
   ("GENERATE_SERIES", "GenerateSeries"), ("GREATEST", "Greatest"),
   ("GROUP_CONCAT", "GroupConcat"), ("HEX", "Hex"), ("IIF", "If"), ("INITCAP", "Initcap"),
   ("JSON_EXTRACT", "JSONExtract"),
   ("JSON_EXTRACT_SCALAR", "JSONExtractScalar"), ("JSON_OBJECT", "JSONObject"), ("LAG", "Lag"),
   ("LAST", "Last"), ("LAST_VALUE", "LastValue"), ("LEAD", "Lead"), ("LEAST", "Least"),
   ("LEFT", "Left"), ("LENGTH", "Length"), ("LEN", "Length"), ("CHAR_LENGTH", "Length"),
   ("CHARACTER_LENGTH", "Length"), ("LEVENSHTEIN", "Levenshtein"), ("LN", "Ln"), ("LOG", "Log"),
   ("LOWER", "Lower"), ("LCASE", "Lower"), ("LPAD", "Pad"), ("LTRIM", "Trim"), ("MAX", "Max"),
   ("MD5", "MD5"), ("MEDIAN", "Median"), ("MIN", "Min"), ("MOD", "Mod"), ("MONTH", "Month"),
   ("NOW", "CurrentTimestamp"), ("NTH_VALUE", "NthValue"), ("NTILE", "Ntile"),
   ("NULLIF", "Nullif"), ("PERCENT_RANK", "PercentRank"), ("PERCENTILE_CONT", "PercentileCont"),
   ("PERCENTILE_DISC", "PercentileDisc"), ("PI", "Pi"), ("POW", "Pow"), ("POWER", "Pow"),
   ("QUANTILE", "Quantile"), ("RADIANS", "Radians"), ("RAND", "Rand"), ("RANDOM", "Rand"),
   ("RANK", "Rank"), ("REGEXP_REPLACE", "RegexpReplace"), ("REPEAT", "Repeat"),
   ("REPLACE", "Replace"), ("REVERSE", "Reverse"), ("RIGHT", "Right"), ("ROUND", "Round"),
   ("ROW_NUMBER", "RowNumber"), ("RPAD", "Pad"), ("RTRIM", "Trim"), ("SHA", "SHA"),
   ("SIGN", "Sign"), ("SIN", "Sin"), ("SPLIT", "Split"), ("SPLIT_PART", "SplitPart"),
   ("SQRT", "Sqrt"), ("STDDEV", "Stddev"), ("STDDEV_POP", "StddevPop"),
   ("STDDEV_SAMP", "StddevSamp"), ("STRING_AGG", "GroupConcat"), ("STRPOS", "StrPosition"),
   ("STRUCT", "Struct"), ("SUBSTR", "Substring"), ("SUBSTRING", "Substring"), ("SUM", "Sum"),
   ("TO_BASE64", "ToBase64"), ("TYPEOF", "Typeof"), ("WIDTH_BUCKET", "WidthBucket"),
   ("TAN", "Tan"), ("TIMESTAMP", "Timestamp"), ("TO_CHAR", "TimeToStr"), ("TO_DATE", "StrToDate"),
   ("TO_NUMBER", "ToNumber"), ("TO_TIMESTAMP", "StrToTime"), ("TRANSLATE", "Translate"),
   ("TRUNC", "Trunc"), ("UNHEX", "Unhex"), ("UNNEST", "Unnest"), ("UPPER", "Upper"),
   ("UCASE", "Upper"), ("UUID", "Uuid"), ("GEN_RANDOM_UUID", "Uuid"), ("VARIANCE", "Variance"),
   ("VAR_POP", "VariancePop"), ("VAR_SAMP", "Variance"), ("WEEK", "Week"), ("YEAR", "Year")]

/-- Functions that are called without parentheses. -/
def bareFunctions : List (String × String) :=
  [("CURRENT_DATE", "CurrentDate"), ("CURRENT_TIME", "CurrentTime"),
   ("CURRENT_TIMESTAMP", "CurrentTimestamp"), ("CURRENT_USER", "CurrentUser"),
   ("CURRENT_CATALOG", "CurrentCatalog"), ("CURRENT_ROLE", "CurrentRole"),
   ("SESSION_USER", "SessionUser"), ("LOCALTIME", "Localtime"),
   ("LOCALTIMESTAMP", "Localtimestamp")]

/-- Reserved words that are names of functions before a parenthesis. -/
def functionWords : List String := ["GLOB", "ILIKE", "INSERT", "LIKE", "MOD", "REGEXP", "RLIKE"]

/-- Names that no parenthesis makes a function of. -/
def plainWords : List String := ["ASC", "DESC", "END", "ESCAPE", "IS", "SET"]

def intervalUnits : List String :=
  ["Y", "YEAR", "YEARS", "YR", "YRS", "Q", "QTR", "QUARTER", "QUARTERS", "MM", "MON", "MONS",
   "MONTH", "MONTHS", "W", "WK", "WEEK", "WEEKS", "D", "DD", "DAY", "DAYS", "H", "HH", "HR", "HRS",
   "HOUR", "HOURS", "M", "MI", "MIN", "MINS", "MINUTE", "MINUTES", "S", "SEC", "SECS", "SECOND",
   "SECONDS", "MS", "MILLISECOND", "MILLISECONDS", "US", "MICROSECOND", "MICROSECONDS", "NS",
   "NANOSECOND", "EPOCH", "DOW", "DOY", "CENTURY", "DECADE", "MILLENNIUM"]

namespace Token

/-- Whether a token is a name when none of its keyword readings applies. -/
def isName (d : Dialect) (t : Token) : Bool :=
  match t.kind with
  | .quoted => true
  | .word => !(reservedWords.contains t.key || d.extraReserved.contains t.key)
  | _ => false

/-- Whether a token is a name where one has to follow. -/
def isAnyName (t : Token) : Bool :=
  match t.kind with
  | .symbol => false
  | .comment => false
  | _ => t.key != "SELECT"

def isType (d : Dialect) (t : Token) : Bool :=
  t.kind = .word && (typeWords.contains t.key || d.extraTypes.contains t.key)

/-- Whether a parenthesis after a token makes a call of it. -/
def isFunction (d : Dialect) (t : Token) : Bool :=
  (t.isName d && !plainWords.contains t.key) ||
    (t.kind = .word && functionWords.contains t.key)

end Token
end Sql
end SchemaLineage
