import Querent.Text.Case

/-!
# Keywords

The words that the reader of queries may give a meaning to.  Few of them are reserved: a keyword is
a plain name wherever its meaning is not asked for.  A keyword is known by its upper-case spelling.
-/

namespace Querent.Sql

/-- A keyword, by its upper-case spelling. -/
abbrev Keyword := String

namespace Keyword

/-- The keywords that start with a given letter. -/
def startingWith : Char → List Keyword
  | 'A' =>
    ["ABORT", "ABS", "ABSOLUTE", "ACTION", "ADD", "ADMIN", "AGAINST", "ALL", "ALLOCATE", "ALTER",
      "ALWAYS", "ANALYZE", "AND", "ANTI", "ANY", "APPLY", "ARCHIVE", "ARE", "ARRAY", "ARRAY_AGG",
      "ARRAY_MAX_CARDINALITY", "AS", "ASC", "ASENSITIVE", "ASSERT", "ASYMMETRIC", "AT", "ATOMIC",
      "ATTACH", "AUTHORIZATION", "AUTO", "AUTOINCREMENT", "AUTO_INCREMENT", "AVG", "AVRO"]
  | 'B' =>
    ["BACKWARD", "BASE64", "BEGIN", "BEGIN_FRAME", "BEGIN_PARTITION", "BETWEEN", "BIGDECIMAL",
      "BIGINT", "BIGNUMERIC", "BINARY", "BLOB", "BOOLEAN", "BOTH", "BTREE", "BY", "BYPASSRLS",
      "BYTEA", "BYTES"]
  | 'C' =>
    ["CACHE", "CALL", "CALLED", "CARDINALITY", "CASCADE", "CASCADED", "CASE", "CAST", "CEIL",
      "CEILING", "CENTURY", "CHAIN", "CHANGE", "CHANNEL", "CHAR", "CHARACTER", "CHARACTERS",
      "CHARACTER_LENGTH", "CHARSET", "CHAR_LENGTH", "CHECK", "CLOB", "CLONE", "CLOSE", "CLUSTER",
      "COALESCE", "COLLATE", "COLLATION", "COLLECT", "COLUMN", "COLUMNS", "COMMENT", "COMMIT",
      "COMMITTED", "COMPRESSION", "COMPUTE", "CONDITION", "CONFLICT", "CONNECT", "CONNECTION",
      "CONSTRAINT", "CONTAINS", "CONVERT", "COPY", "COPY_OPTIONS", "CORR", "CORRESPONDING",
      "COUNT", "COVAR_POP", "COVAR_SAMP", "CREATE", "CREATEDB", "CREATEROLE", "CREDENTIALS",
      "CROSS", "CSV", "CUBE", "CUME_DIST", "CURRENT", "CURRENT_CATALOG", "CURRENT_DATE",
      "CURRENT_DEFAULT_TRANSFORM_GROUP", "CURRENT_PATH", "CURRENT_ROLE", "CURRENT_ROW",
      "CURRENT_SCHEMA", "CURRENT_TIME", "CURRENT_TIMESTAMP", "CURRENT_TRANSFORM_GROUP_FOR_TYPE",
      "CURRENT_USER", "CURSOR", "CYCLE"]
  | 'D' =>
    ["DATA", "DATABASE", "DATA_RETENTION_TIME_IN_DAYS", "DATE", "DATETIME", "DAY", "DAYOFWEEK",
      "DAYOFYEAR", "DEALLOCATE", "DEC", "DECADE", "DECIMAL", "DECLARE", "DEFAULT",
      "DEFAULT_DDL_COLLATION", "DEFERRABLE", "DEFERRED", "DELAYED", "DELETE", "DELIMITED",
      "DELIMITER", "DENSE_RANK", "DEREF", "DESC", "DESCRIBE", "DETAIL", "DETERMINISTIC",
      "DIRECTORY", "DISABLE", "DISCARD", "DISCONNECT", "DISTINCT", "DISTRIBUTE", "DIV", "DO",
      "DOUBLE", "DOW", "DOY", "DROP", "DUPLICATE", "DYNAMIC"]
  | 'E' =>
    ["EACH", "ELEMENT", "ELEMENTS", "ELSE", "ENABLE", "ENCODING", "ENCRYPTION", "END", "END_EXEC",
      "ENDPOINT", "END_FRAME", "END_PARTITION", "ENFORCED", "ENGINE", "ENUM", "EPOCH", "EQUALS",
      "ERROR", "ESCAPE", "ESCAPED", "EVENT", "EVERY", "EXCEPT", "EXCLUDE", "EXCLUSIVE", "EXEC",
      "EXECUTE", "EXISTS", "EXP", "EXPANSION", "EXPLAIN", "EXTENDED", "EXTENSION", "EXTERNAL",
      "EXTRACT"]
  | 'F' =>
    ["FAIL", "FALSE", "FETCH", "FIELDS", "FILE", "FILE_FORMAT", "FILTER", "FIRST", "FIRST_VALUE",
      "FLOAT", "FLOAT4", "FLOAT64", "FLOAT8", "FLOOR", "FOLLOWING", "FOR", "FORCE",
      "FORCE_NOT_NULL", "FORCE_NULL", "FORCE_QUOTE", "FOREIGN", "FORMAT", "FORWARD", "FRAME_ROW",
      "FREE", "FREEZE", "FROM", "FSCK", "FULL", "FULLTEXT", "FUNCTION", "FUNCTIONS", "FUSION"]
  | 'G' =>
    ["GENERATE", "GENERATED", "GEOGRAPHY", "GET", "GLOBAL", "GRANT", "GRANTED", "GRAPHVIZ",
      "GROUP", "GROUPING", "GROUPS"]
  | 'H' => ["HASH", "HAVING", "HEADER", "HIVEVAR", "HOLD", "HOUR"]
  | 'I' =>
    ["IDENTITY", "IF", "IGNORE", "ILIKE", "IMMEDIATE", "IMMUTABLE", "IN", "INCLUDE", "INCREMENT",
      "INDEX", "INDICATOR", "INHERIT", "INNER", "INOUT", "INPUTFORMAT", "INSENSITIVE", "INSERT",
      "INT", "INT2", "INT4", "INT64", "INT8", "INTEGER", "INTERSECT", "INTERSECTION", "INTERVAL",
      "INTO", "IS", "ISODOW", "ISOLATION", "ISOWEEK", "ISOYEAR"]
  | 'J' => ["JAR", "JOIN", "JSON", "JSONFILE", "JULIAN"]
  | 'K' => ["KEY", "KILL"]
  | 'L' =>
    ["LAG", "LANGUAGE", "LARGE", "LAST", "LAST_VALUE", "LATERAL", "LEAD", "LEADING", "LEFT",
      "LEVEL", "LIKE", "LIKE_REGEX", "LIMIT", "LISTAGG", "LN", "LOCAL", "LOCALTIME",
      "LOCALTIMESTAMP", "LOCATION", "LOCK", "LOCKED", "LOGIN", "LOWER", "LOW_PRIORITY"]
  | 'M' =>
    ["MACRO", "MANAGEDLOCATION", "MATCH", "MATCHED", "MATERIALIZED", "MAX", "MAXVALUE",
      "MAX_DATA_EXTENSION_TIME_IN_DAYS", "MEDIUMINT", "MEMBER", "MERGE", "METADATA", "METHOD",
      "MICROSECOND", "MICROSECONDS", "MILLENIUM", "MILLENNIUM", "MILLISECOND", "MILLISECONDS",
      "MIN", "MINUTE", "MINVALUE", "MOD", "MODE", "MODIFIES", "MODULE", "MONTH", "MSCK",
      "MULTISET", "MUTATION"]
  | 'N' =>
    ["NAME", "NANOSECOND", "NANOSECONDS", "NATIONAL", "NATURAL", "NCHAR", "NCLOB", "NEW", "NEXT",
      "NO", "NOBYPASSRLS", "NOCREATEDB", "NOCREATEROLE", "NOINHERIT", "NOLOGIN", "NONE",
      "NOREPLICATION", "NORMALIZE", "NOSCAN", "NOSUPERUSER", "NOT", "NOTHING", "NOWAIT",
      "NO_WRITE_TO_BINLOG", "NTH_VALUE", "NTILE", "NULL", "NULLIF", "NULLS", "NUMERIC",
      "NVARCHAR"]
  | 'O' =>
    ["OBJECT", "OCCURRENCES_REGEX", "OCTETS", "OCTET_LENGTH", "OF", "OFFSET", "OLD", "ON", "ONLY",
      "OPEN", "OPERATOR", "OPTION", "OPTIONS", "OR", "ORC", "ORDER", "OUT", "OUTER",
      "OUTPUTFORMAT", "OVER", "OVERFLOW", "OVERLAPS", "OVERLAY", "OVERWRITE", "OWNED"]
  | 'P' =>
    ["PARAMETER", "PARQUET", "PARTITION", "PARTITIONED", "PARTITIONS", "PASSWORD", "PATH",
      "PERCENT", "PERCENTILE_CONT", "PERCENTILE_DISC", "PERCENT_RANK", "PERIOD", "PERSISTENT",
      "PIVOT", "PLACING", "PLANS", "PORTION", "POSITION", "POSITION_REGEX", "POWER", "PRAGMA",
      "PRECEDES", "PRECEDING", "PRECISION", "PREPARE", "PRESERVE", "PRIMARY", "PRIOR",
      "PRIVILEGES", "PROCEDURE", "PROGRAM", "PURGE"]
  | 'Q' => ["QUALIFY", "QUARTER", "QUERY", "QUOTE"]
  | 'R' =>
    ["RANGE", "RANK", "RCFILE", "READ", "READS", "REAL", "RECURSIVE", "REF", "REFERENCES",
      "REFERENCING", "REGCLASS", "REGEXP", "REGR_AVGX", "REGR_AVGY", "REGR_COUNT",
      "REGR_INTERCEPT", "REGR_R2", "REGR_SLOPE", "REGR_SXX", "REGR_SXY", "REGR_SYY", "RELATIVE",
      "RELEASE", "RENAME", "REORG", "REPAIR", "REPEATABLE", "REPLACE", "REPLICATION", "RESET",
      "RESPECT", "RESTRICT", "RESULT", "RETAIN", "RETURN", "RETURNING", "RETURNS", "REVOKE",
      "RIGHT", "RLIKE", "ROLE", "ROLLBACK", "ROLLUP", "ROOT", "ROW", "ROWID", "ROWS",
      "ROW_NUMBER"]
  | 'S' =>
    ["SAFE_CAST", "SAVEPOINT", "SCHEMA", "SCHEMAS", "SCOPE", "SCROLL", "SEARCH", "SECOND",
      "SELECT", "SEMI", "SENSITIVE", "SEQUENCE", "SEQUENCEFILE", "SEQUENCES", "SERDE",
      "SERIALIZABLE", "SESSION", "SESSION_USER", "SET", "SETS", "SHARE", "SHOW", "SIMILAR",
      "SKIP", "SLOW", "SMALLINT", "SNAPSHOT", "SOME", "SORT", "SPATIAL", "SPECIFIC",
      "SPECIFICTYPE", "SQL", "SQLEXCEPTION", "SQLSTATE", "SQLWARNING", "SQRT", "STABLE", "STAGE",
      "START", "STATIC", "STATISTICS", "STDDEV_POP", "STDDEV_SAMP", "STDIN", "STDOUT",
      "STORAGE_INTEGRATION", "STORED", "STRICT", "STRING", "STRUCT", "SUBMULTISET", "SUBSTRING",
      "SUBSTRING_REGEX", "SUCCEEDS", "SUM", "SUPER", "SUPERUSER", "SWAP", "SYMMETRIC", "SYNC",
      "SYSTEM", "SYSTEM_TIME", "SYSTEM_USER"]
  | 'T' =>
    ["TABLE", "TABLES", "TABLESAMPLE", "TBLPROPERTIES", "TEMP", "TEMPORARY", "TERMINATED", "TEXT",
      "TEXTFILE", "THEN", "TIES", "TIME", "TIMESTAMP", "TIMESTAMPTZ", "TIMETZ", "TIMEZONE",
      "TIMEZONE_HOUR", "TIMEZONE_MINUTE", "TINYINT", "TO", "TOP", "TRAILING", "TRANSACTION",
      "TRANSIENT", "TRANSLATE", "TRANSLATE_REGEX", "TRANSLATION", "TREAT", "TRIGGER", "TRIM",
      "TRIM_ARRAY", "TRUE", "TRUNCATE", "TRY_CAST", "TYPE"]
  | 'U' =>
    ["UESCAPE", "UNBOUNDED", "UNCACHE", "UNCOMMITTED", "UNION", "UNIQUE", "UNKNOWN", "UNLOGGED",
      "UNNEST", "UNPIVOT", "UNSIGNED", "UNTIL", "UPDATE", "UPPER", "URL", "USAGE", "USE", "USER",
      "USING", "UUID"]
  | 'V' =>
    ["VACUUM", "VALID", "VALIDATION_MODE", "VALUE", "VALUES", "VALUE_OF", "VARBINARY", "VARCHAR",
      "VARIABLES", "VARYING", "VAR_POP", "VAR_SAMP", "VERBOSE", "VERSION", "VERSIONING", "VIEW",
      "VIRTUAL", "VOLATILE"]
  | 'W' =>
    ["WEEK", "WHEN", "WHENEVER", "WHERE", "WIDTH_BUCKET", "WINDOW", "WITH", "WITHIN", "WITHOUT",
      "WORK", "WRITE"]
  | 'X' => ["XOR"]
  | 'Y' => ["YEAR"]
  | 'Z' => ["ZONE"]
  | _ => []

/-- The keyword that a word spells in any letter case, if it spells one. -/
def ofSpelling? (word : List Char) : Option Keyword :=
  match Text.upper word with
  | [] => none
  | initial :: rest =>
    let spelling := String.ofList (initial :: rest)
    (startingWith initial).find? (· == spelling)

/-- Words that end a table in `FROM` rather than name it. -/
def endingTable : List Keyword :=
  ["WITH", "EXPLAIN", "ANALYZE", "SELECT", "WHERE", "GROUP", "SORT", "HAVING", "ORDER", "PIVOT",
    "UNPIVOT", "TOP", "LATERAL", "VIEW", "LIMIT", "OFFSET", "FETCH", "UNION", "EXCEPT",
    "INTERSECT", "ON", "JOIN", "INNER", "CROSS", "FULL", "LEFT", "RIGHT", "NATURAL", "USING",
    "CLUSTER", "DISTRIBUTE", "OUTER", "SET", "QUALIFY", "WINDOW", "END", "PARTITION"]

/-- Words that end a selected column rather than name it. -/
def endingColumn : List Keyword :=
  ["WITH", "EXPLAIN", "ANALYZE", "SELECT", "WHERE", "GROUP", "SORT", "HAVING", "ORDER", "TOP",
    "LATERAL", "VIEW", "LIMIT", "OFFSET", "FETCH", "UNION", "EXCEPT", "INTERSECT", "CLUSTER",
    "DISTRIBUTE", "FROM", "INTO", "END"]

end Keyword

end Querent.Sql
