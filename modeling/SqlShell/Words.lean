import SqlShell.Keyword

namespace SqlShell.Words

/-- Each word once, in rising order of units. -/
def sorted (words : List Text) : List Text :=
  words.eraseDups.mergeSort (fun a b => !b.before a)

/-- Names of column types. -/
def types : List String :=
  ["ANY", "BIGINT", "BLOB", "BOOLEAN", "CHAR", "CLOB", "DATE", "DATETIME", "DECIMAL", "DOUBLE",
   "FLOAT", "INT", "INTEGER", "NCHAR", "NUMERIC", "NVARCHAR", "REAL", "SMALLINT", "TEXT",
   "TINYINT", "VARCHAR"]

/-- Keywords of several words, offered as one. -/
def phrases : List String :=
  ["DELETE FROM", "DOUBLE PRECISION", "GROUP BY", "INNER JOIN", "INSERT INTO", "LEFT JOIN",
   "LEFT OUTER JOIN", "NULLS FIRST", "NULLS LAST", "ORDER BY", "PARTITION BY", "PRIMARY KEY",
   "RIGHT JOIN", "UNION ALL", "WITHOUT ROWID"]

def scalarFunctions : List String :=
  ["ABS", "CHANGES", "CHAR", "COALESCE", "CONCAT", "CONCAT_WS", "FORMAT", "GLOB", "HEX",
   "IFNULL", "IIF", "INSTR", "LAST_INSERT_ROWID", "LENGTH", "LIKE", "LIKELIHOOD", "LIKELY",
   "LOAD_EXTENSION", "LOWER", "LTRIM", "MAX", "MIN", "NULLIF", "OCTET_LENGTH", "PRINTF", "QUOTE",
   "RANDOM", "RANDOMBLOB", "REPLACE", "ROUND", "RTRIM", "SIGN", "SOUNDEX",
   "SQLITE_COMPILEOPTION_GET", "SQLITE_COMPILEOPTION_USED", "SQLITE_OFFSET", "SQLITE_SOURCE_ID",
   "SQLITE_VERSION", "SUBSTR", "SUBSTRING", "TOTAL_CHANGES", "TRIM", "TYPEOF", "UNHEX",
   "UNICODE", "UNLIKELY", "UPPER", "ZEROBLOB"]

def aggregateFunctions : List String :=
  ["AVG", "COUNT", "GROUP_CONCAT", "STRING_AGG", "SUM", "TOTAL"]

def windowFunctions : List String :=
  ["CUME_DIST", "DENSE_RANK", "FIRST_VALUE", "LAG", "LAST_VALUE", "LEAD", "NTH_VALUE", "NTILE",
   "PERCENT_RANK", "RANK", "ROW_NUMBER"]

def datetimeFunctions : List String :=
  ["DATE", "DATETIME", "JULIANDAY", "STRFTIME", "TIME", "TIMEDIFF", "UNIXEPOCH"]

def mathFunctions : List String :=
  ["ACOS", "ACOSH", "ASIN", "ASINH", "ATAN", "ATAN2", "ATANH", "CEIL", "CEILING", "COS", "COSH",
   "DEGREES", "EXP", "FLOOR", "LN", "LOG", "LOG10", "LOG2", "MOD", "PI", "POW", "POWER",
   "RADIANS", "SIN", "SINH", "SQRT", "TAN", "TANH", "TRUNC"]

def jsonFunctions : List String :=
  ["JSON", "JSON_ARRAY", "JSON_ARRAY_LENGTH", "JSON_EACH", "JSON_ERROR_POSITION", "JSON_EXTRACT",
   "JSON_GROUP_ARRAY", "JSON_GROUP_OBJECT", "JSON_INSERT", "JSON_OBJECT", "JSON_PATCH",
   "JSON_QUOTE", "JSON_REMOVE", "JSON_REPLACE", "JSON_SET", "JSON_TREE", "JSON_TYPE",
   "JSON_VALID"]

def builtinFunctions : List String :=
  scalarFunctions ++ aggregateFunctions ++ windowFunctions ++ datetimeFunctions
    ++ mathFunctions ++ jsonFunctions

def builtinPragmas : List String :=
  ["analysis_limit", "application_id", "auto_vacuum", "automatic_index", "busy_timeout",
   "cache_size", "cache_spill", "case_sensitive_like", "cell_size_check", "checkpoint_fullfsync",
   "collation_list", "compile_options", "data_version", "database_list", "defer_foreign_keys",
   "encoding", "foreign_key_check", "foreign_key_list", "foreign_keys", "freelist_count",
   "fullfsync", "function_list", "hard_heap_limit", "ignore_check_constraints",
   "incremental_vacuum", "index_info", "index_list", "index_xinfo", "integrity_check",
   "journal_mode", "journal_size_limit", "legacy_alter_table", "locking_mode", "max_page_count",
   "mmap_size", "module_list", "optimize", "page_count", "page_size", "pragma_list",
   "query_only", "quick_check", "read_uncommitted", "recursive_triggers",
   "reverse_unordered_selects", "secure_delete", "shrink_memory", "soft_heap_limit",
   "synchronous", "table_info", "table_list", "table_xinfo", "temp_store", "threads",
   "trusted_schema", "user_version", "wal_autocheckpoint", "wal_checkpoint"]

/-- What can begin a statement. -/
def statements : List Text := sorted (Keyword.statementStarts.map Keyword.text)

/-- Every keyword, type name and phrase. -/
def keywords : List Text :=
  sorted (Keyword.all.map Keyword.text ++ types.map Text.ofString ++ phrases.map Text.ofString)

def functions : List Text := sorted (builtinFunctions.map Text.ofString)

def pragmas : List Text := sorted (builtinPragmas.map Text.ofString)

/-- Whether a word is a keyword in any letter case. -/
def isReserved (word : Text) : Bool := (Keyword.ofWord? word).isSome

/-- Whether a name is that of a built-in function in any letter case. -/
def isBuiltinFunction (name : Text) : Bool := functions.contains name.upper

end SqlShell.Words
