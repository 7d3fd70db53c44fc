/-!
# Dialects

The databases that are known, and what the names mean that each of them has. A name may stand for
a driver; a dialect also has names for its types, its statements and its parts, and such a name in
the place of a driver is a fault of its own.
-/

namespace Introspection.Database

/-- What a dialect knows by a name. -/
inductive Driver
  | usable
  /-- Known, and blocks while it waits. -/
  | blocking
  /-- Known, and not installed. -/
  | absent
  /-- Known, and something else than a driver. -/
  | noDriver
  deriving DecidableEq, Repr

/-- A kind of database, and the names that it knows. -/
structure Dialect where
  name : String
  usable : List String := []
  blocking : List String := []
  absent : List String := []
  others : List String := []
  deriving DecidableEq, Repr

namespace Dialect

/-- The driver that a dialect takes when none is named. -/
def defaultDriver : String := "base"

/-- The names that everything has. -/
def universalNames : List String :=
  ["__all__", "__builtins__", "__cached__", "__class__", "__delattr__", "__dict__", "__dir__",
    "__doc__", "__eq__", "__file__", "__format__", "__ge__", "__getattribute__", "__getstate__",
    "__gt__", "__hash__", "__init__", "__init_subclass__", "__le__", "__loader__", "__lt__",
    "__name__", "__ne__", "__new__", "__package__", "__path__", "__reduce__", "__reduce_ex__",
    "__repr__", "__setattr__", "__sizeof__", "__spec__", "__str__", "__subclasshook__"]

/-- What `postgresql` knows. -/
def postgresql : Dialect where
  name := "postgresql"
  usable := ["asyncpg"]
  absent := [defaultDriver, "pg8000", "psycopg", "psycopg_async", "psycopg2", "psycopg2cffi"]
  others := ["ARRAY", "AbstractMultiRange", "AbstractRange", "AbstractSingleRange", "All", "Any",
    "BIGINT", "BIT", "BOOLEAN", "BYTEA", "BitString", "CHAR", "CIDR", "CITEXT",
    "CreateDomainType", "CreateEnumType", "DATE", "DATEMULTIRANGE", "DATERANGE", "DOMAIN",
    "DOUBLE_PRECISION", "DropDomainType", "DropEnumType", "ENUM", "ExcludeConstraint", "FLOAT",
    "HSTORE", "INET", "INT4MULTIRANGE", "INT4RANGE", "INT8MULTIRANGE", "INT8RANGE", "INTEGER",
    "INTERVAL", "Insert", "JSON", "JSONB", "JSONPATH", "MACADDR", "MACADDR8", "MONEY",
    "ModuleType", "MultiRange", "NUMERIC", "NUMMULTIRANGE", "NUMRANGE", "NamedType", "OID",
    "REAL", "REGCLASS", "REGCONFIG", "Range", "SMALLINT", "TEXT", "TIME", "TIMESTAMP",
    "TSMULTIRANGE", "TSQUERY", "TSRANGE", "TSTZMULTIRANGE", "TSTZRANGE", "TSVECTOR", "UUID",
    "VARCHAR", "_psycopg_common", "aggregate_order_by", "array", "array_agg", "arraylib",
    "bitstring", "dialect", "distinct_on", "dml", "ext", "hstore", "insert", "json",
    "named_types", "operators", "pg_catalog", "phraseto_tsquery", "plainto_tsquery", "ranges",
    "to_tsquery", "to_tsvector", "ts_headline", "types", "websearch_to_tsquery"]

/-- What `sqlite` knows. -/
def sqlite : Dialect where
  name := "sqlite"
  blocking := [defaultDriver, "pysqlite"]
  absent := ["aiosqlite", "pysqlcipher"]
  others := ["BLOB", "BOOLEAN", "CHAR", "DATE", "DATETIME", "DECIMAL", "FLOAT", "INTEGER",
    "Insert", "JSON", "NUMERIC", "REAL", "SMALLINT", "TEXT", "TIME", "TIMESTAMP", "VARCHAR",
    "dialect", "dml", "insert", "json"]

/-- The drivers that `mysql` and `mariadb` share. -/
def mysqlDrivers : List String :=
  [defaultDriver, "aiomysql", "asyncmy", "cymysql", "mariadbconnector", "mysqlconnector",
    "mysqldb", "pymysql", "pyodbc"]

/-- The parts, not drivers, that `mysql` and `mariadb` share. -/
def mysqlParts : List String :=
  ["_mariadb_shim", "dml", "enumerated", "expression", "json", "mariadb", "reflection",
    "reserved_words", "types"]

/-- What `mysql` knows. -/
def mysql : Dialect where
  name := "mysql"
  absent := mysqlDrivers
  others := mysqlParts ++ ["BIGINT", "BINARY", "BIT", "BLOB", "BOOLEAN", "CHAR", "DATE",
    "DATETIME", "DECIMAL", "DOUBLE", "ENUM", "FLOAT", "INET4", "INET6", "INTEGER", "Insert",
    "JSON", "LONGBLOB", "LONGTEXT", "MEDIUMBLOB", "MEDIUMINT", "MEDIUMTEXT", "NCHAR", "NUMERIC",
    "NVARCHAR", "REAL", "SET", "SMALLINT", "TEXT", "TIME", "TIMESTAMP", "TINYBLOB", "TINYINT",
    "TINYTEXT", "VARBINARY", "VARCHAR", "YEAR", "dialect", "insert", "limit", "match"]

/-- What `mariadb` knows: the parts it shares and nothing of its own. -/
def mariadb : Dialect where
  name := "mariadb"
  absent := mysqlDrivers
  others := mysqlParts ++ ["provision"]

/-- What `oracle` knows. -/
def oracle : Dialect where
  name := "oracle"
  absent := [defaultDriver, "cx_oracle", "oracledb", "oracledb_async"]
  others := ["BFILE", "BINARY_DOUBLE", "BINARY_FLOAT", "BLOB", "BOOLEAN", "CHAR", "CLOB", "DATE",
    "DOUBLE_PRECISION", "FLOAT", "INTERVAL", "JSON", "LONG", "ModuleType", "NCHAR", "NCLOB",
    "NUMBER", "NVARCHAR", "NVARCHAR2", "RAW", "REAL", "ROWID", "SparseVector", "TIMESTAMP",
    "VARCHAR", "VARCHAR2", "VECTOR", "VectorDistanceType", "VectorIndexConfig",
    "VectorIndexType", "VectorStorageFormat", "VectorStorageType", "dialect", "dictionary",
    "json", "types", "vector"]

/-- What `mssql` knows. -/
def mssql : Dialect where
  name := "mssql"
  absent := [defaultDriver, "aioodbc", "mssqlpython", "pymssql", "pyodbc"]
  others := ["BIGINT", "BINARY", "BIT", "CHAR", "DATE", "DATETIME", "DATETIME2",
    "DATETIMEOFFSET", "DECIMAL", "DOUBLE_PRECISION", "FLOAT", "IMAGE", "INTEGER", "JSON",
    "MONEY", "NCHAR", "NTEXT", "NUMERIC", "NVARCHAR", "REAL", "ROWVERSION", "SMALLDATETIME",
    "SMALLINT", "SMALLMONEY", "SQL_VARIANT", "TEXT", "TIME", "TIMESTAMP", "TINYINT",
    "UNIQUEIDENTIFIER", "VARBINARY", "VARCHAR", "XML", "dialect", "information_schema", "json",
    "try_cast"]

/-- The dialects that are known. -/
def all : List Dialect := [postgresql, sqlite, mysql, mariadb, oracle, mssql]

/-- What a dialect knows by a name. -/
def driver? (dialect : Dialect) (name : String) : Option Driver :=
  if name ∈ dialect.usable then some .usable
  else if name ∈ dialect.blocking then some .blocking
  else if name ∈ dialect.absent then some .absent
  else if name ∈ dialect.others ∨ (dialect ≠ mariadb ∧ name ∈ universalNames) then some .noDriver
  else none

/-- The dialect of a name. -/
def named? (name : String) : Option Dialect := all.find? (·.name == name)

end Dialect

end Introspection.Database
