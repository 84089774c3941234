import Passbook.Address

namespace Passbook

inductive Driver
  | file (blocks : Bool)
  | server
  | absent
deriving DecidableEq

structure DatabaseSystem where
  drivers : List (String × Driver)
  otherNames : List String
deriving DecidableEq

namespace DatabaseSystem

def absentDrivers (names : List String) : List (String × Driver) := names.map (·, .absent)

def usualColumns : List String :=
  ["BLOB", "BOOLEAN", "CHAR", "DATE", "DATETIME", "DECIMAL", "FLOAT", "INTEGER", "JSON", "NUMERIC",
   "REAL", "SMALLINT", "TEXT", "TIME", "TIMESTAMP", "VARCHAR"]

def sqlite : DatabaseSystem :=
  ⟨[("base", .file true), ("pysqlite", .file true), ("aiosqlite", .file false),
    ("pysqlcipher", .absent)],
   usualColumns ++ ["Insert", "insert", "dialect", "dml", "json"]⟩

def postgresql : DatabaseSystem :=
  ⟨("asyncpg", .server) ::
    absentDrivers ["base", "psycopg2", "psycopg2cffi", "psycopg", "psycopg_async", "pg8000"],
   ["ARRAY", "AbstractMultiRange", "AbstractRange", "AbstractSingleRange", "All", "Any", "BIGINT",
    "BIT", "BOOLEAN", "BYTEA", "CHAR", "CIDR", "CITEXT", "CreateDomainType", "CreateEnumType",
    "DATE", "DATEMULTIRANGE", "DATERANGE", "DOMAIN", "DOUBLE_PRECISION", "DropDomainType",
    "DropEnumType", "ENUM", "ExcludeConstraint", "FLOAT", "HSTORE", "INET", "INT4MULTIRANGE",
    "INT4RANGE", "INT8MULTIRANGE", "INT8RANGE", "INTEGER", "INTERVAL", "Insert", "JSON", "JSONB",
    "JSONPATH", "MACADDR", "MACADDR8", "MONEY", "ModuleType", "MultiRange", "NUMERIC",
    "NUMMULTIRANGE", "NUMRANGE", "NamedType", "OID", "REAL", "REGCLASS", "REGCONFIG", "Range",
    "SMALLINT", "TEXT", "TIME", "TIMESTAMP", "TSMULTIRANGE", "TSQUERY", "TSRANGE",
    "TSTZMULTIRANGE", "TSTZRANGE", "TSVECTOR", "UUID", "VARCHAR", "aggregate_order_by", "array",
    "array_agg", "arraylib", "dialect", "dml", "ext", "hstore", "insert", "json", "named_types",
    "operators", "pg_catalog", "phraseto_tsquery", "plainto_tsquery", "ranges", "to_tsquery",
    "to_tsvector", "ts_headline", "types", "websearch_to_tsquery"]⟩

def mysqlDrivers : List String :=
  ["base", "mysqldb", "pymysql", "mysqlconnector", "mariadbconnector", "cymysql", "pyodbc",
   "aiomysql", "asyncmy"]

def mysqlParts : List String :=
  ["dml", "enumerated", "expression", "json", "mariadb", "reflection", "reserved_words", "types"]

def mysql : DatabaseSystem :=
  ⟨absentDrivers mysqlDrivers,
   usualColumns ++ mysqlParts ++
    ["BIGINT", "BINARY", "BIT", "DOUBLE", "ENUM", "INET4", "INET6", "Insert", "LONGBLOB",
     "LONGTEXT", "MEDIUMBLOB", "MEDIUMINT", "MEDIUMTEXT", "NCHAR", "NVARCHAR", "SET", "TINYBLOB",
     "TINYINT", "TINYTEXT", "VARBINARY", "YEAR", "dialect", "insert", "match"]⟩

def mariadb : DatabaseSystem := ⟨absentDrivers mysqlDrivers, mysqlParts⟩

def oracle : DatabaseSystem :=
  ⟨absentDrivers ["base", "cx_oracle", "oracledb", "oracledb_async"],
   ["BFILE", "BINARY_DOUBLE", "BINARY_FLOAT", "BLOB", "CHAR", "CLOB", "DATE", "DOUBLE_PRECISION",
    "FLOAT", "INTERVAL", "LONG", "ModuleType", "NCHAR", "NCLOB", "NUMBER", "NVARCHAR",
    "NVARCHAR2", "RAW", "REAL", "ROWID", "TIMESTAMP", "VARCHAR", "VARCHAR2", "dialect",
    "dictionary", "types"]⟩

def mssql : DatabaseSystem :=
  ⟨absentDrivers ["base", "pyodbc", "pymssql", "aioodbc"],
   ["BIGINT", "BINARY", "BIT", "CHAR", "DATE", "DATETIME", "DATETIME2", "DATETIMEOFFSET",
    "DECIMAL", "DOUBLE_PRECISION", "FLOAT", "IMAGE", "INTEGER", "JSON", "MONEY", "NCHAR", "NTEXT",
    "NUMERIC", "NVARCHAR", "REAL", "ROWVERSION", "SMALLDATETIME", "SMALLINT", "SMALLMONEY",
    "SQL_VARIANT", "TEXT", "TIME", "TIMESTAMP", "TINYINT", "UNIQUEIDENTIFIER", "VARBINARY",
    "VARCHAR", "XML", "dialect", "information_schema", "json", "try_cast"]⟩

def all : List (String × DatabaseSystem) :=
  [("sqlite", sqlite), ("postgresql", postgresql), ("mysql", mysql), ("mariadb", mariadb),
   ("oracle", oracle), ("mssql", mssql)]

def driver (system : DatabaseSystem) (name : String) : Except AddressFault Driver :=
  match system.drivers.find? (·.1 == name) with
  | some (_, driver) => .ok driver
  | none => .error (if system.otherNames.contains name then .notADriver else .unknownName)

end DatabaseSystem

namespace Driver

def usualName : String := "base"

def ofSystem (system driver : String) : Except AddressFault Driver :=
  match DatabaseSystem.all.find? (·.1 == system) with
  | some (_, system) => system.driver driver
  | none => .error .unknownName

def named (name : String) : Except AddressFault Driver :=
  match (Text.splitAtMarks '+' name.toList).map String.ofList with
  | [system] => ofSystem system usualName
  | [system, driver] => ofSystem system driver
  | _ => .error .tooManyNames

end Driver

end Passbook
