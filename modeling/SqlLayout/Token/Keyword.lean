import SqlLayout.Text.Basic

/-!
# Keywords

The reserved and semi-reserved words that the grammar distinguishes, each with its spelling, and the
two word lists that only decide letter case: built-in functions and built-in types. Words are
recognised in any ASCII case.
-/

namespace SqlLayout

/-- A word with a role of its own in the grammar. -/
inductive Keyword where
  | ALL | AND | ANY | ARRAY | AS | ASC | BEGIN | BETWEEN | BY | CALL | CASCADE | CASE | CAST
  | CHECK | COLLATE | COLUMN | COMMIT | CONFLICT | CONSTANT | CONSTRAINT | CONTINUE | CREATE
  | CROSS | CURRENT_DATE | CURRENT_TIMESTAMP | CURRENT_USER | DECLARE | DEFAULT | DELETE | DESC
  | DISTINCT | DO | DROP | ELSE | ELSIF | END | EXCEPT | EXCEPTION | EXECUTE | EXISTS | EXIT
  | FALSE | FETCH | FILTER | FIRST | FOR | FOREACH | FOREIGN | FROM | FULL | FUNCTION | GROUP
  | HAVING | IF | ILIKE | IMMUTABLE | IN | INNER | INOUT | INSERT | INTERSECT | INTERVAL | INTO
  | IS | ISNULL | ISOLATION | JOIN | KEY | LANGUAGE | LAST | LATERAL | LEFT | LIKE | LIMIT | LOOP
  | NATURAL | NEXT | NOT | NOTHING | NOTNULL | NULL | NULLS | OFFSET | ON | ONLY | OR | ORDER
  | OUT | OUTER | OVER | PARTITION | PERFORM | PRIMARY | PROCEDURE | QUERY | RAISE | RECURSIVE
  | REFERENCES | REPLACE | RETURN | RETURNING | RETURNS | REVERSE | RIGHT | ROLLBACK | ROWS
  | SELECT | SET | SETOF | SIMILAR | SOME | STABLE | STRICT | TABLE | TEMP | TEMPORARY | THEN | TO
  | TRANSACTION | TRIGGER | TRUE | UNION | UNIQUE | UNLOGGED | UPDATE | USING | VALUES | VARIADIC
  | VIEW | VOLATILE | WHEN | WHERE | WHILE | WINDOW | WITH | WITHIN | WORK
  deriving DecidableEq, Inhabited

namespace Keyword

/-- All keywords, in the order of their codes. -/
def all : List Keyword := [
  .ALL, .AND, .ANY, .ARRAY, .AS, .ASC, .BEGIN, .BETWEEN, .BY, .CALL, .CASCADE, .CASE, .CAST,
  .CHECK, .COLLATE, .COLUMN, .COMMIT, .CONFLICT, .CONSTANT, .CONSTRAINT, .CONTINUE, .CREATE,
  .CROSS, .CURRENT_DATE, .CURRENT_TIMESTAMP, .CURRENT_USER, .DECLARE, .DEFAULT, .DELETE, .DESC,
  .DISTINCT, .DO, .DROP, .ELSE, .ELSIF, .END, .EXCEPT, .EXCEPTION, .EXECUTE, .EXISTS, .EXIT,
  .FALSE, .FETCH, .FILTER, .FIRST, .FOR, .FOREACH, .FOREIGN, .FROM, .FULL, .FUNCTION, .GROUP,
  .HAVING, .IF, .ILIKE, .IMMUTABLE, .IN, .INNER, .INOUT, .INSERT, .INTERSECT, .INTERVAL, .INTO,
  .IS, .ISNULL, .ISOLATION, .JOIN, .KEY, .LANGUAGE, .LAST, .LATERAL, .LEFT, .LIKE, .LIMIT, .LOOP,
  .NATURAL, .NEXT, .NOT, .NOTHING, .NOTNULL, .NULL, .NULLS, .OFFSET, .ON, .ONLY, .OR, .ORDER,
  .OUT, .OUTER, .OVER, .PARTITION, .PERFORM, .PRIMARY, .PROCEDURE, .QUERY, .RAISE, .RECURSIVE,
  .REFERENCES, .REPLACE, .RETURN, .RETURNING, .RETURNS, .REVERSE, .RIGHT, .ROLLBACK, .ROWS,
  .SELECT, .SET, .SETOF, .SIMILAR, .SOME, .STABLE, .STRICT, .TABLE, .TEMP, .TEMPORARY, .THEN, .TO,
  .TRANSACTION, .TRIGGER, .TRUE, .UNION, .UNIQUE, .UNLOGGED, .UPDATE, .USING, .VALUES, .VARIADIC,
  .VIEW, .VOLATILE, .WHEN, .WHERE, .WHILE, .WINDOW, .WITH, .WITHIN, .WORK]

/-- The keyword as it is written in capitals. -/
def spelling : Keyword → String
  | .ALL => "ALL"
  | .AND => "AND"
  | .ANY => "ANY"
  | .ARRAY => "ARRAY"
  | .AS => "AS"
  | .ASC => "ASC"
  | .BEGIN => "BEGIN"
  | .BETWEEN => "BETWEEN"
  | .BY => "BY"
  | .CALL => "CALL"
  | .CASCADE => "CASCADE"
  | .CASE => "CASE"
  | .CAST => "CAST"
  | .CHECK => "CHECK"
  | .COLLATE => "COLLATE"
  | .COLUMN => "COLUMN"
  | .COMMIT => "COMMIT"
  | .CONFLICT => "CONFLICT"
  | .CONSTANT => "CONSTANT"
  | .CONSTRAINT => "CONSTRAINT"
  | .CONTINUE => "CONTINUE"
  | .CREATE => "CREATE"
  | .CROSS => "CROSS"
  | .CURRENT_DATE => "CURRENT_DATE"
  | .CURRENT_TIMESTAMP => "CURRENT_TIMESTAMP"
  | .CURRENT_USER => "CURRENT_USER"
  | .DECLARE => "DECLARE"
  | .DEFAULT => "DEFAULT"
  | .DELETE => "DELETE"
  | .DESC => "DESC"
  | .DISTINCT => "DISTINCT"
  | .DO => "DO"
  | .DROP => "DROP"
  | .ELSE => "ELSE"
  | .ELSIF => "ELSIF"
  | .END => "END"
  | .EXCEPT => "EXCEPT"
  | .EXCEPTION => "EXCEPTION"
  | .EXECUTE => "EXECUTE"
  | .EXISTS => "EXISTS"
  | .EXIT => "EXIT"
  | .FALSE => "FALSE"
  | .FETCH => "FETCH"
  | .FILTER => "FILTER"
  | .FIRST => "FIRST"
  | .FOR => "FOR"
  | .FOREACH => "FOREACH"
  | .FOREIGN => "FOREIGN"
  | .FROM => "FROM"
  | .FULL => "FULL"
  | .FUNCTION => "FUNCTION"
  | .GROUP => "GROUP"
  | .HAVING => "HAVING"
  | .IF => "IF"
  | .ILIKE => "ILIKE"
  | .IMMUTABLE => "IMMUTABLE"
  | .IN => "IN"
  | .INNER => "INNER"
  | .INOUT => "INOUT"
  | .INSERT => "INSERT"
  | .INTERSECT => "INTERSECT"
  | .INTERVAL => "INTERVAL"
  | .INTO => "INTO"
  | .IS => "IS"
  | .ISNULL => "ISNULL"
  | .ISOLATION => "ISOLATION"
  | .JOIN => "JOIN"
  | .KEY => "KEY"
  | .LANGUAGE => "LANGUAGE"
  | .LAST => "LAST"
  | .LATERAL => "LATERAL"
  | .LEFT => "LEFT"
  | .LIKE => "LIKE"
  | .LIMIT => "LIMIT"
  | .LOOP => "LOOP"
  | .NATURAL => "NATURAL"
  | .NEXT => "NEXT"
  | .NOT => "NOT"
  | .NOTHING => "NOTHING"
  | .NOTNULL => "NOTNULL"
  | .NULL => "NULL"
  | .NULLS => "NULLS"
  | .OFFSET => "OFFSET"
  | .ON => "ON"
  | .ONLY => "ONLY"
  | .OR => "OR"
  | .ORDER => "ORDER"
  | .OUT => "OUT"
  | .OUTER => "OUTER"
  | .OVER => "OVER"
  | .PARTITION => "PARTITION"
  | .PERFORM => "PERFORM"
  | .PRIMARY => "PRIMARY"
  | .PROCEDURE => "PROCEDURE"
  | .QUERY => "QUERY"
  | .RAISE => "RAISE"
  | .RECURSIVE => "RECURSIVE"
  | .REFERENCES => "REFERENCES"
  | .REPLACE => "REPLACE"
  | .RETURN => "RETURN"
  | .RETURNING => "RETURNING"
  | .RETURNS => "RETURNS"
  | .REVERSE => "REVERSE"
  | .RIGHT => "RIGHT"
  | .ROLLBACK => "ROLLBACK"
  | .ROWS => "ROWS"
  | .SELECT => "SELECT"
  | .SET => "SET"
  | .SETOF => "SETOF"
  | .SIMILAR => "SIMILAR"
  | .SOME => "SOME"
  | .STABLE => "STABLE"
  | .STRICT => "STRICT"
  | .TABLE => "TABLE"
  | .TEMP => "TEMP"
  | .TEMPORARY => "TEMPORARY"
  | .THEN => "THEN"
  | .TO => "TO"
  | .TRANSACTION => "TRANSACTION"
  | .TRIGGER => "TRIGGER"
  | .TRUE => "TRUE"
  | .UNION => "UNION"
  | .UNIQUE => "UNIQUE"
  | .UNLOGGED => "UNLOGGED"
  | .UPDATE => "UPDATE"
  | .USING => "USING"
  | .VALUES => "VALUES"
  | .VARIADIC => "VARIADIC"
  | .VIEW => "VIEW"
  | .VOLATILE => "VOLATILE"
  | .WHEN => "WHEN"
  | .WHERE => "WHERE"
  | .WHILE => "WHILE"
  | .WINDOW => "WINDOW"
  | .WITH => "WITH"
  | .WITHIN => "WITHIN"
  | .WORK => "WORK"

/-- Words that stand for a keyword with another spelling. -/
def aliases : List (String × Keyword) := [("ELSEIF", ELSIF)]

/-- The keyword that a word spells, in any case. -/
def ofWord? (word : Text) : Option Keyword :=
  let capitals := String.ofList (Text.asciiUpper word)
  (all.find? fun k => k.spelling == capitals).orElse fun _ => aliases.lookup capitals

end Keyword

/-- Names of the functions that take the configured function case. -/
def builtinFunctions : List String := [
  "abs", "age", "array_agg", "array_length", "array_to_string", "avg", "bool_and", "bool_or",
  "ceil", "ceiling", "char_length", "coalesce", "concat", "concat_ws", "count", "current_setting",
  "date_part", "date_trunc", "dense_rank", "extract", "first_value", "floor", "format",
  "generate_series", "greatest", "json_agg", "json_build_object", "jsonb_agg",
  "jsonb_build_object", "jsonb_set", "lag", "last_value", "lead", "least", "length", "lower",
  "lpad", "ltrim", "max", "md5", "min", "mod", "now", "nullif", "ntile", "percentile_cont",
  "position", "power", "random", "rank", "regexp_replace", "round", "row_number", "rpad", "rtrim",
  "split_part", "sqrt", "string_agg", "strpos", "substr", "substring", "sum", "to_char",
  "to_date", "to_json", "to_jsonb", "to_number", "to_timestamp", "trim", "trunc", "unnest",
  "upper"]

/-- Names of the built-in types, with the words of types that have several. -/
def builtinTypes : List String := [
  "bigint", "bigserial", "bit", "bool", "boolean", "box", "bytea", "char", "character", "cidr",
  "date", "decimal", "double", "float", "float4", "float8", "inet", "int", "int2", "int4", "int8",
  "integer", "interval", "json", "jsonb", "macaddr", "money", "numeric", "oid", "precision",
  "real", "record", "refcursor", "regclass", "serial", "smallint", "smallserial", "text", "time",
  "timestamp", "timestamptz", "timetz", "tsquery", "tsvector", "uuid", "varbit", "varchar",
  "varying", "void", "xml", "zone"]

/-- Whether a word names a built-in function, in any case. -/
def isBuiltinFunction (word : Text) : Bool :=
  builtinFunctions.contains (String.ofList (Text.asciiLower word))

/-- Whether a word names a built-in type, in any case. -/
def isBuiltinType (word : Text) : Bool :=
  builtinTypes.contains (String.ofList (Text.asciiLower word))

end SqlLayout
