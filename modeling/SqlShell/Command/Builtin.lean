import SqlShell.Command.Registry
import SqlShell.Database.Basic

namespace SqlShell

inductive Builtin where
  | help | exit | tables | views | schema | indexes | databases | describe | status | refresh
  deriving DecidableEq, Repr

structure CommandOutput where
  columns : List Text
  rows : List (List Text)
  status : Text
  exit : Bool := false

/-- What a command can look at and use. -/
structure CommandContext (σ : Type) where
  connection : Connection σ
  databasePath : Text
  /-- Reads the schema anew. -/
  refresh : World σ → World σ
  listing : List CommandEntry

def CommandOutput.table (columns : List Text) (rows : List (List Text)) : CommandOutput :=
  ⟨columns, rows, rowsInSet rows.length, false⟩

namespace Builtin

def tablesSql : Text :=
  .concat [
    "SELECT name FROM sqlite_master WHERE type = 'table' AND name NOT LIKE 'sqlite_%' ",
    "AND name LIKE ? ORDER BY name"]

def viewsSql : Text :=
  "SELECT name FROM sqlite_master WHERE type = 'view' AND name LIKE ? ORDER BY name"

def schemaSql : Text :=
  .concat [
    "SELECT sql FROM sqlite_master WHERE sql IS NOT NULL AND name NOT LIKE 'sqlite_%' ",
    "AND (? = '' OR tbl_name = ?) ORDER BY tbl_name, type DESC, name"]

def indexesSql : Text :=
  .concat [
    "SELECT tbl_name, name FROM sqlite_master WHERE type = 'index' ",
    "AND (? = '' OR tbl_name = ?) ORDER BY tbl_name, name"]

def databasesSql : Text := "PRAGMA database_list"

def versionSql : Text := "SELECT sqlite_version()"

def describedColumns (verbose : Bool) : List Text :=
  ["cid", "name", "type", "notnull", "dflt_value", "pk"].map Text.ofString
    ++ if verbose then [Text.ofString "hidden"] else []

/-- Hidden columns are described only on demand. -/
def describeSql (verbose : Bool) : Text :=
  let quoted := (describedColumns verbose).map (fun c => .concat ["\x22", c, "\x22"])
  .concat ["SELECT ", Text.join ", " quoted, " FROM pragma_table_xinfo(?)",
    if verbose then "" else " WHERE hidden = 0"]

/-- The cells of all rows of a query. -/
def cells (c : Connection σ) (sql : Text) (parameters : List Text) (w : World σ) :
    Except Failure (List (List Text)) × World σ :=
  let (outcome, w) := c.rows sql parameters w
  (outcome.map (·.map (·.map Datum.cell)), w)

def tableOf (c : Connection σ) (columns : List Text) (sql : Text) (parameters : List Text)
    (w : World σ) : Except Failure CommandOutput × World σ :=
  let (outcome, w) := cells c sql parameters w
  (outcome.map (.table columns), w)

/-- No argument stands for every name. -/
def likePattern (argument : Text) : Text := if argument.isEmpty then "%" else argument

def helpTable (listing : List CommandEntry) : CommandOutput :=
  .table ["Command", "Shortcut", "Description"]
    (listing.map (fun e => [e.name, e.shortcut.getD [], e.description]))

def describeTable (c : Connection σ) (name : Text) (verbose : Bool) (w : World σ) :
    Except Failure CommandOutput × World σ :=
  if name.isEmpty then (.error CommandError.missingTable.failure, w)
  else match cells c (describeSql verbose) [name] w with
    | (.error f, w) => (.error f, w)
    | (.ok rows, w) =>
      if rows.isEmpty then (.error (CommandError.noSuchTable name).failure, w)
      else (.ok (.table (describedColumns verbose) rows), w)

/-- A version that is no text is unknown. -/
def versionText : List Row → Text
  | row :: _ =>
    match firstField row with
    | .text t => t
    | _ => "unknown"
  | [] => "unknown"

def yesNo (b : Bool) : Text := if b then "true" else "false"

def statusTable (ctx : CommandContext σ) (w : World σ) : Except Failure CommandOutput × World σ :=
  match ctx.connection.rows versionSql [] w with
  | (.error f, w) => (.error f, w)
  | (.ok rows, w) =>
    let database := ctx.connection.database
    (.ok (.table ["Setting", "Value"]
      [["Database", ctx.databasePath],
       ["SQLite version", versionText rows],
       ["Read only", yesNo (database.isReadOnly w.database)],
       ["In transaction", yesNo (database.inTransaction w.database)]]), w)

def run (b : Builtin) (ctx : CommandContext σ) (argument : Text) (verbose : Bool) (w : World σ) :
    Except Failure CommandOutput × World σ :=
  let c := ctx.connection
  match b with
  | help => (.ok (helpTable ctx.listing), w)
  | exit => (.ok ⟨[], [], "Goodbye!", true⟩, w)
  | tables => tableOf c ["Tables"] tablesSql [likePattern argument] w
  | views => tableOf c ["Views"] viewsSql [likePattern argument] w
  | schema => tableOf c ["sql"] schemaSql [argument, argument] w
  | indexes => tableOf c ["Table", "Index"] indexesSql [argument, argument] w
  | databases => tableOf c ["seq", "name", "file"] databasesSql [] w
  | describe => describeTable c argument verbose w
  | status => statusTable ctx w
  | refresh => (.ok ⟨[], [], "Auto-completion refreshed.", false⟩, ctx.refresh w)

def entry : Builtin → CommandEntry
  | help => ⟨"help", some "\\?", "Show this help.", .none, ["?"], false, false⟩
  | exit => ⟨".exit", some "\\q", "Exit.", .none, ["exit", "quit"], false, false⟩
  | tables =>
    ⟨".tables", some "\\dt", "List tables, optionally matching a LIKE pattern.", .text, [], true,
      false⟩
  | views => ⟨".views", some "\\dv", "List views.", .text, [], true, false⟩
  | schema =>
    ⟨".schema", none, "Show CREATE statements, optionally for one table.", .table, [], true, false⟩
  | indexes =>
    ⟨".indexes", some "\\di", "List indexes, optionally for one table.", .table, [], true, false⟩
  | databases => ⟨".databases", some "\\l", "List attached databases.", .none, [], true, false⟩
  | describe =>
    ⟨"describe", some "\\d", "Describe a table or view.", .table, ["desc"], false, false⟩
  | status => ⟨".status", some "\\s", "Show connection status.", .none, [], true, false⟩
  | refresh =>
    ⟨".refresh", some "\\#", "Refresh the completion schema.", .none, ["rehash"], false, false⟩

def all : List Builtin :=
  [help, exit, tables, views, schema, indexes, databases, describe, status, refresh]

def registry : Registry Builtin := .ofList (all.map (fun b => ⟨b.entry, b⟩))

end Builtin

end SqlShell
