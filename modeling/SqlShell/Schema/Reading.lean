import SqlShell.Database.Basic
import SqlShell.Words

namespace SqlShell.SchemaReading

/-- What the database keeps for itself is not offered. -/
def ownNamesExcluded : Text := "m.name NOT LIKE 'sqlite_%'"

def relationsSql : Text :=
  .concat [
    "\n  SELECT m.name AS relation, m.type AS type, p.name AS \x22column\x22",
    "\n  FROM sqlite_master AS m",
    "\n  JOIN pragma_table_info(m.name) AS p",
    "\n  WHERE m.type IN ('table', 'view') AND ", ownNamesExcluded,
    "\n  ORDER BY m.name, p.cid\n"]

def indexesSql : Text :=
  .concat [
    "\n  SELECT m.name FROM sqlite_master AS m",
    "\n  WHERE m.type = 'index' AND ", ownNamesExcluded,
    "\n  ORDER BY m.name\n"]

def databasesSql : Text := "PRAGMA database_list"

def pragmasSql : Text := "SELECT name FROM pragma_pragma_list ORDER BY name"

def functionsSql : Text := "SELECT DISTINCT name FROM pragma_function_list ORDER BY name"

/-- A column and the relation it belongs to. -/
structure RelationColumn where
  relation : Text
  isView : Bool
  column : Text
  deriving DecidableEq, Repr

def RelationColumn.ofRow (p : Prepared) (row : Row) : RelationColumn :=
  { relation := (p.field "relation" row).plain
    isView := (p.field "type" row).plain == "view"
    column := (p.field "column" row).plain }

/-- Adds a column behind the columns of its relation. -/
def addColumn (m : OrderedMap Text (List Text)) (c : RelationColumn) :
    OrderedMap Text (List Text) :=
  m.insert c.relation ((m.lookup c.relation).getD [] ++ [c.column])

/-- The relations of these columns, in the order of first appearance. -/
def groupColumns (columns : List RelationColumn) : OrderedMap Text (List Text) :=
  columns.foldl addColumn .empty

def relationColumns (c : Connection σ) (w : World σ) :
    Except Failure (List RelationColumn) × World σ :=
  let (outcome, w) := c.execute relationsSql [] w
  (outcome.map (fun p => p.rows.map (RelationColumn.ofRow p)), w)

/-- The texts in the first column of a query. -/
def firstColumn (c : Connection σ) (sql : Text) (w : World σ) :
    Except Failure (List Text) × World σ :=
  let (outcome, w) := c.rows sql [] w
  (outcome.map (·.map (fun row => (firstField row).plain)), w)

def databaseNames (c : Connection σ) (w : World σ) : Except Failure (List Text) × World σ :=
  let (outcome, w) := c.execute databasesSql [] w
  (outcome.map (fun p => p.rows.map (fun row => (p.field "name" row).plain)), w)

/-- The texts of a query that a database may not know, or what stands in for them. -/
def firstColumnOr (c : Connection σ) (logger : Logger) (sql complaint : Text) (fallback : List Text)
    (w : World σ) : List Text × World σ :=
  match firstColumn c sql w with
  | (.ok names, w) => (names, w)
  | (.error f, w) => (fallback, w.emit (logger.debug (complaint ++ f.message)))

def pragmas (c : Connection σ) (logger : Logger) (w : World σ) : List Text × World σ :=
  firstColumnOr c logger pragmasSql
    "pragma_list unavailable, using built-in pragma names: " Words.pragmas w

def functions (c : Connection σ) (logger : Logger) (w : World σ) : List Text × World σ :=
  firstColumnOr c logger functionsSql
    "function_list unavailable, using built-in function names: " [] w

/-- The parts of a snapshot that every database has to give. -/
structure Required where
  columns : List RelationColumn
  indexes : List Text
  databases : List Text

def required (c : Connection σ) (w : World σ) : Except Failure Required × World σ :=
  match relationColumns c w with
  | (.error f, w) => (.error f, w)
  | (.ok columns, w) =>
    match firstColumn c indexesSql w with
    | (.error f, w) => (.error f, w)
    | (.ok indexes, w) =>
      match databaseNames c w with
      | (.error f, w) => (.error f, w)
      | (.ok databases, w) => (.ok ⟨columns, indexes, databases⟩, w)

def Required.snapshot (r : Required) (pragmas functions : List Text) (now : Millis) :
    SchemaSnapshot :=
  .ofLists (groupColumns (r.columns.filter (fun c => !c.isView))).entries
    (groupColumns (r.columns.filter RelationColumn.isView)).entries
    r.indexes pragmas functions r.databases now

/-- Everything a connection has, at the moment when all of it has been read. -/
def snapshot (c : Connection σ) (logger : Logger) (w : World σ) :
    Except Failure SchemaSnapshot × World σ :=
  match required c w with
  | (.error f, w) => (.error f, w)
  | (.ok r, w) =>
    let (pragmaNames, w) := pragmas c logger w
    let (functionNames, w) := functions c logger w
    (.ok (r.snapshot pragmaNames functionNames w.clock), w)

def summary (s : SchemaSnapshot) (elapsed : Millis) : Text :=
  .concat ["Schema refreshed in ", Number.text elapsed, "ms: ",
    .ofNat s.tableNames.length, " tables, ", .ofNat s.viewNames.length, " views, ",
    .ofNat s.indexes.length, " indexes"]

/-- Hands a snapshot to the store of the world. -/
def publish (s : SchemaSnapshot) (w : World σ) : World σ :=
  let (store, notifications) := w.store.publish s
  let told : List Event := notifications.map
    (fun (_, snapshot) => .published (snapshot.elim 0 (fun s => s.tableNames.length)))
  { w with store }.emit told

/-- Reads a snapshot and publishes it. -/
def refresh (c : Connection σ) (logger : Logger) (w : World σ) :
    Except Failure SchemaSnapshot × World σ :=
  match snapshot c logger w with
  | (.error f, after) => (.error f, after)
  | (.ok s, after) =>
    let after := publish s after
    (.ok s, after.emit (logger.debug (summary s (after.clock - w.clock))))

end SqlShell.SchemaReading
