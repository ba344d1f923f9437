import SqlShell.Failure
import SqlShell.Log
import SqlShell.Schema.Store

namespace SqlShell

abbrev Row := List Datum

/-- One step of reading rows. -/
structure RowStep where
  /-- Whether the user interrupts before the row is there. -/
  interrupted : Bool
  outcome : Except Failure Row
  /-- Whether the user interrupts behind the row, if others go first there. -/
  interruptedBehind : Bool := false

/-- A statement that is ready to run. -/
structure Prepared where
  /-- The names of the columns, if it gives rows. -/
  columns : Option (List Text)
  /-- Why it cannot be run, if so. -/
  failure : Option Failure
  changes : Nat
  /-- All rows at once. -/
  rows : List Row
  /-- The rows one by one. -/
  steps : List RowStep

structure Reply where
  elapsed : Millis
  /-- Whether the user interrupts meanwhile. -/
  interrupted : Bool
  outcome : Except Failure Prepared

structure Database (σ : Type) where
  prepare : Text → σ → Reply × σ
  isReadOnly : σ → Bool
  inTransaction : σ → Bool

/-- A database without tables that takes every statement and keeps nothing. -/
def Database.blank : Database Unit :=
  { prepare := fun _ _ => (⟨0, false, .ok ⟨none, none, 0, [], []⟩⟩, ())
    isReadOnly := fun _ => false
    inTransaction := fun _ => false }

/-- All that operations of the client read and change. -/
structure World (σ : Type) where
  database : σ
  clock : Millis := 0
  /-- Whether the running query has been told to stop. -/
  aborted : Bool := false
  store : SchemaStore Text := {}
  events : List Event := []

namespace World

def emit (w : World σ) (events : List Event) : World σ := { w with events := w.events ++ events }

end World

structure Connection (σ : Type) where
  database : Database σ
  /-- What an interruption does that comes while the database works. -/
  interrupt : World σ → World σ

namespace Connection

def interruptIf (c : Connection σ) (interrupted : Bool) (w : World σ) : World σ :=
  if interrupted then c.interrupt w else w

def prepare (c : Connection σ) (sql : Text) (w : World σ) : Except Failure Prepared × World σ :=
  let (reply, database) := c.database.prepare sql w.database
  let w := { w.emit [.prepared sql] with database, clock := w.clock + reply.elapsed }
  (reply.outcome, c.interruptIf reply.interrupted w)

end Connection

/-- Runs a prepared statement with these parameters. -/
def Prepared.execute (p : Prepared) (parameters : List Text) (w : World σ) :
    Except Failure Prepared × World σ :=
  let w := if parameters.isEmpty then w else w.emit [.bound parameters]
  match p.failure with
  | some f => (.error f, w)
  | none => (.ok p, w)

namespace Connection

/-- Prepares a statement and runs it. -/
def execute (c : Connection σ) (sql : Text) (parameters : List Text) (w : World σ) :
    Except Failure Prepared × World σ :=
  match c.prepare sql w with
  | (.error f, w) => (.error f, w)
  | (.ok p, w) => p.execute parameters w

/-- All rows of a query. -/
def rows (c : Connection σ) (sql : Text) (parameters : List Text) (w : World σ) :
    Except Failure (List Row) × World σ :=
  let (outcome, w) := c.execute sql parameters w
  (outcome.map Prepared.rows, w)

end Connection

/-- The value of a named column; of columns with one name the last counts. -/
def Prepared.field (p : Prepared) (name : Text) (row : Row) : Datum :=
  (((p.columns.getD []).zip row).reverse.lookup name).getD .absent

/-- The value of the first column. -/
def firstField (row : Row) : Datum := row.head?.getD .absent

end SqlShell
