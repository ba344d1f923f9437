import SqlShell.OrderedMap
import SqlShell.Text.Basic

namespace SqlShell

inductive Toml.Origin where
  /-- Named by a header of its own. -/
  | header
  /-- Named on the way to a table of a longer header. -/
  | implied
  /-- Named on the way to an array of tables; `opened` once it has a header of its own as well. -/
  | around (opened : Bool)
  /-- Made by a key with a point in it. -/
  | dotted
  /-- Written as a value. -/
  | inline
  deriving DecidableEq, Repr

inductive Toml where
  | text (t : Text)
  | integer (n : Int)
  | float (x : Float)
  | truth (b : Bool)
  /-- A date, a time of day, or both. -/
  | moment
  | array (items : List Toml)
  | table (origin : Toml.Origin) (fields : List (Text × Toml))
  /-- An array whose tables have headers of their own, the last table first. -/
  | tables (items : List (List (Text × Toml)))

namespace Toml

abbrev Fields := List (Text × Toml)

/-- Applies `f` to the table that keys below a header belong to. -/
def descend (f : Fields → Option Fields) : Toml → Option Toml
  | table .inline _ => none
  | table origin fields => (f fields).map (table origin)
  | tables (last :: earlier) => (f last).map (fun fields => tables (fields :: earlier))
  | _ => none

/-- Whether a key with a point in it may add to such a table. -/
def Origin.isExtensible : Origin → Bool
  | dotted | around _ => true
  | _ => false

def put (fields : Fields) (key : Text) (value : Toml) : Fields :=
  OrderedMap.insertEntry key value fields

/-- Applies `f` to what stands at the end of a path of table names. Tables that are missing on the
way are made, with the origin `way`. -/
def alter (way : Origin) (f : Option Toml → Option Toml) : List Text → Fields → Option Fields
  | [], _ => none
  | [key], fields => (f (fields.lookup key)).map (put fields key)
  | key :: path, fields =>
    match fields.lookup key with
    | none => (alter way f path []).map (fun inner => put fields key (table way inner))
    | some t => (descend (alter way f path) t).map (put fields key)

/-- A table has one header; a longer header may have implied it before. -/
def openTable (path : List Text) (fields : Fields) : Option Fields :=
  alter .implied (fun
    | none => some (table .header [])
    | some (table .implied inner) => some (table .header inner)
    | some (table (.around false) inner) => some (table (.around true) inner)
    | some _ => none) path fields

/-- One more table of an array of tables. -/
def appendTable (path : List Text) (fields : Fields) : Option Fields :=
  alter (.around false) (fun
    | none => some (tables [[]])
    | some (tables items) => some (tables ([] :: items))
    | some _ => none) path fields

/-- Gives a value to a key, which must not have one. -/
def assign (value : Toml) : List Text → Fields → Option Fields
  | [], _ => none
  | [key], fields =>
    match fields.lookup key with
    | none => some (put fields key value)
    | some _ => none
  | key :: path, fields =>
    match fields.lookup key with
    | none => (assign value path []).map (fun inner => put fields key (table .dotted inner))
    | some (table origin inner) =>
      if origin.isExtensible then
        (assign value path inner).map (fun inner => put fields key (table origin inner))
      else none
    | some _ => none

/-- Applies `f` to the table that a header has opened. -/
def inside (f : Fields → Option Fields) : List Text → Fields → Option Fields
  | [], fields => f fields
  | key :: path, fields =>
    match fields.lookup key with
    | none => none
    | some t => (descend (inside f path) t).map (put fields key)

end Toml

end SqlShell
