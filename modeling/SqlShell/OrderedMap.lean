
namespace SqlShell

structure OrderedMap (α β : Type) where
  entries : List (α × β)
  deriving DecidableEq, Repr

namespace OrderedMap

def empty : OrderedMap α β := ⟨[]⟩

def keys (m : OrderedMap α β) : List α := m.entries.map Prod.fst

variable [DecidableEq α]

def lookup (m : OrderedMap α β) (key : α) : Option β := m.entries.lookup key

/-- A key that is present keeps its place and takes the new value. -/
def insertEntry (key : α) (value : β) : List (α × β) → List (α × β)
  | [] => [(key, value)]
  | (k, v) :: rest =>
    if k = key then (k, value) :: rest else (k, v) :: insertEntry key value rest

def insert (m : OrderedMap α β) (key : α) (value : β) : OrderedMap α β :=
  ⟨insertEntry key value m.entries⟩

def insertAll (m : OrderedMap α β) (entries : List (α × β)) : OrderedMap α β :=
  entries.foldl (fun m (key, value) => m.insert key value) m

def ofList (entries : List (α × β)) : OrderedMap α β := empty.insertAll entries

end OrderedMap

end SqlShell
