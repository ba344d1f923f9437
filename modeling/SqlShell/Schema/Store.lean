import SqlShell.Schema.Snapshot

namespace SqlShell

structure SchemaStore (ι : Type) where
  current : Option SchemaSnapshot := none
  listeners : List ι := []

namespace SchemaStore

/-- What each listener is told. -/
def notifications (s : SchemaStore ι) : List (ι × Option SchemaSnapshot) :=
  s.listeners.map (fun l => (l, s.current))

def replace (s : SchemaStore ι) (snapshot : Option SchemaSnapshot) :
    SchemaStore ι × List (ι × Option SchemaSnapshot) :=
  let after := { s with current := snapshot }
  (after, after.notifications)

def publish (s : SchemaStore ι) (snapshot : SchemaSnapshot) :
    SchemaStore ι × List (ι × Option SchemaSnapshot) := s.replace (some snapshot)

def clear (s : SchemaStore ι) : SchemaStore ι × List (ι × Option SchemaSnapshot) :=
  s.replace none

def isLoaded (s : SchemaStore ι) : Bool := s.current.isSome

variable [DecidableEq ι]

/-- A listener that is subscribed already keeps its place. -/
def subscribe (s : SchemaStore ι) (l : ι) : SchemaStore ι :=
  if s.listeners.contains l then s else { s with listeners := s.listeners ++ [l] }

def unsubscribe (s : SchemaStore ι) (l : ι) : SchemaStore ι :=
  { s with listeners := s.listeners.erase l }

end SchemaStore

end SqlShell
