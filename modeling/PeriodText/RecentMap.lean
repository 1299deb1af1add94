/-!
# Bounded maps of recent entries

A map that keeps the entries used last, up to a bound. Looking up a key that it has is a hit and
makes that entry the most recent one. Looking up any other key is a miss: the value is made, and
if that succeeds it becomes the most recent entry and an entry too many is dropped, the one unused
for longest. A value that cannot be made changes nothing but the number of misses.
-/

set_option autoImplicit false

namespace PeriodText

/-- A bounded map, its entries most recent first, with the numbers of hits and misses. -/
structure RecentMap (κ ν : Type) where
  entries : List (κ × ν) := []
  hits : Nat := 0
  misses : Nat := 0
  deriving Repr

namespace RecentMap

variable {κ ν ε : Type} [DecidableEq κ]

/-- The number of entries. -/
def size (m : RecentMap κ ν) : Nat := m.entries.length

/-- The value of a key. -/
def find? (m : RecentMap κ ν) (key : κ) : Option ν := m.entries.lookup key

/-- The map after a hit: the entry comes first. -/
def touch (m : RecentMap κ ν) (key : κ) (value : ν) : RecentMap κ ν :=
  { m with
    entries := (key, value) :: m.entries.filter (·.1 ≠ key)
    hits := m.hits + 1 }

/-- The map after a miss that gave a value. -/
def store (m : RecentMap κ ν) (bound : Nat) (key : κ) (value : ν) : RecentMap κ ν :=
  { m with
    entries := ((key, value) :: m.entries).take bound
    misses := m.misses + 1 }

/-- The map after a miss that gave no value. -/
def miss (m : RecentMap κ ν) : RecentMap κ ν := { m with misses := m.misses + 1 }

/-- Look up a key, making its value if the map has none. -/
def fetch (m : RecentMap κ ν) (bound : Nat) (make : κ → Except ε ν) (key : κ) :
    Except ε ν × RecentMap κ ν :=
  match m.find? key with
  | some value => (.ok value, m.touch key value)
  | none => match make key with
    | .ok value => (.ok value, m.store bound key value)
    | .error e => (.error e, m.miss)

end RecentMap

end PeriodText
