import CellSearch.Query.Prepared

/-!
# Cache of prepared descriptors

The cache keeps the descriptors that were asked for last. Every prepared form has a ticket, the
number of forms that were prepared before it, so that two answers with one ticket are one and
the same form.
-/

namespace CellSearch

/-- A prepared descriptor that can be handed out many times. -/
structure SharedPrepared where
  ticket : Nat
  prepared : Prepared
deriving DecidableEq, Repr, Inhabited

/-- A cache of prepared descriptors, the most recently used first. -/
structure PreparedCache where
  capacity : Nat
  entries : List SharedPrepared
  hits : Nat
  misses : Nat
deriving DecidableEq, Repr, Inhabited

namespace PreparedCache

/-- The capacity of a cache that is not given one. -/
def defaultCapacity : Nat := 64

/-- An empty cache. A capacity of zero means the default. -/
def ofCapacity (capacity : Nat) : PreparedCache :=
  ⟨if capacity = 0 then defaultCapacity else capacity, [], 0, 0⟩

/-- How many forms the cache holds. -/
def size (c : PreparedCache) : Nat := c.entries.length

/-- The prepared form of a descriptor, from the cache if it is there. -/
def get (c : PreparedCache) (d : Descriptor) : SharedPrepared × PreparedCache :=
  match c.entries.find? fun e => e.prepared.descriptor == d with
  | some e =>
    (e, { c with
      entries := e :: c.entries.filter fun other => other.prepared.descriptor != d
      hits := c.hits + 1 })
  | none =>
    let e : SharedPrepared := ⟨c.misses, .ofDescriptor d⟩
    (e, { c with
      entries := (e :: c.entries).take c.capacity
      misses := c.misses + 1 })

/-- Forget every form. The counts of hits and misses stay. -/
def clear (c : PreparedCache) : PreparedCache :=
  { c with entries := [] }

/-- The prepared forms of a list of descriptors, one after the other. -/
def getAll (c : PreparedCache) : List Descriptor → List SharedPrepared × PreparedCache
  | [] => ([], c)
  | d :: rest =>
    let (e, c) := c.get d
    let (es, c) := c.getAll rest
    (e :: es, c)

end PreparedCache

end CellSearch
