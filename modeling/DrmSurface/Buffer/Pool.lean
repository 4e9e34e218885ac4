import DrmSurface.Buffer.Id
import DrmSurface.SortedMap

/-!
# Pools

The buffers of one driver: the id of the next buffer, the buffers by id,
and the number of live buffers.

A buffer is live from its creation until the kernel has freed it.  A buffer
that the kernel refuses to free is gone from the pool and stays counted, so
the count may exceed the number of buffers.
-/

namespace DrmSurface

/-- The buffers of one driver. -/
structure Pool (β : Type) where
  nextId : BufferId := .first
  buffers : SortedMap BufferId β := ∅
  live : Nat := 0

namespace Pool

variable {β : Type}

instance : EmptyCollection (Pool β) := ⟨{}⟩

instance : Inhabited (Pool β) := ⟨∅⟩

/-- The ids of the buffers, ascending. -/
def ids (p : Pool β) : List BufferId := p.buffers.keys

/-- The buffer with an id. -/
def get? (p : Pool β) (id : BufferId) : Option β := p.buffers.get? id

/-- Takes in a new buffer under the next id. -/
def add (p : Pool β) (b : β) : Pool β :=
  { nextId := p.nextId.next, buffers := p.buffers.insert p.nextId b, live := p.live + 1 }

/-- Gives the next id away without a buffer. -/
def skip (p : Pool β) : Pool β := { p with nextId := p.nextId.next }

/-- Replaces the buffer with an id. -/
def set (p : Pool β) (id : BufferId) (b : β) : Pool β :=
  { p with buffers := p.buffers.insert id b }

/-- Drops the buffer with an id, which stays counted until it is freed. -/
def erase (p : Pool β) (id : BufferId) : Pool β := { p with buffers := p.buffers.erase id }

/-- Counts one buffer as freed. -/
def freed (p : Pool β) : Pool β := { p with live := p.live - 1 }

/-- Drops every buffer; all of them stay counted. -/
def emptied (p : Pool β) : Pool β := { p with buffers := ∅ }

@[simp] theorem get?_add (p : Pool β) (b : β) (id : BufferId) :
    (p.add b).get? id = if id = p.nextId then some b else p.get? id := by
  simp [add, get?]

@[simp] theorem get?_set (p : Pool β) (b : β) (id id' : BufferId) :
    (p.set id b).get? id' = if id' = id then some b else p.get? id' := by
  simp [set, get?]

@[simp] theorem get?_erase (p : Pool β) (id id' : BufferId) :
    (p.erase id).get? id' = if id' = id then none else p.get? id' := by
  simp [erase, get?]

@[simp] theorem get?_freed (p : Pool β) (id : BufferId) : p.freed.get? id = p.get? id := rfl

end Pool

end DrmSurface
