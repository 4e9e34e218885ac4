import DrmSurface.Driver.Rockchip
import DrmSurface.Driver.Vmwgfx

/-!
# Drivers

A driver of any backend: what it can be asked without a call, its
operations, and its end.
-/

namespace DrmSurface

/-- A driver. -/
inductive Driver where
  | vmwgfx (pool : Vmwgfx.State)
  | rockchip (pool : Rockchip.State)

namespace Driver

/-- A new driver of a backend. -/
def new : Backend → Prog Driver
  | .vmwgfx => return .vmwgfx ∅
  | .rockchip => do return .rockchip (← Rockchip.new)

/-! ## What a driver knows -/

/-- The backend of a driver. -/
def backend : Driver → Backend
  | vmwgfx _ => .vmwgfx
  | rockchip _ => .rockchip

/-- The name of a driver is that of its backend. -/
def name (d : Driver) : String := d.backend.name

/-- The optional operations of a driver. -/
def capabilities : Driver → Capabilities
  | vmwgfx _ => .none
  | rockchip _ => .imports ||| .exportPrime ||| .accelerated

/-- The number of buffers that have been created and not yet been freed. -/
def live : Driver → Nat
  | vmwgfx pool => pool.live
  | rockchip pool => pool.live

/-- The ids of the buffers, ascending. -/
def ids : Driver → List BufferId
  | vmwgfx pool => pool.ids
  | rockchip pool => pool.ids

/-- The buffer with an id. -/
def surface? : Driver → BufferId → Option Surface
  | vmwgfx pool, id => (pool.get? id).map (·.surface)
  | rockchip pool, id => (pool.get? id).map (·.surface)

/-- A description of the 2D engine of a driver. -/
def engineInfo : Driver → Prog (Option String)
  | vmwgfx _ => return none
  | rockchip _ => Rockchip.engine .describe

/-! ## Operations -/

/-- Runs an operation on a system with pages of some size. -/
def perform (pageSize : Nat) (d : Driver) (op : Operation) :
    Prog (Except DriverError op.Result × Driver) :=
  match d with
  | vmwgfx pool => do
    let (result, pool) ← Vmwgfx.perform pageSize pool op
    return (result, vmwgfx pool)
  | rockchip pool => do
    let (result, pool) ← Rockchip.perform pool op
    return (result, rockchip pool)

/-- What an operation that has stopped leaves behind.  Only a creation for the
engine can stop, and by then it has taken the id for its buffer. -/
def stopped : Driver → Driver
  | vmwgfx pool => vmwgfx pool
  | rockchip pool => rockchip pool.skip

/-- Ends a driver and releases the buffers that are left.  The result is
the number of live buffers that it had. -/
def teardown (d : Driver) : Prog Nat := do
  match d with
  | vmwgfx pool => Vmwgfx.teardown pool
  | rockchip pool => Rockchip.teardown pool
  return d.live

end Driver

end DrmSurface
