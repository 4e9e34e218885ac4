/-!
# Backends

The families of hardware that the library knows, and the version of the
operations table that drivers of all of them follow.
-/

namespace DrmSurface

/-- A family of hardware. -/
inductive Backend where
  /-- DMA buffers of the VMware display adapter; there is no 2D engine. -/
  | vmwgfx
  /-- GEM objects of Rockchip displays, composed by a 2D engine. -/
  | rockchip
  deriving DecidableEq

namespace Backend

/-- The name that the kernel reports for a device of the family. -/
def name : Backend → String
  | vmwgfx => "vmwgfx"
  | rockchip => "rockchip"

/-- Every backend, enabled in this build or not. -/
def known : List Backend := [vmwgfx, rockchip]

/-- Whether this build can make drivers of the backend on its own.  The
Rockchip backend needs the library of its engine, which is not linked. -/
def isEnabled : Backend → Bool
  | vmwgfx => true
  | rockchip => false

end Backend

/-- The version of the operations table.  It is raised whenever an operation
changes its meaning. -/
def interfaceVersion : Nat := 2

end DrmSurface
