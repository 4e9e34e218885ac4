import DrmSurface.Backend
import DrmSurface.Buffer.Surface
import DrmSurface.Driver.Capabilities

/-!
# The report of the probe

What the probe program writes to its standard output, line by line.
-/

namespace DrmSurface

/-- One entry of the report. -/
inductive ReportLine where
  | programVersion
  | interfaceVersion
  | backend (backend : Backend) (enabled : Bool)
  | driver (name : String)
  | capabilities (capabilities : Capabilities)
  | engine (info : String)
  | buffer (surface : Surface)
  | mappedAt (address : Address)
  | filled (color : UInt32)
  | liveBuffers (count : Nat)
  deriving DecidableEq

/-- The wording of an entry, given a function that writes addresses. -/
def ReportLine.text (pointer : Address → String) : ReportLine → String
  | programVersion => "drmbuf-probe 0.3.0"
  | interfaceVersion => s!"driver interface version {DrmSurface.interfaceVersion}"
  | backend b enabled => b.name ++ (if enabled then ": enabled" else ": disabled")
  | driver name => s!"driver: {name} (interface version {DrmSurface.interfaceVersion})"
  | capabilities c => s!"capabilities: {c.display}"
  | engine info => s!"accelerator:\n{info}"
  | buffer s =>
    s!"buffer {s.id.display}: {s.format.display} {s.width}x{s.height} " ++
      s!"pitch {s.geometry.pitch} size {s.geometry.size} " ++
      s!"header rows {s.geometry.headerRows} scanout {s.scanout}"
  | mappedAt address => s!"mapped at {pointer address}"
  | filled color => s!"filled with 0x{Text.paddedHex color.toNat}"
  | liveBuffers count => s!"live buffers before teardown: {count}"

end DrmSurface
