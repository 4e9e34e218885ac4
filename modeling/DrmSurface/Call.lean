import DrmSurface.Device.Request
import DrmSurface.Log.Notice
import DrmSurface.Probe.Report

/-!
# Calls

Everything that the library asks of the world around it.  A call is a
value, and its answer has a type that depends on the call.

The calls of a driver go to the one device that it was made for: its
requests and mappings, and the two hooks by which the device takes back a
mapping or a prime descriptor of one of its buffers.
-/

namespace DrmSurface

/-- What is mapped into memory. -/
inductive MapSource where
  /-- The node of the device, through an offset that the device chose. -/
  | device
  /-- An object, through a descriptor of its own. -/
  | descriptor (fd : Descriptor)
  deriving DecidableEq

/-- A question to the world. -/
inductive Call where
  /-- Open the device node at a path, for reading and writing. -/
  | openDevice (path : String)
  /-- A request to the device. -/
  | ioctl (request : Request)
  /-- Map a range of bytes, shared, for reading and writing. -/
  | map (source : MapSource) (length offset : Nat)
  /-- Give a mapping back to the device. -/
  | unmap (mapping : Mapping)
  /-- Give a prime descriptor of a buffer back to the device. -/
  | closePrime (fd : Descriptor)
  /-- Close a descriptor that belongs to no buffer. -/
  | close (fd : Descriptor)
  /-- The size of the object behind a descriptor. -/
  | size (fd : Descriptor)
  /-- A second descriptor of the same object. -/
  | duplicate (fd : Descriptor)
  /-- A request to the 2D engine. -/
  | engine (request : EngineRequest)
  /-- Store one byte all over a run of mapped bytes. -/
  | fill (span : Span) (byte : UInt8)
  /-- Log a notice. -/
  | log (notice : Notice)
  /-- Write an entry of the report. -/
  | print (line : ReportLine)
  deriving DecidableEq

/-- The answer to a call. -/
abbrev Call.Answer : Call → Type
  | .openDevice _ => Except Errno Unit
  | .ioctl request => Except Errno request.Reply
  | .map .. => Except Errno Address
  | .unmap _ => Except Errno Unit
  | .size _ => Except Errno Nat
  | .duplicate _ => Except Errno Descriptor
  | .engine request => request.Answer
  | .closePrime _ | .close _ | .fill .. | .log _ | .print _ => Unit

end DrmSurface
