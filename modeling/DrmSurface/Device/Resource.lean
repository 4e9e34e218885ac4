/-!
# Kernel resources

The names under which the kernel hands out what a process may hold: open
descriptors, and ranges of memory that show the bytes of a descriptor.
-/

namespace DrmSurface

/-- An open file descriptor. -/
structure Descriptor where
  number : Nat
  deriving DecidableEq

/-- The place of a mapped byte in memory. -/
structure Address where
  value : Nat
  deriving DecidableEq

/-- A shared mapping: `length` bytes from `start` on. -/
structure Mapping where
  start : Address
  length : Nat
  deriving DecidableEq

/-- A run of bytes inside a mapping. -/
structure Span where
  mapping : Mapping
  /-- Where the run starts, counted from the start of the mapping. -/
  offset : Nat
  length : Nat
  deriving DecidableEq

namespace Mapping

/-- All bytes of a mapping. -/
def span (m : Mapping) : Span := ⟨m, 0, m.length⟩

end Mapping

namespace Span

/-- The first `n` bytes of a run. -/
def take (s : Span) (n : Nat) : Span := { s with length := min n s.length }

/-- The run without its first `n` bytes. -/
def drop (s : Span) (n : Nat) : Span :=
  { s with offset := s.offset + min n s.length, length := s.length - n }

/-- The run cut into pieces of `n` bytes; the last piece holds what is
left.  Pieces without bytes are no pieces. -/
def chunks (s : Span) (n : Nat) : List Span :=
  (List.range ((s.length + n - 1) / n)).map fun i => (s.drop (i * n)).take n

end Span

end DrmSurface
