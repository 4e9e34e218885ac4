import DrmSurface.Probe.Program

/-!
# The command line

The probe program against the files of the host.  The host lets a device
node be opened and gives no way to send it requests, so every request is
refused, as a plain file refuses it.
-/

namespace DrmSurface.Host

/-- The number of a refused system call. -/
def errno : IO.Error → Errno
  | .noFileOrDirectory _ code _ | .interrupted _ code _ => ⟨code.toNat⟩
  | .permissionDenied _ code _ | .alreadyExists _ code _ | .inappropriateType _ code _
  | .invalidArgument _ code _ | .noSuchThing _ code _ | .resourceExhausted _ code _ =>
    ⟨code.toNat⟩
  | .otherError code _ | .resourceBusy code _ | .resourceVanished code _
  | .unsupportedOperation code _ | .hardwareFault code _ | .unsatisfiedConstraints code _
  | .illegalOperation code _ | .protocolError code _ | .timeExpired code _ => ⟨code.toNat⟩
  | .unexpectedEof | .userError _ => .invalidArgument

/-- The size of a page of the host, which has no way to be asked for it. -/
def pageSize : Nat := 4096

/-- An address as text. -/
def pointer (a : Address) : String := "0x" ++ Text.hex a.value

/-- The refusal of an engine that is not there. -/
def noEngine : EngineError := ⟨"engine", -1, "no engine"⟩

/-- Answers a call. -/
def answer : (c : Call) → IO c.Answer
  | .openDevice path => do
    try
      let _ ← IO.FS.Handle.mk path .readWrite
      return .ok ()
    catch e => return .error (errno e)
  | .ioctl _ => return .error .noSuchRequest
  | .map .. => return .error .noSuchRequest
  | .unmap _ => return .ok ()
  | .size _ => return .error .badDescriptor
  | .duplicate _ => return .error .badDescriptor
  | .engine .describe => return none
  | .engine (.importBuffer ..) => return .error noEngine
  | .engine (.release _) | .engine (.check ..) | .engine (.fill ..) | .engine (.process ..) =>
    return .error noEngine
  | .closePrime _ | .close _ | .fill .. => return ()
  | .log notice => IO.eprintln s!"[{notice.severity.label}] {notice.text pointer}"
  | .print line => IO.println (line.text pointer)

/-- Runs a program to its end. -/
partial def run {α : Type} [Inhabited α] (p : Prog α) : IO α :=
  match p.view with
  | .done a => return a
  | .abort cause => throw (IO.userError cause.message)
  | .ask c next => do run (next (← answer c))

end DrmSurface.Host

/-- Runs the probe on the words of the command line. -/
def main (words : List String) : IO UInt32 := do
  let outcome ← DrmSurface.Host.run (DrmSurface.program DrmSurface.Host.pageSize words)
  for line in outcome.report do
    IO.eprintln line
  return outcome.code
