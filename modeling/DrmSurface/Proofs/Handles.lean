import DrmSurface.Proofs.History
import Mathlib.Data.Finset.Basic

/-!
# Open handles

The device names an object by a handle from the time at which it opens the
object until it closes it.  A history shows which handles are open: those that
the device has granted or found and those that a caller has handed over,
without those that the device has closed.

There are two groups.

* `HandleEvent`, what an episode shows about handles.
* `openHandles`, and `Fresh`, the promise of a device that grants no handle
  that is open.
-/

namespace DrmSurface

open Prog (Exchange)

/-! ## Events -/

/-- What happens to a handle. -/
inductive HandleEvent where
  /-- The device has given it to an object that it has allocated or opened by
  name. -/
  | granted (handle : UInt32)
  /-- The device has named by it the object behind a descriptor. -/
  | found (handle : UInt32)
  /-- A caller has handed it over. -/
  | received (handle : UInt32)
  /-- The device has closed it. -/
  | closed (handle : UInt32)
  deriving DecidableEq

/-- The handle that an event brings in. -/
def HandleEvent.opened? : HandleEvent → Option UInt32
  | granted handle | found handle | received handle => some handle
  | closed _ => none

/-- What a call shows about a handle. -/
def Prog.Exchange.handleEvent? : Exchange → Option HandleEvent
  | ⟨.ioctl (.rockchipGemCreate ..), .ok handle⟩ => some (.granted handle)
  | ⟨.ioctl (.vmwAllocDmabuf ..), .ok reply⟩ => some (.granted reply.handle)
  | ⟨.ioctl (.gemOpen _), .ok reply⟩ => some (.granted reply.handle)
  | ⟨.ioctl (.primeFdToHandle ..), .ok handle⟩ => some (.found handle)
  | ⟨.ioctl (.gemClose handle), .ok _⟩ => some (.closed handle)
  | ⟨.ioctl (.vmwUnrefDmabuf handle), .ok _⟩ => some (.closed handle)
  | _ => none

/-- What some calls show about handles. -/
def handleEvents (trace : List Exchange) : List HandleEvent := trace.filterMap (·.handleEvent?)

@[simp] theorem handleEvents_append (t₁ t₂ : List Exchange) :
    handleEvents (t₁ ++ t₂) = handleEvents t₁ ++ handleEvents t₂ :=
  List.filterMap_append

/-- What an episode shows about handles.  A handle that is taken over is
there before any call. -/
def Episode.handleEvents : Episode → List HandleEvent
  | ⟨.importHandle handle .., trace, .ok _⟩ => .received handle :: DrmSurface.handleEvents trace
  | ⟨_, trace, _⟩ => DrmSurface.handleEvents trace

/-! ## Open handles -/

/-- The open handles after an event. -/
def HandleEvent.apply (handles : Finset UInt32) : HandleEvent → Finset UInt32
  | granted handle | found handle | received handle => insert handle handles
  | closed handle => handles.erase handle

/-- The handles that are open after some events. -/
def openHandles (events : List HandleEvent) : Finset UInt32 :=
  events.foldl HandleEvent.apply ∅

@[simp] theorem openHandles_concat (events : List HandleEvent) (event : HandleEvent) :
    openHandles (events ++ [event]) = event.apply (openHandles events) := by
  simp [openHandles]

theorem HandleEvent.apply_of_opened? {event : HandleEvent} {handle : UInt32}
    (h : event.opened? = some handle) (handles : Finset UInt32) :
    event.apply handles = insert handle handles := by
  cases event with
  | granted | found | received =>
    cases h
    rfl
  | closed => cases h

/-- What a history shows about handles. -/
def handleEventsOf (history : List Episode) : List HandleEvent := history.flatMap (·.handleEvents)

@[simp] theorem handleEventsOf_append (h₁ h₂ : List Episode) :
    handleEventsOf (h₁ ++ h₂) = handleEventsOf h₁ ++ handleEventsOf h₂ := by
  simp [handleEventsOf]

@[simp] theorem handleEventsOf_singleton (e : Episode) : handleEventsOf [e] = e.handleEvents := by
  simp [handleEventsOf]

/-- The device grants only handles that are not open. -/
def Fresh (history : List Episode) : Prop :=
  ∀ past handle future, handleEventsOf history = past ++ .granted handle :: future →
    handle ∉ openHandles past

theorem Fresh.of_append {h₁ h₂ : List Episode} (fresh : Fresh (h₁ ++ h₂)) : Fresh h₁ := by
  intro past handle future h
  apply fresh past handle (future ++ handleEventsOf h₂)
  simp [h]

theorem Fresh.last {history : List Episode} {e : Episode} (fresh : Fresh (history ++ [e]))
    {past rest : List HandleEvent} {handle : UInt32}
    (h : e.handleEvents = past ++ .granted handle :: rest) :
    handle ∉ openHandles (handleEventsOf history ++ past) := by
  apply fresh _ handle rest
  simp [h]

/-- A grant that comes first is a fresh one. -/
theorem fresh_of_events {history : List Episode} {handle : UInt32} {rest : List HandleEvent}
    (h : handleEventsOf history = .granted handle :: rest)
    (hrest : ∀ handle', .granted handle' ∉ rest) : Fresh history := by
  intro past handle' future hsplit
  rw [h] at hsplit
  cases past with
  | nil => simp [openHandles]
  | cons event past =>
    obtain ⟨-, htail⟩ := List.cons.inj hsplit
    exact absurd (by simp [htail]) (hrest handle')

end DrmSurface
