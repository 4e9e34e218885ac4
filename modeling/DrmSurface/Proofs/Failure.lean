import DrmSurface.Proofs.Driver
import DrmSurface.Proofs.Rockchip.Refusal
import DrmSurface.Proofs.Vmwgfx.Refusal

/-!
# Failed operations

An operation that fails leaves the driver as it is.  There is one exception,
the device that does not take back a mapping, and there the buffer has lost its
mapping and nothing else has changed.

There are two groups.

* `failure_leaves_no_trace`: what a failed operation does to the driver, and to
  the objects that it has opened.
* `misuse_found_early`: a mistake of the caller is found before any call of the
  device, unless a named object shows too small only after it was opened.
-/

namespace DrmSurface

open Prog

namespace Driver

variable {pageSize : Nat} {backend : Backend} {opening : List Exchange} {history : List Episode}
  {start d d' : Driver} {op : Operation} {t : List Exchange} {error : DriverError}

/-! ## What is left -/

/-- The buffer with an id has lost its mapping, and nothing else has changed. -/
inductive Detached (id : BufferId) (m : Mapping) : Driver → Driver → Prop where
  | vmwgfx {pool : Vmwgfx.State} {b : Vmwgfx.Buffer} (found : pool.get? id = some b)
      (mapped : b.surface.mapping = some m) (counted : 0 < b.mapCount) :
      Detached id m (.vmwgfx pool) (.vmwgfx (pool.set id (b.withMapping none (b.mapCount - 1))))
  | rockchip {pool : Rockchip.State} {b : Rockchip.Buffer} (found : pool.get? id = some b)
      (mapped : b.surface.mapping = some m) :
      Detached id m (.rockchip pool) (.rockchip (pool.set id (b.withMapping none)))

theorem Detached.of_vmwgfx {pool : Vmwgfx.State} {id : BufferId} {b b' : Vmwgfx.Buffer}
    {m : Mapping} (found : pool.get? id = some b) (tallied : Vmwgfx.Tallied b)
    (h : Vmwgfx.Unmapped b m b') : Detached id m (.vmwgfx pool) (.vmwgfx (pool.set id b')) := by
  have hcount : b.mapCount = 1 := by
    simpa [Vmwgfx.Tallied, Surface.isMapped, h.mapping_eq] using tallied
  have hdown : Vmwgfx.countDown b.mapCount = b.mapCount - 1 := by
    rw [hcount]
    rfl
  rw [h.result_eq, hdown]
  exact .vmwgfx found h.mapping_eq (by rw [hcount]; decide)

/-- The driver after a failed operation: it is what it was, or the device has
not taken back a mapping. -/
theorem left_of_error (hnew : (Driver.new backend).Runs opening start)
    (run : Ran (perform pageSize) start history d)
    (now : Step (perform pageSize) d ⟨op, t, .error error⟩ d') :
    (d' = d ∧ ∀ id cause, op = .unmap id → error ≠ .kernel .unmap cause) ∨
      ∃ id m cause, op = .unmap id ∧ error = .kernel .unmap cause ∧
        ⟨.unmap m, .error cause⟩ ∈ t ∧ Detached id m d d' := by
  rcases step_cases now with ⟨pool, pool', rfl, rfl, h⟩ | ⟨pool, pool', rfl, rfl, h⟩
  · rcases (Vmwgfx.perform_effect h).of_error with
      ⟨rfl, untorn⟩ | ⟨id, b, b', m, cause, hop, herror, hm, hb, hlost, rfl⟩
    · exact .inl ⟨rfl, untorn⟩
    · have hran : Ran (Vmwgfx.perform pageSize) ∅ history pool := by
        rcases ran_cases hnew run with ⟨_, heq, hran⟩ | ⟨_, heq, -⟩ <;> cases heq
        exact hran
      exact .inr ⟨id, m, cause, hop, herror, hm,
        .of_vmwgfx hb (Vmwgfx.tallied_of_ran hran hb) hlost⟩
  · rcases (Rockchip.perform_effect h).of_error with
      ⟨rfl, untorn⟩ | ⟨id, b, b', m, cause, hop, herror, hm, hb, hlost, rfl⟩
    · exact .inl ⟨rfl, untorn⟩
    · rw [hlost.result_eq]
      exact .inr ⟨id, m, cause, hop, herror, hm, .rockchip hb hlost.mapping_eq⟩

/-- An object that a failed creation has opened is given back afterwards. -/
theorem closes_of_error (now : Step (perform pageSize) d ⟨op, t, .error error⟩ d')
    (hop : op.isCreation)
    {past future : List Exchange} {x : Exchange} {handle : UInt32}
    (ht : t = past ++ x :: future) (hx : .object handle ∈ x.acquired) :
    ∃ y ∈ future, y.call = .ioctl (.gemClose handle) := by
  rcases step_cases now with ⟨pool, pool', rfl, rfl, h⟩ | ⟨pool, pool', rfl, rfl, h⟩
  · have hacquired : .object handle ∈ acquired t := mem_acquired.2 ⟨x, by simp [ht], hx⟩
    rw [Vmwgfx.perform_nothing h hop] at hacquired
    exact absurd hacquired (Multiset.notMem_zero _)
  · exact (Rockchip.perform_creation hop h).closes ht hx

/-- A handle that could not be taken over is not touched. -/
theorem importHandle_early {handle : UInt32} {size? : Option Nat} {desc : SurfaceDesc}
    {pitch : UInt32}
    (now : Step (perform pageSize) d ⟨.importHandle handle size? desc pitch, t, .error error⟩ d') :
    ∀ x ∈ t, x.call.isDeviceCall = false := by
  rcases step_cases now with ⟨pool, pool', rfl, rfl, h⟩ | ⟨pool, pool', rfl, rfl, h⟩
  · obtain ⟨rfl, -⟩ := runs_done_iff.1 h
    simp
  · exact Rockchip.importHandle_early _ _ h error rfl

/-- A failed operation leaves the driver as it was, with one exception: if the
device does not take back the mapping of a buffer, the buffer has lost it all
the same.  An object that a failed creation has opened is given back before it
returns, and a handle that was handed to it is not touched. -/
theorem failure_leaves_no_trace (hnew : (Driver.new backend).Runs opening start)
    (run : Ran (perform pageSize) start history d)
    (now : Step (perform pageSize) d ⟨op, t, .error error⟩ d') :
    ((d' = d ∧ ∀ id cause, op = .unmap id → error ≠ .kernel .unmap cause) ∨
      ∃ id m cause, op = .unmap id ∧ error = .kernel .unmap cause ∧
        ⟨.unmap m, .error cause⟩ ∈ t ∧ Detached id m d d') ∧
    (op.isCreation → ∀ past x future handle, t = past ++ x :: future →
      .object handle ∈ x.acquired → ∃ y ∈ future, y.call = .ioctl (.gemClose handle)) ∧
    ∀ handle size? desc pitch, op = .importHandle handle size? desc pitch →
      ∀ x ∈ t, x.call.isDeviceCall = false := by
  refine ⟨left_of_error hnew run now, ?_, ?_⟩
  · intro hop past x future handle ht hx
    exact closes_of_error now hop ht hx
  · rintro handle size? desc pitch rfl
    exact importHandle_early now

/-- A mapped buffer is unmapped, and the device does not take the mapping
back. -/
theorem failure_leaves_no_trace_sample :
    ∃ opening start history d t m d', (Driver.new .vmwgfx).Runs opening start ∧
      Ran (perform 4096) start history d ∧
      Step (perform 4096) d ⟨.unmap .first, t, .error (.kernel .unmap .invalidArgument)⟩ d' ∧
      Detached .first m d d' := by
  have hnew : (Driver.new .vmwgfx).play keepsMappings = some ([], .vmwgfx ∅) := rfl
  have hplay : (do
      let (history, d) ← playAll (perform 4096) keepsMappings (.vmwgfx ∅)
        [.create ⟨.xrgb8888, 16, 8, 4⟩ .general, .map .first]
      let (t, result, d') ← (perform 4096 d (.unmap .first)).play keepsMappings
      return result) = some (.error (.kernel .unmap .invalidArgument)) := rfl
  simp only [Option.bind_eq_bind, Option.bind_eq_some_iff, Prod.exists] at hplay
  obtain ⟨history, d, hhistory, t, result, d', hunmap, heq⟩ := hplay
  obtain rfl : result = _ := Option.some.inj heq
  have hnew := runs_of_play hnew
  have run := ran_of_playAll hhistory
  have now : Step (perform 4096) d
      ⟨.unmap .first, t, .error (.kernel .unmap .invalidArgument)⟩ d' :=
    runs_of_play hunmap
  rcases (failure_leaves_no_trace hnew run now).1 with ⟨-, hnot⟩ | ⟨id, m, cause, hop, -, -, h⟩
  · exact absurd rfl (hnot .first .invalidArgument rfl)
  · cases hop
    exact ⟨_, _, history, d, t, m, d', hnew, run, now, h⟩

/-! ## Mistakes of the caller -/

/-- If an operation fails and neither the device nor the engine has refused a
call, it has made no call of the device or the engine.  There is one exception,
an import by name whose object is too small: it has opened the object and given
it back. -/
theorem misuse_found_early (now : Step (perform pageSize) d ⟨op, t, .error error⟩ d')
    (misuse : error.isDeviceFailure = false) :
    (∀ x ∈ t, x.call.isDeviceCall = false) ∨
      ∃ name desc pitch, op = .importName name desc pitch ∧ d.backend = .rockchip ∧
        Rockchip.GivenBack name desc pitch t error := by
  rcases step_cases now with ⟨pool, pool', rfl, rfl, h⟩ | ⟨pool, pool', rfl, rfl, h⟩
  · exact .inl (Vmwgfx.perform_foundEarly h misuse)
  · rcases Rockchip.perform_foundEarly h misuse with hearly | ⟨name, desc, pitch, hop, hgiven⟩
    · exact .inl hearly
    · exact .inr ⟨name, desc, pitch, hop, rfl, hgiven⟩

/-- A stated size that exceeds the size of a descriptor is found before the
device is asked for anything. -/
theorem misuse_found_early_sample :
    ∃ t d', Step (perform 4096) (.rockchip ∅)
        ⟨.importPrime ⟨5⟩ (some 8192) ⟨.xrgb8888, 0, 32, 32⟩ 128, t,
          .error (.exceedsDescriptor 8192 4096)⟩ d' ∧
      t.length = 4 ∧ ∀ x ∈ t, x.call.isDeviceCall = false := by
  have hplay : ((perform 4096 (.rockchip ∅)
      (.importPrime ⟨5⟩ (some 8192) ⟨.xrgb8888, 0, 32, 32⟩ 128)).play granted).map
        (fun r => (r.1.length, r.2.1)) = some (4, .error (.exceedsDescriptor 8192 4096)) := rfl
  obtain ⟨⟨t, result, d'⟩, hrun, heq⟩ := Option.map_eq_some_iff.1 hplay
  obtain ⟨hlength, rfl⟩ := Prod.mk.inj heq
  have now := runs_of_play hrun
  rcases misuse_found_early now rfl with hearly | ⟨_, _, _, hop, -⟩
  · exact ⟨t, d', now, hlength, hearly⟩
  · cases hop

/-- A device whose named objects have 256 bytes. -/
def smallObjects : (c : Call) → c.Answer
  | .ioctl (.gemOpen name) => .ok ⟨name, 256⟩
  | c => granted c

/-- A named object is opened and given back before its size is found to be too
small, which is a mistake of the caller. -/
theorem small_object_found_late :
    ∃ opening start t d', (Driver.new .rockchip).Runs opening start ∧
      Step (perform 4096) start ⟨.importName 8 ⟨.rgb565, 0, 32, 8⟩ 64, t,
        .error (.exceedsDescriptor 512 256)⟩ d' ∧
      (DriverError.exceedsDescriptor 512 256).isDeviceFailure = false ∧
      (t.map (·.call)).filter (·.isDeviceCall) = [.ioctl (.gemOpen 8), .ioctl (.gemClose 8)] := by
  have hnew : (Driver.new .rockchip).play smallObjects = some (_, .rockchip ∅) := rfl
  have hplay : ((perform 4096 (.rockchip ∅) (.importName 8 ⟨.rgb565, 0, 32, 8⟩ 64)).play
      smallObjects).map (fun r => ((r.1.map (·.call)).filter (·.isDeviceCall), r.2.1)) =
        some ([.ioctl (.gemOpen 8), .ioctl (.gemClose 8)],
          .error (.exceedsDescriptor 512 256)) := rfl
  obtain ⟨⟨t, result, d'⟩, hrun, heq⟩ := Option.map_eq_some_iff.1 hplay
  obtain ⟨hcalls, rfl⟩ := Prod.mk.inj heq
  exact ⟨_, _, t, d', runs_of_play hnew, runs_of_play hrun, rfl, hcalls⟩

end Driver

end DrmSurface
