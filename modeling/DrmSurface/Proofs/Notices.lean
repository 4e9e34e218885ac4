import DrmSurface.Proofs.Driver
import DrmSurface.Proofs.Rockchip.Fault
import DrmSurface.Proofs.Vmwgfx.Fault

/-!
# No failure goes unnoticed

Whatever fails at the device or the engine while a driver works is logged at
once, with its cause and as a warning at least.  One failure is not: the refusal
of a descriptor for a buffer that has none of its own.

There are two groups.

* `FailuresLogged`, the calls of which none has failed without a notice.
* `Driver.device_failures_logged`, for all operations and the teardown of both
  backends, with the export that fails silently.
-/

namespace DrmSurface

open Prog

/-! ## One failure -/

/-- Every call of the device or the engine that fails is followed at once by a
warning or an error that names the cause. -/
def FailuresLogged (t : List Exchange) : Prop :=
  ∀ x ∈ t, ∀ fault, x.fault? = some fault → ∃ n, [x, ⟨.log n, ()⟩] <:+: t ∧
    n.fault? = some fault ∧ (n.severity = .warn ∨ n.severity = .error)

theorem logged_of_reported {t : List Exchange} (h : Reported t) : FailuresLogged t := by
  intro x hx fault failed
  obtain ⟨n, hnext, hn⟩ := h.exists_notice hx failed
  exact ⟨n, hnext, hn, Notice.severity_of_fault hn⟩

/-! ## Both backends -/

namespace Driver

variable {pageSize : Nat} {d d' : Driver} {e : Episode}

/-- An export that fails without a notice, on a driver that can export. -/
def SilentExport (d : Driver) (e : Episode) : Prop :=
  ∃ pool, d = .rockchip pool ∧ Rockchip.SilentExport pool e

theorem reported_of_step (now : Step (perform pageSize) d e d') :
    Reported e.trace ∨ SilentExport d e := by
  rcases step_cases now with ⟨pool, pool', rfl, rfl, h⟩ | ⟨pool, pool', rfl, rfl, h⟩
  · exact .inl (Vmwgfx.perform_reports h)
  · exact (Rockchip.perform_reports h).imp_right fun hsilent => ⟨pool, rfl, hsilent⟩

theorem reported_of_teardown {closing : List Exchange} {n : Nat}
    (torn : d.teardown.Runs closing n) : Reported closing := by
  cases d with
  | vmwgfx pool => exact (Vmwgfx.teardown_reports.bind fun _ => reports_pure) _ _ torn
  | rockchip pool => exact (Rockchip.teardown_reports.bind fun _ => reports_pure) _ _ torn

/-- What fails at the device or the engine in an operation or in the teardown of a
driver is logged.  There is one exception: if a buffer without a prime descriptor
is exported and the device refuses the descriptor, then the operation fails after
this call and logs nothing. -/
theorem device_failures_logged (d : Driver) :
    (∀ e d', Step (perform pageSize) d e d' → SilentExport d e ∨ FailuresLogged e.trace) ∧
    ∀ closing live, d.teardown.Runs closing live → FailuresLogged closing := by
  constructor
  · intro e d' now
    exact (reported_of_step now).symm.imp_right logged_of_reported
  · intro closing live torn
    exact logged_of_reported (reported_of_teardown torn)

/-- The device does not take back the mapping of a buffer that is unmapped. -/
theorem device_failures_logged_sample :
    ∃ opening start history d t m d', (Driver.new .vmwgfx).Runs opening start ∧
      Ran (perform 4096) start history d ∧
      Step (perform 4096) d ⟨.unmap .first, t, .error (.kernel .unmap .invalidArgument)⟩ d' ∧
      ⟨.unmap m, .error .invalidArgument⟩ ∈ t ∧
      ∃ n, [⟨.unmap m, .error .invalidArgument⟩, ⟨.log n, ()⟩] <:+: t ∧
        n.fault? = some (.kernel .invalidArgument) := by
  have hnew : (Driver.new .vmwgfx).play keepsMappings = some ([], .vmwgfx ∅) := rfl
  have hplay : (do
      let (history, d) ← playAll (perform 4096) keepsMappings (.vmwgfx ∅)
        [.create ⟨.xrgb8888, 16, 8, 4⟩ .general, .map .first]
      let (t, result, d') ← (perform 4096 d (.unmap .first)).play keepsMappings
      return (t, result)) =
      some ([⟨.unmap ⟨⟨4096⟩, 160⟩, .error .invalidArgument⟩, ⟨.log _, ()⟩],
        .error (.kernel .unmap .invalidArgument)) := rfl
  simp only [Option.bind_eq_bind, Option.bind_eq_some_iff, Prod.exists] at hplay
  obtain ⟨history, d, hhistory, t, result, d', hunmap, heq⟩ := hplay
  obtain ⟨rfl, rfl⟩ := Prod.mk.inj (Option.some.inj heq)
  have now := runs_of_play hunmap
  rcases (device_failures_logged d).1 ⟨.unmap .first, _, _⟩ d' now with ⟨pool, -, ⟨⟩⟩ | hlogged
  obtain ⟨n, hnext, hn, -⟩ := hlogged _ List.mem_cons_self _ rfl
  exact ⟨_, _, history, d, _, _, d', runs_of_play hnew, ran_of_playAll hhistory, now,
    List.mem_cons_self, n, hnext, hn⟩

/-- A buffer is created without a descriptor, which is logged.  Its export fails for
the same reason, which is not. -/
theorem export_fails_silently :
    ∃ opening start history d t d', (Driver.new .rockchip).Runs opening start ∧
      Ran (perform 4096) start history d ∧
      Step (perform 4096) d ⟨.exportPrime .first, t, .error (.kernel .handleToFd ⟨24⟩)⟩ d' ∧
      t.filterMap (·.fault?) = [.kernel ⟨24⟩] ∧ ∀ x ∈ t, x.call.isNotice = false := by
  have hnew : (Driver.new .rockchip).play withholdsDescriptors = some (_, .rockchip ∅) := rfl
  have hplay : (do
      let (history, d) ← playAll (perform 4096) withholdsDescriptors (.rockchip ∅)
        [.create ⟨.xrgb8888, 0, 32, 32⟩ .general]
      let (t, result, d') ← (perform 4096 d (.exportPrime .first)).play withholdsDescriptors
      return (t.filterMap (·.fault?), t.map (·.call.isNotice), result)) =
      some ([.kernel ⟨24⟩], [false], .error (.kernel .handleToFd ⟨24⟩)) := rfl
  simp only [Option.bind_eq_bind, Option.bind_eq_some_iff, Prod.exists] at hplay
  obtain ⟨history, d, hhistory, t, result, d', hexport, heq⟩ := hplay
  obtain ⟨hfault, hnotices, rfl⟩ := by
    simpa only [Option.pure_def, Option.some.injEq, Prod.mk.injEq] using heq
  refine ⟨_, _, history, d, t, d', runs_of_play hnew, ran_of_playAll hhistory,
    runs_of_play hexport, hfault, fun x hx => ?_⟩
  simpa [hnotices] using List.mem_map_of_mem (f := (·.call.isNotice)) hx

end Driver

end DrmSurface
