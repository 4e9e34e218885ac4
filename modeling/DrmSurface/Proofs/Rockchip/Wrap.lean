import DrmSurface.Driver.Rockchip
import DrmSurface.Proofs.Exact

/-!
# How the Rockchip driver shows a buffer to the engine

A new buffer is wrapped: it gets a descriptor, if it has none, and the engine is
asked to import it.  The count of the rows that the engine is told has to fit a
word.  A buffer that has a descriptor and more rows is where the driver stops.

There are three groups.

* `ensures_importView_iff`, the finished imports.
* `Obtains`, how a buffer comes by its descriptor.
* Stops, from `importView_aborts_iff` up to the whole admission in
  `admitted_aborts_iff`.
-/

namespace DrmSurface.Rockchip

open Prog

variable {b : Buffer} {t : List Exchange} {cause : Panic} {fd : Descriptor}

/-! ## Finished imports -/

/-- An import that is not the engine's to make, or one that it has answered. -/
theorem ensures_importView_iff {P : List Exchange → Buffer → Prop} :
    (importView b).Ensures P ↔
      (b.surface.prime = none → P [] b) ∧
      ∀ fd, b.surface.prime = some fd → b.surface.rows < UInt32.size →
        let request := EngineRequest.importBuffer fd b.surface.width
          (b.surface.height + b.surface.geometry.headerRows) b.nativeFormat
        (∀ handle, P [⟨.engine request, .ok handle⟩] { b with view := some (viewOf b handle) }) ∧
          ∀ e, P [⟨.engine request, .error e⟩, ⟨.log (notice (.importFailed e)), ()⟩] b := by
  unfold importView
  split
  · rename_i hprime
    simp [hprime, ensures_done_iff]
  · rename_i fd hprime
    simp only [hprime, reduceCtorEq, false_implies, true_and, Option.some.injEq, forall_eq']
    split
    · rename_i hfits
      simp only [hfits, true_implies]
      rw [ensures_bind_iff, engine, ensures_call_iff, forall_except_iff]
      simp only [ensures_bind_iff, ensures_log_iff, ensures_pure_iff, List.append_nil,
        List.cons_append, List.nil_append]
    · rename_i hlarge
      exact iff_of_true ensures_bind_abort fun hfits => absurd hfits hlarge

/-- The engine is not told of rows that a word does not count. -/
theorem importView_counted : (importView b).Ensures fun _ _ =>
    b.surface.prime.isSome → b.surface.rows < UInt32.size :=
  ensures_importView_iff.2 ⟨fun hprime => by simp [hprime], fun _ _ hfits =>
    ⟨fun _ _ => hfits, fun _ _ => hfits⟩⟩

/-! ## Descriptors -/

/-- The calls by which a buffer that is wrapped comes by a descriptor: there are
none if it has one, and otherwise the device gives it one. -/
inductive Obtains (b : Buffer) : List Exchange → Descriptor → Prop where
  | kept {fd : Descriptor} (h : b.surface.prime = some fd) : Obtains b [] fd
  | exported {fd : Descriptor} (h : b.surface.prime = none) :
      Obtains b [⟨.ioctl (.primeHandleToFd b.surface.handle primeExportFlags), .ok fd.number⟩] fd

/-- A buffer with a descriptor. -/
def Buffer.withPrime (b : Buffer) (fd : Descriptor) : Buffer :=
  { b with surface := { b.surface with prime := some fd } }

theorem share_obtains : (share b).Ensures fun t b' =>
    ∀ fd, b'.surface.prime = some fd → Obtains b t fd ∧ b' = b.withPrime fd := by
  unfold share
  split
  · rename_i fd hprime
    refine ensures_pure_iff.2 fun fd' hfd' => ⟨.kept hfd', ?_⟩
    rw [Buffer.withPrime, ← hfd']
  · rename_i hprime
    refine ensures_bind_iff.2 (Device.ensures_primeHandleToFd_iff.2 ⟨?_, ?_, ?_⟩)
    · intro fd
      refine ensures_pure_iff.2 fun fd' hfd' => ?_
      cases hfd'
      exact ⟨.exported hprime, rfl⟩
    · intro number _
      refine ensures_bind_iff.2 (ensures_log_iff.2 (ensures_pure_iff.2 fun fd' hfd' => ?_))
      cases hprime.symm.trans hfd'
    · intro e
      refine ensures_bind_iff.2 (ensures_log_iff.2 (ensures_pure_iff.2 fun fd' hfd' => ?_))
      cases hprime.symm.trans hfd'

theorem Obtains.shares (h : Obtains b t fd) : (share b).Runs t (b.withPrime fd) := by
  unfold share
  cases h with
  | kept hprime =>
    have hsame : b.withPrime fd = b := by rw [Buffer.withPrime, ← hprime]
    rw [hprime, hsame]
    exact .done b
  | exported hprime =>
    rw [hprime]
    have hnumber : ¬ (fd.number : Int) < 0 := by omega
    refine runs_bind_iff.2 ⟨.ok fd, _, [], (List.append_nil _).symm, ?_, .done _⟩
    refine runs_call_bind_iff.2 ⟨.ok fd.number, [], rfl, runs_done_iff.2 ⟨rfl, ?_⟩⟩
    rw [if_neg hnumber, Int.toNat_natCast]

/-- The device has been asked for a descriptor and has given none. -/
def Withheld (handle : UInt32) (t : List Exchange) : Prop :=
  ∃ answer, ⟨.ioctl (.primeHandleToFd handle primeExportFlags), answer⟩ ∈ t ∧
    ∀ number : Int, answer = .ok number → number < 0

theorem Withheld.mono {handle : UInt32} {t' : List Exchange} (h : Withheld handle t)
    (hsub : ∀ x ∈ t, x ∈ t') : Withheld handle t' := by
  obtain ⟨answer, hmem, hnone⟩ := h
  exact ⟨answer, hsub _ hmem, hnone⟩

theorem share_withheld : (share b).Ensures fun t b' =>
    b'.surface.prime = none → b.surface.prime = none ∧ Withheld b.surface.handle t := by
  unfold share
  split
  · rename_i fd hprime
    exact ensures_pure_iff.2 fun hnone => by cases hprime.symm.trans hnone
  · rename_i hprime
    refine ensures_bind_iff.2 (Device.ensures_primeHandleToFd_iff.2 ⟨?_, ?_, ?_⟩)
    · exact fun fd => ensures_pure_iff.2 nofun
    · intro number hneg
      refine ensures_bind_iff.2 (ensures_log_iff.2 (ensures_pure_iff.2 fun _ => ⟨hprime, ?_⟩))
      refine ⟨.ok number, List.mem_cons_self .., fun n hn => ?_⟩
      cases hn
      exact hneg
    · intro e
      refine ensures_bind_iff.2 (ensures_log_iff.2 (ensures_pure_iff.2 fun _ => ⟨hprime, ?_⟩))
      exact ⟨.error e, List.mem_cons_self .., nofun⟩

/-- The rows of a buffer that has been wrapped fit a word, unless the device has
withheld the descriptor and so nobody has counted them. -/
theorem wrap_counted : (wrap b).Ensures fun t _ =>
    b.surface.rows < UInt32.size ∨ b.surface.prime = none ∧ Withheld b.surface.handle t := by
  rw [wrap, ensures_bind_iff]
  intro t₁ b₁ run₁ t₂ b₂ run₂
  cases hprime : b₁.surface.prime with
  | some fd =>
    obtain ⟨-, rfl⟩ := share_obtains _ _ run₁ fd hprime
    have hfits : (b.withPrime fd).surface.rows < UInt32.size := importView_counted _ _ run₂ rfl
    exact .inl hfits
  | none =>
    obtain ⟨hnone, withheld⟩ := share_withheld _ _ run₁ hprime
    exact .inr ⟨hnone, withheld.mono fun _ => List.mem_append_left _⟩

/-! ## Stops -/

theorem primeHandleToFd_safe {handle : UInt32} : (Device.primeHandleToFd handle).Safe :=
  safe_call.bind fun outcome => by cases outcome <;> exact safe_pure

theorem share_safe : (share b).Safe := by
  unfold share
  split
  · exact safe_pure
  · refine primeHandleToFd_safe.bind fun outcome => ?_
    cases outcome with
    | ok fd => exact safe_pure
    | error e => exact safe_call.bind fun _ => safe_pure

/-- The driver stops before it asks the engine, and drops the descriptor. -/
theorem importView_aborts_iff : (importView b).Aborts t cause ↔
    ∃ fd, b.surface.prime = some fd ∧ UInt32.size ≤ b.surface.rows ∧ t = [⟨.close fd, ()⟩] := by
  unfold importView
  split
  · rename_i hprime
    exact iff_of_false (safe_pure _ _) (by simp [hprime])
  · rename_i fd hprime
    split
    · rename_i hfits
      refine iff_of_false (fun h => ?_) fun ⟨_, _, hlarge, _⟩ => absurd hfits (Nat.not_lt.2 hlarge)
      refine Safe.bind safe_call (fun answer => ?_) _ _ h
      cases answer with
      | ok handle => exact safe_pure
      | error e => exact safe_call.bind fun _ => safe_pure
    · rename_i hlarge
      refine aborts_call_bind_iff.trans ⟨?_, ?_⟩
      · rintro ⟨_, _, rfl, stops⟩
        obtain ⟨rfl, -⟩ := aborts_abort_iff.1 stops
        exact ⟨fd, hprime, Nat.not_lt.1 hlarge, rfl⟩
      · rintro ⟨fd', hfd', -, rfl⟩
        cases hprime.symm.trans hfd'
        exact ⟨(), [], rfl, .abort _⟩

theorem wrap_aborts_iff : (wrap b).Aborts t cause ↔
    ∃ fd t', Obtains b t' fd ∧ UInt32.size ≤ b.surface.rows ∧ t = t' ++ [⟨.close fd, ()⟩] := by
  rw [wrap, share_safe.aborts_bind_iff]
  constructor
  · rintro ⟨b', t₁, t₂, rfl, run, stops⟩
    obtain ⟨fd, hfd, hlarge, rfl⟩ := importView_aborts_iff.1 stops
    obtain ⟨obtains, rfl⟩ := share_obtains _ _ run fd hfd
    exact ⟨fd, t₁, obtains, hlarge, rfl⟩
  · rintro ⟨fd, t', obtains, hlarge, rfl⟩
    exact ⟨_, t', _, rfl, obtains.shares, importView_aborts_iff.2 ⟨fd, rfl, hlarge, rfl⟩⟩

/-- An admission stops when the buffer of the origin has come by a descriptor and
its rows do not fit a word.  The engine is not asked for anything. -/
theorem admitted_aborts_iff {pool : State} {origin : Origin} {desc : SurfaceDesc}
    {g : Geometry} : (admitted pool origin desc g).Aborts t cause ↔
      ∃ fd t', Obtains (origin.buffer pool.nextId desc g) t' fd ∧
        UInt32.size ≤ desc.height.toNat + g.headerRows.toNat ∧
        t = ⟨.log (notice (.created pool.nextId origin.handle desc g)), ()⟩ ::
          (t' ++ [⟨.close fd, ()⟩]) := by
  refine aborts_log_bind_iff.trans ?_
  simp only [aborts_bind_iff_of_safe fun _ => safe_pure, wrap_aborts_iff]
  constructor
  · rintro ⟨_, rfl, fd, t', obtains, hlarge, rfl⟩
    exact ⟨fd, t', obtains, hlarge, rfl⟩
  · rintro ⟨fd, t', obtains, hlarge, rfl⟩
    exact ⟨_, rfl, fd, t', obtains, hlarge, rfl⟩

end DrmSurface.Rockchip
