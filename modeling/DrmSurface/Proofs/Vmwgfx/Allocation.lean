import DrmSurface.Proofs.Exact
import DrmSurface.Proofs.Vmwgfx.Change

/-!
# Allocations from end to end

The vmwgfx driver asks the device for as many bytes as the geometry of a
buffer has.  It asks again as long as the device wants to be asked again, and
the request is the same each time.  A buffer that it gets is mapped later with
that size, at the place that the device has named.

There are four groups.

* `requests`, the calls of an allocation.  They are all its runs.
* The words in memory.  The reply of the device lies over the request, so a
  failing answer may leave other words in the place of the request.
* Creation, which is one of three things: a refused geometry, a size that is no
  word, or an allocation.
* `allocation_end_to_end`, with the mappings of the buffer afterwards.
-/

namespace DrmSurface

open Prog

variable {size : UInt32} {t : List Exchange}

/-! ## The calls of an allocation -/

/-- The calls of an allocation that the device wants repeated `n` times. -/
def requests (size : UInt32) (n : Nat) (answer : Except Errno DmabufReply) : List Exchange :=
  List.replicate n ⟨.ioctl (.vmwAllocDmabuf size 0), .error .restart⟩ ++
    [⟨.ioctl (.vmwAllocDmabuf size 0), answer⟩]

theorem Device.runs_vmwAllocDmabuf_iff {outcome : Except Errno DmabufReply} :
    (vmwAllocDmabuf size).Runs t outcome ↔
      isRestart outcome = false ∧ ∃ n, t = requests size n outcome := by
  constructor
  · intro run
    exact ⟨isRestart_vmwAllocDmabuf t outcome run, ensures_vmwAllocDmabuf t outcome run⟩
  · rintro ⟨hlast, n, rfl⟩
    induction n with
    | zero =>
      exact Runs.settled (c := .ioctl (.vmwAllocDmabuf size 0)) outcome hlast (.done outcome)
    | succ n ih => exact Runs.again (c := .ioctl (.vmwAllocDmabuf size 0)) (.error .restart) rfl ih

/-! ## The words in memory -/

/-- What the driver makes of an answer. -/
def DmabufAnswer.outcome (answer : DmabufAnswer) : Except Errno DmabufReply :=
  match answer.refusal with
  | none => .ok answer.left.reply
  | some e => .error e

/-- The answers of a device that asks for a repetition as often as it leaves words
behind, and then gives its last answer. -/
def interrupted (left : List DmabufWords) (last : DmabufAnswer) : List DmabufAnswer :=
  left.map (⟨·, some .restart⟩) ++ [last]

open DmabufWords (attempts)

/-- The request that an attempt has handed over, with the outcome. -/
def attemptedCall (attempt : DmabufWords × DmabufAnswer) : Exchange :=
  ⟨.ioctl (.vmwAllocDmabuf attempt.1.mapLow attempt.1.mapHigh), attempt.2.outcome⟩

/-- Each attempt hands over the size and nothing else, whatever was left behind. -/
theorem DmabufWords.words_of_mem_attempts {memory : DmabufWords} {answers : List DmabufAnswer} :
    ∀ attempt ∈ attempts size memory answers, attempt.1 = ⟨size, 0, 0, 0, 0, 0⟩ := by
  induction answers generalizing memory with
  | nil => simp [attempts]
  | cons answer answers ih =>
    intro attempt hattempt
    rcases List.mem_cons.1 hattempt with rfl | hattempt
    · exact DmabufWords.attempt_eq size memory
    · split at hattempt
      · exact ih attempt hattempt
      · cases hattempt

/-- The attempts in memory are the calls of the allocation. -/
theorem DmabufWords.map_attempts {memory : DmabufWords} (left : List DmabufWords)
    {last : DmabufAnswer} (hlast : last.refusal ≠ some .restart) :
    (attempts size memory (interrupted left last)).map attemptedCall =
      requests size left.length last.outcome := by
  induction left generalizing memory with
  | nil =>
    rw [interrupted, List.map_nil, List.nil_append, attempts, if_neg hlast]
    rfl
  | cons words left ih =>
    rw [interrupted, List.map_cons, List.cons_append, attempts, if_pos rfl, List.map_cons,
      ← interrupted, ih]
    rfl

namespace Vmwgfx

variable {pageSize : Nat} {pool pool' : State} {desc : SurfaceDesc} {placement : Placement}
  {g : Geometry} {id : BufferId} {b : Buffer}

/-! ## Creation -/

/-- The buffer of a reply of the device. -/
def allocated (id : BufferId) (desc : SurfaceDesc) (placement : Placement) (g : Geometry)
    (reply : DmabufReply) : Buffer :=
  { surface := .ofDesc id reply.handle desc g placement.isScanout
    mapHandle := reply.mapHandle, gmrOffset := reply.gmrOffset, mapCount := 0 }

variable {r : Except DriverError BufferId}

theorem step_create_of_error {e : GeometryError} (hg : Geometry.compute .generic desc = .error e) :
    Step (perform pageSize) pool ⟨.create desc placement, t, r⟩ pool' ↔
      t = [⟨.log (notice (.cannotCreate e)), ()⟩] ∧ r = .error (.geometry e) ∧ pool' = pool := by
  refine Attempt.runs_commit_iff.trans ?_
  simp only [create, Attempt.runs_refuse_iff, hg]
  constructor
  · rintro ⟨outcome, ⟨rfl, rfl⟩, hend⟩
    exact ⟨rfl, hend⟩
  · rintro ⟨rfl, hend⟩
    exact ⟨.error _, ⟨rfl, rfl⟩, hend⟩

theorem step_create_of_large (hg : Geometry.compute .generic desc = .ok g)
    (hlarge : UInt32.size ≤ g.size) :
    Step (perform pageSize) pool ⟨.create desc placement, t, r⟩ pool' ↔
      t = [] ∧ r = .error (.geometry (.overflow desc.width desc.height desc.headerSize)) ∧
        pool' = pool := by
  refine Attempt.runs_commit_iff.trans ?_
  simp only [create, Attempt.runs_refuse_iff, hg, if_pos hlarge, Attempt.runs_throw_iff]
  constructor
  · rintro ⟨outcome, ⟨rfl, rfl⟩, hend⟩
    exact ⟨rfl, hend⟩
  · rintro ⟨rfl, hend⟩
    exact ⟨.error _, ⟨rfl, rfl⟩, hend⟩

theorem step_create_of_fits (hg : Geometry.compute .generic desc = .ok g)
    (hsize : size.toNat = g.size) :
    Step (perform pageSize) pool ⟨.create desc placement, t, r⟩ pool' ↔
      ∃ n answer, Device.isRestart answer = false ∧
        match answer with
        | .error e =>
          t = requests size n answer ++ [⟨.log (notice (.allocFailed size e)), ()⟩] ∧
            r = .error (.kernel .allocDmabuf e) ∧ pool' = pool
        | .ok reply =>
          t = requests size n answer ++
              [⟨.log (notice (.allocated pool.nextId desc g reply.mapHandle)), ()⟩] ∧
            r = .ok pool.nextId ∧
            pool' = pool.add (allocated pool.nextId desc placement g reply) := by
  have hfits : ¬ UInt32.size ≤ g.size := by
    rw [← hsize, Nat.not_le]
    exact size.toNat_lt
  have hword : UInt32.ofNat g.size = size := by
    rw [← hsize, UInt32.ofNat_toNat]
  refine Attempt.runs_commit_iff.trans ?_
  simp only [create, Attempt.runs_refuse_iff, hg, if_neg hfits, hword, Attempt.runs_request_iff,
    Device.runs_vmwAllocDmabuf_iff, Attempt.runs_log_bind_iff, Attempt.runs_pure_iff]
  constructor
  · rintro ⟨outcome, ⟨t₁, answer, ⟨hlast, n, rfl⟩, hrest⟩, hend⟩
    refine ⟨n, answer, hlast, ?_⟩
    cases answer with
    | error e =>
      obtain ⟨rfl, rfl⟩ := hrest
      exact ⟨rfl, hend⟩
    | ok reply =>
      obtain ⟨_, rfl, _, rfl, rfl, rfl⟩ := hrest
      exact ⟨rfl, hend⟩
  · rintro ⟨n, answer, hlast, h⟩
    cases answer with
    | error e =>
      obtain ⟨rfl, hend⟩ := h
      exact ⟨.error _, ⟨_, _, ⟨hlast, n, rfl⟩, rfl, rfl⟩, hend⟩
    | ok reply =>
      obtain ⟨rfl, hend⟩ := h
      exact ⟨.ok (_, _), ⟨_, _, ⟨hlast, n, rfl⟩, _, rfl, _, rfl, rfl, rfl⟩, hend⟩

/-! ## The mappings of a buffer -/

theorem Remapped.trans {b₁ b₂ b₃ : Buffer} (h₁ : Remapped b₁ b₂) (h₂ : Remapped b₂ b₃) :
    Remapped b₁ b₃ := by
  rw [Remapped] at *
  rw [h₂, h₁]

/-- A buffer is mapped by one call, with its size and at its place. -/
theorem map_calls (hb : pool.get? id = some b) :
    (Attempt.commit pool (map pageSize pool id)).Ensures fun t r =>
      (∀ x ∈ t, x.call = .map .device b.surface.geometry.size b.mapHandle ∨
        ∃ n, x.call = .log n) ∧
      ∀ place, r.1 = .ok place →
        (⟨.map .device b.surface.geometry.size b.mapHandle, .ok place⟩ : Exchange) ∈ t ∧
        ∃ b', r.2.get? id = some b' ∧
          b'.surface.mapping = some ⟨place, b.surface.geometry.size⟩ := by
  rw [Attempt.ensures_commit_iff, map, Attempt.ensures_bind_iff, Attempt.ensures_ofOption_iff]
  simp only [hb, List.nil_append]
  split
  · exact Attempt.ensures_throw_iff.2 (by simp)
  · split
    · refine Attempt.ensures_bind_iff.2 (Attempt.ensures_lift_iff.2 (ensures_log_iff.2 ?_))
      exact Attempt.ensures_throw_iff.2 (by simp)
    · refine Attempt.ensures_request_iff.2 (Device.ensures_map_iff.2 ?_)
      split
      · simp
      · split
        · simp
        · refine ⟨fun start => ?_, fun e => by simp⟩
          refine Attempt.ensures_bind_iff.2 (Attempt.ensures_lift_iff.2 (ensures_log_iff.2 ?_))
          exact Attempt.ensures_pure_iff.2 (by simp)

/-- A buffer that was allocated at some time, and whose id has not been given out
again, is mapped with the size of its geometry at the place that the device has
named in the allocation. -/
theorem map_calls_of_ran {reply : DmabufReply} {between : List Episode} {s s' : State}
    (run : Ran (perform pageSize) (pool.add (allocated pool.nextId desc placement g reply))
      between s)
    (hgiven : ∀ e ∈ between, e.created? ≠ some pool.nextId) {r : Except DriverError Address}
    (now : Step (perform pageSize) s ⟨.map pool.nextId, t, r⟩ s') :
    (∀ x ∈ t, x.call = .map .device g.size reply.mapHandle ∨ ∃ n, x.call = .log n) ∧
      ∀ place, r = .ok place →
        (⟨.map .device g.size reply.mapHandle, .ok place⟩ : Exchange) ∈ t ∧
        ∃ b, s'.get? pool.nextId = some b ∧ b.surface.mapping = some ⟨place, g.size⟩ := by
  cases hb : s.get? pool.nextId with
  | none =>
    have hnone : map pageSize s pool.nextId = throw (.noSuchBuffer pool.nextId) := by
      simp only [map, hb]
      rfl
    have now : (Attempt.commit s (map pageSize s pool.nextId)).Runs t (r, s') := now
    rw [hnone, Attempt.runs_commit_iff] at now
    obtain ⟨outcome, run, hend⟩ := now
    obtain ⟨rfl, rfl⟩ := Attempt.runs_throw_iff.1 run
    obtain ⟨rfl, -⟩ := hend
    simp
  | some b =>
    obtain ⟨b₀, hb₀, hsame⟩ := Pool.get?_of_ran_of_not_given
      (fun now => (perform_turnover now).change) (fun _ => rfl) Remapped.trans run hgiven hb
    rw [Pool.get?_add, if_pos rfl] at hb₀
    cases hb₀
    have hgeometry : b.surface.geometry = g := by rw [hsame]; rfl
    have hplace : b.mapHandle = reply.mapHandle := by rw [hsame]; rfl
    have hcalls := map_calls hb _ _ now
    rwa [hgeometry, hplace] at hcalls

/-! ## From the geometry to the mapping -/

/-- A creation fails if the surface cannot be laid out or its size is no word, and
then it makes no request.  Otherwise it makes one request more than the device
asks to have repeated.  Each of them has the whole size and no padding, whatever
earlier answers have left in its words, and there are no calls beside them but one
notice.  A refusal is returned, and nothing is created.  After a reply there is a
new buffer with the geometry and with the handle and the two places of the reply.
As long as its id is not given out again it is mapped with the size that was asked
for, at the place that was named. -/
theorem allocation_end_to_end (pool : State) (desc : SurfaceDesc) (placement : Placement) :
    (∀ e, Geometry.compute .generic desc = .error e → ∀ t r pool',
      Step (perform pageSize) pool ⟨.create desc placement, t, r⟩ pool' ↔
        t = [⟨.log (notice (.cannotCreate e)), ()⟩] ∧ r = .error (.geometry e) ∧
          pool' = pool) ∧
    (∀ g, Geometry.compute .generic desc = .ok g → UInt32.size ≤ g.size → ∀ t r pool',
      Step (perform pageSize) pool ⟨.create desc placement, t, r⟩ pool' ↔
        t = [] ∧ r = .error (.geometry (.overflow desc.width desc.height desc.headerSize)) ∧
          pool' = pool) ∧
    ∀ g, Geometry.compute .generic desc = .ok g → g.size < UInt32.size →
      ∃ size : UInt32, size.toNat = g.size ∧
        (∀ t r pool', Step (perform pageSize) pool ⟨.create desc placement, t, r⟩ pool' ↔
          ∃ n answer, Device.isRestart answer = false ∧
            match answer with
            | .error e =>
              t = requests size n answer ++ [⟨.log (notice (.allocFailed size e)), ()⟩] ∧
                r = .error (.kernel .allocDmabuf e) ∧ pool' = pool
            | .ok reply =>
              t = requests size n answer ++
                  [⟨.log (notice (.allocated pool.nextId desc g reply.mapHandle)), ()⟩] ∧
                r = .ok pool.nextId ∧
                pool' = pool.add (allocated pool.nextId desc placement g reply)) ∧
        (∀ reply b, b = allocated pool.nextId desc placement g reply →
          b.surface.handle = reply.handle ∧ b.mapHandle = reply.mapHandle ∧
            b.gmrOffset = reply.gmrOffset ∧ b.surface.geometry = g ∧
            b.surface.geometry.size = size.toNat) ∧
        (∀ memory left last, last.refusal ≠ some .restart →
          (attempts size memory (interrupted left last)).map attemptedCall =
            requests size left.length last.outcome ∧
          ∀ attempt ∈ attempts size memory (interrupted left last),
            attempt.1 = ⟨size, 0, 0, 0, 0, 0⟩) ∧
        ∀ reply between s, Ran (perform pageSize)
            (pool.add (allocated pool.nextId desc placement g reply)) between s →
          (∀ e ∈ between, e.created? ≠ some pool.nextId) →
          ∀ t r s', Step (perform pageSize) s ⟨.map pool.nextId, t, r⟩ s' →
            (∀ x ∈ t, x.call = .map .device g.size reply.mapHandle ∨ ∃ n, x.call = .log n) ∧
            ∀ place, r = .ok place →
              (⟨.map .device g.size reply.mapHandle, .ok place⟩ : Exchange) ∈ t ∧
              ∃ b, s'.get? pool.nextId = some b ∧
                b.surface.mapping = some ⟨place, g.size⟩ := by
  refine ⟨fun e hg t r pool' => step_create_of_error hg,
    fun g hg hlarge t r pool' => step_create_of_large hg hlarge, fun g hg hfits => ?_⟩
  have hsize : (UInt32.ofNat g.size).toNat = g.size := UInt32.toNat_ofNat_of_lt' hfits
  refine ⟨UInt32.ofNat g.size, hsize, fun t r pool' => step_create_of_fits hg hsize, ?_, ?_, ?_⟩
  · rintro reply b rfl
    exact ⟨rfl, rfl, rfl, rfl, hsize.symm⟩
  · intro memory left last hlast
    exact ⟨DmabufWords.map_attempts left hlast, DmabufWords.words_of_mem_attempts⟩
  · intro reply between s run hgiven t r s' now
    exact map_calls_of_ran run hgiven now

/-- An allocation of 160 bytes is interrupted twice, and the first interruption
leaves other words behind.  The buffer is mapped at the place that the device
names in the end. -/
theorem allocation_end_to_end_sample :
    ∃ t pool t' s,
      Step (perform 4096) ∅ ⟨.create ⟨.xrgb8888, 16, 8, 4⟩ .scanout, t, .ok .first⟩ pool ∧
      t = requests 160 2 (.ok ⟨7, 8192, 3⟩) ++
        [⟨.log (notice (.allocated .first ⟨.xrgb8888, 16, 8, 4⟩
          ⟨⟨32, 4, none⟩, 32, 1, 160, 32⟩ 8192)), ()⟩] ∧
      (attempts 160 ⟨1, 1, 1, 1, 1, 1⟩ (interrupted [⟨9, 9, 9, 9, 9, 9⟩, ⟨0, 0, 0, 0, 0, 0⟩]
        ⟨⟨8192, 0, 7, 0, 3, 0⟩, none⟩)).map attemptedCall = requests 160 2 (.ok ⟨7, 8192, 3⟩) ∧
      Step (perform 4096) pool ⟨.map .first, t', .ok ⟨4096⟩⟩ s ∧
      (⟨.map .device 160 8192, .ok ⟨4096⟩⟩ : Exchange) ∈ t' ∧
      (s.get? .first).bind (·.surface.mapping) = some ⟨⟨4096⟩, 160⟩ := by
  have hg : Geometry.compute .generic ⟨.xrgb8888, 16, 8, 4⟩ =
      .ok ⟨⟨32, 4, none⟩, 32, 1, 160, 32⟩ := rfl
  obtain ⟨-, -, hfits⟩ := allocation_end_to_end ∅ ⟨.xrgb8888, 16, 8, 4⟩ .scanout
  obtain ⟨size, hsize, hcreate, -, hwords, hmap⟩ := hfits _ hg (by decide)
  obtain rfl : size = 160 := UInt32.toNat_inj.1 hsize
  have hplay : ((perform 4096 ((∅ : State).add (allocated .first ⟨.xrgb8888, 16, 8, 4⟩ .scanout
      ⟨⟨32, 4, none⟩, 32, 1, 160, 32⟩ ⟨7, 8192, 3⟩)) (.map .first)).play granted).map (·.2.1) =
      some (.ok ⟨4096⟩) := rfl
  obtain ⟨⟨t', r, s⟩, hrun, rfl⟩ := Option.map_eq_some_iff.1 hplay
  obtain ⟨-, hmapped⟩ := hmap ⟨7, 8192, 3⟩ [] _ .start (by simp) t' _ s (runs_of_play hrun)
  obtain ⟨hmem, b, hb, hmapping⟩ := hmapped _ rfl
  refine ⟨_, _, t', s, (hcreate _ _ _).2 ⟨2, .ok ⟨7, 8192, 3⟩, rfl, rfl, rfl, rfl⟩, rfl,
    (hwords ⟨1, 1, 1, 1, 1, 1⟩ [⟨9, 9, 9, 9, 9, 9⟩, ⟨0, 0, 0, 0, 0, 0⟩]
      ⟨⟨8192, 0, 7, 0, 3, 0⟩, none⟩ (by simp)).1, runs_of_play hrun, hmem, ?_⟩
  rw [show s.get? .first = some b from hb, Option.bind_some, hmapping]

end Vmwgfx

end DrmSurface
