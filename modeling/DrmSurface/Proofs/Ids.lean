import DrmSurface.Proofs.Driver
import Mathlib.Data.List.Nodup

/-!
# Buffer ids are not reused

A driver of either backend numbers its buffers one, two, three and so on, and
it lists those that have not been destroyed in this order.  An id is a word,
so this ends with the last word: the creation after it takes the first id
again, even if the buffer with this id is still there.

There are two groups.

* `ids_never_reused`, for all histories within the number of ids.
* `ids_wrap_around`, a history that goes beyond it.
-/

namespace DrmSurface

open Prog

namespace Driver

/-! ## Within the number of ids -/

variable {pageSize : Nat} {backend : Backend} {opening : List Exchange} {history : List Episode}
  {start d : Driver}

/-- The ids that a driver has given out are the first ones, and it lists those
that were not destroyed. -/
theorem recorded_of_ran (hnew : (Driver.new backend).Runs opening start)
    (run : Ran (perform pageSize) start history d) (few : creations history ≤ BufferId.count) :
    (createdIds history).map (·.value.toNat) = List.range' 1 (creations history) ∧
      d.ids = (createdIds history).filter (· ∉ destroyedIds history) := by
  rcases ran_cases hnew run with ⟨pool, rfl, hran⟩ | ⟨pool, rfl, reached⟩
  · have h := Pool.recorded_of_ran Vmwgfx.perform_turnover hran few
    exact ⟨h.created_eq, h.ids_eq⟩
  · have h := reached.recorded few
    exact ⟨h.created_eq, h.ids_eq⟩

/-- A driver gives out the ids one, two, three and so on, and at any time it
lists those that were not destroyed in this order.  So each new id is not
zero, it was not given out before, and it replaces no buffer. -/
theorem ids_never_reused (hnew : (Driver.new backend).Runs opening start)
    (run : Ran (perform pageSize) start history d) (few : creations history ≤ BufferId.count) :
    (createdIds history).map (·.value.toNat) = List.range' 1 (creations history) ∧
      d.ids = (createdIds history).filter (· ∉ destroyedIds history) ∧
      ∀ before e after s id, history = before ++ e :: after →
        Ran (perform pageSize) start before s →
        e.created? = some id → id.value ≠ 0 ∧ id ∉ createdIds before ∧ id ∉ s.ids := by
  obtain ⟨hcreated, hids⟩ := recorded_of_ran hnew run few
  refine ⟨hcreated, hids, ?_⟩
  intro before e after s id hhistory hbefore hid
  have hfresh : id ∉ createdIds before := by
    have hnodup : (createdIds history).Nodup := by
      refine List.Nodup.of_map (·.value.toNat) ?_
      rw [hcreated]
      exact List.nodup_range'
    rw [hhistory, ← List.singleton_append, createdIds_append, createdIds_append,
      createdIds_singleton, hid] at hnodup
    intro hmem
    exact List.disjoint_of_nodup_append hnodup hmem (by simp)
  refine ⟨id.value_ne_zero, hfresh, fun hlisted => ?_⟩
  have hfew : creations before ≤ BufferId.count := by
    rw [hhistory, creations_append] at few
    omega
  rw [(recorded_of_ran hnew hbefore hfew).2] at hlisted
  exact hfresh (List.mem_of_mem_filter hlisted)

/-- Three buffers, of which the second one is destroyed before the third one
is made. -/
theorem ids_never_reused_sample :
    ∃ opening start history d, (Driver.new .rockchip).Runs opening start ∧
      Ran (perform 4096) start history d ∧ creations history = 3 ∧
      (createdIds history).map (·.value.toNat) = [1, 2, 3] ∧
      d.ids = (createdIds history).filter (· ∉ destroyedIds history) := by
  have hnew : (Driver.new .rockchip).play granted = some (_, .rockchip ∅) := rfl
  have hplay : (playAll (perform 4096) granted (.rockchip ∅)
      [.create ⟨.xrgb8888, 16, 8, 4⟩ .general,
      .importName 3 ⟨.xrgb8888, 0, 8, 4⟩ 32, .destroy BufferId.first.next,
      .create ⟨.xrgb8888, 16, 8, 4⟩ .general]).map (creations ·.1) = some 3 := rfl
  obtain ⟨⟨history, d⟩, hops, hthree⟩ := Option.map_eq_some_iff.1 hplay
  have hthree : creations history = 3 := hthree
  have run := ran_of_playAll hops
  have h := ids_never_reused (runs_of_play hnew) run (by rw [hthree]; decide)
  refine ⟨_, _, history, d, runs_of_play hnew, run, hthree, ?_, h.2.1⟩
  rw [h.1, hthree]
  rfl

end Driver

/-! ## Beyond the number of ids -/

/-- After the last id the count starts again. -/
theorem BufferId.next_of_last {id : BufferId} (h : id.value.toNat = BufferId.count) :
    id.next = .first := by
  have hzero : id.value + 1 = 0 := by
    apply UInt32.toNat.inj
    rw [UInt32.toNat_add, h]
    rfl
  rw [next, dif_neg (by simpa using hzero)]

namespace Vmwgfx

variable {pageSize : Nat} {pool : State} {id : BufferId} {b : Buffer}

/-- In a world that grants every call a buffer can always be made. -/
theorem exists_create (pool : State) :
    ∃ e b, Step (perform pageSize) pool e (pool.add b) ∧ e.created? = some pool.nextId ∧
      b.surface.mapping = none := by
  have hplay : (perform pageSize pool (.create ⟨.xrgb8888, 0, 8, 4⟩ .general)).play granted =
      some (_, .ok pool.nextId, pool.add _) := rfl
  exact ⟨⟨_, _, _⟩, _, runs_of_play hplay, rfl, rfl⟩

/-- It can be destroyed, too. -/
theorem exists_destroy (hb : pool.get? id = some b) (hmapping : b.surface.mapping = none) :
    ∃ e, Step (perform pageSize) pool e (pool.erase id).freed ∧ e.created? = none := by
  have hmapped : (releaseMapping b).Runs [] () := by
    rw [releaseMapping, hmapping]
    exact .done _
  have hrelease : (release (pool.erase id) b).Runs
      [⟨.ioctl (.vmwUnrefDmabuf b.surface.handle), .ok ()⟩,
        ⟨.log (notice (.destroyed b.surface.handle)), ()⟩] (pool.erase id).freed := by
    unfold release
    exact hmapped.bind (.ask _ (.ask _ (.done _)))
  obtain ⟨t, ht⟩ : ∃ t, (perform pageSize pool (.destroy id)).Runs t
      (.ok (), (pool.erase id).freed) := by
    simp only [perform, destroy, hb]
    exact ⟨_, hrelease.bind (.done _)⟩
  exact ⟨⟨_, t, _⟩, ht, rfl⟩

/-- The first buffer is kept, and each other one is destroyed before the next
one is made. -/
theorem exists_first_kept (n : Nat) (hn : n < BufferId.count) :
    ∃ (history : List Episode) (pool : State) (last : BufferId),
      Ran (perform pageSize) ∅ history pool ∧
      creations history = n + 1 ∧ .first ∈ createdIds history ∧ pool.ids = [.first] ∧
      pool.nextId = last.next ∧ last.value.toNat = n + 1 := by
  induction n with
  | zero =>
    obtain ⟨e, b, hcreate, hcreated, -⟩ := exists_create ∅
    have hfirst : e.created? = some .first := hcreated
    exact ⟨[] ++ [e], _, .first, .step .start hcreate, by simp [hcreated], by simp [hfirst], rfl,
      rfl, rfl⟩
  | succ n ih =>
    obtain ⟨history, pool, last, run, hcount, hfirst, hids, hnext, hlast⟩ := ih (by omega)
    obtain ⟨e, b, hcreate, hcreated, hmapping⟩ := exists_create pool
    have hget : (pool.add b).get? pool.nextId = some b := by simp
    obtain ⟨e', hdestroy, hcreated'⟩ := exists_destroy hget hmapping
    have hval : pool.nextId.value.toNat = n + 2 := by
      rw [hnext, BufferId.value_next (by omega), hlast]
    have habove : ∀ id ∈ pool.ids, id.value.toNat < pool.nextId.value.toNat := by
      intro id hid
      obtain rfl : id = .first := by simpa [hids] using hid
      have hone : BufferId.first.value.toNat = 1 := rfl
      omega
    refine ⟨history ++ [e] ++ [e'], _, pool.nextId, (run.step hcreate).step hdestroy, ?_, ?_, ?_,
      rfl, hval⟩
    · simp [hcount, hcreated, hcreated']
    · simp [hfirst]
    · have hne : BufferId.first ≠ pool.nextId := by
        intro heq
        have hlt := habove .first (by simp [hids])
        rw [← heq] at hlt
        omega
      rw [Pool.ids_freed, Pool.ids_erase, Pool.ids_add habove, hids]
      simp [hne]

end Vmwgfx

/-- A driver keeps its first buffer and destroys all others.  When it has given
out every id it gives out the first one again, and the new buffer takes the
place of the one that is still there. -/
theorem Driver.ids_wrap_around :
    ∃ history e d d', Ran (perform 4096) (.vmwgfx ∅) history d ∧
      creations history = BufferId.count ∧
      .first ∈ createdIds history ∧ d.ids = [.first] ∧
      Step (perform 4096) d e d' ∧ e.created? = some .first ∧ d'.ids = [.first] := by
  obtain ⟨history, pool, last, run, hcount, hfirst, hids, hnext, hlast⟩ :=
    Vmwgfx.exists_first_kept (BufferId.count - 1) (by decide)
  obtain ⟨e, b, hcreate, hcreated, -⟩ := Vmwgfx.exists_create pool
  have hfull : BufferId.count - 1 + 1 = BufferId.count := rfl
  rw [hfull] at hcount hlast
  have hagain : pool.nextId = .first := hnext.trans (BufferId.next_of_last hlast)
  -- The first id is bound already, so the new buffer is bound in its place.
  obtain ⟨b₀, hb₀⟩ : ∃ b₀, pool.get? pool.nextId = some b₀ := by
    refine Option.isSome_iff_exists.1 (Pool.mem_ids_iff.1 ?_)
    simp [hids, hagain]
  have hids' : (pool.add b).ids = pool.ids := SortedMap.keys_insert_of_get? hb₀ b
  exact ⟨history, e, .vmwgfx pool, .vmwgfx (pool.add b),
    (Ran.embed_iff step_vmwgfx_iff).2 ⟨_, rfl, run⟩, hcount, hfirst, hids,
    (step_vmwgfx_iff _ _ _).2 ⟨_, rfl, hcreate⟩, by rw [hcreated, hagain], hids'.trans hids⟩

end DrmSurface
