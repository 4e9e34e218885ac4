import DrmSurface.Proofs.Ensures
import DrmSurface.Proofs.Turnover

/-!
# What an operation does to a pool

`Pool.Turnover` says how an operation changes the ids of a pool.  This module
says what the arguments of the operation, its calls and its result have to do
with the change.  An operation that fails leaves the pool as it is, unless the
device has refused to take back a mapping, and a destroyed buffer is counted
until the device has freed its object.

There are four groups.

* `freeings`, the answers of the device to the requests to free an object, and
  the operations that free one or lose one.
* `Pool.Effect`, all that an operation can do to a pool.
* What an effect does to the buffer with an id, with `Pool.get?_of_effects` for
  a history of effects.
* `Pool.Counted`, the meaning of the number of live buffers, which every effect
  keeps.  `Pool.Releases` goes on with it while all buffers are released.
-/

namespace DrmSurface

open Prog (Exchange)

/-! ## Freed objects -/

/-- A request to free an object. -/
def Call.isFree : Call → Bool
  | .ioctl (.gemClose _) | .ioctl (.vmwUnrefDmabuf _) => true
  | _ => false

/-- Whether the device has granted a request to free an object. -/
def Prog.Exchange.freed? : Exchange → Option Bool
  | ⟨.ioctl (.gemClose _), answer⟩ => some answer.isOk
  | ⟨.ioctl (.vmwUnrefDmabuf _), answer⟩ => some answer.isOk
  | _ => none

/-- The answers to the requests to free an object, in order. -/
def freeings (trace : List Exchange) : List Bool := trace.filterMap (·.freed?)

@[simp] theorem freeings_append (t₁ t₂ : List Exchange) :
    freeings (t₁ ++ t₂) = freeings t₁ ++ freeings t₂ :=
  List.filterMap_append

theorem freeings_eq_nil {trace : List Exchange} (h : ∀ x ∈ trace, x.call.isFree = false) :
    freeings trace = [] := by
  refine List.filterMap_eq_nil_iff.2 fun x hx => ?_
  have hx := h x hx
  obtain ⟨c, answer⟩ := x
  cases c with
  | ioctl request =>
    cases request with
    | gemClose | vmwUnrefDmabuf => cases hx
    | _ => rfl
  | _ => rfl

namespace Episode

/-- The episode has destroyed a buffer, and the device has freed its object. -/
def frees (e : Episode) : Bool := e.destroyed?.isSome && (freeings e.trace).contains true

/-- The episode has destroyed a buffer, and the device has not freed its
object. -/
def loses (e : Episode) : Bool := e.destroyed?.isSome && (freeings e.trace).contains false

variable {e : Episode} {op : Operation} {t : List Exchange} {error : DriverError}

theorem created?_of_error : created? ⟨op, t, .error error⟩ = none := by
  cases op <;> rfl

theorem destroyed?_of_error : destroyed? ⟨op, t, .error error⟩ = none := by
  cases op <;> rfl

theorem destroyed?_of_created? (h : e.created?.isSome) : e.destroyed? = none := by
  obtain ⟨op, t, result⟩ := e
  cases op with
  | destroy => cases h
  | _ => cases result <;> rfl

theorem created?_of_frees (h : e.frees) : e.created? = none := by
  cases hcreated : e.created? with
  | none => rfl
  | some id =>
    have hnone := destroyed?_of_created? (Option.isSome_of_eq_some hcreated)
    simp [frees, hnone] at h

/-- An operation that neither creates nor destroys gives out no id and takes
none away. -/
theorem idle_of_op (hcreation : e.op.isCreation = false) (hdestroy : ∀ id, e.op ≠ .destroy id) :
    e.created? = none ∧ e.destroyed? = none := by
  obtain ⟨op, t, result⟩ := e
  cases op with
  | create | importHandle | importName | importPrime => cases hcreation
  | destroy id => exact absurd rfl (hdestroy id)
  | _ => exact ⟨rfl, rfl⟩

theorem idle_of_observes (h : e.op.observes) : e.created? = none ∧ e.destroyed? = none := by
  refine idle_of_op ?_ fun id hop => ?_
  · cases hop : e.op <;> simp [hop, Operation.observes, Operation.isCreation] at h ⊢
  · simp [hop, Operation.observes] at h

/-- So does one that fails. -/
theorem idle_of_error (h : e.result = .error error) :
    e.created? = none ∧ e.destroyed? = none := by
  obtain ⟨op, t, result⟩ := e
  obtain rfl : result = .error error := h
  exact ⟨created?_of_error, destroyed?_of_error⟩

end Episode

/-! ## Effects -/

namespace Pool

variable {β : Type}

/-- A buffer that has left the pool is released with one request to free its
object.  It stays counted unless the device grants the request. -/
def Released (p : Pool β) (t : List Exchange) (p' : Pool β) : Prop :=
  p' = p ∧ freeings t = [false] ∨ p' = p.freed ∧ freeings t = [true]

/-- All that an operation can do to a pool.  A buffer that comes in is `New`
under its id.  A buffer becomes another one as it is `Mapped` or `Unmapped`
with a mapping. -/
inductive Effect (New : BufferId → β → Prop) (Mapped Unmapped : β → Mapping → β → Prop)
    (p : Pool β) : Episode → Pool β → Prop where
  /-- The operation has failed, but not because a mapping was not taken back. -/
  | failed {op : Operation} {t : List Exchange} {error : DriverError}
      (untorn : ∀ id cause, op = .unmap id → error ≠ .kernel .unmap cause) :
      Effect New Mapped Unmapped p ⟨op, t, .error error⟩ p
  | observed {e : Episode} (h : e.op.observes) : Effect New Mapped Unmapped p e p
  | added {e : Episode} {b : β} (created : e.created? = some p.nextId) (new : New p.nextId b) :
      Effect New Mapped Unmapped p e (p.add b)
  | mapped {id : BufferId} {b b' : β} {m : Mapping} {t : List Exchange}
      (found : p.get? id = some b) (h : Mapped b m b') :
      Effect New Mapped Unmapped p ⟨.map id, t, .ok m.start⟩ (p.set id b')
  | unmapped {id : BufferId} {b b' : β} {m : Mapping} {t : List Exchange}
      (found : p.get? id = some b) (h : Unmapped b m b') :
      Effect New Mapped Unmapped p ⟨.unmap id, t, .ok ()⟩ (p.set id b')
  /-- The device has not taken a mapping back.  The buffer has lost it all the
  same. -/
  | torn {id : BufferId} {b b' : β} {m : Mapping} {t : List Exchange} {cause : Errno}
      (found : p.get? id = some b) (h : Unmapped b m b')
      (refused : ⟨.unmap m, .error cause⟩ ∈ t) :
      Effect New Mapped Unmapped p ⟨.unmap id, t, .error (.kernel .unmap cause)⟩ (p.set id b')
  | destroyed {id : BufferId} {b : β} {t : List Exchange} {p' : Pool β}
      (found : p.get? id = some b) (h : Released (p.erase id) t p') :
      Effect New Mapped Unmapped p ⟨.destroy id, t, .ok ()⟩ p'

/-- A buffer is mapped or unmapped. -/
def Switched (Mapped Unmapped : β → Mapping → β → Prop) (b b' : β) : Prop :=
  ∃ m, Mapped b m b' ∨ Unmapped b m b'

variable {New : BufferId → β → Prop} {Mapped Unmapped : β → Mapping → β → Prop}
  {p p' : Pool β} {e : Episode} {id : BufferId} {b : β} {n : Nat}

theorem Effect.turnover (h : Effect New Mapped Unmapped p e p') :
    Turnover New (Switched Mapped Unmapped) p e.created? e.destroyed? p' := by
  cases h with
  | failed _ =>
    rw [Episode.created?_of_error, Episode.destroyed?_of_error]
    exact .kept
  | observed h =>
    obtain ⟨hcreated, hdestroyed⟩ := Episode.idle_of_observes h
    rw [hcreated, hdestroyed]
    exact .kept
  | added created new =>
    rw [Episode.destroyed?_of_created? (Option.isSome_of_eq_some created), created]
    exact .added new
  | mapped found h => exact .altered found ⟨_, .inl h⟩
  | unmapped found h | torn found h _ => exact .altered found ⟨_, .inr h⟩
  | destroyed found h =>
    rcases h with ⟨rfl, -⟩ | ⟨rfl, -⟩
    · exact .erased found
    · exact .freed found

/-- An operation that fails leaves the pool as it is, unless the device has not
taken back the mapping of a buffer, which the buffer has lost then. -/
theorem Effect.of_error {op : Operation} {t : List Exchange} {error : DriverError}
    (h : Effect New Mapped Unmapped p ⟨op, t, .error error⟩ p') :
    (p' = p ∧ ∀ id cause, op = .unmap id → error ≠ .kernel .unmap cause) ∨
      ∃ id b b' m cause, op = .unmap id ∧ error = .kernel .unmap cause ∧
        ⟨.unmap m, .error cause⟩ ∈ t ∧ p.get? id = some b ∧ Unmapped b m b' ∧
          p' = p.set id b' := by
  cases h with
  | failed untorn => exact .inl ⟨rfl, untorn⟩
  | observed h =>
    refine .inl ⟨rfl, fun id cause hop => ?_⟩
    subst hop
    cases h
  | added created _ =>
    rw [Episode.created?_of_error] at created
    cases created
  | torn found h refused => exact .inr ⟨_, _, _, _, _, rfl, rfl, refused, found, h, rfl⟩

/-- A mapping that succeeds changes the buffer that was there. -/
theorem Effect.of_map {t : List Exchange} {place : Address}
    (h : Effect New Mapped Unmapped p ⟨.map id, t, .ok place⟩ p') :
    ∃ b b' m, p.get? id = some b ∧ Mapped b m b' ∧ place = m.start ∧ p' = p.set id b' := by
  cases h with
  | observed h => cases h
  | added created _ => cases created
  | mapped found h => exact ⟨_, _, _, found, h, rfl, rfl⟩

/-! ## The buffer with an id -/

/-- The buffer with an id stays as it is unless it is new, mapped, unmapped or
destroyed. -/
theorem Effect.get?_of_untouched (h : Effect New Mapped Unmapped p e p')
    (hcreated : e.created? ≠ some id) (hmap : e.op ≠ .map id) (hunmap : e.op ≠ .unmap id) :
    p'.get? id = p.get? id ∨ e.op = .destroy id ∧ p'.get? id = none := by
  cases h with
  | failed _ | observed _ => exact .inl rfl
  | added created _ =>
    have hne : id ≠ p.nextId := by
      rintro rfl
      exact hcreated created
    exact .inl (by rw [get?_add, if_neg hne])
  | @mapped id' =>
    have hne : id ≠ id' := by
      rintro rfl
      exact hmap rfl
    exact .inl (by rw [get?_set, if_neg hne])
  | @unmapped id' | @torn id' =>
    have hne : id ≠ id' := by
      rintro rfl
      exact hunmap rfl
    exact .inl (by rw [get?_set, if_neg hne])
  | @destroyed id' _ _ _ _ h =>
    have hget : p'.get? id = (p.erase id').get? id := by
      rcases h with ⟨rfl, -⟩ | ⟨rfl, -⟩ <;> rfl
    by_cases hid : id = id'
    · subst hid
      exact .inr ⟨rfl, by simp [hget]⟩
    · exact .inl (by simp [hget, hid])

/-- An id that was given out before is not given out again. -/
theorem Effect.created?_ne (h : Effect New Mapped Unmapped p e p') (hp : p.Numbered n)
    (few : n + (if e.created?.isSome then 1 else 0) ≤ BufferId.count) (hid : id.value.toNat ≤ n) :
    e.created? ≠ some id := by
  intro hcreated
  have hturn := h.turnover
  rw [hcreated] at hturn few
  have hval := hp.value_nextId few
  rw [← hturn.eq_nextId_of_given] at hval
  omega

section Histories

variable {table : Table (Pool β)} {history : List Episode}

/-- A buffer that is there after a history under an id that was given out
before, and that was not mapped or unmapped, was there before. -/
theorem get?_of_effects
    (hstep : ∀ {p e p'}, Step table p e p' → Effect New Mapped Unmapped p e p')
    (run : Ran table p history p') (hp : p.Numbered n)
    (few : n + creations history ≤ BufferId.count) (hid : id.value.toNat ≤ n)
    (untouched : ∀ e ∈ history, e.op ≠ .map id ∧ e.op ≠ .unmap id)
    (hget : p'.get? id = some b) : p.get? id = some b := by
  induction run with
  | start => exact hget
  | @step history s s' e before now ih =>
    simp only [creations_append, creations_cons, creations_nil, Nat.zero_add] at few
    have hs := numbered_of_ran_from (fun h => (hstep h).turnover.change) before hp (by omega)
    have hne := (hstep now).created?_ne hs (by omega) (by omega : id.value.toNat ≤ _)
    obtain ⟨hmap, hunmap⟩ := untouched e (by simp)
    refine ih (by omega) (fun e' he' => untouched e' (List.mem_append_left _ he')) ?_
    rcases (hstep now).get?_of_untouched hne hmap hunmap with heq | ⟨-, hnone⟩
    · rwa [heq] at hget
    · rw [hnone] at hget
      cases hget

end Histories

/-! ## Live buffers -/

theorem length_ids : p.ids.length = p.buffers.values.length := by
  simp only [ids, SortedMap.keys, SortedMap.values, List.length_map]

theorem length_ids_erase (found : p.get? id = some b) :
    (p.erase id).ids.length + 1 = p.ids.length := by
  rw [length_ids, length_ids, (SortedMap.values_perm_erase found).length_eq]
  rfl

theorem Turnover.length_ids {Altered : β → β → Prop} {given taken : Option BufferId}
    (h : Turnover New Altered p given taken p') (hp : p.Numbered n)
    (few : n + (if given.isSome then 1 else 0) ≤ BufferId.count) :
    p'.ids.length + (if taken.isSome then 1 else 0) =
      p.ids.length + if given.isSome then 1 else 0 := by
  have hids := h.ids_eq hp few
  cases h with
  | kept => rfl
  | added _ => simp [hids]
  | altered found _ => simp [ids_set found]
  | erased found | freed found => simpa using length_ids_erase found

/-- An operation either destroys a buffer, with one request to free its object,
or it counts what it creates. -/
theorem Effect.live_cases (h : Effect New Mapped Unmapped p e p') :
    (e.destroyed? = none ∧ p'.live = p.live + if e.created?.isSome then 1 else 0) ∨
      e.destroyed?.isSome ∧ e.created? = none ∧
        (p'.live = p.live ∧ freeings e.trace = [false] ∨
          p'.live = p.live - 1 ∧ freeings e.trace = [true]) := by
  cases h with
  | failed _ =>
    rw [Episode.created?_of_error, Episode.destroyed?_of_error]
    exact .inl ⟨rfl, rfl⟩
  | observed h =>
    obtain ⟨hcreated, hdestroyed⟩ := Episode.idle_of_observes h
    rw [hcreated, hdestroyed]
    exact .inl ⟨rfl, rfl⟩
  | added created _ =>
    have hsome := Option.isSome_of_eq_some created
    rw [Episode.destroyed?_of_created? hsome, if_pos hsome]
    exact .inl ⟨rfl, rfl⟩
  | mapped _ _ | unmapped _ _ | torn _ _ _ => exact .inl ⟨rfl, rfl⟩
  | destroyed _ h =>
    refine .inr ⟨rfl, rfl, ?_⟩
    rcases h with ⟨rfl, h⟩ | ⟨rfl, h⟩
    · exact .inl ⟨rfl, h⟩
    · exact .inr ⟨rfl, h⟩

/-- An operation that frees an object takes one away from what is live, and one
that creates a buffer adds one. -/
theorem Effect.live_eq (h : Effect New Mapped Unmapped p e p') (hlive : p.ids.length ≤ p.live) :
    p'.live + (if e.frees then 1 else 0) = p.live + if e.created?.isSome then 1 else 0 := by
  rcases h.live_cases with ⟨hdestroyed, hlive'⟩ | ⟨hdestroyed, hcreated, hcases⟩
  · simp [Episode.frees, hdestroyed, hlive']
  · have hpositive : 0 < p.live := by
      obtain ⟨id, hid⟩ := Option.isSome_iff_exists.1 hdestroyed
      have hturn := h.turnover
      rw [hid] at hturn
      have hlength := List.length_pos_of_mem hturn.mem_of_taken
      omega
    rcases hcases with ⟨hlive', hfreed⟩ | ⟨hlive', hfreed⟩
    · simp [Episode.frees, hdestroyed, hcreated, hlive', hfreed]
    · have hfrees : e.frees = true := by
        simp [Episode.frees, hdestroyed, hfreed]
      rw [hfrees, hcreated, hlive']
      exact Nat.sub_add_cancel hpositive

/-- A destroyed buffer is either freed or lost. -/
theorem Effect.destroyed_eq (h : Effect New Mapped Unmapped p e p') :
    (if e.destroyed?.isSome then 1 else 0) =
      (if e.frees then 1 else 0) + if e.loses then 1 else 0 := by
  rcases h.live_cases with ⟨hdestroyed, -⟩ | ⟨hdestroyed, -, ⟨-, hfreed⟩ | ⟨-, hfreed⟩⟩ <;>
    simp [Episode.frees, Episode.loses, *]

/-- What a pool has live is what it holds and what was lost, and it is what was
created without what was freed. -/
structure Counted (p : Pool β) (history : List Episode) : Prop where
  live_eq : p.live = p.ids.length + history.countP (·.loses)
  created_eq : creations history = p.live + history.countP (·.frees)
  destroyed_eq : (destroyedIds history).length =
    history.countP (·.frees) + history.countP (·.loses)

theorem counted_empty : (∅ : Pool β).Counted [] := ⟨rfl, rfl, rfl⟩

variable {history : List Episode}

theorem Counted.step (h : p.Counted history) (effect : Effect New Mapped Unmapped p e p')
    (hp : p.Numbered (creations history)) (few : creations (history ++ [e]) ≤ BufferId.count) :
    p'.Counted (history ++ [e]) := by
  simp only [creations_append, creations_cons, creations_nil, Nat.zero_add] at few
  have hids := effect.turnover.length_ids hp few
  have hdestroyed := effect.destroyed_eq
  obtain ⟨h₁, h₂, h₃⟩ := h
  have hlive := effect.live_eq (by omega)
  refine ⟨?_, ?_, ?_⟩
  · simp only [List.countP_append, List.countP_singleton]
    omega
  · simp only [creations_append, creations_cons, creations_nil, List.countP_append,
      List.countP_singleton]
    omega
  · simp only [destroyedIds_append, destroyedIds_singleton, List.length_append,
      Option.length_toList, List.countP_append, List.countP_singleton]
    omega

theorem counted_of_ran {table : Table (Pool β)}
    (hstep : ∀ {p e p'}, Step table p e p' → Effect New Mapped Unmapped p e p')
    (run : Ran table ∅ history p) (few : creations history ≤ BufferId.count) :
    p.Counted history := by
  induction run with
  | start => exact counted_empty
  | @step history s s' e before now ih =>
    have hfew : creations history ≤ BufferId.count := by
      rw [creations_append] at few
      omega
    have hnumbered := numbered_of_ran (fun h => (hstep h).turnover.change) before hfew
    exact (ih hfew).step (hstep now) hnumbered few

/-! ## Releasing many buffers -/

/-- Buffers are released one after another, each of them with one request to
free its object. -/
structure Releases (release : Pool β → β → Prog (Pool β))
    (releaseAll : Pool β → List β → Prog (Pool β)) : Prop where
  nil : ∀ p, releaseAll p [] = pure p
  cons : ∀ p b bs, releaseAll p (b :: bs) = release p b >>= fun p' => releaseAll p' bs
  released : ∀ p b, (release p b).Ensures (Released p)

namespace Releases

variable {release : Pool β → β → Prog (Pool β)} {releaseAll : Pool β → List β → Prog (Pool β)}
  {bs : List β}

theorem append (h : Releases release releaseAll) (bs₁ bs₂ : List β) (p : Pool β) :
    releaseAll p (bs₁ ++ bs₂) = releaseAll p bs₁ >>= fun p' => releaseAll p' bs₂ := by
  induction bs₁ generalizing p with
  | nil => rw [h.nil, List.nil_append, pure_bind]
  | cons b bs₁ ih => simp only [List.cons_append, h.cons, bind_assoc, ih]

theorem releaseAll_asks {ok : Call → Prop} (hr : Releases release releaseAll)
    (h : ∀ p b, Prog.Asks ok (release p b)) (p : Pool β) (bs : List β) :
    Prog.Asks ok (releaseAll p bs) := by
  induction bs generalizing p with
  | nil =>
    rw [hr.nil]
    exact Prog.asks_pure
  | cons b bs ih =>
    rw [hr.cons]
    exact (h p b).bind fun p' => ih p'

/-- What is live after the release of no more buffers than are live is what was
not freed. -/
theorem live_eq (h : Releases release releaseAll) (few : bs.length ≤ p.live) :
    (releaseAll p bs).Ensures fun t p' =>
      (freeings t).length = bs.length ∧ p'.live + (freeings t).count true = p.live := by
  induction bs generalizing p with
  | nil =>
    rw [h.nil]
    exact Prog.ensures_pure_iff.2 ⟨rfl, rfl⟩
  | cons b bs ih =>
    rw [h.cons, Prog.ensures_bind_iff]
    rw [List.length_cons] at few
    refine (h.released p b).mono fun t p₁ hreleased => ?_
    rcases hreleased with ⟨rfl, hfreed⟩ | ⟨rfl, hfreed⟩
    · refine (ih (by omega)).mono fun t' p' htail => ?_
      simp [hfreed, htail]
    · have hlive : p.freed.live = p.live - 1 := rfl
      refine (ih (by omega)).mono fun t' p' htail => ?_
      obtain ⟨hlength, hcount⟩ := htail
      refine ⟨by simp [hfreed, hlength], ?_⟩
      simp only [freeings_append, hfreed, List.count_append, List.count_singleton_self]
      omega

/-- The release of all buffers of a pool passes through the release of the first
ones, and there is something live before each further release. -/
theorem exists_first (h : Releases release releaseAll) (hlive : p.ids.length ≤ p.live)
    {t : List Exchange} (run : (releaseAll p.emptied p.buffers.values).Runs t p') {k : Nat}
    (hk : k ≤ p.ids.length) :
    ∃ t₁ t₂ p₁, t = t₁ ++ t₂ ∧ (releaseAll p.emptied (p.buffers.values.take k)).Runs t₁ p₁ ∧
      p₁.live + (freeings t₁).count true = p.live ∧ (k < p.ids.length → 0 < p₁.live) := by
  rw [← List.take_append_drop k p.buffers.values, h.append, Prog.runs_bind_iff] at run
  obtain ⟨p₁, t₁, t₂, rfl, hfirst, -⟩ := run
  have htake : (p.buffers.values.take k).length = k := by
    rw [List.length_take, ← length_ids, Nat.min_eq_left hk]
  have hemptied : p.emptied.live = p.live := rfl
  obtain ⟨hlength, hcount⟩ := h.live_eq (by omega) _ _ hfirst
  refine ⟨t₁, t₂, p₁, rfl, hfirst, hcount, fun hlt => ?_⟩
  have hle : (freeings t₁).count true ≤ (freeings t₁).length := List.count_le_length
  omega

end Releases

end Pool

end DrmSurface
