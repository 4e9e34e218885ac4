import DrmSurface.Buffer.Surface
import DrmSurface.Proofs.OneBuffer
import Mathlib.Data.Option.Basic

/-!
# One store of buffers

What creating, mapping, unmapping and destroying buffers means, whatever kernel
does the work.  The store of this module knows a buffer without its kernel
handle, its descriptor and the place of its mapping, and it is told which of
the services of the kernel are refused.

There are four groups.

* `Service`, what a kernel does for a store, and the services that a history has
  been granted or refused.
* `Store`, with `Store.serve`, how it performs an operation, and `Store.uses`,
  which services the operation needs.
* Results that are alike.  Stores that are served alike give such results and stay
  the same (`Store.serve_alike`).
* `Pool.Served`, which says that a step of a driver is one of the store, and the
  operations that both backends share.
-/

namespace DrmSurface

open Prog

variable {pageSize : Nat}

/-! ## Services -/

/-- What a kernel does for a store of buffers. -/
inductive Service where
  | allocate
  | map
  | unmap
  | free
  deriving DecidableEq

/-- The error of an outcome. -/
def refusal? {α : Type} : Except Errno α → Option Errno
  | .ok _ => none
  | .error e => some e

/-- The service that a call has asked for, and why it was refused.  An allocation that
is to be asked for again is none yet.  The request for the place of a mapping is
a part of the mapping that counts if it comes to nothing, and so is a place that
cannot be mapped, which the vmwgfx driver knows beforehand and only reports. -/
def Prog.Exchange.service? (pageSize : Nat) : Exchange → Option (Service × Option Errno)
  | ⟨.ioctl (.vmwAllocDmabuf ..), answer⟩ =>
    if Device.isRestart answer then none else some (.allocate, refusal? answer)
  | ⟨.ioctl (.rockchipGemCreate ..), answer⟩ => some (.allocate, refusal? answer)
  | ⟨.ioctl (.rockchipGemMapOffset _), .error e⟩ => some (.map, some e)
  | ⟨.ioctl (.rockchipGemMapOffset _), .ok place⟩ =>
    if UInt64.size / 2 ≤ place then some (.map, some .valueTooLarge) else none
  | ⟨.log (.driver .vmwgfx (.misaligned _ place)), _⟩ =>
    if place % pageSize ≠ 0 then some (.map, some .invalidArgument) else none
  | ⟨.log (.driver .vmwgfx (.mapFailedAt _ _ place)), _⟩ =>
    if UInt64.size / 2 ≤ place then some (.map, some .valueTooLarge) else none
  | ⟨.map .., answer⟩ => some (.map, refusal? answer)
  | ⟨.unmap _, answer⟩ => some (.unmap, refusal? answer)
  | ⟨.ioctl (.gemClose _), answer⟩ => some (.free, refusal? answer)
  | ⟨.ioctl (.vmwUnrefDmabuf _), answer⟩ => some (.free, refusal? answer)
  | _ => none

/-- The services that some calls have asked for, in order. -/
def servicesOf (pageSize : Nat) (trace : List Exchange) : List (Service × Option Errno) :=
  trace.filterMap (·.service? pageSize)

@[simp] theorem servicesOf_nil : servicesOf pageSize [] = [] := rfl

@[simp] theorem servicesOf_append (t₁ t₂ : List Exchange) :
    servicesOf pageSize (t₁ ++ t₂) = servicesOf pageSize t₁ ++ servicesOf pageSize t₂ :=
  List.filterMap_append

theorem servicesOf_eq_nil {trace : List Exchange} (h : ∀ x ∈ trace, x.service? pageSize = none) :
    servicesOf pageSize trace = [] :=
  List.filterMap_eq_nil_iff.2 h

variable (pageSize) in
/-- A mapping of some bytes asks for its service, unless its place cannot be mapped. -/
theorem Device.map_services {source : MapSource} {length place : Nat} (h : 0 < length) :
    (Device.map source length place).Ensures fun t outcome =>
      match outcome with
      | .ok m =>
        m.length = length ∧ place < UInt64.size / 2 ∧ servicesOf pageSize t = [(.map, none)]
      | .error e => if UInt64.size / 2 ≤ place then e = .valueTooLarge ∧ t = []
        else servicesOf pageSize t = [(.map, some e)] := by
  rw [ensures_map_iff, if_neg (Nat.pos_iff_ne_zero.1 h)]
  split
  · rename_i hplace
    exact ⟨rfl, rfl⟩
  · rename_i hplace
    exact ⟨fun _ => ⟨rfl, Nat.not_le.1 hplace, rfl⟩, fun _ => rfl⟩

variable (pageSize) in
/-- The mapping of a buffer, if there is one, is given back with one service. -/
theorem Device.unmap_services {mapping : Option Mapping} {notice : Errno → Notice}
    (quiet : ∀ e, servicesOf pageSize [⟨.log (notice e), ()⟩] = []) :
    (match mapping with
      | none => return ()
      | some m => do logFailure (← Device.unmap m) notice : Prog Unit).Ensures fun t _ =>
        ∃ refused, servicesOf pageSize t =
          if mapping.isSome then [(Service.unmap, refused)] else [] := by
  cases mapping with
  | none => exact ensures_pure_iff.2 ⟨none, rfl⟩
  | some m =>
    refine ensures_bind_iff.2 (Device.ensures_unmap_iff.2 fun answer => ?_)
    refine ensures_logFailure_iff.2 ?_
    cases answer with
    | ok _ => exact ⟨none, rfl⟩
    | error e =>
      refine ⟨some e, ?_⟩
      rw [servicesOf_append, quiet]
      rfl

/-- What a caller sees of the result of an operation on a store: the error, or the id
of a new buffer. -/
def Episode.seen (e : Episode) : Except DriverError (Option BufferId) :=
  match e.result with
  | .ok _ => .ok e.created?
  | .error error => .error error

/-- How a kernel has answered the requests for one service. -/
def outcomes (pageSize : Nat) (service : Service) (history : List Episode) : List (Option Errno) :=
  (history.flatMap fun e => servicesOf pageSize e.trace).filterMap fun s =>
    if s.1 = service then some s.2 else none

/-! ## The store -/

/-- The geometry without the code of the engine for the format. -/
def Geometry.plain (g : Geometry) : Geometry :=
  { g with layout := { g.layout with native := none } }

/-- The surface without what only its kernel knows: its handle, its descriptor and the
place of its mapping. -/
def Surface.plain (s : Surface) : Surface :=
  { s with
    handle := 0, prime := none, geometry := s.geometry.plain
    mapping := s.mapping.map fun m => { m with start := ⟨0⟩ } }

@[simp] theorem Surface.isMapped_plain (s : Surface) : s.plain.isMapped = s.isMapped := by
  simp [plain, isMapped]

/-- A store of buffers without a kernel. -/
abbrev Store : Type := Pool Surface

namespace Store

/-- Ends an operation whose request has been granted or refused. -/
def settle (op : KernelOp) (refused : Option Errno) (result : Option BufferId)
    (otherwise granted : Store) : Except DriverError (Option BufferId) × Store :=
  match refused with
  | some cause => (.error (.kernel op cause), otherwise)
  | none => (.ok result, granted)

/-- Allocates a buffer. -/
def create (s : Store) (refused : Option Errno) (desc : SurfaceDesc) (placement : Placement) :
    Except DriverError (Option BufferId) × Store :=
  match Geometry.compute .generic desc with
  | .error e => (.error (.geometry e), s)
  | .ok g => settle .allocDmabuf refused (some s.nextId) s
    (s.add (.ofDesc s.nextId 0 desc g placement.isScanout))

/-- Maps all bytes of a buffer. -/
def map (s : Store) (refused : Option Errno) (id : BufferId) :
    Except DriverError (Option BufferId) × Store :=
  match s.get? id with
  | none => (.error (.noSuchBuffer id), s)
  | some b =>
    if b.isMapped then (.error (.alreadyMapped id), s)
    else settle .map refused none s
      (s.set id { b with mapping := some ⟨⟨0⟩, b.geometry.size⟩ })

/-- Unmaps a buffer.  The mapping is gone even if that is refused. -/
def unmap (s : Store) (refused : Option Errno) (id : BufferId) :
    Except DriverError (Option BufferId) × Store :=
  match s.get? id with
  | none => (.error (.noSuchBuffer id), s)
  | some b =>
    let unmapped := s.set id { b with mapping := none }
    if b.isMapped then settle .unmap refused none unmapped unmapped
    else (.error (.notMapped id), s)

/-- Destroys a buffer, which stays counted if its object is not freed. -/
def destroy (s : Store) (refused : Option Errno) (id : BufferId) :
    Except DriverError (Option BufferId) × Store :=
  match s.get? id with
  | none => (.error (.noSuchBuffer id), s)
  | some _ => (.ok none, match refused with
    | some _ => s.erase id
    | none => (s.erase id).freed)

/-- Performs an operation.  The store is told why each service is refused, if it is. -/
def serve (s : Store) (refused : Service → Option Errno) :
    Operation → Except DriverError (Option BufferId) × Store
  | .create desc placement => create s (refused .allocate) desc placement
  | .map id => map s (refused .map) id
  | .unmap id => unmap s (refused .unmap) id
  | .destroy id => destroy s (refused .free) id
  | _ => (.ok none, s)

/-- The services that an operation needs, in order. -/
def uses (s : Store) : Operation → List Service
  | .create desc _ =>
    match Geometry.compute .generic desc with
    | .ok _ => [.allocate]
    | .error _ => []
  | .map id =>
    match s.get? id with
    | some b => if b.isMapped then [] else [.map]
    | none => []
  | .unmap id =>
    match s.get? id with
    | some b => if b.isMapped then [.unmap] else []
    | none => []
  | .destroy id =>
    match s.get? id with
    | some b => (if b.isMapped then [.unmap] else []) ++ [.free]
    | none => []
  | _ => []

/-- No operation needs a service twice. -/
theorem nodup_uses (s : Store) (op : Operation) : (s.uses op).Nodup := by
  unfold uses
  split
  · split <;> simp
  · split
    · split <;> simp
    · simp
  · split
    · split <;> simp
    · simp
  · split
    · split <;> simp
    · simp
  · simp

end Store

/-- An operation that every backend has.  A buffer that is created has a format of
both tables and a size of 32 bits. -/
def Operation.IsCommon : Operation → Prop
  | .create desc _ =>
    (FormatTable.resolveGeneric desc.format).isSome ∧
    (FormatTable.resolveRockchip desc.format).isSome ∧
    ∀ g, Geometry.compute .generic desc = .ok g → g.size < UInt32.size
  | .map _ | .unmap _ | .destroy _ => True
  | _ => False

/-! ## Results that are alike -/

/-- The errors are the same, up to the name of the kernel call that was refused and
to causes that are related. -/
inductive DriverError.Alike (E : Errno → Errno → Prop) : DriverError → DriverError → Prop where
  | kernel {op op' : KernelOp} {cause cause' : Errno} (h : E cause cause') :
      Alike E (.kernel op cause) (.kernel op' cause')
  | same {e : DriverError} (h : ∀ op cause, e ≠ .kernel op cause) : Alike E e e

/-- The results are the same, up to errors that are alike. -/
inductive SeenAlike (E : Errno → Errno → Prop) :
    Except DriverError (Option BufferId) → Except DriverError (Option BufferId) → Prop where
  | ok (id : Option BufferId) : SeenAlike E (.ok id) (.ok id)
  | error {e e' : DriverError} (h : e.Alike E e') : SeenAlike E (.error e) (.error e')

variable {E : Errno → Errno → Prop}

theorem DriverError.Alike.congr {e₁ e₂ e₃ e₄ : DriverError} (h₁ : e₁.Alike Eq e₂)
    (h₂ : e₂.Alike E e₃) (h₃ : e₄.Alike Eq e₃) : e₁.Alike E e₄ := by
  cases h₁ with
  | kernel h =>
    subst h
    cases h₂ with
    | kernel h =>
      cases h₃ with
      | kernel h' =>
        subst h'
        exact .kernel h
      | same h' => exact absurd rfl (h' _ _)
    | same h => exact absurd rfl (h _ _)
  | same hne =>
    cases h₂ with
    | kernel h => exact absurd rfl (hne _ _)
    | same _ =>
      cases h₃ with
      | kernel h => exact absurd rfl (hne _ _)
      | same _ => exact .same hne

/-- Related results stay so if each is replaced by one that differs in the names of
kernel calls. -/
theorem SeenAlike.congr {r₁ r₂ r₃ r₄ : Except DriverError (Option BufferId)}
    (h₁ : SeenAlike Eq r₁ r₂) (h₂ : SeenAlike E r₂ r₃) (h₃ : SeenAlike Eq r₄ r₃) :
    SeenAlike E r₁ r₄ := by
  cases h₁ with
  | ok id =>
    cases h₂ with
    | ok => cases h₃ with
      | ok => exact .ok id
  | error h₁ =>
    cases h₂ with
    | error h₂ => cases h₃ with
      | error h₃ => exact .error (h₁.congr h₂ h₃)

namespace Store

variable {s : Store} {refused refused' : Service → Option Errno}

/-- Requests that are answered alike end alike. -/
theorem settle_alike {op : KernelOp} {o o' : Option Errno} {result : Option BufferId}
    {otherwise granted : Store} (h : Option.Rel E o o') :
    SeenAlike E (settle op o result otherwise granted).1 (settle op o' result otherwise granted).1 ∧
      (settle op o result otherwise granted).2 = (settle op o' result otherwise granted).2 := by
  cases h with
  | some h => exact ⟨.error (.kernel h), rfl⟩
  | none => exact ⟨.ok result, rfl⟩

/-- Two stores that are the same and are served alike give results that are alike, and
stay the same. -/
theorem serve_alike (op : Operation)
    (h : ∀ service ∈ s.uses op, Option.Rel E (refused service) (refused' service)) :
    SeenAlike E (s.serve refused op).1 (s.serve refused' op).1 ∧
      (s.serve refused op).2 = (s.serve refused' op).2 := by
  cases op with
  -- Each operation refuses by itself what is not there or not in order, in both stores, and
  -- otherwise ends with a request for a service that it uses.
  | create desc placement =>
    simp only [serve, create, uses] at h ⊢
    split
    · exact ⟨.error (.same nofun), rfl⟩
    · rename_i g hg
      rw [hg] at h
      exact settle_alike (h .allocate (by simp))
  | map id =>
    simp only [serve, map, uses] at h ⊢
    split
    · exact ⟨.error (.same nofun), rfl⟩
    · rename_i b hb
      simp only [hb] at h
      split
      · exact ⟨.error (.same nofun), rfl⟩
      · rename_i hmapped
        exact settle_alike (h .map (by simp [hmapped]))
  | unmap id =>
    simp only [serve, unmap, uses] at h ⊢
    split
    · exact ⟨.error (.same nofun), rfl⟩
    · rename_i b hb
      simp only [hb] at h
      split
      · rename_i hmapped
        exact settle_alike (h .unmap (by simp [hmapped]))
      · exact ⟨.error (.same nofun), rfl⟩
  | destroy id =>
    simp only [serve, destroy, uses] at h ⊢
    split
    · exact ⟨.error (.same nofun), rfl⟩
    · rename_i b hb
      simp only [hb] at h
      -- The result does not depend on the answer, and the count depends on whether it is a grant.
      have hfree := h .free (by simp)
      generalize refused .free = o, refused' .free = o' at hfree ⊢
      cases hfree <;> exact ⟨.ok _, rfl⟩
  | _ => exact ⟨.ok _, rfl⟩

end Store

namespace Pool

variable {β : Type} {surface : β → Surface} {p p' : Pool β} {id : BufferId} {b : β}

/-! ## Steps of a driver -/

/-- The buffers of a pool as a store. -/
def store (surface : β → Surface) (p : Pool β) : Store := p.map fun b => (surface b).plain

/-- A step of a driver is one of the store of its buffers, which uses the same services and
is refused them for the same reasons. -/
def Served (pageSize : Nat) (surface : β → Surface) (p : Pool β) (e : Episode)
    (p' : Pool β) : Prop :=
  ∃ refused : Service → Option Errno,
    servicesOf pageSize e.trace =
      ((p.store surface).uses e.op).map (fun service => (service, refused service)) ∧
    SeenAlike Eq e.seen ((p.store surface).serve refused e.op).1 ∧
    p'.store surface = ((p.store surface).serve refused e.op).2

theorem get?_store : (p.store surface).get? id = (p.get? id).map fun b => (surface b).plain :=
  get?_map _ _ _

theorem get?_store_of_none (surface : β → Surface) (h : p.get? id = none) :
    (p.store surface).get? id = none := by
  rw [get?_store, h]
  rfl

theorem get?_store_of_some (surface : β → Surface) (h : p.get? id = some b) :
    (p.store surface).get? id = some (surface b).plain := by
  rw [get?_store, h]
  rfl

section Create

variable {desc : SurfaceDesc} {placement : Placement} {t : List Exchange} {g : Geometry}

theorem served_create_of_error {e : GeometryError} (hg : Geometry.compute .generic desc = .error e)
    (ht : servicesOf pageSize t = []) :
    Served pageSize surface p ⟨.create desc placement, t, .error (.geometry e)⟩ p := by
  refine ⟨fun _ => none, ?_⟩
  simp only [Store.serve, Store.create, Store.uses, hg]
  exact ⟨ht, .error (.same nofun), trivial⟩

theorem served_create_of_refused {op : KernelOp} {cause : Errno}
    (hg : Geometry.compute .generic desc = .ok g)
    (ht : servicesOf pageSize t = [(.allocate, some cause)]) :
    Served pageSize surface p ⟨.create desc placement, t, .error (.kernel op cause)⟩ p := by
  refine ⟨fun _ => some cause, ?_⟩
  simp only [Store.serve, Store.create, Store.uses, hg]
  exact ⟨ht, .error (.kernel rfl), rfl⟩

theorem served_create (hg : Geometry.compute .generic desc = .ok g)
    (ht : servicesOf pageSize t = [(.allocate, none)])
    (hb : (surface b).plain = .ofDesc p.nextId 0 desc g placement.isScanout) :
    Served pageSize surface p ⟨.create desc placement, t, .ok p.nextId⟩ (p.add b) := by
  refine ⟨fun _ => none, ?_⟩
  simp only [Store.serve, Store.create, Store.uses, hg]
  refine ⟨ht, .ok _, ?_⟩
  rw [store, map_add, hb]
  rfl

end Create

section Map

/-- What mapping a buffer that is not mapped does: it asks for one service. -/
def Attaches (pageSize : Nat) (surface : β → Surface) (p : Pool β) (id : BufferId) (b : β)
    (t : List Exchange) : Except DriverError (Address × Pool β) → Prop
  | .ok r => servicesOf pageSize t = [(.map, none)] ∧ ∃ b', r.2 = p.set id b' ∧
      (surface b').plain =
        { (surface b).plain with mapping := some ⟨⟨0⟩, (surface b).geometry.size⟩ }
  | .error error => ∃ op cause, error = .kernel op cause ∧
      servicesOf pageSize t = [(.map, some cause)]

theorem map_served {attach : β → Attempt (Address × Pool β)}
    (h : ∀ b, p.get? id = some b → (surface b).isMapped = false →
      (attach b).run.Ensures (Attaches pageSize surface p id b)) :
    (Attempt.commit p (do
      let b ← Attempt.ofOption (p.get? id) (.noSuchBuffer id)
      if (surface b).isMapped then throw (.alreadyMapped id) else attach b)).Ensures fun t r =>
        Served pageSize surface p ⟨.map id, t, r.1⟩ r.2 := by
  rw [Attempt.ensures_commit_iff, Attempt.ensures_bind_iff, Attempt.ensures_ofOption_iff]
  cases hget : p.get? id with
  | none =>
    have hstore := get?_store_of_none surface hget
    refine ⟨fun _ => none, ?_⟩
    simp only [Store.serve, Store.map, Store.uses, hstore]
    exact ⟨rfl, .error (.same nofun), trivial⟩
  | some b =>
    have hstore := get?_store_of_some surface hget
    dsimp only
    split
    · rename_i hmapped
      refine Attempt.ensures_throw_iff.2 ⟨fun _ => none, ?_⟩
      simp only [Store.serve, Store.map, Store.uses, hstore, Surface.isMapped_plain, hmapped,
        if_true]
      exact ⟨rfl, .error (.same nofun), trivial⟩
    · rename_i hmapped
      refine (h b hget (by simpa using hmapped)).mono fun t outcome hattach => ?_
      cases outcome with
      | error error =>
        obtain ⟨op, cause, rfl, hservices⟩ := hattach
        refine ⟨fun _ => some cause, ?_⟩
        simp only [Store.serve, Store.map, Store.uses, hstore, Surface.isMapped_plain,
          if_neg hmapped]
        exact ⟨hservices, .error (.kernel rfl), rfl⟩
      | ok r =>
        obtain ⟨hservices, b', hr, hb'⟩ := hattach
        refine ⟨fun _ => none, ?_⟩
        simp only [Store.serve, Store.map, Store.uses, hstore, Surface.isMapped_plain,
          if_neg hmapped]
        refine ⟨?_, .ok none, ?_⟩
        · exact hservices
        · rw [show r.2 = _ from hr, store, map_set, hb']
          rfl

end Map

section Unmap

variable {unmapped : β → β} {notice : Errno → Notice}

theorem unmapWith_served (quiet : ∀ e, servicesOf pageSize [⟨.log (notice e), ()⟩] = [])
    (h : ∀ b, (surface (unmapped b)).plain = { (surface b).plain with mapping := none }) :
    (unmapWith (fun b => (surface b).mapping) unmapped notice p id).Ensures fun t r =>
      Served pageSize surface p ⟨.unmap id, t, r.1⟩ r.2 := by
  unfold unmapWith
  cases hget : p.get? id with
  | none =>
    have hstore := get?_store_of_none surface hget
    refine ensures_pure_iff.2 ⟨fun _ => none, ?_⟩
    simp only [Store.serve, Store.unmap, Store.uses, hstore]
    exact ⟨rfl, .error (.same nofun), trivial⟩
  | some b =>
    have hstore := get?_store_of_some surface hget
    dsimp only
    split
    · rename_i hmapping
      have hmapped : (surface b).plain.isMapped = false := by
        rw [Surface.isMapped_plain, Surface.isMapped, hmapping]
        rfl
      refine ensures_pure_iff.2 ⟨fun _ => none, ?_⟩
      simp only [Store.serve, Store.unmap, Store.uses, hstore, hmapped]
      exact ⟨rfl, .error (.same nofun), rfl⟩
    · rename_i m hmapping
      have hmapped : (surface b).plain.isMapped = true := by
        rw [Surface.isMapped_plain, Surface.isMapped, hmapping]
        rfl
      have hset : (p.set id (unmapped b)).store surface =
          (p.store surface).set id { (surface b).plain with mapping := none } := by
        rw [store, map_set, h, store]
      refine ensures_bind_iff.2 (Device.ensures_unmap_iff.2 fun answer => ?_)
      cases answer with
      | ok _ =>
        refine ensures_pure_iff.2 ⟨fun _ => none, ?_⟩
        simp only [Store.serve, Store.unmap, Store.uses, hstore, hmapped, if_true]
        exact ⟨rfl, .ok none, hset⟩
      | error e =>
        refine ensures_bind_iff.2 (ensures_log_iff.2 (ensures_pure_iff.2 ⟨fun _ => some e, ?_⟩))
        simp only [Store.serve, Store.unmap, Store.uses, hstore, hmapped, if_true]
        refine ⟨?_, .error (.kernel rfl), hset⟩
        rw [List.append_nil, servicesOf_append, quiet]
        rfl

end Unmap

section Destroy

variable {release : Pool β → β → Prog (Pool β)}

/-- The release of a buffer uses the services that its destruction needs, and the buffer
stays counted if its object is not freed. -/
def ReleaseServed (pageSize : Nat) (surface : β → Surface)
    (release : Pool β → β → Prog (Pool β)) : Prop :=
  ∀ p b, (release p b).Ensures fun t p' => ∃ unmapped freed : Option Errno,
    servicesOf pageSize t =
      (if (surface b).isMapped then [(.unmap, unmapped)] else []) ++ [(.free, freed)] ∧
    p' = match freed with
      | some _ => p
      | none => p.freed

theorem destroyWith_served (h : ReleaseServed pageSize surface release) :
    (destroyWith release p id).Ensures fun t r =>
      Served pageSize surface p ⟨.destroy id, t, r.1⟩ r.2 := by
  unfold destroyWith
  cases hget : p.get? id with
  | none =>
    have hstore := get?_store_of_none surface hget
    refine ensures_pure_iff.2 ⟨fun _ => none, ?_⟩
    simp only [Store.serve, Store.destroy, Store.uses, hstore]
    exact ⟨rfl, .error (.same nofun), trivial⟩
  | some b =>
    have hstore := get?_store_of_some surface hget
    refine ensures_bind_iff.2 ((h _ b).mono fun t p' hreleased => ensures_pure_iff.2 ?_)
    obtain ⟨unmapped, freed, hservices, rfl⟩ := hreleased
    refine ⟨fun service => if service = .unmap then unmapped else freed, ?_⟩
    simp only [Store.serve, Store.destroy, Store.uses, hstore, Surface.isMapped_plain]
    refine ⟨?_, .ok none, ?_⟩
    · rw [List.append_nil, hservices]
      split <;> rfl
    · rw [store, store, ← map_erase]
      cases freed <;> rfl

end Destroy

end Pool

end DrmSurface
