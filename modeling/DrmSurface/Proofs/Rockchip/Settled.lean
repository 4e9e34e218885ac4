import DrmSurface.Proofs.Exact
import DrmSurface.Proofs.Rockchip.Change

/-!
# How creations of the Rockchip driver come out

A buffer that comes from elsewhere is described by its owner.  The driver computes the
geometry for itself and accepts the description only if it says the same, and
where the device or the descriptor tells how many bytes there are, the whole
geometry has to lie within them.

There are four groups.

* `Stated`, a description that is true, and `OfOrigin`, the buffer that is made
  of a geometry.
* `Settled`, what holds when a creation has ended, with success or without.
* The four creations, one by one.  `Opening` has the ways to end before there is a
  handle for a descriptor.
* The creations come to an end in every world.
-/

namespace DrmSurface.Rockchip

open Prog
open Attempt hiding asks_pure ensures_bind_iff ensures_pure_iff

variable {pool pool' : State} {desc : SurfaceDesc} {pitch : UInt32} {size? : Option Nat}
  {g g' : Geometry} {origin : Origin} {t : List Exchange} {id : BufferId}

/-! ## Descriptions and buffers -/

/-- What an owner states of a surface, its pitch and perhaps its size, is what the
driver computes for it. -/
structure Stated (desc : SurfaceDesc) (pitch : UInt32) (size? : Option Nat) (g : Geometry) :
    Prop where
  computed : Geometry.compute .rockchip desc = .ok g
  pitch_eq : pitch = g.pitch
  size_eq : size? = none ∨ size? = some g.size

theorem validate_eq_ok_iff_stated :
    Geometry.validate .rockchip desc pitch size? = .ok g ↔ Stated desc pitch size? g := by
  rw [Geometry.validate_eq_iff]
  constructor
  · intro validated
    cases validated with
    | valid computed hpitch hsize => exact ⟨Geometry.compute_eq_iff.2 computed, hpitch, hsize⟩
  · rintro ⟨computed, hpitch, hsize⟩
    exact .valid (Geometry.compute_eq_iff.1 computed) hpitch hsize

theorem not_stated_of_validate {e : GeometryError}
    (h : Geometry.validate .rockchip desc pitch size? = .error e) (g : Geometry) :
    ¬ Stated desc pitch size? g := fun stated => by
  cases h.symm.trans (validate_eq_ok_iff_stated.2 stated)

theorem Stated.unique (h : Stated desc pitch size? g) (h' : Stated desc pitch size? g') :
    g = g' :=
  Except.ok.inj (h.computed.symm.trans h'.computed)

/-- A surface has the names of its origin, and the size, the format and the
geometry that were asked for. -/
structure OfOrigin (origin : Origin) (desc : SurfaceDesc) (g : Geometry) (s : Surface) :
    Prop where
  handle_eq : s.handle = origin.handle
  name_eq : s.name = origin.name
  prime_eq : ∀ fd, origin.prime = some fd → s.prime = some fd
  format_eq : s.format = desc.format
  width_eq : s.width = desc.width
  height_eq : s.height = desc.height
  geometry_eq : s.geometry = g

/-- The engine changes nothing about a buffer that others can see, except that it may
get a descriptor. -/
theorem wrap_ofOrigin :
    (wrap (origin.buffer id desc g)).Ensures fun _ b => OfOrigin origin desc g b.surface := by
  rw [wrap, ensures_bind_iff]
  have hprime : (share (origin.buffer id desc g)).Ensures fun _ b =>
      ∀ fd, origin.prime = some fd → b.surface.prime = some fd := by
    unfold share
    split
    · exact ensures_pure_iff.2 fun _ h => h
    · rename_i hnone
      intro t b _ fd hfd
      exact absurd (hnone.symm.trans hfd) (by simp)
  intro t b run
  have hshare := share_ensures _ t b run
  refine (importView_surface b).mono fun _ b' hsurface => ?_
  rw [hsurface]
  refine ⟨?_, ?_, hprime t b run, ?_, ?_, ?_, ?_⟩ <;> rw [hshare] <;> rfl

/-- The buffer with an id is made of an origin and a geometry by some calls.  Its rows
fit a word, unless there was no descriptor to be had for it. -/
structure Made (origin : Origin) (desc : SurfaceDesc) (g : Geometry) (t : List Exchange)
    (pool : State) (id : BufferId) : Prop where
  found : ∃ b, pool.get? id = some b ∧ OfOrigin origin desc g b.surface
  counted : desc.height.toNat + g.headerRows.toNat < UInt32.size ∨
    origin.prime = none ∧ Withheld origin.handle t

theorem Made.mono {t' : List Exchange} (made : Made origin desc g t pool id)
    (hsub : ∀ x ∈ t, x ∈ t') : Made origin desc g t' pool id :=
  ⟨made.found, made.counted.imp_right fun h => ⟨h.1, h.2.mono hsub⟩⟩

theorem admitted_made :
    (admitted pool origin desc g).Ensures fun t r => Made origin desc g t r.2 r.1 := by
  simp only [admitted, ensures_bind_iff, ensures_log_iff, ensures_pure_iff]
  intro t b run
  refine ⟨⟨b, by simp, wrap_ofOrigin _ _ run⟩, ?_⟩
  refine (wrap_counted t b run).imp_right fun h => ⟨h.1, h.2.mono fun x hx => ?_⟩
  simp [hx]

/-! ## Outcomes -/

/-- If the call is made, then that is the answer to it. -/
def Answered (c : Call) (answer : c.Answer) (t : List Exchange) : Prop :=
  ∀ a, ⟨c, a⟩ ∈ t → a = answer

theorem Answered.of_append {c : Call} {answer : c.Answer} {t' : List Exchange}
    (h : Answered c answer (t ++ t')) : Answered c answer t :=
  fun a hmem => h a (List.mem_append_left _ hmem)

theorem answered_of_world {world : (c : Call) → c.Answer}
    (h : ∀ x ∈ t, x.answer = world x.call) (c : Call) : Answered c (world c) t :=
  fun _ hmem => h _ hmem

/-- A creation has succeeded if and only if there was a geometry that was `Valid` and an
origin that was `Granted` for it, and the new buffer is made of them.  It has made
no request if there was no such geometry. -/
structure Settled (desc : SurfaceDesc) (Valid : Geometry → Prop)
    (Granted : Geometry → Origin → Prop) (t : List Exchange)
    (r : Except DriverError BufferId × State) : Prop where
  ok_iff : (∃ id, r.1 = .ok id) ↔ ∃ g origin, Valid g ∧ Granted g origin
  made : ∀ id, r.1 = .ok id → ∃ g origin, Valid g ∧ Granted g origin ∧
    Made origin desc g t r.2 id
  silent : (¬ ∃ g, Valid g) → ∀ x ∈ t, ∀ request, x.call ≠ .ioctl request

/-- The buffer that a creation has made takes at most `bytes` bytes. -/
def LiesWithin (bytes : Nat) (r : Except DriverError BufferId × State) : Prop :=
  ∀ id b, r.1 = .ok id → r.2.get? id = some b → b.surface.geometry.size ≤ bytes

section Settled

variable {Valid : Geometry → Prop} {Granted : Geometry → Origin → Prop}

theorem settled_ok (valid : Valid g) (granted : Granted g origin)
    (made : Made origin desc g t pool' id) : Settled desc Valid Granted t (.ok id, pool') where
  ok_iff := iff_of_true ⟨id, rfl⟩ ⟨g, origin, valid, granted⟩
  made _ hid := by
    cases hid
    exact ⟨g, origin, valid, granted, made⟩
  silent h := absurd ⟨g, valid⟩ h

theorem settled_error {error : DriverError} (refused : ∀ g origin, Valid g → ¬ Granted g origin)
    (silent : (¬ ∃ g, Valid g) → ∀ x ∈ t, ∀ request, x.call ≠ .ioctl request) :
    Settled desc Valid Granted t (.error error, pool') where
  ok_iff := iff_of_false (by simp) fun ⟨g, origin, hg, horigin⟩ => refused g origin hg horigin
  made _ hid := by cases hid
  silent := silent

theorem settled_unstated {e : GeometryError} {error : DriverError}
    (h : Geometry.validate .rockchip desc pitch size? = .error e)
    (silent : ∀ x ∈ t, ∀ request, x.call ≠ .ioctl request) :
    Settled desc (Stated desc pitch size?) Granted t (.error error, pool') :=
  settled_error (fun g _ stated => absurd stated (not_stated_of_validate h g)) fun _ => silent

theorem settled_ungranted {error : DriverError} (stated : Stated desc pitch size? g)
    (ungranted : ∀ origin, ¬ Granted g origin) :
    Settled desc (Stated desc pitch size?) Granted t (.error error, pool') := by
  refine settled_error (fun g' origin stated' => ?_) fun h => absurd ⟨g, stated⟩ h
  rw [stated'.unique stated]
  exact ungranted origin

theorem Settled.liesWithin {bytes : Nat} {r : Except DriverError BufferId × State}
    (settled : Settled desc Valid Granted t r)
    (h : ∀ g origin, Valid g → Granted g origin → g.size ≤ bytes) : LiesWithin bytes r := by
  intro id b hid hb
  obtain ⟨g, origin, hg, horigin, made⟩ := settled.made id hid
  obtain ⟨b', hb', hsurface⟩ := made.found
  obtain rfl : b' = b := Option.some.inj (hb'.symm.trans hb)
  rw [hsurface.geometry_eq]
  exact h g origin hg horigin

end Settled

/-! ## The four creations -/

/-- The device has allocated an object. -/
def GrantedByAllocation (placement : Placement) (allocated : Except Errno UInt32)
    (_ : Geometry) (origin : Origin) : Prop :=
  ∃ handle, allocated = .ok handle ∧
    origin = { handle, scanout := placement.isScanout, flags := placementFlags placement }

theorem create_settled {placement : Placement} (allocated : Except Errno UInt32) :
    (commit pool (create pool desc placement)).Ensures fun t r =>
      (∀ g, Geometry.compute .rockchip desc = .ok g →
        Answered (.ioctl (.rockchipGemCreate g.size (placementFlags placement))) allocated t) →
      Settled desc (Geometry.compute .rockchip desc = .ok ·)
        (GrantedByAllocation placement allocated) t r := by
  rw [ensures_commit_iff, create, ensures_refuse_iff]
  cases hg : Geometry.compute .rockchip desc with
  | error e => exact fun _ => settled_error (fun g _ hg => by cases hg) (by simp)
  | ok g =>
    refine ensures_request_iff.2 (Device.ensures_ioctl_iff.2 (forall_except_iff.2 ⟨?_, ?_⟩))
    · intro handle
      refine ensures_lift_iff.2 (admitted_made.mono fun t r made answered => ?_)
      exact settled_ok rfl ⟨handle, (answered g rfl _ (List.mem_cons_self ..)).symm, rfl⟩
        (made.mono fun _ => List.mem_append_right _)
    · intro e answered
      refine settled_error (fun _ _ _ granted => ?_) fun h => absurd ⟨g, rfl⟩ h
      obtain ⟨handle, hallocated, -⟩ := granted
      cases (answered g rfl _ (List.mem_cons_self ..)).trans hallocated

theorem importHandle_settled {handle : UInt32} :
    (commit pool (importHandle pool handle size? desc pitch)).Ensures
      (Settled desc (Stated desc pitch size?) fun _ origin => origin = { handle }) := by
  rw [ensures_commit_iff, importHandle, validated, ensures_refuse_iff]
  cases hvalid : Geometry.validate .rockchip desc pitch size? with
  | error e => exact settled_unstated hvalid (by simp)
  | ok g =>
    have stated := validate_eq_ok_iff_stated.1 hvalid
    exact ensures_lift_iff.2 (admitted_made.mono fun t r made => settled_ok stated rfl made)

/-- The device has opened an object that is large enough by its name. -/
def GrantedByName (name : UInt32) (opened : Except Errno OpenReply) (g : Geometry)
    (origin : Origin) : Prop :=
  ∃ object, opened = .ok object ∧ g.size ≤ object.size ∧
    origin = { handle := object.handle, name := some name }

theorem importName_settled {name : UInt32} (opened : Except Errno OpenReply) :
    (commit pool (importName pool name desc pitch)).Ensures fun t r =>
      Answered (.ioctl (.gemOpen name)) opened t →
      Settled desc (Stated desc pitch none) (GrantedByName name opened) t r := by
  rw [ensures_commit_iff, importName, validated, ensures_refuse_iff]
  cases hvalid : Geometry.validate .rockchip desc pitch none with
  | error e => exact fun _ => settled_unstated hvalid (by simp)
  | ok g =>
    have stated := validate_eq_ok_iff_stated.1 hvalid
    refine ensures_request_iff.2 (Device.ensures_ioctl_iff.2 (forall_except_iff.2 ⟨?_, ?_⟩))
    · intro object
      dsimp only
      split
      · rename_i hsmall
        have hrefused : ∀ t, Answered (.ioctl (.gemOpen name)) opened
            (⟨.ioctl (.gemOpen name), .ok object⟩ :: t) →
            Settled desc (Stated desc pitch none) (GrantedByName name opened)
              (⟨.ioctl (.gemOpen name), .ok object⟩ :: t)
              (.error (.exceedsDescriptor g.size object.size), pool) := by
          refine fun t answered => settled_ungranted stated ?_
          rintro origin ⟨object', hopened, hfits, -⟩
          cases (answered _ (List.mem_cons_self ..)).trans hopened
          exact absurd hfits (Nat.not_le.2 hsmall)
        simp only [Attempt.ensures_bind_iff, ensures_lift_iff, ensures_log_iff]
        refine Device.ensures_ioctl_iff.2 fun closed => ensures_logFailure_iff.2 ?_
        cases closed with
        | ok _ => exact ensures_throw_iff.2 (hrefused _)
        | error e => exact ensures_throw_iff.2 (hrefused _)
      · rename_i hfits
        refine ensures_lift_iff.2 (admitted_made.mono fun t r made answered => ?_)
        have hopened := (answered _ (List.mem_cons_self ..)).symm
        exact settled_ok stated ⟨object, hopened, Nat.not_lt.1 hfits, rfl⟩
          (made.mono fun _ => List.mem_append_right _)
    · refine fun e answered => settled_ungranted stated ?_
      rintro origin ⟨object, hopened, -⟩
      cases (answered _ (List.mem_cons_self ..)).trans hopened

/-- The stated size, or else that of the descriptor, is not above that of the descriptor,
and with it the description is true. -/
def StatedByPrime (fileSize : Except Errno Nat) (size? : Option Nat) (desc : SurfaceDesc)
    (pitch : UInt32) (g : Geometry) : Prop :=
  ∃ n, fileSize = .ok n ∧ size?.getD n ≤ n ∧ Stated desc pitch (some (size?.getD n)) g

/-- The device has granted a handle for the descriptor. -/
def GrantedByPrime (fd : Descriptor) (granted : Except Errno UInt32) (_ : Geometry)
    (origin : Origin) : Prop :=
  ∃ handle, granted = .ok handle ∧ origin = { handle, prime := some fd }

/-- The calls and the results of opening a descriptor, with one case for each way to
end. -/
inductive Opening (fd : Descriptor) (size? : Option Nat) (desc : SurfaceDesc) (pitch : UInt32) :
    List Exchange → Except DriverError (Geometry × UInt32) → Prop where
  | sizeless (e : Errno) : Opening fd size? desc pitch
      [⟨.size fd, .error e⟩, ⟨.log (notice (.fdSizeFailed e)), ()⟩] (.error (.kernel .fdSize e))
  | exceeding {n : Nat} (h : n < size?.getD n) : Opening fd size? desc pitch
      [⟨.size fd, .ok n⟩, ⟨.log (notice (.fdSize n)), ()⟩,
        ⟨.log (notice (.sizeExceedsFile (size?.getD n) n)), ()⟩]
      (.error (.exceedsDescriptor (size?.getD n) n))
  | unstated {n : Nat} {e : GeometryError}
      (h : Geometry.validate .rockchip desc pitch (some (size?.getD n)) = .error e) :
      Opening fd size? desc pitch
      [⟨.size fd, .ok n⟩, ⟨.log (notice (.fdSize n)), ()⟩,
        ⟨.log (notice (.badSurface .prime e desc pitch)), ()⟩] (.error (.geometry e))
  | refused {n : Nat} {g : Geometry} (fits : size?.getD n ≤ n)
      (stated : Stated desc pitch (some (size?.getD n)) g) (e : Errno) :
      Opening fd size? desc pitch
      [⟨.size fd, .ok n⟩, ⟨.log (notice (.fdSize n)), ()⟩,
        ⟨.ioctl (.primeFdToHandle fd 0), .error e⟩, ⟨.log (notice (.fdToHandleFailed e)), ()⟩]
      (.error (.kernel .fdToHandle e))
  | opened {n : Nat} {g : Geometry} (fits : size?.getD n ≤ n)
      (stated : Stated desc pitch (some (size?.getD n)) g) (handle : UInt32) :
      Opening fd size? desc pitch
      [⟨.size fd, .ok n⟩, ⟨.log (notice (.fdSize n)), ()⟩,
        ⟨.ioctl (.primeFdToHandle fd 0), .ok handle⟩] (.ok (g, handle))

theorem openPrime_opening {fd : Descriptor} :
    (openPrime fd size? desc pitch).run.Ensures (Opening fd size? desc pitch) := by
  refine ensures_request_iff.2 (ensures_call_iff.2 (forall_except_iff.2 ⟨?_, .sizeless⟩))
  intro n
  refine Attempt.ensures_bind_iff.2 (ensures_lift_iff.2 (ensures_log_iff.2 ?_))
  dsimp only
  split
  · rename_i hexceeds
    refine Attempt.ensures_bind_iff.2 (ensures_lift_iff.2 (ensures_log_iff.2 ?_))
    exact ensures_throw_iff.2 (.exceeding hexceeds)
  · rename_i hfits
    refine ensures_refuse_iff.2 ?_
    cases hvalid : Geometry.validate .rockchip desc pitch (some (size?.getD n)) with
    | error e => exact .unstated hvalid
    | ok g =>
      have stated := validate_eq_ok_iff_stated.1 hvalid
      refine ensures_request_iff.2 (Device.ensures_ioctl_iff.2 (forall_except_iff.2 ⟨?_, ?_⟩))
      · exact fun handle => Attempt.ensures_pure_iff.2 (.opened (Nat.not_lt.1 hfits) stated handle)
      · exact fun e => .refused (Nat.not_lt.1 hfits) stated e

/-- What can be told of the descriptor and the device from the result of opening it. -/
theorem Opening.settles {fd : Descriptor} {fileSize : Except Errno Nat}
    {granted : Except Errno UInt32} {outcome : Except DriverError (Geometry × UInt32)}
    (opening : Opening fd size? desc pitch t outcome) (hsize : Answered (.size fd) fileSize t)
    (hgranted : Answered (.ioctl (.primeFdToHandle fd 0)) granted t) :
    match outcome with
    | .ok (g, handle) => StatedByPrime fileSize size? desc pitch g ∧ granted = .ok handle ∧
        ∀ x ∈ t, x.call ≠ .close fd
    | .error _ => (∀ g, StatedByPrime fileSize size? desc pitch g → ∃ e, granted = .error e) ∧
        ((¬ ∃ g, StatedByPrime fileSize size? desc pitch g) →
          ∀ x ∈ t, ∀ request, x.call ≠ .ioctl request) := by
  cases opening with
  | sizeless e =>
    obtain rfl := hsize _ (List.mem_cons_self ..)
    refine ⟨?_, by simp⟩
    rintro g ⟨_, ⟨⟩, -⟩
  | exceeding h =>
    obtain rfl := hsize _ (List.mem_cons_self ..)
    refine ⟨?_, by simp⟩
    rintro g ⟨_, ⟨⟩, hfits, -⟩
    exact absurd hfits (Nat.not_le.2 h)
  | unstated h =>
    obtain rfl := hsize _ (List.mem_cons_self ..)
    refine ⟨?_, by simp⟩
    rintro g ⟨_, ⟨⟩, -, stated⟩
    exact absurd stated (not_stated_of_validate h g)
  | @refused n g fits stated e =>
    obtain rfl := hsize _ (List.mem_cons_self ..)
    obtain rfl := hgranted (.error e) (by simp)
    exact ⟨fun _ _ => ⟨e, rfl⟩, fun h => absurd ⟨g, n, rfl, fits, stated⟩ h⟩
  | @opened n g fits stated handle =>
    obtain rfl := hsize _ (List.mem_cons_self ..)
    obtain rfl := hgranted (.ok handle) (by simp)
    exact ⟨⟨n, rfl, fits, stated⟩, rfl, by simp⟩

theorem importPrime_settled {fd : Descriptor} (fileSize : Except Errno Nat)
    (granted : Except Errno UInt32) :
    (importPrime pool fd size? desc pitch).Ensures fun t r =>
      Answered (.size fd) fileSize t → Answered (.ioctl (.primeFdToHandle fd 0)) granted t →
      Settled desc (StatedByPrime fileSize size? desc pitch) (GrantedByPrime fd granted) t r ∧
        ((∃ e, r.1 = .error e) ↔ ⟨.close fd, ()⟩ ∈ t) := by
  refine ensures_bind_iff.2 (openPrime_opening.mono fun t outcome opening => ?_)
  cases outcome with
  | error e =>
    refine ensures_bind_iff.2 (ensures_call_iff.2 fun _ => ensures_pure_iff.2 ?_)
    intro hsize hgranted
    obtain ⟨hrefused, hsilent⟩ := opening.settles hsize.of_append hgranted.of_append
    refine ⟨settled_error ?_ ?_, iff_of_true ⟨e, rfl⟩ (by simp)⟩
    · rintro g origin stated ⟨handle, hhandle, -⟩
      obtain ⟨cause, hcause⟩ := hrefused g stated
      cases hcause.symm.trans hhandle
    · intro hnone x hx
      rcases List.mem_append.1 hx with hx | hx
      · exact hsilent hnone x hx
      · rw [List.append_nil, List.mem_singleton] at hx
        rw [hx]
        exact fun request hcall => by cases hcall
  | ok opened =>
    refine ensures_bind_iff.2 fun t' r run => ensures_pure_iff.2 ?_
    intro hsize hgranted
    obtain ⟨stated, hhandle, hopen⟩ := opening.settles hsize.of_append hgranted.of_append
    have made := admitted_made _ _ run
    refine ⟨settled_ok stated ⟨_, hhandle, rfl⟩ (made.mono fun x hx => by simp [hx]),
      iff_of_false (by simp) fun hmem => ?_⟩
    rcases List.mem_append.1 (by simpa using hmem) with hmem | hmem
    · exact hopen _ hmem rfl
    · cases admitted_asks _ _ run _ hmem

/-! ## Ends -/

theorem primeHandleToFd_ends {handle : UInt32} :
    (Device.primeHandleToFd handle).Ends :=
  ends_call.bind fun outcome => by cases outcome <;> exact ends_pure

theorem share_ends {b : Buffer} : (share b).Ends := by
  unfold share
  split
  · exact ends_pure
  · refine primeHandleToFd_ends.bind fun outcome => ?_
    cases outcome with
    | ok fd => exact ends_pure
    | error e => exact ends_call.bind fun _ => ends_pure

theorem importView_ends {b : Buffer} : (importView b).Ends := by
  unfold importView
  split
  · exact ends_pure
  · split
    · refine Ends.bind ends_call fun outcome => ?_
      cases outcome with
      | ok handle => exact ends_pure
      | error e => exact ends_call.bind fun _ => ends_pure
    · exact ends_call.bind fun _ => ends_abort

theorem admitted_ends : (admitted pool origin desc g).Ends :=
  ends_call.bind fun _ => (share_ends.bind fun _ => importView_ends).bind fun _ =>
    ends_pure

theorem create_ends {placement : Placement} :
    (commit pool (create pool desc placement)).Ends :=
  ends_commit (ends_bind ends_orRefuse fun _ =>
    ends_request ends_call fun _ => ends_lift admitted_ends)

theorem importHandle_ends {handle : UInt32} :
    (commit pool (importHandle pool handle size? desc pitch)).Ends :=
  ends_commit (ends_bind ends_orRefuse fun _ => ends_lift admitted_ends)

theorem importName_ends {name : UInt32} :
    (commit pool (importName pool name desc pitch)).Ends := by
  refine ends_commit (ends_bind ends_orRefuse fun g => ?_)
  refine ends_request ends_call fun object => ?_
  split
  · refine ends_bind (ends_lift ends_call) fun _ => ?_
    refine ends_bind (ends_lift ends_call) fun _ => ?_
    exact ends_bind (ends_lift ends_logFailure) fun _ => ends_throw
  · exact ends_lift admitted_ends

theorem openPrime_ends {fd : Descriptor} : (openPrime fd size? desc pitch).run.Ends := by
  refine ends_request ends_call fun fileSize => ?_
  refine ends_bind (ends_lift ends_call) fun _ => ?_
  dsimp only
  split
  · exact ends_bind (ends_lift ends_call) fun _ => ends_throw
  · refine ends_bind ends_orRefuse fun g => ?_
    exact ends_request ends_call fun _ => ends_pure

theorem importPrime_ends {fd : Descriptor} :
    (importPrime pool fd size? desc pitch).Ends := by
  refine openPrime_ends.bind fun outcome => ?_
  cases outcome with
  | ok opened => exact admitted_ends.bind fun _ => ends_pure
  | error e => exact ends_call.bind fun _ => ends_pure

end DrmSurface.Rockchip
