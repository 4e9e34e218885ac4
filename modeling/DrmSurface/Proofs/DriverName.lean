import DrmSurface.Proofs.Exact
import DrmSurface.Proofs.Utf8

/-!
# The name of a driver, from answers that disagree

The device is asked for the length of a name and then for the name.  Nothing makes the
second answer agree with the first one: it may report a name that is shorter or longer than
the buffer, and cut a character off where the buffer ends.

There are two groups.

* Reading.  `NameReply.held` is what the buffer holds of the name.  `readName_eq_ok_iff` and
  `readName_eq_malformed_iff` say what becomes of it.
* Asking.  `driverName_runs_iff` says which runs `Device.driverName` has.
-/

namespace DrmSurface

open Prog

/-- The bytes of a name that are in the buffer: those that the device reports, as far as
there is room for them. -/
def NameReply.held {capacity : Nat} (reply : NameReply capacity) : List UInt8 :=
  reply.buffer.toList.take (min capacity reply.length)

namespace Device

/-! ## Reading -/

section Reading

variable {capacity : Nat} {reply : NameReply capacity} {name : String}

theorem length_held : reply.held.length = min capacity reply.length := by
  rw [NameReply.held, List.length_take, Vector.length_toList]
  omega

theorem readName_eq : readName reply = (Text.decodeUtf8 reply.held).mapError .malformed := by
  have hheld : reply.held = reply.buffer.toList.take reply.length := by
    rw [NameReply.held, List.take_eq_take_min (i := reply.length), Vector.length_toList,
      Nat.min_comm]
  rw [readName, hheld]
  cases Text.decodeUtf8 (reply.buffer.toList.take reply.length) <;> rfl

/-- The name is the text that the bytes encode. -/
theorem readName_eq_ok_iff : readName reply = .ok name ↔ name.toUTF8.data.toList = reply.held := by
  rw [readName_eq, ← Text.decodeUtf8_eq_ok_iff]
  cases Text.decodeUtf8 reply.held <;> simp [Except.mapError]

/-- There is no name if the bytes encode no text, and only then. -/
theorem readName_eq_malformed_iff :
    (∃ fault, readName reply = .error (.malformed fault)) ↔
      ¬reply.held.toByteArray.IsValidUTF8 := by
  rw [readName_eq, ← Text.decodeUtf8_eq_error_iff]
  cases Text.decodeUtf8 reply.held <;> simp [Except.mapError]

theorem readName_ne_refused (cause : Errno) : readName reply ≠ .error (.refused cause) := by
  rw [readName_eq]
  cases Text.decodeUtf8 reply.held <;> simp [Except.mapError]

end Reading

/-! ## Asking -/

/-- How the question for the name comes out.  A request that the device refuses is the last
one, and the buffer of the second request has the length that the first one has reported. -/
inductive Named : List Exchange → Except NameError String → Prop where
  | lengthRefused (cause : Errno) :
      Named [⟨.ioctl .versionLength, .error cause⟩] (.error (.refused cause))
  | nameRefused (capacity : Nat) (cause : Errno) :
      Named [⟨.ioctl .versionLength, .ok capacity⟩,
        ⟨.ioctl (.versionName capacity), .error cause⟩] (.error (.refused cause))
  | answered (capacity : Nat) (reply : NameReply capacity) :
      Named [⟨.ioctl .versionLength, .ok capacity⟩,
        ⟨.ioctl (.versionName capacity), .ok reply⟩] (readName reply)

theorem driverName_runs_iff {t : List Exchange} {result : Except NameError String} :
    driverName.Runs t result ↔ Named t result := by
  refine runs_call_bind_iff.trans ?_
  constructor
  · rintro ⟨cause | capacity, t', rfl, run⟩
    · obtain ⟨rfl, rfl⟩ := runs_done_iff.1 run
      exact .lengthRefused cause
    · obtain ⟨cause | reply, t', rfl, hdone⟩ := runs_call_bind_iff.1 run
      · obtain ⟨rfl, rfl⟩ := runs_done_iff.1 hdone
        exact .nameRefused capacity cause
      · obtain ⟨rfl, rfl⟩ := runs_done_iff.1 hdone
        exact .answered capacity reply
  · rintro (cause | ⟨capacity, cause⟩ | ⟨capacity, reply⟩)
    · exact ⟨.error cause, [], rfl, .done _⟩
    · exact ⟨.ok capacity, _, rfl, runs_call_bind_iff.2 ⟨.error cause, [], rfl, .done _⟩⟩
    · exact ⟨.ok capacity, _, rfl, runs_call_bind_iff.2 ⟨.ok reply, [], rfl, .done _⟩⟩

/-- Whatever the device answers, the name is read from the bytes that it has reported and
that fit into the buffer.  It is their text, or an error of the reader if they are none.
An error of the device is passed on, and it is the only one with a number. -/
theorem driverName_exact :
    (∀ t result, driverName.Runs t result ↔ Named t result) ∧
    ∀ capacity (reply : NameReply capacity),
      (reply.held <+: reply.buffer.toList ∧ reply.held.length = min capacity reply.length) ∧
      (∀ name, readName reply = .ok name ↔ name.toUTF8.data.toList = reply.held) ∧
      ((∃ fault, readName reply = .error (.malformed fault)) ↔
        ¬reply.held.toByteArray.IsValidUTF8) ∧
      ∀ cause, readName reply ≠ .error (.refused cause) :=
  ⟨fun _ _ => driverName_runs_iff, fun _ _ => ⟨⟨List.take_prefix _ _, length_held⟩,
    fun _ => readName_eq_ok_iff, readName_eq_malformed_iff, readName_ne_refused⟩⟩

/-- A name that is shorter than the device has announced, and one that is cut off in a
character. -/
theorem driverName_exact_sample :
    driverName.Runs [⟨.ioctl .versionLength, .ok 8⟩, ⟨.ioctl (.versionName 8),
      .ok ⟨#v[0x76, 0x6d, 0x77, 0x67, 0x66, 0x78, 0, 0], 6⟩⟩] (.ok "vmwgfx") ∧
    driverName.Runs [⟨.ioctl .versionLength, .ok 2⟩, ⟨.ioctl (.versionName 2),
      .ok ⟨#v[0x76, 0xc3], 3⟩⟩] (.error (.malformed (.incomplete 1))) ∧
    ¬[0x76, 0xc3].toByteArray.IsValidUTF8 := by
  obtain ⟨hruns, hread⟩ := driverName_exact
  have hname : readName ⟨#v[0x76, 0x6d, 0x77, 0x67, 0x66, 0x78, 0, 0], 6⟩ = .ok "vmwgfx" :=
    ((hread 8 _).2.1 _).2 rfl
  have hcut : readName ⟨#v[0x76, 0xc3], 3⟩ = .error (.malformed (.incomplete 1)) := rfl
  exact ⟨hname ▸ (hruns _ _).2 (.answered 8 _), hcut ▸ (hruns _ _).2 (.answered 2 _),
    (hread 2 _).2.2.1.1 ⟨_, hcut⟩⟩

end Device

end DrmSurface
