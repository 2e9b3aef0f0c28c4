import Mathlib.Algebra.Group.Nat.Defs
import ApprovalDesk.Proofs.Http.Steps
import ApprovalDesk.Proofs.Text.FormPairs
import ApprovalDesk.Proofs.Text.Hex
import ApprovalDesk.Proofs.Text.Trim
import ApprovalDesk.Proofs.World.Run

/-!
# Secrets

A secret is 64 lower-case hexadecimal digits, so it can stand in a link as it is. What is hashed into it
can be taken apart again: the last eight bytes are the time, the thirty-two before them were drawn, and
the rest is the id of the request. Secrets that were made of different things are therefore digests of
different messages, and equal only if these two messages collide.
-/

namespace ApprovalDesk

set_option autoImplicit false

open ApprovalDesk.Text ApprovalDesk.Time

namespace Digest.Sha256

/-! ## Numbers in a fixed number of bytes -/

theorem length_bigEndian (width n : Nat) : (bigEndian width n).length = width := by
  induction width generalizing n with
  | zero => rfl
  | succ width ih => rw [bigEndian, List.length_append, ih, List.length_singleton]

/-- Numbers that fit into the bytes have different ones. -/
theorem eq_of_bigEndian_eq {width m n : Nat} (fits : m < 256 ^ width) (fits' : n < 256 ^ width)
    (same : bigEndian width m = bigEndian width n) : m = n := by
  induction width generalizing m n with
  | zero =>
    rw [Nat.pow_zero] at fits fits'
    omega
  | succ width ih =>
    rw [Nat.pow_succ] at fits fits'
    rw [bigEndian, bigEndian] at same
    -- the last byte is what the number leaves over 256; the bytes before it are those of the quotient
    obtain ⟨high, low⟩ := List.append_inj' same rfl
    have upper : m / 256 = n / 256 := ih (by omega) (by omega) high
    have lower : m % 256 = n % 256 := by
      have byte := congrArg UInt8.toNat (List.singleton_inj.1 low)
      simpa using byte
    omega

/-- Two messages that are different and have the same digest. -/
structure Collision (message other : List UInt8) : Prop where
  different : message ≠ other
  digest : hash message = hash other

end Digest.Sha256

namespace Time.Instant

/-- What is told of the time fits 64 bits with a sign. -/
theorem nanos64_bounds (t : Instant) :
    -9223372036854775808 ≤ t.nanos64?.getD 0 ∧ t.nanos64?.getD 0 ≤ 9223372036854775807 := by
  unfold nanos64?
  dsimp only
  split
  · next fits => exact fits
  · exact ⟨by decide, by decide⟩

end Time.Instant

namespace Token

/-! ## What is hashed -/

theorem length_bigEndian64 (n : Int) : (bigEndian64 n).length = 8 :=
  Digest.Sha256.length_bigEndian 8 _

/-- Two's complement tells the integers of 64 bits apart. -/
theorem eq_of_bigEndian64_eq {m n : Int}
    (fits : -9223372036854775808 ≤ m ∧ m ≤ 9223372036854775807)
    (fits' : -9223372036854775808 ≤ n ∧ n ≤ 9223372036854775807)
    (same : bigEndian64 m = bigEndian64 n) : m = n := by
  -- no two integers of the range differ by a multiple of 2 ^ 64
  have residues := Digest.Sha256.eq_of_bigEndian_eq (by omega) (by omega) same
  omega

variable {id id' : String} {random random' : RandomBlock} {now now' : Instant}

/-- What is hashed can be taken apart, since only the id of the request has no fixed length. -/
theorem preimage_eq_iff : preimage id random now = preimage id' random' now' ↔
    id = id' ∧ random = random' ∧ now.nanos64?.getD 0 = now'.nanos64?.getD 0 := by
  constructor
  · intro same
    unfold preimage at same
    -- taken apart from the end, where the lengths are fixed
    obtain ⟨front, time⟩ :=
      List.append_inj' same ((length_bigEndian64 _).trans (length_bigEndian64 _).symm)
    obtain ⟨text, drawn⟩ := List.append_inj' front (random.size.trans random'.size.symm)
    refine ⟨?_, ?_, eq_of_bigEndian64_eq now.nanos64_bounds now'.nanos64_bounds time⟩
    · rw [← Utf8.decodeLossy_encode id, text, Utf8.decodeLossy_encode]
    · cases random
      cases random'
      cases drawn
      rfl
  · rintro ⟨rfl, rfl, time⟩
    rw [preimage, preimage, time]

/-! ## What a secret looks like -/

variable (id random now)

theorem toList_secretFor : (secretFor id random now).toList =
    Hex.encode (Digest.Sha256.hash (preimage id random now)) := String.toList_ofList

/-- What holds of every digit holds of the characters of a secret. -/
theorem forall_mem_secretFor {P : Char → Prop} (digits : ∀ d < 16, P (Hex.digit d)) :
    ∀ c ∈ (secretFor id random now).toList, P c := by
  rw [toList_secretFor]
  exact Hex.forall_mem_encode digits _

theorem length_secretFor : (secretFor id random now).toList.length = 64 := by
  rw [toList_secretFor, Hex.length_encode, Digest.Sha256.length_hash]

/-- A secret is never taken for a missing parameter. -/
theorem isBlankText_secretFor : isBlankText (secretFor id random now) = false := by
  have length := length_secretFor id random now
  have solid := forall_mem_secretFor (P := fun c => isBlank c = false) id random now (by decide)
  rw [← Bool.not_eq_true, isBlankText_iff]
  intro blank
  cases digits : (secretFor id random now).toList with
  | nil =>
    rw [digits] at length
    cases length
  | cons c rest =>
    have member : c ∈ (secretFor id random now).toList := by
      rw [digits]
      exact List.mem_cons_self
    have visible := solid c member
    rw [blank c member] at visible
    cases visible

/-- A secret is written in a link as it is. -/
theorem encodeText_secretFor : FormPairs.encodeText (secretFor id random now) =
    (secretFor id random now).toList := by
  have own := forall_mem_secretFor (P := fun c => FormPairs.encodeChar c = [c]) id random now
    (by decide)
  unfold FormPairs.encodeText
  rw [List.flatMap_def, List.map_congr_left own, ← List.flatMap_def, List.flatMap_singleton']

variable {id random now}

/-- Secrets are equal if the digests are. -/
theorem secretFor_eq_iff : secretFor id random now = secretFor id' random' now' ↔
    Digest.Sha256.hash (preimage id random now) = Digest.Sha256.hash (preimage id' random' now') := by
  constructor
  · intro same
    have digits := congrArg String.toList same
    rw [toList_secretFor, toList_secretFor] at digits
    have bytes := congrArg Hex.decode? digits
    rw [Hex.decode?_encode, Hex.decode?_encode] at bytes
    exact Option.some.inj bytes
  · intro same
    rw [secretFor, secretFor, same]

end Token

namespace World

/-- A fresh secret is made of the next random bytes and the time. -/
theorem run_newSecret {w : World} (up : w.randomUp = true) (id : String) :
    w.run (Workflow.newSecret id).run =
      (.ok (.ok (Token.secretFor id (w.secrets w.secretsDrawn) w.now)), w.drawn) := by
  refine (run_drawSecret _ w).trans ?_
  rw [if_pos up]
  rfl

end World

/-- **Secrets are plain, and told apart by the digest alone.** Whenever random bytes can be drawn, a fresh
secret is handed out: 64 lower-case hexadecimal digits, which are accepted as the parameter of a link and
written in it as they are. What was hashed into a secret tells the id of the request, the random bytes and
the time in nanoseconds; so when one of them differs, the messages differ, and the secrets are equal only
if these two messages collide. -/
theorem Token.secrets_are_plain_and_told_apart (id : String) (random : RandomBlock) (now : Instant) :
    (∀ w : World, w.randomUp = true → w.secrets w.secretsDrawn = random → w.now = now →
      (w.run (Workflow.newSecret id).run).1 = .ok (.ok (secretFor id random now))) ∧
    (secretFor id random now).toList.length = 64 ∧
    (∀ c ∈ (secretFor id random now).toList, c ∈ "0123456789abcdef".toList) ∧
    (∀ requestId, isBlankText requestId = false →
      Http.LinkParams.require ⟨some requestId, some (secretFor id random now)⟩ =
        .ok (requestId, secretFor id random now)) ∧
    FormPairs.encodeText (secretFor id random now) = (secretFor id random now).toList ∧
    ∀ (id' : String) (random' : RandomBlock) (now' : Instant),
      (preimage id random now = preimage id' random' now' ↔
        (id, random, now.nanos64?.getD 0) = (id', random', now'.nanos64?.getD 0)) ∧
      (secretFor id random now = secretFor id' random' now' ↔
        Digest.Sha256.hash (preimage id random now) =
          Digest.Sha256.hash (preimage id' random' now')) ∧
      ((id, random, now.nanos64?.getD 0) ≠ (id', random', now'.nanos64?.getD 0) →
        secretFor id random now = secretFor id' random' now' →
          Digest.Sha256.Collision (preimage id random now) (preimage id' random' now')) := by
  refine ⟨?_, length_secretFor id random now, forall_mem_secretFor id random now (by decide), ?_,
    encodeText_secretFor id random now, fun id' random' now' => ?_⟩
  · rintro w up rfl rfl
    rw [World.run_newSecret up]
  · intro requestId given
    exact Http.LinkParams.require_eq_ok_iff.2 ⟨rfl, given, isBlankText_secretFor id random now⟩
  · have apart : preimage id random now = preimage id' random' now' ↔
        (id, random, now.nanos64?.getD 0) = (id', random', now'.nanos64?.getD 0) := by
      rw [preimage_eq_iff, Prod.mk.injEq, Prod.mk.injEq]
    refine ⟨apart, secretFor_eq_iff, fun different same => ?_⟩
    exact ⟨fun message => different (apart.1 message), secretFor_eq_iff.1 same⟩

end ApprovalDesk
