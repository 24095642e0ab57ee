import Mathlib
import Eip0045.Library.Bytes
import Eip0045.Library.Checked

/-! Domain-separated evidence derivations and strict detached signatures. -/

namespace Eip0045.Evidence

open Bytes Checked

def minSegmentPo2 : UInt8 := 15
def maxSegmentPo2 : UInt8 := 22

def freshRunDomain : Bytes := utf8 "Ergo.EIP0045.B7.FreshRun.v1"
def domainSeparator : UInt8 := 0

inductive PointRole
  | publicKey
  | signatureR
  deriving DecidableEq

inductive EvidenceError
  | invalidPo2 (po2 : UInt8)
  | runEvidenceTooLarge (length : ℕ)
  | invalidPointEncoding (role : PointRole)
  | nonCanonicalPoint (role : PointRole)
  | identityPoint (role : PointRole)
  | nonPrimeOrderPoint (role : PointRole)
  | nonCanonicalScalar
  | signatureEquationMismatch
  deriving DecidableEq

/-- The points of a curve with cofactor 8 and their 32-byte encodings. Other encodings than the
compressed ones may decompress too. -/
structure EdwardsCurve where
  Point : Type
  [group : AddCommGroup Point]
  [decidableEq : DecidableEq Point]
  order : ℕ
  prime : order.Prime
  order_le : order ≤ 256 ^ 32
  card : Nat.card Point = 8 * order
  basepoint : Point
  basepoint_order : addOrderOf basepoint = order
  compress : Point → ByteArr 32
  decompress : ByteArr 32 → Option Point
  decompress_compress : ∀ point, decompress (compress point) = some point

attribute [instance] EdwardsCurve.group EdwardsCurve.decidableEq

structure Hashes where
  sha256 : Bytes → Digest
  sha512 : Bytes → ByteArr 64
  blake2b256 : Bytes → Digest

section Derivations

variable (hashes : Hashes)

def precommitDigest (canonicalPrecommit : Bytes) : Digest := hashes.sha256 canonicalPrecommit

def freshChallengePreimage (precommitDigest : Digest) (po2 : UInt8) (challengeBlockId : Digest) :
    Bytes :=
  freshRunDomain ++ domainSeparator :: (precommitDigest.val ++ po2 :: challengeBlockId.val)

def freshChallenge (precommitDigest : Digest) (po2 : UInt8) (challengeBlockId : Digest) :
    Except EvidenceError Digest := do
  ensure (minSegmentPo2 ≤ po2 ∧ po2 ≤ maxSegmentPo2) (.invalidPo2 po2)
  pure (hashes.blake2b256 (freshChallengePreimage precommitDigest po2 challengeBlockId))

end Derivations

section Verification

variable (curve : EdwardsCurve) (hashes : Hashes)

def ed25519ChallengeScalar (rBytes publicKeyBytes : ByteArr 32) (message : Bytes) : ℕ :=
  leValue (hashes.sha512 (rBytes.val ++ publicKeyBytes.val ++ message)).val % curve.order

end Verification

section Signing

variable (curve : EdwardsCurve) (hashes : Hashes)

def signatureOf (r : curve.Point) (s : ℕ) : ByteArr 64 :=
  ⟨(curve.compress r).val ++ leBytes 32 s, by
    rw [List.length_append, ByteArr.val_length, leBytes_length]⟩

end Signing

section Points

lemma exists_curve : Nonempty EdwardsCurve := by
  have horder : addOrderOf (8 : ZMod 56) = 7 := ZMod.addOrderOf_coe 8 (by decide)
  refine ⟨⟨ZMod 56, 7, by decide, by decide, by simp, 8, horder,
    fun point => ⟨leBytes 32 point.val, leBytes_length _ _⟩,
    fun bytes => some (leValue bytes.val), ?_⟩⟩
  intro point
  have hlt : point.val < 256 ^ 32 := (ZMod.val_lt point).trans (by decide)
  dsimp only
  rw [leValue_leBytes hlt, ZMod.natCast_zmod_val]

variable {curve : EdwardsCurve}

lemma compress_injective : Function.Injective curve.compress := by
  intro p q h
  have hp := curve.decompress_compress p
  rw [h, curve.decompress_compress q] at hp
  exact (Option.some.inj hp).symm

lemma basepoint_injective {s t : ℕ} (hs : s < curve.order) (ht : t < curve.order)
    (h : s • curve.basepoint = t • curve.basepoint) : s = t := by
  rw [← curve.basepoint_order] at hs ht
  exact nsmul_injOn_Iio_addOrderOf hs ht h

end Points

section Signatures

variable {curve : EdwardsCurve} {hashes : Hashes}

lemma halves_eq {signature : ByteArr 64} {r : curve.Point} {s : ℕ} :
    signature = signatureOf curve r s ↔
      ByteArr.atOffset 32 signature.val 0 = curve.compress r ∧
        (ByteArr.atOffset 32 signature.val 32).val = leBytes 32 s := by
  have hlength : signature.val.length = 64 := ByteArr.val_length signature
  have hfirst : (ByteArr.atOffset 32 signature.val 0).val = signature.val.take 32 := by
    rw [ByteArr.atOffset_val (by omega), slice, List.drop_zero]
  have hsecond : (ByteArr.atOffset 32 signature.val 32).val = signature.val.drop 32 := by
    rw [ByteArr.atOffset_val (by omega), slice, List.take_of_length_le (by simp [hlength])]
  constructor
  · intro h
    have hval : signature.val = (curve.compress r).val ++ leBytes 32 s := congrArg Subtype.val h
    refine ⟨Subtype.ext ?_, ?_⟩
    · rw [hfirst, hval, List.take_left' (ByteArr.val_length _)]
    · rw [hsecond, hval, List.drop_left' (ByteArr.val_length _)]
  · intro h
    apply Subtype.ext
    calc signature.val = signature.val.take 32 ++ signature.val.drop 32 :=
          (List.take_append_drop 32 _).symm
      _ = (curve.compress r).val ++ leBytes 32 s := by rw [← hfirst, ← hsecond, h.1, h.2]

/-- What the verifier asks of a key, a message and a signature. -/
def Valid (curve : EdwardsCurve) (hashes : Hashes) (publicKey : ByteArr 32) (message : Bytes)
    (signature : ByteArr 64) : Prop :=
  ∃ (a r : curve.Point) (s : ℕ), addOrderOf a = curve.order ∧ addOrderOf r = curve.order ∧
    s < curve.order ∧ publicKey = curve.compress a ∧ signature = signatureOf curve r s ∧
    s • curve.basepoint =
      r + ed25519ChallengeScalar curve hashes (curve.compress r) publicKey message • a

lemma Valid.unique {publicKey : ByteArr 32} {message : Bytes} {first second : ByteArr 64}
    (hfirst : Valid curve hashes publicKey message first)
    (hsecond : Valid curve hashes publicKey message second)
    (h : ByteArr.atOffset 32 first.val 0 = ByteArr.atOffset 32 second.val 0) : first = second := by
  obtain ⟨a, r, s, -, -, hs, hkey, rfl, hequation⟩ := hfirst
  obtain ⟨a', r', s', -, -, hs', hkey', rfl, hequation'⟩ := hsecond
  rw [(halves_eq.mp rfl).1, (halves_eq.mp rfl).1] at h
  obtain rfl := compress_injective h
  obtain rfl := compress_injective (hkey.symm.trans hkey')
  rw [basepoint_injective hs hs' (hequation.trans hequation'.symm)]

end Signatures

section Domains

variable {hashes : Hashes}

end Domains

end Eip0045.Evidence
