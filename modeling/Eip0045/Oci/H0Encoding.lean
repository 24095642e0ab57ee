import Mathlib
import Eip0045.Oci.H0Request

/-! The preimages of a request projection determine what they encode. -/

namespace Eip0045.Oci

open Bytes Checked

section Errors

variable {α : Type}

@[simp] lemma reported_ok {x : Except String α} {a : α} : reported x = .ok a ↔ x = .ok a := by
  cases x <;> simp [reported]

@[simp] lemma check_ok {c : Prop} [Decidable c] {message : String} {u : Unit} :
    check c message = .ok u ↔ c := ensure_ok

@[simp] lemma require_ok {message : String} {o : Option α} {a : α} :
    require message o = .ok a ↔ o = some a := context_ok

/-- A computation that stops with no drift of a length. -/
def NoDrift (x : Except RequestError α) : Prop := ∀ message, x ≠ .error (.lengthDrift message)

lemma noDrift_reported (x : Except String α) : NoDrift (reported x) := by
  intro message
  cases x <;> simp [reported]

lemma noDrift_check (c : Prop) [Decidable c] (text : String) : NoDrift (check c text) := by
  intro message
  by_cases h : c <;> simp [check, ensure, h]

lemma noDrift_require (text : String) (o : Option α) : NoDrift (require text o) := by
  intro message
  cases o <;> simp [require, context]

lemma noDrift_ensure {c : Prop} [Decidable c] {e : RequestError} (h : c) : NoDrift (ensure c e) := by
  intro message
  simp [ensure, h]

lemma noDrift_pure (a : α) : NoDrift (pure a) := by
  intro message h
  cases h

lemma noDrift_bind {β : Type} {x : Except RequestError α} {f : α → Except RequestError β}
    (hx : NoDrift x) (hf : ∀ a, x = .ok a → NoDrift (f a)) : NoDrift (x >>= f) :=
  fun message => bind_ne_error (hx message) fun a ha => hf a ha message

lemma noDrift_forM {β : Type} {f : β → Except RequestError Unit} (hf : ∀ b, NoDrift (f b)) (bs : List β) :
    NoDrift (bs.forM f) := by
  induction bs with
  | nil => exact noDrift_pure ()
  | cons b bs ih =>
    change NoDrift (f b >>= fun _ => bs.forM f)
    exact noDrift_bind (hf b) fun _ _ => ih

lemma noDrift_mapM {β : Type} {f : β → Except RequestError α} (hf : ∀ b, NoDrift (f b)) (bs : List β) :
    NoDrift (bs.mapM f) := by
  induction bs with
  | nil => exact noDrift_pure []
  | cons b bs ih =>
    rw [List.mapM_cons]
    exact noDrift_bind (hf b) fun _ _ => noDrift_bind ih fun _ _ => noDrift_pure _

lemma noDrift_foldlM {β : Type} {f : α → β → Except RequestError α} (hf : ∀ a b, NoDrift (f a b))
    (bs : List β) (a : α) : NoDrift (bs.foldlM f a) := by
  induction bs generalizing a with
  | nil => exact noDrift_pure a
  | cons b bs ih =>
    rw [List.foldlM_cons]
    exact noDrift_bind (hf a b) fun a' _ => ih a'

end Errors

section Words

lemma le16_ofNat_injective {m n : ℕ} (hm : m < 2 ^ 16) (hn : n < 2 ^ 16)
    (h : le16 (UInt16.ofNat m) = le16 (UInt16.ofNat n)) : m = n := by
  have hw := congrArg UInt16.toNat (le16_injective h)
  rwa [UInt16.toNat_ofNat_of_lt' hm, UInt16.toNat_ofNat_of_lt' hn] at hw

lemma le64_injective : Function.Injective le64 := Function.LeftInverse.injective ofLe64_le64

lemma le64_ofNat_injective {m n : ℕ} (hm : m < 2 ^ 64) (hn : n < 2 ^ 64)
    (h : le64 (UInt64.ofNat m) = le64 (UInt64.ofNat n)) : m = n := by
  have hw := congrArg UInt64.toNat (le64_injective h)
  rwa [UInt64.toNat_ofNat_of_lt' hm, UInt64.toNat_ofNat_of_lt' hn] at hw

@[simp] lemma u64Field_ok {value : ℕ} {key : String} {word : UInt64} :
    u64Field value key = .ok word ↔ value < 2 ^ 64 ∧ UInt64.ofNat value = word := by
  simp only [u64Field, bind_ok, exists_unit, check_ok, pure_ok]

lemma noDrift_u64Field (value : ℕ) (key : String) : NoDrift (u64Field value key) :=
  noDrift_bind (noDrift_check _ _) fun _ _ => noDrift_pure _

lemma u64Field_injective {m n : ℕ} {key key' : String} {u v : UInt64} (hu : u64Field m key = .ok u)
    (hv : u64Field n key' = .ok v) (h : le64 u = le64 v) : m = n := by
  obtain ⟨hm, hu⟩ := u64Field_ok.mp hu
  obtain ⟨hn, hv⟩ := u64Field_ok.mp hv
  rw [← hu, ← hv] at h
  exact le64_ofNat_injective hm hn h

lemma decodeDigest_ok {value : Bytes} {label : String} {digest : Digest} :
    decodeDigest value label = .ok digest ↔ Hex.decode value = some digest.val := by
  simp only [decodeDigest, bind_ok, context_ok, ByteArr.ofBytes_eq_some]
  constructor
  · intro h
    obtain ⟨bytes, hbytes, hdigest⟩ := h
    rw [hbytes, hdigest]
  · intro h
    exact ⟨digest.val, h, rfl⟩

lemma decodeOciSha256Digest_ok {value : Bytes} {label : String} {digest : Digest} :
    decodeOciSha256Digest value label = .ok digest ↔
      value.take 7 = sha256Prefix ∧ Hex.decode (value.drop 7) = some digest.val := by
  simp only [decodeOciSha256Digest, bind_ok, exists_unit, ensure_ok, decodeDigest_ok]

/-- Two texts that spell one digest, in digits of any case. -/
def SameDigest (a b : Bytes) : Prop := Hex.decode a = Hex.decode b

def SameOciDigest (a b : Bytes) : Prop := a.take 7 = b.take 7 ∧ SameDigest (a.drop 7) (b.drop 7)

lemma decodeDigest_injective {a b : Bytes} {label label' : String} {x y : Digest}
    (hx : decodeDigest a label = .ok x) (hy : decodeDigest b label' = .ok y) (h : x.val = y.val) :
    SameDigest a b := by
  rw [SameDigest, decodeDigest_ok.mp hx, decodeDigest_ok.mp hy, h]

lemma decodeOciSha256Digest_injective {a b : Bytes} {label label' : String} {x y : Digest}
    (hx : decodeOciSha256Digest a label = .ok x) (hy : decodeOciSha256Digest b label' = .ok y)
    (h : x.val = y.val) : SameOciDigest a b := by
  obtain ⟨ha, hx⟩ := decodeOciSha256Digest_ok.mp hx
  obtain ⟨hb, hy⟩ := decodeOciSha256Digest_ok.mp hy
  exact ⟨ha.trans hb.symm, by rw [SameDigest, hx, hy, h]⟩

lemma sameDigest_eq {a b : Bytes} (ha : Hex32 a) (hb : Hex32 b) (h : SameDigest a b) : a = b := by
  obtain ⟨u, hu, -, hua⟩ := Hex.encode_decode ha.2 (n := 32) ha.1
  obtain ⟨v, hv, -, hvb⟩ := Hex.encode_decode hb.2 (n := 32) hb.1
  rw [SameDigest, hu, hv] at h
  rw [← hua, ← hvb, Option.some.inj h]

lemma sameOciDigest_eq {a b : Bytes} (ha : Sha256Digest a) (hb : Sha256Digest b)
    (h : SameOciDigest a b) : a = b := by
  rw [← List.take_append_drop 7 a, ← List.take_append_drop 7 b, h.1, sameDigest_eq ha.2 hb.2 h.2]

lemma digest_length (d : Digest) : (d.val : Bytes).length = 32 := d.2

end Words

section Artifacts

def artifactEncoding (a : ArtifactIdentity) : Bytes :=
  h0ArtifactIdentityDomain ++ [a.kind] ++ [a.encoding] ++ le16 (UInt16.ofNat a.path.length) ++ a.path ++
    le64 a.byteLength ++ a.sha256.val

lemma domains_checked :
    (h0ArtifactIdentityDomain.length = 43 ∧ h0OciImageLayoutDomain.length = 42 ∧
      h0RootfsPlanDomain.length = 37) ∧
    (h0ArtifactIdentityDomain.drop 11).take 1 = utf8 "a" ∧ (h0OciImageLayoutDomain.drop 11).take 1 = utf8 "o" ∧
      (h0RootfsPlanDomain.drop 11).take 1 = utf8 "r" ∧
    utf8 "a" ≠ utf8 "o" ∧ utf8 "a" ≠ utf8 "r" ∧ utf8 "o" ≠ utf8 "r" := by
  decide

lemma artifactDomain_length : h0ArtifactIdentityDomain.length = 43 := domains_checked.1.1

lemma artifactEncoding_length (a : ArtifactIdentity) :
    (artifactEncoding a).length = 87 + a.path.length := by
  simp only [artifactEncoding, List.length_append, artifactDomain_length, List.length_singleton,
    le16_length, le64_length, digest_length]
  omega

lemma artifactEncoding_injective {a b : ArtifactIdentity} (h : artifactEncoding a = artifactEncoding b) :
    a = b := by
  obtain ⟨h, hsha⟩ := List.append_inj' h (by simp)
  obtain ⟨h, hlength⟩ := List.append_inj' h (by simp)
  obtain ⟨h, hpath⟩ := List.append_inj h (by simp)
  obtain ⟨h, -⟩ := List.append_inj' h (by simp)
  obtain ⟨h, hencoding⟩ := List.append_inj' h rfl
  obtain ⟨-, hkind⟩ := List.append_inj' h rfl
  obtain ⟨kind, encoding, path, byteLength, sha256⟩ := a
  rw [ArtifactIdentity.mk.injEq]
  exact ⟨List.singleton_inj.mp hkind, List.singleton_inj.mp hencoding, hpath, le64_injective hlength,
    Subtype.ext hsha⟩

/-- The closed pairs of a kind and its encoding. -/
def CompatiblePair (kind encoding : UInt8) : Prop := (kind ≤ 5 ∧ encoding = 1) ∨ (kind = 8 ∧ encoding = 3)

instance (kind encoding : UInt8) : Decidable (CompatiblePair kind encoding) :=
  inferInstanceAs (Decidable (_ ∨ _))

lemma safePath_length {path : Bytes} (h : Materialization.validateSafeRelativePath path = .ok ()) :
    path.length ≤ 240 := by
  rw [Materialization.validateSafeRelativePath, bind_ok] at h
  obtain ⟨_, h, -⟩ := h
  exact (ensure_ok.mp h).2

lemma h0ArtifactIdentity_ok {h0Sha256 : Bytes → Digest} {a : ArtifactIdentity}
    {p : ArtifactIdentityPreimage} : h0ArtifactIdentity h0Sha256 a = .ok p ↔
      CompatiblePair a.kind a.encoding ∧ Materialization.validateSafeRelativePath a.path = .ok () ∧
        p = ⟨artifactEncoding a, h0Sha256 (artifactEncoding a)⟩ := by
  have hlength := artifactEncoding_length a
  simp only [h0ArtifactIdentity, bind_ok, exists_unit, check_ok, reported_ok, mapError_ok, require_ok,
    checkedAdd_eq_some, ensure_ok, pure_ok]
  constructor
  · intro h
    obtain ⟨hpair, hpath, -, _, -, -, rfl⟩ := h
    exact ⟨hpair, hpath, rfl⟩
  · intro h
    obtain ⟨hpair, hpath, rfl⟩ := h
    have hbound := safePath_length hpath
    exact ⟨hpair, hpath, by omega, _, ⟨by omega, rfl⟩, hlength, rfl⟩

lemma h0ArtifactIdentity_noDrift (h0Sha256 : Bytes → Digest) (a : ArtifactIdentity) :
    NoDrift (h0ArtifactIdentity h0Sha256 a) := by
  rw [h0ArtifactIdentity]
  apply noDrift_bind (noDrift_check _ _)
  intro _ _
  apply noDrift_bind (noDrift_reported _)
  intro _ _
  apply noDrift_bind (noDrift_check _ _)
  intro _ _
  apply noDrift_bind (noDrift_require _ _)
  intro exactLength hexact
  obtain ⟨-, hexact⟩ := checkedAdd_eq_some.mp (require_ok.mp hexact)
  apply noDrift_bind (noDrift_ensure ((artifactEncoding_length a).trans hexact))
  intro _ _
  exact noDrift_pure _

end Artifacts

section Layers

def SameDescriptor (a b : OciDescriptor) : Prop := SameOciDigest a.digest b.digest ∧ a.size = b.size

structure SameLayer (a b : LayerIdentity) : Prop where
  digest : SameOciDigest a.digest b.digest
  size : a.size = b.size
  uncompressedBytes : a.uncompressedBytes = b.uncompressedBytes
  diffId : SameOciDigest a.diffId b.diffId

/-- The bytes of a layer, whatever its index. -/
def LayerEncoded (layer : LayerIdentity) (bytes : Bytes) : Prop :=
  ∃ index, h0OciLayer layer index = .ok bytes

lemma h0OciLayer_ok {layer : LayerIdentity} {index : ℕ} {bytes : Bytes} :
    h0OciLayer layer index = .ok bytes ↔ ∃ digest diffId : Digest,
      layer.digest.take 7 = sha256Prefix ∧ Hex.decode (layer.digest.drop 7) = some digest.val ∧
      layer.size < 2 ^ 64 ∧ layer.uncompressedBytes < 2 ^ 64 ∧ layer.diffId.take 7 = sha256Prefix ∧
      Hex.decode (layer.diffId.drop 7) = some diffId.val ∧
      bytes = digest.val ++ le64 (UInt64.ofNat layer.size) ++
        le64 (UInt64.ofNat layer.uncompressedBytes) ++ diffId.val := by
  simp only [h0OciLayer, bind_ok, reported_ok, decodeOciSha256Digest_ok, u64Field_ok, pure_ok]
  constructor
  · intro h
    obtain ⟨digest, ⟨halg, hdigest⟩, _, ⟨hsize, rfl⟩, _, ⟨hbytes, rfl⟩, diffId, ⟨halg', hdiff⟩,
      h⟩ := h
    exact ⟨digest, diffId, halg, hdigest, hsize, hbytes, halg', hdiff, h.symm⟩
  · intro h
    obtain ⟨digest, diffId, halg, hdigest, hsize, hbytes, halg', hdiff, h⟩ := h
    exact ⟨digest, ⟨halg, hdigest⟩, _, ⟨hsize, rfl⟩, _, ⟨hbytes, rfl⟩, diffId, ⟨halg', hdiff⟩,
      h.symm⟩

lemma LayerEncoded.length {layer : LayerIdentity} {bytes : Bytes} (h : LayerEncoded layer bytes) :
    bytes.length = 80 := by
  obtain ⟨index, h⟩ := h
  obtain ⟨digest, diffId, -, -, -, -, -, -, rfl⟩ := h0OciLayer_ok.mp h
  simp

lemma LayerEncoded.injective {a b : LayerIdentity} {bytes : Bytes} (ha : LayerEncoded a bytes)
    (hb : LayerEncoded b bytes) : SameLayer a b := by
  obtain ⟨index, ha⟩ := ha
  obtain ⟨index', hb⟩ := hb
  obtain ⟨d, f, hap, had, has, hau, hfp, haf, rfl⟩ := h0OciLayer_ok.mp ha
  obtain ⟨d', f', hbp, hbd, hbs, hbu, hfp', hbf, h⟩ := h0OciLayer_ok.mp hb
  obtain ⟨h, hdiff⟩ := List.append_inj' h (by simp)
  obtain ⟨h, hbytes⟩ := List.append_inj' h (by simp)
  obtain ⟨hdigest, hsize⟩ := List.append_inj' h (by simp)
  exact {
    digest := ⟨hap.trans hbp.symm, by rw [SameDigest, had, hbd, hdigest]⟩
    size := le64_ofNat_injective has hbs hsize
    uncompressedBytes := le64_ofNat_injective hau hbu hbytes
    diffId := ⟨hfp.trans hfp'.symm, by rw [SameDigest, haf, hbf, hdiff]⟩ }

lemma forall₂_zipIdx {α β : Type} {R : α → β → Prop} {S : α × ℕ → β → Prop} (hS : ∀ x y, S x y → R x.1 y)
    {xs : List α} {ys : List β} {k : ℕ} (h : List.Forall₂ S (xs.zipIdx k) ys) : List.Forall₂ R xs ys := by
  induction xs generalizing k ys with
  | nil =>
    rw [List.zipIdx_nil, List.forall₂_nil_left_iff] at h
    rw [h]
    exact .nil
  | cons x xs ih =>
    rw [List.zipIdx_cons, List.forall₂_cons_left_iff] at h
    obtain ⟨y, ys', hy, hys, rfl⟩ := h
    exact .cons (hS _ y hy) (ih hys)

lemma layersEncoded {layers : List LayerIdentity} {encoded : List Bytes}
    (h : (layers.zipIdx.mapM fun layer => h0OciLayer layer.1 layer.2) = .ok encoded) :
    List.Forall₂ LayerEncoded layers encoded := by
  apply forall₂_zipIdx (S := fun layer bytes => h0OciLayer layer.1 layer.2 = .ok bytes)
  · intro layer bytes hlayer
    exact ⟨layer.2, hlayer⟩
  · exact mapM_forall₂.mp h

lemma layersEncoded_length {layers : List LayerIdentity} {encoded : List Bytes}
    (h : List.Forall₂ LayerEncoded layers encoded) : encoded.flatten.length = 80 * layers.length := by
  induction h with
  | nil => rfl
  | cons h _ ih =>
    rw [List.flatten_cons, List.length_append, h.length, ih, List.length_cons]
    omega

lemma layersEncoded_injective {a b : List LayerIdentity} {x y : List Bytes}
    (ha : List.Forall₂ LayerEncoded a x) (hb : List.Forall₂ LayerEncoded b y)
    (hlength : a.length = b.length) (h : x.flatten = y.flatten) : List.Forall₂ SameLayer a b := by
  induction ha generalizing b y with
  | nil =>
    rw [List.length_eq_zero_iff.mp hlength.symm]
    exact .nil
  | cons hbytes _ ih =>
    cases hb with
    | nil => cases hlength
    | cons hbytes' hb =>
      rw [List.flatten_cons, List.flatten_cons] at h
      obtain ⟨hhead, htail⟩ := List.append_inj h (hbytes.length.trans hbytes'.length.symm)
      exact .cons (hbytes.injective (hhead ▸ hbytes')) (ih hb (Nat.succ.inj hlength) htail)

end Layers

section Requirements

lemma kind_byte_injective : Function.Injective RootfsPathKind.byte := by
  intro a b h
  cases a <;> cases b <;> first | rfl | exact absurd h (by decide)

lemma h0Requirement_ok {requirement : Bytes × RootfsPathKind} {bytes : Bytes} :
    h0Requirement requirement = .ok bytes ↔ requirement.1.length < 2 ^ 16 ∧
      bytes = [requirement.2.byte] ++ le16 (UInt16.ofNat requirement.1.length) ++ requirement.1 := by
  simp only [h0Requirement, bind_ok, exists_unit, check_ok, pure_ok]
  exact and_congr_right fun _ => eq_comm

/-- The sum of the lengths of the encoded requirements. -/
def requirementsLength (requirements : Requirements) : ℕ :=
  (requirements.map fun requirement => 3 + requirement.1.length).sum

lemma measured_length {requirements : Requirements} {seen last : Option Bytes × ℕ}
    (h : requirements.foldlM measureRequirement seen = .ok last) :
    last.2 = seen.2 + requirementsLength requirements := by
  induction requirements generalizing seen with
  | nil =>
    cases Except.ok.inj h
    rfl
  | cons requirement requirements ih =>
    rw [List.foldlM_cons, bind_ok] at h
    obtain ⟨next, hnext, h⟩ := h
    simp only [measureRequirement, bind_ok, require_ok, checkedAdd_eq_some, pure_ok] at hnext
    obtain ⟨_, -, _, -, _, ⟨-, rfl⟩, _, ⟨-, rfl⟩, rfl⟩ := hnext
    rw [ih h, requirementsLength, requirementsLength, List.map_cons, List.sum_cons]
    simp only
    omega

lemma requirements_length {requirements : Requirements} {encoded : List Bytes}
    (h : requirements.mapM h0Requirement = .ok encoded) :
    encoded.flatten.length = requirementsLength requirements := by
  have hencoded := mapM_forall₂.mp h
  clear h
  induction hencoded with
  | nil => rfl
  | cons hbytes _ ih =>
    obtain ⟨-, rfl⟩ := h0Requirement_ok.mp hbytes
    rw [List.flatten_cons, List.length_append, ih, requirementsLength, requirementsLength, List.map_cons,
      List.sum_cons]
    simp
    omega

lemma requirements_injective {a b : Requirements} {x y : List Bytes}
    (ha : List.Forall₂ (fun requirement bytes => h0Requirement requirement = .ok bytes) a x)
    (hb : List.Forall₂ (fun requirement bytes => h0Requirement requirement = .ok bytes) b y)
    (hlength : a.length = b.length) (h : x.flatten = y.flatten) : a = b := by
  induction ha generalizing b y with
  | nil => exact (List.length_eq_zero_iff.mp hlength.symm).symm
  | cons hbytes _ ih =>
    cases hb with
    | nil => cases hlength
    | cons hbytes' hb =>
      obtain ⟨hfits, rfl⟩ := h0Requirement_ok.mp hbytes
      obtain ⟨hfits', rfl⟩ := h0Requirement_ok.mp hbytes'
      simp only [List.flatten_cons, List.append_assoc] at h
      obtain ⟨hkind, h⟩ := List.append_inj h rfl
      obtain ⟨hwidth, h⟩ := List.append_inj h (by simp)
      obtain ⟨hpath, htail⟩ := List.append_inj h (le16_ofNat_injective hfits hfits' hwidth)
      have hkind := kind_byte_injective (List.singleton_inj.mp hkind)
      rw [ih hb (Nat.succ.inj hlength) htail, Prod.ext hpath hkind]

end Requirements

end Eip0045.Oci
