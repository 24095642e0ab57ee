import Mathlib
import Eip0045.Layer.Archive
import Eip0045.Oci.ImageImport
import Eip0045.Oci.ImageProjection

/-! Authenticated layers: the gzip member around an archive, its inspection and its replays. -/

namespace Eip0045.Layer

open Bytes Checked
open Rootfs (Result ReplayEntry ChangesetTranscript OciLayerStreamLimits ioBufferBytes)
open Oci (OciExpectedLayer)

section Sinks

variable {σ : Type}

def transcriptReplaySink : ReplaySink ChangesetTranscript where
  beginEntry entry transcript := transcript.beginEntry entry
  writeRegularFileChunk chunk transcript := transcript.writeRegularFileChunk chunk
  finishEntry transcript := transcript.finishEntry

/-- The transcript in front of a sink of the caller. -/
def authenticatedReplaySink (downstream : ReplaySink σ) : ReplaySink (ChangesetTranscript × σ) where
  beginEntry entry s := do
    let transcript ← transcriptReplaySink.beginEntry entry s.1
    let t ← downstream.beginEntry entry s.2
    pure (transcript, t)
  writeRegularFileChunk chunk s := do
    let transcript ← transcriptReplaySink.writeRegularFileChunk chunk s.1
    let t ← downstream.writeRegularFileChunk chunk s.2
    pure (transcript, t)
  finishEntry s := do
    let transcript ← transcriptReplaySink.finishEntry s.1
    let t ← downstream.finishEntry s.2
    pure (transcript, t)

variable {downstream : ReplaySink σ} {transcript transcript' : ChangesetTranscript} {s s' : σ}

lemma step_authenticated {event : ReplayEvent} {p : ChangesetTranscript × σ} :
    (authenticatedReplaySink downstream).step (transcript, s) event = .ok p ↔
      transcriptReplaySink.step transcript event = .ok p.1 ∧ downstream.step s event = .ok p.2 := by
  obtain ⟨t, u⟩ := p
  have hpair : ∀ (x : Result ChangesetTranscript) (y : Result σ),
      (x >>= fun a => y >>= fun b => pure (a, b)) = .ok (t, u) ↔ x = .ok t ∧ y = .ok u := by
    intro x y
    simp only [bind_ok, pure_ok, Prod.mk.injEq]
    constructor
    · rintro ⟨_, hx, _, hy, rfl, rfl⟩
      exact ⟨hx, hy⟩
    · rintro ⟨hx, hy⟩
      exact ⟨t, hx, u, hy, rfl, rfl⟩
  cases event with
  | beginEntry entry => exact hpair _ _
  | chunk bytes => exact hpair _ _
  | finishEntry => exact hpair _ _

lemma run_authenticated {events : List ReplayEvent} :
    (authenticatedReplaySink downstream).run (transcript, s) events = .ok (transcript', s') ↔
      transcriptReplaySink.run transcript events = .ok transcript' ∧ downstream.run s events = .ok s' := by
  induction events generalizing transcript s with
  | nil => simp [ReplaySink.run, pure_ok]
  | cons event events ih =>
    simp only [ReplaySink.run, List.foldlM_cons, bind_ok] at ih ⊢
    constructor
    · intro h
      obtain ⟨⟨t, u⟩, hstep, hrest⟩ := h
      obtain ⟨ht, hu⟩ := step_authenticated.mp hstep
      obtain ⟨htranscript, hdownstream⟩ := ih.mp hrest
      exact ⟨⟨t, ht, htranscript⟩, u, hu, hdownstream⟩
    · intro h
      obtain ⟨⟨t, ht, htranscript⟩, u, hu, hdownstream⟩ := h
      exact ⟨(t, u), step_authenticated.mpr ⟨ht, hu⟩, ih.mpr ⟨htranscript, hdownstream⟩⟩

lemma run_chunks {bytes payload : Bytes} :
    transcriptReplaySink.run (writing bytes payload.length) ((chunks payload).map .chunk) = .ok transcript' ↔
      transcript' = writing (bytes ++ payload) 0 := by
  induction hlength : payload.length using Nat.strong_induction_on generalizing bytes payload with
  | _ n ih =>
    by_cases hnil : payload = []
    · subst hnil
      obtain rfl := hlength
      rw [chunks_nil, List.append_nil]
      exact ⟨fun h => (Except.ok.inj h).symm, fun h => congrArg Except.ok h.symm⟩
    · have hpositive := List.length_pos_of_ne_nil hnil
      have hbuffer : 0 < ioBufferBytes := by decide
      have htaken : (payload.take ioBufferBytes).length = min ioBufferBytes n := by rw [List.length_take, hlength]
      have hleft : n - min ioBufferBytes n = (payload.drop ioBufferBytes).length := by
        rw [List.length_drop]
        omega
      rw [chunks_cons hnil, List.map_cons, ReplaySink.run, List.foldlM_cons, bind_ok]
      change (∃ t, (writing bytes n).writeRegularFileChunk _ = .ok t ∧ transcriptReplaySink.run t _ = .ok _) ↔ _
      simp only [writeRegularFileChunk_ok, htaken]
      constructor
      · rintro ⟨_, ⟨-, -, -, rfl⟩, hrest⟩
        rw [ih _ (by omega) hleft.symm, List.append_assoc, List.take_append_drop] at hrest
        exact hrest
      · intro hrest
        refine ⟨_, ⟨List.ne_nil_of_length_pos (by omega), by omega, by omega, rfl⟩, ?_⟩
        rw [ih _ (by omega) hleft.symm, List.append_assoc, List.take_append_drop]
        exact hrest

variable {limits : OciLayerStreamLimits} {m : Member} {members : List Member} {bytes : Bytes}

lemma run_transcript (h : m.parsed.Canonical) : transcriptReplaySink.run ⟨bytes, false, none⟩ m.events = .ok transcript' ↔
    transcript' = ⟨bytes ++ m.transcript, false, none⟩ := by
  have hbegin : ∀ t, transcriptReplaySink.beginEntry m.entry ⟨bytes, false, none⟩ = .ok t ↔ t =
      ⟨bytes ++ ChangesetTranscript.entryBytes m.entry, true, ChangesetTranscript.payloadOf m.entry⟩ :=
    fun t => beginEntry_ok
  have hwrite : ∀ t, transcriptReplaySink.run ⟨bytes ++ ChangesetTranscript.entryBytes m.entry, true,
      ChangesetTranscript.payloadOf m.entry⟩ ((chunks m.content.payload).map .chunk) = .ok t ↔ t =
        ⟨bytes ++ ChangesetTranscript.entryBytes m.entry ++ m.content.payload, true,
          (ChangesetTranscript.payloadOf m.entry).map fun _ => 0⟩ := by
    intro t
    obtain howed | ⟨howed, hnil⟩ := owed_member (payload_lt h)
    · rw [howed]
      exact run_chunks
    · rw [howed, List.length_eq_zero_iff.mp hnil, chunks_nil, List.append_nil]
      exact ⟨fun h => (Except.ok.inj h).symm, fun h => congrArg Except.ok h.symm⟩
  have hend : ∀ owed : Option ℕ, transcriptReplaySink.finishEntry
      ⟨bytes ++ ChangesetTranscript.entryBytes m.entry ++ m.content.payload, true, owed.map fun _ => 0⟩ =
        .ok transcript' ↔ transcript' = ⟨bytes ++ m.transcript, false, none⟩ := by
    intro owed
    rw [Member.transcript, ← List.append_assoc, ← List.append_assoc]
    exact finishEntry_ok
  rw [run_member]
  simp only [hbegin, exists_eq_left, hwrite, hend]

lemma run_transcripts (h : ∀ m ∈ members, m.parsed.Canonical) :
    transcriptReplaySink.run ⟨bytes, false, none⟩ (members.flatMap Member.events) = .ok transcript' ↔
      transcript' = ⟨bytes ++ members.flatMap Member.transcript, false, none⟩ := by
  induction members generalizing bytes with
  | nil =>
    rw [List.flatMap_nil, List.flatMap_nil, List.append_nil]
    exact ⟨fun h => (Except.ok.inj h).symm, fun h => congrArg Except.ok h.symm⟩
  | cons m members ih =>
    obtain ⟨hm, hmembers⟩ := List.forall_mem_cons.mp h
    rw [run_cons]
    simp only [run_transcript hm, exists_eq_left, ih hmembers, List.flatMap_cons, List.append_assoc]

end Sinks

section Gzip

def gzipHeader : Bytes := [0x1f, 0x8b, 0x08, 0x00, 0x00, 0x00, 0x00, 0x00, 0x00, 0xff]
def gzipTrailerBytes : ℕ := 8
def ociLayerMinCompressedBytes : ℕ := 20
def ociLayerMinUncompressedBytes : ℕ := 1024

/-- What a Deflate decoder gives out of its input, and what it leaves of the input unless it fails. -/
structure Inflated where
  output : Bytes
  rest : Option Bytes
  deriving DecidableEq

structure ImportedOciLayerReceipt where
  compressedByteLength : ℕ
  compressedSha256 : Digest
  uncompressedByteLength : ℕ
  observedUncompressedSha256 : Digest
  entryCount : ℕ
  regularFileCount : ℕ
  directoryCount : ℕ
  symbolicLinkCount : ℕ
  whiteoutCount : ℕ
  regularFileBytes : ℕ
  changesetTranscriptSha256 : Digest
  deriving DecidableEq

/-- The lengths that an image declares of a layer. -/
def validateLayerExpectation (expectation : OciExpectedLayer) : Result Unit := do
  let expectedCompressed := expectation.compressed.byteLength.toNat
  let expectedUncompressed := expectation.uncompressedBytes.toNat
  report (ensure (ociLayerMinCompressedBytes ≤ expectedCompressed ∧
      expectedCompressed ≤ Oci.ociImageLayoutUstarLimits.maximumOuterUstarMemberPayloadBytes)
    "OCI compressed layer length is outside its closed role range")
  report (ensure ((ociLayerMinUncompressedBytes ≤ expectedUncompressed ∧
        expectedUncompressed ≤ Rootfs.layerStream.maximumUncompressedTarBytes) ∧
      expectedUncompressed % ustarBlockBytes = 0)
    "OCI declared uncompressed layer length is outside its closed ustar range")

/-- The reader in front of the archive stops at its maximum, and a decoder that has more to give fails its probe. -/
def probeDeflateEof (inflated : Inflated) (maximum : ℕ) (left : Bytes) : Result Bytes := do
  report (ensure (left = []) "OCI layer has decompressed bytes after its exact ustar terminator")
  report (ensure (inflated.output.length ≤ maximum) "cannot probe OCI layer Deflate EOF")
  report (context "cannot probe OCI layer Deflate EOF" inflated.rest)

def validateGzipTrailer (crc32 : Bytes → UInt32) (ustar rest : Bytes) : Result Unit := do
  let (trailer, trailing) ← readExact rest gzipTrailerBytes
    "OCI gzip trailer is truncated by its authenticated compressed length"
  report (ensure (ofLe32 (trailer.take 4) = crc32 ustar) "OCI gzip CRC32 differs from the decompressed ustar bytes")
  report (ensure (leValue (trailer.drop 4) = ustar.length % 2 ^ 32)
    "OCI gzip ISIZE differs from the decompressed ustar length")
  report (ensure (trailing.take 2 ≠ [0x1f, 0x8b]) "OCI gzip stream contains a second member")
  report (ensure (trailing = []) "OCI gzip stream has trailing bytes")

variable {σ : Type} (sha256 : Bytes → Digest) (inflate : Bytes → Inflated) (crc32 : Bytes → UInt32)

def inspectAuthenticatedOciLayerInner (sink : ReplaySink σ) (s : σ) (source : Bytes) (expectation : OciExpectedLayer) :
    Result (ImportedOciLayerReceipt × σ) := do
  validateLayerExpectation expectation
  let expectedCompressed := expectation.compressed.byteLength.toNat
  let expectedUncompressed := expectation.uncompressedBytes.toNat
  let bounded := source.take expectedCompressed
  let (header, body) ← readExact bounded gzipHeader.length "OCI gzip header is truncated"
  report (ensure (header = gzipHeader) "OCI gzip header is not canonical")
  let inflated := inflate body
  let maximum := min expectedUncompressed Rootfs.layerStream.maximumUncompressedTarBytes
  let (inspection, s, left) ← inspectExactUstar sha256 Rootfs.layerStream sink s (inflated.output.take maximum)
  let rest ← probeDeflateEof inflated maximum left
  report (ensure (inflated.output.length = expectedUncompressed)
    "OCI layer uncompressed length differs from its authenticated declaration")
  validateGzipTrailer crc32 inflated.output rest
  report (ensure (bounded.length = expectedCompressed)
    "OCI layer compressed length differs from its authenticated declaration")
  report (ensure (sha256 bounded = expectation.compressed.digest)
    "OCI layer compressed SHA-256 differs from its authenticated descriptor")
  pure ({
    compressedByteLength := bounded.length
    compressedSha256 := sha256 bounded
    uncompressedByteLength := inflated.output.length
    observedUncompressedSha256 := sha256 inflated.output
    entryCount := inspection.counters.entryCount
    regularFileCount := inspection.counters.regularFileCount
    directoryCount := inspection.counters.directoryCount
    symbolicLinkCount := inspection.counters.symbolicLinkCount
    whiteoutCount := inspection.counters.whiteoutCount
    regularFileBytes := inspection.counters.regularFileBytes
    changesetTranscriptSha256 := inspection.changesetTranscriptSha256 }, s)

def inspectAuthenticatedOciLayer (source : Bytes) (expectation : OciExpectedLayer) : Result ImportedOciLayerReceipt := do
  let (receipt, _) ← inspectAuthenticatedOciLayerInner sha256 inflate crc32 .absent () source expectation
  pure receipt

def replayAuthenticatedOciLayer (source : Bytes) (expectation : OciExpectedLayer) : Result ImportedOciLayerReceipt := do
  let (receipt, transcript) ←
    inspectAuthenticatedOciLayerInner sha256 inflate crc32 transcriptReplaySink .new source expectation
  let replayTranscript ← transcript.finish sha256
  report (ensure (replayTranscript = receipt.changesetTranscriptSha256)
    "OCI layer replay transcript differs from its parser transcript")
  pure receipt

def replayAuthenticatedOciLayerWithSink (downstream : ReplaySink σ) (s : σ) (source : Bytes)
    (expectation : OciExpectedLayer) : Result (ImportedOciLayerReceipt × σ) := do
  let (receipt, transcript, s) ←
    inspectAuthenticatedOciLayerInner sha256 inflate crc32 (authenticatedReplaySink downstream) (.new, s) source
      expectation
  let replayTranscript ← transcript.finish sha256
  report (ensure (replayTranscript = receipt.changesetTranscriptSha256)
    "OCI layer replay transcript differs from its parser transcript")
  pure (receipt, s)

/-- The checksum and the length of an archive behind its stream. -/
def gzipTrailer (ustar : Bytes) : Bytes := le32 (crc32 ustar) ++ leBytes 4 (ustar.length % 2 ^ 32)

/-- A source starts with the gzip member of a layer as an image declares it. -/
structure Authentic (source : Bytes) (expectation : OciExpectedLayer) (members : List Member) : Prop where
  layer : ValidLayer Rootfs.layerStream members
  compressed : expectation.compressed.byteLength.toNat ≤ source.length
  digest : sha256 (source.take expectation.compressed.byteLength.toNat) = expectation.compressed.digest
  compressedRange : 20 ≤ expectation.compressed.byteLength.toNat ∧ expectation.compressed.byteLength.toNat ≤ 8589934591
  uncompressed : (archive members).length = expectation.uncompressedBytes.toNat
  uncompressedRange : expectation.uncompressedBytes.toNat ≤ 34359738368
  gzip : ∃ body, source.take expectation.compressed.byteLength.toNat = gzipHeader ++ body ∧
    inflate body = ⟨archive members, some (gzipTrailer crc32 (archive members))⟩

/-- The receipt of the gzip member of a layer. -/
def receiptOf (compressed : Bytes) (members : List Member) : ImportedOciLayerReceipt where
  compressedByteLength := compressed.length
  compressedSha256 := sha256 compressed
  uncompressedByteLength := (archive members).length
  observedUncompressedSha256 := sha256 (archive members)
  entryCount := members.length
  regularFileCount := members.countP fun m => m.content.isRegular
  directoryCount := members.countP fun m => m.content.isDirectory
  symbolicLinkCount := members.countP fun m => m.content.isSymbolicLink
  whiteoutCount := members.countP fun m => m.content.isWhiteout
  regularFileBytes := regularBytes members
  changesetTranscriptSha256 := sha256 (transcribed members)

end Gzip

section Uniqueness

variable {members others : List Member} {u v : Bytes}

lemma run_layer {transcript : ChangesetTranscript} (h : ValidLayer Rootfs.layerStream members) :
    transcriptReplaySink.run .new (members.flatMap Member.events) = .ok transcript ↔
      transcript = ⟨transcribed members, false, none⟩ :=
  run_transcripts fun m hmem => (h.each m hmem).canonical

lemma archive_cancel (hm : ValidLayer Rootfs.layerStream members) (hn : ValidLayer Rootfs.layerStream others)
    (h : archive members ++ u = archive others ++ v) : members = others ∧ u = v := by
  -- the parser reads a layer's transcript off its archive, and a transcript is that of one layer
  have hread : ∀ (layer : List Member) (rest : Bytes), ValidLayer Rootfs.layerStream layer →
      inspectExactUstar (fun _ => ByteArr.zero 32) Rootfs.layerStream transcriptReplaySink .new (archive layer ++ rest) =
        .ok (⟨counted layer, ByteArr.zero 32⟩, ⟨transcribed layer, false, none⟩, rest) := by
    intro layer rest hlayer
    exact inspectExactUstar_ok.mpr ⟨layer, hlayer, rfl, rfl, (run_layer hlayer).mpr rfl⟩
  have hfirst := hread members u hm
  rw [h, hread others v hn] at hfirst
  simp only [Except.ok.injEq, Prod.mk.injEq, ChangesetTranscript.mk.injEq] at hfirst
  obtain ⟨-, ⟨htranscribed, -⟩, hrest⟩ := hfirst
  exact ⟨transcribed_injective hm.each hn.each htranscribed.symm, hrest.symm⟩

end Uniqueness

section Envelope

variable {σ : Type} {sha256 : Bytes → Digest} {inflate : Bytes → Inflated} {crc32 : Bytes → UInt32}
  {expectation : OciExpectedLayer} {source ustar rest : Bytes} {members others : List Member}

lemma validateLayerExpectation_ok : validateLayerExpectation expectation = .ok () ↔
    (20 ≤ expectation.compressed.byteLength.toNat ∧ expectation.compressed.byteLength.toNat ≤ 8589934591) ∧
      (1024 ≤ expectation.uncompressedBytes.toNat ∧ expectation.uncompressedBytes.toNat ≤ 34359738368) ∧
        expectation.uncompressedBytes.toNat % 512 = 0 := by
  simp only [validateLayerExpectation, bind_ok, exists_unit, report_ok, ensure_ok]
  exact Iff.rfl

lemma probeDeflateEof_ok {inflated : Inflated} {maximum : ℕ} {left : Bytes} :
    probeDeflateEof inflated maximum left = .ok rest ↔
      left = [] ∧ inflated.output.length ≤ maximum ∧ inflated.rest = some rest := by
  simp only [probeDeflateEof, bind_ok, exists_unit, report_ok, ensure_ok, context_ok]

lemma validateGzipTrailer_ok : validateGzipTrailer crc32 ustar rest = .ok () ↔ rest = gzipTrailer crc32 ustar := by
  simp only [validateGzipTrailer, bind_ok, Prod.exists, readExact_ok, exists_unit, report_ok, ensure_ok]
  constructor
  · intro h
    obtain ⟨trailer, _, ⟨hlength, rfl⟩, hcrc32, hisize, -, rfl⟩ := h
    rw [gzipTrailerBytes] at hlength
    have htake : (trailer.take 4).length = 4 := List.length_take_of_le (by omega)
    have hdrop : (trailer.drop 4).length = 4 := by rw [List.length_drop, hlength]
    have hfield : leBytes 4 (leValue (trailer.drop 4)) = trailer.drop 4 := by
      nth_rewrite 1 [← hdrop]
      exact leBytes_leValue _
    rw [List.append_nil, gzipTrailer, ← hcrc32, ← hisize, le32_ofLe32 htake, hfield, List.take_append_drop]
  · rintro rfl
    refine ⟨gzipTrailer crc32 ustar, [], ⟨by simp [gzipTrailer, gzipTrailerBytes], (List.append_nil _).symm⟩, ?_, ?_, ?_,
      rfl⟩
    · rw [gzipTrailer, List.take_left' (le32_length _), ofLe32_le32]
    · rw [gzipTrailer, List.drop_left' (le32_length _)]
      exact leValue_leBytes (lt_of_lt_of_eq (Nat.mod_lt _ (Nat.two_pow_pos 32)) (by norm_num))
    · simp

lemma block_length {m : Member} (h : m.parsed.Canonical) : m.block.length % 512 = 0 := by
  rw [Member.block, List.length_append, Ustar.Header.encode_length h.fits, List.length_append, List.length_replicate,
    Member.padding, ustarBlockBytes]
  omega

lemma archive_length (h : ∀ m ∈ members, m.parsed.Canonical) :
    1024 ≤ (archive members).length ∧ (archive members).length % 512 = 0 := by
  have hblocks : (members.flatMap Member.block).length % 512 = 0 := by
    induction members with
    | nil => rfl
    | cons m members ih =>
      obtain ⟨hm, hmembers⟩ := List.forall_mem_cons.mp h
      have hfirst := block_length hm
      have hrest := ih hmembers
      rw [List.flatMap_cons, List.length_append]
      omega
  rw [archive, List.length_append, List.length_replicate]
  omega

lemma inspectAuthenticatedOciLayerInner_ok {sink : ReplaySink σ} {s s' : σ} {receipt : ImportedOciLayerReceipt} :
    inspectAuthenticatedOciLayerInner sha256 inflate crc32 sink s source expectation = .ok (receipt, s') ↔
      ∃ members, Authentic sha256 inflate crc32 source expectation members ∧
        receipt = receiptOf sha256 (source.take expectation.compressed.byteLength.toNat) members ∧
        sink.run s (members.flatMap Member.events) = .ok s' := by
  simp only [inspectAuthenticatedOciLayerInner, bind_ok, Prod.exists, exists_unit, validateLayerExpectation_ok,
    readExact_ok, report_ok, ensure_ok, inspectExactUstar_ok, probeDeflateEof_ok, validateGzipTrailer_ok, pure_ok,
    Prod.mk.injEq]
  constructor
  · intro h
    obtain ⟨⟨hcompressed, ⟨-, hmaximum⟩, -⟩, _, body, ⟨-, hbounded⟩, rfl, _, _, _, ⟨members, hvalid, hsource, rfl, hrun⟩,
      _, ⟨rfl, hle, hrest⟩, hlength, rfl, hexact, hdigest, rfl, rfl⟩ := h
    have harchive : (inflate body).output = archive members := by
      rw [List.take_of_length_le hle, List.append_nil] at hsource
      exact hsource
    have hinflate : inflate body = ⟨archive members, some (gzipTrailer crc32 (archive members))⟩ := by
      rw [harchive] at hrest
      exact congrArg₂ Inflated.mk harchive hrest
    rw [harchive] at hlength
    refine ⟨members, ⟨hvalid, ?_, hdigest, hcompressed, hlength, hmaximum, body, hbounded, hinflate⟩, ?_, hrun⟩
    · rw [List.length_take] at hexact
      omega
    · rw [harchive]
      rfl
  · intro h
    obtain ⟨members, hauthentic, rfl, hrun⟩ := h
    obtain ⟨body, hbounded, hinflate⟩ := hauthentic.gzip
    obtain ⟨hminimum, hblocks⟩ := archive_length fun m hmem => (hauthentic.layer.each m hmem).canonical
    have huncompressed := hauthentic.uncompressed
    have hmaximum := hauthentic.uncompressedRange
    have hle : (archive members).length ≤
        min expectation.uncompressedBytes.toNat Rootfs.layerStream.maximumUncompressedTarBytes :=
      le_min huncompressed.le (huncompressed.le.trans hmaximum)
    refine ⟨⟨hauthentic.compressedRange, ⟨by omega, hmaximum⟩, by omega⟩, gzipHeader, body, ⟨rfl, hbounded⟩, rfl, _, s',
      [], ⟨members, hauthentic.layer, ?_, rfl, hrun⟩, gzipTrailer crc32 (archive members), ⟨rfl, ?_, ?_⟩, ?_, ?_,
      List.length_take_of_le hauthentic.compressed, hauthentic.digest, ?_, rfl⟩
    · rw [hinflate, List.append_nil, List.take_of_length_le hle]
    · rw [hinflate]
      exact hle
    · rw [hinflate]
    · rw [hinflate]
      exact huncompressed
    · rw [hinflate]
    · rw [hinflate]
      rfl

lemma Authentic.unique (hm : Authentic sha256 inflate crc32 source expectation members)
    (hn : Authentic sha256 inflate crc32 source expectation others) : members = others := by
  obtain ⟨body, hbounded, hinflate⟩ := hm.gzip
  obtain ⟨other, hother, hinflated⟩ := hn.gzip
  obtain rfl := List.append_cancel_left (hbounded.symm.trans hother)
  have harchives : archive members = archive others := congrArg Inflated.output (hinflate.symm.trans hinflated)
  exact (archive_cancel hm.layer hn.layer (congrArg (· ++ []) harchives)).1

lemma run_absent {events : List ReplayEvent} : ReplaySink.absent.run () events = .ok () := by
  induction events with
  | nil => rfl
  | cons event events ih =>
    rw [ReplaySink.run, List.foldlM_cons, bind_ok]
    refine ⟨(), ?_, ih⟩
    cases event <;> rfl

variable {receipt : ImportedOciLayerReceipt}

lemma inspectAuthenticatedOciLayer_ok :
    inspectAuthenticatedOciLayer sha256 inflate crc32 source expectation = .ok receipt ↔
      ∃ members, Authentic sha256 inflate crc32 source expectation members ∧
        receipt = receiptOf sha256 (source.take expectation.compressed.byteLength.toNat) members := by
  simp only [inspectAuthenticatedOciLayer, bind_ok, Prod.exists, inspectAuthenticatedOciLayerInner_ok, pure_ok]
  constructor
  · intro h
    obtain ⟨_, _, ⟨members, hauthentic, rfl, -⟩, rfl⟩ := h
    exact ⟨members, hauthentic, rfl⟩
  · intro h
    obtain ⟨members, hauthentic, rfl⟩ := h
    exact ⟨_, (), ⟨members, hauthentic, rfl, run_absent⟩, rfl⟩

lemma finish_transcribed {digest : Digest} :
    ChangesetTranscript.finish sha256 ⟨transcribed members, false, none⟩ = .ok digest ↔
      digest = sha256 (transcribed members) := by
  simp only [ChangesetTranscript.finish, bind_ok, exists_unit, report_ok, ensure_ok, true_and, pure_ok,
    eq_comm (a := digest)]

lemma replayAuthenticatedOciLayer_ok :
    replayAuthenticatedOciLayer sha256 inflate crc32 source expectation = .ok receipt ↔
      ∃ members, Authentic sha256 inflate crc32 source expectation members ∧
        receipt = receiptOf sha256 (source.take expectation.compressed.byteLength.toNat) members := by
  simp only [replayAuthenticatedOciLayer, bind_ok, Prod.exists, inspectAuthenticatedOciLayerInner_ok, exists_unit,
    report_ok, ensure_ok, pure_ok]
  constructor
  · intro h
    obtain ⟨_, _, ⟨members, hauthentic, rfl, -⟩, _, -, -, rfl⟩ := h
    exact ⟨members, hauthentic, rfl⟩
  · intro h
    obtain ⟨members, hauthentic, rfl⟩ := h
    exact ⟨_, _, ⟨members, hauthentic, rfl, (run_layer hauthentic.layer).mpr rfl⟩, _, finish_transcribed.mpr rfl, rfl,
      rfl⟩

lemma replayAuthenticatedOciLayerWithSink_ok {downstream : ReplaySink σ} {s s' : σ} :
    replayAuthenticatedOciLayerWithSink sha256 inflate crc32 downstream s source expectation = .ok (receipt, s') ↔
      ∃ members, Authentic sha256 inflate crc32 source expectation members ∧
        receipt = receiptOf sha256 (source.take expectation.compressed.byteLength.toNat) members ∧
        downstream.run s (members.flatMap Member.events) = .ok s' := by
  simp only [replayAuthenticatedOciLayerWithSink, bind_ok, Prod.exists, inspectAuthenticatedOciLayerInner_ok,
    run_authenticated, exists_unit, report_ok, ensure_ok, pure_ok, Prod.mk.injEq]
  constructor
  · intro h
    obtain ⟨_, _, _, ⟨members, hauthentic, rfl, -, hrun⟩, _, -, -, rfl, rfl⟩ := h
    exact ⟨members, hauthentic, rfl, hrun⟩
  · intro h
    obtain ⟨members, hauthentic, rfl, hrun⟩ := h
    exact ⟨_, _, s', ⟨members, hauthentic, rfl, (run_layer hauthentic.layer).mpr rfl, hrun⟩, _,
      finish_transcribed.mpr rfl, rfl, rfl, rfl⟩

end Envelope

section Results

variable {σ : Type} (sha256 : Bytes → Digest) (inflate : Bytes → Inflated) (crc32 : Bytes → UInt32)

/-- The parser accepts exactly the archives of layers, each archive as one layer, and hands that layer to the sink. -/
theorem layer_archives_accepted_exactly (sink : ReplaySink σ) (s s' : σ) (source rest : Bytes)
    (inspection : LayerInspection) :
    inspectExactUstar sha256 Rootfs.layerStream sink s source = .ok (inspection, s', rest) ↔
      ∃! members, ValidLayer Rootfs.layerStream members ∧ source = archive members ++ rest ∧
        inspection = ⟨counted members, sha256 (transcribed members)⟩ ∧
        sink.run s (members.flatMap Member.events) = .ok s' := by
  rw [inspectExactUstar_ok]
  constructor
  · intro h
    obtain ⟨members, hvalid, hsource, hinspection, hrun⟩ := h
    refine ⟨members, ⟨hvalid, hsource, hinspection, hrun⟩, ?_⟩
    intro others hothers
    obtain ⟨hother, hsame, -⟩ := hothers
    exact (archive_cancel hother hvalid (hsame.symm.trans hsource)).1
  · exact ExistsUnique.exists

/-- An inspection and a replay accept the same gzip members, those of the layers that an image declares, with the same
receipts. -/
theorem authenticated_layers_accepted_exactly (source : Bytes) (expectation : OciExpectedLayer)
    (receipt : ImportedOciLayerReceipt) :
    (inspectAuthenticatedOciLayer sha256 inflate crc32 source expectation = .ok receipt ↔
      ∃! members, Authentic sha256 inflate crc32 source expectation members ∧
        receipt = receiptOf sha256 (source.take expectation.compressed.byteLength.toNat) members) ∧
    (replayAuthenticatedOciLayer sha256 inflate crc32 source expectation = .ok receipt ↔
      inspectAuthenticatedOciLayer sha256 inflate crc32 source expectation = .ok receipt) := by
  rw [replayAuthenticatedOciLayer_ok, inspectAuthenticatedOciLayer_ok]
  refine ⟨⟨?_, ExistsUnique.exists⟩, Iff.rfl⟩
  intro h
  obtain ⟨members, hauthentic, hreceipt⟩ := h
  refine ⟨members, ⟨hauthentic, hreceipt⟩, ?_⟩
  intro others hothers
  exact hothers.1.unique hauthentic

/-- A replay with a sink behind it succeeds exactly when the inspection does and the sink takes the events of the one
layer that the source holds: the comparison of the transcripts never fails. -/
theorem replays_deliver_exactly (downstream : ReplaySink σ) (s s' : σ) (source : Bytes) (expectation : OciExpectedLayer)
    (receipt : ImportedOciLayerReceipt) :
    replayAuthenticatedOciLayerWithSink sha256 inflate crc32 downstream s source expectation = .ok (receipt, s') ↔
      inspectAuthenticatedOciLayer sha256 inflate crc32 source expectation = .ok receipt ∧
        ∃ members, Authentic sha256 inflate crc32 source expectation members ∧
          downstream.run s (members.flatMap Member.events) = .ok s' := by
  rw [replayAuthenticatedOciLayerWithSink_ok, inspectAuthenticatedOciLayer_ok]
  constructor
  · intro h
    obtain ⟨members, hauthentic, hreceipt, hrun⟩ := h
    exact ⟨⟨members, hauthentic, hreceipt⟩, members, hauthentic, hrun⟩
  · intro h
    obtain ⟨⟨members, hauthentic, hreceipt⟩, others, hothers, hrun⟩ := h
    obtain rfl := hauthentic.unique hothers
    exact ⟨members, hauthentic, hreceipt, hrun⟩

end Results

end Eip0045.Layer
