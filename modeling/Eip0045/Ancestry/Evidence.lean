import Eip0045.Ancestry.Replay
import Eip0045.Library.Keyed

/-! Every claim of a replayed subject is authenticated by a seal of its own. -/

namespace Eip0045.AncestryReplay

open Bytes Checked Constants Manifest RawSeal Receipt RecursiveAncestry Keyed

variable {E : Environment} {manifest : StarkProfileManifestV1} {projection : Projection}
  {statement : Bytes} {profileId : Digest} {map : AuxiliaryMap} {paths : List Bytes}

section Paths

/-- The producers behind the auxiliary seals: the assumption receipt, then the earlier steps. -/
def auxiliaryProducers (projection : Projection) : List ProducerContract :=
  (projection.assumptionReceipt.map assumptionContract).toList ++
    (projection.steps.take (projection.steps.length - 1)).map stepContract

def producerPath (producer : ProducerContract) : Bytes := producer.reference.path

lemma validateReference_path {reference : ArtifactReference} {expectedPath : Bytes}
    {expectedLength : ℕ} (h : validateReference reference expectedPath expectedLength = .ok ()) :
    reference.path = expectedPath := by
  simp only [validateReference, bind_ok, exists_unit, ensure_ok] at h
  exact h.2.1

lemma assumption_paths {U : Upstream} (h : Structured U projection statement profileId) :
    (projection.assumptionReceipt.map assumptionContract).toList.map producerPath =
      if projection.family.usesAssumption then [casePath projection.family assumptionSealFile]
      else [] := by
  have hshape := h.assumptionShape
  rw [validateAssumptionShape] at hshape
  split at hshape
  · rename_i huses hnone
    rw [huses, hnone]
    rfl
  · exact absurd hshape (by simp)
  · exact absurd hshape (by simp)
  · rename_i assumption huses hsome
    simp only [bind_ok, exists_unit] at hshape
    obtain ⟨-, -, -, hreference⟩ := hshape
    rw [huses, hsome]
    simp only [if_true, ← validateReference_path hreference]
    rfl

lemma step_paths {U : Upstream} (h : Structured U projection statement profileId) :
    ((projection.steps.take (projection.steps.length - 1)).map stepContract).map producerPath =
      (List.range (projection.family.stepCount - 1)).map fun index =>
        casePath projection.family (stepSealFile index) := by
  have hops : (expectedOperations projection.family).length = projection.family.stepCount := by
    cases projection.family <;> rfl
  apply List.ext_getElem
  · simp [h.stepCount]
  · intro k hk hk'
    simp only [List.length_map, List.length_range] at hk'
    have hsteps : k < projection.steps.length := by
      rw [h.stepCount]
      omega
    have hop : k < (expectedOperations projection.family).length := by omega
    have hvalid := h.steps k _ _ (List.getElem?_eq_getElem hsteps) (List.getElem?_eq_getElem hop)
    have hlast : k + 1 ≠ projection.steps.length := by
      rw [h.stepCount]
      omega
    have hpath := validateReference_path hvalid.reference
    rw [if_neg hlast] at hpath
    simpa [stepContract, producerPath] using hpath

lemma compiled_paths (family : Family) : expectedAuxiliaryPaths family =
    .ok ((if family.usesAssumption then [casePath family assumptionSealFile] else []) ++
      (List.range (family.stepCount - 1)).map fun index =>
        casePath family (stepSealFile index)) := by
  cases family <;> decide

lemma compiled_nodup (family : Family) (h : expectedAuxiliaryPaths family = .ok paths) :
    paths.Nodup := by
  cases family
  all_goals
    cases Except.ok.inj h
    decide

lemma producer_paths {U : Upstream} (h : Structured U projection statement profileId)
    (hpaths : expectedAuxiliaryPaths projection.family = .ok paths) :
    (auxiliaryProducers projection).map producerPath = paths := by
  rw [compiled_paths] at hpaths
  rw [auxiliaryProducers, List.map_append, assumption_paths h, step_paths h]
  exact Except.ok.inj hpaths

lemma decoded_paths {source : Bytes} {family : Family}
    (h : decodeRecursiveAuxiliaryMap source family = .ok map)
    (hpaths : expectedAuxiliaryPaths family = .ok paths) : map.entries.map Prod.fst = paths := by
  simp only [decodeRecursiveAuxiliaryMap, recursiveAuxiliaryContract, bind_ok, exists_unit,
    ensure_ok, report_ok, mapError_ok, pure_ok] at h
  obtain ⟨-, ⟨contract, expected⟩, ⟨compiled, hcompiled, -, -, hcontract⟩, decoded, hdecoded,
    rfl⟩ := h
  obtain ⟨rfl, rfl⟩ := Prod.mk.inj hcontract
  have hexpected : compiled = paths := by
    rw [expectedAuxiliaryPaths, mapError_ok, hcompiled] at hpaths
    exact Except.ok.inj hpaths
  have hlen : compiled.length ≤ decoded.length := by
    rw [← List.length_map ByteMap.Entry.path, ByteMap.decodeByteMap_paths hdecoded]
  rw [List.map_map, ← hexpected]
  exact List.map_fst_zip hlen

end Paths

section Producers

/-- The verifier has found in the seal exactly the claim and the terminal that are projected. -/
structure Authenticates (E : Environment) (manifest : StarkProfileManifestV1)
    (producer : ProducerContract) (rawSeal : Bytes) (root : Digest) : Prop where
  verified : ∃ out, E.verifyStark manifest rawSeal = some out ∧ out.innerControlRoot = root ∧
    claimDigest E.upstream producer.claim = .ok out.claimDigest ∧
    out.terminal.kind = producer.role.terminalKind ∧
    projectedTerminalFields producer.terminal =
      .ok (out.terminal.kind, out.terminal.parameter, out.terminal.controlId)
  root : root = manifest.innerControlRoot ∨
    producer.role = .assumptionLift ∧ root = b4AlternateControlRoot

lemma rootBinding_ok {role : SealProducerRole} {actual : Digest}
    {binding : SealProducerRootBinding}
    (h : requireSupportedProducerRoot role actual manifest = .ok binding) :
    binding.expectedRoot manifest = manifest.innerControlRoot ∨
      role = .assumptionLift ∧ binding.expectedRoot manifest = b4AlternateControlRoot := by
  simp only [requireSupportedProducerRoot] at h
  split_ifs at h with hroot halternate
  · cases Except.ok.inj h
    exact Or.inl rfl
  · cases Except.ok.inj h
    exact Or.inr ⟨halternate.1, rfl⟩
  · simp [bind_ok] at h

lemma authenticateSealProducer_ok {producer : ProducerContract} {rawSeal : Bytes}
    {claim root : Digest} (hclaim : claimDigest E.upstream producer.claim = .ok claim)
    (h : authenticateSealProducer E rawSeal manifest producer.role producer.terminal claim =
      .ok root) : Authenticates E manifest producer rawSeal root := by
  simp only [authenticateSealProducer, bindProjectedTerminal, bind_ok, exists_unit, ensure_ok,
    context_ok, pure_ok] at h
  obtain ⟨output, -, out, hout, binding, hbinding, hroot, rfl, -, hkind, -, ⟨fields, hfields,
    hbound⟩, rfl⟩ := h
  rw [hbound] at hfields
  refine ⟨⟨out, hout, rfl, hclaim, hkind, hfields⟩, ?_⟩
  rw [hroot]
  exact rootBinding_ok hbinding

lemma Authenticates.unique {p q : ProducerContract} {rawSeal : Bytes} {r r' : Digest}
    (hp : Authenticates E manifest p rawSeal r) (hq : Authenticates E manifest q rawSeal r') :
    r = r' ∧ claimDigest E.upstream p.claim = claimDigest E.upstream q.claim ∧
      projectedTerminalFields p.terminal = projectedTerminalFields q.terminal := by
  obtain ⟨⟨out, hout, rfl, hclaim, -, hterminal⟩, -⟩ := hp
  obtain ⟨⟨out', hout', rfl, hclaim', -, hterminal'⟩, -⟩ := hq
  cases Option.some.inj (hout.symm.trans hout')
  exact ⟨rfl, hclaim.trans hclaim'.symm, hterminal.trans hterminal'.symm⟩

lemma auxiliaryProducerContract_eq (path : Bytes) {producer : ProducerContract}
    (h : auxiliaryProducerContract projection path = .ok producer) :
    (auxiliaryProducers projection).find? (fun p => producerPath p = path) = some producer := by
  rw [auxiliaryProducers, List.find?_append]
  cases hassumption : projection.assumptionReceipt with
  | none =>
    simp only [auxiliaryProducerContract, hassumption, Option.filter_none, bind_ok, context_ok,
      pure_ok] at h
    obtain ⟨step, hstep, rfl⟩ := h
    simp only [Option.map_none, Option.toList_none, List.find?_nil, Option.none_or, List.find?_map]
    exact congrArg (Option.map stepContract) hstep
  | some assumption =>
    by_cases hpath : assumption.rawSeal.path = path
    · simp only [auxiliaryProducerContract, hassumption, Option.filter_some, hpath,
        decide_true, if_true, pure_ok] at h
      subst h
      simp [producerPath, assumptionContract, hpath]
    · simp only [auxiliaryProducerContract, hassumption, Option.filter_some, hpath,
        decide_false, Bool.false_eq_true, if_false, bind_ok, context_ok, pure_ok] at h
      obtain ⟨step, hstep, rfl⟩ := h
      have hhead : producerPath (assumptionContract assumption) ≠ path := hpath
      simp only [Option.map_some, Option.toList_some, List.find?_singleton, hhead, decide_false,
        Bool.false_eq_true, if_false, Option.none_or, List.find?_map]
      exact congrArg (Option.map stepContract) hstep

/-- What one turn of the loop has established for its path, `final` being the assumption root that
the whole loop returns. -/
def Served (E : Environment) (manifest : StarkProfileManifestV1) (projection : Projection)
    (map : AuxiliaryMap) (final : Option Digest) (path : Bytes) : Prop :=
  ∃ bytes producer root, map.get path = some bytes ∧
    auxiliaryProducerContract projection path = .ok producer ∧
    Authenticates E manifest producer bytes root ∧
    (producer.role = .assumptionLift → final = some root)

lemma authenticateAuxiliary_ok {path : Bytes} {root next : Option Digest}
    (h : authenticateAuxiliary E manifest projection map path root = .ok next) :
    (∀ r, root = some r → next = some r) ∧ Served E manifest projection map next path := by
  simp only [authenticateAuxiliary, bind_ok, exists_unit, ensure_ok, context_ok] at h
  obtain ⟨bytes, hbytes, producer, hproducer, -, claim, hclaim, innerRoot, hauth, h⟩ := h
  have hverified := authenticateSealProducer_ok hclaim hauth
  split_ifs at h with hrole
  · simp only [bind_ok, exists_unit, ensure_ok, pure_ok] at h
    obtain ⟨hnone, rfl⟩ := h
    refine ⟨?_, bytes, producer, innerRoot, hbytes, hproducer, hverified, fun _ => rfl⟩
    intro r hr
    rw [hnone] at hr
    exact absurd hr (by simp)
  · cases Except.ok.inj h
    exact ⟨fun r hr => hr, bytes, producer, innerRoot, hbytes, hproducer, hverified,
      fun hlift => absurd hlift hrole⟩

lemma Served.mono {next final : Option Digest} {path : Bytes}
    (h : Served E manifest projection map next path)
    (hfinal : ∀ r, next = some r → final = some r) :
    Served E manifest projection map final path := by
  obtain ⟨bytes, producer, root, hbytes, hproducer, hverified, hroot⟩ := h
  exact ⟨bytes, producer, root, hbytes, hproducer, hverified, fun hrole => hfinal _ (hroot hrole)⟩

lemma authenticateAuxiliaries_ok {root final : Option Digest}
    (h : authenticateAuxiliaries E manifest projection map paths root = .ok final) :
    (∀ r, root = some r → final = some r) ∧
      ∀ path ∈ paths, Served E manifest projection map final path := by
  induction paths generalizing root with
  | nil =>
    cases Except.ok.inj h
    exact ⟨fun r hr => hr, fun path hpath => absurd hpath List.not_mem_nil⟩
  | cons path paths ih =>
    rw [authenticateAuxiliaries, bind_ok] at h
    obtain ⟨next, hnext, hrest⟩ := h
    obtain ⟨hkeep, hserved⟩ := authenticateAuxiliary_ok hnext
    obtain ⟨hkeep', hrest⟩ := ih hrest
    refine ⟨fun r hr => hkeep' r (hkeep r hr), ?_⟩
    exact List.forall_mem_cons.mpr ⟨hserved.mono hkeep', hrest⟩

end Producers

section Artifacts

/-- The seal has the length and the hash of the reference. -/
def BoundTo (U : Upstream) (reference : ArtifactReference) (bytes : Bytes) : Prop :=
  reference.byteLength.toNat = bytes.length ∧ reference.sha256 = sha256Hex U bytes

lemma validateBoundBytes_ok {U : Upstream} {reference : ArtifactReference} {bytes : Bytes}
    {label : String} :
    validateBoundBytes U reference bytes label = .ok () ↔ BoundTo U reference bytes := by
  simp only [validateBoundBytes, BoundTo, bind_ok, exists_unit, ensure_ok]

lemma artifacts_bound {U : Upstream} {finalSeal : Bytes} {seals : SealMap}
    (h : validateRecursiveAncestryArtifacts U projection statement finalSeal seals = .ok ()) :
    (∃ step, projection.steps.getLast? = some step ∧ BoundTo U step.rawSeal finalSeal) ∧
      ∀ producer ∈ auxiliaryProducers projection, ∃ bytes,
        seals[producerPath producer]? = some bytes ∧ BoundTo U producer.reference bytes := by
  simp only [validateRecursiveAncestryArtifacts, bind_ok, exists_unit, ensure_ok, context_ok,
    validateBoundBytes_ok, forM_ok, validateIntermediateSeal] at h
  obtain ⟨-, -, step, hstep, hfinal, -, -, -, -, hassumption, hsteps⟩ := h
  refine ⟨⟨step, hstep, hfinal⟩, ?_⟩
  intro producer hproducer
  rw [auxiliaryProducers, List.mem_append] at hproducer
  cases hproducer with
  | inl hmem =>
    cases hreceipt : projection.assumptionReceipt with
    | none =>
      rw [hreceipt] at hmem
      exact absurd hmem (by simp)
    | some assumption =>
      rw [hreceipt] at hmem
      have heq : producer = assumptionContract assumption := by simpa using hmem
      simp only [validateAssumptionSeal, hreceipt, bind_ok, context_ok,
        validateBoundBytes_ok] at hassumption
      rw [heq]
      exact hassumption
  | inr hmem =>
    obtain ⟨step', hmem', rfl⟩ := List.mem_map.mp hmem
    exact hsteps step' hmem'

end Artifacts

section Evidence

/-- The entry under the producer's own path has the referenced length and hash, and the verifier
has found the producer's claim and terminal in it. -/
structure Serves (E : Environment) (manifest : StarkProfileManifestV1) (receiptRoot : Option Digest)
    (producer : ProducerContract) (entry : Bytes × Bytes) : Prop where
  path : entry.1 = producer.reference.path
  bound : BoundTo E.upstream producer.reference entry.2
  authenticated : ∃ root, Authenticates E manifest producer entry.2 root ∧
    (producer.role = .assumptionLift → receiptRoot = some root)

/-- What the replay knows of the seals of a projection before it classifies the projection. -/
structure Evidence (E : Environment) (manifest : StarkProfileManifestV1) (projection : Projection)
    (finalSeal : Bytes) (map : AuxiliaryMap) (receiptRoot : Option Digest) : Prop where
  finalStep : ∃ step, projection.steps.getLast? = some step ∧
    BoundTo E.upstream step.rawSeal finalSeal ∧
    Authenticates E manifest (stepContract step) finalSeal manifest.innerControlRoot
  served : List.Forall₂ (Serves E manifest receiptRoot) (auxiliaryProducers projection) map.entries
  distinct : (map.entries.map Prod.fst).Nodup
  receipt : receiptRoot.isSome = projection.family.usesAssumption ∧
    projection.assumptionReceipt.isSome = projection.family.usesAssumption
  everyStep : ∀ step ∈ projection.steps, ∃ rawSeal,
    (rawSeal = finalSeal ∨ ∃ path, (path, rawSeal) ∈ map.entries) ∧
    Authenticates E manifest (stepContract step) rawSeal manifest.innerControlRoot
  oneClaim : ∀ p q rawSeal r r', Authenticates E manifest p rawSeal r →
    Authenticates E manifest q rawSeal r' →
    claimDigest E.upstream p.claim = claimDigest E.upstream q.claim

lemma Authenticates.step_root {step : Step} {rawSeal : Bytes} {root : Digest}
    (h : Authenticates E manifest (stepContract step) rawSeal root) :
    root = manifest.innerControlRoot := by
  cases h.root with
  | inl hroot => exact hroot
  | inr hlift =>
    obtain ⟨hrole, -⟩ := hlift
    have hstep : SealProducerRole.fromOperation step.operation = .assumptionLift := hrole
    cases hop : step.operation with
    | lift _ | join _ _ | resolve _ =>
      rw [hop] at hstep
      exact absurd hstep (by simp [SealProducerRole.fromOperation])

lemma receipt_isSome {U : Upstream} (h : Structured U projection statement profileId) :
    projection.assumptionReceipt.isSome = projection.family.usesAssumption := by
  have hshape := h.assumptionShape
  rw [validateAssumptionShape] at hshape
  split at hshape
  · rename_i huses hnone
    rw [huses, hnone]
    rfl
  · exact absurd hshape (by simp)
  · exact absurd hshape (by simp)
  · rename_i assumption huses hsome
    rw [huses, hsome]
    rfl

lemma entries_served {source finalSeal : Bytes} {receiptRoot : Option Digest}
    (hstructure : Structured E.upstream projection statement profileId)
    (hmap : decodeRecursiveAuxiliaryMap source projection.family = .ok map)
    (hpaths : expectedAuxiliaryPaths projection.family = .ok paths)
    (hartifacts : validateRecursiveAncestryArtifacts E.upstream projection statement finalSeal
      (Std.ExtTreeMap.ofList map.entries compare) = .ok ())
    (hloop : authenticateAuxiliaries E manifest projection map paths none = .ok receiptRoot) :
    List.Forall₂ (Serves E manifest receiptRoot) (auxiliaryProducers projection) map.entries := by
  have hproducers := producer_paths hstructure hpaths
  have hentries := decoded_paths hmap hpaths
  have hnodup := compiled_nodup projection.family hpaths
  obtain ⟨-, hserved⟩ := authenticateAuxiliaries_ok hloop
  obtain ⟨-, hbound⟩ := artifacts_bound hartifacts
  apply forall₂_of_keys (hproducers.trans hentries.symm)
  intro producer hproducer entry hentry hkey
  have hpath : entry.1 ∈ paths := hentries ▸ List.mem_map_of_mem hentry
  obtain ⟨bytes, producer', root, hget, hcontract, hverified, hroot⟩ := hserved _ hpath
  have hbytes : bytes = entry.2 := by
    have hlookup := lookup_of_mem (hentries ▸ hnodup) hentry
    exact Option.some.inj (hget.symm.trans hlookup)
  have hsame : producer' = producer := by
    have hfind := auxiliaryProducerContract_eq entry.1 hcontract
    rw [← hkey, find?_key (hproducers ▸ hnodup) hproducer] at hfind
    exact (Option.some.inj hfind).symm
  rw [hbytes, hsame] at hverified
  rw [hsame] at hroot
  obtain ⟨bytes', hseal, hreference⟩ := hbound producer hproducer
  have hbytes' : bytes' = entry.2 := by
    have hlookup := ofList_getElem? (hentries ▸ hnodup) hentry
    rw [hkey] at hseal
    exact Option.some.inj (hseal.symm.trans hlookup)
  rw [hbytes'] at hreference
  exact ⟨hkey.symm, hreference, root, hverified, hroot⟩

lemma steps_authenticated {finalSeal : Bytes} {receiptRoot : Option Digest} {last : Step}
    (hlast : projection.steps.getLast? = some last)
    (hfinal : Authenticates E manifest (stepContract last) finalSeal manifest.innerControlRoot)
    (hserved : List.Forall₂ (Serves E manifest receiptRoot) (auxiliaryProducers projection)
      map.entries) :
    ∀ step ∈ projection.steps, ∃ rawSeal,
      (rawSeal = finalSeal ∨ ∃ path, (path, rawSeal) ∈ map.entries) ∧
      Authenticates E manifest (stepContract step) rawSeal manifest.innerControlRoot := by
  intro step hstep
  obtain ⟨front, hfront⟩ := List.getLast?_eq_some_iff.mp hlast
  rw [hfront, List.mem_append, List.mem_singleton] at hstep
  cases hstep with
  | inr heq =>
    rw [heq]
    exact ⟨finalSeal, Or.inl rfl, hfinal⟩
  | inl hmem =>
    have hproducer : stepContract step ∈ auxiliaryProducers projection := by
      apply List.mem_append_right
      apply List.mem_map_of_mem
      simpa [hfront] using hmem
    obtain ⟨entry, hentry, hserves⟩ := forall₂_mem_left hserved hproducer
    obtain ⟨root, hverified, -⟩ := hserves.authenticated
    rw [hverified.step_root] at hverified
    exact ⟨entry.2, Or.inr ⟨entry.1, hentry⟩, hverified⟩

end Evidence

section Verdict

/-- The root that the seal of the assumption receipt carries is not the one its claim requests. -/
def RootDiffers (projection : Projection) (receiptRoot : Option Digest) : Prop :=
  projection.family = .terminalResolve ∧ ∃ requested actual,
    requestedAssumptionRoot projection = .ok (some requested) ∧ receiptRoot = some actual ∧
    requested ≠ actual

/-- The verdict is the shared classifier's, except on a canonical explicit resolve whose receipt
has another root than the requested one. -/
structure Classified (U : Upstream) (projection : Projection) (statement : Bytes)
    (profileId : Digest) (receiptRoot : Option Digest) (outcome : SemanticOutcome)
    (verdict : Option AncestryRejection) : Prop where
  shared : classifyRecursiveAncestrySemantics U projection statement profileId = .ok outcome
  rejected : outcome ≠ .canonical → verdict = mapSemanticOutcome outcome
  differs : outcome = .canonical → RootDiffers projection receiptRoot →
    verdict = some .resolveExplicit
  accepted : outcome = .canonical → ¬RootDiffers projection receiptRoot → verdict = none

lemma classifyAuthenticated_ok {requested receiptRoot : Option Digest}
    {verdict : Option AncestryRejection}
    (hrequested : requestedAssumptionRoot projection = .ok requested)
    (h : classifyAuthenticatedAssumptionRoot projection.family requested receiptRoot =
      .ok verdict) :
    (RootDiffers projection receiptRoot → verdict = some .resolveExplicit) ∧
      (¬RootDiffers projection receiptRoot → verdict = none) := by
  cases hfamily : projection.family with
  | terminalJoin | resolveThenJoin =>
    simp only [classifyAuthenticatedAssumptionRoot, hfamily, bind_ok, exists_unit, pure_ok] at h
    obtain ⟨-, rfl⟩ := h
    refine ⟨?_, fun _ => rfl⟩
    intro hdiffers
    rw [RootDiffers, hfamily] at hdiffers
    exact absurd hdiffers.1 (by simp)
  | terminalResolve =>
    simp only [classifyAuthenticatedAssumptionRoot, hfamily, bind_ok, context_ok, pure_ok] at h
    obtain ⟨wanted, hwanted, actual, hactual, rfl⟩ := h
    rw [hwanted] at hrequested
    have hiff : RootDiffers projection receiptRoot ↔ wanted ≠ actual := by
      rw [RootDiffers, hrequested, hactual]
      simp [hfamily]
    rw [hiff]
    exact ⟨fun hne => if_pos hne, fun heq => if_neg heq⟩

lemma classifySemantics_ok {prepared : PreparedAncestry} {verdict : Option AncestryRejection}
    (h : classifySemantics E prepared = .ok verdict) :
    ∃ outcome, Classified E.upstream prepared.projection prepared.statement prepared.profileId
      prepared.authenticatedAssumptionRoot outcome verdict := by
  rw [classifySemantics, bind_ok] at h
  obtain ⟨outcome, houtcome, h⟩ := h
  split_ifs at h with hcanonical
  · cases Except.ok.inj h
    exact ⟨outcome, houtcome, fun _ => rfl, fun heq => absurd heq hcanonical,
      fun heq => absurd heq hcanonical⟩
  · rw [bind_ok] at h
    obtain ⟨requested, hrequested, h⟩ := h
    obtain ⟨hdiffers, hsame⟩ := classifyAuthenticated_ok hrequested h
    exact ⟨outcome, houtcome, fun hne => absurd hne hcanonical, fun _ => hdiffers,
      fun _ => hsame⟩

end Verdict

section Replay

/-- A subject with its manifest context, decoded. -/
structure Replayed where
  ancestry : Bytes
  statement : Bytes
  finalSeal : Bytes
  auxiliaryMap : Bytes
  manifestBytes : Bytes
  manifest : StarkProfileManifestV1
  profileId : Digest
  projection : Projection
  map : AuxiliaryMap
  receiptRoot : Option Digest

structure Replayed.DecodedFrom (r : Replayed) (E : Environment) (subject : Bytes)
    (contexts : List Bytes) : Prop where
  context : contexts = [r.manifestBytes]
  envelope : SubjectEnvelope.decodeSubjectEnvelope subject ancestrySubjectEnvelopeContract =
    .ok [r.ancestry, r.statement, r.finalSeal, r.auxiliaryMap]
  parsed : parseRecursiveAncestryJcs E r.ancestry = .ok r.projection
  profile : Manifest.decode r.manifestBytes = .ok r.manifest ∧
    validateInitialProfileTarget r.manifest = .ok () ∧
    Manifest.profileId E.blake2b256 r.manifest = .ok r.profileId
  framed : decodeRecursiveAuxiliaryMap r.auxiliaryMap r.projection.family = .ok r.map

lemma prepareAncestry_ok {ancestry statement finalSeal auxiliaryMap manifestBytes : Bytes}
    {prepared : PreparedAncestry}
    (h : prepareAncestry E ancestry statement finalSeal auxiliaryMap manifestBytes =
      .ok prepared) :
    ∃ manifest map,
      parseRecursiveAncestryJcs E ancestry = .ok prepared.projection ∧
      (Manifest.decode manifestBytes = .ok manifest ∧
        validateInitialProfileTarget manifest = .ok () ∧
        Manifest.profileId E.blake2b256 manifest = .ok prepared.profileId) ∧
      decodeRecursiveAuxiliaryMap auxiliaryMap prepared.projection.family = .ok map ∧
      prepared.statement = statement ∧
      Evidence E manifest prepared.projection finalSeal map
        prepared.authenticatedAssumptionRoot := by
  simp only [prepareAncestry, bind_ok, exists_unit, ensure_ok, context_ok, mapError_ok, shown_ok,
    pure_ok] at h
  obtain ⟨projection, hparse, manifest, hmanifest, -, -, -, htarget, profileId, hprofileId,
    hstructure, map, hmap, -, -, hartifacts, last, hlast, claim, hclaim, root, hfinal,
    paths, hpaths, receiptRoot, hloop, hreceipt, rfl⟩ := h
  have hstructured := validate_structured hstructure
  have hserved := entries_served hstructured hmap hpaths hartifacts hloop
  have hverified : Authenticates E manifest (stepContract last) finalSeal
      manifest.innerControlRoot := by
    have hauth : Authenticates E manifest (stepContract last) finalSeal root :=
      authenticateSealProducer_ok hclaim hfinal
    rw [hauth.step_root] at hauth
    exact hauth
  obtain ⟨⟨last', hlast', hbound⟩, -⟩ := artifacts_bound hartifacts
  cases Option.some.inj (hlast.symm.trans hlast')
  refine ⟨manifest, map, hparse, ⟨hmanifest, htarget, hprofileId⟩, hmap, rfl, ?_⟩
  exact {
    finalStep := ⟨last, hlast, hbound, hverified⟩
    served := hserved
    distinct := decoded_paths hmap hpaths ▸ compiled_nodup _ hpaths
    receipt := ⟨hreceipt, receipt_isSome hstructured⟩
    everyStep := steps_authenticated hlast hverified hserved
    oneClaim := fun _ _ _ _ _ hp hq => (hp.unique hq).2.1 }

lemma ancestryVerdict_ok {subject : Bytes} {contexts : List Bytes}
    {verdict : Option AncestryRejection} (h : ancestryVerdict E subject contexts = .ok verdict) :
    ∃ r : Replayed, r.DecodedFrom E subject contexts ∧
      Evidence E r.manifest r.projection r.finalSeal r.map r.receiptRoot ∧
      ∃ outcome, Classified E.upstream r.projection r.statement r.profileId r.receiptRoot
        outcome verdict := by
  simp only [ancestryVerdict, bind_ok, exists_unit, ensure_ok, mapError_ok] at h
  obtain ⟨hlength, parts, hparts, h⟩ := h
  split at h
  · rename_i ancestry statement finalSeal auxiliaryMap
    simp only [bind_ok, item_ok] at h
    obtain ⟨manifestBytes, hmanifest, prepared, hprepared, h⟩ := h
    obtain ⟨outcome, hclassified⟩ := classifySemantics_ok h
    obtain ⟨manifest, map, hparse, hprofile, hmap, hstatement, hevidence⟩ :=
      prepareAncestry_ok hprepared
    have hcontexts : contexts = [manifestBytes] := by
      obtain ⟨only, rfl⟩ := List.length_eq_one_iff.mp hlength
      exact congrArg (fun m => [m]) (Option.some.inj hmanifest)
    rw [hstatement] at hclassified
    exact ⟨⟨ancestry, statement, finalSeal, auxiliaryMap, manifestBytes, manifest,
      prepared.profileId, prepared.projection, map, prepared.authenticatedAssumptionRoot⟩,
      ⟨hcontexts, hparts, hparse, hprofile, hmap⟩, hevidence, outcome, hclassified⟩
  · exact absurd h (by simp)

/-- A replay that reaches a verdict has found the claim, the terminal and the root of every step
and of the assumption receipt in a seal of its own. -/
theorem ancestry_replay_evidence (E : Environment) (subject : Bytes) (contexts : List Bytes) :
    (∀ rejection, rejectAncestryReplay E subject contexts = .ok rejection ↔
      ancestryVerdict E subject contexts = .ok (some rejection)) ∧
    (ancestryVerdict E subject contexts = .ok none → rejectAncestryReplay E subject contexts =
      .error (.reported "ancestry subject was unexpectedly accepted")) ∧
    ∀ verdict, ancestryVerdict E subject contexts = .ok verdict →
      ∃ r : Replayed, r.DecodedFrom E subject contexts ∧
        Evidence E r.manifest r.projection r.finalSeal r.map r.receiptRoot ∧
        ∃ outcome, Classified E.upstream r.projection r.statement r.profileId r.receiptRoot
          outcome verdict := by
  refine ⟨?_, ?_, fun verdict => ancestryVerdict_ok⟩
  · intro rejection
    simp only [rejectAncestryReplay, bind_ok, context_ok]
    constructor
    · rintro ⟨verdict, hverdict, rfl⟩
      exact hverdict
    · intro hverdict
      exact ⟨some rejection, hverdict, rfl⟩
  · intro hverdict
    rw [rejectAncestryReplay, hverdict]
    rfl

end Replay

end Eip0045.AncestryReplay
