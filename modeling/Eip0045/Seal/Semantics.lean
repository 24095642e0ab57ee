import Eip0045.Profile.ConstantsArtifact
import Eip0045.Seal.OutputBinding
import Eip0045.Statement.ErgoStatement

/-! The semantic roles of the words of a raw seal, and the words of a role whose bytes reversed are
no reduced word. -/

namespace Eip0045.RawSeal

open Bytes Checked Constants B2Codec

abbrev Result (α : Type) := Except (Fault String) α

section Roles

def semanticMerkleTopSpanIndices : List ℕ := [2, 3, 4, 5, 7, 8, 9]
def semanticMerkleTopSpanNames : List String := ["codeTop", "dataTop", "accumTop", "checkTop",
  "friRound1Top", "friRound2Top", "friRound3Top"]

inductive SealSemanticRole
  | rootOutput
  | claimOutput
  | merkleTops
  | coefficients
  | finalCoefficients
  | openingLeaves
  | openingSiblings
  deriving DecidableEq

namespace SealSemanticRole

def all : List SealSemanticRole := [rootOutput, claimOutput, merkleTops, coefficients,
  finalCoefficients, openingLeaves, openingSiblings]

def ordinal : SealSemanticRole → Fin 7
  | rootOutput => 0
  | claimOutput => 1
  | merkleTops => 2
  | coefficients => 3
  | finalCoefficients => 4
  | openingLeaves => 5
  | openingSiblings => 6

def debug : SealSemanticRole → String
  | rootOutput => "RootOutput"
  | claimOutput => "ClaimOutput"
  | merkleTops => "MerkleTops"
  | coefficients => "Coefficients"
  | finalCoefficients => "FinalCoefficients"
  | openingLeaves => "OpeningLeaves"
  | openingSiblings => "OpeningSiblings"

end SealSemanticRole

structure SealSemanticProjection where
  modulus : UInt32
  openingColumnWidths : List ℕ
  wordsByRole : List.Vector (List ℕ) 7

def SealSemanticProjection.words (projection : SealSemanticProjection) (role : SealSemanticRole) :
    List ℕ :=
  projection.wordsByRole.get role.ordinal

def SealWordSpan.words (span : SealWordSpan) : List ℕ := List.range' span.start span.len

end Roles

section Projection

/-- The openings of the query that starts at a word, cut after their columns. -/
def openingPartition (queryStart : ℕ) : List (SealWordSpan × ℕ) → Result (List ℕ × List ℕ)
  | [] => pure ([], [])
  | (opening, width) :: rest => do
    ensure (width ≤ opening.len)
      (.reported "authenticated B2 opening width exceeds the frozen opening span")
    let leafStart ← context (.reported "opening leaf offset overflows")
      (checkedAdd queryStart opening.start)
    let leafEnd ← context (.reported "opening leaf width overflows") (checkedAdd leafStart width)
    let openingEnd ← context (.reported "opening sibling offset overflows")
      (checkedAdd queryStart opening.stop)
    let (leaves, siblings) ← openingPartition queryStart rest
    pure (List.range' leafStart (leafEnd - leafStart) ++ leaves,
      List.range' leafEnd (openingEnd - leafEnd) ++ siblings)

/-- The loop over the queries of the region that starts at a word. -/
def queryPartition (start : ℕ) (openings : List (SealWordSpan × ℕ)) :
    List ℕ → Result (List ℕ × List ℕ)
  | [] => pure ([], [])
  | query :: rest => do
    let queryStart ← context (.reported "query record offset overflows")
      ((Statement.checkedMul query queryRecordWords).bind (checkedAdd start))
    let (leaves, siblings) ← openingPartition queryStart openings
    let (otherLeaves, otherSiblings) ← queryPartition start openings rest
    pure (leaves ++ otherLeaves, siblings ++ otherSiblings)

def deriveOpeningWordPartition (openingColumnWidths : List ℕ) : Result (List ℕ × List ℕ) := do
  let queryRegion ← item topLevelWordSpans 11
  queryPartition queryRegion.start (queryWordSpans.zip openingColumnWidths) (List.range queryCount)

def deriveSealSemanticProjectionFromConstants (b2 : ConstantsArtifact) :
    Result SealSemanticProjection := do
  report validateSealLayout
  let output ← item topLevelWordSpans 0
  let outputWords := b2.stark.outputSize.toNat
  ensure (output.name = "output" ∧ output.len = outputWords ∧ outputWords = 32)
    (.reported "authenticated B2 output width differs from the frozen output grammar")
  ensure (b2.stark.queries.toNat = queryCount)
    (.reported "authenticated B2 query count differs from the frozen seal grammar")
  let friWidth ← context (.reported "authenticated B2 FRI opening width overflows")
    (Statement.checkedMul b2.stark.friFold.toNat b2.babyBear.extensionDegree.toNat)
  let openingColumnWidths := [(b2.taps.groupSizes.get 0).toNat, (b2.taps.groupSizes.get 1).toNat,
    (b2.taps.groupSizes.get 2).toNat, b2.stark.checkSize.toNat, friWidth, friWidth, friWidth]
  ensure (openingColumnWidths = [12, 23, 128, 16, 64, 64, 64])
    (.reported "authenticated B2 opening widths differ from the frozen algorithm")
  let rootOutput := List.range' output.start ((outputWords / 2 + 1) / 2) 2
  let claimOutput := List.range' (output.start + outputWords / 2)
    (output.stop - (output.start + outputWords / 2))
  let merkleTopSpans ← semanticMerkleTopSpanIndices.mapM (item topLevelWordSpans)
  ensure (merkleTopSpans.map (·.name) = semanticMerkleTopSpanNames)
    (.reported "frozen Merkle-top positions or names differ from the algorithm")
  let merkleTops := merkleTopSpans.flatMap (·.words)
  let coefficientSpan ← item topLevelWordSpans 6
  let finalCoefficientSpan ← item topLevelWordSpans 10
  let (openingLeaves, openingSiblings) ← deriveOpeningWordPartition openingColumnWidths
  let wordsByRole : List.Vector (List ℕ) 7 := ⟨[rootOutput, claimOutput, merkleTops,
    coefficientSpan.words, finalCoefficientSpan.words, openingLeaves, openingSiblings], rfl⟩
  ensure (wordsByRole.toList.map List.length = [8, 16, 1792, 2636, 256, 18550, 32400])
    (.reported "derived semantic role census differs from the frozen algorithm")
  (SealSemanticRole.all.zip wordsByRole.toList).forM fun entry =>
    ensure (entry.2 ≠ [] ∧ (∀ word ∈ entry.2, word < proofWords) ∧ entry.2.IsChain (· < ·))
      (.reported
        s!"derived {entry.1.debug} candidates are empty, out of bounds, or not serialized")
  pure { modulus := b2.babyBear.modulus, openingColumnWidths, wordsByRole }

def deriveSealSemanticProjection (sha256 : Bytes → Digest) (b2Bytes : Bytes) :
    Result SealSemanticProjection := do
  let b2 ← report (verifyCanonical sha256 b2Bytes)
  deriveSealSemanticProjectionFromConstants b2

end Projection

section Candidates

def fixedSemanticRepresentative (projection : SealSemanticProjection) (role : SealSemanticRole) :
    Result ℕ :=
  context (.reported "authenticated semantic role has no representative")
    (projection.words role).head?

structure SealByteOrderCandidate where
  wordIndex : ℕ
  originalWord : UInt32
  reversedWord : UInt32
  beforeBytes : Bytes
  replacementBytes : Bytes
  deriving DecidableEq

/-- The word whose bytes are those of another in the opposite order. -/
def reversedBytes (word : UInt32) : UInt32 := ofLe32 (le32 word).reverse

def byteOrderCandidate (modulus : UInt32) (words : List UInt32) :
    List ℕ → Result (Option SealByteOrderCandidate)
  | [] => pure none
  | wordIndex :: rest => do
    let originalWord ← item words wordIndex
    let beforeBytes := le32 originalWord
    let replacementBytes := beforeBytes.reverse
    let reversedWord := ofLe32 replacementBytes
    if replacementBytes ≠ beforeBytes ∧ reversedWord ≥ modulus then
      pure (some { wordIndex, originalWord, reversedWord, beforeBytes, replacementBytes })
    else byteOrderCandidate modulus words rest

def firstByteOrderCandidate (rawSeal : Bytes) (projection : SealSemanticProjection)
    (role : SealSemanticRole) : Result SealByteOrderCandidate := do
  let words ← report (decodeSealWords rawSeal)
  words.zipIdx.forM fun entry =>
    ensure (¬entry.1 ≥ projection.modulus)
      (.reported s!"raw-seal base contains a non-reduced word at index {entry.2}: {entry.1}")
  let candidate ← byteOrderCandidate projection.modulus words (projection.words role)
  context (.reported s!"raw-seal role {role.debug} has no byte-order rejection candidate") candidate

end Candidates

end Eip0045.RawSeal
