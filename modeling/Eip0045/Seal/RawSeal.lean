import Eip0045.Library.Montgomery
import Eip0045.Profile.Manifest

/-! The raw-seal word grammar and the checks made on it before STARK verification. -/

namespace Eip0045.RawSeal

open Bytes Checked Constants Manifest

section Layout

structure SealWordSpan where
  name : String
  start : ℕ
  stop : ℕ
  deriving DecidableEq

def SealWordSpan.len (s : SealWordSpan) : ℕ := s.stop - s.start

def queryCount : ℕ := 50
def queryRecordWords : ℕ := 1019

def topLevelWordSpans : List SealWordSpan := [
  ⟨"output", 0, 32⟩, ⟨"outerPo2", 32, 33⟩, ⟨"codeTop", 33, 289⟩, ⟨"dataTop", 289, 545⟩,
  ⟨"accumTop", 545, 801⟩, ⟨"checkTop", 801, 1057⟩, ⟨"coeffU", 1057, 3693⟩,
  ⟨"friRound1Top", 3693, 3949⟩, ⟨"friRound2Top", 3949, 4205⟩, ⟨"friRound3Top", 4205, 4461⟩,
  ⟨"finalCoefficients", 4461, 4717⟩, ⟨"queries", 4717, 55667⟩]

def queryWordSpans : List SealWordSpan := [
  ⟨"accumOpening", 0, 132⟩, ⟨"codeOpening", 132, 275⟩, ⟨"dataOpening", 275, 523⟩,
  ⟨"checkOpening", 523, 659⟩, ⟨"friRound1Opening", 659, 811⟩, ⟨"friRound2Opening", 811, 931⟩,
  ⟨"friRound3Opening", 931, 1019⟩]

def validateContiguous (label : String) (expectedEnd : ℕ) :
    List SealWordSpan → ℕ → Except String Unit
  | [], cursor => ensure (cursor = expectedEnd)
      s!"raw-seal {label} layout ends at {cursor}, expected {expectedEnd}"
  | span :: spans, cursor => do
    ensure (span.start = cursor ∧ span.stop > span.start)
      s!"raw-seal {label} span {span.name} is non-contiguous or empty"
    validateContiguous label expectedEnd spans span.stop

def validateSealLayout : Except String Unit := do
  validateContiguous "top-level" proofWords topLevelWordSpans 0
  validateContiguous "query-record" queryRecordWords queryWordSpans 0
  let queryRegion ← context "raw-seal top-level layout is empty" topLevelWordSpans.getLast?
  let expectedQueryWords := queryCount * queryRecordWords
  ensure (queryRegion.name = "queries" ∧ queryRegion.len = expectedQueryWords)
    s!"raw-seal query region has {queryRegion.len} words, expected {expectedQueryWords}"

def chunksExact : Bytes → List UInt32
  | a :: b :: c :: d :: rest => ofLe32 [a, b, c, d] :: chunksExact rest
  | _ => []

def decodeSealWords (rawSeal : Bytes) : Except String (List UInt32) := do
  validateSealLayout
  ensure (rawSeal.length = proofBytes)
    s!"raw seal has {rawSeal.length} bytes, expected {proofBytes}"
  pure (chunksExact rawSeal)

end Layout

section BabyBear

def babyBearModulus : ℕ := 2013265921

/-- `2 ^ 32` has this inverse modulo the field's characteristic. -/
def montgomeryInverse : ℕ := 943718400

/-- `BabyBearElem::new_raw(raw).as_u32()`. -/
def asU32 (raw : UInt32) : UInt32 :=
  UInt32.ofNat (Montgomery.fromForm babyBearModulus montgomeryInverse raw.toNat)

end BabyBear

inductive B4StarkError
  | rawSealLength (actual expected : ℕ)
  | rawSealDecode
  | rawSealWordNotReduced (index : ℕ) (word : UInt32)
  | nonzeroInnerRootPadding (index : ℕ)
  | claimHalfwordOutOfRange (index : ℕ) (value : UInt32)
  | outerPo2Mismatch (actual expected : UInt32)
  deriving DecidableEq

def outputWords : ℕ := 32

abbrev OutputGlobals := List.Vector UInt32 outputWords

structure PreflightStarkEnvelope where
  sealWords : List.Vector UInt32 proofWords
  globals : OutputGlobals
  expectedInnerControlRoot : Digest

section Indices

def rootIndex (k : Fin 8) : Fin outputWords := ⟨2 * k, by rw [outputWords]; omega⟩
def paddingIndex (k : Fin 8) : Fin outputWords := ⟨2 * k + 1, by rw [outputWords]; omega⟩
def claimIndex (k : Fin 16) : Fin outputWords := ⟨16 + k, by rw [outputWords]; omega⟩
def outerPo2WordIndex : Fin proofWords := ⟨32, by decide⟩

end Indices

def validateOutputShape (globals : OutputGlobals) : Except B4StarkError Unit := do
  (List.finRange 8).forM fun k =>
    ensure (globals.get (paddingIndex k) = 0) (.nonzeroInnerRootPadding (paddingIndex k))
  (List.finRange 16).forM fun k =>
    ensure ((asU32 (globals.get (claimIndex k))).toNat < 2 ^ 16)
      (.claimHalfwordOutOfRange (claimIndex k) (asU32 (globals.get (claimIndex k))))

/-- A list converted to an array of `n` words. -/
def tryIntoWords (n : ℕ) (words : List UInt32) : Option (List.Vector UInt32 n) :=
  if h : words.length = n then some ⟨words, h⟩ else none

def preflight (manifest : StarkProfileManifestV1) (rawSeal : Bytes) :
    Except B4StarkError PreflightStarkEnvelope := do
  ensure (rawSeal.length = proofBytes) (.rawSealLength rawSeal.length proofBytes)
  let decoded ← mapError .rawSealDecode (decodeSealWords rawSeal)
  let sealWords ← context .rawSealDecode (tryIntoWords proofWords decoded)
  sealWords.toList.zipIdx.forM fun (word, index) =>
    ensure (¬word.toNat ≥ babyBearModulus) (.rawSealWordNotReduced index word)
  let actualOuterPo2 := sealWords.get outerPo2WordIndex
  let expectedOuterPo2 := manifest.outerPo2.toUInt32
  ensure (actualOuterPo2 = expectedOuterPo2) (.outerPo2Mismatch actualOuterPo2 expectedOuterPo2)
  let globals ← context .rawSealDecode
    (tryIntoWords outputWords (sealWords.toList.take outputWords))
  validateOutputShape globals
  pure { sealWords, globals, expectedInnerControlRoot := manifest.innerControlRoot }

def rootBlock (globals : OutputGlobals) (k : Fin 8) : Except B4StarkError Bytes := do
  let word := globals.get (rootIndex k)
  ensure (¬word.toNat ≥ babyBearModulus) (.rawSealWordNotReduced (rootIndex k) word)
  ensure (globals.get (paddingIndex k) = 0) (.nonzeroInnerRootPadding (paddingIndex k))
  pure (le32 (asU32 word))

/-- The blocks fill the 32 bytes of the root in order. -/
def decodeInnerControlRoot (globals : OutputGlobals) : Except B4StarkError Digest := do
  let root ← (List.finRange 8).mapM (rootBlock globals)
  pure (ByteArr.atOffset 32 root.flatten 0)

def claimBlock (globals : OutputGlobals) (k : Fin 16) : Except B4StarkError Bytes := do
  let rawWord := globals.get (claimIndex k)
  ensure (¬rawWord.toNat ≥ babyBearModulus) (.rawSealWordNotReduced (claimIndex k) rawWord)
  let value := asU32 rawWord
  ensure (value.toNat < 2 ^ 16) (.claimHalfwordOutOfRange (claimIndex k) value)
  pure (le16 value.toUInt16)

def decodeClaimDigest (globals : OutputGlobals) : Except B4StarkError Digest := do
  let claim ← (List.finRange 16).mapM (claimBlock globals)
  pure (ByteArr.atOffset 32 claim.flatten 0)

end Eip0045.RawSeal
