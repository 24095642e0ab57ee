import Eip0045.Constants
import Eip0045.Library.Hex
import Eip0045.Library.Reader

/-! Codec of the canonical B2 verifier-data artifact. Text fields are kept as their UTF-8 bytes. -/

namespace Eip0045.B2Codec

open Bytes Checked Reading

def artifactBytes : ℕ := 65119
def headerBytes : ℕ := 87
def rootCount : ℕ := 28
def poseidonRoundConstants : ℕ := 213
def poseidonDiagonalConstants : ℕ := 24
def tapCount : ℕ := 643
def opCount : ℕ := 12359
def fieldVars : ℕ := 11130
def mixVars : ℕ := 1229
def retMixVar : ℕ := 1228
def proofSystemInfo : Bytes := utf8 "RISC0_STARK:v1__"
def circuitInfo : Bytes := utf8 "RECURSION:rev1v1"

section Data

structure BabyBearData where
  modulus : UInt32
  extensionDegree : UInt8
  extensionBeta : UInt32
  maxRootPo2 : UInt8
  reverseRoots : List UInt32
  extensionCoefficientRemap : ByteArr 4
  extensionChallengeScale : UInt8

structure Poseidon2Data where
  cells : UInt8
  rate : UInt8
  outputCells : UInt8
  roundsHalfFull : UInt8
  roundsPartial : UInt8
  sboxDegree : UInt8
  roundConstants : List UInt32
  internalDiagonal : List UInt32

structure StarkData where
  queries : UInt8
  inverseRate : UInt8
  friFold : UInt8
  friFoldPo2 : UInt8
  friMinDegree : UInt16
  outputSize : UInt8
  mixSize : UInt8
  checkSize : UInt8

structure ProtocolInfoData where
  proofSystem : Bytes
  circuit : Bytes

structure Tap where
  group : UInt8
  offset : UInt8
  back : UInt8
  combo : UInt8
  skip : UInt8
  deriving DecidableEq

structure TapDataSet where
  groupSizes : ByteArr 3
  combosCount : UInt8
  totalComboBacks : UInt8
  records : List Tap

inductive PolyExtOp
  | const (value : UInt32)
  | constExt (a b c d : UInt32)
  | get (tap : UInt16)
  | getGlobal (group offset : UInt16)
  | add (a b : UInt16)
  | sub (a b : UInt16)
  | mul (a b : UInt16)
  | true
  | andEqz (chain inner : UInt16)
  | andCond (chain cond inner : UInt16)
  deriving DecidableEq

structure PolyExtData where
  fieldVariables : UInt16
  mixVariables : UInt16
  retMixVariable : UInt16
  histogram : Std.ExtTreeMap Bytes ℕ
  operations : List PolyExtOp

structure ConstantsArtifact where
  upstreamCommit : Bytes
  babyBear : BabyBearData
  poseidon2 : Poseidon2Data
  stark : StarkData
  protocolInfo : ProtocolInfoData
  taps : TapDataSet
  polyExt : PolyExtData

end Data

section Operations

def PolyExtOp.isMix : PolyExtOp → Bool
  | .true | .andEqz .. | .andCond .. => Bool.true
  | _ => false

def PolyExtOp.name : PolyExtOp → Bytes
  | .const .. => utf8 "Const"
  | .constExt .. => utf8 "ConstExt"
  | .get .. => utf8 "Get"
  | .getGlobal .. => utf8 "GetGlobal"
  | .add .. => utf8 "Add"
  | .sub .. => utf8 "Sub"
  | .mul .. => utf8 "Mul"
  | .true => utf8 "True"
  | .andEqz .. => utf8 "AndEqz"
  | .andCond .. => utf8 "AndCond"

def PolyExtOp.tag : PolyExtOp → UInt8
  | .const .. => 0
  | .constExt .. => 1
  | .get .. => 2
  | .getGlobal .. => 3
  | .add .. => 4
  | .sub .. => 5
  | .mul .. => 6
  | .true => 7
  | .andEqz .. => 8
  | .andCond .. => 9

def PolyExtOp.args : PolyExtOp → Bytes
  | .const v => le32 v
  | .constExt a b c d => le32 a ++ le32 b ++ le32 c ++ le32 d
  | .get v => le16 v
  | .getGlobal a b | .add a b | .sub a b | .mul a b | .andEqz a b => le16 a ++ le16 b
  | .true => []
  | .andCond a b c => le16 a ++ le16 b ++ le16 c

def encodeOp (op : PolyExtOp) : Bytes := [op.tag] ++ op.args

def bump (m : Std.ExtTreeMap Bytes ℕ) (name : Bytes) : Std.ExtTreeMap Bytes ℕ :=
  m.insert name (m[name]?.getD 0 + 1)

def histogram (operations : List PolyExtOp) : Std.ExtTreeMap Bytes ℕ :=
  (operations.foldl (fun m op => bump m op.name) ∅).insertIfNew (utf8 "ConstExt") 0

def expectedHistogram : Std.ExtTreeMap Bytes ℕ :=
  .ofList [
    (utf8 "Add", 4061), (utf8 "AndCond", 152), (utf8 "AndEqz", 1076), (utf8 "Const", 284),
    (utf8 "ConstExt", 0), (utf8 "Get", 669), (utf8 "GetGlobal", 52), (utf8 "Mul", 4679),
    (utf8 "Sub", 1385), (utf8 "True", 1)]

def fpRef (fp : ℕ) (v : UInt16) : Except String Unit :=
  ensure (v.toNat < fp) s!"PolyExt field reference {v} is not backward from {fp}"

def mixRef (mix : ℕ) (v : UInt16) : Except String Unit :=
  ensure (v.toNat < mix) s!"PolyExt mix reference {v} is not backward from {mix}"

def validateOpReferences (op : PolyExtOp) (fp mix taps : ℕ) : Except String Unit :=
  match op with
  | .const value =>
    ensure (value.toNat < 2013265921) "PolyExt Const is not a reduced BabyBear value"
  | .constExt a b c d =>
    ensure (∀ value ∈ [a, b, c, d], value.toNat < 2013265921)
      "PolyExt ConstExt is not a reduced BabyBear value"
  | .true => .ok ()
  | .get tap => ensure (tap.toNat < taps) "PolyExt tap reference out of range"
  | .getGlobal group offset => do
    ensure (group.toNat < 2) "PolyExt global group is not output or mix"
    ensure (offset.toNat < if group = 0 then 32 else 20) "PolyExt global offset out of range"
  | .add a b | .sub a b | .mul a b => do
    fpRef fp a
    fpRef fp b
  | .andEqz chain inner => do
    mixRef mix chain
    fpRef fp inner
  | .andCond chain cond inner => do
    mixRef mix chain
    fpRef fp cond
    mixRef mix inner

/-- The numbers of field and mix results so far. -/
structure Counts where
  fp : ℕ
  mix : ℕ
  deriving DecidableEq

def Counts.after (c : Counts) (op : PolyExtOp) : Counts :=
  if op.isMix then { c with mix := c.mix + 1 } else { c with fp := c.fp + 1 }

/-- The reference walk: each operation is checked against the counts before it. -/
def validateOperations (taps : ℕ) : List PolyExtOp → Counts → Except String Counts
  | [], c => .ok c
  | op :: ops, c => do
    validateOpReferences op c.fp c.mix taps
    validateOperations taps ops (c.after op)

end Operations

section Taps

def validateTapRecord (taps : TapDataSet) (index : ℕ) (tap : Tap) : Except String Unit := do
  ensure (tap.group.toNat < 3) s!"tap {index} group is out of range"
  ensure (tap.offset < taps.groupSizes.toList.getD tap.group.toNat 0)
    s!"tap {index} offset is out of range"
  ensure (tap.combo < taps.combosCount) s!"tap {index} combo is out of range"
  ensure (tap.skip > 0) s!"tap {index} skip is zero"

def expectedRegisters (taps : TapDataSet) : List (UInt8 × UInt8) :=
  (List.range 3).flatMap fun group =>
    (List.range (taps.groupSizes.toList.getD group 0).toNat).map fun offset =>
      (UInt8.ofNat group, UInt8.ofNat offset)

/-- The back offsets of one skip run, each above the one before it. -/
def tapRunBacks (head : Tap) : List Tap → Bytes → Except String Bytes
  | [], backs => .ok backs
  | tap :: run, backs => do
    ensure (tap.group = head.group ∧ tap.offset = head.offset ∧ tap.combo = head.combo ∧
      tap.skip = head.skip) "tap register changes shape inside its skip run"
    ensure (∀ previous ∈ backs.getLast?, previous < tap.back)
      "tap register backs are not strictly increasing"
    tapRunBacks head run (backs ++ [tap.back])

def setComboShape (shapes : List (Option Bytes)) (combo : ℕ) (backs : Bytes) :
    Except String (List (Option Bytes)) :=
  match shapes.getD combo none with
  | some previous => do
    ensure (previous = backs) "tap registers disagree on one combo shape"
    pure shapes
  | none => .ok (shapes.set combo (some backs))

structure TapWalk where
  position : ℕ
  expected : List (UInt8 × UInt8)
  shapes : List (Option Bytes)

/-- The register walk over the records from `position` on. The `- 1` agrees with the source's
step of `skip` records because a record whose `skip` is zero was refused before the walk. -/
def walkTaps (total : ℕ) : List Tap → TapWalk → Except String TapWalk
  | [], walk => .ok walk
  | head :: rest, walk => do
    ensure (walk.position + head.skip.toNat < 2 ^ 64) "tap register end overflows usize"
    ensure (walk.position + head.skip.toNat ≤ total) "tap register overruns the table"
    let (expected, later) ← context "tap table contains too many registers"
      (walk.expected.head?.map fun e => (e, walk.expected.tail))
    ensure ((head.group, head.offset) = expected)
      s!"tap register order differs at record {walk.position}"
    let backs ← tapRunBacks head (head :: rest.take (head.skip.toNat - 1)) []
    let shapes ← setComboShape walk.shapes head.combo.toNat backs
    walkTaps total (rest.drop (head.skip.toNat - 1))
      ⟨walk.position + head.skip.toNat, later, shapes⟩
  termination_by records => records.length
  decreasing_by simp

def validateTaps (taps : TapDataSet) : Except String Unit := do
  (taps.records.zipIdx).forM fun (tap, index) => validateTapRecord taps index tap
  let walk ← walkTaps taps.records.length taps.records
    ⟨0, expectedRegisters taps, List.replicate taps.combosCount.toNat none⟩
  ensure (walk.expected = []) "tap table omits one or more registers"
  ensure (walk.position = taps.records.length) "tap register walk did not reach EOF"
  ensure (∀ shape ∈ walk.shapes, shape.isSome) "tap table omits one or more combos"
  ensure walk.shapes.Nodup "two tap combos have the same back list"
  ensure ((walk.shapes.map fun shape => (shape.getD []).length).sum = taps.totalComboBacks.toNat)
    "derived combo-back count differs from B2"

end Taps

section Validation

def validateBabyBear (d : BabyBearData) : Except String Unit := do
  ensure (d.modulus = 2013265921) "wrong BabyBear modulus"
  ensure (d.extensionDegree = 4 ∧ d.extensionBeta = 11) "wrong Ext4 definition"
  ensure (d.maxRootPo2 = 27 ∧ d.reverseRoots.length = rootCount) "wrong reverse-root table shape"
  ensure (∀ v ∈ d.reverseRoots, v < d.modulus) "non-canonical BabyBear reverse root"
  ensure (d.extensionCoefficientRemap.toList = [0, 2, 1, 3]) "wrong extension coefficient remap"
  ensure (d.extensionChallengeScale = 3) "wrong extension challenge scale"

def validatePoseidon2 (d : Poseidon2Data) (modulus : UInt32) : Except String Unit := do
  ensure ((d.cells, d.rate, d.outputCells) = (24, 16, 8)) "wrong Poseidon2 dimensions"
  ensure ((d.roundsHalfFull, d.roundsPartial, d.sboxDegree) = (4, 21, 7))
    "wrong Poseidon2 round parameters"
  ensure (d.roundConstants.length = poseidonRoundConstants ∧
    d.internalDiagonal.length = poseidonDiagonalConstants) "wrong Poseidon2 table shape"
  ensure (∀ v ∈ d.roundConstants ++ d.internalDiagonal, v < modulus)
    "non-canonical Poseidon2 field constant"

def validateStark (d : StarkData) : Except String Unit := do
  ensure ((d.queries, d.inverseRate, d.friFold, d.friFoldPo2, d.friMinDegree) =
    (50, 4, 16, 4, 256)) "wrong FRI/STARK parameters"
  ensure ((d.outputSize, d.mixSize, d.checkSize) = (32, 20, 16)) "wrong verifier dimensions"

def validatePolyExt (d : PolyExtData) (taps : ℕ) : Except String Unit := do
  ensure (d.operations.length = opCount) "wrong PolyExt operation count"
  ensure (d.fieldVariables.toNat = fieldVars ∧ d.mixVariables.toNat = mixVars ∧
    d.retMixVariable.toNat = retMixVar) "wrong PolyExt variable census"
  ensure (d.mixVariables = d.retMixVariable + 1) "retMixVariable is not final mix variable"
  ensure (histogram d.operations = expectedHistogram) "wrong PolyExt opcode histogram"
  ensure (d.histogram = histogram d.operations)
    "stored PolyExt histogram differs from the instruction stream"
  let counts ← validateOperations taps d.operations ⟨0, 0⟩
  ensure (counts.fp = fieldVars ∧ counts.mix = mixVars) "PolyExt stack census differs from metadata"

def validate (a : ConstantsArtifact) : Except String Unit := do
  ensure (a.upstreamCommit = Constants.risc0Commit) "wrong upstream commit"
  validateBabyBear a.babyBear
  validatePoseidon2 a.poseidon2 a.babyBear.modulus
  validateStark a.stark
  ensure (a.protocolInfo.proofSystem = proofSystemInfo ∧ a.protocolInfo.circuit = circuitInfo)
    "wrong protocol info preimage"
  ensure (a.taps.groupSizes.toList = [12, 23, 128] ∧ a.taps.combosCount = 5 ∧
    a.taps.totalComboBacks = 20) "wrong TapSet metadata"
  ensure (a.taps.records.length = tapCount) "wrong tap count"
  validateTaps a.taps
  validatePolyExt a.polyExt a.taps.records.length

end Validation

section Encoder

def u16TryFrom (n : ℕ) : Option UInt16 := if n < 2 ^ 16 then some (UInt16.ofNat n) else none
def u8TryFrom (n : ℕ) : Option UInt8 := if n < 2 ^ 8 then some (UInt8.ofNat n) else none

def Tap.bytes (t : Tap) : Bytes := [t.group, t.offset, t.back, t.combo, t.skip]

def encodeHeader (a : ConstantsArtifact) : Except String Bytes := do
  let roundConstants ← context "Poseidon2 round-constant count exceeds u16"
    (u16TryFrom a.poseidon2.roundConstants.length)
  let diagonal ← context "Poseidon2 diagonal count exceeds u8"
    (u8TryFrom a.poseidon2.internalDiagonal.length)
  let taps ← context "tap count exceeds u16" (u16TryFrom a.taps.records.length)
  let operations ← context "PolyExt operation count exceeds u16"
    (u16TryFrom a.polyExt.operations.length)
  pure <|
    le32 a.babyBear.modulus ++ [a.babyBear.extensionDegree] ++ le32 a.babyBear.extensionBeta ++
    [a.babyBear.maxRootPo2] ++
    [a.poseidon2.cells] ++ [a.poseidon2.rate] ++ [a.poseidon2.outputCells] ++
    [a.poseidon2.roundsHalfFull] ++ [a.poseidon2.roundsPartial] ++ [a.poseidon2.sboxDegree] ++
    le16 roundConstants ++ [diagonal] ++
    [a.stark.queries] ++ [a.stark.inverseRate] ++ [a.stark.friFold] ++ [a.stark.friFoldPo2] ++
    le16 a.stark.friMinDegree ++
    [a.stark.outputSize] ++ [a.stark.mixSize] ++ [a.stark.checkSize] ++
    le16 taps ++ [3] ++ a.taps.groupSizes.val ++ [a.taps.combosCount] ++
    [a.taps.totalComboBacks] ++
    le16 operations ++ le16 a.polyExt.fieldVariables ++ le16 a.polyExt.mixVariables ++
    le16 a.polyExt.retMixVariable ++ a.babyBear.extensionCoefficientRemap.val ++
    [0, 1, 2] ++ [16] ++ [16] ++ [5] ++ [a.babyBear.extensionChallengeScale] ++
    a.protocolInfo.proofSystem ++ a.protocolInfo.circuit

def encodeTables (a : ConstantsArtifact) : Bytes :=
  a.babyBear.reverseRoots.flatMap le32 ++ a.poseidon2.roundConstants.flatMap le32 ++
    a.poseidon2.internalDiagonal.flatMap le32 ++ a.taps.records.flatMap Tap.bytes ++
    a.polyExt.operations.flatMap encodeOp

def encode (a : ConstantsArtifact) : Except String Bytes := do
  validate a
  let header ← encodeHeader a
  ensure (header.length = headerBytes)
    s!"internal header length is {header.length}, expected {headerBytes}"
  let out := header ++ encodeTables a
  ensure (out.length = artifactBytes)
    s!"B2 encoding has {out.length} bytes, expected {artifactBytes}"
  pure out

end Encoder

section Decoder

def overflowText : String := "B2 cursor overflow"
def eofText (position : ℕ) : String := s!"unexpected EOF at byte {position}"

def readU8 : Reader String UInt8 := u8 overflowText eofText
def readU16 : Reader String UInt16 := u16 overflowText eofText
def readU32 : Reader String UInt32 := u32 overflowText eofText
def readArray (n : ℕ) : Reader String (ByteArr n) := takeArray overflowText eofText n

def readAscii (count : ℕ) : Reader String Bytes := do
  let start ← position
  let bytes ← take overflowText eofText count
  require (∀ b ∈ bytes, b < 128) s!"non-ASCII protocol info at byte {start}"
  pure bytes

structure FieldHeader where
  modulus : UInt32
  extensionDegree : UInt8
  extensionBeta : UInt32
  maxRootPo2 : UInt8

def readFieldHeader : Reader String FieldHeader := do
  let modulus ← readU32
  let extensionDegree ← readU8
  let extensionBeta ← readU32
  let maxRootPo2 ← readU8
  pure { modulus, extensionDegree, extensionBeta, maxRootPo2 }

structure Poseidon2Header where
  cells : UInt8
  rate : UInt8
  outputCells : UInt8
  roundsHalfFull : UInt8
  roundsPartial : UInt8
  sboxDegree : UInt8
  roundConstantCount : UInt16
  diagonalCount : UInt8

def readPoseidon2Header : Reader String Poseidon2Header := do
  let cells ← readU8
  let rate ← readU8
  let outputCells ← readU8
  let roundsHalfFull ← readU8
  let roundsPartial ← readU8
  let sboxDegree ← readU8
  let roundConstantCount ← readU16
  let diagonalCount ← readU8
  pure {
    cells, rate, outputCells, roundsHalfFull, roundsPartial, sboxDegree, roundConstantCount
    diagonalCount }

def readStark : Reader String StarkData := do
  let queries ← readU8
  let inverseRate ← readU8
  let friFold ← readU8
  let friFoldPo2 ← readU8
  let friMinDegree ← readU16
  let outputSize ← readU8
  let mixSize ← readU8
  let checkSize ← readU8
  pure {
    queries, inverseRate, friFold, friFoldPo2, friMinDegree, outputSize, mixSize, checkSize }

structure TapHeader where
  tapCount : UInt16
  groupSizes : ByteArr 3
  combosCount : UInt8
  totalComboBacks : UInt8

def readTapHeader : Reader String TapHeader := do
  let tapCount ← readU16
  let groupCount ← readU8
  require (groupCount = 3) "B2 group count is not 3"
  let groupSizes ← readArray 3
  let combosCount ← readU8
  let totalComboBacks ← readU8
  pure { tapCount, groupSizes, combosCount, totalComboBacks }

structure PolyExtHeader where
  opCount : UInt16
  fieldVariables : UInt16
  mixVariables : UInt16
  retMixVariable : UInt16

def readPolyExtHeader : Reader String PolyExtHeader := do
  let opCount ← readU16
  let fieldVariables ← readU16
  let mixVariables ← readU16
  let retMixVariable ← readU16
  pure { opCount, fieldVariables, mixVariables, retMixVariable }

def groupIdentifiers : ByteArr 3 := ⟨[0, 1, 2], rfl⟩

structure ProtocolHeader where
  extensionCoefficientRemap : ByteArr 4
  proofInfoLen : UInt8
  circuitInfoLen : UInt8
  extensionChallengeScale : UInt8
  proofSystem : Bytes
  circuit : Bytes

def readProtocolHeader : Reader String ProtocolHeader := do
  let extensionCoefficientRemap ← readArray 4
  let groups ← readArray 3
  require (groups = groupIdentifiers) "B2 group identifiers are not [0,1,2]"
  let proofInfoLen ← readU8
  let circuitInfoLen ← readU8
  let tapWidth ← readU8
  require (tapWidth = 5) "B2 tap record width is not 5"
  let extensionChallengeScale ← readU8
  let proofSystem ← readAscii proofInfoLen.toNat
  let circuit ← readAscii circuitInfoLen.toNat
  pure {
    extensionCoefficientRemap, proofInfoLen, circuitInfoLen, extensionChallengeScale, proofSystem
    circuit }

/-- The locals of `decode` that its header section reads, in reading order. -/
structure Header where
  field : FieldHeader
  poseidon2 : Poseidon2Header
  stark : StarkData
  taps : TapHeader
  polyExt : PolyExtHeader
  protocol : ProtocolHeader

def readHeader : Reader String Header := do
  let field ← readFieldHeader
  let poseidon2 ← readPoseidon2Header
  let stark ← readStark
  let taps ← readTapHeader
  let polyExt ← readPolyExtHeader
  let protocol ← readProtocolHeader
  pure { field, poseidon2, stark, taps, polyExt, protocol }

def readTap : Reader String Tap := do
  let group ← readU8
  let offset ← readU8
  let back ← readU8
  let combo ← readU8
  let skip ← readU8
  pure { group, offset, back, combo, skip }

def readArgs (tag : UInt8) : Reader String PolyExtOp :=
  match tag.toNat with
  | 0 => do
    let v ← readU32
    pure (.const v)
  | 1 => do
    let a ← readU32
    let b ← readU32
    let c ← readU32
    let d ← readU32
    pure (.constExt a b c d)
  | 2 => do
    let v ← readU16
    pure (.get v)
  | 3 => do
    let a ← readU16
    let b ← readU16
    pure (.getGlobal a b)
  | 4 => do
    let a ← readU16
    let b ← readU16
    pure (.add a b)
  | 5 => do
    let a ← readU16
    let b ← readU16
    pure (.sub a b)
  | 6 => do
    let a ← readU16
    let b ← readU16
    pure (.mul a b)
  | 7 => pure .true
  | 8 => do
    let a ← readU16
    let b ← readU16
    pure (.andEqz a b)
  | 9 => do
    let a ← readU16
    let b ← readU16
    let c ← readU16
    pure (.andCond a b c)
  | _ => fun _ => .error s!"unknown B2 PolyExt opcode tag {tag}"

def readOp : Reader String PolyExtOp := do
  let tag ← readU8
  readArgs tag

def checkOp (op : PolyExtOp) (c : Counts) (taps : ℕ) : Reader String Unit := fun cursor =>
  validateOpReferences op c.fp c.mix taps >>= fun u => .ok (u, cursor)

def readOps (taps : ℕ) : ℕ → Counts → Reader String (List PolyExtOp)
  | 0, _ => pure []
  | n + 1, c => do
    let op ← readOp
    checkOp op c taps
    let ops ← readOps taps n (c.after op)
    pure (op :: ops)

/-- The locals of `decode` that follow the header. -/
structure Tables where
  reverseRoots : List UInt32
  roundConstants : List UInt32
  internalDiagonal : List UInt32
  records : List Tap
  operations : List PolyExtOp

def readTables (h : Header) : Reader String Tables := do
  let reverseRoots ← times readU32 rootCount
  let roundConstants ← times readU32 h.poseidon2.roundConstantCount.toNat
  let internalDiagonal ← times readU32 h.poseidon2.diagonalCount.toNat
  let records ← times readTap h.taps.tapCount.toNat
  let operations ← readOps h.taps.tapCount.toNat h.polyExt.opCount.toNat ⟨0, 0⟩
  pure { reverseRoots, roundConstants, internalDiagonal, records, operations }

def assemble (h : Header) (t : Tables) : ConstantsArtifact where
  upstreamCommit := Constants.risc0Commit
  babyBear := {
    modulus := h.field.modulus
    extensionDegree := h.field.extensionDegree
    extensionBeta := h.field.extensionBeta
    maxRootPo2 := h.field.maxRootPo2
    reverseRoots := t.reverseRoots
    extensionCoefficientRemap := h.protocol.extensionCoefficientRemap
    extensionChallengeScale := h.protocol.extensionChallengeScale }
  poseidon2 := {
    cells := h.poseidon2.cells
    rate := h.poseidon2.rate
    outputCells := h.poseidon2.outputCells
    roundsHalfFull := h.poseidon2.roundsHalfFull
    roundsPartial := h.poseidon2.roundsPartial
    sboxDegree := h.poseidon2.sboxDegree
    roundConstants := t.roundConstants
    internalDiagonal := t.internalDiagonal }
  stark := h.stark
  protocolInfo := { proofSystem := h.protocol.proofSystem, circuit := h.protocol.circuit }
  taps := {
    groupSizes := h.taps.groupSizes
    combosCount := h.taps.combosCount
    totalComboBacks := h.taps.totalComboBacks
    records := t.records }
  polyExt := {
    fieldVariables := h.polyExt.fieldVariables
    mixVariables := h.polyExt.mixVariables
    retMixVariable := h.polyExt.retMixVariable
    histogram := histogram t.operations
    operations := t.operations }

def decode (bytes : Bytes) : Except String ConstantsArtifact :=
  if h : bytes.length = artifactBytes then do
    let (header, cursor) ← readHeader (Cursor.new bytes (by rw [h]; decide))
    ensure (cursor.position = headerBytes)
      s!"B2 header ended at {cursor.position}, expected {headerBytes}"
    let (tables, cursor) ← readTables header cursor
    ensure (cursor.position = bytes.length)
      s!"B2 decoder left {bytes.length - cursor.position} trailing bytes"
    let artifact := assemble header tables
    validate artifact
    pure artifact
  else .error s!"B2 artifact has {bytes.length} bytes, expected {artifactBytes}"

def artifactSha256 : Bytes :=
  utf8 "8c4a92b7d354890481eefdef233d4ca43f6bcd9f7cb00e4dd9e709da47789ef3"

def verifyCanonical (sha256 : Bytes → Digest) (bytes : Bytes) : Except String ConstantsArtifact := do
  let decoded ← decode bytes
  let encoded ← encode decoded
  ensure (encoded = bytes) "B2 decode/re-encode changed bytes"
  let actual := Hex.encode (sha256 bytes).val
  ensure (actual = artifactSha256)
    s!"B2 SHA-256 mismatch: expected {text artifactSha256}, got {text actual}"
  pure decoded

end Decoder

end Eip0045.B2Codec
