import Eip0045.Library.Bytes

/-! Frozen construction constants of the first profile. -/

namespace Eip0045.Constants

open Bytes

def risc0Commit : Bytes := utf8 "8eb06ab020a92dc5b63ba6dd0836d432aba6d890"

def proofWords : ℕ := 55667
def bytesPerProofWord : ℕ := 4
def proofBytes : ℕ := 222668
def proofChunkLengths : List ℕ := [65535, 65535, 65535, 26063]

def maxApplicationPayloadBytes : ℕ := 16384
def ergoStatementDomain : Bytes := utf8 "Ergo.VerifyStark.Statement"
def ergoStatementVersionBytes : ℕ := 1
def ergoStatementBoundDigests : ℕ := 4
def digestBytes : ℕ := 32
def payloadLengthPrefixBytes : ℕ := 4
def statementPrefixBytes : ℕ := 159
def maxStatementBytes : ℕ := statementPrefixBytes + maxApplicationPayloadBytes

def manifestBytes : ℕ := 458
def manifestFormatVersion : UInt8 := 1
def manifestControlCount : ℕ := 10
def algorithmArtifactKind : UInt16 := 1
def binaryDataArtifactKind : UInt16 := 2

def terminalControlKindLift : UInt8 := 1
def terminalControlKindJoin : UInt8 := 2
def terminalControlKindResolve : UInt8 := 3

def manifestControlEntryBytes : ℕ := 34
def risc0OuterPo2 : UInt8 := 18

def profileIdDomain : Bytes := utf8 "Ergo.StarkProfileId.v1"
def profileIdDomainSeparatorBytes : ℕ := 1
def manifestLengthPrefixBytes : ℕ := 4
def profileIdPreimageBytes : ℕ := 485

def risc0InnerControlRootHex : Bytes :=
  utf8 "a54dc85ac99f851c92d7c96d7318af41dbe7c0194edfcc37eb4d422a998c1f56"

def b4AlternateControlRoot : Digest := ⟨[
  0xeb, 0x79, 0x8a, 0x5b, 0x87, 0xbc, 0x50, 0x56, 0xc2, 0xe6, 0xa8, 0x60, 0xa3, 0xe1, 0x33, 0x3d,
  0x7e, 0xaf, 0x2a, 0x0f, 0x40, 0x46, 0x93, 0x37, 0xed, 0x29, 0xcc, 0x26, 0x16, 0xab, 0x93, 0x5a],
  rfl⟩

def supportedSegmentPo2 : List UInt8 := [15, 16, 17, 18, 19, 20, 21, 22]

def risc0NormalLiftControlIdsHex : List Bytes := [
  utf8 "1ca3ca03030719064ba61b3125bdd326fc57f74e799ef860bdea6f3227381e16",
  utf8 "c32b3627d2b3d60c64adf523a98bd16c0ff607471f3d6630d1f26d5e9406d841",
  utf8 "c9b08054994f542a6310b00d9b6fc6528ed7bb6f4ca5476a686847127cdfdc5b",
  utf8 "e7934a23ddce1423b425cf32aa23be29f48cd40e0b6ff9376dce6f3bf9d0bc35",
  utf8 "8c2fdd36ede09a4b9d316a43c51f1160cbd8876659c5f35810c3a119c60d3843",
  utf8 "34530b42028fb631c90e1226bb0e750d4b9b593840d45216f75dca449dac7734",
  utf8 "fd84d83092a1e1244d423a26d89c892ab098b467c6d82229912deb26e37d2562",
  utf8 "9d9dbf33535ab11f52a93839dfd23b352b7626009e81d9459fd04e488898ec6a"]

def risc0JoinControlIdHex : Bytes :=
  utf8 "7a8f24092c34ed3eb81b3d0a0b796c588c615d3488ef9e61c21dbd1e4b83ea6e"

def risc0ResolveControlIdHex : Bytes :=
  utf8 "53a7b23d07f99e5d5685e85874f5181e8486aa267a0ae607ffe9ba47c8bdda4a"

end Eip0045.Constants
