import Eip0045.Library.Bytes
import Eip0045.Library.Hex
import Eip0045.Library.Checked
import Eip0045.Library.FileTree
import Eip0045.Library.Montgomery
import Eip0045.Library.Reader
import Eip0045.Library.Tiling
import Eip0045.Library.Strides
import Eip0045.Library.Lexicographic
import Eip0045.Library.Keyed
import Eip0045.Library.Packed
import Eip0045.Constants
import Eip0045.Corpus.TreeClosure
import Eip0045.Corpus.TreeInventory
import Eip0045.Corpus.TreeManifest
import Eip0045.Corpus.TreeWalk
import Eip0045.Framing.SubjectEnvelope
import Eip0045.Framing.ByteMap
import Eip0045.Profile.Manifest
import Eip0045.Profile.ManifestCanonicity
import Eip0045.Profile.InitialTarget
import Eip0045.Profile.ConstantsArtifact
import Eip0045.Profile.ConstantsArtifactCodec
import Eip0045.Profile.TapGrammar
import Eip0045.Profile.PolyExtProgram
import Eip0045.Statement.ErgoStatement
import Eip0045.Statement.Agreement
import Eip0045.Seal.RawSeal
import Eip0045.Seal.OutputBinding
import Eip0045.Ancestry.ReceiptClaim
import Eip0045.Ancestry.Projection
import Eip0045.Ancestry.Structure
import Eip0045.Ancestry.Semantics
import Eip0045.Ancestry.Canonical
import Eip0045.Ancestry.Producer
import Eip0045.Ancestry.AuxiliaryMap
import Eip0045.Ancestry.Replay
import Eip0045.Ancestry.Evidence
import Eip0045.Zip.Reader
import Eip0045.Zip.Coverage
import Eip0045.Zip.Writer
import Eip0045.Zip.Written
import Eip0045.Zip.RoundTrip
import Eip0045.Zip.Acceptance
import Eip0045.Zip.AllOrNothing
import Eip0045.Library.Paths
import Eip0045.Library.SortedMap
import Eip0045.Library.Agreement
import Eip0045.Library.FirstSplit
import Eip0045.Sources.Manifest
import Eip0045.Sources.Capture
import Eip0045.Sources.Listings
import Eip0045.Sources.Agreement
import Eip0045.Library.Stateful
import Eip0045.Library.InsertionSort
import Eip0045.Rootfs.Limits
import Eip0045.Rootfs.Journal
import Eip0045.Rootfs.Overlay
import Eip0045.Rootfs.Counted
import Eip0045.Rootfs.Removal
import Eip0045.Rootfs.Whiteouts
import Eip0045.Rootfs.Entries
import Eip0045.Rootfs.Projected
import Eip0045.Rootfs.Identity
import Eip0045.Rootfs.ChangesetTranscript
import Eip0045.Rootfs.Staging
import Eip0045.Rootfs.Candidate
import Eip0045.Rootfs.Effects
import Eip0045.Rootfs.Changes
import Eip0045.Rootfs.Filed
import Eip0045.Rootfs.Integrity
import Eip0045.Rootfs.Calls
import Eip0045.Rootfs.Accepted
import Eip0045.Rootfs.StagingIntegrity
import Eip0045.Library.Ledger
import Eip0045.Inventory.Slots
import Eip0045.Inventory.Custody
import Eip0045.Inventory.Retries
import Eip0045.Materialization.SafePath
import Eip0045.Materialization.PhysicalPaths
import Eip0045.Materialization.PhysicalOwnership
import Eip0045.Library.ClassicBpf
import Eip0045.Seccomp.Filter
import Eip0045.Seccomp.Policy
import Eip0045.Library.Frames
import Eip0045.Framing.EnvelopeCodec
import Eip0045.Framing.EnvelopeRoundTrip
import Eip0045.Framing.ByteMapCodec
import Eip0045.Opcode.Producer
import Eip0045.Opcode.Consumer
import Eip0045.Opcode.Agreement
import Eip0045.Framing.SequenceSubject
import Eip0045.Seal.Semantics
import Eip0045.Seal.RawEdits
import Eip0045.Seal.RawBase
import Eip0045.Seal.RawRejections
import Eip0045.Methods.InputHeader
import Eip0045.Methods.Execution
import Eip0045.Custody.StreamReader
import Eip0045.Custody.AuthenticatedStream
import Eip0045.Custody.StreamDelivery
import Eip0045.Provider.SpawnPlan
import Eip0045.Provider.ChildDescriptors
import Eip0045.Provider.ChildRun
import Eip0045.Elf.Headers
import Eip0045.Elf.Dynamic
import Eip0045.Elf.Inspection
import Eip0045.Elf.LoaderView
import Eip0045.Elf.Views
import Eip0045.Elf.Indexed
import Eip0045.Elf.Appliance
import Eip0045.Library.CanonicalJson
import Eip0045.Oci.RunnerProfile
import Eip0045.Oci.PositiveGate
import Eip0045.Oci.H0Request
import Eip0045.Oci.H0Encoding
import Eip0045.Oci.H0Binding
import Eip0045.Oci.H0Commitments
import Eip0045.Library.Scans
import Eip0045.Oci.ImageProjection
import Eip0045.Oci.ImageImport
import Eip0045.Oci.ImageAgreement
import Eip0045.Oci.ImageCampaign
import Eip0045.Layer.Whiteouts
import Eip0045.Git.Checkout
import Eip0045.Git.Objects
import Eip0045.Git.Reconstruction
import Eip0045.Git.Contents
import Eip0045.Git.Index
import Eip0045.Metadata.Packet
import Eip0045.Metadata.Subjects
import Eip0045.Metadata.Acceptance
import Eip0045.Mutation.ByteEdits
import Eip0045.Framing.SequenceValidity
import Eip0045.Mutation.SequenceEdits
import Eip0045.Mutation.SequenceExact
import Eip0045.Library.CommonParts
import Eip0045.Mutation.ByteRecipes
import Eip0045.Mutation.SequenceRecipes
import Eip0045.Mutation.RegistryReplay
import Eip0045.Evidence.Signature
import Eip0045.Library.Bracketing
import Eip0045.Library.Jcs
import Eip0045.Calibration.Selection
import Eip0045.Calibration.Report
import Eip0045.Calibration.Record
import Eip0045.Library.JcsReference
import Eip0045.Statement.BundleManifest
import Eip0045.Statement.BundleRecords
import Eip0045.Statement.BundleBinding
import Eip0045.Statement.BundleEquivalence
import Eip0045.Statement.BundleTheorem
import Eip0045.Library.JcsIndented
import Eip0045.Runtime.Observation
import Eip0045.Runtime.Timestamp
import Eip0045.Runtime.BootUuid
import Eip0045.Runtime.Paths
import Eip0045.Runtime.ProcessIdentity
import Eip0045.Runtime.RuncState
import Eip0045.Runtime.Contracts
import Eip0045.Library.UnixPath
import Eip0045.Campaign.Preflight
import Eip0045.Campaign.Disjoint
import Eip0045.Campaign.Layouts
import Eip0045.Tmpfs.Request
import Eip0045.Seal.TerminalShape
import Eip0045.Quarantine.Exactness
import Eip0045.Library.MerkleTree
import Eip0045.Fri.Transcript
import Eip0045.Fri.Search
import Eip0045.Fri.Mutation
import Eip0045.Cargo.Metadata
import Eip0045.Cargo.Derivation
import Eip0045.Cargo.Agreement
import Eip0045.Jvm.Manifest
import Eip0045.Jvm.Replay
import Eip0045.Provider.Wire
import Eip0045.Provider.Transcript
import Eip0045.Provider.Ancillary
import Eip0045.Provider.AncillaryReceive
import Eip0045.Provider.Handshake
import Eip0045.Provider.Commitments
import Eip0045.Provider.Results
import Eip0045.Provider.Bootstrap
import Eip0045.Provider.BootstrapAgreement
import Eip0045.Layer.Archive
import Eip0045.Layer.Authenticated
import Eip0045.Layer.Delivery
