import PassDelta.Main
import PassDelta.Memory
import PassDelta.Proofs.Accounting
import PassDelta.Proofs.Calls
import PassDelta.Proofs.ConfigFile
import PassDelta.Proofs.Contents
import PassDelta.Proofs.Outcome
import PassDelta.Proofs.Reports
import PassDelta.Proofs.ArtifactPath
import PassDelta.Proofs.Clashes
import PassDelta.Proofs.Losses
import PassDelta.Proofs.Faults
import PassDelta.Proofs.Document
import PassDelta.Proofs.Composition
import PassDelta.Proofs.Omission
import PassDelta.Proofs.Rerun
import PassDelta.Proofs.Permutation
import PassDelta.Proofs.Components
import PassDelta.Proofs.Containment
import PassDelta.Proofs.Resolution
import PassDelta.Proofs.Comparing
import PassDelta.Proofs.Noninterference
import PassDelta.Proofs.Describable
import PassDelta.Proofs.Delivery
import PassDelta.Proofs.LineCounts
import PassDelta.Proofs.Reencoding
import PassDelta.Proofs.Truncation
import PassDelta.Proofs.Members
import PassDelta.Proofs.Interleaving
import PassDelta.Proofs.Creation
import PassDelta.Proofs.Rendering
import PassDelta.Proofs.PartialConfig
import PassDelta.Proofs.Preview
import PassDelta.Proofs.Spelling
import PassDelta.Proofs.Percent
import PassDelta.Proofs.Machine.World
