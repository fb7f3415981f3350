import ZendooSc.Calls
import ZendooSc.Lib.Bits
import ZendooSc.Lib.MachineInt
import ZendooSc.Lib.Wires
import ZendooSc.Lib.WiresTheorems
import ZendooSc.Circuit.Gadgets
import ZendooSc.Circuit.NaiveThresholdSig
import ZendooSc.Circuit.Layout
import ZendooSc.Circuit.Emission
import ZendooSc.Circuit.Synthesis
import ZendooSc.Circuit.Equations
import ZendooSc.Circuit.Relation
import ZendooSc.Lib.SignedDigits
import ZendooSc.Lib.PrimeChain
import ZendooSc.Circuit.GroupHashTable
import ZendooSc.Circuit.GroupHashWindows
import ZendooSc.Api.CctpCalls
import ZendooSc.Api.Signatures
import ZendooSc.Circuit.Transcript
import ZendooSc.Api.CctpCallsTheorems
import ZendooSc.Circuit.ThresholdSlack
import ZendooSc.Api.ProverCall
import ZendooSc.Api.CommittedKeys
import ZendooSc.Api.ProvingSystemTypes
import ZendooSc.Api.KeyGeneration
import ZendooSc.Api.Snark
import ZendooSc.Api.Certification
import ZendooSc.Api.Serialization
import ZendooSc.Api.CommitmentTree
import ZendooSc.Lib.Decoding
import ZendooSc.Api.CommitmentTreeTheorems
import ZendooSc.Lib.Atomicity
import ZendooSc.Lib.Lifetimes
import ZendooSc.Lib.MerkleTree
import ZendooSc.Handles.World
import ZendooSc.Handles.Operations
import ZendooSc.Handles.Protocol
import ZendooSc.Handles.OperationTheorems
import ZendooSc.Handles.Footprints
import ZendooSc.Handles.Runs
import ZendooSc.Handles.Values
import ZendooSc.Handles.Lifetimes
import ZendooSc.Handles.Returns
import ZendooSc.Handles.SignatureRuns
import ZendooSc.Handles.CertificateRuns
import ZendooSc.Handles.MerkleRuns
import ZendooSc.Handles.CommitmentRuns
import ZendooSc.Handles.EncodingRuns
import ZendooSc.Handles.HashRuns
import ZendooSc.Lib.Simulation
import ZendooSc.Handles.PoseidonRefinement
import ZendooSc.Exception
import ZendooSc.Handles.Isolation
