import AccessorUpgrade.CommandLine.Workspace
import AccessorUpgrade.Main
import AccessorUpgrade.Proofs.DeclaredType.Derivation
import AccessorUpgrade.Proofs.DeclaredType.Reading
import AccessorUpgrade.Proofs.Reader.Checks
import AccessorUpgrade.Proofs.Reader.Decision
import AccessorUpgrade.Proofs.Reader.Batch
import AccessorUpgrade.Proofs.Interception.Agreement
import AccessorUpgrade.Proofs.Naming.Property
import AccessorUpgrade.Proofs.Accessor.Implied
import AccessorUpgrade.Proofs.DeclaredType.WellFormed
import AccessorUpgrade.Proofs.ErasedType.Descriptor
import AccessorUpgrade.Proofs.Json.Layout
import AccessorUpgrade.Proofs.Json.ReadBack
import AccessorUpgrade.Proofs.Format.Exact
import AccessorUpgrade.Proofs.Format.Record
import AccessorUpgrade.Proofs.Format.Method
import AccessorUpgrade.Proofs.Format.Request
import AccessorUpgrade.Proofs.Format.Lossless
import AccessorUpgrade.Proofs.Interception.Binding
import AccessorUpgrade.Proofs.CommandLine.Report
import AccessorUpgrade.Proofs.CommandLine.Workspace
import AccessorUpgrade.Proofs.CommandLine.Streams
import AccessorUpgrade.Proofs.Reader.Entries
import AccessorUpgrade.Proofs.Reader.Attributes
import AccessorUpgrade.Proofs.CommandLine.Split
import AccessorUpgrade.Proofs.Interception.CallSite
import AccessorUpgrade.Proofs.DeclaredType.Refusals
import AccessorUpgrade.Proofs.DeclaredType.Unbalanced
import AccessorUpgrade.Proofs.Reader.TypeArguments
import AccessorUpgrade.Proofs.Interception.AdapterClass
import AccessorUpgrade.Proofs.Method.Signature
import AccessorUpgrade.Proofs.Accessor.Names
import AccessorUpgrade.Proofs.Naming.Inverse
import AccessorUpgrade.Proofs.Project.Suffix
import AccessorUpgrade.Proofs.DeclaredType.CallStack
import AccessorUpgrade.Proofs.CommandLine.Log
