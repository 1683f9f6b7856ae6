import ClientBuilder.Contract.Decode
import ClientBuilder.Json.Reader
import ClientBuilder.Logging.Template
import ClientBuilder.Main
import ClientBuilder.Method.Decode
import ClientBuilder.Proofs.Issues.Clean
import ClientBuilder.Session
import ClientBuilder.Value.OfJson
import ClientBuilder.Value.ToJson
import ClientBuilder.Proofs.Synthesis.Coherence
import ClientBuilder.Proofs.ModelFile.Agreement
import ClientBuilder.Proofs.Setter.Letters
import ClientBuilder.Proofs.Setter.Passes
import ClientBuilder.Proofs.Setter.Tokens
import ClientBuilder.Proofs.Setter.Rows
import ClientBuilder.Proofs.Setter.Spelling
import ClientBuilder.Proofs.Capability.Written
import ClientBuilder.Proofs.Synthesis.Monotone
import ClientBuilder.Proofs.ModelFile.Documents
import ClientBuilder.Proofs.ModelFile.Faults
import ClientBuilder.Proofs.Service.Derivation
import ClientBuilder.Proofs.CommandLine.Endings
import ClientBuilder.Proofs.CommandLine.Verbosity
import ClientBuilder.Proofs.Logging.Setup
import ClientBuilder.Proofs.Setter.Conservation
import ClientBuilder.Proofs.Setter.Grammar
import ClientBuilder.Proofs.Capability.Grammar
import ClientBuilder.Proofs.Synthesis.Frame
import ClientBuilder.Proofs.Synthesis.Identifiers
import ClientBuilder.Proofs.ModelFile.Nearest
import ClientBuilder.Proofs.Issues.Listing
import ClientBuilder.Proofs.Contract.HandOver
import ClientBuilder.Proofs.CommandLine.Modes
