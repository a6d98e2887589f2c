import KeyRelay.Glob.Language
import KeyRelay.Keys.Conformance
import KeyRelay.Keys.Memory
import KeyRelay.Keys.Recorder
import KeyRelay.Keys.SpecStep
import KeyRelay.Listener.System
import KeyRelay.Main
import KeyRelay.Proofs.GlobMatch
import KeyRelay.Proofs.StoreLive
import KeyRelay.Remote.Script
import KeyRelay.Remote.Server
import KeyRelay.Proofs.History
import KeyRelay.Proofs.LastChange
import KeyRelay.Proofs.ServerAgreement
import KeyRelay.Proofs.SpecChain
import KeyRelay.Proofs.StoredValue
import KeyRelay.Proofs.UniqueReading
import KeyRelay.Proofs.EndpointRecord
import KeyRelay.Proofs.CoupledRun
import KeyRelay.Proofs.ResolverCaches
import KeyRelay.Proofs.RegistryHistory
import KeyRelay.Proofs.SingleWinner
import KeyRelay.Proofs.Lifetime
import KeyRelay.Proofs.GeneratedIds
import KeyRelay.Proofs.OneRequest
import KeyRelay.Proofs.Subscriptions
import KeyRelay.Proofs.FailureIsolation
import KeyRelay.Proofs.ConfigCheck
import KeyRelay.Proofs.Enrolment
import KeyRelay.Proofs.Launch
import KeyRelay.Proofs.AcceptedConfig
import KeyRelay.Proofs.SentCommands
import KeyRelay.Proofs.CrashedWrite
import KeyRelay.Proofs.DigestConditions
import KeyRelay.Proofs.SuitePasses
import KeyRelay.Proofs.DefinitionRow
import KeyRelay.Proofs.Snapshot
import KeyRelay.Proofs.Classification
import KeyRelay.Proofs.IndexedMatch
import KeyRelay.Proofs.Namespaces
