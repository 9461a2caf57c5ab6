import DescriptorReaper.Main
import DescriptorReaper.Session
import DescriptorReaper.Transcript
import DescriptorReaper.Proofs.Candidates
import DescriptorReaper.Proofs.Preservation
import DescriptorReaper.Proofs.Projection
import DescriptorReaper.Proofs.ScriptedReap
import DescriptorReaper.Proofs.CompleteClosing
import DescriptorReaper.Proofs.Idempotence
import DescriptorReaper.Proofs.FasterStrategies
import DescriptorReaper.Proofs.ProcessReap
import DescriptorReaper.Proofs.Residue
import DescriptorReaper.Proofs.Threshold
import DescriptorReaper.Proofs.Independence
import DescriptorReaper.Proofs.CallOrder
import DescriptorReaper.Proofs.SweepAgreement
import DescriptorReaper.Proofs.Restriction
import DescriptorReaper.Proofs.CommandLines
import DescriptorReaper.Proofs.ProgramChains
import DescriptorReaper.Proofs.OpenDescriptors
import DescriptorReaper.Proofs.EventStream
import DescriptorReaper.Proofs.StartEnvironment
import DescriptorReaper.Proofs.LoggedRuns
import DescriptorReaper.Proofs.LoggingChoices
import DescriptorReaper.Proofs.NumberSweep
import DescriptorReaper.Proofs.CandidateSets
import DescriptorReaper.Proofs.DirectiveReading
import DescriptorReaper.Proofs.FilterDecision
import DescriptorReaper.Proofs.NumeralFaults
import DescriptorReaper.Proofs.ThresholdReading
