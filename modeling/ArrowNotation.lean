import ArrowNotation.Diagram.Trace
import ArrowNotation.Proofs.Diagram.CanonicalEquivalence
import ArrowNotation.Proofs.Diagram.Faults
import ArrowNotation.Proofs.Diagram.LineEnds
import ArrowNotation.Proofs.Diagram.Noise
import ArrowNotation.Proofs.Diagram.Parts
import ArrowNotation.Proofs.Diagram.Positions
import ArrowNotation.Proofs.Diagram.Rearrangement
import ArrowNotation.Proofs.Diagram.Records
import ArrowNotation.Proofs.Diagram.RoundTrip
import ArrowNotation.Proofs.Diagram.Sizes
import ArrowNotation.Proofs.Files.Insertion
import ArrowNotation.Proofs.Graph.Export
import ArrowNotation.Proofs.Graph.Lookup
import ArrowNotation.Proofs.Graph.Merge
import ArrowNotation.Proofs.Graph.Validation
import ArrowNotation.Proofs.Graph.WellFormed
import ArrowNotation.Proofs.Json.Faults
import ArrowNotation.Proofs.KeyedLists
import ArrowNotation.Proofs.Registry.History
import ArrowNotation.Proofs.Registry.LowerCase
import ArrowNotation.Proofs.Samples.Confinement
import ArrowNotation.Proofs.Samples.Entries
import ArrowNotation.Proofs.Samples.Listing
import ArrowNotation.Proofs.Service.LineCheck
import ArrowNotation.Proofs.Service.SampleListing
import ArrowNotation.Registry.Session
import ArrowNotation.Samples.Directory
import ArrowNotation.Service.Answer
import ArrowNotation.Settings
