import RunPicker.Extension
import RunPicker.Job.InMemory
import RunPicker.Main
import RunPicker.Proofs.Course
import RunPicker.Proofs.Enumeration
import RunPicker.Proofs.Sequence
import RunPicker.Proofs.StoredHistory
import RunPicker.Template
import RunPicker.Transcript
import RunPicker.Validation
import RunPicker.Proofs.Descent
import RunPicker.Proofs.Arrivals
import RunPicker.Proofs.Entries
import RunPicker.Proofs.RunVariables
import RunPicker.Proofs.Quoting
import RunPicker.Proofs.Parts
import RunPicker.Proofs.Sections
import RunPicker.Proofs.NestedStore
import RunPicker.Proofs.Construction
import RunPicker.Proofs.Anchors
import RunPicker.Proofs.FilterForms
import RunPicker.Proofs.Outage
import RunPicker.Proofs.Loading
import RunPicker.Proofs.Unloadable
import RunPicker.Proofs.Overlay
import RunPicker.Proofs.Expansion
import RunPicker.Proofs.WantedLayout
import RunPicker.Proofs.Colours
import RunPicker.Proofs.Messages
import RunPicker.Proofs.Presentation
import RunPicker.Proofs.ExpandedPairs
import RunPicker.Proofs.ParametersVerdict
import RunPicker.Proofs.MalformedRuns
import RunPicker.Proofs.MappingConversions
import RunPicker.Proofs.FilterRewriting
import RunPicker.Proofs.Configurations
import RunPicker.Proofs.FailingEnvironments
import RunPicker.Proofs.Likeness
import RunPicker.Proofs.RecordedHistory
import RunPicker.Proofs.Keys
import RunPicker.Proofs.Integers
import RunPicker.Proofs.Counts
import RunPicker.Proofs.Permalinks
import RunPicker.Proofs.Refusals
import RunPicker.Proofs.RunNumbers
import RunPicker.Proofs.ReadBack
import RunPicker.Proofs.Pages
import RunPicker.Proofs.Listing
import RunPicker.Proofs.NullParts
import RunPicker.Proofs.Binding
import RunPicker.Proofs.CheckedCalls
