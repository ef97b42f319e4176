import ScenarioSuite.CommandLine
import ScenarioSuite.Error
import ScenarioSuite.Glue.Inspect
import ScenarioSuite.Glue.Shared
import ScenarioSuite.Regex.Parser
import ScenarioSuite.Run
import ScenarioSuite.Script
import ScenarioSuite.Table.Cell
import ScenarioSuite.Proofs.Document.Order
import ScenarioSuite.Proofs.Error.Sources
import ScenarioSuite.Proofs.Glue.Replay
import ScenarioSuite.Proofs.Glue.Shared
import ScenarioSuite.Proofs.Hook.Execution
import ScenarioSuite.Proofs.Hook.Phases
import ScenarioSuite.Proofs.Numeral.Integer
import ScenarioSuite.Proofs.Outline.Count
import ScenarioSuite.Proofs.Outline.Documents
import ScenarioSuite.Proofs.Outline.Places
import ScenarioSuite.Proofs.Outline.Retagged
import ScenarioSuite.Proofs.Outline.Selection
import ScenarioSuite.Proofs.Placeholder.Residue
import ScenarioSuite.Proofs.Run
import ScenarioSuite.Proofs.Step.Agreement
import ScenarioSuite.Proofs.Step.Execution
import ScenarioSuite.Proofs.Step.Lookup
import ScenarioSuite.Proofs.Step.Quoting
import ScenarioSuite.Proofs.Step.Stability
import ScenarioSuite.Proofs.Step.Typing
import ScenarioSuite.Proofs.Table.Columns
import ScenarioSuite.Proofs.Table.Typed
import ScenarioSuite.Proofs.Tag.Polarity
import ScenarioSuite.Proofs.Tag.Signs
