import TeeSelector.Python
import TeeSelector.Hash
import TeeSelector.Normalize
import TeeSelector.DateTime
import TeeSelector.Plan
import TeeSelector.Executor
import TeeSelector.Main
import TeeSelector.Theorems.Hash
import TeeSelector.Theorems.Explain
import TeeSelector.Theorems.Plan
import TeeSelector.Theorems.Scenario
import TeeSelector.Theorems.Run
import TeeSelector.Theorems.Report
import TeeSelector.Mapping
import TeeSelector.Theorems.Mapping
import TeeSelector.Theorems.Clock
import TeeSelector.Theorems.QueryNames
import TeeSelector.Theorems.Scan
import TeeSelector.Theorems.Evaluate
import TeeSelector.Theorems.Components
import TeeSelector.Theorems.HashCache
import TeeSelector.Theorems.Modes
import TeeSelector.Theorems.Budget
import TeeSelector.Theorems.Labels
import TeeSelector.Theorems.Main
