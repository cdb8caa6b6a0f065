import CssSelector.Workspace
import CssSelector.Main
import CssSelector.Proofs.HeldParts
import CssSelector.Proofs.WorkspaceAdditions
import CssSelector.Proofs.AssemblyResult
import CssSelector.Proofs.Frame
import CssSelector.Proofs.WorkspaceHistories
import CssSelector.Proofs.BuildReport
import CssSelector.Proofs.Growth
import CssSelector.Proofs.JoinErasure
import CssSelector.Proofs.EventLevels
import CssSelector.Proofs.ExitCodes
import CssSelector.Proofs.SingleParts
import CssSelector.Proofs.JoinTrees
import CssSelector.Proofs.CleanTexts
import CssSelector.Proofs.KeywordTokens
import CssSelector.Proofs.EventReports
import CssSelector.Proofs.Rejections
import CssSelector.Proofs.AssemblyReports
import CssSelector.Proofs.StepReports
import CssSelector.Proofs.Diagnostics
import CssSelector.Proofs.ReportLines
import CssSelector.Proofs.CombinatorAlias
import CssSelector.Proofs.ProgramLevel
import CssSelector.Proofs.WrittenRecords
