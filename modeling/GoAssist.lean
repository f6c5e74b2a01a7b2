import GoAssist.Main
import GoAssist.Proofs.CommandLine.Filter
import GoAssist.Proofs.Completion.General
import GoAssist.Proofs.Completion.Member
import GoAssist.Proofs.Completion.Placeholder
import GoAssist.Proofs.Completion.Ranking
import GoAssist.Proofs.Completion.Verbatim
import GoAssist.Proofs.Completion.Weight
import GoAssist.Proofs.Document.Boundary
import GoAssist.Proofs.Document.Ending
import GoAssist.Proofs.Document.Line
import GoAssist.Proofs.Document.Overflow
import GoAssist.Proofs.Files.Directories
import GoAssist.Proofs.Files.Place
import GoAssist.Proofs.Hover.Accepted
import GoAssist.Proofs.Hover.Function
import GoAssist.Proofs.Json.Strings
import GoAssist.Proofs.Line.Cursor
import GoAssist.Proofs.Line.Grammar
import GoAssist.Proofs.Line.Surroundings
import GoAssist.Proofs.Line.Words
import GoAssist.Proofs.Registry.Entries
import GoAssist.Proofs.Server.Answer
import GoAssist.Proofs.Server.Debug
import GoAssist.Proofs.Server.History
import GoAssist.Proofs.Server.Lifecycle
import GoAssist.Proofs.Settings.Assignment
import GoAssist.Proofs.Settings.Detection
import GoAssist.Proofs.Settings.Failure
import GoAssist.Proofs.Settings.Save
