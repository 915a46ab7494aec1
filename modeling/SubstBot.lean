import SubstBot.Main
import SubstBot.Dispatch.Script
import SubstBot.Telegram.Operation
import SubstBot.Proofs.Text.Trim
import SubstBot.Proofs.Text.DecimalDigit
import SubstBot.Proofs.Text.ControlSequence
import SubstBot.Proofs.Number.Rounding
import SubstBot.Proofs.Number.Order
import SubstBot.Proofs.Number.Whole
import SubstBot.Proofs.Message.Chain
import SubstBot.Proofs.PatternText.Scan
import SubstBot.Proofs.PatternText.Syntax
import SubstBot.Proofs.PatternText.Toggle
import SubstBot.Proofs.PatternText.Commute
import SubstBot.Proofs.PatternText.Clash
import SubstBot.Proofs.PatternText.Residue
import SubstBot.Proofs.PatternText.Encode
import SubstBot.Proofs.PatternText.Unrepeated
import SubstBot.Proofs.Template.Marks
import SubstBot.Proofs.Template.Forms
import SubstBot.Proofs.Template.Print
import SubstBot.Proofs.Template.Seam
import SubstBot.Proofs.Template.Slashes
import SubstBot.Proofs.Template.Spellings
import SubstBot.Proofs.Backtracking.Engine
import SubstBot.Proofs.Rule.Grammar
import SubstBot.Proofs.Rule.Numeral
import SubstBot.Proofs.Rule.Replacing
import SubstBot.Proofs.Dispatch.Script
import SubstBot.Proofs.Dispatch.UserInput
import SubstBot.Proofs.Dispatch.Course
import SubstBot.Proofs.Dispatch.Answers
import SubstBot.Proofs.Dispatch.Accounting
import SubstBot.Proofs.Dispatch.Order
import SubstBot.Proofs.Supervisor.Course
import SubstBot.Proofs.Supervisor.Thresholds
import SubstBot.Proofs.Supervisor.Slack
import SubstBot.Proofs.Supervisor.Reckoning
import SubstBot.Proofs.Telegram.Queue
import SubstBot.Proofs.Telegram.Lifecycle
import SubstBot.Proofs.Telegram.Delivery
import SubstBot.Proofs.Telegram.Restart
import SubstBot.Proofs.Telegram.Resolution
import SubstBot.Proofs.Service.Ledger
import SubstBot.Proofs.Service.Restarts
import SubstBot.Proofs.Service.Exhaustion
import SubstBot.Proofs.Service.Addressing
import SubstBot.Proofs.Service.Closing
import SubstBot.Proofs.Settings.Reading
import SubstBot.Proofs.Settings.Bounds
import SubstBot.Proofs.Console.Shell
import SubstBot.Proofs.Console.Agreement
