import LineBasic.Breakpoint
import LineBasic.Breakpoint.Store
import LineBasic.Builtin
import LineBasic.CommandLine
import LineBasic.CompileError
import LineBasic.Console.Command
import LineBasic.Console.Session
import LineBasic.Debuggee
import LineBasic.Debugger
import LineBasic.Directory
import LineBasic.Directory.Place
import LineBasic.Event
import LineBasic.Expr
import LineBasic.Expr.Eval
import LineBasic.Expr.Parser
import LineBasic.Fault
import LineBasic.FileError
import LineBasic.FirstWord
import LineBasic.Host
import LineBasic.Json
import LineBasic.Json.Reader
import LineBasic.Json.Record
import LineBasic.Line
import LineBasic.LineId
import LineBasic.Main
import LineBasic.Number.Binary
import LineBasic.Number.Notation
import LineBasic.Number.Reading
import LineBasic.Number.Rounding
import LineBasic.Number.Shortest
import LineBasic.Pace
import LineBasic.Process
import LineBasic.Program
import LineBasic.Proofs.BreakpointVisits
import LineBasic.Proofs.ExprPrinting
import LineBasic.Proofs.FaultPlace
import LineBasic.Proofs.HostRun
import LineBasic.Proofs.LineHook
import LineBasic.Proofs.LinePrinting
import LineBasic.Proofs.PlainRun
import LineBasic.Proofs.Session
import LineBasic.Proofs.StepInto
import LineBasic.Proofs.StepLanding
import LineBasic.Proofs.StoreLaws
import LineBasic.Proofs.Transparency
import LineBasic.Proofs.TrappedFaults
import LineBasic.Proofs.TypeSoundness
import LineBasic.Proofs.Typing
import LineBasic.Proofs.WholeDoubles
import LineBasic.Settings
import LineBasic.Snapshot
import LineBasic.Snippet
import LineBasic.Step
import LineBasic.Stmt
import LineBasic.Stmt.Parser
import LineBasic.Stmt.Run
import LineBasic.StopRequest
import LineBasic.Table
import LineBasic.Taken
import LineBasic.Text.Blank
import LineBasic.Text.CaseTable
import LineBasic.Text.Casing
import LineBasic.Text.CodeSet
import LineBasic.Text.Hidden
import LineBasic.Text.Lines
import LineBasic.Text.Quoted
import LineBasic.Text.ShellWord
import LineBasic.Token
import LineBasic.Token.Lexer
import LineBasic.Value
import LineBasic.Variables
import LineBasic.Variables.Name
import LineBasic.Proofs.StatementOrder
import LineBasic.Proofs.CallReturn
import LineBasic.Proofs.FaultResume
import LineBasic.Proofs.Progress
import LineBasic.Proofs.ThrottleChunks
import LineBasic.Proofs.OutcomeAgreement
import LineBasic.Proofs.Operations
import LineBasic.Proofs.ControlState
import LineBasic.Proofs.Announcements
import LineBasic.Proofs.EventStream
import LineBasic.Proofs.MutedBreakpoints
import LineBasic.Proofs.BreakpointNumbers
import LineBasic.Proofs.HitCounts
import LineBasic.Proofs.HostHistory
import LineBasic.Proofs.Positions
import LineBasic.Proofs.LikeDebuggers
import LineBasic.Proofs.Restart
import LineBasic.Proofs.JsonPrinting
import LineBasic.Proofs.BreakpointDocument
import LineBasic.Proofs.ExprRereading
import LineBasic.Proofs.BracketedTokens
import LineBasic.Proofs.SnippetCompilation
import LineBasic.Proofs.SnippetEvaluation
import LineBasic.Proofs.RefusedStatements
import LineBasic.Proofs.PauseReentry
import LineBasic.Proofs.ProgramText
import LineBasic.Proofs.LineNumbers
import LineBasic.Proofs.FirstWords
import LineBasic.Proofs.SkippedLines
import LineBasic.Proofs.FiniteDoubles
import LineBasic.Proofs.ValueLimits
import LineBasic.Proofs.ProcessHistory
import LineBasic.Proofs.IntegerVariables
import LineBasic.Proofs.BreakpointHistory
import LineBasic.Proofs.BreakpointImport
import LineBasic.Proofs.BreakCondition
import LineBasic.Proofs.TokenSlices
import LineBasic.Proofs.StorageKeys
import LineBasic.Proofs.CursorExprs
import LineBasic.Proofs.CursorLines
import LineBasic.Proofs.CursorEnds
