import SqlShell.Database.Scripted
import SqlShell.Main
import SqlShell.Proofs.Placeless
import SqlShell.Proofs.Splitting
import SqlShell.Proofs.Locality
import SqlShell.Proofs.Spacing
import SqlShell.Proofs.Scope
import SqlShell.Proofs.Schedules
import SqlShell.Proofs.Confirmation
import SqlShell.Proofs.Leaving
import SqlShell.Proofs.Ledger
import SqlShell.Proofs.Succession
import SqlShell.Proofs.Endings
import SqlShell.Proofs.Naming
import SqlShell.Proofs.Proposals
import SqlShell.Proofs.References
import SqlShell.Proofs.CommandWords
import SqlShell.Proofs.CompletedArgument
import SqlShell.Proofs.Precedence
import SqlShell.Proofs.Reordering
import SqlShell.Proofs.Narrowing
import SqlShell.Proofs.CompletedTexts
import SqlShell.Proofs.Beginnings
import SqlShell.Proofs.Tiling
import SqlShell.Proofs.Refreshing
import SqlShell.Proofs.TypedWord
import SqlShell.Proofs.Literals
import SqlShell.Proofs.Columns
import SqlShell.Proofs.TriggerBodies
import SqlShell.Proofs.FromLists
import SqlShell.Proofs.InsertColumns
import SqlShell.Proofs.RelationRows
import SqlShell.Proofs.LineEditing
import SqlShell.Proofs.Recasing
import SqlShell.Proofs.Interruption
import SqlShell.Proofs.PaddedCommands
import SqlShell.Proofs.Prompts
import SqlShell.Proofs.QuotedTokens
import SqlShell.Proofs.ForwardReading
