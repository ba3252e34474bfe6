import ChatLine.CaseFile.Summary
import ChatLine.Main
import ChatLine.Proofs.Alike.Agree
import ChatLine.Proofs.Alike.Blind
import ChatLine.Proofs.Alike.Calls
import ChatLine.Proofs.Alike.Commands
import ChatLine.Proofs.Alike.Currying
import ChatLine.Proofs.Alike.Progress
import ChatLine.Proofs.Alike.Worlds
import ChatLine.Proofs.Asking.Goals
import ChatLine.Proofs.Asking.Widening
import ChatLine.Proofs.Bot.Allowed
import ChatLine.Proofs.Bot.Books
import ChatLine.Proofs.Bot.Deeds
import ChatLine.Proofs.Bot.Failing
import ChatLine.Proofs.Bot.Naming
import ChatLine.Proofs.Bot.Operations
import ChatLine.Proofs.Bot.Order
import ChatLine.Proofs.Bot.Owners
import ChatLine.Proofs.Bot.Paths
import ChatLine.Proofs.Bot.Putting
import ChatLine.Proofs.Bot.Reached
import ChatLine.Proofs.Bot.Storing
import ChatLine.Proofs.Bot.Undoing
import ChatLine.Proofs.Calls.Binding
import ChatLine.Proofs.Calls.Builtins
import ChatLine.Proofs.Calls.Cells
import ChatLine.Proofs.Calls.EmptyName
import ChatLine.Proofs.Calls.Ensures
import ChatLine.Proofs.Calls.Kinds
import ChatLine.Proofs.Calls.Lasting
import ChatLine.Proofs.Calls.Programs
import ChatLine.Proofs.Calls.Requests
import ChatLine.Proofs.Calls.Steps
import ChatLine.Proofs.CaseFile.Passing
import ChatLine.Proofs.CaseFile.Writing
import ChatLine.Proofs.Failures.Forwarding
import ChatLine.Proofs.Failures.Telling
import ChatLine.Proofs.Failures.Told
import ChatLine.Proofs.Functions.Answering
import ChatLine.Proofs.Functions.Helping
import ChatLine.Proofs.Functions.Negotiation
import ChatLine.Proofs.Functions.OnTexts
import ChatLine.Proofs.Functions.Reaching
import ChatLine.Proofs.Functions.Showing
import ChatLine.Proofs.Functions.Taking
import ChatLine.Proofs.Functions.Transparent
import ChatLine.Proofs.Functions.Typing
import ChatLine.Proofs.Line.Extending
import ChatLine.Proofs.Line.Faithful
import ChatLine.Proofs.Line.Faults
import ChatLine.Proofs.Line.Grammar
import ChatLine.Proofs.Line.Leading
import ChatLine.Proofs.Line.Meaning
import ChatLine.Proofs.Line.Named
import ChatLine.Proofs.Line.Nesting
import ChatLine.Proofs.Line.Placing
import ChatLine.Proofs.Line.Reading
import ChatLine.Proofs.Line.Rendering
import ChatLine.Proofs.Line.Symbols
import ChatLine.Proofs.Line.Writing
import ChatLine.Proofs.Names.BestMatches
import ChatLine.Proofs.Overloads.Calling
import ChatLine.Proofs.Overloads.Shared
import ChatLine.Proofs.Overloads.Signatures
import ChatLine.Proofs.Overloads.Steady
import ChatLine.Proofs.Overloads.Trying
import ChatLine.Proofs.Parallel.Calls
import ChatLine.Proofs.Parallel.Charges
import ChatLine.Proofs.Parallel.Journal
import ChatLine.Proofs.Parallel.Rules
import ChatLine.Proofs.Scoping.Homes
import ChatLine.Proofs.Scoping.Lexical
import ChatLine.Proofs.Scoping.Local
import ChatLine.Proofs.Scoping.Parameter
import ChatLine.Proofs.Scoping.Runs
import ChatLine.Proofs.Scoping.Watching
import ChatLine.Proofs.Scoping.Worlds
import ChatLine.Proofs.Sharing.Discreet
import ChatLine.Proofs.Sharing.Once
import ChatLine.Proofs.Sharing.Runs
import ChatLine.Proofs.Sharing.Safe
import ChatLine.Proofs.Sharing.Waiting
import ChatLine.Proofs.Termination.Approximation
import ChatLine.Proofs.Termination.Code
import ChatLine.Proofs.Termination.Ends
import ChatLine.Proofs.Termination.Nesting
import ChatLine.Proofs.Termination.Running
import ChatLine.Proofs.Termination.SelfFeeding
import ChatLine.Proofs.Termination.Steps
import ChatLine.Proofs.Termination.Tame
import ChatLine.Proofs.Termination.Work
import ChatLine.Proofs.Text.Lines
import ChatLine.Proofs.Text.Quoting
import ChatLine.Proofs.Text.Squeezing
import ChatLine.Proofs.Text.Words
import ChatLine.Proofs.Tree.Changes
import ChatLine.Proofs.Tree.Effects
import ChatLine.Proofs.Tree.Exact
import ChatLine.Proofs.Tree.Layout
import ChatLine.Proofs.Tree.Leaves
import ChatLine.Proofs.Tree.Listing
import ChatLine.Proofs.Tree.Numbers
import ChatLine.Proofs.Tree.PathMap
import ChatLine.Proofs.Tree.Places
import ChatLine.Proofs.Tree.Putting
import ChatLine.Proofs.Tree.SortedMap
import ChatLine.Proofs.Tree.Tidy
import ChatLine.Proofs.Tree.Undoing
import ChatLine.Proofs.Bot.Storing
