/-
# Prompt chains

A chain of prompts is written as an indented script.  This library reads the script, links the
prompts to each other, analyses the graph they form, and runs it against a chat client round by
round; around that stand the settings of a run and the HTTP service.
-/
import PromptChain.Client.Basic
import PromptChain.Client.Canned
import PromptChain.Client.Model
import PromptChain.Form.Fault
import PromptChain.Form.Field
import PromptChain.Form.Names
import PromptChain.Form.Numeral
import PromptChain.Graph.Basic
import PromptChain.Graph.Cycle
import PromptChain.Graph.Levels
import PromptChain.Graph.Order
import PromptChain.Graph.Report
import PromptChain.Json.Basic
import PromptChain.Json.Fault
import PromptChain.Json.Number
import PromptChain.Json.Reader
import PromptChain.Node.Basic
import PromptChain.Node.Form
import PromptChain.Proofs.Graph.Acyclic
import PromptChain.Proofs.Graph.Batches
import PromptChain.Proofs.Graph.Cycles
import PromptChain.Proofs.Graph.Depths
import PromptChain.Proofs.Graph.Leftovers
import PromptChain.Proofs.Graph.Search
import PromptChain.Proofs.Graph.Soundness
import PromptChain.Proofs.Graph.Stages
import PromptChain.Proofs.Graph.Sweep
import PromptChain.Proofs.Node.Fields
import PromptChain.Proofs.Run.Aftermath
import PromptChain.Proofs.Run.Board
import PromptChain.Proofs.Run.Calls
import PromptChain.Proofs.Run.Chronicle
import PromptChain.Proofs.Run.Consistency
import PromptChain.Proofs.Run.Deadlock
import PromptChain.Proofs.Run.Deeds
import PromptChain.Proofs.Run.Failures
import PromptChain.Proofs.Run.Interleaving
import PromptChain.Proofs.Run.Layers
import PromptChain.Proofs.Run.Listening
import PromptChain.Proofs.Run.Meaning
import PromptChain.Proofs.Run.Missing
import PromptChain.Proofs.Run.Nicknames
import PromptChain.Proofs.Run.Noting
import PromptChain.Proofs.Run.Rounds
import PromptChain.Proofs.Run.Schedules
import PromptChain.Proofs.Run.Scripts
import PromptChain.Proofs.Run.Sequential
import PromptChain.Proofs.Run.Step
import PromptChain.Proofs.Run.Telling
import PromptChain.Proofs.Run.Termination
import PromptChain.Proofs.Run.Turns
import PromptChain.Proofs.Run.Unused
import PromptChain.Proofs.Run.Values
import PromptChain.Proofs.Script.Cutting
import PromptChain.Proofs.Script.Forest
import PromptChain.Proofs.Script.Grammar
import PromptChain.Proofs.Script.Kinds
import PromptChain.Proofs.Script.Linking
import PromptChain.Proofs.Script.Loaded
import PromptChain.Proofs.Script.Passages
import PromptChain.Proofs.Script.Reading
import PromptChain.Proofs.Script.Relinking
import PromptChain.Proofs.Script.Restyling
import PromptChain.Proofs.Script.Stopping
import PromptChain.Proofs.Script.Strays
import PromptChain.Proofs.Service.Refusals
import PromptChain.Proofs.Service.Statuses
import PromptChain.Proofs.Template.Composing
import PromptChain.Proofs.Template.Occurrences
import PromptChain.Proofs.Template.Plain
import PromptChain.Proofs.Template.References
import PromptChain.Proofs.Template.Replacement
import PromptChain.Proofs.Template.Substitution
import PromptChain.Proofs.Template.Visibility
import PromptChain.Proofs.Text.Splitting
import PromptChain.Run.Basic
import PromptChain.Run.Clock
import PromptChain.Run.Config
import PromptChain.Run.Event
import PromptChain.Run.Execution
import PromptChain.Run.Fault
import PromptChain.Run.Flow
import PromptChain.Run.Models
import PromptChain.Run.Phase
import PromptChain.Run.Work
import PromptChain.Script.Basic
import PromptChain.Script.Entry
import PromptChain.Script.Fault
import PromptChain.Script.Header
import PromptChain.Script.Layout
import PromptChain.Script.Linked
import PromptChain.Script.Nesting
import PromptChain.Service.Basic
import PromptChain.Service.Request
import PromptChain.Service.Response
import PromptChain.Settings.Basic
import PromptChain.Settings.Variables
import PromptChain.Store
import PromptChain.Template.Context
import PromptChain.Template.Placeholder
import PromptChain.Template.Reference
import PromptChain.Text.Blank
import PromptChain.Text.Encoding
import PromptChain.Text.LetterCase
import PromptChain.Text.Lines
import PromptChain.Text.Ordered
import PromptChain.Text.Printable
import PromptChain.Text.Quoted
import PromptChain.Text.Ranges
import PromptChain.Text.Scan
import PromptChain.Text.Seconds
import PromptChain.Text.UpperCase
import PromptChain.Text.WordChar
