import ScriptHost.ArrayObject
import ScriptHost.Bindings
import ScriptHost.Pack.Layout
import ScriptHost.Pack.Grammar
import ScriptHost.Proofs.Double.ReadBack
import ScriptHost.Proofs.Text.Utf8
import ScriptHost.Service.Session
import ScriptHost.StringVariables
import ScriptHost.Variables
import ScriptHost.Proofs.Pack.Item
import ScriptHost.Proofs.Pack.RoundTrip
import ScriptHost.Proofs.Store.Forest
import ScriptHost.Proofs.Store.Write
import ScriptHost.Proofs.Store.Subscript
import ScriptHost.Proofs.Store.Change
import ScriptHost.Proofs.Store.Frame
import ScriptHost.Proofs.Variables.Reachable
import ScriptHost.Method.InPlace
import ScriptHost.Store.InPlace
import ScriptHost.Proofs.Method.InPlace
import ScriptHost.Proofs.Store.Operator
import ScriptHost.Proofs.Store.InPlace
import ScriptHost.Proofs.Variables.AssignAt
import ScriptHost.Proofs.Variables.Assign
import ScriptHost.Service.Shared
import ScriptHost.Proofs.Service.Log
import ScriptHost.Proofs.Service.Serial
import ScriptHost.Proofs.Service.Steps
import ScriptHost.Proofs.Service.Order
import ScriptHost.Proofs.Pack.Grammar
import ScriptHost.Proofs.Store.Look
import ScriptHost.Proofs.Variables.Look
import ScriptHost.Proofs.Variables.Frame
import ScriptHost.Proofs.StringVariables.History
import ScriptHost.Proofs.Text.Span
import ScriptHost.Proofs.StringVariables.Identity
import ScriptHost.Proofs.StringVariables.View
import ScriptHost.Service.Lifetime
import ScriptHost.Proofs.Service.Course
import ScriptHost.Proofs.Service.Passage
import ScriptHost.Proofs.Service.Lived
import ScriptHost.Proofs.Service.Futures
import ScriptHost.Proofs.Service.Answer
import ScriptHost.Proofs.Service.OneRecord
import ScriptHost.Service.Closing
import ScriptHost.Proofs.Service.Turns
import ScriptHost.Proofs.Service.Closing
import ScriptHost.Proofs.Service.Progress
import ScriptHost.Proofs.Service.NoneLost
import ScriptHost.Service.Interpreter
import ScriptHost.Proofs.Service.Suspension
import ScriptHost.Proofs.Service.Marshalling
import ScriptHost.Proofs.Service.Session
import ScriptHost.Proofs.Pack.Stream
import ScriptHost.Proofs.Pack.Bounds
import ScriptHost.Proofs.Pack.Truncation
import ScriptHost.Proofs.Service.Tally
import ScriptHost.Proofs.Service.Patience
import ScriptHost.Proofs.Service.Abandonment
import ScriptHost.Proofs.Pack.Normal
import ScriptHost.Proofs.Double.Order
import ScriptHost.Proofs.Comparison.Lawful
import ScriptHost.Proofs.Store.Comparison
import ScriptHost.Text.Damage
import ScriptHost.Text.Incoming
import ScriptHost.Proofs.Text.Character
import ScriptHost.Proofs.Text.Repair
import ScriptHost.Proofs.Text.Incoming
import ScriptHost.Proofs.Text.Locality
import ScriptHost.Proofs.Text.Buffer
import ScriptHost.Proofs.StringVariables.Span
import ScriptHost.Proofs.Variables.Span
import ScriptHost.Proofs.Text.CodePointOrder
import ScriptHost.Proofs.Text.Occurrence
import ScriptHost.Proofs.Text.ByteSearch
import ScriptHost.Proofs.Variables.Search
import ScriptHost.Proofs.Text.Utf16
import ScriptHost.Proofs.Variables.Units
import ScriptHost.Proofs.Text.Split
import ScriptHost.Proofs.Text.Words
import ScriptHost.Proofs.Variables.Split
import ScriptHost.Proofs.Operator.Difference
import ScriptHost.Proofs.Store.Difference
import ScriptHost.Proofs.Variables.Difference
import ScriptHost.SharedArray
import ScriptHost.SlotList
import ScriptHost.Proofs.SlotList.Contents
import ScriptHost.Proofs.SlotList.Kept
import ScriptHost.Proofs.SlotList.Positions
import ScriptHost.Proofs.Store.NewSlots
import ScriptHost.Proofs.SharedArray.Sound
import ScriptHost.Proofs.SharedArray.Step
import ScriptHost.Proofs.SharedArray.Lists
