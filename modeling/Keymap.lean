import Keymap.Key.Name
import Keymap.Key.Class
import Keymap.Key.Glyph
import Keymap.Modifier
import Keymap.Text.Alphabetic
import Keymap.Text.Blank
import Keymap.Text.DecimalDigit
import Keymap.Editor
import Keymap.Layer
import Keymap.Chord.Basic
import Keymap.Chord.Detector
import Keymap.HoldTimer
import Keymap.ModTap.Basic
import Keymap.ModTap.Stage
import Keymap.Memory
import Keymap.SentenceCase
import Keymap.CapsWord
import Keymap.WordPosition
import Keymap.VowelSwitch
import Keymap.DualKey
import Keymap.Expansion.Tables
import Keymap.Expansion.Fragment
import Keymap.Engine
import Keymap.Script.Schedule
import Keymap.Replay
import Keymap.Settings.Basic
import Keymap.Settings.Document
import Keymap.Toml.Reader
import Keymap.Toml.Value
import Keymap.Toml.Text
import Keymap.Toml.Number
import Keymap.Toml.Moment
import Keymap.Toml.Table
import Keymap.Toml.Expression
import Keymap.Toml.Document
import Keymap.Settings.File
import Keymap.CommandLine.Options
import Keymap.CommandLine.Listing
import Keymap.CommandLine.Session
import Keymap.Main
import Keymap.Proofs.Strokes
import Keymap.Proofs.Run
import Keymap.Proofs.ModTap.Turn
import Keymap.Proofs.ModTap.Settlement
import Keymap.Proofs.ModTap.Backlog
import Keymap.Proofs.ModTap.Levels
import Keymap.Proofs.ModTap.Lateness
import Keymap.Proofs.ModTap.Presses
import Keymap.Proofs.ModTap.LateRelease
import Keymap.Proofs.ModTap.Alone
import Keymap.Proofs.Chord.Feed
import Keymap.Proofs.Chord.Account
import Keymap.Proofs.Chord.Ticks
import Keymap.Proofs.Typist.Forward
import Keymap.Proofs.Host
import Keymap.Proofs.Reachable
import Keymap.Proofs.NothingStuck
import Keymap.Proofs.Ticking
import Keymap.Proofs.Term
import Keymap.Proofs.Rewriting
import Keymap.Proofs.Chord.Places
import Keymap.Proofs.Order
import Keymap.Proofs.Chord.Conservation
import Keymap.Proofs.Chord.Keys
import Keymap.Proofs.HeldModifiers
import Keymap.Proofs.Capitals
import Keymap.Proofs.Typist.Trackers
import Keymap.Proofs.Typist.Steps
import Keymap.Proofs.Editing
import Keymap.Proofs.ToldModifiers
import Keymap.Proofs.SentenceEnds
import Keymap.Proofs.WordEnds
import Keymap.Proofs.UpperCase
import Keymap.Proofs.Shortcuts
import Keymap.Proofs.Lights
import Keymap.Proofs.Remembering
import Keymap.Proofs.SentKeys
import Keymap.Proofs.Names
import Keymap.Proofs.Attempts
import Keymap.Proofs.Script.Parts
import Keymap.Proofs.Script.Timetable
import Keymap.Proofs.Script.Tokens
import Keymap.Proofs.Script.Printing
import Keymap.Proofs.Script.Joining
import Keymap.Proofs.Script.Releases
import Keymap.Proofs.Script.Snapshots
import Keymap.Proofs.Script.Prefixes
import Keymap.Proofs.Delay
import Keymap.Proofs.Trace
import Keymap.Proofs.Typist.Unseen
import Keymap.Proofs.Later
import Keymap.Proofs.Layers
import Keymap.Proofs.Settings.Check
import Keymap.Proofs.Chord.Reorder
import Keymap.Proofs.SplitLine
import Keymap.Proofs.Pieces
import Keymap.Proofs.Typist.Sentence
import Keymap.Proofs.Misses
import Keymap.Proofs.DualKeys
import Keymap.Proofs.Settings.Documents
import Keymap.Proofs.Primings
import Keymap.Proofs.Timers
import Keymap.Proofs.Fragments
import Keymap.Proofs.ModTap.Procedures
import Keymap.Proofs.Records
import Keymap.Proofs.Buffer
