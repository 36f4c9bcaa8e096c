import CardEffects.Effect.Registry
import CardEffects.Effect.Script
import CardEffects.Json.Basic
import CardEffects.Json.Reader
import CardEffects.Json.Writer
import CardEffects.Lang.Context
import CardEffects.Lang.Environment
import CardEffects.Lang.Evaluate
import CardEffects.Lang.Evaluator
import CardEffects.Lang.Event
import CardEffects.Lang.Expr
import CardEffects.Lang.Failure
import CardEffects.Lang.Method
import CardEffects.Lang.Operation
import CardEffects.Lang.Operator
import CardEffects.Lang.Run
import CardEffects.Lang.Token
import CardEffects.Lang.Value
import CardEffects.Match.Card
import CardEffects.Match.Config
import CardEffects.Match.Player
import CardEffects.Match.SeatMap
import CardEffects.Match.State
import CardEffects.Match.Zone
import CardEffects.Number.Dyadic
import CardEffects.Number.Numeral
import CardEffects.Number.Shortest
import CardEffects.Proofs.Blame
import CardEffects.Proofs.ByteOrder
import CardEffects.Proofs.CallOrder
import CardEffects.Proofs.Confinement
import CardEffects.Proofs.Conservation
import CardEffects.Proofs.Cycling
import CardEffects.Proofs.DepthGuard
import CardEffects.Proofs.Doubles
import CardEffects.Proofs.Equality
import CardEffects.Proofs.FailedCalls
import CardEffects.Proofs.Histories
import CardEffects.Proofs.Independence
import CardEffects.Proofs.Invariants
import CardEffects.Proofs.Isolation
import CardEffects.Proofs.Kinds
import CardEffects.Proofs.Layout
import CardEffects.Proofs.Methods
import CardEffects.Proofs.NumberedZones
import CardEffects.Proofs.Parentheses
import CardEffects.Proofs.Provenance
import CardEffects.Proofs.Reachable
import CardEffects.Proofs.Registrations
import CardEffects.Proofs.Renaming
import CardEffects.Proofs.Replay
import CardEffects.Proofs.Requests
import CardEffects.Proofs.Rewording
import CardEffects.Proofs.Runs
import CardEffects.Proofs.SeatMaps
import CardEffects.Proofs.Seating
import CardEffects.Proofs.Sequences
import CardEffects.Proofs.Shuffling
import CardEffects.Proofs.Spelling
import CardEffects.Proofs.Steps
import CardEffects.Proofs.StoredForms
import CardEffects.Proofs.TwoRuns
import CardEffects.Proofs.Variables
import CardEffects.Proofs.ZoneNames
import CardEffects.Random.Generator
import CardEffects.Random.Keystream
import CardEffects.Stored.Match
import CardEffects.Stored.Script
import CardEffects.Stored.Syntax
import CardEffects.Stored.Value
import CardEffects.Stored.Zones
import CardEffects.Text.Blank
