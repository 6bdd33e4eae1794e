import TurtleFleet.Grid
import TurtleFleet.Text.Reader
import TurtleFleet.Json.Reader
import TurtleFleet.Json.Printer
import TurtleFleet.Inventory
import TurtleFleet.FuelTank
import TurtleFleet.Animation.Player
import TurtleFleet.WorkBudget
import TurtleFleet.Turtle
import TurtleFleet.World.Memory
import TurtleFleet.Command.Storage
import TurtleFleet.Fleet.Basic
import TurtleFleet.Fleet.Tick
import TurtleFleet.Stream.Client
import TurtleFleet.Wire.Command
import TurtleFleet.Wire.Settings
import TurtleFleet.Rehearsal.World
import TurtleFleet.Rehearsal.Monitor
import TurtleFleet.Rehearsal.Script
import TurtleFleet.Rehearsal.Reader
import TurtleFleet.Toml.Document
import TurtleFleet.Main
import TurtleFleet.Proofs.Notices
import TurtleFleet.Proofs.Course
import TurtleFleet.Proofs.Submission
import TurtleFleet.Proofs.Visit
import TurtleFleet.Proofs.Turns
import TurtleFleet.Proofs.Fate
import TurtleFleet.Proofs.Responses
import TurtleFleet.Proofs.Tame
import TurtleFleet.Proofs.Schedule
import TurtleFleet.Proofs.Pace
import TurtleFleet.Proofs.Steady
import TurtleFleet.Proofs.Entities
import TurtleFleet.Proofs.Relocation
import TurtleFleet.Proofs.Housing
import TurtleFleet.Proofs.Scheduling
import TurtleFleet.Proofs.Mirror
import TurtleFleet.Proofs.Solo
import TurtleFleet.Proofs.Cursor
import TurtleFleet.Proofs.Deferral
import TurtleFleet.Proofs.Fairness
import TurtleFleet.Proofs.Spending
import TurtleFleet.Proofs.Stock
import TurtleFleet.Proofs.Displacement
import TurtleFleet.Proofs.Endings
import TurtleFleet.Proofs.Conservation
import TurtleFleet.Proofs.Atomicity
import TurtleFleet.Proofs.Wiring
import TurtleFleet.Proofs.Rewiring
import TurtleFleet.Proofs.Peripherals
import TurtleFleet.Proofs.Footing
import TurtleFleet.Proofs.Ground
import TurtleFleet.Proofs.Career
import TurtleFleet.Proofs.Protection
import TurtleFleet.Proofs.Reckoning
import TurtleFleet.Proofs.Fuelling
import TurtleFleet.Proofs.Handles
import TurtleFleet.Proofs.Receipts
import TurtleFleet.Proofs.Broadcast
import TurtleFleet.Proofs.Chronicle
import TurtleFleet.Proofs.Faultless
import TurtleFleet.Proofs.Clients
import TurtleFleet.Proofs.Backlog
import TurtleFleet.Proofs.Exchange
import TurtleFleet.Proofs.Workers
import TurtleFleet.Proofs.Transfer
import TurtleFleet.Proofs.Consumption
import TurtleFleet.Proofs.Standstill
import TurtleFleet.Proofs.Sanitizing
import TurtleFleet.Proofs.Refuelling
import TurtleFleet.Proofs.Handover
import TurtleFleet.Proofs.Traits
import TurtleFleet.Proofs.Latches
import TurtleFleet.Proofs.Breakdown
import TurtleFleet.Proofs.Recast
import TurtleFleet.Proofs.Containment
import TurtleFleet.Proofs.Passage
import TurtleFleet.Proofs.Filling
import TurtleFleet.Proofs.Handling
import TurtleFleet.Proofs.Reach
import TurtleFleet.Proofs.Report
import TurtleFleet.Proofs.ByteOrder
import TurtleFleet.Proofs.Rounds
import TurtleFleet.Proofs.Statistics
import TurtleFleet.Proofs.Bounds
import TurtleFleet.Proofs.Seclusion
import TurtleFleet.Proofs.Restoration
import TurtleFleet.Proofs.Tidings
import TurtleFleet.Proofs.Overfull
import TurtleFleet.Proofs.Spelling
import TurtleFleet.Proofs.Overriding
import TurtleFleet.Proofs.Interleaving
import TurtleFleet.Proofs.Playback
import TurtleFleet.Proofs.Columns
