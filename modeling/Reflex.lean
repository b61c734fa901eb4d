import Reflex.Json.Reader
import Reflex.Main
import Reflex.Proofs.Evaluation
import Reflex.Proofs.Changes
import Reflex.Proofs.Laws
import Reflex.Proofs.Operations
import Reflex.Proofs.Moves
import Reflex.Proofs.Moments
import Reflex.Proofs.Agenda
import Reflex.Proofs.Following
import Reflex.Proofs.Sessions
import Reflex.Proofs.History
import Reflex.Proofs.Courses
import Reflex.Proofs.Seconds
import Reflex.Proofs.Timers
import Reflex.Proofs.Firing
import Reflex.Proofs.Variables
import Reflex.Proofs.Bookings
import Reflex.Proofs.Lifetimes
import Reflex.Proofs.Overriding
import Reflex.Proofs.Cancelling
import Reflex.Proofs.Likeness
import Reflex.Proofs.Splitting
import Reflex.Proofs.CatchUp
import Reflex.Proofs.Passes
import Reflex.Proofs.Returning
import Reflex.Proofs.Declaring
import Reflex.Proofs.Depth
import Reflex.Proofs.Daemon
import Reflex.Proofs.Alterations
import Reflex.Proofs.Evolution
import Reflex.Proofs.Isolation
import Reflex.Proofs.Suppression
import Reflex.Proofs.Subscriptions
import Reflex.Proofs.ChangeLog
import Reflex.Proofs.Reentry
import Reflex.Proofs.Wiring
import Reflex.Proofs.Setup
import Reflex.Proofs.Leftovers
import Reflex.Proofs.Roster
import Reflex.Proofs.Drafting
import Reflex.Proofs.Manners
import Reflex.Proofs.Duties
import Reflex.Proofs.Daily
import Reflex.Proofs.Calendar
import Reflex.Proofs.Repeats
import Reflex.Proofs.Periodic
import Reflex.Proofs.Blindness
import Reflex.Proofs.Devices
import Reflex.Proofs.Mishaps
import Reflex.Proofs.Removing
import Reflex.Proofs.Adjustments
import Reflex.Proofs.Recording
import Reflex.Proofs.Groups
import Reflex.Proofs.Fallbacks
import Reflex.Proofs.Merging
import Reflex.Proofs.Registering
import Reflex.Proofs.Deeds
import Reflex.Proofs.Stimulus
import Reflex.Proofs.Contributions
import Reflex.Proofs.Invoking
import Reflex.Proofs.Phrases
import Reflex.Proofs.Expressions
import Reflex.Proofs.Gaps
import Reflex.Proofs.TimesOfDay
import Reflex.Proofs.DaySets
import Reflex.Proofs.Equality
import Reflex.Proofs.Tables
import Reflex.Proofs.Verdicts
import Reflex.Proofs.Integers
import Reflex.Proofs.Rounding
import Reflex.Proofs.Schema
import Reflex.Proofs.Loading
import Reflex.Proofs.Additions
