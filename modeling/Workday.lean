import Workday.Cache.Session
import Workday.Main
import Workday.Program
import Workday.Query
import Workday.Service
import Workday.Proofs.WorkingDay.Count
import Workday.Proofs.WorkingDay.Comparison
import Workday.Proofs.WorkingDay.Week
import Workday.Proofs.Cache.History
import Workday.Proofs.Cache.Room.Moves
import Workday.Proofs.Cache.Room.SingleFlight
import Workday.Proofs.Cache.Room.Invalidation
import Workday.Proofs.Cache.Series
import Workday.Proofs.Cache.Room.Trace
import Workday.Proofs.Cache.Room.Batch
import Workday.Proofs.Cache.Room.Failure
import Workday.Proofs.Calculator.Snapshot
import Workday.Proofs.Calculator.Herd
import Workday.Proofs.Calculator.OwnWeekdays
import Workday.Proofs.Calculator.Deadline
import Workday.Proofs.Feed.RoundTrip
import Workday.Proofs.Feed.Fault
import Workday.Proofs.Calculator.Traceless
import Workday.Proofs.FileTree.Paths
import Workday.Proofs.Settings.Layers
import Workday.Proofs.Url.Layout
import Workday.Proofs.Url.Path
import Workday.Proofs.Url.Trimming
import Workday.Proofs.Url.Blank
import Workday.Proofs.Client.Endpoint
import Workday.Proofs.Cache.Standstill
import Workday.Proofs.Calculator.Pace
import Workday.Proofs.Client.Reach
import Workday.Proofs.Client.Refinement
import Workday.Proofs.Client.Classification
import Workday.Proofs.Program.Answer
import Workday.Proofs.Program.Composition
import Workday.Proofs.Program.Region
import Workday.Proofs.Program.Abort
import Workday.Proofs.Client.Connection
import Workday.Proofs.Client.Probe
import Workday.Proofs.Settings.Merging
import Workday.Proofs.Settings.Writing
import Workday.Proofs.Text.LowerCase
import Workday.Proofs.Text.Blank
import Workday.Proofs.Region
import Workday.Proofs.Calendar
import Workday.Proofs.Cache.Thrift
import Workday.Proofs.Cache.Room.Turns
import Workday.Proofs.Calculator.Outage
import Workday.Proofs.Client.Silence
