import FlexivControl.Core.Interpolation
import FlexivControl.Filter.Overshoot
import FlexivControl.Filter.Steps
import FlexivControl.Library.Monitor
import FlexivControl.Library.Pool
import FlexivControl.Loop.Anchoring
import FlexivControl.Loop.Contact
import FlexivControl.Loop.Holding
import FlexivControl.Loop.Publishing
import FlexivControl.Loop.SpeedCap
import FlexivControl.Loop.Ticks
import FlexivControl.Realtime.RateCap
import FlexivControl.Robot.Footprint
import FlexivControl.Robot.HomeStop
import FlexivControl.Robot.Preflight
import FlexivControl.Robot.Preview
import FlexivControl.Robot.Rules
import FlexivControl.Robot.Untouched
import FlexivControl.Server.Authority
import FlexivControl.Server.FreshSession
import FlexivControl.Server.Handlers
import FlexivControl.Server.HostExclusion
import FlexivControl.Server.Interleaving
import FlexivControl.Server.Lease
import FlexivControl.Server.LeaseHolding
import FlexivControl.Server.Orphan
import FlexivControl.Server.Writers
import FlexivControl.Wire.Attribution
import FlexivControl.Wire.Heartbeat
import FlexivControl.Wire.Client
import FlexivControl.Wire.Requests
import FlexivControl.Robot.Modes
import FlexivControl.Library.Lines
import FlexivControl.Realtime.Agreement
import FlexivControl.Realtime.Framing
import FlexivControl.Realtime.ReplyIds
import FlexivControl.Realtime.SeedHold
import FlexivControl.Filter.Arrival
import FlexivControl.Loop.StartHold
import FlexivControl.Loop.StopRace
import FlexivControl.Filter.AngularLimit
import FlexivControl.Filter.NonFinite
import FlexivControl.Robot.Allowance
import FlexivControl.Robot.DeferredClose
import FlexivControl.Robot.StopRequests
import FlexivControl.Robot.StopDuringChunk
import FlexivControl.Loop.JointTargets
import FlexivControl.Loop.GripperSlot
import FlexivControl.Viz.Gate
import FlexivControl.Robot.JointSpeed
import FlexivControl.Filter.RigidMotion
import FlexivControl.Server.LeaseQueries
import FlexivControl.Teleop.SpaceMouse
import FlexivControl.Backend.ForceControl
import FlexivControl.Filter.Contract
import FlexivControl.Filter.MatToQuat
import FlexivControl.Viz.Mimics
import FlexivControl.Config.Rendering
import FlexivControl.Config.Loading
import FlexivControl.Robot.LiftPath
import FlexivControl.Robot.FirmwareGuard
import FlexivControl.Backend.Fake
import FlexivControl.Learning.DeltaActions
import FlexivControl.Learning.EpisodeOnFake
import FlexivControl.Library.Pacing
import FlexivControl.Loop.InferAhead
import FlexivControl.Teleop.Drive
import FlexivControl.Teleop.Speed
