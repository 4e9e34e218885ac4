import DrmSurface.SortedMap
import DrmSurface.Text.Blank
import DrmSurface.Text.Utf8
import DrmSurface.Geometry
import DrmSurface.Engine.Basic
import DrmSurface.Buffer.Id
import DrmSurface.Device.Errno
import DrmSurface.Device.Request
import DrmSurface.Error
import DrmSurface.Backend
import DrmSurface.Log.Level
import DrmSurface.Log.Notice
import DrmSurface.Buffer.Surface
import DrmSurface.Call
import DrmSurface.Prog
import DrmSurface.Buffer.Pool
import DrmSurface.Device.Access
import DrmSurface.Driver.Attempt
import DrmSurface.Driver.Operation
import DrmSurface.Driver.Vmwgfx
import DrmSurface.Driver.Rockchip
import DrmSurface.Driver.Basic
import DrmSurface.Registry
import DrmSurface.Probe.Arguments
import DrmSurface.Probe.Program
import DrmSurface.Main
import DrmSurface.Proofs.Ensures
import DrmSurface.Proofs.History
import DrmSurface.Proofs.Pool
import DrmSurface.Proofs.Rockchip.Change
import DrmSurface.Proofs.Rockchip.Calls
import DrmSurface.Proofs.Resource
import DrmSurface.Proofs.Rockchip.Balance
import DrmSurface.Proofs.Agreement
import DrmSurface.Proofs.Rockchip.Isolation
import DrmSurface.Proofs.Layout
import DrmSurface.Proofs.Geometry
import DrmSurface.Proofs.Rockchip.Guard
import DrmSurface.Proofs.Rockchip.Checked
import DrmSurface.Proofs.Rockchip.Bounds
import DrmSurface.Proofs.Turnover
import DrmSurface.Proofs.Ids
import DrmSurface.Proofs.Rockchip.Prepared
import DrmSurface.Proofs.Handles
import DrmSurface.Proofs.Rockchip.Handles
import DrmSurface.Proofs.Effect
import DrmSurface.Proofs.Refusal
import DrmSurface.Proofs.Rockchip.Creation
import DrmSurface.Proofs.Rockchip.Refusal
import DrmSurface.Proofs.Vmwgfx.Refusal
import DrmSurface.Proofs.Failure
import DrmSurface.Proofs.LiveCount
import DrmSurface.Proofs.Frame
import DrmSurface.Proofs.Held
import DrmSurface.Proofs.Vmwgfx.Balance
import DrmSurface.Proofs.Mapped
import DrmSurface.Proofs.Mapping
import DrmSurface.Proofs.Rockchip.RoundTrip
import DrmSurface.Proofs.Store
import DrmSurface.Proofs.Vmwgfx.Store
import DrmSurface.Proofs.Rockchip.Store
import DrmSurface.Proofs.OneStore
import DrmSurface.Proofs.Capabilities
import DrmSurface.Proofs.Rockchip.View
import DrmSurface.Proofs.Fault
import DrmSurface.Proofs.Rockchip.Fault
import DrmSurface.Proofs.Vmwgfx.Fault
import DrmSurface.Proofs.Notices
import DrmSurface.Proofs.Exact
import DrmSurface.Proofs.Rockchip.Release
import DrmSurface.Proofs.Vmwgfx.Allocation
import DrmSurface.Proofs.Rockchip.Import
import DrmSurface.Proofs.Rockchip.Whole
import DrmSurface.Proofs.Usage
import DrmSurface.Proofs.Probe
import DrmSurface.Proofs.Course
import DrmSurface.Proofs.Pattern
import DrmSurface.Proofs.Text
import DrmSurface.Proofs.Fourcc
import DrmSurface.Proofs.Options
import DrmSurface.Proofs.Utf8
import DrmSurface.Proofs.Registry
import DrmSurface.Proofs.DriverName
import DrmSurface.Proofs.Rockchip.Stop
import DrmSurface.Proofs.Stopped
