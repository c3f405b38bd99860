import PtpMgmt.Wire.Octets
import PtpMgmt.Wire.Cursor
import PtpMgmt.Wire.RoundTrip
import PtpMgmt.Wire.Bounds
import PtpMgmt.Wire.Errors
import PtpMgmt.Types
import PtpMgmt.Cfg
import PtpMgmt.MngIds
import PtpMgmt.MsgProc.Basic
import PtpMgmt.MsgProc.Proofs
import PtpMgmt.MngTlvs.Basic
import PtpMgmt.MngTlvs.Codec
import PtpMgmt.MngTlvs.Spec
import PtpMgmt.MngTlvs.Proofs
import PtpMgmt.MngTlvs.Dispatch
import PtpMgmt.MngTlvs.Counts
import PtpMgmt.MngTlvs.Wrap
import PtpMgmt.MngTlvs.WrapProofs
import PtpMgmt.SigTlvs
import PtpMgmt.MngTlvs.Errors
import PtpMgmt.Message.Basic
import PtpMgmt.Message.Build
import PtpMgmt.Message.Run
import PtpMgmt.Message.BuildProofs
import PtpMgmt.Message.Bounds
import PtpMgmt.Message.Length
import PtpMgmt.Message.Written
import PtpMgmt.Message.ParseAuth
import PtpMgmt.Message.ParseSig
import PtpMgmt.Message.Parse
import PtpMgmt.Message.ParseProofs
import PtpMgmt.Message.Reads
import PtpMgmt.Message.Authentic
import PtpMgmt.Message.Signaling
import PtpMgmt.Message.Framing
import PtpMgmt.Message.SigAuth
import PtpMgmt.Message.Replies
import PtpMgmt.Message.History
import PtpMgmt.Message.Fresh
import PtpMgmt.Message.Deleted
import PtpMgmt.Message.Ignored
import PtpMgmt.Pmc.Receive
import PtpMgmt.Pmc.Policy
import PtpMgmt.Message.Allowed
import PtpMgmt.ClkMgr.TimeBase
import PtpMgmt.ClkMgr.Accounting
import PtpMgmt.ClkMgr.StatusWait
import PtpMgmt.ClkMgr.Range
import PtpMgmt.ClkMgr.Proxy
import PtpMgmt.ClkMgr.Sessions
import PtpMgmt.ClkMgr.Config
import PtpMgmt.ClkMgr.Messages
import PtpMgmt.ClkMgr.ConnectReply
import PtpMgmt.ClkMgr.Listener
import PtpMgmt.Json.Parser
import PtpMgmt.Json.Progress
import PtpMgmt.Json.Grammar
import PtpMgmt.Json.Print
import PtpMgmt.Json.Escape
import PtpMgmt.Json.RoundTrip
import PtpMgmt.Json.Mirror
import PtpMgmt.Json.Cuts
import PtpMgmt.Json.Mended
import PtpMgmt.Message.Names
import PtpMgmt.Json.Numbers
import PtpMgmt.Json.NumScan
import PtpMgmt.Json.Access
import PtpMgmt.Json.Integers
import PtpMgmt.Json.Fields
import PtpMgmt.Json.ToJson
import PtpMgmt.Json.FromJson
import PtpMgmt.Json.NewTlv
import PtpMgmt.Json.Reuse
import PtpMgmt.Json.Steps
import PtpMgmt.Json.Exact
import PtpMgmt.Json.Times
import PtpMgmt.Json.Layout
import PtpMgmt.Json.Docs
import PtpMgmt.Json.Accepted
import PtpMgmt.Json.Rejected
import PtpMgmt.Json.Members
import PtpMgmt.Json.Texts
import PtpMgmt.Json.ReadBack
import PtpMgmt.Json.SetTrip
import PtpMgmt.TimestampArith
import PtpMgmt.ClkMgr.SessionIds
import PtpMgmt.ClkMgr.SyncInterval
import PtpMgmt.Base64
import PtpMgmt.HexText
import PtpMgmt.BinBuffer
import PtpMgmt.Json.WellFormed
import PtpMgmt.Cfg.Scan
import PtpMgmt.Cfg.Lines
import PtpMgmt.Cfg.Sections
import PtpMgmt.Cfg.Fallback
import PtpMgmt.Cfg.ReadSa
import PtpMgmt.Cfg.Inside
import PtpMgmt.Cfg.Associations
import PtpMgmt.ClkMgr.Loading
import PtpMgmt.TlvMem.Pool
import PtpMgmt.Message.CInterface
import PtpMgmt.Message.Lookup
import PtpMgmt.Opt.Table
import PtpMgmt.Pmc.Keys
import PtpMgmt.Pmc.Builders
import PtpMgmt.MsgProc.Signed
import PtpMgmt.MngTlvs.Sizes
import PtpMgmt.Message.CParams
import PtpMgmt.Cfg.Handles
import PtpMgmt.Pmc.Inside
import PtpMgmt.Pmc.Unset
import PtpMgmt.Pmc.Values
import PtpMgmt.TlvMem.Copy
import PtpMgmt.Pmc.Process
import PtpMgmt.Runs
import PtpMgmt.ClkMgr.Delivery
import PtpMgmt.ClkMgr.EventMessages
import PtpMgmt.ClkMgr.CallSections
import PtpMgmt.ClkMgr.Delivered
import PtpMgmt.ClkMgr.Published
import PtpMgmt.ClkMgr.Shown
import PtpMgmt.Message.Requests
import PtpMgmt.Message.Answers
import PtpMgmt.Message.SigCodecs
import PtpMgmt.Message.SigTrip
import PtpMgmt.Handles
import PtpMgmt.Sock.Basic
import PtpMgmt.Sock.Transfer
import PtpMgmt.Sock.Lifecycle
import PtpMgmt.Sock.Held
import PtpMgmt.Sock.Heard
import PtpMgmt.ClkMgr.PtpThread
import PtpMgmt.ClkMgr.PtpSteps
import PtpMgmt.ClkMgr.PtpRuns
import PtpMgmt.ClkMgr.PtpHeard
import PtpMgmt.ClkMgr.ChronyThread
import PtpMgmt.ClkMgr.ChronyRuns
import PtpMgmt.Pmc.Shell
import PtpMgmt.Pmc.Commands
import PtpMgmt.Pmc.Reach
