import Bbd.Lib.Runs
import Bbd.Lib.FirstMatch
import Bbd.Lib.KeyedTable
import Bbd.Lib.Work
import Bbd.Lib.ByteOrder
import Bbd.Lib.Inbound
import Bbd.Lib.Board
import Bbd.Lib.Assignments
import Bbd.Lib.Atoi
import Bbd.Lib.Matcher
import Bbd.Lib.Dialogue
import Bbd.Lib.CString
import Bbd.Lib.SqlLexer
import Bbd.Lib.SqlWeights
import Bbd.Lib.SqlLiterals
import Bbd.Schedule
import Bbd.Client.Watering
import Bbd.Client.ValveMap
import Bbd.Client.Actuation
import Bbd.Client.Interleaving
import Bbd.Client.Refinement
import Bbd.Server.Marking
import Bbd.Server.Isolation
import Bbd.Server.Listings
import Bbd.Server.Polling
import Bbd.Server.Announcement
import Bbd.Server.Deactivation
import Bbd.Server.Dispatch
import Bbd.Server.LifeCycle
import Bbd.Server.Sizes
import Bbd.Server.DayRange
import Bbd.Modem.Reception
import Bbd.Modem.AtCommands
import Bbd.Modem.Registration
import Bbd.Modem.RestContent
import Bbd.Modem.WideTextFinder
import Bbd.Modem.HttpAction
import Bbd.Modem.InetGsm
import Bbd.Modem.HttpSessions
import Bbd.Modem.NetworkStatus
import Bbd.Modem.ReadSms
import Bbd.Web.Views
import Bbd.Web.Injection
import Bbd.Web.Stored
import Bbd.Web.Forms
import Bbd.System.Deactivated
import Bbd.System.Replies
import Bbd.System.Buffers
import Bbd.System.Activation
import Bbd.System.Network
import Bbd.System.Startup
import Bbd.System.NewSchedules
import Bbd.System.Requested
