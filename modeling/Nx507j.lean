import Nx507j.Agps.Acknowledged
import Nx507j.Agps.Addresses
import Nx507j.Agps.CloseStatus
import Nx507j.Agps.Closes
import Nx507j.Agps.Comeback
import Nx507j.Agps.Connection
import Nx507j.Agps.NotifyAll
import Nx507j.Agps.RetryBudget
import Nx507j.Agps.Routing
import Nx507j.Agps.Store
import Nx507j.Core.DualContext
import Nx507j.Core.Hexcode
import Nx507j.Dmn.Launch
import Nx507j.Dmn.Received
import Nx507j.Doze.DozeService
import Nx507j.Eng.AidingData
import Nx507j.Eng.Balance
import Nx507j.Eng.Certificates
import Nx507j.Eng.Checksum
import Nx507j.Eng.Configuration
import Nx507j.Eng.FixFilter
import Nx507j.Eng.GpsConf
import Nx507j.Eng.HalModes
import Nx507j.Eng.Measurement
import Nx507j.Eng.Mute
import Nx507j.Eng.NmeaFields
import Nx507j.Eng.NmeaLength
import Nx507j.Eng.NmeaStream
import Nx507j.Eng.NmeaSv
import Nx507j.Eng.RawData
import Nx507j.Eng.ReadConfig
import Nx507j.Eng.Restart
import Nx507j.Eng.ServerRestart
import Nx507j.Eng.SetServer
import Nx507j.Eng.UlpProxy
import Nx507j.Eng.UserAgent
import Nx507j.Eng.XtraServers
import Nx507j.Light.Present
import Nx507j.Ni.Consent
import Nx507j.Ni.Ignored
import Nx507j.Ni.Outstanding
import Nx507j.Ni.Payload
import Nx507j.Ni.Timeout
import Nx507j.Timer.Deadline
import Nx507j.Timer.Due
import Nx507j.Timer.Kernel
import Nx507j.Timer.SharedLock
import Nx507j.Timer.Soonest
import Nx507j.Timer.Wrapper
import Nx507j.Utils.ConfLoaders
import Nx507j.Utils.ConfNumbers
import Nx507j.Utils.HeapBalance
import Nx507j.Utils.LocThread
import Nx507j.Utils.MiscUtils
import Nx507j.Utils.SearchResult
import Nx507j.Utils.TaskWorker
import Nx507j.Utils.Wakeup
import Nx507j.Wcnss.Qmi
