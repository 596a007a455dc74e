import TorCore.Wire
import TorCore.Relay.Resolved
import TorCore.Relay.ResolvedGrammar
import TorCore.Dns.Resolve
import TorCore.Relay.RelayEarly
import TorCore.Relay.ClientAnswer
import TorCore.Sendme.Tag
import TorCore.Sendme.Window
import TorCore.Sendme.Randomness
import TorCore.Relay.PackageInbuf
import TorCore.Relay.CellQueue
import TorCore.Relay.Backpressure
import TorCore.Microdesc.Rebuild
import TorCore.Microdesc.Layout
import TorCore.Microdesc.AddList
import TorCore.Dns.Discipline
import TorCore.Dns.Removal
import TorCore.Dns.Wildcard
import TorCore.Client.PathBias
import TorCore.Relay.ResumeReading
import TorCore.Relay.PackageSim
import TorCore.Relay.Receive
import TorCore.Relay.WindowSim
import TorCore.Relay.HopSafety
