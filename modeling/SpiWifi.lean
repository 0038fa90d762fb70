import SpiWifi.Bench.BusTrace
import SpiWifi.Bench.Sockets
import SpiWifi.Proofs.Bus.Bounds
import SpiWifi.Proofs.Bus.Detachment
import SpiWifi.Proofs.Bus.FailedLook
import SpiWifi.Proofs.Bus.FirstCause
import SpiWifi.Proofs.Bus.Handshake
import SpiWifi.Proofs.Bus.ReadThrough
import SpiWifi.Proofs.Device.Reception
import SpiWifi.Proofs.Device.Responses
import SpiWifi.Proofs.Events.Chronicle
import SpiWifi.Proofs.Net.Lifecycle
import SpiWifi.Proofs.Net.Listeners
import SpiWifi.Proofs.Wire.ReadLength
import SpiWifi.Proofs.Wlan.BringUp
import SpiWifi.Proofs.Wlan.LinkBacking
import SpiWifi.Proofs.Wlan.Pacing
import SpiWifi.Wlan.Station.Join
import SpiWifi.Wlan.Station.Provision
import SpiWifi.Wlan.Station.Reach
import SpiWifi.Proofs.Wire.WriteHeader
import SpiWifi.Proofs.Wlan.LateLink
import SpiWifi.Proofs.Wlan.Course
import SpiWifi.Proofs.Wlan.Provisioning
import SpiWifi.Proofs.Wlan.LinkDrop
import SpiWifi.Proofs.Wlan.SmartConfig
import SpiWifi.Proofs.Wlan.WaitSchedule
import SpiWifi.Proofs.Wlan.Pinging
import SpiWifi.Proofs.Wlan.Reconfiguring
import SpiWifi.Proofs.Wlan.Rejections
import SpiWifi.Proofs.Net.Picking
import SpiWifi.Proofs.Wlan.Scanning
import SpiWifi.Proofs.Net.Broadcasting
import SpiWifi.Proofs.Wlan.RecordLayout
import SpiWifi.Proofs.Bus.EdgeHistory
