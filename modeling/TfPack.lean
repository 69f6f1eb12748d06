import TfPack.AutoRestart.Parked
import TfPack.AutoRestart.BothAlarms
import TfPack.AutoRestart.AdminState
import TfPack.AutoRestart.Carried
import TfPack.AutoRestart.ClientMessage
import TfPack.AutoRestart.OffTime
import TfPack.AutoRestart.ResetLimit
import TfPack.AutoRestart.Validators
import TfPack.AutoRestart.TestBits
import TfPack.AutoRestart.SpeedTest
import TfPack.AutoRestart.SpeedRange
import TfPack.AutoRestart.StatusText
import TfPack.Clish.Parameters
import TfPack.Clish.IgmpNumbers
import TfPack.Clish.SnmpV3
import TfPack.Clish.LldpPorts
import TfPack.Clish.Users
import TfPack.DeviceMonitor.ClientApp
import TfPack.DeviceMonitor.ConvertIp
import TfPack.DeviceMonitor.Ipif
import TfPack.DeviceMonitor.Isolation
import TfPack.DeviceMonitor.NetBuffer
import TfPack.Hwsys.DecimalText
import TfPack.Hwsys.SetGet
import TfPack.Hwsys.ShtTemperature
import TfPack.Hwsys.SlotSymmetry
import TfPack.Hwsys.TlvBounds
import TfPack.Hwsys.VoltageAlarms
import TfPack.Hwsys.Watchdog
import TfPack.Igmp.Config
import TfPack.Mac.Tables
import TfPack.Mstpd.Exchange
import TfPack.Mstpd.Rest
import TfPack.Mstpd.TopologyChange
import TfPack.Mstpd.Transmission
import TfPack.RealtekPoe.Accepted
import TfPack.RealtekPoe.CommandIds
import TfPack.RealtekPoe.Sendframe
import TfPack.RealtekPoe.Backlog
import TfPack.RealtekPoe.Mcu
import TfPack.RealtekPoe.Retransmit
import TfPack.RealtekPoe.Reload
import TfPack.RealtekPoe.Resync
import TfPack.RealtekPoe.Stream
import TfPack.Rsyslog.Rules
import TfPack.Rsyslog.Remote
import TfPack.Snmp.Agreement
import TfPack.Snmp.SetAnswers
import TfPack.Snmp.WalkComplete
import TfPack.Snmp.Readings
import TfPack.Sntp.Servers
import TfPack.Vlan.AddDelete
import TfPack.Vlan.Edit
import TfPack.Mstpd.Wire
