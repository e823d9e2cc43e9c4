import BibaVpn.Lib.Lts
import BibaVpn.Lib.Machine
import BibaVpn.Lib.Table
import BibaVpn.Lib.Tasks
import BibaVpn.Lib.Text
import BibaVpn.Lib.Fallible
import BibaVpn.Lib.Json
import BibaVpn.Lib.Slice
import BibaVpn.Lib.Codec
import BibaVpn.Lib.Strikes
import BibaVpn.Lib.Vectors
import BibaVpn.Lib.LineReader
import BibaVpn.Lib.NoCase
import BibaVpn.Lib.Calendar
import BibaVpn.Wire.Frame
import BibaVpn.Wire.Crypto
import BibaVpn.Wire.Control
import BibaVpn.Wire.Nonces
import BibaVpn.Wire.MuxWire
import BibaVpn.Wire.UdpWire
import BibaVpn.Wire.Address
import BibaVpn.Wire.ControlLanguage
import BibaVpn.Wire.KeyAgreement
import BibaVpn.Tunnel.Downlink
import BibaVpn.Tunnel.FrameCap
import BibaVpn.Tunnel.Bridge
import BibaVpn.Tunnel.CleanClose
import BibaVpn.Client.TlsPeek
import BibaVpn.Client.Dns
import BibaVpn.Client.DomainRoute
import BibaVpn.Udp.SocketPool
import BibaVpn.Udp.MuxClient
import BibaVpn.Udp.BadFrames
import BibaVpn.Client.SplitTunnel
import BibaVpn.Client.MuxPool
import BibaVpn.Reality.Exchange
import BibaVpn.Reality.ReplayCache
import BibaVpn.Server.AuthLimiter
import BibaVpn.Server.Users
import BibaVpn.Server.UsersCli
import BibaVpn.Server.Handshake
import BibaVpn.Server.AuthCharge
import BibaVpn.Server.HelloWindow
import BibaVpn.Server.HttpDate
import BibaVpn.Mux.Flow
import BibaVpn.Mux.Side
import BibaVpn.Mux.Half
import BibaVpn.Mux.Pair
import BibaVpn.Mux.Credit
import BibaVpn.Mux.Endpoint
import BibaVpn.Mux.Generations
import BibaVpn.Mux.Moves
import BibaVpn.Mux.Stall
import BibaVpn.Mux.Strand
import BibaVpn.Mux.Resets
import BibaVpn.Mux.Dispatch
import BibaVpn.Mux.Budget
import BibaVpn.Mux.Session
import BibaVpn.Mux.RecordCap
import BibaVpn.Mux.Lanes
import BibaVpn.Mux.Link
import BibaVpn.Mux.Integrity
import BibaVpn.Client.Stealth
import BibaVpn.Client.StartJson
import BibaVpn.Client.LocalWins
import BibaVpn.Client.BypassForms
import BibaVpn.Client.DnsAnswers
import BibaVpn.Client.HttpProxy
import BibaVpn.Client.SocksUdp
import BibaVpn.Apps.NativeSlot
import BibaVpn.Apps.Desktop
import BibaVpn.Apps.DesktopProxy
import BibaVpn.Apps.DesktopProfile
import BibaVpn.Apps.MacProxy
