import Redfrog.Go.Basic
import Redfrog.Common.LeakyBuffer
import Redfrog.ProxyClient.Datapath
import Redfrog.ProxyClient.Buffers
import Redfrog.ProxyClient.NatMachine
import Redfrog.ProxyClient.UdpNat
import Redfrog.ProxyClient.DnsNat
import Redfrog.ProxyClient.NatSockets
import Redfrog.ProxyClient.CloseCounts
import Redfrog.ProxyClient.Client
import Redfrog.ProxyClient.TcpRelay
import Redfrog.ProxyClient.TcpStream
import Redfrog.DnsProxy.Cache
import Redfrog.DnsProxy.Server
import Redfrog.DnsProxy.ServeDNS
import Redfrog.DnsProxy.CacheRuns
