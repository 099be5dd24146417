import AsulaHttp.Text
import AsulaHttp.StdSet
import AsulaHttp.Registrar
import AsulaHttp.Match
import AsulaHttp.Ranking
import AsulaHttp.Session
import AsulaHttp.Dispatch
import AsulaHttp.Hub
import AsulaHttp.Client
import AsulaHttp.Manager
import AsulaHttp.Receiver
import AsulaHttp.Multicast
import AsulaHttp.TcpClient
import AsulaHttp.Services
