import MobyDaemon.Text
import MobyDaemon.Bufio
import MobyDaemon.Oci.DeviceCgroup
import MobyDaemon.Daemon.NetworkSandbox
import MobyDaemon.Daemon.SystemCPU
import MobyDaemon.Daemon.Stats
import MobyDaemon.FilePath
import MobyDaemon.Graphdriver.Vfs
import MobyDaemon.Containerd.ImageImport
import MobyDaemon.Json.Utf8
import MobyDaemon.Json.Encode
import MobyDaemon.Json.Decode
import MobyDaemon.Json.Roundtrip
import MobyDaemon.Libnetwork.ExternalKey
import MobyDaemon.Images.Store
import MobyDaemon.Container.HostConfig
import MobyDaemon.Containerd.ImportImage
