import FakeNotify.Protocol.Bytes
import FakeNotify.Protocol.Message
import FakeNotify.Protocol.Path
import FakeNotify.Protocol.Event
import FakeNotify.Daemon.State
import FakeNotify.Daemon.Registry
import FakeNotify.Daemon.Run
import FakeNotify.Daemon.PathMap
import FakeNotify.Daemon.Server
import FakeNotify.Daemon.Watcher
import FakeNotify.Daemon.Attribution
import FakeNotify.Daemon.Dispatch
import FakeNotify.Daemon.System
import FakeNotify.Daemon.Streams
import FakeNotify.Daemon.Poll
import FakeNotify.Daemon.Interleave
import FakeNotify.Daemon.Failures
import FakeNotify.Daemon.Cli
import FakeNotify.Preload.Library
import FakeNotify.Preload.ManagedFds
import FakeNotify.Connection
