import Mcp2515Banged.Registers
import Mcp2515Banged.Transport
import Mcp2515Banged.Codec
import Mcp2515Banged.RegisterAccess
import Mcp2515Banged.Chip
import Mcp2515Banged.ChipRuns
import Mcp2515Banged.Probe
import Mcp2515Banged.Controller
import Mcp2515Banged.Handler
import Mcp2515Banged.Receive
import Mcp2515Banged.Interrupts
import Mcp2515Banged.Lifecycle
import Mcp2515Banged.Quiescence
import Mcp2515Banged.Sessions
import Mcp2515Banged.Decoding
import Mcp2515Banged.NormalMode
import Mcp2515Banged.Statistics
