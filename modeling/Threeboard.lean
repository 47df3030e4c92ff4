import Threeboard.Library.Action
import Threeboard.Library.Runs
import Threeboard.Library.Records
import Threeboard.Library.Mailbox
import Threeboard.Library.Updates
import Threeboard.Storage.StorageController
import Threeboard.Storage.Bench
import Threeboard.Storage.Layout
import Threeboard.Storage.Shortcuts
import Threeboard.Storage.Specs
import Threeboard.Storage.Operations
import Threeboard.Storage.Sending
import Threeboard.Storage.WordSending
import Threeboard.Storage.Requests
import Threeboard.Storage.Issuing
import Threeboard.Storage.Coupling
import Threeboard.Storage.Refinement
import Threeboard.Library.Bursts
import Threeboard.Keys.KeyController
import Threeboard.Keys.Combos
import Threeboard.Leds.LedState
import Threeboard.Leds.LedController
import Threeboard.Leds.Scanning
import Threeboard.Leds.Pins
import Threeboard.Leds.Matrix
import Threeboard.Leds.Safety
import Threeboard.Leds.Timing
import Threeboard.Layers.Layer
import Threeboard.Layers.LayerController
import Threeboard.Layers.LedWrites
import Threeboard.Events.EventLoop
import Threeboard.Events.Delivery
import Threeboard.Storage.Confinement
import Threeboard.Storage.Characters
import Threeboard.Storage.Faults
import Threeboard.Storage.OffsetRange
import Threeboard.Storage.PowerCut
import Threeboard.Layers.Cursors
import Threeboard.Layers.Asking
import Threeboard.Layers.Modes
import Threeboard.Layers.Handling
import Threeboard.Layers.Display
import Threeboard.Layers.Ideal
import Threeboard.Layers.SplitDisplay
import Threeboard.Layers.Programming
import Threeboard.Layers.Reporting
import Threeboard.Layers.PowerCut
import Threeboard.Events.Errors
import Threeboard.Integration.UsbKeycodes
import Threeboard.Integration.ThreeboardModel
import Threeboard.Integration.Firmware
import Threeboard.Integration.Effects
import Threeboard.Integration.Reaching
import Threeboard.Integration.Agreement
import Threeboard.Integration.Running
import Threeboard.Integration.Attached
import Threeboard.Integration.Booting
import Threeboard.Usb.Setup
import Threeboard.Integration.PowerUp
import Threeboard.Integration.Plugged
import Threeboard.Integration.Fixture
import Threeboard.Integration.PropertyTest
import Threeboard.Library.Polling
import Threeboard.Library.Reaching
import Threeboard.Library.Packets
import Threeboard.Library.Bytes
import Threeboard.Native.Native
import Threeboard.I2c.I2cEeprom
import Threeboard.I2c.Twi
import Threeboard.I2c.Driving
import Threeboard.I2c.Acknowledgement
import Threeboard.I2c.BusRelease
import Threeboard.Simulator.I2cEeprom
import Threeboard.Simulator.Bus
import Threeboard.Simulator.Transfers
import Threeboard.Simulator.Interleaving
import Threeboard.Simulator.PortWrites
import Threeboard.Simulator.KeyPins
import Threeboard.Simulator.LedRefresh
import Threeboard.Simulator.Simulation
import Threeboard.Simulator.MainLeds
import Threeboard.Simulator.UI
import Threeboard.Simulator.UsbKeycodes
import Threeboard.Simulator.Json
import Threeboard.Simulator.StateStorageImpl
import Threeboard.Simulator.StateFile
import Threeboard.Simulator.Loading
import Threeboard.Simulator.Loaded
import Threeboard.Simulator.FileReading
import Threeboard.Simulator.TextRoundTrip
import Threeboard.Simulator.LoadSafety
import Threeboard.Simulator.BlobCalls
import Threeboard.Simulator.FirmwareStorage
import Threeboard.Usb.Protocol
import Threeboard.Usb.RequestHandler
import Threeboard.Usb.UsbControllerImpl
import Threeboard.Usb.Session
import Threeboard.Usb.Endpoint
import Threeboard.Usb.ClassRequests
import Threeboard.Usb.Configuration
import Threeboard.Usb.Rounds
import Threeboard.Usb.Sending
import Threeboard.Usb.FrameTimeout
import Threeboard.Usb.Atomicity
import Threeboard.Usb.Invariants
import Threeboard.Usb.Releasing
import Threeboard.Usb.ReportTrace
import Threeboard.Usb.Watching
import Threeboard.Usb.Frames
import Threeboard.Usb.IdleReporting
import Threeboard.Usb.Host
import Threeboard.Usb.Typing
import Threeboard.Usb.Keystrokes
import Threeboard.Usb.Descriptors
import Threeboard.Usb.Pipe
import Threeboard.Usb.Control
import Threeboard.Usb.DescriptorList
import Threeboard.Usb.Enumeration
import Threeboard.Usb.DescriptorTransfers
