import Sap9001.DeliveryOrder
import Sap9001.SensorDriver
import Sap9001.Resend
import Sap9001.ReceiveBranch
import Sap9001.HJ212
import Sap9001.ControlPackets
import Sap9001.FixedLayout
import Sap9001.CommunicateStatus
import Sap9001.SoftwareWdt
import Sap9001.ManagerFrame
import Sap9001.BreakerHistory
import Sap9001.ConnectCleanup
import Sap9001.Checksum
import Sap9001.WdtHistory
import Sap9001.Config
import Sap9001.SensorReadings
import Sap9001.WriteFull
import Sap9001.PoolHistory
import Sap9001.RetryPolicy
import Sap9001.FloatDecoding
import Sap9001.GpsFields
import Sap9001.WdtRestart
import Sap9001.ReconnectPacing
import Sap9001.GpsStream
import Sap9001.TimeStamp
import Sap9001.Termination
import Sap9001.Uninterrupted
import Sap9001.Startup
import Sap9001.BluetoothScan
import Sap9001.Measurements
import Sap9001.Cell4g
import Sap9001.DeliveryProgress
import Sap9001.BlockingQueue
import Sap9001.SensorSync
