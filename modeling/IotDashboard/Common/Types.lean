import IotDashboard.Foundation.Double
import IotDashboard.Foundation.StdString

/-!
# Shared data types

A time stamp is a reading of `std::chrono::system_clock`: a signed 64-bit count of nanoseconds
since the epoch. The casts to coarser units truncate towards zero, as `std::chrono::duration_cast`
does, and the cast back overflows where the C++ one does.
-/

namespace IotDashboard

/-- `iot::Timestamp`, in nanoseconds since the epoch. -/
abbrev Timestamp := Int64

namespace Timestamp

/-- `duration_cast<seconds>(ts.time_since_epoch()).count()`. -/
def seconds (ts : Timestamp) : Int64 := ts / 1000000000

/-- `ToUnixMs(ts)`. -/
def toUnixMs (ts : Timestamp) : Int64 := ts / 1000000

/-- `FromUnixMs(ms)`. -/
def fromUnixMs (ms : Int64) : Timestamp := ms * 1000000

end Timestamp

/-- `iot::DeviceInfo`. -/
structure DeviceInfo where
  id : StdString
  name : StdString
  type : StdString
  protocol : StdString
  address : StdString
  isConnected : Bool
  lastSeen : Timestamp
deriving DecidableEq

/-- `iot::SensorReading`. -/
structure SensorReading where
  deviceId : StdString
  sensor : StdString
  value : Double
  unit : StdString
  timestamp : Timestamp
  quality : Option StdString
deriving DecidableEq

end IotDashboard
