import RPLidarA2.Protocol
import RPLidarA2.Sectors
import RPLidarA2.SectorLayout
import RPLidarA2.Obstacle
import RPLidarA2.Sweep
import RPLidarA2.Driver
import RPLidarA2.Invariant
import RPLidarA2.Framing
import RPLidarA2.Handshake
import RPLidarA2.Timing
import RPLidarA2.Reset
import RPLidarA2.Recovery
import RPLidarA2.Session
import RPLidarA2.Stray
