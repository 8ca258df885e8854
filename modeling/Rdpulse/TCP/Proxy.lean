import Rdpulse.Foundation.Clock
import Rdpulse.Foundation.Splices

namespace Rdpulse.TCP

open Foundation Pipes

/-! The three functions that join two connections: `Proxy.Run`, `Bridge` and the end of
`handleControllerRelayStream`. All copy in both directions and close everything when one
direction has ended; they differ in what they close, and how. Only `Proxy.Run` counts. -/

/-- What carries a pipe. Closing a multiplexed stream in any way closes both its directions,
and does not cut off a write that is in progress. -/
inductive Carrier
  | tcp
  | quic
  | mux
  deriving DecidableEq, Repr

def Carrier.prompt : Carrier → Bool
  | .tcp | .quic => true
  | .mux => false

def closeConn (conn : End) : List EndOp := [.endReading conn, .endWriting conn]

def closeWrite (conn : End) : List EndOp := [.endWriting conn]

def closeStream (carrier : Carrier) (stream : End) : List EndOp :=
  match carrier with
  | .mux => [.endReading stream, .endWriting stream]
  | .quic | .tcp => [.endWriting stream]

def cancelRead (carrier : Carrier) (stream : End) : List EndOp :=
  match carrier with
  | .mux => closeStream carrier stream
  | .quic | .tcp => [.endReading stream]

def cancelWrite (carrier : Carrier) (stream : End) : List EndOp :=
  match carrier with
  | .mux => closeStream carrier stream
  | .quic | .tcp => [.endWriting stream]

def proxyBufferSize : Nat := 64 * 1024

/-- `Proxy.Close`; its `once` spares a second caller the same calls. -/
def proxyClose (tcpConn stream : End) (carrier : Carrier) : List EndOp :=
  closeConn tcpConn ++
    (cancelRead carrier stream ++ (cancelWrite carrier stream ++ closeStream carrier stream))

/-- `Proxy.Run`: `forth` is "Stream -> TCP", and `back` is "TCP -> Stream". -/
def proxyRun (tcpConn stream : End) (carrier : Carrier) : Wiring where
  one := stream
  two := tcpConn
  size := proxyBufferSize
  finishForth := closeWrite tcpConn
  finishBack := closeStream carrier stream
  closing := proxyClose tcpConn stream carrier

/-- `Bridge` of two TCP connections. How much moves at once is up to the kernel, which may
copy between two sockets without the buffer. -/
def bridge (a b : End) (size : Nat) : Wiring where
  one := a
  two := b
  size := size
  finishForth := []
  finishBack := []
  closing := closeConn a ++ closeConn b

def relayStreams (controllerStream targetStream : End) (controllerCarrier targetCarrier : Carrier) :
    Wiring where
  one := controllerStream
  two := targetStream
  size := proxyBufferSize
  finishForth := []
  finishBack := []
  closing :=
    cancelRead controllerCarrier controllerStream ++ (cancelWrite controllerCarrier controllerStream ++
      (cancelRead targetCarrier targetStream ++ (cancelWrite targetCarrier targetStream ++
        (closeStream controllerCarrier controllerStream ++ closeStream targetCarrier targetStream))))

structure ProxyStats where
  bytesIn : Int
  bytesOut : Int

def proxyStats (splice : Splice) : ProxyStats where
  bytesIn := int64 splice.forth.count
  bytesOut := int64 splice.back.count

structure ClosesBoth (wiring : Wiring) : Prop where
  readsOne : .endReading wiring.one ∈ wiring.closing
  writesOne : .endWriting wiring.one ∈ wiring.closing
  readsTwo : .endReading wiring.two ∈ wiring.closing
  writesTwo : .endWriting wiring.two ∈ wiring.closing

theorem mem_cancelRead (carrier : Carrier) (stream : End) :
    .endReading stream ∈ cancelRead carrier stream := by
  cases carrier <;> simp [cancelRead, closeStream]

theorem mem_cancelWrite (carrier : Carrier) (stream : End) :
    .endWriting stream ∈ cancelWrite carrier stream := by
  cases carrier <;> simp [cancelWrite, closeStream]

theorem proxyRun_closes (tcpConn stream : End) (carrier : Carrier) :
    ClosesBoth (proxyRun tcpConn stream carrier) := by
  constructor <;>
    simp [proxyRun, proxyClose, closeConn, mem_cancelRead, mem_cancelWrite]

theorem bridge_closes (a b : End) (size : Nat) : ClosesBoth (bridge a b size) := by
  constructor <;> simp [bridge, closeConn]

theorem relayStreams_closes (controllerStream targetStream : End)
    (controllerCarrier targetCarrier : Carrier) :
    ClosesBoth (relayStreams controllerStream targetStream controllerCarrier targetCarrier) := by
  constructor <;> simp [relayStreams, mem_cancelRead, mem_cancelWrite]

end Rdpulse.TCP
