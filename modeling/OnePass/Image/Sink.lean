import OnePass.Image.Writer

/-
**Buffered sinks.**

A sink collects lines in a buffer and delivers them to a receiver in blocks.  A byte that arrives at
a full buffer makes the sink deliver first.  A receiver may have room for a limited number of bytes;
it takes what fits, and from then on the sink is broken: it reports the same fault for ever and
delivers nothing more.

Main definitions:

* `OnePass.Receiver` — what has been delivered, and how much more fits;
* `OnePass.LineSink` — the sink, a `LineWriter`;
* `OnePass.LineSink.flush` — delivers what the buffer holds.
-/

set_option relaxedAutoImplicit false
set_option autoImplicit false

namespace OnePass

/-! ### Receivers -/

/-- The far end of a sink. -/
structure Receiver where
  /-- The bytes delivered so far. -/
  delivered : Array UInt8 := #[]
  /-- The number of bytes that fit in all, if there is a limit. -/
  limit : Option Nat := none
  /-- The fault that a receiver without room reports. -/
  fault : Fault := .plain []

namespace Receiver

/-- The number of those `n` bytes that still fit. -/
def room (receiver : Receiver) (n : Nat) : Nat :=
  match receiver.limit with
  | none => n
  | some limit => min n (limit - receiver.delivered.size)

/-- Delivers a block: the receiver takes what fits, and it is a fault if that is not all. -/
def take (receiver : Receiver) (block : Array UInt8) : Option Fault × Receiver :=
  let n := receiver.room block.size
  let taken := { receiver with delivered := receiver.delivered ++ block.extract 0 n }
  (if n < block.size then some receiver.fault else none, taken)

end Receiver

/-! ### The sink -/

/-- A buffer in front of a receiver. -/
structure LineSink where
  /-- The bytes that wait for delivery. -/
  buffer : Array UInt8 := #[]
  /-- Where they go. -/
  receiver : Receiver := {}
  /-- The fault of a broken sink. -/
  broken : Option Fault := none

namespace LineSink

/-- The number of bytes that a buffer holds. -/
def capacity : Nat := 4096

/-- Delivers what the buffer holds. -/
def flush (sink : LineSink) : Option Fault × LineSink :=
  match sink.broken with
  | some fault => (some fault, sink)
  | none =>
    let (fault, receiver) := sink.receiver.take sink.buffer
    (fault, { buffer := #[], receiver := receiver, broken := fault })

/-- Takes one byte, which is lost if the sink is broken or breaks at it. -/
def push (sink : LineSink) (b : UInt8) : LineSink :=
  match sink.broken with
  | some _ => sink
  | none =>
    if sink.buffer.size < capacity then { sink with buffer := sink.buffer.push b }
    else
      match sink.flush with
      | (some _, sink') => sink'
      | (none, sink') => { sink' with buffer := sink'.buffer.push b }

/-- Takes a line and the line feed behind it. -/
def writeLine (sink : LineSink) (line : Bytes) : Option Fault × LineSink :=
  let sink' := (line ++ [Bytes.newline]).foldl push sink
  (sink'.broken, sink')

instance : LineWriter LineSink where
  writeLine := LineSink.writeLine

end LineSink

end OnePass
