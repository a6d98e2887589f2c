import KeyRelay.Topic
/-!
# Messages

A message is what was published: bytes on a channel. An envelope is what a handler is given: the
same bytes with headers that tell how they got there.
-/

namespace KeyRelay

/-- Bytes published on a channel. -/
structure Message where
  /-- The name of the channel, as it was sent. -/
  channel : Bytes
  body : Bytes
deriving DecidableEq, Repr

def Message.channelName (m : Message) : String := Utf8.lossy m.channel

/-- How a message came to its handler. -/
structure Headers where
  /-- The channel it was published on. -/
  channel : Topic
  topic : Topic
  /-- The subscription, when that is a pattern. -/
  pattern : Option Topic
deriving DecidableEq, Repr

/-- The headers of a delivery on a channel, through a pattern or not. -/
def Headers.ofDelivery (channel : String) (pattern : Option String) : Headers :=
  match pattern with
  | some p => ⟨.channel channel, .pattern p, some (.pattern p)⟩
  | none => ⟨.channel channel, .channel channel, none⟩

/-- What a handler is given. -/
structure Envelope where
  /-- The body of the message, unchanged. -/
  payload : Bytes
  headers : Headers
deriving DecidableEq, Repr

/-- The payload as a text, if it is one. -/
def Envelope.text (e : Envelope) : Except Utf8.Error String := Utf8.decode e.payload

/-- The envelope of a message that came through a pattern or not. -/
def Message.envelope (m : Message) (pattern : Option Bytes) : Envelope :=
  ⟨m.body, Headers.ofDelivery m.channelName (pattern.map Utf8.lossy)⟩

end KeyRelay
