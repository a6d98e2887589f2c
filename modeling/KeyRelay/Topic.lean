import KeyRelay.Glob.Match
/-!
# Topics

What a listener subscribes to: one channel by its name, or all channels whose names match a
pattern. A channel and a pattern of the same name are different topics, and a channel's name is
never read as a pattern.
-/

namespace KeyRelay

/-- A destination of messages. -/
inductive Topic where
  | channel (name : String)
  | pattern (name : String)
deriving DecidableEq, Repr

namespace Topic

/-- The name of the channel, or the text of the pattern. -/
def name : Topic → String
  | .channel name => name
  | .pattern name => name

def isPattern : Topic → Bool
  | .channel _ => false
  | .pattern _ => true

/-- Whether a message on a channel reaches a subscription on this topic. -/
def isMatch (topic : Topic) (channel : Bytes) : Bool :=
  match topic with
  | .channel name => Utf8.encode name == channel
  | .pattern name => Glob.isMatch (Utf8.encode name) channel

def kind (topic : Topic) : String := if topic.isPattern then "pattern" else "channel"

end Topic

end KeyRelay
