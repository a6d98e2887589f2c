import KeyRelay.Message
import KeyRelay.Text.Described
/-!
# Containers

A container holds subscriptions, each of a listener to a topic, in the order in which they were
made. A listener is known by its identity and by nothing else: the same listener may be subscribed
to many topics, is never subscribed twice to one, and leaves with all its subscriptions at once.

To publish is to deliver to a snapshot. Which subscriptions match is settled before the first
delivery, and whatever the listeners then do to the container changes nothing about it.
-/

namespace KeyRelay

/-- The identity of a listener: one that an endpoint made, by number, or one from outside. -/
inductive ListenerId where
  | adapter (number : Nat)
  | raw (name : String)
deriving DecidableEq, Repr

/-- A listener's interest in a topic. -/
structure Subscription where
  listener : ListenerId
  topic : Topic
deriving DecidableEq, Repr

/-- A message on its way to a listener. -/
structure Delivery where
  listener : ListenerId
  message : Message
  /-- The pattern through which it came, if it came through one. -/
  pattern : Option Bytes
deriving DecidableEq, Repr

/-- The delivery of a message to a subscription. -/
def Subscription.delivery (s : Subscription) (message : Message) : Delivery :=
  ⟨s.listener, message, if s.topic.isPattern then some (Utf8.encode s.topic.name) else none⟩

structure Container where
  subscriptions : List Subscription := []
deriving DecidableEq, Repr

namespace Container

/-- Subscribes a listener to a topic, unless it is subscribed to it. -/
def add (c : Container) (listener : ListenerId) (topic : Topic) : Container :=
  if ⟨listener, topic⟩ ∈ c.subscriptions then c else ⟨c.subscriptions ++ [⟨listener, topic⟩]⟩

def remove (c : Container) (listener : ListenerId) : Container :=
  ⟨c.subscriptions.filter (·.listener != listener)⟩

def topics (c : Container) : List Topic := c.subscriptions.map (·.topic)

def size (c : Container) : Nat := c.subscriptions.length

/-- The subscriptions that a message on a channel goes to. -/
def targets (c : Container) (channel : Bytes) : List Subscription :=
  c.subscriptions.filter (·.topic.isMatch channel)

def deliveries (c : Container) (message : Message) : List Delivery :=
  (c.targets message.channel).map (·.delivery message)

/-- Delivers a message to every subscription that matches, in a system whose state the listeners may
change. The answer is the number of deliveries. -/
def publish {S : Type} (c : Container) (message : Message) (deliver : Delivery → S → S) (s : S) :
    Nat × S :=
  let deliveries := c.deliveries message
  (deliveries.length, deliveries.foldl (fun s d => deliver d s) s)

/-- How a topic shows itself in a container. -/
def inspectTopic : Topic → String
  | .channel name => "Channel(" ++ Quoted.text name ++ ")"
  | .pattern name => "Pattern(" ++ Quoted.text name ++ ")"

def inspect (c : Container) : String :=
  Described.record "MemoryListenerContainer"
    [("topics", Described.list (c.topics.map inspectTopic))]

end Container

end KeyRelay
