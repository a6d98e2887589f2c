import KeyRelay.Glob.Classify
import KeyRelay.Listener.Error
import KeyRelay.LruCache
import KeyRelay.Text.Blank
import KeyRelay.Topic
/-!
# From destinations to topics

A destination is a text in a configuration. It names a pattern if `Glob.isPattern` says so, and a
channel otherwise; a blank one names nothing. Topics are cached, channels and patterns each in a
cache of their own, so that many patterns never push a channel out.

The caches only save work: `Topic.ofDestination` is what a resolver answers, whatever it was asked
before.
-/

namespace KeyRelay

def Topic.named (destination : String) : Topic :=
  if Glob.isPattern destination then .pattern destination else .channel destination

def ListenerError.blankDestination (destination : String) : ListenerError :=
  .invalidTopic destination "destination must not be blank"

def Topic.ofDestination (destination : String) : Except ListenerError Topic :=
  if isBlank destination then .error (.blankDestination destination)
  else .ok (.named destination)

/-- A resolver of destinations. -/
structure Resolver where
  channels : LruCache Topic
  patterns : LruCache Topic

namespace Resolver

/-- A resolver whose caches each have this capacity. -/
def ofCapacity (capacity : Nat) : Resolver := ⟨.ofCapacity capacity, .ofCapacity capacity⟩

/-- Resolves a destination, and tells whether its topic was cached. -/
def lookup (r : Resolver) (destination : String) :
    Except ListenerError (Lookup Topic) × Resolver :=
  if isBlank destination then (.error (.blankDestination destination), r)
  else if Glob.isPattern destination then
    let (found, patterns) := r.patterns.get (m := Id) .pattern destination
    (.ok found, { r with patterns })
  else
    let (found, channels) := r.channels.get (m := Id) .channel destination
    (.ok found, { r with channels })

def resolve (r : Resolver) (destination : String) : Except ListenerError Topic × Resolver :=
  let (found, r) := r.lookup destination
  (found.map Lookup.value, r)

end Resolver

end KeyRelay
