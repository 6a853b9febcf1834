import FeedWatch.Error
import FeedWatch.Producer

namespace FeedWatch

-- What is kept about a producer that the feed described. It is down until its first
-- recovery has completed.
structure Entry where
  descriptor : Descriptor
  enabled : Bool
  flaggedDown : Bool := true
  lastMessage : Instant := 0
  lastProcessed : Instant := 0
  lastAlive : Instant := 0
  recoveryFrom : Instant := 0
  lastAttempt : Option Attempt := none
  deriving DecidableEq, Repr

namespace Entry

def ofDescriptor (d : Descriptor) : Entry := { descriptor := d, enabled := d.active }

-- The full record. The scopes are read here, so this is where a bad scope shows.
def producer (e : Entry) : Except DirectoryError Producer :=
  match e.descriptor.scopes with
  | .error source => .error (.unknownScope e.descriptor.id source)
  | .ok scopes =>
    .ok {
      id := e.descriptor.id
      name := e.descriptor.name
      description := e.descriptor.description
      apiEndpoint := e.descriptor.apiEndpoint
      active := e.descriptor.active
      enabled := e.enabled
      flaggedDown := e.flaggedDown
      scopes := scopes
      windowMinutes := e.descriptor.windowMinutes
      lastMessage := e.lastMessage
      lastProcessed := e.lastProcessed
      lastAlive := e.lastAlive
      recoveryFrom := e.recoveryFrom
      lastAttempt := e.lastAttempt
    }

end Entry

-- What the directory holds under one id: an entry, or none if the feed never
-- described the producer. All reads and writes of one producer go through here.
structure Listing where
  id : ProducerId
  -- the API endpoint of producers that were never described
  fallback : String
  entry : Option Entry
  deriving DecidableEq, Repr

namespace Listing

-- Ids that were never described have a record all the same.
def producer (l : Listing) : Except DirectoryError Producer :=
  match l.entry with
  | some e => e.producer
  | none => .ok (Producer.unknown l.id l.fallback)

def read (l : Listing) (f : Entry → α) : Except DirectoryError α :=
  match l.entry with
  | some e => .ok (f e)
  | none => .error (.unknownProducer l.id)

-- Only described producers can be written.
def update (l : Listing) (f : Entry → Entry) : Except DirectoryError Listing :=
  match l.entry with
  | some e => .ok { l with entry := some (f e) }
  | none => .error (.unknownProducer l.id)

def isEnabled (l : Listing) : Except DirectoryError Bool := l.read Entry.enabled

def isDown (l : Listing) : Except DirectoryError Bool := l.read Entry.flaggedDown

def setEnabled (l : Listing) (enabled : Bool) : Except DirectoryError Listing :=
  l.update ({ · with enabled })

def setDown (l : Listing) (flaggedDown : Bool) : Except DirectoryError Listing :=
  l.update ({ · with flaggedDown })

-- A zero is refused before the producer is looked up.
def setLastMessage (l : Listing) (lastMessage : Instant) : Except DirectoryError Listing :=
  if lastMessage = 0 then .error .zeroTimestamp else l.update ({ · with lastMessage })

def setLastProcessed (l : Listing) (lastProcessed : Instant) : Except DirectoryError Listing :=
  l.update ({ · with lastProcessed })

def setLastAlive (l : Listing) (lastAlive : Instant) : Except DirectoryError Listing :=
  l.update ({ · with lastAlive })

def setLastAttempt (l : Listing) (attempt : Attempt) : Except DirectoryError Listing :=
  l.update ({ · with lastAttempt := some attempt })

-- Where recoveries start until the first alive counts; 0 takes it back. It may not
-- lie before the window in which the producer can replay its state.
def setRecoveryFrom (l : Listing) (recoveryFrom now : Instant) : Except DirectoryError Listing := do
  let windowMinutes ← l.read (·.descriptor.windowMinutes)
  if recoveryFrom ≠ 0 ∧ now.since recoveryFrom > windowMinutes.toNat * 60000 then
    .error (.outsideRecoveryWindow l.id recoveryFrom windowMinutes)
  else l.update ({ · with recoveryFrom })

end Listing

structure Directory where
  entries : Std.ExtTreeMap ProducerId Entry := ∅
  fallback : String := ""

namespace Directory

-- Of several descriptors with one id the last counts.
def ofDescriptors (descriptors : List Descriptor) (fallback : String) : Directory where
  entries := descriptors.foldl (fun entries d => entries.insert d.id (.ofDescriptor d)) ∅
  fallback := fallback

def listing (d : Directory) (id : ProducerId) : Listing := ⟨id, d.fallback, d.entries[id]?⟩

-- Takes the listing of an id back after its entry was written.
def put (d : Directory) (id : ProducerId) (l : Listing) : Directory :=
  match l.entry with
  | some e => { d with entries := d.entries.insert id e }
  | none => d

-- The described producers that are to be kept, by ascending id. One of them whose
-- scopes cannot be read makes the whole listing fail.
def producers (d : Directory) (keep : Entry → Bool) :
    Except DirectoryError (List (ProducerId × Producer)) :=
  (d.entries.toList.filter fun (_, e) => keep e).mapM fun (id, e) => e.producer.map (id, ·)

def available (d : Directory) : Except DirectoryError (List (ProducerId × Producer)) :=
  d.producers fun _ => true

def active (d : Directory) : Except DirectoryError (List (ProducerId × Producer)) :=
  d.producers (·.descriptor.active)

def activeInScope (d : Directory) (scope : Scope) :
    Except DirectoryError (List (ProducerId × Producer)) :=
  return (← d.active).filter fun (_, p) => p.serves scope

end Directory

end FeedWatch
