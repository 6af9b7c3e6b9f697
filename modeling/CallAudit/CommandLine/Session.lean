import CallAudit.Audit.Batch
import CallAudit.Files.FileSystem

/-!
# Sessions

What a command does: it prints and writes to its log, one thing after the other, and comes to a
result or stops.  A stream may refuse what is printed on it, and the command then stops at that
point.
-/

namespace CallAudit

/-- The stream of results and that of messages. -/
inductive Channel where
  | out
  | err
  deriving DecidableEq, Repr

inductive Print where
  | line (t : Text)
  | table (title : String) (columns : List String) (rows : List (List Text))
  deriving DecidableEq

def Print.texts : Print → List Text
  | line t => [t]
  | table _ _ rows => rows.flatten

/-- Whether streams take what is printed on them. -/
abbrev Streams := Channel → Print → Bool

namespace Streams

def takeAll : Streams := fun _ _ ↦ true

/-- The streams of a Unicode terminal.  Surrogates cannot be written as results, and are escaped in
messages. -/
def unicode : Streams
  | .out, content => content.texts.all fun t ↦ !t.hasSurrogate
  | .err, _ => true

end Streams

inductive Event where
  | print (channel : Channel) (content : Print)
  | log (entry : Log.Entry)
  deriving DecidableEq

inductive Stop where
  | unread (fault : ReadError)
  | unset (variableName : Text)
  | unaudited (reason : Abort)
  | unprinted (channel : Channel) (content : Print)
  deriving DecidableEq

structure Session (α : Type) where
  events : List Event
  result : Except Stop α

namespace Session

variable {α : Type}

instance : Monad Session where
  pure a := ⟨[], .ok a⟩
  bind x f :=
    match x.result with
    | .ok a => ⟨x.events ++ (f a).events, (f a).result⟩
    | .error stop => ⟨x.events, .error stop⟩

def tell (events : List Event) : Session Unit := ⟨events, .ok ()⟩

def print (channel : Channel) (contents : List Print) : Session Unit :=
  tell (contents.map (.print channel))

def log (entries : List Log.Entry) : Session Unit := tell (entries.map .log)

def quiet (result : Except Stop α) : Session α := ⟨[], result⟩

def refusal? (streams : Streams) : Event → Option Stop
  | .print channel content =>
    if streams channel content then none else some (.unprinted channel content)
  | .log _ => none

/-- The session as far as the streams take what is printed. -/
def play (streams : Streams) (s : Session α) : Session α :=
  match s.events.findSome? (refusal? streams) with
  | none => s
  | some stop => ⟨s.events.takeWhile fun e ↦ (refusal? streams e).isNone, .error stop⟩

def printed (channel : Channel) (s : Session α) : List Print :=
  s.events.filterMap fun
    | .print c content => if c = channel then some content else none
    | .log _ => none

def out (s : Session α) : List Print := s.printed .out

def err (s : Session α) : List Print := s.printed .err

def logged (s : Session α) : List Log.Entry :=
  s.events.filterMap fun
    | .print _ _ => none
    | .log entry => some entry

def prints (s : Session α) : List Print :=
  s.events.filterMap fun
    | .print _ content => some content
    | .log _ => none

end Session

end CallAudit
