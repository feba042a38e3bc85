/-!
# The link between the two ends

A link is a pair of queues of texts, one towards each end.  Posting fails once the end posted to is
gone; an end that goes away takes its unread texts with it, but what it posted can still be read.

Main results:

- `Link.receive_post`: what is posted to an empty inbox is received.
- `Link.post_eq_none_iff`: posting fails exactly if the other end is gone.
-/

namespace ModelPreview

/-- One of the two ends of a link. -/
inductive Side where
  /-- The end of the controller. -/
  | host
  /-- The end of the render surface. -/
  | surface
  deriving DecidableEq, Repr

/-- The end opposite to another. -/
def Side.other : Side → Side
  | .host => .surface
  | .surface => .host

/-- What one end holds: its unread texts, oldest first, and whether it is there. -/
structure Inbox where
  /-- The unread texts. -/
  unread : List String := []
  /-- Whether the end is still there. -/
  isOpen : Bool := true
  deriving DecidableEq, Repr

/-- A link. -/
structure Link where
  /-- What waits for the controller. -/
  host : Inbox := {}
  /-- What waits for the surface. -/
  surface : Inbox := {}
  deriving DecidableEq, Repr, Inhabited

namespace Link

/-- A link nothing has been posted to. -/
def fresh : Link := {}

/-- The inbox of an end. -/
def inbox (l : Link) : Side → Inbox
  | .host => l.host
  | .surface => l.surface

/-- Replace the inbox of an end. -/
def setInbox (l : Link) (s : Side) (b : Inbox) : Link :=
  match s with
  | .host => { l with host := b }
  | .surface => { l with surface := b }

/-- Post a text from an end to the other one; `none` if that one is gone. -/
def post (l : Link) (s : Side) (payload : String) : Option Link :=
  let b := l.inbox s.other
  if b.isOpen then some (l.setInbox s.other { b with unread := b.unread ++ [payload] }) else none

/-- Take the oldest text that waits at an end. -/
def receive (l : Link) (s : Side) : Option String × Link :=
  match (l.inbox s).unread with
  | [] => (none, l)
  | p :: ps => (some p, l.setInbox s { l.inbox s with unread := ps })

/-- Whether the other end is still there. -/
def isConnected (l : Link) (s : Side) : Bool := (l.inbox s.other).isOpen

/-- Let an end go away. -/
def close (l : Link) (s : Side) : Link := l.setInbox s ⟨[], false⟩

@[simp]
theorem inbox_setInbox_self (l : Link) (s : Side) (b : Inbox) : (l.setInbox s b).inbox s = b := by
  cases s <;> rfl

theorem post_eq_none_iff (l : Link) (s : Side) (p : String) :
    l.post s p = none ↔ l.isConnected s = false := by
  simp [post, isConnected]

theorem receive_post {l l' : Link} {s : Side} {p : String} (h : l.post s p = some l')
    (he : (l.inbox s.other).unread = []) : (l'.receive s.other).1 = some p := by
  simp only [post] at h
  split at h
  · cases h
    simp [receive, he]
  · cases h

end Link
end ModelPreview
