import HotReload.Identity

/-! # Announcements

Every load is announced to those who subscribed. A subscriber that has gone is noticed, and
forgotten, at the next announcement.
-/

namespace HotReload

/-- A module has been patched in. -/
structure Announcement where
  module : ModuleId
  sequence : Nat
  classes : List ClassId
  classNames : List String
  rebound : List String
deriving DecidableEq, Inhabited

structure Subscriber where
  name : String
  /-- Somebody still listens. -/
  isLive : Bool := true
  /-- Announcements that wait, oldest first. -/
  waiting : List Announcement := []
deriving DecidableEq, Inhabited

/-- The subscribers, in the order in which they came. -/
structure Subscribers where
  all : List Subscriber := []
deriving DecidableEq, Inhabited

namespace Subscribers

def count (s : Subscribers) : Nat := s.all.length

def leave (s : Subscribers) (name : String) : Subscribers :=
  ⟨s.all.map fun r => if r.name = name then { r with isLive := false } else r⟩

/-- Adds a subscriber; an older one of the name is no longer listened to. -/
def subscribe (s : Subscribers) (name : String) : Subscribers :=
  ⟨(s.leave name).all ++ [{ name := name }]⟩

/-- Delivers to every live subscriber and forgets the others; also how many were reached. -/
def publish (s : Subscribers) (a : Announcement) : Nat × Subscribers :=
  let live := (s.all.filter (·.isLive)).map fun r => { r with waiting := r.waiting ++ [a] }
  (live.length, ⟨live⟩)

def waiting (s : Subscribers) (name : String) : List Announcement :=
  (s.all.filter fun r => r.isLive && r.name == name).flatMap (·.waiting)

def take (s : Subscribers) (name : String) : List Announcement × Subscribers :=
  (s.waiting name,
    ⟨s.all.map fun r => if r.isLive ∧ r.name = name then { r with waiting := [] } else r⟩)

end Subscribers

end HotReload
