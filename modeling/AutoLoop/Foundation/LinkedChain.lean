import Mathlib.Data.List.Induction
import Mathlib.Data.List.Perm.Subperm
import AutoLoop.Foundation.HashMap

/-!
# Chains of linked events

Every event names the link it follows and the link it leaves behind.  The events
of a chain are stored in any container and found again through a map from the
followed link; when two events follow the same link the later one wins.  This
module relates a chain to the walk through such a map: a chain whose followed
links are distinct is walked completely, and a walk that passes no event twice
passes all of them.
-/

namespace AutoLoop.LinkedChain

open List

variable {Event Link : Type}
variable {follows leaves : Event → Link}

/-- Consecutive events are linked, and the first one follows `start`. -/
def Linked (follows leaves : Event → Link) : Link → List Event → Prop
  | _, [] => True
  | start, event :: rest =>
    follows event = start ∧ Linked follows leaves (leaves event) rest

/-- Pass exactly `count` events, starting at a link.  There is no result when
some link on the way is followed by no event. -/
def walk (map : HashMap Link Event) (leaves : Event → Link) :
    Nat → Link → Option (List Event)
  | 0, _ => some []
  | count + 1, link =>
    match map.get link with
    | none => none
    | some event => (walk map leaves count (leaves event)).map (event :: ·)

theorem walk_of_linked {map : HashMap Link Event} {events : List Event}
    {start : Link} (linked : Linked follows leaves start events)
    (stored : ∀ event ∈ events, map.get (follows event) = some event) :
    walk map leaves events.length start = some events := by
  induction events generalizing start with
  | nil => rfl
  | cons event rest ih =>
    obtain ⟨startsHere, linkedRest⟩ := linked
    have found : map.get start = some event := by
      rw [← startsHere]
      exact stored event (by simp)
    have later := ih linkedRest fun other membership =>
      stored other (by simp [membership])
    simp [walk, found, later]

section Store

variable [DecidableEq Link]

def byFollowed (follows : Event → Link) (events : List Event) : HashMap Link Event :=
  events.foldl (fun map event => map.insert (follows event) event) HashMap.empty

theorem byFollowed_snoc (events : List Event) (event : Event) :
    byFollowed follows (events ++ [event]) =
      (byFollowed follows events).insert (follows event) event := by
  simp [byFollowed]

theorem of_byFollowed_get {events : List Event} {link : Link} {event : Event}
    (found : (byFollowed follows events).get link = some event) :
    event ∈ events ∧ follows event = link := by
  induction events using List.reverseRecOn with
  | nil => cases found
  | append_singleton events last ih =>
    rw [byFollowed_snoc, HashMap.get_insert] at found
    split at found
    · next same =>
      cases found
      exact ⟨by simp, same.symm⟩
    · have earlier := ih found
      exact ⟨by simp [earlier.1], earlier.2⟩

theorem byFollowed_get_of_mem {events : List Event} (distinct : (events.map follows).Nodup)
    {event : Event} (membership : event ∈ events) :
    (byFollowed follows events).get (follows event) = some event := by
  induction events using List.reverseRecOn with
  | nil => simp at membership
  | append_singleton events last ih =>
    rw [map_append, nodup_append] at distinct
    obtain ⟨distinctInit, -, apart⟩ := distinct
    rw [byFollowed_snoc, HashMap.get_insert]
    rcases mem_append.mp membership with inInit | isLast
    · have different : follows event ≠ follows last :=
        apart _ (mem_map_of_mem inInit) _ (by simp)
      rw [if_neg different]
      exact ih distinctInit inInit
    · have same : event = last := by simpa using isLast
      rw [same, if_pos rfl]

theorem of_walk {events passed : List Event} {count : Nat} {start : Link}
    (walked : walk (byFollowed follows events) leaves count start = some passed) :
    passed.length = count ∧ passed ⊆ events := by
  induction count generalizing start passed with
  | zero =>
    cases walked
    simp
  | succ count ih =>
    simp only [walk] at walked
    split at walked
    · cases walked
    · next event found =>
      obtain ⟨later, laterWalked, rfl⟩ := Option.map_eq_some_iff.mp walked
      obtain ⟨laterLength, laterStored⟩ := ih laterWalked
      refine ⟨by simp [laterLength], ?_⟩
      exact cons_subset.mpr ⟨(of_byFollowed_get found).1, laterStored⟩

theorem walk_complete {events : List Event} {start : Link}
    (linked : Linked follows leaves start events) (distinct : (events.map follows).Nodup) :
    walk (byFollowed follows events) leaves events.length start = some events :=
  walk_of_linked linked fun _ membership => byFollowed_get_of_mem distinct membership

end Store

/-! ## Distinct links -/

def links (leaves : Event → Link) (start : Link) (events : List Event) : List Link :=
  start :: events.map leaves

section
variable {events : List Event} {start : Link}

theorem linked_snoc {last : Event} :
    Linked follows leaves start (events ++ [last]) ↔
      Linked follows leaves start events ∧
        (links leaves start events).getLast? = some (follows last) := by
  induction events generalizing start with
  | nil => simp [Linked, links, eq_comm]
  | cons event rest ih =>
    simp only [cons_append, Linked, ih, links, map_cons, getLast?_cons_cons, and_assoc]

section
variable (linked : Linked follows leaves start events)
include linked

theorem follows_mem_dropLast :
    events.map follows = (links leaves start events).dropLast := by
  induction events generalizing start with
  | nil => rfl
  | cons event rest ih =>
    obtain ⟨startsHere, linkedRest⟩ := linked
    simp only [map_cons, startsHere, ih linkedRest, links, dropLast_cons_cons]

section
variable
  (determined : ∀ first ∈ events, ∀ second ∈ events, leaves first = leaves second → follows first = follows second)
  (fresh : ∀ event ∈ events, leaves event ≠ start)
include determined fresh

theorem links_nodup :
    (links leaves start events).Nodup := by
  induction events using List.reverseRecOn with
  | nil => simp [links]
  | append_singleton events last ih =>
    obtain ⟨linkedInit, endsAt⟩ := linked_snoc.mp linked
    have distinct := ih linkedInit
      (fun first firstMem second secondMem =>
        determined first (by simp [firstMem]) second (by simp [secondMem]))
      (fun event membership => fresh event (by simp [membership]))
    obtain ⟨shorter, shape⟩ := getLast?_eq_some_iff.mp endsAt
    have unrepeated : follows last ∉ shorter := by
      rw [shape] at distinct
      exact fun repeated =>
        (nodup_append.mp distinct).2.2 _ repeated _ (by simp) rfl
    have newLink : leaves last ∉ links leaves start events := by
      intro membership
      rcases mem_cons.mp membership with isStart | isEarlier
      · exact fresh last (by simp) isStart
      · obtain ⟨earlier, earlierMem, sameLink⟩ := mem_map.mp isEarlier
        have sameFollowed := determined earlier (by simp [earlierMem]) last (by simp)
          sameLink
        have dropped := follows_mem_dropLast linkedInit
        rw [shape, dropLast_concat] at dropped
        apply unrepeated
        rw [← sameFollowed, ← dropped]
        exact mem_map_of_mem earlierMem
    have grown : links leaves start (events ++ [last]) =
        links leaves start events ++ [leaves last] := by
      simp [links]
    rw [grown]
    exact nodup_append.mpr ⟨distinct, by simp, by
      intro link linkMem other otherMem equal
      rw [mem_singleton.mp otherMem] at equal
      exact newLink (equal ▸ linkMem)⟩

theorem follows_nodup :
    (events.map follows).Nodup := by
  rw [follows_mem_dropLast linked]
  exact (links_nodup linked determined fresh).sublist (dropLast_sublist _)

end

end

end

end AutoLoop.LinkedChain
