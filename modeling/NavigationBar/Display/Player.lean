import NavigationBar.Config.Look
import NavigationBar.Template.Resolve

/-!
# The media player

Whether the media player shows, for which entity, and what its buttons ask of the host.
-/

namespace NavigationBar

/-- Whether the media player shows. -/
inductive PlayerStatus where
  /-- It does not. -/
  | hidden
  /-- It shows that there is no such entity. -/
  | missing (entity : String)
  /-- It shows an entity. -/
  | visible (entity : String)
deriving DecidableEq, Repr, Inhabited

namespace PlayerStatus

/-- Whether anything shows. -/
def isVisible : PlayerStatus → Bool
  | hidden => false
  | missing _ => true
  | visible _ => true

/-- The words that are shown in place of a player. -/
def errorText (entity : String) : String :=
  "Entity not found \"" ++ entity ++ "\""

end PlayerStatus

namespace Entity

/-- The states of a player in which it shows by default. -/
def activeStates : List String := ["playing", "paused"]

/-- How much of a track has been played. -/
def progress? (e : Entity) : Option Float := do
  let position ← e.number? "media_position"
  let duration ← e.number? "media_duration"
  if duration > 0 then some (position / duration) else none

end Entity

namespace Player

/-- The identifier of the entity that plays, which is empty if there is none. -/
def entityId (p : Player) (c : Template.Context) : String :=
  (p.entity.map (Template.resolveText c)).getD ""

/-- Whether a player shows. Only the mobile layout has one. -/
def status (p : Player) (s : Snapshot) (l : Layout) (c : Template.Context) : PlayerStatus :=
  let id := p.entityId c
  if l.isDesktop || id = "" then .hidden
  else
    match s.entity? id with
    | none => .missing id
    | some e =>
      let isShown := match p.show? with
        | some condition => Template.resolveFlag c condition
        | none => Entity.activeStates.contains e.state
      if isShown then .visible id else .hidden

/-- The call of a service of the player of an entity. -/
def call (service entity : String) : Event :=
  .callService "media_player" service (.object [("entity_id", .string entity)])

/-- The request to play, or to pause what plays. -/
def playPause (e : Entity) : Event :=
  call (if e.state = "playing" then "media_pause" else "media_play") e.id

/-- The request for the next track. -/
def nextTrack (entity : String) : Event :=
  call "media_next_track" entity

/-- What a tap does if nothing is configured: it shows what the host knows about the entity. -/
def defaultTap (entity : String) : Action :=
  .host [("action", .string "more-info"), ("entity", .string entity)]

/-- What a gesture on a player does. -/
def actionOn (p : Player) (c : Template.Context) (g : Gesture) : Option Action :=
  match g with
  | .tap =>
    let id := p.entityId c
    p.tapAction.or (if id = "" then none else some (defaultTap id))
  | g => p.actionFor g

end Player

/-- Whether the player of a configuration shows; without one it does not. -/
def PlayerStatus.of (p : Option Player) (s : Snapshot) (l : Layout) (c : Template.Context) :
    PlayerStatus :=
  (p.map fun p => p.status s l c).getD .hidden

end NavigationBar
