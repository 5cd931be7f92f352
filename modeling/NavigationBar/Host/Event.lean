import NavigationBar.Decode.Tagged

/-!
# Gestures and host events

The gestures the bar tells apart, and the requests it sends to its host, which carries them out.
Both have a written form: a gesture is its name, an event an object with its kind under `type`.
-/

namespace NavigationBar

/-- A gesture on an item. -/
inductive Gesture where
  /-- A short press. -/
  | tap
  /-- A long press. -/
  | hold
  /-- Two short presses in a row. -/
  | doubleTap
deriving DecidableEq, Repr, Inhabited

namespace Gesture

/-- The name of a gesture. -/
def name : Gesture → String
  | tap => "tap"
  | hold => "hold"
  | doubleTap => "double_tap"

/-- The key under which configurations put the action for a gesture. -/
def actionKey : Gesture → String
  | tap => "tap_action"
  | hold => "hold_action"
  | doubleTap => "double_tap_action"

/-- Decodes a gesture. -/
def decode : Decode.Decoder Gesture :=
  Decode.name [("tap", tap), ("hold", hold), ("double_tap", doubleTap)]

end Gesture

/-- The element of the page that a gesture meets. -/
abbrev Target := String

/-- A request to the host. -/
inductive Event where
  /-- Vibrate briefly. -/
  | haptic
  /-- Stop the ripple of an element. -/
  | resetRipple (target : Target)
  /-- Show the popup of a route, next to an element. -/
  | openPopup (route : Nat) (target : Target)
  /-- Begin to hide the popup of a route. -/
  | closePopup (route : Nat)
  /-- Take the popup of a route off the page, its transition being over. -/
  | popupRemoved (route : Nat)
  /-- Show or hide the side menu. -/
  | toggleMenu
  /-- Show the notifications. -/
  | showNotifications
  /-- Press a key. -/
  | keyDown (key : Char)
  /-- Go back to the page before. -/
  | historyBack
  /-- Go to a page. -/
  | navigate (path : String)
  /-- Edit the dashboard. -/
  | forceEditMode
  /-- Log the user out. -/
  | logout
  /-- Run an action of the host's own. -/
  | action (gesture : Gesture) (config : Json) (entity : Option String)
  /-- Call a service of the host. -/
  | callService (domain service : String) (data : Json)
deriving Inhabited

namespace Event

open Decode in
/-- The written form of events. -/
def tagged : Tagged Event where
  name := "HostEvent"
  key := "type"
  alternatives := [
    .fields "haptic"
      { name := "HostEvent::Haptic"
        fields := [
          (Field.of "kind" (Decode.name [("selection", ())]) fun _ k => k).needed .required]
        initial := () }
      fun _ => haptic,
    .fields "reset-ripple"
      { name := "HostEvent::ResetRipple"
        fields := [(Field.of "target" text fun _ t => t).needed .required]
        initial := "" }
      resetRipple,
    .fields "open-popup"
      { name := "HostEvent::OpenPopup"
        fields := [
          (Field.of "route" index fun p r => (r, p.2)).needed .required,
          (Field.of "target" text fun p t => (p.1, t)).needed .required]
        initial := (0, "") }
      fun (r, t) => openPopup r t,
    .fields "close-popup"
      { name := "HostEvent::ClosePopup"
        fields := [(Field.of "route" index fun _ r => r).needed .required]
        initial := 0 }
      closePopup,
    .fields "popup-removed"
      { name := "HostEvent::PopupRemoved"
        fields := [(Field.of "route" index fun _ r => r).needed .required]
        initial := 0 }
      popupRemoved,
    .plain "toggle-menu" toggleMenu,
    .plain "show-notifications" showNotifications,
    .fields "key-down"
      { name := "HostEvent::KeyDown"
        fields := [(Field.of "key" character fun _ c => c).needed .required]
        initial := ' ' }
      keyDown,
    .plain "history-back" historyBack,
    .fields "navigate"
      { name := "HostEvent::Navigate"
        fields := [(Field.of "path" text fun _ p => p).needed .required]
        initial := "" }
      navigate,
    .plain "force-edit-mode" forceEditMode,
    .plain "logout" logout,
    .fields "action"
      { name := "HostEvent::Action"
        fields := [
          (Field.of "gesture" Gesture.decode fun p g => (g, p.2)).needed .required,
          (Field.of "config" value fun p c => (p.1, c, p.2.2)).needed .required,
          (Field.of "entity" (nullable text) fun p e => (p.1, p.2.1, e)).needed .listed]
        initial := (Gesture.tap, Json.null, none) }
      fun (g, c, e) => action g c e,
    .fields "call-service"
      { name := "HostEvent::CallService"
        fields := [
          (Field.of "domain" text fun p d => (d, p.2)).needed .required,
          (Field.of "service" text fun p s => (p.1, s, p.2.2)).needed .required,
          (Field.of "data" value fun p d => (p.1, p.2.1, d)).needed .required]
        initial := ("", "", Json.null) }
      fun (d, s, v) => callService d s v]

/-- Decodes an event. -/
def decode : Decode.Decoder Event := tagged.decode

/-- An optional text as a JSON value. -/
def optionalText : Option String → Json
  | none => .null
  | some s => .string s

/-- An event as a JSON value. -/
def toJson : Event → Json
  | haptic => .object [("kind", .string "selection"), ("type", .string "haptic")]
  | resetRipple t => .object [("target", .string t), ("type", .string "reset-ripple")]
  | openPopup r t =>
    .object [("route", .int r), ("target", .string t), ("type", .string "open-popup")]
  | closePopup r => .object [("route", .int r), ("type", .string "close-popup")]
  | popupRemoved r => .object [("route", .int r), ("type", .string "popup-removed")]
  | toggleMenu => .object [("type", .string "toggle-menu")]
  | showNotifications => .object [("type", .string "show-notifications")]
  | keyDown c => .object [("key", .string (String.singleton c)), ("type", .string "key-down")]
  | historyBack => .object [("type", .string "history-back")]
  | navigate p => .object [("path", .string p), ("type", .string "navigate")]
  | forceEditMode => .object [("type", .string "force-edit-mode")]
  | logout => .object [("type", .string "logout")]
  | action g c e =>
    .object [("config", c), ("entity", optionalText e), ("gesture", .string g.name),
      ("type", .string "action")]
  | callService d s v =>
    .object [("data", v), ("domain", .string d), ("service", .string s),
      ("type", .string "call-service")]

end Event

end NavigationBar
