import NavigationBar.Config.Item

/-!
# Configurations

A configuration lists the routes of the bar and says how the bar looks on desktop and mobile
viewports, when it vibrates, and which media player it shows.
-/

namespace NavigationBar

/-- When the bar vibrates, by what happens; unset ones have defaults of their own. -/
structure HapticSwitches where
  /-- On navigation to the page of an item. -/
  url : Option Bool := none
  /-- On a tap action. -/
  tapAction : Option Bool := none
  /-- On a hold action. -/
  holdAction : Option Bool := none
  /-- On a double tap action. -/
  doubleTapAction : Option Bool := none
deriving DecidableEq, Repr, Inhabited

/-- When the bar vibrates. -/
inductive Haptics where
  /-- Always or never. -/
  | uniform (on : Bool)
  /-- It depends on what happens. -/
  | switches (s : HapticSwitches)
deriving DecidableEq, Repr, Inhabited

namespace Haptics

open Decode in
/-- The written form of haptic switches. -/
def record : Record HapticSwitches where
  name := "HapticActions"
  fields := [
    .of "url" (nullable flag) fun s url => { s with url },
    .of "tap_action" (nullable flag) fun s tapAction => { s with tapAction },
    .of "hold_action" (nullable flag) fun s holdAction => { s with holdAction },
    .of "double_tap_action" (nullable flag) fun s doubleTapAction => { s with doubleTapAction }]
  initial := {}

/-- Decodes haptic settings. -/
def decode : Decode.Decoder Haptics :=
  Decode.either Decode.flag record.decode uniform switches "HapticConfig"

/-- Haptic settings as a JSON value. -/
def toJson : Haptics → Json
  | uniform on => .bool on
  | switches s => .object (presentFields [
      ("url", s.url.map .bool),
      ("tap_action", s.tapAction.map .bool),
      ("hold_action", s.holdAction.map .bool),
      ("double_tap_action", s.doubleTapAction.map .bool)])

end Haptics

/-- Which items have labels, when not all or none. -/
inductive LabelMode where
  /-- The entries of popups. -/
  | popupOnly
  /-- The routes. -/
  | routesOnly
deriving DecidableEq, Repr

/-- Which items have labels. -/
inductive LabelVisibility where
  /-- All or none. -/
  | all (on : Bool)
  /-- One kind of them. -/
  | only (mode : LabelMode)
deriving DecidableEq, Repr, Inhabited

namespace LabelVisibility

/-- Decodes which items have labels. -/
def decode : Decode.Decoder LabelVisibility :=
  Decode.either Decode.flag
    (Decode.name [("popup_only", LabelMode.popupOnly), ("routes_only", LabelMode.routesOnly)])
    all only "LabelVisibility"

/-- Which items have labels, as a JSON value. -/
def toJson : LabelVisibility → Json
  | all on => .bool on
  | only .popupOnly => .string "popup_only"
  | only .routesOnly => .string "routes_only"

end LabelVisibility

/-- How the bar sits on the page. -/
inductive DisplayMode where
  /-- Over the page, with a margin around it. -/
  | floating
  /-- Along an edge of the page. -/
  | docked
deriving DecidableEq, Repr, Inhabited

namespace DisplayMode

/-- The names of the modes. -/
def table : List (String × DisplayMode) := [("floating", floating), ("docked", docked)]

/-- The name of a mode. -/
def name : DisplayMode → String
  | floating => "floating"
  | docked => "docked"

/-- Decodes a mode. -/
def decode : Decode.Decoder DisplayMode := Decode.name table

end DisplayMode

/-- The edge of a desktop viewport at which the bar sits. -/
inductive Edge where
  /-- At the top. -/
  | top
  /-- At the left. -/
  | left
  /-- At the bottom. -/
  | bottom
  /-- At the right. -/
  | right
deriving DecidableEq, Repr, Inhabited

namespace Edge

/-- The name of an edge. -/
def name : Edge → String
  | top => "top"
  | left => "left"
  | bottom => "bottom"
  | right => "right"

/-- Decodes an edge. -/
def decode : Decode.Decoder Edge :=
  Decode.name [("top", top), ("left", left), ("bottom", bottom), ("right", right)]

end Edge

/-- The place of the media player on a desktop viewport. -/
inductive Corner where
  /-- At the top left. -/
  | topLeft
  /-- At the top, in the middle. -/
  | topCenter
  /-- At the top right. -/
  | topRight
  /-- At the bottom left. -/
  | bottomLeft
  /-- At the bottom, in the middle. -/
  | bottomCenter
  /-- At the bottom right. -/
  | bottomRight
deriving DecidableEq, Repr, Inhabited

namespace Corner

/-- The name of a place. -/
def name : Corner → String
  | topLeft => "top-left"
  | topCenter => "top-center"
  | topRight => "top-right"
  | bottomLeft => "bottom-left"
  | bottomCenter => "bottom-center"
  | bottomRight => "bottom-right"

/-- Decodes a place. -/
def decode : Decode.Decoder Corner :=
  Decode.name [("top-left", topLeft), ("top-center", topCenter), ("top-right", topRight),
    ("bottom-left", bottomLeft), ("bottom-center", bottomCenter), ("bottom-right", bottomRight)]

end Corner

/-- How the bar looks on a desktop viewport. -/
structure DesktopLook where
  /-- How it sits on the page. -/
  mode : DisplayMode := .floating
  /-- Which items have labels. -/
  labels : LabelVisibility := .all false
  /-- Whether the labels of popup entries have a background. -/
  labelBackgrounds : Bool := false
  /-- The viewport width from which on this look is used. -/
  minWidth : Nat := 768
  /-- The edge at which it sits. -/
  position : Edge := .bottom
  /-- Whether it is hidden. -/
  hidden : Option Json := none
deriving Inhabited

namespace DesktopLook

open Decode in
/-- The written form of desktop looks. -/
def record : Record DesktopLook where
  name := "DesktopConfig"
  fields := [
    .of "mode" DisplayMode.decode fun d mode => { d with mode },
    .of "show_labels" LabelVisibility.decode fun d labels => { d with labels },
    .of "show_popup_label_backgrounds" flag fun d labelBackgrounds => { d with labelBackgrounds },
    .of "min_width" (natural (twoTo 32 - 1) "u32") fun d minWidth => { d with minWidth },
    .of "position" Edge.decode fun d position => { d with position },
    .of "hidden" (nullable value) fun d hidden => { d with hidden }]
  initial := {}

/-- A desktop look as a JSON value. -/
def toJson (d : DesktopLook) : Json :=
  .object ([
    ("mode", .string d.mode.name),
    ("show_labels", d.labels.toJson),
    ("show_popup_label_backgrounds", .bool d.labelBackgrounds),
    ("min_width", .int d.minWidth),
    ("position", .string d.position.name)] ++ presentFields [("hidden", d.hidden)])

end DesktopLook

/-- How the bar looks on a mobile viewport. -/
structure MobileLook where
  /-- How it sits on the page. -/
  mode : DisplayMode := .docked
  /-- Which items have labels. -/
  labels : LabelVisibility := .all false
  /-- Whether the labels of popup entries have a background. -/
  labelBackgrounds : Bool := false
  /-- Whether it is hidden. -/
  hidden : Option Json := none
deriving Inhabited

namespace MobileLook

open Decode in
/-- The written form of mobile looks. -/
def record : Record MobileLook where
  name := "MobileConfig"
  fields := [
    .of "mode" DisplayMode.decode fun m mode => { m with mode },
    .of "show_labels" LabelVisibility.decode fun m labels => { m with labels },
    .of "show_popup_label_backgrounds" flag fun m labelBackgrounds => { m with labelBackgrounds },
    .of "hidden" (nullable value) fun m hidden => { m with hidden }]
  initial := {}

/-- A mobile look as a JSON value. -/
def toJson (m : MobileLook) : Json :=
  .object ([
    ("mode", .string m.mode.name),
    ("show_labels", m.labels.toJson),
    ("show_popup_label_backgrounds", .bool m.labelBackgrounds)] ++
      presentFields [("hidden", m.hidden)])

end MobileLook

/-- The media player that the bar shows. -/
structure Player where
  /-- The entity that plays. -/
  entity : Option Json := none
  /-- Whether it is shown. -/
  show? : Option Json := none
  /-- Whether the cover of the album is its background. -/
  coverBackground : Bool := false
  /-- Its place on a desktop viewport. -/
  position : Corner := .bottomCenter
  /-- What a tap on it does. -/
  tapAction : Option Action := none
  /-- What a hold on it does. -/
  holdAction : Option Action := none
  /-- What a double tap on it does. -/
  doubleTapAction : Option Action := none
deriving Inhabited

namespace Player

open Decode in
/-- The written form of media players. -/
def record : Record Player where
  name := "MediaPlayerConfig"
  fields := [
    .of "entity" (nullable value) fun p entity => { p with entity },
    .of "show" (nullable value) fun p show? => { p with show? },
    .of "album_cover_background" flag fun p coverBackground => { p with coverBackground },
    .of "desktop_position" Corner.decode fun p position => { p with position },
    .of "tap_action" (nullable Action.decode) fun p tapAction => { p with tapAction },
    .of "hold_action" (nullable Action.decode) fun p holdAction => { p with holdAction },
    .of "double_tap_action" (nullable Action.decode)
      fun p doubleTapAction => { p with doubleTapAction }]
  initial := {}

/-- Decodes a media player. -/
def decode : Decode.Decoder Player := record.decode

/-- A media player as a JSON value. -/
def toJson (p : Player) : Json :=
  .object (presentFields [("entity", p.entity), ("show", p.show?)] ++ [
    ("album_cover_background", .bool p.coverBackground),
    ("desktop_position", .string p.position.name)] ++ presentFields [
    ("tap_action", p.tapAction.map Action.toJson),
    ("hold_action", p.holdAction.map Action.toJson),
    ("double_tap_action", p.doubleTapAction.map Action.toJson)])

/-- The action for a gesture. -/
def actionFor (p : Player) : Gesture → Option Action
  | .tap => p.tapAction
  | .hold => p.holdAction
  | .doubleTap => p.doubleTapAction

end Player

/-- A configuration of the bar. -/
structure Config where
  /-- The routes. -/
  routes : List Route := []
  /-- The media player. -/
  player : Option Player := none
  /-- The name of the template that the configuration was laid over. -/
  template : Option String := none
  /-- The look on desktop viewports. -/
  desktop : DesktopLook := {}
  /-- The look on mobile viewports. -/
  mobile : MobileLook := {}
  /-- When the bar vibrates. -/
  haptics : Option Haptics := none
deriving Inhabited

namespace Config

open Decode in
/-- The written form of configurations. -/
def record : Record Config where
  name := "NavbarConfig"
  fields := [
    (Field.of "routes" (list Route.decode) fun c routes => { c with routes }).needed .required,
    .of "media_player" (nullable Player.decode) fun c player => { c with player },
    .of "template" (nullable text) fun c template => { c with template },
    .of "desktop" DesktopLook.record.decode fun c desktop => { c with desktop },
    .of "mobile" MobileLook.record.decode fun c mobile => { c with mobile },
    .of "haptic" (nullable Haptics.decode) fun c haptics => { c with haptics }]
  initial := {}

/-- Decodes a configuration. -/
def decode : Decode.Decoder Config := record.decode

/-- A configuration as a JSON value. -/
def toJson (c : Config) : Json :=
  .object ([("routes", .array (c.routes.map Route.toJson))] ++ presentFields [
    ("media_player", c.player.map Player.toJson),
    ("template", c.template.map .string)] ++ [
    ("desktop", c.desktop.toJson),
    ("mobile", c.mobile.toJson)] ++ presentFields [
    ("haptic", c.haptics.map Haptics.toJson)])

end Config

end NavigationBar
