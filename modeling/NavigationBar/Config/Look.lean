import NavigationBar.Config.Basic
import NavigationBar.Host.Snapshot

/-!
# What a configuration asks for

Whether the bar vibrates, which layout a viewport gets, and which items have labels.
-/

namespace NavigationBar

/-- Whether the bar vibrates at a gesture. What leads to another page has a switch of its own. By
default it vibrates at a hold and at a double tap that do something else. -/
def Haptics.applies (h : Option Haptics) (g : Gesture) (isNavigation : Bool) : Bool :=
  match h with
  | some (.uniform on) => on
  | some (.switches s) => ofSwitches s
  | none => ofSwitches {}
where
  /-- What the switches say. -/
  ofSwitches (s : HapticSwitches) : Bool :=
    if isNavigation then s.url.getD false
    else
      match g with
      | .tap => s.tapAction.getD false
      | .hold => s.holdAction.getD true
      | .doubleTap => s.doubleTapAction.getD true

namespace Config

/-- Whether a viewport of a width gets the desktop layout. -/
def isDesktop (c : Config) (width : Nat) : Bool :=
  c.desktop.minWidth ≤ width

/-- Which items have labels in a layout. -/
def labels (c : Config) (l : Layout) : LabelVisibility :=
  if l.isDesktop then c.desktop.labels else c.mobile.labels

/-- Whether the labels of popup entries have a background in a layout. -/
def labelBackgrounds (c : Config) (l : Layout) : Bool :=
  if l.isDesktop then c.desktop.labelBackgrounds else c.mobile.labelBackgrounds

/-- Whether the bar is hidden in a layout, as it is written. -/
def hiddenField (c : Config) (l : Layout) : Option Json :=
  if l.isDesktop then c.desktop.hidden else c.mobile.hidden

end Config

namespace LabelVisibility

/-- Whether routes have labels. -/
def onRoutes : LabelVisibility → Bool
  | all on => on
  | only .popupOnly => false
  | only .routesOnly => true

/-- Whether popup entries have labels. -/
def onEntries : LabelVisibility → Bool
  | all on => on
  | only .popupOnly => true
  | only .routesOnly => false

end LabelVisibility

end NavigationBar
