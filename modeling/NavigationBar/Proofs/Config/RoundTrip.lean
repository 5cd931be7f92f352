import NavigationBar.Config.Load
import NavigationBar.Proofs.Config.Items

/-!
# Configurations and their written forms

A configuration that was loaded is loaded again, as it was, from what is written of it. Each section
of a configuration round trips because its slots do, and what a route lacks is a matter of the
configuration alone.
-/

namespace NavigationBar

open Decode

namespace HapticSwitches

/-- The slots of haptic switches. -/
def slots : List (Slot HapticSwitches) := [
  .optional "url" flag .bool HapticSwitches.url fun s url => { s with url },
  .optional "tap_action" flag .bool HapticSwitches.tapAction
    fun s tapAction => { s with tapAction },
  .optional "hold_action" flag .bool HapticSwitches.holdAction
    fun s holdAction => { s with holdAction },
  .optional "double_tap_action" flag .bool HapticSwitches.doubleTapAction
    fun s doubleTapAction => { s with doubleTapAction }]

theorem describes : Describes slots Haptics.record where
  fields_eq := rfl
  keys_nodup := by decide
  get_keep := by simp [slots, Slot.optional]
  get_keep_other := by simp [slots, Slot.optional]
  ext := by
    rintro ⟨⟩ ⟨⟩ h
    simpa [slots, Slot.optional] using h
  initial := by simp [slots, Slot.optional, Haptics.record, Slot.yields_none]

theorem slots_roundTrip : ∀ s ∈ slots, s.RoundTrips Haptics.record.initial := by
  have hflag := @Slot.optional_roundTrips HapticSwitches _ _ _ flag_roundTrips nofun
  simp [slots, hflag, Haptics.record]

end HapticSwitches

namespace Haptics

theorem toJson_switches (s : HapticSwitches) :
    toJson (switches s) = .object (Slot.members HapticSwitches.slots s) := by
  rw [members_eq_presentFields]
  rfl

/-- Haptic settings are read again from what is written of them. -/
theorem roundTrips : RoundTrips decode toJson := by
  change RoundTrips (either flag record.decode uniform switches "HapticConfig") toJson
  have hswitches := HapticSwitches.describes.roundTrips HapticSwitches.slots_roundTrip
  refine either_roundTrips flag_roundTrips hswitches nofun (fun on => ?_) (fun s => ?_) _
  · rfl
  · exact toJson_switches s

end Haptics

namespace LabelVisibility

/-- The name of a kind of items. -/
def modeName : LabelMode → String
  | .popupOnly => "popup_only"
  | .routesOnly => "routes_only"

/-- Which items have labels is read again from what is written of it. -/
theorem roundTrips : RoundTrips decode toJson := by
  have hmode : RoundTrips (name [("popup_only", .popupOnly), ("routes_only", .routesOnly)])
      fun mode => .string (modeName mode) :=
    name_roundTrips modeName fun mode => by cases mode <;> rfl
  change RoundTrips (either flag (name _) all only "LabelVisibility") toJson
  refine either_roundTrips flag_roundTrips hmode nofun (fun on => ?_) (fun mode => ?_) _
  · rfl
  · cases mode <;> rfl

end LabelVisibility

theorem DisplayMode.roundTrips : RoundTrips DisplayMode.decode fun m => .string m.name :=
  name_roundTrips DisplayMode.name fun m => by cases m <;> rfl

theorem Edge.roundTrips : RoundTrips Edge.decode fun e => .string e.name :=
  name_roundTrips Edge.name fun e => by cases e <;> rfl

theorem Corner.roundTrips : RoundTrips Corner.decode fun c => .string c.name :=
  name_roundTrips Corner.name fun c => by cases c <;> rfl

namespace DesktopLook

/-- The slots of desktop looks. -/
def slots : List (Slot DesktopLook) := [
  .always "mode" DisplayMode.decode (fun m => .string m.name) DesktopLook.mode
    fun d mode => { d with mode },
  .always "show_labels" LabelVisibility.decode LabelVisibility.toJson DesktopLook.labels
    fun d labels => { d with labels },
  .always "show_popup_label_backgrounds" flag .bool DesktopLook.labelBackgrounds
    fun d labelBackgrounds => { d with labelBackgrounds },
  .always "min_width" (natural (twoTo 32 - 1) "u32") (fun n => .int n) DesktopLook.minWidth
    fun d minWidth => { d with minWidth },
  .always "position" Edge.decode (fun e => .string e.name) DesktopLook.position
    fun d position => { d with position },
  .raw "hidden" DesktopLook.hidden fun d hidden => { d with hidden }]

theorem describes : Describes slots record where
  fields_eq := rfl
  keys_nodup := by decide
  get_keep := by simp [slots, Slot.always, Slot.raw]
  get_keep_other := by simp [slots, Slot.always, Slot.raw]
  ext := by
    rintro ⟨⟩ ⟨⟩ h
    simpa [slots, Slot.always, Slot.raw] using h
  initial := by
    have hmode : Yields DisplayMode.decode .floating := ⟨.document, _, .string "floating", rfl⟩
    have hlabels : Yields LabelVisibility.decode (.all false) := ⟨.document, _, .bool false, rfl⟩
    have hflag : Yields flag false := ⟨.document, _, .bool false, rfl⟩
    have hwidth : Yields (natural (twoTo 32 - 1) "u32") 768 :=
      ⟨.document, _, .int 768 (by decide) (by decide), rfl⟩
    have hedge : Yields Edge.decode .bottom := ⟨.document, _, .string "bottom", rfl⟩
    simp [slots, Slot.always, Slot.raw, record, Slot.yields_none, hmode, hlabels, hflag, hwidth,
      hedge]

theorem slots_roundTrip : ∀ s ∈ slots, s.RoundTrips record.initial := by
  have hwidth := natural_roundTrips (twoTo 32 - 1) (by decide) "u32"
  simp [slots, Slot.always_roundTrips DisplayMode.roundTrips,
    Slot.always_roundTrips LabelVisibility.roundTrips, Slot.always_roundTrips flag_roundTrips,
    Slot.always_roundTrips hwidth, Slot.always_roundTrips Edge.roundTrips, Slot.raw_roundTrips,
    record]

theorem toJson_eq (d : DesktopLook) : d.toJson = .object (Slot.members slots d) := by
  rw [members_eq_presentFields]
  rfl

/-- Desktop looks are read again from what is written of them. -/
theorem roundTrips : RoundTrips record.decode toJson := by
  rw [funext toJson_eq]
  exact describes.roundTrips slots_roundTrip

end DesktopLook

namespace MobileLook

/-- The slots of mobile looks. -/
def slots : List (Slot MobileLook) := [
  .always "mode" DisplayMode.decode (fun m => .string m.name) MobileLook.mode
    fun m mode => { m with mode },
  .always "show_labels" LabelVisibility.decode LabelVisibility.toJson MobileLook.labels
    fun m labels => { m with labels },
  .always "show_popup_label_backgrounds" flag .bool MobileLook.labelBackgrounds
    fun m labelBackgrounds => { m with labelBackgrounds },
  .raw "hidden" MobileLook.hidden fun m hidden => { m with hidden }]

theorem describes : Describes slots record where
  fields_eq := rfl
  keys_nodup := by decide
  get_keep := by simp [slots, Slot.always, Slot.raw]
  get_keep_other := by simp [slots, Slot.always, Slot.raw]
  ext := by
    rintro ⟨⟩ ⟨⟩ h
    simpa [slots, Slot.always, Slot.raw] using h
  initial := by
    have hmode : Yields DisplayMode.decode .docked := ⟨.document, _, .string "docked", rfl⟩
    have hlabels : Yields LabelVisibility.decode (.all false) := ⟨.document, _, .bool false, rfl⟩
    have hflag : Yields flag false := ⟨.document, _, .bool false, rfl⟩
    simp [slots, Slot.always, Slot.raw, record, Slot.yields_none, hmode, hlabels, hflag]

theorem slots_roundTrip : ∀ s ∈ slots, s.RoundTrips record.initial := by
  simp [slots, Slot.always_roundTrips DisplayMode.roundTrips,
    Slot.always_roundTrips LabelVisibility.roundTrips, Slot.always_roundTrips flag_roundTrips,
    Slot.raw_roundTrips, record]

theorem toJson_eq (m : MobileLook) : m.toJson = .object (Slot.members slots m) := by
  rw [members_eq_presentFields]
  rfl

/-- Mobile looks are read again from what is written of them. -/
theorem roundTrips : RoundTrips record.decode toJson := by
  rw [funext toJson_eq]
  exact describes.roundTrips slots_roundTrip

end MobileLook

namespace Player

/-- The slots of media players. -/
def slots : List (Slot Player) := [
  .raw "entity" Player.entity fun p entity => { p with entity },
  .raw "show" Player.show? fun p show? => { p with show? },
  .always "album_cover_background" flag .bool Player.coverBackground
    fun p coverBackground => { p with coverBackground },
  .always "desktop_position" Corner.decode (fun c => .string c.name) Player.position
    fun p position => { p with position },
  .optional "tap_action" Action.decode Action.toJson Player.tapAction
    fun p tapAction => { p with tapAction },
  .optional "hold_action" Action.decode Action.toJson Player.holdAction
    fun p holdAction => { p with holdAction },
  .optional "double_tap_action" Action.decode Action.toJson Player.doubleTapAction
    fun p doubleTapAction => { p with doubleTapAction }]

theorem describes : Describes slots record where
  fields_eq := rfl
  keys_nodup := by decide
  get_keep := by simp [slots, Slot.always, Slot.optional, Slot.raw]
  get_keep_other := by simp [slots, Slot.always, Slot.optional, Slot.raw]
  ext := by
    rintro ⟨⟩ ⟨⟩ h
    simpa [slots, Slot.always, Slot.optional, Slot.raw] using h
  initial := by
    have hflag : Yields flag false := ⟨.document, _, .bool false, rfl⟩
    have hcorner : Yields Corner.decode .bottomCenter :=
      ⟨.document, _, .string "bottom-center", rfl⟩
    simp [slots, Slot.always, Slot.optional, Slot.raw, record, Slot.yields_none, hflag, hcorner]

theorem slots_roundTrip : ∀ s ∈ slots, s.RoundTrips record.initial := by
  have haction := @Slot.optional_roundTrips Player _ _ _ Action.roundTrips nofun
  simp [slots, haction, Slot.always_roundTrips flag_roundTrips,
    Slot.always_roundTrips Corner.roundTrips, Slot.raw_roundTrips, record]

theorem toJson_eq (p : Player) : p.toJson = .object (Slot.members slots p) := by
  rw [members_eq_presentFields]
  obtain ⟨entity, show?, coverBackground, position, tapAction, holdAction, doubleTapAction⟩ := p
  cases entity <;> cases show? <;> rfl

/-- Media players are read again from what is written of them. -/
theorem roundTrips : RoundTrips decode toJson := by
  rw [funext toJson_eq]
  exact describes.roundTrips slots_roundTrip

end Player

namespace Config

/-- The slots of configurations. -/
def slots : List (Slot Config) := [
  (Slot.always "routes" (list Route.decode) (fun rs => .array (rs.map Route.toJson)) Config.routes
    fun c routes => { c with routes }).needed .required,
  .optional "media_player" Player.decode Player.toJson Config.player
    fun c player => { c with player },
  .optional "template" text .string Config.template fun c template => { c with template },
  .always "desktop" DesktopLook.record.decode DesktopLook.toJson Config.desktop
    fun c desktop => { c with desktop },
  .always "mobile" MobileLook.record.decode MobileLook.toJson Config.mobile
    fun c mobile => { c with mobile },
  .optional "haptic" Haptics.decode Haptics.toJson Config.haptics
    fun c haptics => { c with haptics }]

theorem describes : Describes slots record where
  fields_eq := rfl
  keys_nodup := by decide
  get_keep := by simp [slots, Slot.always, Slot.optional, Slot.needed]
  get_keep_other := by simp [slots, Slot.always, Slot.optional, Slot.needed]
  ext := by
    rintro ⟨⟩ ⟨⟩ h
    simpa [slots, Slot.always, Slot.optional, Slot.needed] using h
  initial := by
    have hroutes : Yields (list Route.decode) [] :=
      ⟨.document, _, .array [] (List.forall_mem_nil _), rfl⟩
    have hempty : (Json.object []).WellFormed := .object [] .nil (List.forall_mem_nil _)
    have hdesktop : Yields DesktopLook.record.decode {} := ⟨.document, _, hempty, rfl⟩
    have hmobile : Yields MobileLook.record.decode {} := ⟨.document, _, hempty, rfl⟩
    simp [slots, Slot.always, Slot.optional, Slot.needed, record, Slot.yields_none, hroutes,
      hdesktop, hmobile]

theorem slots_roundTrip : ∀ s ∈ slots, s.RoundTrips record.initial := by
  intro s hs
  simp only [slots, List.mem_cons, List.not_mem_nil, or_false] at hs
  rcases hs with rfl | rfl | rfl | rfl | rfl | rfl
  · exact Slot.needed_roundTrips Route.roundTrips.list _ _ _ _ _
  · exact Slot.optional_roundTrips Player.roundTrips (fun _ _ h => by cases h) _ _ _ rfl
  · exact Slot.optional_roundTrips text_roundTrips (fun _ _ h => by cases h) _ _ _ rfl
  · exact Slot.always_roundTrips DesktopLook.roundTrips _ _ _ _
  · exact Slot.always_roundTrips MobileLook.roundTrips _ _ _ _
  · exact Slot.optional_roundTrips Haptics.roundTrips (fun _ _ h => by cases h) _ _ _ rfl

theorem toJson_eq (c : Config) : c.toJson = .object (Slot.members slots c) := by
  rw [members_eq_presentFields]
  obtain ⟨routes, player, template, desktop, mobile, haptics⟩ := c
  cases player <;> cases template <;> rfl

/-- Configurations are read again from what is written of them. -/
theorem roundTrips : RoundTrips decode toJson := by
  rw [funext toJson_eq]
  exact describes.roundTrips slots_roundTrip

end Config

end NavigationBar
