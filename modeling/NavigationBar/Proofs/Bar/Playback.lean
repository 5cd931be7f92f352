import NavigationBar.Bar.Basic
import NavigationBar.Proofs.Host.Snapshots

/-!
# Playback controls

While the media player shows an entity, each of its controls asks the host for one service, and
otherwise for none. The control for the next track names the entity that shows. The one that plays
and pauses names the identifier that this entity goes by in its own document, which need not be the
one it is found under.
-/

namespace NavigationBar

namespace Bar

/-- The bar after its host was told something at once. -/
def told (b : Bar) (e : Event) : Bar :=
  let sent := b.executor.outbox.sent ++ [(b.executor.clock.now, e)]
  { b with executor.outbox.sent := sent }

variable {b : Bar}

theorem perform_send (h : b.executor.outbox.isOpen = true) (e : Event) :
    b.after (b.executor.perform { effects := [.send e] }) = (b.told e, .ok ()) := by
  simp [Bar.after, told, Executor.perform, Executor.bringAll, Executor.bring?, Outbox.send?, h]

theorem told_injective {e e' : Event} (h : b.told e = b.told e') : e = e' := by
  have hsent := congrArg (fun b => b.executor.outbox.sent) h
  have hlast := List.append_cancel_left hsent
  simp only [List.cons.injEq, Prod.mk.injEq, true_and, and_true] at hlast
  exact hlast

/-- Whatever shows is an entity of the host. -/
theorem exists_entity_of_visible {id : String} (h : b.playerStatus = .visible id) :
    ∃ e, b.snapshot.entity? id = some e := by
  rw [playerStatus, PlayerStatus.of] at h
  cases hplayer : b.config.player with
  | none => simp [hplayer] at h
  | some p =>
    rw [hplayer, Option.map_some, Option.getD_some, Player.status] at h
    dsimp only at h
    split at h
    · cases h
    · split at h
      · cases h
      · rename_i e he
        rcases ite_eq_iff.mp h with ⟨-, h⟩ | ⟨-, h⟩
        · obtain rfl := PlayerStatus.visible.inj h
          exact ⟨e, he⟩
        · cases h

theorem playPause_of_visible (hopen : b.executor.outbox.isOpen = true) {id : String} {e : Entity}
    (h : b.playerStatus = .visible id) (he : b.snapshot.entity? id = some e) :
    b.playPause = (b.told (Player.playPause e), .ok ()) := by
  simp only [playPause, h, he, Option.map_some, Option.toList_some]
  exact perform_send hopen _

theorem nextTrack_of_visible (hopen : b.executor.outbox.isOpen = true) {id : String}
    (h : b.playerStatus = .visible id) :
    b.nextTrack = (b.told (Player.nextTrack id), .ok ()) := by
  simp only [nextTrack, h]
  exact perform_send hopen _

theorem call_eq_call {service service' id id' : String}
    (h : Player.call service id = Player.call service' id') : service = service' ∧ id = id' := by
  simpa [Player.call] using h

/-- While a media player shows an entity, each control calls one service of media players. The next
track is asked for by the identifier of the entity that shows; to play or to pause, by the one that
the document of this entity states. So the two act on one entity exactly if the document states the
identifier that it stands under. While none shows, no control does anything. -/
theorem controls_call_services (b : Bar) (v : Json) (hv : v.WellFormed)
    (hsnapshot : Snapshot.decode .document v = .ok b.snapshot)
    (hopen : b.executor.outbox.isOpen = true) :
    (∀ id, b.playerStatus = .visible id →
      b.nextTrack = (b.told (Player.call "media_next_track" id), .ok ()) ∧
      ∃ d, v.member? ["states", id] = some d ∧
        (∃ service ∈ ["media_play", "media_pause"],
          b.playPause = (b.told (Player.call service (Entity.statedId d)), .ok ())) ∧
        ((∃ service, b.playPause = (b.told (Player.call service id), .ok ())) ↔
          Entity.statedId d = id)) ∧
    ((∀ id, b.playerStatus ≠ .visible id) →
      b.playPause = (b, .ok ()) ∧ b.nextTrack = (b, .ok ())) := by
  constructor
  · intro id hvisible
    obtain ⟨e, he⟩ := exists_entity_of_visible hvisible
    obtain ⟨d, hd, hid⟩ := Snapshot.exists_document hv hsnapshot he
    have hplay := playPause_of_visible hopen hvisible he
    rw [Player.playPause, hid] at hplay
    refine ⟨nextTrack_of_visible hopen hvisible, d, hd, ⟨_, ?_, hplay⟩, ?_⟩
    · split <;> simp
    · constructor
      · rintro ⟨service, hcall⟩
        rw [hplay] at hcall
        exact (call_eq_call (told_injective (congrArg Prod.fst hcall))).2
      · intro hstated
        exact ⟨_, hstated ▸ hplay⟩
  · intro hnone
    constructor
    · unfold playPause
      split
      · exact absurd ‹_› (hnone _)
      · rfl
    · unfold nextTrack
      split
      · exact absurd ‹_› (hnone _)
      · rfl

/-- A bar whose media player shows the entity `media_player.living`, told a state of the host. -/
def livingRoom (snapshot : Snapshot) : Bar where
  config := { routes := [], player := some { entity := some (.string "media_player.living") } }
  snapshot := snapshot

/-- The document of a host with one player, given the members of that. -/
def playerDocument (ms : Fields) : Json :=
  .object [("states", .object [("media_player.living", .object ms)])]

theorem wellFormed_playerDocument {ms : Fields} (h : (Json.object ms).WellFormed) :
    (playerDocument ms).WellFormed := by
  have hplayer : (Json.object [("media_player.living", .object ms)]).WellFormed :=
    .object _ (List.pairwise_singleton _ _) (List.forall_mem_singleton.mpr h)
  exact .object _ (List.pairwise_singleton _ _) (List.forall_mem_singleton.mpr hplayer)

/-- An entity that plays, and goes by the identifier of another one. -/
def misnamed : Fields :=
  [("entity_id", .string "media_player.den"), ("state", .string "playing")]

theorem wellFormed_misnamed : (Json.object misnamed).WellFormed := by
  have hkeys : "entity_id" < "state" := by decide +kernel
  exact .object _ (by simpa [Fields.Ascending, misnamed] using hkeys)
    (by simp [misnamed, Json.WellFormed.string])

/-- The entity that shows stands under one identifier and goes by another. -/
theorem controls_call_services_misnamed :
    ∃ s, Snapshot.decode .document (playerDocument misnamed) = .ok s ∧
      (livingRoom s).playerStatus = .visible "media_player.living" ∧
      (livingRoom s).nextTrack =
        ((livingRoom s).told (Player.call "media_next_track" "media_player.living"), .ok ()) ∧
      ∃ service ∈ ["media_play", "media_pause"], (livingRoom s).playPause =
        ((livingRoom s).told (Player.call service "media_player.den"), .ok ()) := by
  have hv := wellFormed_playerDocument wellFormed_misnamed
  obtain ⟨hvisible, -⟩ := controls_call_services (livingRoom _) _ hv rfl rfl
  obtain ⟨hnext, d, hd, hplay, -⟩ := hvisible "media_player.living" rfl
  obtain rfl := Option.some.inj hd
  exact ⟨_, rfl, rfl, hnext, hplay⟩

/-- The document of an entity need not state its identifier. Playing and pausing then acts on no
entity, while the next track is that of the entity that shows. -/
theorem pauses_unnamed :
    ∃ s, Snapshot.decode .document (playerDocument [("state", .string "playing")]) = .ok s ∧
      (livingRoom s).playerStatus = .visible "media_player.living" ∧
      (livingRoom s).nextTrack =
        ((livingRoom s).told (Player.call "media_next_track" "media_player.living"), .ok ()) ∧
      (livingRoom s).playPause = ((livingRoom s).told (Player.call "media_pause" ""), .ok ()) :=
  ⟨_, rfl, rfl, rfl, rfl⟩

end Bar

end NavigationBar
